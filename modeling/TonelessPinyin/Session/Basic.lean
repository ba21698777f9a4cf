import TonelessPinyin.Searcher
import TonelessPinyin.Session.Event

/-!
Incremental search sessions. Every change of the query is compiled anew and searched for from the
point at which the session began. A session that has been closed refuses every command. What the
listener does with an event changes nothing in the session.
-/
namespace TonelessPinyin

open Pattern

structure Session where
  id : Text
  direction : Direction
  strategy : Strategy
  /-- The point at which the session began. -/
  origin : Nat
  query : Text
  pattern : Text
  closed : Bool
  lastMatch : Option Nat
  deriving DecidableEq

inductive Command
  | update (query : Text)
  | again (direction : Option Direction)
  | toggle
  | finish
  | abort
  deriving DecidableEq

/-- What happens in the course of a command, in order. -/
inductive Notice
  | switched (strategy : Strategy)
  | compiled (query : Text) (strategy : Strategy)
  | searchFailed (pattern : Text)
  | event (e : Event)
  /-- The listener has not dealt with the last event. -/
  | listenerFailed
  deriving DecidableEq

/-- A session, the searcher it uses, its listener, and what has happened since the command
began. -/
structure Stage where
  session : Session
  searcher : Searcher
  listener : Option Listener
  notices : List Notice

/-- The pattern of a query under a strategy. -/
abbrev CompileQuery := Text → Strategy → Except Error Text

namespace Session

/-- A session that begins at the searcher's point. -/
def start (id : Text) (direction : Direction) (strategy : Strategy) (s : Searcher) : Session :=
  ⟨id, direction, strategy, s.point, [], [], false, none⟩

end Session

namespace Stage

abbrev Result := Except Error (Option Nat) × Stage

def note (g : Stage) (n : Notice) : Stage := { g with notices := g.notices ++ [n] }

def emit (g : Stage) (e : Event) : Stage :=
  match g.listener with
  | none => g
  | some deals => if deals e then g.note (.event e) else (g.note (.event e)).note .listenerFailed

def setPoint (g : Stage) (n : Int) : Stage := { g with searcher := g.searcher.setPoint n }

/-- No match, which is an event but no error. -/
def miss (g : Stage) (e : Event) : Result :=
  (.ok none, { g with session := { g.session with lastMatch := none } }.emit e)

/-- Searches for the session's pattern from the searcher's point. -/
def search (g : Stage) : Result :=
  let pattern := g.session.pattern
  let direction := g.session.direction
  match g.searcher.search direction (.next pattern) with
  | (.error (.invalidPattern p flaw), s) =>
    { g with searcher := s }.miss (.invalidPattern p flaw)
  | (.error e, s) => (.error e, { g with searcher := s })
  | (.ok none, s) =>
    ({ g with searcher := s }.note (.searchFailed pattern)).miss (.failed pattern direction)
  | (.ok (some n), s) =>
    (.ok (some n),
      { g with searcher := s, session := { g.session with lastMatch := some n } }.emit
        (.found pattern direction n s.matched))

/-- Compiles the session's query and searches for it. -/
def compileAndSearch (compile : CompileQuery) (g : Stage) : Result :=
  let query := g.session.query
  let strategy := g.session.strategy
  match compile query strategy with
  | .error e => (.error e, g)
  | .ok pattern =>
    (({ g with session := { g.session with pattern } }.note (.compiled query strategy)).emit
      (.compiled query pattern strategy)).search

/-- A new query, searched for from the origin. An empty query only forgets the last one. -/
def update (compile : CompileQuery) (g : Stage) (query : Text) : Result :=
  let g := { g with session := { g.session with query } }.setPoint g.session.origin
  if query.isEmpty then
    (.ok none, { g with session := { g.session with pattern := [], lastMatch := none } })
  else g.compileAndSearch compile

/-- The last match was empty and the searcher is still there. -/
def isAtEmptyMatch (g : Stage) : Bool :=
  g.session.lastMatch.isSome &&
    g.searcher.matched == some ⟨g.searcher.point, g.searcher.point⟩

/-- Searches from the next position, but goes back if there is nothing. -/
def stepPast (g : Stage) : Result :=
  let here := g.searcher.point
  let onward := g.setPoint (here + 1)
  if onward.searcher.point = here then
    onward.miss (.failed g.session.pattern g.session.direction)
  else
    match onward.search with
    | (.ok none, g) => (.ok none, g.setPoint here)
    | result => result

/-- Searches on from the point. -/
def again (g : Stage) (direction : Option Direction) : Result :=
  let g := { g with
    session := { g.session with direction := direction.getD g.session.direction } }
  if g.session.pattern.isEmpty then (.ok none, g)
  else if g.session.direction = .forward && g.isAtEmptyMatch then g.stepPast
  else g.search

def toggle (compile : CompileQuery) (g : Stage) : Result :=
  let strategy := g.session.strategy.other
  ({ g with session := { g.session with strategy } }.note (.switched strategy)).update compile
    g.session.query

def close (g : Stage) (aborted : Bool) : Result :=
  let point := g.searcher.point
  (.ok (some point),
    { g with session := { g.session with closed := true } }.emit (.closed aborted point))

def run (compile : CompileQuery) (g : Stage) : Command → Result
  | .update query => g.update compile query
  | .again direction => g.again direction
  | .toggle => g.toggle compile
  | .finish => g.close false
  | .abort => (g.setPoint g.session.origin).close true

/-- Runs a command on a session that is open. -/
def step (compile : CompileQuery) (g : Stage) (c : Command) : Result :=
  if g.session.closed then (.error (.closedSession g.session.id), g) else g.run compile c

end Stage

end TonelessPinyin
