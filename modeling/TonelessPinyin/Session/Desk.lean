import TonelessPinyin.Engine
import TonelessPinyin.Session.Basic

/-!
Several sessions over one searcher, which can also be used directly, and the sessions that an engine
opens over a text.
-/
namespace TonelessPinyin

structure Desk where
  searcher : Searcher
  sessions : List Session
  listener : Option Listener

inductive Desk.Action
  | command (session : Nat) (c : Command)
  | start (id : Text) (direction : Direction) (strategy : Strategy)
  | setPoint (n : Int)
  | setText (t : Text)
  | search (d : Direction) (a : SearchArgs)
  deriving DecidableEq

namespace Desk

structure Outcome where
  value : Except Error (Option Nat)
  notices : List Notice
  desk : Desk

def new (searcher : Searcher) (listener : Option Listener) : Desk := ⟨searcher, [], listener⟩

/-- A further session. -/
def startSession (d : Desk) (id : Text) (direction : Direction) (strategy : Strategy) : Desk :=
  { d with sessions := d.sessions ++ [.start id direction strategy d.searcher] }

/-- A command to a session that there is not does nothing. -/
def command (compile : CompileQuery) (d : Desk) (i : Nat) (c : Command) : Outcome :=
  match d.sessions[i]? with
  | none => ⟨.ok none, [], d⟩
  | some session =>
    match Stage.step compile ⟨session, d.searcher, d.listener, []⟩ c with
    | (value, g) =>
      ⟨value, g.notices, { d with searcher := g.searcher, sessions := d.sessions.set i g.session }⟩

/-- The notices of a direct search. -/
def searchNotices (a : SearchArgs) : Except Error (Option Nat) → List Notice
  | .ok none => [.searchFailed a.pattern]
  | _ => []

def act (compile : CompileQuery) (d : Desk) : Action → Outcome
  | .command i c => d.command compile i c
  | .start id direction strategy =>
    ⟨.ok (some d.sessions.length), [], d.startSession id direction strategy⟩
  | .setPoint n =>
    let searcher := d.searcher.setPoint n
    ⟨.ok (some searcher.point), [], { d with searcher }⟩
  | .setText t =>
    let searcher := d.searcher.setText t
    ⟨.ok (some searcher.point), [], { d with searcher }⟩
  | .search direction a =>
    match d.searcher.search direction a with
    | (value, searcher) => ⟨value, searchNotices a value, { d with searcher }⟩

end Desk

namespace Engine

/-- How the engine compiles the queries of its sessions. -/
def compileQuery (e : Engine) : CompileQuery := fun query strategy =>
  e.compile query (some strategy)

/-- A session at a point of a text. Without a strategy it has the default one of the engine. -/
def openSession (e : Engine) (listener : Option Listener) (id t : Text) (point : Int)
    (direction : Direction) (strategy : Option Strategy) : Desk :=
  (Desk.new (.new t point e.settings.caseless) listener).startSession id direction
    (strategy.getD e.settings.defaultStrategy)

end Engine

end TonelessPinyin
