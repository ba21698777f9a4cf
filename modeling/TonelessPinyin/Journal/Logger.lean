import TonelessPinyin.Entries
import TonelessPinyin.Journal.Record

/-!
Loggers. Those that have been asked for form a tree by their dotted names. A logger without a level
takes that of the nearest logger above it that has one. Whether a logger lets a level pass is
remembered until some level is set, even if the logger has meanwhile come under another one.
-/
namespace TonelessPinyin

/-- Where the records go that pass. -/
inductive Output
  | captured
  | elsewhere
  deriving DecidableEq

structure Loggers where
  /-- The loggers that have been asked for, by their full names. -/
  known : List Text
  levels : Entries Level
  output : Option Output
  /-- What has been decided since a level was last set. -/
  decisions : List ((Text × Level) × Bool)
  deriving DecidableEq

namespace Loggers

def rootName : Text := "phonosearch".toList

def timingName : Text := "phonosearch.timing".toList

def silent : Loggers := ⟨[rootName], [], none, []⟩

/-- The full name of a logger. -/
def fullName (name : Text) : Text :=
  if name.isEmpty ∨ name = rootName then rootName
  else if (rootName ++ ['.']).isPrefixOf name then name
  else rootName ++ '.' :: name

/-- Asks for a logger. -/
def know (l : Loggers) (name : Text) : Loggers :=
  if l.known.contains name then l else { l with known := name :: l.known }

/-! ## The tree -/

/-- The position of the last dot among the first characters. -/
def lastDot? (name : Text) : Nat → Option Nat
  | 0 => none
  | n + 1 => if name[n]? = some '.' then some n else lastDot? name n

/-- The names that may stand above a name, longest first, among its first `stop` characters. Of two
dots in a row only the second one ends such a name. -/
def above (name : Text) : Nat → Nat → List Text
  | 0, _ => []
  | count + 1, stop =>
    match lastDot? name stop with
    | none => []
    | some 0 => []
    | some n => name.take n :: above name count (n - 1)

/-- The logger directly above another one: the longest name above it that is known. -/
def parent? (l : Loggers) (name : Text) : Option Text :=
  (above name name.length name.length).find? l.known.contains

/-- A logger and those above it; every one has a shorter name than the one before. -/
def lineageWithin (l : Loggers) : Nat → Text → List Text
  | 0, _ => []
  | count + 1, name =>
    name :: match l.parent? name with
      | some parent => lineageWithin l count parent
      | none => []

def lineage (l : Loggers) (name : Text) : List Text := l.lineageWithin (name.length + 1) name

/-! ## Levels -/

def level? (l : Loggers) (name : Text) : Option Level := l.levels.get? name

/-- Warnings pass where nothing is said. -/
def effectiveLevel (l : Loggers) (name : Text) : Level :=
  ((l.lineage name).findSome? l.level?).getD .warning

def setLevel (l : Loggers) (name : Text) (level : Level) : Loggers :=
  { l.know name with levels := l.levels.put name level, decisions := [] }

/-- Sets the level of the root, and an output if there is none yet. -/
def setUp (l : Loggers) (level : Level) (output : Output) : Loggers :=
  let l := l.setLevel rootName level
  { l with output := l.output.or (some output) }

/-- Time records pass, of the others those from `info` on. -/
def showTimes (l : Loggers) : Loggers := (l.setUp .info .elsewhere).setLevel timingName .debug

/-! ## Records -/

/-- Whether a record is urgent enough for its logger, as was first decided. -/
def decision (l : Loggers) (r : Record) : Bool :=
  (l.decisions.lookup (r.logger, r.level)).getD
    ((l.effectiveLevel r.logger).rank ≤ r.level.rank)

/-- The outputs are at the root: a record that passes comes there from the loggers below it. -/
def reachesOutput (l : Loggers) (r : Record) : Bool :=
  l.decision r && (l.lineage r.logger).contains rootName

/-- The loggers after a record. -/
def after (l : Loggers) (r : Record) : Loggers :=
  { l with decisions := ((r.logger, r.level), l.decision r) :: l.decisions }

/-- The line of a record in the captured output. -/
def line (r : Record) : Text :=
  r.level.name.toList ++ '|' :: r.logger ++ '|' :: r.message ++ ['\n']

def captured (l : Loggers) (r : Record) : Text :=
  if l.reachesOutput r && l.output == some .captured then line r else []

end Loggers

end TonelessPinyin
