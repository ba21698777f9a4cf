import TonelessPinyin.Syllable.Key

/-!
Syllable tables: a toned syllable for every plain key. Of several syllables with one key the table
keeps the first.
-/
namespace TonelessPinyin

open Text Syllable

structure SyllableTable where
  /-- Toned syllables by normalised key. -/
  entries : Entries Text
  deriving DecidableEq

/-- A syllable that was left out because its key was taken. -/
structure Collision where
  plain : Text
  kept : Text
  skipped : Text
  deriving DecidableEq

namespace SyllableTable

def ofEntries (entries : Entries Text) : SyllableTable := ⟨entries.mapKeys normalizeKey⟩

def size (t : SyllableTable) : Nat := t.entries.length

def get? (t : SyllableTable) (key : Text) : Option Text := t.entries.get? (normalizeKey key)

def contains (t : SyllableTable) (key : Text) : Bool := (t.get? key).isSome

def find (t : SyllableTable) (key : Text) : Except Error Text :=
  match t.get? key with
  | some toned => .ok toned
  | none => .error (.missingKey (normalizeKey key))

def maxKeyLength (t : SyllableTable) : Nat := t.entries.foldl (fun n p => max n p.1.length) 0

def summary (t : SyllableTable) : String := s!"SyllableTable({t.size} syllables)"

/-- A table in the making, and what it has left out, latest first. -/
structure Draft where
  entries : Entries Text
  collisions : List Collision
  deriving DecidableEq

namespace Draft

def add (d : Draft) (s : Derived) : Draft :=
  match d.entries.get? s.plain with
  | none => { d with entries := d.entries.put s.plain s.toned }
  | some kept =>
    if kept = s.toned then d
    else { d with collisions := ⟨s.plain, kept, s.toned⟩ :: d.collisions }

/-- Adds syllables up to the first that cannot be added. -/
def addAll (marking : Marking) (model : ToneModel) : List Text → Draft → Draft × Option Error
  | [], d => (d, none)
  | s :: rest, d =>
    match derive marking model s with
    | .ok derived => addAll marking model rest (d.add derived)
    | .error e => (d, some e)

end Draft

def draft (marking : Marking) (model : ToneModel) (syllables : List Text) : Draft × Option Error :=
  Draft.addAll marking model syllables ⟨[], []⟩

def build (marking : Marking) (model : ToneModel) (syllables : List Text) :
    Except Error SyllableTable :=
  match draft marking model syllables with
  | (d, none) => .ok (.ofEntries d.entries)
  | (_, some e) => .error e

end SyllableTable

end TonelessPinyin
