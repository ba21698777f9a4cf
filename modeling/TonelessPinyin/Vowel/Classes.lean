import TonelessPinyin.Error
import TonelessPinyin.Text.Case
import TonelessPinyin.Text.Quoted
import TonelessPinyin.Tone.Marking

/-!
Vowel classes: the pattern that stands for a vowel of a query.
-/
namespace TonelessPinyin

open Text

structure VowelClasses where
  name : Text
  /-- Patterns by vowel, in lower case. -/
  classes : Entries Text
  deriving DecidableEq

namespace VowelClasses

def ofEntries (name : Text) (entries : Entries Text) : VowelClasses :=
  ⟨name, entries.mapKeys lower⟩

def size (v : VowelClasses) : Nat := v.classes.length

def find (v : VowelClasses) (vowel : Text) : Except Error Text :=
  match v.classes.get? (lower vowel) with
  | some fragment => .ok fragment
  | none => .error (.missingKey (lower vowel))

/-- The text begins with the vowel, in either case. -/
def beginsWith (key t : Text) : Bool :=
  (t.take key.length).length == key.length && lower (t.take key.length) == key

/-- The longest vowel that the text begins with. -/
def longest? (v : VowelClasses) (t : Text) : Option Text :=
  (sortLongest v.classes.keys).find? (beginsWith · t)

/-- A position in a text; a negative one counts from the end. -/
def position (t : Text) (n : Int) : Nat := (if n < 0 then t.length + n else n).toNat

/-- The longest vowel that stands at a position. -/
def longestAt? (v : VowelClasses) (t : Text) (n : Int) : Option Text :=
  (sortLongest v.classes.keys).find? fun key =>
    beginsWith key (t.slice (position t n) (position t (n + key.length)))

def summary (v : VowelClasses) : String :=
  "VowelClassTable(" ++ quotedString v.name ++ s!", {v.size} keys)"

def set (letters : Text) : Text := '[' :: letters ++ [']']

/-- A toned letter must be written. The vowels u and ü share their class. -/
def exact : VowelClasses where
  name := ['e', 'x', 'a', 'c', 't']
  classes := [
    (['a'], set ['ā', 'á', 'ǎ', 'à']),
    (['e'], set ['ē', 'é', 'ě', 'è']),
    (['i'], set ['ī', 'í', 'ǐ', 'ì']),
    (['o'], set ['ō', 'ó', 'ǒ', 'ò']),
    (['u'], set ['ū', 'ú', 'ǔ', 'ù', 'ǖ', 'ǘ', 'ǚ', 'ǜ']),
    (['v'], set ['ū', 'ú', 'ǔ', 'ù', 'ǖ', 'ǘ', 'ǚ', 'ǜ']),
    (['u', 'e'], set ['u', 'ü'] ++ set ['ē', 'é', 'ě', 'è']),
    (['v', 'e'], set ['u', 'ü'] ++ set ['ē', 'é', 'ě', 'è'])]

/-- The tone may be left out. -/
def relaxed : VowelClasses where
  name := ['r', 'e', 'l', 'a', 'x', 'e', 'd']
  classes := [
    (['a'], set ['a', 'ā', 'á', 'ǎ', 'à']),
    (['e'], set ['e', 'ē', 'é', 'ě', 'è']),
    (['i'], set ['i', 'ī', 'í', 'ǐ', 'ì']),
    (['o'], set ['o', 'ō', 'ó', 'ǒ', 'ò']),
    (['u'], set ['u', 'ü', 'ū', 'ú', 'ǔ', 'ù', 'ǖ', 'ǘ', 'ǚ', 'ǜ']),
    (['v'], set ['u', 'ü', 'ū', 'ú', 'ǔ', 'ù', 'ǖ', 'ǘ', 'ǚ', 'ǜ']),
    (['u', 'e'], set ['u', 'ü'] ++ set ['e', 'ē', 'é', 'ě', 'è']),
    (['v', 'e'], set ['u', 'ü'] ++ set ['e', 'ē', 'é', 'ě', 'è'])]

end VowelClasses

end TonelessPinyin
