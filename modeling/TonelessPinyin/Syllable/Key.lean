import TonelessPinyin.Tone.Model

/-!
The plain key of a toned syllable: lower case, the first tone cluster replaced by its plain vowel,
and every v and ü written as u.
-/
namespace TonelessPinyin.Syllable

open Text

def foldLetter (c : Char) : Char := if c = 'v' ∨ c = 'ü' then 'u' else c

def normalizeKey (t : Text) : Text := (lower t).map foldLetter

structure Derived where
  plain : Text
  toned : Text
  deriving DecidableEq

/-- The plain key of a syllable, and the syllable in lower case. -/
def derive (marking : Marking) (model : ToneModel) (syllable : Text) : Except Error Derived :=
  let toned := lower syllable
  match model.search toned with
  | none => .error (.untonedSyllable toned)
  | some s => do
    let cluster ← model.find (s.of toned)
    let plain := toned.take s.start ++ marking.plainBase cluster.base ++ toned.drop s.stop
    return ⟨normalizeKey plain, toned⟩

end TonelessPinyin.Syllable
