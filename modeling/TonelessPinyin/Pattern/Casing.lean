import TonelessPinyin.Text.Fold

/-!
How characters are compared: as they stand, or without regard to case, either that of the ASCII
letters alone or that of all letters.
-/
namespace TonelessPinyin.Pattern

open Text

inductive Casing
  | exact
  | ascii
  | unicode
  deriving DecidableEq

namespace Casing

def lower : Casing → Char → Char
  | exact, c => c
  | ascii, c => c.toLower
  | unicode, c => lowerLetter c

def agrees : Casing → Char → Char → Bool
  | exact, c, d => c == d
  | ascii, c, d => c.toLower == d.toLower
  | unicode, c, d => Text.agrees c d

/-- The code points of the characters that agree with `c`. -/
def variants : Casing → Char → List Nat
  | exact, c => [c.toNat]
  | ascii, c => [c.toLower.toNat, c.toUpper.toNat]
  | unicode, c => Text.variants c

theorem agrees_refl (casing : Casing) (c : Char) : casing.agrees c c = true := by
  cases casing <;> simp [agrees, Text.agrees]

theorem agrees_comm (casing : Casing) (c d : Char) : casing.agrees c d = casing.agrees d c := by
  cases casing <;> exact Bool.beq_comm

end Casing

end TonelessPinyin.Pattern
