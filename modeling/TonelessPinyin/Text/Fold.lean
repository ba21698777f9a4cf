import TonelessPinyin.Text.Case

/-!
Comparison of single characters that disregards case: two characters agree when their one-character
lower cases are equal or are shapes of one letter.
-/
namespace TonelessPinyin.Text

/-- Small letters that are the same letter in different shapes: they share an upper case. -/
def letterShapes : List (List Nat) := [
  [0x69, 0x131], [0x73, 0x17F], [0xB5, 0x3BC], [0x345, 0x3B9, 0x1FBE],
  [0x390, 0x1FD3], [0x3B0, 0x1FE3], [0x3B2, 0x3D0], [0x3B5, 0x3F5],
  [0x3B8, 0x3D1], [0x3BA, 0x3F0], [0x3C0, 0x3D6], [0x3C1, 0x3F1],
  [0x3C2, 0x3C3], [0x3C6, 0x3D5], [0x432, 0x1C80], [0x434, 0x1C81],
  [0x43E, 0x1C82], [0x441, 0x1C83], [0x442, 0x1C84, 0x1C85], [0x44A, 0x1C86],
  [0x463, 0x1C87], [0x1C88, 0xA64B], [0x1E61, 0x1E9B], [0xFB05, 0xFB06]]

/-- The group of a code point among groups that ascend by their least members. -/
def groupAmong : List (List Nat) → Nat → List Nat
  | [], n => [n]
  | group :: rest, n =>
    if n < group.headD n then [n] else if group.contains n then group else groupAmong rest n

/-- All shapes of a small letter. -/
def shapesOf (n : Nat) : List Nat := groupAmong letterShapes n

/-- The letter that stands for all characters that agree with `c`. -/
def fold (c : Char) : Nat :=
  let n := (lowerLetter c).toNat
  (shapesOf n).headD n

def agrees (a b : Char) : Bool := fold a == fold b

/-- The code points that agree with `c`. -/
def variants (c : Char) : List Nat :=
  (shapesOf (lowerLetter c).toNat).flatMap fun n =>
    n :: Case.lowerRuns.filterMap (·.preimage? n)

end TonelessPinyin.Text
