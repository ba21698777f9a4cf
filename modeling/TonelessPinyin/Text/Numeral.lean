import TonelessPinyin.Text.Blank
import TonelessPinyin.Text.Word

/-!
Whole numbers in decimal digits of any script. Blanks may surround a number, a sign may stand
before it, and single underscores may separate its digits.
-/
namespace TonelessPinyin.Text

/-- A run of decimal digits holds them from zero to nine, once or several times over. -/
def decimalValue (c : Char) : Nat :=
  match Word.decimalRuns.find? (·.contains c.toNat) with
  | some r => (c.toNat - r.first) % 10
  | none => 0

def isNumberBlank (c : Char) : Bool := isAsciiBlank c || (127 ≤ c.toNat && isBlank c)

/-- The text without the blanks around a number. -/
def trimNumber (t : Text) : Text :=
  ((t.dropWhile isNumberBlank).reverse.dropWhile isNumberBlank).reverse

/-- The number that the digits make, if there is one digit or more between all underscores. -/
def unsigned? (t : Text) : Option Nat :=
  let groups := separatedBy '_' t
  if groups.all fun g => !g.isEmpty && g.all isDecimal then
    some (groups.flatten.foldl (fun n c => n * 10 + decimalValue c) 0)
  else none

/-- The number that a text is; a minus sign may stand before zero alone. -/
def natural? (t : Text) : Option Nat :=
  match trimNumber t with
  | '+' :: digits => unsigned? digits
  | '-' :: digits => (unsigned? digits).filter (· == 0)
  | digits => unsigned? digits

end TonelessPinyin.Text
