import TonelessPinyin.Text.Runs

/-!
Blank characters: spaces, line ends, and the separators of Unicode 14.
-/
namespace TonelessPinyin.Text

def blankRuns : List CodeRun := [
  ⟨0x9, 0xD, 1⟩, ⟨0x1C, 0x20, 1⟩, ⟨0x85, 0x85, 1⟩, ⟨0xA0, 0xA0, 1⟩, ⟨0x1680, 0x1680, 1⟩,
  ⟨0x2000, 0x200A, 1⟩, ⟨0x2028, 0x2029, 1⟩, ⟨0x202F, 0x202F, 1⟩, ⟨0x205F, 0x205F, 1⟩,
  ⟨0x3000, 0x3000, 1⟩]

def isBlank (c : Char) : Bool := CodeRun.covered blankRuns c.toNat

/-- The blanks of ASCII: the space, and the tab and the line ends up to the carriage return. -/
def isAsciiBlank (c : Char) : Bool := c = ' ' || (0x9 ≤ c.toNat && c.toNat ≤ 0xD)

def trimStart (t : Text) : Text := t.dropWhile isBlank

/-- The text without the blanks at its two ends. -/
def trim (t : Text) : Text := (trimStart (trimStart t).reverse).reverse

end TonelessPinyin.Text
