import TonelessPinyin.Text.Basic

/-!
Escaped text: the pattern that matches exactly a given text.
-/
namespace TonelessPinyin.Pattern

/-- The characters that mean something in a pattern or in its layout. -/
def specials : List Char :=
  ['(', ')', '[', ']', '{', '}', '?', '*', '+', '-', '|', '^', '$', '\\', '.', '&', '~', '#',
    ' ', '\t', '\n', '\r', '\x0b', '\x0c']

def escapeLetter (c : Char) : Text := if c ∈ specials then ['\\', c] else [c]

def escape (t : Text) : Text := t.flatMap escapeLetter

theorem escape_append (a b : Text) : escape (a ++ b) = escape a ++ escape b := by
  simp [escape]

end TonelessPinyin.Pattern
