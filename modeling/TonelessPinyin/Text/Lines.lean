import TonelessPinyin.Text.Basic

/-!
Lines of a text. A carriage return directly before a line feed makes one line end with it.
-/
namespace TonelessPinyin.Text

def lineEnds : List Char :=
  ['\n', '\r', '\x0b', '\x0c', '\x1c', '\x1d', '\x1e', '\u0085', '\u2028', '\u2029']

def isLineEnd (c : Char) : Bool := lineEnds.contains c

/-- The lines after `line`, which holds the characters of the current line, last first. No line
follows the last line end. -/
def linesAfter (line : Text) : Text → List Text
  | [] => if line.isEmpty then [] else [line.reverse]
  | '\r' :: '\n' :: t => line.reverse :: linesAfter [] t
  | c :: t => if isLineEnd c then line.reverse :: linesAfter [] t else linesAfter (c :: line) t

def lines (t : Text) : List Text := linesAfter [] t

/-- Every line end that has a carriage return becomes a line feed. -/
def unifyLineEnds : Text → Text
  | [] => []
  | '\r' :: '\n' :: t => '\n' :: unifyLineEnds t
  | c :: t => (if c = '\r' then '\n' else c) :: unifyLineEnds t

end TonelessPinyin.Text
