import TonelessPinyin.Text.Word.Tables

/-!
Letters, word characters, decimal digits and identifiers.
-/
namespace TonelessPinyin.Text

open Word

def isWord (c : Char) : Bool := c = '_' || CodeRun.covered alphanumericRuns c.toNat

/-- A character of words that is no number. -/
def isLetter (c : Char) : Bool :=
  CodeRun.covered alphanumericRuns c.toNat && !CodeRun.covered numberRuns c.toNat

def isDecimal (c : Char) : Bool := CodeRun.covered decimalRuns c.toNat

def isIdentifierStart (c : Char) : Bool := CodeRun.covered identifierStartRuns c.toNat

def isIdentifier : Text → Bool
  | [] => false
  | c :: t => isIdentifierStart c && t.all fun d => CodeRun.covered identifierRuns d.toNat

end TonelessPinyin.Text
