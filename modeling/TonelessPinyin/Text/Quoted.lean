import TonelessPinyin.Text.Quoted.Tables

/-!
The quoted form of a text: quotes around it, and a printed form for every character in it.
-/
namespace TonelessPinyin.Text

open Quoted

/-- The last `width` hexadecimal digits of a number. -/
def hex : Nat → Nat → Text
  | 0, _ => []
  | width + 1, n => hex width (n / 16) ++ [Nat.digitChar (n % 16)]

def isPrintable (c : Char) : Bool := !CodeRun.covered unprintableRuns c.toNat

/-- The shortest of the three hexadecimal forms that holds the code point. -/
def codeForm (n : Nat) : Text :=
  if n < 0x100 then '\\' :: 'x' :: hex 2 n
  else if n < 0x10000 then '\\' :: 'u' :: hex 4 n
  else '\\' :: 'U' :: hex 8 n

def quotedLetter (quote c : Char) : Text :=
  if c = quote ∨ c = '\\' then ['\\', c]
  else if c = '\n' then ['\\', 'n']
  else if c = '\r' then ['\\', 'r']
  else if c = '\t' then ['\\', 't']
  else if isPrintable c then [c]
  else codeForm c.toNat

/-- Single quotes, unless the text has one of them and no double quote. -/
def quoteFor (t : Text) : Char :=
  if '\x27' ∈ t ∧ '\x22' ∉ t then '\x22' else '\x27'

def quoted (t : Text) : Text :=
  quoteFor t :: t.flatMap (quotedLetter (quoteFor t)) ++ [quoteFor t]

def quotedString (t : Text) : String := (quoted t).asString

end TonelessPinyin.Text
