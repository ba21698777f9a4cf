import TonelessPinyin.Pattern.Escape
import TonelessPinyin.Text.Blank
import TonelessPinyin.Vowel.Classes

/-!
Substitution: every vowel of a query becomes the pattern of its class, and blanks are allowed
between syllables.
-/
namespace TonelessPinyin.Query

open Text Pattern

/-- The pattern of any blanks. -/
def blanks : Text := ['\\', 's', '*']

/-- The pattern of a vowel, in capitals if the query writes it so. -/
def inCaseOf (surface fragment : Text) : Text := if isUpper surface then upper fragment else fragment

/-- The first vowel or other character of a text that does not begin with a blank: its pattern, and
how many characters it takes. -/
def leading (classes : VowelClasses) (c : Char) (t : Text) : Text × Nat :=
  match classes.longest? (c :: t) with
  | some key =>
    match classes.find key with
    | .ok fragment => (inCaseOf ((c :: t).take key.length) fragment, key.length)
    | .error _ => (escapeLetter c, 1)
  | none => (escapeLetter c, 1)

/-- The tokens of the rest of a text from `index` on, after the tokens `done`, latest first. A run
of blanks is one token. From the third character of a longer text on, every token has blanks
allowed before it. -/
def tokensFrom (classes : VowelClasses) (between : Text) (tolerant : Bool) :
    Nat → Nat → List Text → Text → List Text
  | 0, _, done, _ => done.reverse
  | _ + 1, _, done, [] => done.reverse
  | count + 1, index, done, c :: t =>
    if isBlank c then
      let done := if done.head? = some between then done else between :: done
      tokensFrom classes between tolerant count (index + 1) done t
    else
      let spaced := tolerant && 2 ≤ index && done.head?.any (· != between)
      let (fragment, width) := leading classes c t
      let done := fragment :: (if spaced then between :: done else done)
      tokensFrom classes between tolerant count (index + width) done ((c :: t).drop width)

def tokens (classes : VowelClasses) (between : Text) (t : Text) : List Text :=
  tokensFrom classes between (1 < t.length) t.length 0 [] t

def substitute (classes : VowelClasses) (between : Text) (t : Text) : Text :=
  (tokens classes between t).flatten

end TonelessPinyin.Query
