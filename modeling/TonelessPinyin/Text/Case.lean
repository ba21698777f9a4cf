import TonelessPinyin.Text.Case.Tables

/-!
Letter case. `Text.lower` and `Text.upper` are the full mappings of Unicode: capital I with a dot
becomes two characters, a capital sigma that ends a word becomes a final one, and a few letters
have a capital form of several characters.
-/
namespace TonelessPinyin.Text

open Case

/-- The one-character lower case of a character. -/
def lowerLetter (c : Char) : Char :=
  match CaseRun.image? lowerRuns c.toNat with
  | some n => Char.ofNat n
  | none => c

def isCapital (c : Char) : Bool := CodeRun.covered capitalRuns c.toNat

def isSmall (c : Char) : Bool := CodeRun.covered smallRuns c.toNat

def isTitle (c : Char) : Bool := CodeRun.covered titleRuns c.toNat

def isCased (c : Char) : Bool := CodeRun.covered casedRuns c.toNat

def isIgnorable (c : Char) : Bool := CodeRun.covered ignorableRuns c.toNat

/-- The next character that counts for letter case is a cased one. -/
def touchesCased (t : Text) : Bool :=
  match t.dropWhile isIgnorable with
  | c :: _ => isCased c
  | [] => false

/-- The lower case of one character between the text before it, last character first, and the
text after it. -/
def lowerBetween (before : Text) (c : Char) (after : Text) : Text :=
  if c = 'İ' then ['i', '\u0307']
  else if c = 'Σ' then [if touchesCased before && !touchesCased after then 'ς' else 'σ']
  else [lowerLetter c]

def lowerAfter (before : Text) : Text → Text
  | [] => []
  | c :: after => lowerBetween before c after ++ lowerAfter (c :: before) after

def lower (t : Text) : Text := lowerAfter [] t

def upperLetter (c : Char) : Text :=
  match capitalExpansions.lookup c with
  | some t => t
  | none =>
    match CaseRun.image? upperRuns c.toNat with
    | some n => [Char.ofNat n]
    | none => [c]

def upper (t : Text) : Text := t.flatMap upperLetter

/-- At least one capital letter, and no small or title-case one. -/
def isUpper (t : Text) : Bool :=
  t.all (fun c => !isSmall c && !isTitle c) && t.any isCapital

end TonelessPinyin.Text
