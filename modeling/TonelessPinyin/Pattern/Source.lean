import TonelessPinyin.Pattern.Fault
import TonelessPinyin.Text.Word

/-!
The text of a pattern while it is read, token by token. A token is a character, or a backslash
together with the character after it. A backslash at the very end is refused as soon as it would be
the next token.
-/
namespace TonelessPinyin.Pattern

abbrev Reading := Except Rejection

def refuse {α : Type} (fault : Fault) (position : Nat) : Reading α :=
  .error (.flawed ⟨fault, some position⟩)

inductive Token
  | plain (c : Char)
  | escaped (c : Char)
  deriving DecidableEq

namespace Token

def spelling : Token → Text
  | plain c => [c]
  | escaped c => ['\\', c]

end Token

/-- The characters left to read, and the number of those before them. -/
structure Source where
  pos : Nat
  rest : Text
  deriving DecidableEq

namespace Source

def next? (s : Source) : Option Token :=
  match s.rest with
  | [] => none
  | '\\' :: c :: _ => some (.escaped c)
  | c :: _ => some (.plain c)

def isNext (s : Source) (c : Char) : Bool := s.next? == some (.plain c)

def checked (s : Source) : Reading Source :=
  if s.rest = ['\\'] then refuse .trailingBackslash s.pos else .ok s

def ofText (t : Text) : Reading Source := checked ⟨0, t⟩

/-- The place after the next token. -/
def skip (s : Source) : Reading Source :=
  match s.rest with
  | [] => .ok s
  | '\\' :: _ :: rest => checked ⟨s.pos + 2, rest⟩
  | _ :: rest => checked ⟨s.pos + 1, rest⟩

/-- Skips the character if it is next. -/
def accept (s : Source) (c : Char) : Reading (Option Source) :=
  if s.isNext c then some <$> s.skip else .ok none

/-- At most `count` plain characters that satisfy `p`. -/
def takeUpTo (p : Char → Bool) : Nat → Source → Reading (Text × Source)
  | 0, s => .ok ([], s)
  | count + 1, s =>
    match s.next? with
    | some (.plain c) =>
      if p c then do
        let (t, s) ← takeUpTo p count (← s.skip)
        return (c :: t, s)
      else .ok ([], s)
    | _ => .ok ([], s)

/-- The text up to the closer, which is skipped, after `name`. `missing` is the fault of an empty
one, `count` bounds the number of tokens. -/
def upToCloser (missing : Fault) (closer : Char) : Nat → Text → Source → Reading (Text × Source)
  | 0, _, s => refuse missing s.pos
  | count + 1, name, s =>
    match s.next? with
    | none =>
      if name.isEmpty then refuse missing s.pos
      else refuse (.unclosedName closer) (s.pos - name.length)
    | some t => do
      let after ← s.skip
      if t = .plain closer then
        if name.isEmpty then refuse missing (after.pos - 1) else return (name, after)
      else upToCloser missing closer count (name ++ t.spelling) after

def nameBefore (s : Source) (missing : Fault) (closer : Char) : Reading (Text × Source) :=
  upToCloser missing closer (s.rest.length + 1) [] s

/-- The name of a group with the closer after it. -/
def groupName (s : Source) (closer : Char) : Reading (Text × Source) := do
  let (name, after) ← s.nameBefore .missingName closer
  if Text.isIdentifier name then return (name, after)
  else refuse (.badName name) (after.pos - (name.length + 1))

end Source

end TonelessPinyin.Pattern
