import TonelessPinyin.Pattern.Modes
import TonelessPinyin.Pattern.Syntax

/-!
Escapes that stand for characters, and bracketed sets.
-/
namespace TonelessPinyin.Pattern

def digitValue (c : Char) : Nat :=
  if c.isDigit then c.toNat - 48
  else if 'a' ≤ c then c.toNat - 87
  else c.toNat - 55

def numeral (base : Nat) (digits : Text) : Nat :=
  digits.foldl (fun n c => n * base + digitValue c) 0

def isHexDigit (c : Char) : Bool := c.isDigit || ('a' ≤ c && c ≤ 'f') || ('A' ≤ c && c ≤ 'F')

def isOctalDigit (c : Char) : Bool := '0' ≤ c && c ≤ '7'

/-- The code point of an escape by name. -/
def controlCode? : Char → Option Nat
  | 'a' => some 0x07
  | 'f' => some 0x0C
  | 'n' => some 0x0A
  | 'r' => some 0x0D
  | 't' => some 0x09
  | 'v' => some 0x0B
  | '\\' => some 0x5C
  | _ => none

/-- The number of hexadecimal digits after an escape by code point. -/
def hexDigits? : Char → Option Nat
  | 'x' => some 2
  | 'u' => some 4
  | 'U' => some 8
  | _ => none

def category? (ascii : Bool) : Char → Option SetItem
  | 'd' => some (.category ascii false .digit)
  | 'D' => some (.category ascii true .digit)
  | 's' => some (.category ascii false .blank)
  | 'S' => some (.category ascii true .blank)
  | 'w' => some (.category ascii false .word)
  | 'W' => some (.category ascii true .word)
  | _ => none

/-- The fault of an escape that has just been read. -/
def refuseEscape {α : Type} (fault : Text → Fault) (spelling : Text) (s : Source) : Reading α :=
  refuse (fault spelling) (s.pos - spelling.length)

/-- Numbers that are taken for code points at all are below this one. -/
def codeLimit : Nat := 0x80000000

/-- An escape by code point, of so many digits. -/
def hexCode (c : Char) (count : Nat) (s : Source) : Reading (Nat × Source) := do
  let (digits, s) ← s.takeUpTo isHexDigit count
  let spelling := '\\' :: c :: digits
  if digits.length < count then refuseEscape .incompleteEscape spelling s
  else if codeLimit ≤ numeral 16 digits then .error (.excessive .codePoint)
  else if 0x10FFFF < numeral 16 digits then refuseEscape .badEscape spelling s
  else return (numeral 16 digits, s)

/-- An octal escape of the digits given; it must denote one byte. -/
def octalCode (digits : Text) (s : Source) : Reading (Nat × Source) :=
  if 0xFF < numeral 8 digits then refuseEscape .octalTooLarge ('\\' :: digits) s
  else .ok (numeral 8 digits, s)

/-- An escape by the name of a character, after its first character. No names are known. -/
def refuseNamed {α : Type} (s : Source) : Reading α := do
  match ← s.accept '{' with
  | none => refuse .missingBrace s.pos
  | some s =>
    let (name, after) ← s.nameBefore .missingCharacterName '}'
    refuse (.unknownCharacter name) (after.pos - (name.length + 4))

/-- What one place of a set holds: a character, or a category. -/
inductive Member
  | code (n : Nat)
  | category (item : SetItem)
  deriving DecidableEq

namespace Member

def item : Member → SetItem
  | code n => SetItem.ofCode n
  | category i => i

/-- An escape inside a set, after its first character. -/
def ofEscape (ascii : Bool) (c : Char) (s : Source) : Reading (Member × Source) :=
  if c = 'b' then .ok (code 0x08, s)
  else if let some n := controlCode? c then .ok (code n, s)
  else if let some i := category? ascii c then .ok (category i, s)
  else if let some count := hexDigits? c then do
    let (n, s) ← hexCode c count s
    return (code n, s)
  else if c = 'N' then refuseNamed s
  else if isOctalDigit c then do
    let (digits, s) ← s.takeUpTo isOctalDigit 2
    let (n, s) ← octalCode (c :: digits) s
    return (code n, s)
  else if c.isAlphanum then refuseEscape .badEscape ['\\', c] s
  else .ok (code c.toNat, s)

def ofToken (ascii : Bool) (t : Token) (s : Source) : Reading (Member × Source) :=
  match t with
  | .plain c => .ok (code c.toNat, s)
  | .escaped c => ofEscape ascii c s

def range? : Member → Member → Option SetItem
  | code first, code last => if first ≤ last then some (.range first last) else none
  | _, _ => none

end Member

/-- The items up to the bracket that closes a set, before which at least one has been read.
`opened` is where the set begins, `count` bounds the number of items. -/
def setItems (ascii : Bool) (opened : Nat) :
    Nat → List SetItem → Source → Reading (List SetItem × Source)
  | 0, _, _ => refuse .unclosedSet opened
  | count + 1, items, s =>
    match s.next? with
    | none => refuse .unclosedSet opened
    | some t => do
      let s ← s.skip
      if t = .plain ']' && !items.isEmpty then return (items, s)
      let (member, s) ← Member.ofToken ascii t s
      match ← s.accept '-' with
      | none => setItems ascii opened count (items ++ [member.item]) s
      | some s =>
        match s.next? with
        | none => refuse .unclosedSet opened
        | some u =>
          let s ← s.skip
          if u = .plain ']' then return (items ++ [member.item, .letter '-'], s)
          let (last, s) ← Member.ofToken ascii u s
          let spelling := t.spelling ++ '-' :: u.spelling
          match member.range? last with
          | some range => setItems ascii opened count (items ++ [range]) s
          | none => refuse (.badRange spelling) (s.pos - spelling.length)

/-- A set, after its opening bracket. An item that comes twice counts once. -/
def readSet (modes : Modes) (opened : Nat) (s : Source) : Reading (CharTest × Source) := do
  let complement ← s.accept '^'
  let s := complement.getD s
  let (items, s) ← setItems modes.ascii opened (s.rest.length + 1) [] s
  return (.ofItems modes.casing complement.isSome items.eraseDups, s)

end TonelessPinyin.Pattern
