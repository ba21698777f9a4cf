import TonelessPinyin.Pattern.Casing
import TonelessPinyin.Text.Blank
import TonelessPinyin.Text.Word

/-!
The tree of a pattern. Matching modes are already resolved in it: a node that compares characters
says how, a category which characters it knows, and an anchor which lines it looks at.
-/
namespace TonelessPinyin.Pattern

open Text

inductive Category
  | digit
  | blank
  | word
  deriving DecidableEq

namespace Category

/-- The characters of a category, or only those of ASCII among them. The separators of ASCII are
blanks only among all characters. -/
def contains (ascii : Bool) (k : Category) (c : Char) : Bool :=
  match k with
  | digit => isDecimal c && (!ascii || c.toNat < 0x80)
  | blank => if ascii then isAsciiBlank c else isBlank c
  | word => isWord c && (!ascii || c.toNat < 0x80)

end Category

/-- One entry of a bracketed set. Ranges hold code points, which need not be characters. -/
inductive SetItem
  | letter (c : Char)
  | range (first last : Nat)
  | category (ascii negated : Bool) (k : Category)
  deriving DecidableEq

namespace SetItem

/-- A single code point. -/
def ofCode (n : Nat) : SetItem :=
  if n.isValidChar then letter (Char.ofNat n) else range n n

/-- The code points up to this one are those of the basic plane. -/
def lastBasic : Nat := 0xFFFF

def within (first last n : Nat) : Bool := first ≤ n && n ≤ last

/-- A letter beyond the basic plane is compared as it stands with the lower case of the character,
so as a capital it is never found. A range that goes beyond that plane also takes in the characters
with a capital in it. -/
def accepts (casing : Casing) : SetItem → Char → Bool
  | letter d, c => if d.toNat ≤ lastBasic then casing.agrees d c else d == casing.lower c
  | range first last, c =>
    within first last c.toNat || (casing.variants c).any (within first last) ||
      (casing != .exact && lastBasic < last &&
        (upperLetter (casing.lower c)).head?.any fun d => within first last d.toNat)
  | category ascii negated k, c => k.contains ascii c != negated

end SetItem

/-- A test of one character. A letter that stands for itself is compared with regard to all its
shapes, unlike the letters of a set. -/
inductive CharTest
  | any
  | exceptNewline
  | letter (casing : Casing) (negated : Bool) (c : Char)
  | oneOf (casing : Casing) (negated : Bool) (items : List SetItem)
  deriving DecidableEq

namespace CharTest

def accepts : CharTest → Char → Bool
  | any, _ => true
  | exceptNewline, c => c != '\n'
  | letter casing negated d, c => casing.agrees d c != negated
  | oneOf casing negated items, c => items.any (·.accepts casing c) != negated

/-- The test for one item or none of several. -/
def ofItems (casing : Casing) (negated : Bool) : List SetItem → CharTest
  | [.letter c] => letter casing negated c
  | items => oneOf casing negated items

end CharTest

inductive Anchor
  | textStart
  /-- The start of the text, or of every line. -/
  | lineStart (every : Bool)
  | textEnd
  /-- The end of every line. Otherwise the end of the text, or the place before a line feed that
  ends it. -/
  | lineEnd (every : Bool)
  | wordBoundary (ascii : Bool)
  | noWordBoundary (ascii : Bool)
  deriving DecidableEq

namespace Anchor

def isNewline (c : Option Char) : Bool := c == some '\n'

/-- The character is there and is a word character. -/
def isWordAt (ascii : Bool) (c : Option Char) : Bool := c.any (Category.word.contains ascii)

/-- The character before a position, in the subject. -/
def charBefore (subject : Array Char) : Nat → Option Char
  | 0 => none
  | n + 1 => subject[n]?

/-- An empty subject has no word boundary, and no place that is none. -/
def holds (subject : Array Char) (n : Nat) : Anchor → Bool
  | textStart => n == 0
  | lineStart every => n == 0 || (every && isNewline (charBefore subject n))
  | textEnd => n == subject.size
  | lineEnd every =>
    n == subject.size || ((every || n + 1 == subject.size) && isNewline subject[n]?)
  | wordBoundary ascii =>
    subject.size != 0 && isWordAt ascii (charBefore subject n) != isWordAt ascii subject[n]?
  | noWordBoundary ascii =>
    subject.size != 0 && isWordAt ascii (charBefore subject n) == isWordAt ascii subject[n]?

end Anchor

inductive Node
  | empty
  | one (test : CharTest)
  | anchor (a : Anchor)
  | seq (first second : Node)
  | either (first second : Node)
  /-- `most` is `none` for a repetition without an upper limit. -/
  | repeated (least : Nat) (most : Option Nat) (greedy : Bool) (body : Node)
  | group (index : Nat) (body : Node)
  /-- The text of a group again. -/
  | again (casing : Casing) (index : Nat)
  /-- One of two, by whether a group has matched. -/
  | conditional (index : Nat) (yes no : Node)
  | ahead (negated : Bool) (body : Node)
  /-- `width` is the number of characters that the body consumes. -/
  | behind (negated : Bool) (width : Nat) (body : Node)
  /-- The body's first way to match, and no other. -/
  | atomic (body : Node)
  deriving DecidableEq

namespace Node

def letter (casing : Casing) (c : Char) : Node := one (.letter casing false c)

def concat : List Node → Node
  | [] => empty
  | [r] => r
  | r :: rest => seq r (concat rest)

/-- The characters of a text in order. -/
def word (casing : Casing) (t : Text) : Node := concat (t.map (letter casing))

/-- The first alternative that leads to a match is taken. -/
def choice : List Node → Node
  | [] => empty
  | [r] => r
  | r :: rest => either r (choice rest)

end Node

/-- The least and the greatest number of characters a node consumes; `none` if there is no
greatest. -/
structure Width where
  least : Nat
  most : Option Nat
  deriving DecidableEq

namespace Width

def zero : Width := ⟨0, some 0⟩

def one : Width := ⟨1, some 1⟩

def add (a b : Width) : Width :=
  ⟨a.least + b.least, a.most.bind fun m => b.most.map (m + ·)⟩

def union (a b : Width) : Width :=
  ⟨min a.least b.least, a.most.bind fun m => b.most.map (max m ·)⟩

def times (least : Nat) (most : Option Nat) (w : Width) : Width :=
  ⟨w.least * least,
    match most, w.most with
    | some n, some m => some (m * n)
    | some n, none => if n = 0 then some 0 else none
    | none, some m => if m = 0 then some 0 else none
    | none, none => none⟩

/-- Widths from this one on count as unlimited. -/
def limit : Nat := 4294967295

/-- The one width there is, if the least is the greatest. -/
def fixed? (w : Width) : Option Nat :=
  if w.most = some w.least && w.least < limit then some w.least else none

end Width

namespace Node

/-- `groups` gives the widths of the groups that may be referred to. -/
def width (groups : Nat → Width) : Node → Width
  | empty => .zero
  | one _ => .one
  | anchor _ => .zero
  | seq a b => (width groups a).add (width groups b)
  | either a b => (width groups a).union (width groups b)
  | repeated least most _ body => (width groups body).times least most
  | group _ body => width groups body
  | again _ n => groups n
  | conditional _ yes no => (width groups yes).union (width groups no)
  | ahead _ _ => .zero
  | behind _ _ _ => .zero
  | atomic body => width groups body

end Node

end TonelessPinyin.Pattern
