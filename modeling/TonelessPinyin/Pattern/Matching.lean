import TonelessPinyin.Pattern.Syntax

/-!
Matching. The ways in which a node matches from a place are tried in order of preference, and the
first that lets the rest of the pattern match is taken: the first alternative before the second,
a greedy repetition with as many iterations as possible, a lazy one with as few.
-/
namespace TonelessPinyin.Pattern

open Text

/-- A position in the subject, and what the groups have matched, latest first. -/
structure Place where
  pos : Nat
  groups : List (Nat × Span)
  deriving DecidableEq

namespace Place

def move (p : Place) (pos : Nat) : Place := { p with pos }

def record (p : Place) (index : Nat) (span : Span) : Place :=
  { p with groups := (index, span) :: p.groups }

end Place

/-- What comes after a node. -/
abbrev Continuation := Place → Option Place

/-- The body `n` times, then the rest. -/
def iterate (body : Place → Continuation → Option Place) : Nat → Place → Continuation → Option Place
  | 0, p, k => k p
  | n + 1, p, k => body p fun q => iterate body n q k

/-- Up to `most` further iterations. An iteration that consumes nothing is the last one.
Each of the others moves on, so `fuel` need only exceed the number of characters left. -/
def iterateMore (greedy : Bool) (body : Place → Continuation → Option Place) :
    Nat → Option Nat → Place → Continuation → Option Place
  | 0, _, p, k => k p
  | fuel + 1, most, p, k =>
    if most = some 0 then k p
    else
      let onward := fun _ : Unit => body p fun q =>
        if q.pos = p.pos then k q else iterateMore greedy body fuel (most.map (· - 1)) q k
      if greedy then (onward ()).orElse fun _ => k p else (k p).orElse onward

/-- The characters from `n` on are those of the span again, by their one-character lower cases. -/
def repeatsAt (subject : Array Char) (casing : Casing) (n : Nat) (s : Span) : Bool :=
  (List.range (s.stop - s.start)).all fun i =>
    match subject[s.start + i]?, subject[n + i]? with
    | some a, some b => casing.lower a == casing.lower b
    | _, _ => false

namespace Node

def run (subject : Array Char) : Node → Place → Continuation → Option Place
  | empty, p, k => k p
  | one test, p, k =>
    match subject[p.pos]? with
    | some c => if test.accepts c then k (p.move (p.pos + 1)) else none
    | none => none
  | anchor a, p, k => if a.holds subject p.pos then k p else none
  | seq a b, p, k => run subject a p fun q => run subject b q k
  | either a b, p, k => (run subject a p k).orElse fun _ => run subject b p k
  | repeated least most greedy body, p, k =>
    iterate (run subject body) least p fun q =>
      iterateMore greedy (run subject body) (subject.size + 1) (most.map (· - least)) q k
  | group index body, p, k =>
    run subject body p fun q => k (q.record index ⟨p.pos, q.pos⟩)
  | again casing index, p, k =>
    match p.groups.lookup index with
    | some s =>
      if repeatsAt subject casing p.pos s then k (p.move (p.pos + (s.stop - s.start))) else none
    | none => none
  | conditional index yes no, p, k =>
    if (p.groups.lookup index).isSome then run subject yes p k else run subject no p k
  | ahead negated body, p, k =>
    match run subject body p some with
    | some q => if negated then none else k (q.move p.pos)
    | none => if negated then k p else none
  | behind negated width body, p, k =>
    match if width ≤ p.pos then run subject body (p.move (p.pos - width)) some else none with
    | some q => if negated then none else k (q.move p.pos)
    | none => if negated then k p else none
  | atomic body, p, k =>
    match run subject body p some with
    | some q => k q
    | none => none

/-- Where the preferred match from `start` ends. -/
def matchAt (r : Node) (subject : Array Char) (start : Nat) : Option Nat :=
  (r.run subject ⟨start, []⟩ some).map (·.pos)

/-- The preferred match from `start` that is not empty. -/
def matchNonemptyAt (r : Node) (subject : Array Char) (start : Nat) : Option Nat :=
  (r.run subject ⟨start, []⟩ fun q => if q.pos = start then none else some q).map (·.pos)

/-- The first match among those that begin at one of the `count` positions from `start` on. -/
def firstMatch (r : Node) (subject : Array Char) : Nat → Nat → Option Span
  | 0, _ => none
  | count + 1, start =>
    match r.matchAt subject start with
    | some stop => some ⟨start, stop⟩
    | none => firstMatch r subject count (start + 1)

/-- The last match among those that begin at one of the `count` positions from `start` on. -/
def lastMatch (r : Node) (subject : Array Char) : Nat → Nat → Option Span
  | 0, _ => none
  | count + 1, start =>
    match r.matchAt subject (start + count) with
    | some stop => some ⟨start + count, stop⟩
    | none => lastMatch r subject count start

/-- The first match in the text up to `stop` that begins at `start` or later; both are cut to the
text's length. What comes before `start` is still seen by anchors and by nodes that look behind. -/
def search (r : Node) (t : Text) (start stop : Nat) : Option Span :=
  let first := min start t.length
  let subject := (t.take stop).toArray
  r.firstMatch subject (subject.size + 1 - first) first

/-- The successive matches from `start` on, at most `count` of them. After an empty match the next
one may begin at the same position only if it is not empty. -/
def spansFrom (r : Node) (subject : Array Char) : Nat → Bool → Nat → List Span
  | 0, _, _ => []
  | count + 1, afterEmpty, start =>
    let next :=
      if afterEmpty then
        match r.matchNonemptyAt subject start with
        | some stop => some ⟨start, stop⟩
        | none => r.firstMatch subject (subject.size - start) (start + 1)
      else r.firstMatch subject (subject.size + 1 - start) start
    match next with
    | some s => s :: spansFrom r subject count s.isEmpty s.stop
    | none => []

/-- All successive matches in a text. At most one empty match and one other begin at each character,
and at most one empty match at the end. -/
def spans (r : Node) (t : Text) : List Span :=
  r.spansFrom t.toArray (2 * t.length + 1) false 0

end Node

end TonelessPinyin.Pattern
