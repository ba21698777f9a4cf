import TonelessPinyin.Pattern.Search
import TonelessPinyin.Query.Strategy

/-!
A searcher: a text with a cursor, which searches move. The cursor goes to the end of a match found
forward and to the start of one found backward.
-/
namespace TonelessPinyin

open Pattern

structure Searcher where
  text : Text
  point : Nat
  caseless : Bool
  /-- The last match. -/
  matched : Option Span
  deriving DecidableEq

/-- What a search does that finds nothing. -/
inductive OnFailure
  | raise
  | stay
  | goToBound
  deriving DecidableEq

/-- A search, told by its arguments; a negative count searches the other way. -/
structure SearchArgs where
  pattern : Text
  bound : Option Int
  onFailure : OnFailure
  count : Int
  deriving DecidableEq

namespace SearchArgs

/-- The next match, if there is none the cursor stays. -/
def next (pattern : Text) : SearchArgs := ⟨pattern, none, .stay, 1⟩

end SearchArgs

namespace Searcher

/-- A position brought into the text. -/
def clamp (t : Text) (n : Int) : Nat := min n.toNat t.length

theorem clamp_le_length (t : Text) (n : Int) : clamp t n ≤ t.length := Nat.min_le_right _ _

def new (text : Text) (point : Int) (caseless : Bool) : Searcher :=
  ⟨text, clamp text point, caseless, none⟩

def setPoint (s : Searcher) (n : Int) : Searcher := { s with point := clamp s.text n }

/-- Another text under the same cursor. -/
def setText (s : Searcher) (t : Text) : Searcher := { s with text := t }

/-- The end of a forward search; not before the cursor. -/
def limit (s : Searcher) : Option Int → Nat
  | none => s.text.length
  | some bound => max s.point (clamp s.text bound)

/-- The start of a backward search; not after the cursor. -/
def floor (s : Searcher) : Option Int → Nat
  | none => 0
  | some bound => min s.point bound.toNat

/-- The last of `count` matches one after another. After an empty match the search goes on from
the next position. -/
def nthAfter (r : Node) (t : Text) (limit : Nat) : Nat → Nat → Option Span
  | 0, _ => none
  | 1, start => r.search t start limit
  | count + 2, start =>
    match r.search t start limit with
    | none => none
    | some s => nthAfter r t limit (count + 1) (if s.start < s.stop then s.stop else s.stop + 1)

/-- The match with the last start from `floor` on and before `stop` that ends by `stop`. -/
def matchBefore (r : Node) (t : Text) (floor stop : Nat) : Option Span :=
  if floor < stop then
    let first := min floor t.length
    r.lastMatch (t.take stop).toArray (min (stop - 1) t.length + 1 - first) first
  else none

/-- The last of `count` matches one before another. -/
def nthBefore (r : Node) (t : Text) (floor : Nat) : Nat → Nat → Option Span
  | 0, _ => none
  | 1, stop => matchBefore r t floor stop
  | count + 2, stop =>
    match matchBefore r t floor stop with
    | none => none
    | some s => nthBefore r t floor (count + 1) s.start

/-- A search that has found nothing up to `bound`. -/
def fail (s : Searcher) (pattern : Text) (bound : Nat) :
    OnFailure → Except Error (Option Nat) × Searcher
  | .raise => (.error (.notFound pattern), s)
  | .stay => (.ok none, s)
  | .goToBound => (.ok none, s.setPoint bound)

def found (s : Searcher) (span : Span) (point : Nat) : Except Error (Option Nat) × Searcher :=
  let s := { s with matched := some span }.setPoint point
  (.ok (some s.point), s)

def forward (s : Searcher) (a : SearchArgs) (count : Nat) : Except Error (Option Nat) × Searcher :=
  match prepare s.caseless a.pattern with
  | .error e => (.error e, s)
  | .ok r =>
    if count = 0 then (.ok (some s.point), s)
    else
      match nthAfter r s.text (s.limit a.bound) count s.point with
      | some span => s.found span span.stop
      | none => s.fail a.pattern (s.limit a.bound) a.onFailure

def backward (s : Searcher) (a : SearchArgs) (count : Nat) : Except Error (Option Nat) × Searcher :=
  match prepare s.caseless a.pattern with
  | .error e => (.error e, s)
  | .ok r =>
    if count = 0 then (.ok (some s.point), s)
    else
      match nthBefore r s.text (s.floor a.bound) count s.point with
      | some span => s.found span span.start
      | none => s.fail a.pattern (s.floor a.bound) a.onFailure

/-- Searches in a direction, or in the other one if the count is negative. The result is the new
point, or nothing where failure is a result. -/
def search (s : Searcher) (d : Direction) (a : SearchArgs) :
    Except Error (Option Nat) × Searcher :=
  match d, decide (a.count < 0) with
  | .forward, false => s.forward a a.count.natAbs
  | .forward, true => s.backward a a.count.natAbs
  | .backward, false => s.backward a a.count.natAbs
  | .backward, true => s.forward a a.count.natAbs

end Searcher

end TonelessPinyin
