import TonelessPinyin.Text.Basic

/-!
Properties and mappings of characters given by tables of runs. The runs of a table ascend and do
not interleave, so a look-up may stop at the first run that begins after the character.
-/
namespace TonelessPinyin.Text

/-- The code points `first`, `first + step`, … up to `last`. -/
structure CodeRun where
  first : Nat
  last : Nat
  step : Nat
  deriving DecidableEq

namespace CodeRun

def contains (r : CodeRun) (n : Nat) : Bool :=
  r.first ≤ n && n ≤ r.last && (n - r.first) % r.step == 0

/-- Membership in an ascending table. -/
def covered : List CodeRun → Nat → Bool
  | [], _ => false
  | r :: rs, n => if n < r.first then false else r.contains n || covered rs n

end CodeRun

/-- A run of code points mapped to an equally spaced run that begins at `image`. -/
structure CaseRun extends CodeRun where
  image : Nat
  deriving DecidableEq

namespace CaseRun

/-- The image of a code point under an ascending table. -/
def image? : List CaseRun → Nat → Option Nat
  | [], _ => none
  | r :: rs, n =>
    if n < r.first then none
    else if r.contains n then some (r.image + (n - r.first))
    else image? rs n

/-- The code point of the run that is mapped to `m`. -/
def preimage? (r : CaseRun) (m : Nat) : Option Nat :=
  if r.image ≤ m ∧ r.contains (r.first + (m - r.image)) then some (r.first + (m - r.image))
  else none

end CaseRun

end TonelessPinyin.Text
