import TonelessPinyin.Pattern.Member

/-!
The bounds of a repetition, written in braces.
-/
namespace TonelessPinyin.Pattern

structure Bounds where
  least : Nat
  most : Option Nat
  deriving DecidableEq

namespace Bounds

/-- Numbers of repetitions are below this one. -/
def countLimit : Nat := 4294967295

def count? (digits : Text) : Reading (Option Nat) :=
  if digits.isEmpty then .ok none
  else if countLimit ≤ numeral 10 digits then .error (.excessive .repetitions)
  else .ok (some (numeral 10 digits))

/-- The bounds after an opening brace, or nothing if the brace stands for itself. -/
def read? (s : Source) : Reading (Option (Bounds × Source)) := do
  if s.isNext '}' then return none
  let (least, afterLeast) ← s.takeUpTo Char.isDigit s.rest.length
  let comma ← afterLeast.accept ','
  let (most, afterMost) ← match comma with
    | some after => after.takeUpTo Char.isDigit after.rest.length
    | none => pure (least, afterLeast)
  match ← afterMost.accept '}' with
  | none => return none
  | some after =>
    let least := (← count? least).getD 0
    let most ← count? most
    if most.any (· < least) then refuse .leastAboveMost s.pos
    return some (⟨least, most⟩, after)

end Bounds

end TonelessPinyin.Pattern
