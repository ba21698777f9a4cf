import TonelessPinyin.Pattern.Fault
import TonelessPinyin.Query.Strategy
import TonelessPinyin.Text.Basic

/-!
What a session tells its listener.
-/
namespace TonelessPinyin

inductive Event
  | compiled (query pattern : Text) (strategy : Strategy)
  | found (pattern : Text) (direction : Direction) (point : Nat) (span : Option Span)
  | failed (pattern : Text) (direction : Direction)
  | invalidPattern (pattern : Text) (flaw : Pattern.Flaw)
  | closed (aborted : Bool) (point : Nat)
  deriving DecidableEq

/-- A listener hears every event; it says whether it has dealt with it. -/
abbrev Listener := Event → Bool

end TonelessPinyin
