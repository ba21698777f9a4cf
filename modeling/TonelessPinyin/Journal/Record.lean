import TonelessPinyin.Text.Basic

/-!
Log records.
-/
namespace TonelessPinyin

inductive Level
  | debug
  | info
  | warning
  | error
  deriving DecidableEq

namespace Level

def name : Level → String
  | debug => "DEBUG"
  | info => "INFO"
  | warning => "WARNING"
  | error => "ERROR"

/-- The greater, the more urgent. -/
def rank : Level → Nat
  | debug => 10
  | info => 20
  | warning => 30
  | error => 40

def ofName? (s : String) : Option Level := [debug, info, warning, error].find? (·.name == s)

end Level

structure Record where
  level : Level
  logger : Text
  message : Text
  deriving DecidableEq

namespace Record

/-- The record of a time taken, which is not shown. -/
def timingMessage (operation : Text) : Text :=
  "[Timing] ".toList ++ operation ++ ": #ms".toList

end Record

end TonelessPinyin
