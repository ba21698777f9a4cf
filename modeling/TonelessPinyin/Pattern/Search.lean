import TonelessPinyin.Error
import TonelessPinyin.Pattern.Matching
import TonelessPinyin.Pattern.Reader

/-!
Patterns that are ready to search with.
-/
namespace TonelessPinyin.Pattern

/-- Reads a pattern, or says why it is none. -/
def prepare (caseless : Bool) (source : Text) : Except Error Node :=
  match read caseless source with
  | .ok r => .ok r
  | .error (.flawed flaw) => .error (.invalidPattern source flaw)
  | .error (.excessive excess) => .error (.excessivePattern excess)

end TonelessPinyin.Pattern
