import TonelessPinyin.Pattern.Fault

/-!
What can go wrong, apart from a search that was told to report failure as a result.
-/
namespace TonelessPinyin

open Text

inductive Error
  /-- A syllable has no toned vowel. -/
  | untonedSyllable (syllable : Text)
  /-- A look-up of a key that is not there. -/
  | missingKey (key : Text)
  | noClusters
  /-- The readings are to be filtered by an empty set of letters. -/
  | noLetters
  | notFound (pattern : Text)
  | invalidPattern (pattern : Text) (flaw : Pattern.Flaw)
  | excessivePattern (excess : Pattern.Excess)
  | closedSession (id : Text)
  | unknownStrategy (name : Text)
  | unknownDirection (name : Text)
  /-- The reading dictionary is not installed. -/
  | readingsUnavailable
  deriving DecidableEq

def installHint : String :=
  "缺少拼音依賴。請執行:\n  pip install pypinyin\n或重新安裝:\n  pip install phonosearch"

namespace Error

def message : Error → String
  | untonedSyllable s => "音節 " ++ quotedString s ++ " 找不到可辨識的聲調母音"
  | missingKey key => quotedString key
  | noClusters => "ToneClusterModel 至少需要一個 cluster"
  | noLetters => "unterminated character set at position 0"
  | notFound pattern => "Search failed: " ++ quotedString pattern
  | invalidPattern pattern flaw =>
    "Invalid pattern " ++ quotedString pattern ++ ": " ++ flaw.reason pattern
  | excessivePattern excess => excess.message
  | closedSession id => "session " ++ id.asString ++ " 已結束"
  | unknownStrategy name => quotedString name ++ " is not a valid SearchStrategy"
  | unknownDirection name => quotedString name ++ " is not a valid SearchDirection"
  | readingsUnavailable => installHint

end Error

end TonelessPinyin
