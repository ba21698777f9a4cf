import TonelessPinyin.Error

/-!
How a query is to be understood, and which way a search goes.
-/
namespace TonelessPinyin

open Text

/-- A query is plain pinyin, or already a pattern. -/
inductive Strategy
  | pinyin
  | regexp
  deriving DecidableEq

namespace Strategy

def name : Strategy → String
  | pinyin => "pinyin"
  | regexp => "regexp"

def other : Strategy → Strategy
  | pinyin => regexp
  | regexp => pinyin

def ofName (t : Text) : Except Error Strategy :=
  if t.asString = "pinyin" then .ok pinyin
  else if t.asString = "regexp" then .ok regexp
  else .error (.unknownStrategy t)

end Strategy

inductive Direction
  | forward
  | backward
  deriving DecidableEq

namespace Direction

def name : Direction → String
  | forward => "forward"
  | backward => "backward"

def ofName (t : Text) : Except Error Direction :=
  if t.asString = "forward" then .ok forward
  else if t.asString = "backward" then .ok backward
  else .error (.unknownDirection t)

end Direction

end TonelessPinyin
