import TonelessPinyin.Query.Head
import TonelessPinyin.Query.Strategy

/-!
Compilation of a query. A query that begins with a syllable and goes on becomes the pattern of that
syllable, with its tone, and the relaxed pattern of the rest; any other query is substituted as a
whole, with tones.
-/
namespace TonelessPinyin

open Text Pattern Query

structure Compiler where
  table : SyllableTable
  model : ToneModel
  exact : VowelClasses
  relaxed : VowelClasses
  deriving DecidableEq

namespace Compiler

/-- What a compiled query rests on. -/
inductive Route
  | verbatim
  /-- Too short to begin with a syllable and go on. -/
  | short
  | noSyllable
  /-- The query is no longer than its head. -/
  | headAlone (toned : Text)
  | head (toned : Text)
  deriving DecidableEq

structure Compiled where
  pattern : Text
  route : Route
  deriving DecidableEq

/-- The head's pattern, blanks, and the pattern of the rest. -/
def withTail (head tail : Text) : Text :=
  head ++ (if blanks.isPrefixOf tail then [] else blanks) ++ tail

/-- The pattern of a query whose head has the given length. -/
def compileHead (c : Compiler) (query : Text) (length : Nat) : Except Error Compiled := do
  let surface := query.take length
  let toned ← c.table.find surface
  let head ← syllablePattern c.exact c.model toned (some surface)
  if query.length ≤ length then return ⟨head, .headAlone toned⟩
  return ⟨withTail head (substitute c.relaxed blanks (query.drop length)), .head toned⟩

def compilePinyin (c : Compiler) (query : Text) : Except Error Compiled :=
  if (escape query).length ≤ 1 then .ok ⟨substitute c.exact blanks query, .short⟩
  else
    match headLength c.table (escape query) with
    | none => .ok ⟨substitute c.exact blanks query, .noSyllable⟩
    | some length => c.compileHead query length

def compileRoute (c : Compiler) (query : Text) : Strategy → Except Error Compiled
  | .regexp => .ok ⟨query, .verbatim⟩
  | .pinyin => c.compilePinyin query

/-- The pattern of a query. -/
def compile (c : Compiler) (query : Text) (strategy : Strategy) : Except Error Text :=
  (c.compileRoute query strategy).map (·.pattern)

end Compiler

end TonelessPinyin
