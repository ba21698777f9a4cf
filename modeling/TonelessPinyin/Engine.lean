import TonelessPinyin.Pattern.Search
import TonelessPinyin.Query.Compiler
import TonelessPinyin.Syllable.Standard

/-!
A search engine: a compiler of queries over one syllable table, and the defaults of its searches.
-/
namespace TonelessPinyin

open Pattern Syllable

/-- Where the syllables of an engine come from. -/
inductive Origin
  | custom
  | standard
  deriving DecidableEq

namespace Origin

def name : Origin → String
  | custom => "custom"
  | standard => "pypinyin"

end Origin

structure Settings where
  caseless : Bool
  defaultStrategy : Strategy
  deriving DecidableEq

structure Engine where
  compiler : Compiler
  origin : Origin
  settings : Settings
  deriving DecidableEq

structure Statistics where
  origin : Origin
  syllables : Nat
  maxSyllableLength : Nat
  toneClusters : Nat
  deriving DecidableEq

namespace Engine

def name : String := "pinyin"

/-- The table that an engine would have. Without syllables it is that of the standard ones. -/
def draft (model : ToneModel) : Option (List Text) → SyllableTable.Draft × Option Error
  | some syllables => SyllableTable.draft .standard model syllables
  | none =>
    if model = .standard then standardDraft else SyllableTable.draft .standard model standard

def originOf (syllables : Option (List Text)) : Origin :=
  if syllables.isNone then .standard else .custom

def build (settings : Settings) (model : ToneModel) (syllables : Option (List Text)) :
    Except Error Engine :=
  match draft model syllables with
  | (_, some e) => .error e
  | (d, none) =>
    .ok ⟨⟨.ofEntries d.entries, model, .exact, .relaxed⟩, originOf syllables, settings⟩

def table (e : Engine) : SyllableTable := e.compiler.table

def statistics (e : Engine) : Statistics :=
  ⟨e.origin, e.table.size, e.table.maxKeyLength, e.compiler.model.size⟩

/-- Without a strategy a query is pinyin, whatever the default of the searches is. -/
def compile (e : Engine) (query : Text) (strategy : Option Strategy) : Except Error Text :=
  e.compiler.compile query (strategy.getD .pinyin)

/-- The successive matches of a query in a text, without the empty ones. -/
def spans (e : Engine) (query t : Text) (strategy : Option Strategy) : Except Error (List Span) := do
  let pattern ← e.compile query strategy
  let r ← prepare e.settings.caseless pattern
  return (r.spans t).filter fun s => s.start < s.stop

end Engine

end TonelessPinyin
