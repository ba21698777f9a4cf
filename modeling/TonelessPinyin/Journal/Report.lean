import TonelessPinyin.Engine
import TonelessPinyin.Journal.Record
import TonelessPinyin.Session.Desk

/-!
What goes into the log: the records of building tables and engines, of compilation and of searches.
-/
namespace TonelessPinyin.Report

open Text

def record (level : Level) (logger message : String) : Record :=
  ⟨level, ("phonosearch." ++ logger).toList, message.toList⟩

def loaded (count : Nat) : Record :=
  record .debug "pinyin.syllables" s!"Loaded {count} toned syllables from pypinyin"

def collision (c : Collision) : Record :=
  record .debug "pinyin.syllables"
    ("  [Collision] " ++ c.plain.asString ++ ": keep " ++ quotedString c.kept ++ ", skip " ++
      quotedString c.skipped)

/-- Collisions are recorded as they come, the table only if all syllables are in it. -/
def table : SyllableTable.Draft × Option Error → List Record
  | (d, failure) =>
    d.collisions.reverse.map collision ++
      match failure with
      | some _ => []
      | none =>
        [record .debug "pinyin.syllables"
          s!"Built syllable table: {d.entries.length} keys, {d.collisions.length} collisions"]

def loader (message : String) : Record := record .error "utils.lazy_imports" message

/-- The readings have been asked for but are not installed. -/
def readingsUnavailable : Record := loader "無法載入 pypinyin，請確認是否已安裝"

def engineLogger : String := "engine.pinyin"

def construction : Text := "PinyinSearchEngine.__init__".toList

/-- The time of the construction is recorded also if it fails. -/
def constructionTime : Record :=
  record .debug engineLogger (asString (Record.timingMessage construction))

/-- Building an engine from syllables, the standard ones being loaded if none are given. -/
def engine (model : ToneModel) (syllables : Option (List Text)) : List Record :=
  let draft := Engine.draft model syllables
  let outcome :=
    match draft with
    | (_, some (.untonedSyllable s)) =>
      [record .error engineLogger
        ("Syllable table build failed: " ++ (Error.untonedSyllable s).message)]
    | (_, some _) => []
    | (d, none) =>
      let origin := (Engine.originOf syllables).name
      let size := (SyllableTable.ofEntries d.entries).size
      [record .info engineLogger
        s!"PinyinSearchEngine initialized ({size} syllables from {origin})"]
  (if syllables.isNone then [loaded Syllable.standard.length] else []) ++ table draft ++ outcome ++
    [constructionTime]

/-- A compilation is recorded if the query may begin with a syllable and go on. -/
def compilation (c : Compiler) (query : Text) (strategy : Strategy) : List Record :=
  let line := fun (pattern : Text) (ground : String) =>
    [record .debug "pinyin.compiler"
      ("[Compile] " ++ quotedString query ++ " -> " ++ quotedString pattern ++ " (" ++ ground ++
        ")")]
  match c.compileRoute query strategy with
  | .ok ⟨pattern, .noSyllable⟩ => line pattern "no syllable"
  | .ok ⟨pattern, .head toned⟩ => line pattern ("head " ++ quotedString toned)
  | _ => []

/-- `point` is the one asked for. -/
def sessionOpened (point : Int) (direction : Direction) (strategy : Strategy) : Record :=
  record .debug engineLogger
    s!"Creating session at {point} ({direction.name}, {strategy.name})"

def notice (c : Compiler) : Notice → List Record
  | .switched strategy => [record .debug "session" s!"Strategy -> {strategy.name}"]
  | .compiled query strategy => compilation c query strategy
  | .searchFailed pattern =>
    [record .debug "search.primitive" ("Search failed: " ++ quotedString pattern)]
  | .event _ => []
  | .listenerFailed => [record .error "session" "on_event handler failed"]

end TonelessPinyin.Report
