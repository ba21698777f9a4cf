import TonelessPinyin.CommandLine.FileTree
import TonelessPinyin.CommandLine.Options
import TonelessPinyin.Engine
import TonelessPinyin.Text.Lines
import TonelessPinyin.Text.Utf8

/-!
A run of the command line: the matching lines of every source, or their number.
-/
namespace TonelessPinyin.CommandLine

open Text Pattern

/-- What stops a run that no exit code is foreseen for. -/
inductive Failure
  | undecodable (e : Utf8.DecodeError)
  /-- A file name holds the character of code zero. -/
  | zeroInName
  | failed (e : Error)
  deriving DecidableEq

structure Outcome where
  stdout : Text
  stderr : Text
  code : Except Failure Nat

def program : String := "phonosearch"

def versionNumber : String := "0.1.0"

def summary : String :=
  "usage: phonosearch [--regexp] [--case-sensitive] [--show-pattern] [-c] [-v] query [FILE ...]"

namespace Outcome

def printed (lines : List Text) (code : Nat) : Outcome :=
  ⟨lines.flatMap (· ++ ['\n']), [], .ok code⟩

/-- The run ends with a complaint. -/
def complaint (message : String) : Outcome :=
  ⟨[], (program ++ ": " ++ message ++ "\n").toList, .ok 2⟩

def failure (f : Failure) : Outcome := ⟨[], [], .error f⟩

/-- What was printed before comes first. -/
def after (lines : List Text) (o : Outcome) : Outcome :=
  { o with stdout := lines.flatMap (· ++ ['\n']) ++ o.stdout }

end Outcome

/-- The lines on which a pattern has a match, with their numbers from one. -/
def matchingLines (r : Node) (content : Text) : List (Nat × Text) :=
  ((lines content).zipIdx 1).filterMap fun (line, n) =>
    if (r.search line 0 line.length).isSome then some (n, line) else none

/-- A source is shown by its name, the standard input by none. -/
def sourceLabel : Option Text → Text
  | some name => name ++ [':']
  | none => []

def listing (name : Option Text) (found : List (Nat × Text)) : List Text :=
  found.map fun (n, line) => sourceLabel name ++ (toString n).toList ++ ':' :: line

def counting (name : Option Text) (found : List (Nat × Text)) : List Text :=
  [sourceLabel name ++ (toString found.length).toList]

/-- What is printed for one source. -/
def sourceLines (count : Bool) (name : Option Text) (found : List (Nat × Text)) : List Text :=
  if count then counting name found else listing name found

/-- Searches the files in order, after `total` matching lines before them. -/
def searchFiles (tree : FileTree) (r : Node) (count : Bool) : Nat → List Text → Outcome
  | total, [] => .printed [] (if total = 0 then 1 else 0)
  | total, name :: rest =>
    if '\x00' ∈ name then .failure .zeroInName
    else
      match tree.read name with
      | .error fault => .complaint (fault.message (normalized name))
      | .ok bytes =>
        match Utf8.decode bytes with
        | .error e => .failure (.undecodable e)
        | .ok content =>
          let found := matchingLines r (unifyLineEnds content)
          (searchFiles tree r count (total + found.length) rest).after
            (sourceLines count (some name) found)

def searchInput (r : Node) (count : Bool) (input : Text) : Outcome :=
  let found := matchingLines r input
  .printed (sourceLines count none found) (if found.isEmpty then 1 else 0)

namespace Options

def strategy (o : Options) : Strategy := if o.has .regexp then .regexp else .pinyin

def settings (o : Options) : Settings := ⟨!o.has .caseSensitive, o.strategy⟩

/-- Searches the files, or the standard input if there are none. -/
def search (o : Options) (r : Node) (tree : FileTree) (input : Text) : Outcome :=
  if o.files.isEmpty then searchInput r (o.has .count) input
  else searchFiles tree r (o.has .count) 0 o.files

def execute (o : Options) (e : Engine) (tree : FileTree) (input : Text) : Outcome :=
  match e.compile o.query (some o.strategy) with
  | .error error => .failure (.failed error)
  | .ok pattern =>
    if o.has .showPattern then .printed [pattern] 0
    else
      match prepare e.settings.caseless pattern with
      | .ok r => o.search r tree input
      | .error (.invalidPattern p flaw) => .complaint (Error.invalidPattern p flaw).message
      | .error error => .failure (.failed error)

end Options

/-- The outcome of the program's arguments. -/
def run (arguments : List Text) (tree : FileTree) (input : Text) : Outcome :=
  match Options.ofArguments arguments with
  | .error (.usage e) => .complaint ("error: " ++ e.message)
  | .error .help => .printed [summary.toList] 0
  | .error .version => .printed [(program ++ " " ++ versionNumber).toList] 0
  | .ok o =>
    match Engine.build o.settings .standard none with
    | .error error => .failure (.failed error)
    | .ok e => o.execute e tree input

end TonelessPinyin.CommandLine
