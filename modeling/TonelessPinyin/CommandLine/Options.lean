import TonelessPinyin.Text.Quoted
import TonelessPinyin.Text.Word

/-!
The command line's arguments. Flags and positional arguments may be mixed; long flags may be
shortened as long as they stay unambiguous, and short flags may share one dash.
-/
namespace TonelessPinyin.CommandLine

open Text

inductive Flag
  | help
  | regexp
  | caseSensitive
  | showPattern
  | count
  | verbose
  | version
  deriving DecidableEq

namespace Flag

/-- All spellings, in the order in which they are listed to the user. -/
def spellings : List (Text × Flag) := [
  ("-h".toList, help),
  ("--help".toList, help),
  ("--regexp".toList, regexp),
  ("--case-sensitive".toList, caseSensitive),
  ("--show-pattern".toList, showPattern),
  ("-c".toList, count),
  ("--count".toList, count),
  ("-v".toList, verbose),
  ("--verbose".toList, verbose),
  ("--version".toList, version)]

def ofSpelling? (t : Text) : Option Flag := spellings.lookup t

/-- A flag by all its spellings. -/
def title (f : Flag) : Text :=
  List.intercalate ['/'] ((spellings.filter (·.2 = f)).map (·.1))

end Flag

inductive UsageError
  | missingArguments
  | unrecognized (arguments : List Text)
  | ambiguous (argument : Text) (candidates : List Text)
  /-- Something is attached to a flag that takes nothing. -/
  | attached (flag : Flag) (value : Text)
  deriving DecidableEq

def UsageError.message : UsageError → String
  | .missingArguments => "the following arguments are required: query, FILE"
  | .unrecognized arguments =>
    "unrecognized arguments: " ++ asString (List.intercalate [' '] arguments)
  | .ambiguous argument candidates =>
    "ambiguous option: " ++ asString argument ++ " could match " ++
      asString (List.intercalate [',', ' '] candidates)
  | .attached flag value =>
    "argument " ++ asString flag.title ++ ": ignored explicit argument " ++ quotedString value

/-- What one argument is. -/
inductive Kind
  | positional
  /-- Two dashes: all that follow are positional. -/
  | separator
  | flag (f : Flag) (spelling : Text) (attached : Option Text)
  | unknown
  deriving DecidableEq

namespace Kind

def isFlag : Kind → Bool
  | flag _ _ _ => true
  | unknown => true
  | _ => false

end Kind

abbrev Argument := Text × Kind

/-- The text before the first equals sign, and the text after it. -/
def splitValue (t : Text) : Text × Option Text :=
  match t.dropWhile (· != '=') with
  | [] => (t, none)
  | _ :: value => (t.takeWhile (· != '='), some value)

/-- The flags that an argument with dashes may stand for. -/
def candidates (t : Text) : List (Text × Kind) :=
  match t with
  | '-' :: '-' :: _ =>
    let (opening, value) := splitValue t
    (Flag.spellings.filter fun p => opening.isPrefixOf p.1).map fun (s, f) =>
      (s, .flag f s value)
  | '-' :: c :: rest =>
    Flag.spellings.filterMap fun (s, f) =>
      if s = ['-', c] then some (s, .flag f s (some rest))
      else if t.isPrefixOf s then some (s, .flag f s none)
      else none
  | _ => []

/-- A dash and a number, with or without a fraction. A line feed may end it. -/
def isNegativeNumber (t : Text) : Bool :=
  match t with
  | '-' :: rest =>
    let body := if rest.getLast? = some '\n' then rest.dropLast else rest
    match body.dropWhile isDecimal with
    | [] => !body.isEmpty
    | '.' :: fraction => !fraction.isEmpty && fraction.all isDecimal
    | _ => false
  | _ => false

/-- Flags attached to their own value with an equals sign. -/
def valued? (t : Text) : Option Kind :=
  match splitValue t with
  | (s, some value) => (Flag.ofSpelling? s).map fun f => .flag f s (some value)
  | (_, none) => none

def kindOf (t : Text) : Except UsageError Kind :=
  if t.head? != some '-' || t.length == 1 then .ok .positional
  else if let some f := Flag.ofSpelling? t then .ok (.flag f t none)
  else if let some k := valued? t then .ok k
  else
    match candidates t with
    | [(_, k)] => .ok k
    | [] => .ok (if isNegativeNumber t || t.contains ' ' then .positional else .unknown)
    | several => .error (.ambiguous t (several.map (·.1)))

def kinds : List Text → Except UsageError (List Argument)
  | [] => .ok []
  | t :: rest =>
    if t = ['-', '-'] then
      .ok ((t, .separator) :: rest.map fun u => (u, .positional))
    else do
      let k ← kindOf t
      let rest ← kinds rest
      return (t, k) :: rest

/-- The flags after the first one of a group that shares a dash. -/
def grouped (f : Flag) : Text → Except UsageError (List Flag)
  | [] => .ok []
  | c :: rest =>
    match Flag.ofSpelling? ['-', c] with
    | none => .error (.attached f (c :: rest))
    | some g => do
      let more ← grouped g rest
      return g :: more

/-- The flags of one argument. Only to a short flag others may be attached. -/
def flagsOf (f : Flag) (spelling : Text) : Option Text → Except UsageError (List Flag)
  | none => .ok [f]
  | some value =>
    if spelling[1]? = some '-' || value.isEmpty then .error (.attached f value)
    else do
      let more ← grouped f value
      return f :: more

/-- Why reading the arguments ends early. -/
inductive Stop
  | usage (e : UsageError)
  | help
  | version
  deriving DecidableEq

/-- Takes flags in, up to one that asks for the version or for help. -/
def collect : List Flag → List Flag → Except Stop (List Flag)
  | flags, [] => .ok flags
  | _, .help :: _ => .error .help
  | _, .version :: _ => .error .version
  | flags, f :: rest => collect (flags ++ [f]) rest

/-- The flags among the arguments, added to those already read. -/
def flagsAmong (flags : List Flag) : List Argument → Except Stop (List Flag)
  | [] => .ok flags
  | (_, .flag f spelling attached) :: rest => do
    let found ← (flagsOf f spelling attached).mapError Stop.usage
    flagsAmong (← collect flags found) rest
  | _ :: rest => flagsAmong flags rest

def isKnownFlag : Argument → Bool
  | (_, .flag _ _ _) => true
  | _ => false

/-- What is left for the positional arguments. Two dashes are dropped if only flags come before
them. -/
def leftover : List Argument → List Text
  | [] => []
  | (_, .separator) :: rest => rest.map (·.1)
  | (_, .flag _ _ _) :: rest => leftover rest
  | (t, .unknown) :: rest => t :: leftover rest
  | (t, .positional) :: rest => t :: (rest.filter (!isKnownFlag ·)).map (·.1)

structure Positional where
  query : Text
  files : List Text
  /-- What no argument was expected for. -/
  extra : List Text
  deriving DecidableEq

/-- A stretch of arguments without its first two dashes, which only separate. -/
def unseparated (arguments : List Argument) : List Text := (arguments.map (·.1)).erase ['-', '-']

/-- The query and the files are the first stretch of arguments without flags. -/
def positionals? (arguments : List Argument) : Option Positional :=
  let before := arguments.takeWhile (·.2.isFlag)
  let stretch := (arguments.dropWhile (·.2.isFlag)).takeWhile (!·.2.isFlag)
  let after := (arguments.dropWhile (·.2.isFlag)).dropWhile (!·.2.isFlag)
  let dashes := stretch.takeWhile (·.2 = .separator)
  match stretch.dropWhile (·.2 = .separator) with
  | [] => none
  | query :: rest =>
    let own := dashes ++ query :: rest.takeWhile (·.2 = .separator)
    some {
      query := (unseparated own).headD []
      files := unseparated (rest.dropWhile (·.2 = .separator))
      extra := ((before ++ after).filter (!isKnownFlag ·)).map (·.1) }

structure Options where
  query : Text
  files : List Text
  flags : List Flag
  deriving DecidableEq

namespace Options

def has (o : Options) (f : Flag) : Bool := o.flags.contains f

/-- Reads the flags first, then what is left. -/
def ofArguments (arguments : List Text) : Except Stop Options := do
  let first ← (kinds arguments).mapError Stop.usage
  let flags ← flagsAmong [] first
  let second ← (kinds (leftover first)).mapError Stop.usage
  let flags ← flagsAmong flags second
  match positionals? second with
  | none => .error (.usage .missingArguments)
  | some p =>
    if p.extra.isEmpty then return ⟨p.query, p.files, flags⟩
    else .error (.usage (.unrecognized p.extra))

end Options

end TonelessPinyin.CommandLine
