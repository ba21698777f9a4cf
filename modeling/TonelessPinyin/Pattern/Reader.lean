import TonelessPinyin.Pattern.Alternatives
import TonelessPinyin.Pattern.Bounds
import TonelessPinyin.Text.Numeral

/-!
Reading a pattern. Each token either extends the current alternative of the innermost open group,
changes its last item, or opens or closes a group.
-/
namespace TonelessPinyin.Pattern

/-- How an item bears a quantifier: an anchor must not be repeated, a repetition not once more. -/
inductive Form
  | repeatable
  | anchor
  | repetition
  deriving DecidableEq

/-- What a quantifier takes as one. A group that does nothing but group has the nodes of its
content. -/
structure Item where
  nodes : List Node
  form : Form
  deriving DecidableEq

inductive GroupKind
  | capture (index : Nat)
  | plain
  /-- A group with modes of its own. -/
  | scoped
  | atomic
  /-- One of two branches, by whether a group has matched. -/
  | conditional (index : Nat)
  | ahead (negated : Bool)
  | behind (negated : Bool)
  deriving DecidableEq

/-- A group that is still open: where it began, and what is to be resumed after it. -/
structure Frame where
  opened : Nat
  kind : GroupKind
  modes : Modes
  lookbehindFrom : Option Nat
  alternatives : List (List Node)
  items : List Item
  deriving DecidableEq

structure State where
  source : Source
  modes : Modes
  /-- The modes that have been set for the whole pattern. -/
  global : List Mode
  /-- The widths of the groups in the order of their opening; `none` for an open one. -/
  widths : List (Option Width)
  names : List (Text × Nat)
  /-- Inside a look-behind, the index of the first group that it opens itself. -/
  lookbehindFrom : Option Nat
  /-- The groups that conditions ask for by number, each with the place of the number. -/
  conditions : List (Nat × Nat)
  /-- A fault of a pattern that reads well otherwise. -/
  deferred : Option Fault
  /-- The finished alternatives of the current group, latest first. -/
  alternatives : List (List Node)
  /-- The items of the current alternative, latest first. -/
  items : List Item
  /-- The groups around the current one, innermost first. -/
  frames : List Frame
  deriving DecidableEq

namespace State

def start (caseless : Bool) (s : Source) : State :=
  ⟨s, .start caseless, [], [], [], none, [], none, [], [], []⟩

/-- The state once the source has been read up to a place. -/
def upTo (st : State) (s : Source) : State := { st with source := s }

def pushNodes (st : State) (nodes : List Node) : State :=
  { st with items := ⟨nodes, .repeatable⟩ :: st.items }

def push (st : State) (node : Node) : State := st.pushNodes [node]

def pushAnchor (st : State) (a : Anchor) : State :=
  { st with items := ⟨[.anchor a], .anchor⟩ :: st.items }

def pushTest (st : State) (test : CharTest) : State := st.push (.one test)

def pushItem (st : State) (item : SetItem) : State :=
  st.pushTest (.ofItems st.modes.casing false [item])

def defer (st : State) (fault : Fault) : State :=
  { st with deferred := st.deferred.or (some fault) }

def alternative (st : State) : List Node := st.items.reverse.flatMap (·.nodes)

/-- The alternatives of the current group in order. -/
def branches (st : State) : List (List Node) := (st.alternative :: st.alternatives).reverse

/-- What the current group matches. -/
def content (st : State) : List Node := Alternatives.join st.modes.casing st.branches

def width? (st : State) (index : Nat) : Option Width := st.widths.getD (index - 1) none

def widthOf (st : State) (index : Nat) : Width := (st.width? index).getD .zero

/-- Inside a look-behind only groups that are closed and lie outside it may be referred to. -/
def checkLookbehind (st : State) (index : Nat) : Reading Unit :=
  match st.lookbehindFrom with
  | none => .ok ()
  | some first =>
    if (st.width? index).isNone then refuse .openGroup st.source.pos
    else if first ≤ index then refuse .groupOfSameLookbehind st.source.pos
    else .ok ()

/-- A reference to a group; `position` is that of the fault of a group that is open. -/
def refer (st : State) (index position : Nat) : Reading State := do
  if (st.width? index).isNone then refuse .openGroup position
  st.checkLookbehind index
  return st.push (.again st.modes.casing index)

/-- A reference by number, after the two characters of the escape. -/
def referByNumber (st : State) (digits : Text) : Reading State :=
  let index := numeral 10 digits
  let after := st.source.pos - digits.length
  if index ≤ st.widths.length then st.refer index (after - 1)
  else refuse (.unknownGroup index) after

/-- Up to three octal digits are a character, fewer digits a group. -/
def numberEscape (st : State) (c : Char) : Reading State := do
  let (second, s) ← st.source.takeUpTo Char.isDigit 1
  if (c :: second).all isOctalDigit && second.length == 1 then
    let (third, s) ← s.takeUpTo isOctalDigit 1
    if third.length == 1 then
      let (n, s) ← octalCode (c :: second ++ third) s
      return (st.upTo s).pushItem (.ofCode n)
  referByNumber (st.upTo s) (c :: second)

def anchor? (ascii : Bool) : Char → Option Anchor
  | 'A' => some .textStart
  | 'Z' => some .textEnd
  | 'b' => some (.wordBoundary ascii)
  | 'B' => some (.noWordBoundary ascii)
  | _ => none

/-- An escape outside a set, after its first character. -/
def escape (st : State) (c : Char) : Reading State :=
  if let some a := anchor? st.modes.ascii c then .ok (st.pushAnchor a)
  else if let some i := category? st.modes.ascii c then .ok (st.pushItem i)
  else if let some n := controlCode? c then .ok (st.pushItem (.ofCode n))
  else if let some count := hexDigits? c then do
    let (n, s) ← hexCode c count st.source
    return (st.upTo s).pushItem (.ofCode n)
  else if c = 'N' then refuseNamed st.source
  else if c = '0' then do
    let (digits, s) ← st.source.takeUpTo isOctalDigit 2
    return (st.upTo s).pushItem (.ofCode (numeral 8 digits))
  else if c.isDigit then st.numberEscape c
  else if c.isAlpha then refuseEscape .badEscape ['\\', c] st.source
  else .ok (st.pushItem (.letter c))

/-! ## Quantifiers -/

/-- Whether a repetition prefers many iterations or few, and whether it keeps to its first choice. -/
inductive Preference
  | greedy
  | lazy
  | possessive
  deriving DecidableEq

namespace Preference

def name : Preference → String
  | greedy => "MAX_REPEAT"
  | lazy => "MIN_REPEAT"
  | possessive => "POSSESSIVE_REPEAT"

/-- A possessive repetition keeps every iteration as it first matched. -/
def repetition (p : Preference) (b : Bounds) (body : Node) : Node :=
  match p with
  | greedy => .repeated b.least b.most true body
  | lazy => .repeated b.least b.most false body
  | possessive => .atomic (.repeated b.least b.most true (.atomic body))

/-- A question mark after a quantifier makes it lazy, a plus sign possessive. -/
def read (s : Source) : Reading (Preference × Source) := do
  if let some s ← s.accept '?' then return (lazy, s)
  if let some s ← s.accept '+' then return (possessive, s)
  return (greedy, s)

end Preference

/-- Repeats the last item. -/
def repeatLast (st : State) (position : Nat) (b : Bounds) : Reading State :=
  match st.items with
  | [] => refuse .nothingToRepeat position
  | item :: items =>
    match item.form with
    | .anchor => refuse .nothingToRepeat position
    | .repetition => refuse .repeatedTwice position
    | .repeatable => do
      let (p, s) ← Preference.read st.source
      let node := p.repetition b (.concat item.nodes)
      let st := { st with source := s, items := ⟨[node], .repetition⟩ :: items }
      if st.global.contains .template then return st.defer (.repetitionInTemplate p.name)
      return st

/-! ## Groups -/

/-- Begins a group that was opened at a position, with modes of its own. -/
def openGroup (st : State) (opened : Nat) (kind : GroupKind) (modes : Modes) : State :=
  { st with
    modes
    lookbehindFrom := match kind with
      | .behind _ => st.lookbehindFrom.or (some (st.widths.length + 1))
      | _ => st.lookbehindFrom
    alternatives := []
    items := []
    frames :=
      ⟨opened, kind, st.modes, st.lookbehindFrom, st.alternatives, st.items⟩ :: st.frames }

def openCapture (st : State) (opened : Nat) : State :=
  { st with widths := st.widths ++ [none] }.openGroup opened (.capture (st.widths.length + 1))
    st.modes

def openNamed (st : State) (opened : Nat) (name : Text) : Reading State :=
  let index := st.widths.length + 1
  match st.names.lookup name with
  | some taken =>
    refuse (.nameTaken name index taken) (st.source.pos - (name.length + 1))
  | none => .ok ({ st with names := (name, index) :: st.names }.openCapture opened)

def referByName (st : State) (name : Text) : Reading State :=
  let position := st.source.pos - (name.length + 1)
  match st.names.lookup name with
  | some index => st.refer index position
  | none => refuse (.unknownName name) position

/-- Numbers of groups are below this one. -/
def groupLimit : Nat := 2147483647

/-- A condition on a group by its name or number, after the parenthesis that closes it. -/
def openCondition (st : State) (opened : Nat) (name : Text) : Reading State := do
  let position := st.source.pos - (name.length + 1)
  let (index, st) ←
    if Text.isIdentifier name then
      match st.names.lookup name with
      | some index => pure (index, st)
      | none => refuse (.unknownName name) position
    else
      match Text.natural? name with
      | none => refuse (.badName name) position
      | some 0 => refuse .groupZero position
      | some index =>
        if groupLimit ≤ index then refuse (.unknownGroup index) position
        else pure (index, { st with conditions := st.conditions ++ [(index, position)] })
  st.checkLookbehind index
  return st.openGroup opened (.conditional index) st.modes

/-- Nothing has been read but modes. -/
def isFresh (st : State) : Bool :=
  st.frames.isEmpty && st.alternatives.isEmpty && st.items.isEmpty

/-- A group that changes modes, after the modes it switches on. `closer` ended their list. -/
def openModes (st : State) (opened : Nat) (on : List Mode) (closer : Char) : Reading State := do
  if closer = ')' then
    if st.isFresh then
      return { st with modes := st.modes.change on [], global := st.global ++ on }
    refuse .lateModes opened
  let (on, off, s) ← scopedModes on closer st.source
  return (st.upTo s).openGroup opened .scoped (st.modes.change on off)

/-- Skips a comment, up to the parenthesis that closes it. -/
def skipComment (opened : Nat) : Nat → Source → Reading Source
  | 0, _ => refuse .unclosedComment opened
  | count + 1, s =>
    match s.next? with
    | none => refuse .unclosedComment opened
    | some t => do
      let after ← s.skip
      if t = .plain ')' then return after
      skipComment opened count after

/-- The fault of an extension whose last token has just been read. -/
def refuseExtension {α : Type} (opener : Text) (s : Source) : Reading α :=
  refuse (.unknownExtension opener) (s.pos - opener.length)

/-- A group after its parenthesis and question mark. -/
def openExtension (st : State) (opened : Nat) : Reading State :=
  match st.source.next? with
  | none => refuse .endOfPattern st.source.pos
  | some t => do
    let s ← st.source.skip
    let st := st.upTo s
    match t with
    | .plain ':' => return st.openGroup opened .plain st.modes
    | .plain '>' => return st.openGroup opened .atomic st.modes
    | .plain '=' => return st.openGroup opened (.ahead false) st.modes
    | .plain '!' => return st.openGroup opened (.ahead true) st.modes
    | .plain '#' => return st.upTo (← skipComment opened (s.rest.length + 1) s)
    | .plain 'P' =>
      if let some s ← s.accept '<' then
        let (name, s) ← s.groupName '>'
        (st.upTo s).openNamed opened name
      else if let some s ← s.accept '=' then
        let (name, s) ← s.groupName ')'
        (st.upTo s).referByName name
      else
        match s.next? with
        | none => refuse .endOfPattern s.pos
        | some u => refuseExtension ('?' :: 'P' :: u.spelling) (← s.skip)
    | .plain '<' =>
      match s.next? with
      | none => refuse .endOfPattern s.pos
      | some u =>
        let s ← s.skip
        let st := st.upTo s
        if u = .plain '=' then return st.openGroup opened (.behind false) st.modes
        else if u = .plain '!' then return st.openGroup opened (.behind true) st.modes
        else refuseExtension ('?' :: '<' :: u.spelling) s
    | .plain '(' =>
      let (name, s) ← s.nameBefore .missingName ')'
      (st.upTo s).openCondition opened name
    | .plain '-' => st.openModes opened [] '-'
    | _ =>
      match t with
      | .plain c =>
        if let some m := Mode.ofLetter? c then
          let (on, closer, s) ← modesOn (s.rest.length + 1) (← switchOn [] m s) s
          return ← (st.upTo s).openModes opened on closer
      | .escaped _ => pure ()
      refuseExtension ('?' :: t.spelling) s

/-- Ends the current group: its content becomes an item of the group around it. A group with modes
of its own stays a part by itself. -/
def closeGroup (st : State) (frame : Frame) (frames : List Frame) : State :=
  let branches := st.branches
  let content := st.content
  let body := Node.concat content
  let width := body.width st.widthOf
  let st := { st with
    modes := frame.modes
    lookbehindFrom := frame.lookbehindFrom
    alternatives := frame.alternatives
    items := frame.items
    frames }
  match frame.kind with
  | .capture index =>
    { st with widths := st.widths.set (index - 1) (some width) }.push (.group index body)
  | .plain => st.pushNodes content
  | .scoped => st.push (.seq body .empty)
  | .atomic => st.push (.atomic body)
  | .conditional index =>
    st.push (.conditional index (.concat (branches.headD [])) (.concat (branches.tail.headD [])))
  | .ahead negated => st.push (.ahead negated body)
  | .behind negated =>
    (if width.fixed?.isNone then st.defer .variableLookbehind else st).push
      (.behind negated width.least body)

/-! ## The whole pattern -/

/-- Skips what is left of a line. -/
def skipLine : Nat → Source → Reading Source
  | 0, s => .ok s
  | count + 1, s =>
    match s.next? with
    | none => .ok s
    | some t => do
      let after ← s.skip
      if t = .plain '\n' then return after
      skipLine count after

/-- A condition has two branches at most. -/
def isLastBranch (st : State) : Bool :=
  match st.frames with
  | ⟨_, .conditional _, _, _, _, _⟩ :: _ => !st.alternatives.isEmpty
  | _ => false

/-- The whole pattern is taken either for characters of ASCII or for all. -/
def checkAlphabet (st : State) : Reading Unit :=
  if st.global.contains .ascii && st.global.contains .unicode then .error (.excessive .alphabets)
  else .ok ()

/-- Refuses a parenthesis or a bar that has nothing to end. -/
def checkEnd (st : State) (t : Token) : Reading Unit := do
  if t = .plain ')' && st.frames.isEmpty then
    st.checkAlphabet
    refuse .unopenedGroup st.source.pos
  if t = .plain '|' && st.isLastBranch then refuse .thirdBranch st.source.pos

/-- Reads a character that stands for itself, or begins something, at a position. -/
def readPlain (st : State) (position : Nat) (c : Char) : Reading State := do
  let s := st.source
  match c with
  | '|' => return { st with alternatives := st.alternative :: st.alternatives, items := [] }
  | ')' =>
    match st.frames with
    | frame :: frames => return st.closeGroup frame frames
    | [] => return st
  | '(' =>
    match ← s.accept '?' with
    | some s => (st.upTo s).openExtension position
    | none => return st.openCapture position
  | '[' =>
    let (test, s) ← readSet st.modes position s
    return (st.upTo s).pushTest test
  | '*' => st.repeatLast position ⟨0, none⟩
  | '+' => st.repeatLast position ⟨1, none⟩
  | '?' => st.repeatLast position ⟨0, some 1⟩
  | '{' =>
    match ← Bounds.read? s with
    | some (b, s) => (st.upTo s).repeatLast position b
    | none => return st.pushItem (.letter '{')
  | '.' => return st.pushTest (if st.modes.dotAll then .any else .exceptNewline)
  | '^' => return st.pushAnchor (.lineStart st.modes.multiline)
  | '$' => return st.pushAnchor (.lineEnd st.modes.multiline)
  | c =>
    if st.modes.verbose && Text.isAsciiBlank c then return st
    if st.modes.verbose && c = '#' then return st.upTo (← skipLine (s.rest.length + 1) s)
    return st.pushItem (.letter c)

/-- Reads one token, and what belongs to it. -/
def step (st : State) : Reading State :=
  match st.source.next? with
  | none => .ok st
  | some t => do
    st.checkEnd t
    let s ← st.source.skip
    match t with
    | .escaped c => (st.upTo s).escape c
    | .plain c => (st.upTo s).readPlain st.source.pos c

/-- Reads on to the end. Every step reads a character, so `count` need only be their number. -/
def readAll : Nat → State → Reading State
  | 0, st => .ok st
  | count + 1, st =>
    match st.source.rest with
    | [] => .ok st
    | _ :: _ => do readAll count (← st.step)

def finish (st : State) : Reading Node := do
  if let frame :: _ := st.frames then refuse .unclosedGroup frame.opened
  st.checkAlphabet
  if let some (index, position) := st.conditions.find? fun p => st.widths.length < p.1 then
    refuse (.unknownGroup index) position
  if let some fault := st.deferred then .error (.flawed ⟨fault, none⟩)
  return .concat st.content

end State

/-- The tree of a pattern, read with or without regard to case. -/
def read (caseless : Bool) (source : Text) : Reading Node := do
  let s ← Source.ofText source
  let st ← (State.start caseless s).readAll source.length
  st.finish

end TonelessPinyin.Pattern
