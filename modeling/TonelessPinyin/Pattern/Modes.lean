import TonelessPinyin.Pattern.Source
import TonelessPinyin.Pattern.Casing

/-!
Matching modes and the lists of letters that switch them on and off.
-/
namespace TonelessPinyin.Pattern

inductive Mode
  | caseless
  | multiline
  | dotAll
  /-- Blanks and comments may be spread over the pattern. -/
  | verbose
  | ascii
  | unicode
  /-- The alphabet of the surroundings, which texts do not have. -/
  | locale
  | template
  deriving DecidableEq

namespace Mode

def ofLetter? : Char → Option Mode
  | 'i' => some caseless
  | 'm' => some multiline
  | 's' => some dotAll
  | 'x' => some verbose
  | 'a' => some ascii
  | 'u' => some unicode
  | 'L' => some locale
  | 't' => some template
  | _ => none

/-- The modes that say which characters there are; only one of them can hold. -/
def isAlphabet : Mode → Bool
  | ascii => true
  | unicode => true
  | locale => true
  | _ => false

end Mode

structure Modes where
  caseless : Bool
  multiline : Bool
  dotAll : Bool
  verbose : Bool
  ascii : Bool
  deriving DecidableEq

namespace Modes

def start (caseless : Bool) : Modes := ⟨caseless, false, false, false, false⟩

def set (value : Bool) (modes : Modes) : Mode → Modes
  | .caseless => { modes with caseless := value }
  | .multiline => { modes with multiline := value }
  | .dotAll => { modes with dotAll := value }
  | .verbose => { modes with verbose := value }
  | .ascii => { modes with ascii := value }
  | .unicode => { modes with ascii := !value }
  | .locale => modes
  | .template => modes

def change (modes : Modes) (on off : List Mode) : Modes :=
  off.foldl (set false) (on.foldl (set true) modes)

/-- How letters are compared. -/
def casing (modes : Modes) : Casing :=
  if modes.caseless then (if modes.ascii then .ascii else .unicode) else .exact

end Modes

/-- What is wrong with a token in a list of modes. -/
def modeFault (t : Token) (otherwise : Fault) : Fault :=
  match t with
  | .plain c => if Text.isLetter c then .unknownMode else otherwise
  | .escaped _ => otherwise

/-- A mode that is switched on after others. `s` is the place after its letter. -/
def switchOn (on : List Mode) (m : Mode) (s : Source) : Reading (List Mode) :=
  if m = .locale then refuse .localeMode s.pos
  else if m.isAlphabet && on.any (fun n => n.isAlphabet && n != m) then
    refuse .twoAlphabets s.pos
  else .ok (on ++ [m])

/-- Modes after the first one, up to the character that ends the list. -/
def modesOn : Nat → List Mode → Source → Reading (List Mode × Char × Source)
  | 0, _, s => refuse .unclosedModes s.pos
  | count + 1, on, s =>
    match s.next? with
    | none => refuse .unclosedModes s.pos
    | some t => do
      let after ← s.skip
      match t with
      | .plain c =>
        if c = ')' || c = '-' || c = ':' then return (on, c, after)
        if let some m := Mode.ofLetter? c then return ← modesOn count (← switchOn on m after) after
      | .escaped _ => pure ()
      refuse (modeFault t .unclosedModes) s.pos

/-- Modes to be switched off, up to the colon. -/
def modesOff : Nat → List Mode → Source → Reading (List Mode × Source)
  | 0, _, s => refuse .missingColon s.pos
  | count + 1, off, s =>
    let missing := if off.isEmpty then Fault.missingMode else .missingColon
    match s.next? with
    | none => refuse missing s.pos
    | some t => do
      let after ← s.skip
      match t with
      | .plain c =>
        if c = ':' && !off.isEmpty then return (off, after)
        if let some m := Mode.ofLetter? c then
          if m.isAlphabet then refuse .alphabetOff after.pos
          return ← modesOff count (off ++ [m]) after
      | .escaped _ => pure ()
      refuse (modeFault t missing) s.pos

/-- The modes that a group of its own switches on and off. `closer` ended the list of the former;
the place given is the one after it. -/
def scopedModes (on : List Mode) (closer : Char) (s : Source) :
    Reading (List Mode × List Mode × Source) := do
  if on.contains .template then refuse .globalModeOn (s.pos - 1)
  if closer = ':' then return (on, [], s)
  let (off, s) ← modesOff (s.rest.length + 1) [] s
  if off.contains .template then refuse .globalModeOff (s.pos - 1)
  if on.any off.contains then refuse .contradictoryModes (s.pos - 1)
  return (on, off, s)

end TonelessPinyin.Pattern
