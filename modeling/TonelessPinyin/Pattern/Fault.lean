import TonelessPinyin.Text.Quoted

/-!
Why a text is no pattern.
-/
namespace TonelessPinyin.Pattern

open Text

inductive Fault
  | unclosedGroup
  | unclosedComment
  | unopenedGroup
  | unclosedSet
  | badRange (range : Text)
  | nothingToRepeat
  | repeatedTwice
  | leastAboveMost
  | endOfPattern
  | missingName
  | missingCharacterName
  | missingBrace
  | unknownCharacter (name : Text)
  | unclosedName (closer : Char)
  | badName (name : Text)
  | nameTaken (name : Text) (index taken : Nat)
  | unknownName (name : Text)
  | unknownExtension (opener : Text)
  | unclosedModes
  | unknownMode
  | missingMode
  | missingColon
  | contradictoryModes
  | localeMode
  | twoAlphabets
  | alphabetOff
  /-- A mode of the whole pattern is switched on or off for a part of it. -/
  | globalModeOn
  | globalModeOff
  | lateModes
  | trailingBackslash
  | badEscape (spelling : Text)
  | incompleteEscape (spelling : Text)
  | octalTooLarge (spelling : Text)
  | unknownGroup (index : Nat)
  | groupZero
  | openGroup
  | groupOfSameLookbehind
  | variableLookbehind
  | thirdBranch
  /-- A repetition in a pattern that is to have none. -/
  | repetitionInTemplate (kind : String)
  deriving DecidableEq

namespace Fault

def message : Fault → String
  | unclosedGroup => "missing ), unterminated subpattern"
  | unclosedComment => "missing ), unterminated comment"
  | unopenedGroup => "unbalanced parenthesis"
  | unclosedSet => "unterminated character set"
  | badRange range => "bad character range " ++ range.asString
  | nothingToRepeat => "nothing to repeat"
  | repeatedTwice => "multiple repeat"
  | leastAboveMost => "min repeat greater than max repeat"
  | endOfPattern => "unexpected end of pattern"
  | missingName => "missing group name"
  | missingCharacterName => "missing character name"
  | missingBrace => "missing \x7b"
  | unknownCharacter name => "undefined character name " ++ quotedString name
  | unclosedName closer => s!"missing {closer}, unterminated name"
  | badName name => "bad character in group name " ++ quotedString name
  | nameTaken name index taken =>
    "redefinition of group name " ++ quotedString name ++ s!" as group {index}; was group {taken}"
  | unknownName name => "unknown group name " ++ quotedString name
  | unknownExtension opener => "unknown extension " ++ opener.asString
  | unclosedModes => "missing -, : or )"
  | unknownMode => "unknown flag"
  | missingMode => "missing flag"
  | missingColon => "missing :"
  | contradictoryModes => "bad inline flags: flag turned on and off"
  | localeMode => "bad inline flags: cannot use 'L' flag with a str pattern"
  | twoAlphabets => "bad inline flags: flags 'a', 'u' and 'L' are incompatible"
  | alphabetOff => "bad inline flags: cannot turn off flags 'a', 'u' and 'L'"
  | globalModeOn => "bad inline flags: cannot turn on global flag"
  | globalModeOff => "bad inline flags: cannot turn off global flag"
  | lateModes => "global flags not at the start of the expression"
  | trailingBackslash => "bad escape (end of pattern)"
  | badEscape spelling => "bad escape " ++ spelling.asString
  | incompleteEscape spelling => "incomplete escape " ++ spelling.asString
  | octalTooLarge spelling =>
    "octal escape value " ++ spelling.asString ++ " outside of range 0-0o377"
  | unknownGroup index => s!"invalid group reference {index}"
  | groupZero => "bad group number"
  | openGroup => "cannot refer to an open group"
  | groupOfSameLookbehind => "cannot refer to group defined in the same lookbehind subpattern"
  | variableLookbehind => "look-behind requires fixed-width pattern"
  | thirdBranch => "conditional backref with more than two branches"
  | repetitionInTemplate kind => "internal: unsupported template operator " ++ kind

end Fault

/-- What is wrong with a pattern, and where, if the fault has a place. -/
structure Flaw where
  fault : Fault
  position : Option Nat
  deriving DecidableEq

/-- The line and the column of a position, both counted from one. -/
def lineAndColumn (source : Text) (position : Nat) : Nat × Nat :=
  let before := source.take position
  (before.count '\n' + 1, (before.reverse.takeWhile (· != '\n')).length + 1)

namespace Flaw

/-- A pattern of several lines has the line and the column added. -/
def reason (source : Text) (flaw : Flaw) : String :=
  match flaw.position with
  | none => flaw.fault.message
  | some n =>
    let place := s!"{flaw.fault.message} at position {n}"
    if '\n' ∈ source then
      let (line, column) := lineAndColumn source n
      place ++ s!" (line {line}, column {column})"
    else place

end Flaw

/-- What no pattern may have, at whatever place. -/
inductive Excess
  | repetitions
  /-- A numeral that is far from any code point. -/
  | codePoint
  /-- The whole pattern is to be taken both for characters of ASCII and for all. -/
  | alphabets
  deriving DecidableEq

def Excess.message : Excess → String
  | repetitions => "the repetition number is too large"
  | codePoint => "the code point is too large"
  | alphabets => "ASCII and UNICODE flags are incompatible"

/-- A text is rejected for a flaw or for an excess. -/
inductive Rejection
  | flawed (flaw : Flaw)
  | excessive (excess : Excess)
  deriving DecidableEq

end TonelessPinyin.Pattern
