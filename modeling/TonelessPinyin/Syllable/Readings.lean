import TonelessPinyin.Syllable.Key
import TonelessPinyin.Text.Blank

/-!
Toned syllables from a dictionary of readings, each of which lists syllables between commas.
-/
namespace TonelessPinyin.Syllable

open Text

/-- The syllables of the readings as they are written, apart from case and the blanks around
them. -/
def spelled (readings : List Text) : List Text :=
  readings.flatMap fun r => (separatedBy ',' r).map fun part => lower (trim part)

/-- A syllable of the letters of the marking, with a tone. -/
def isToned (marking : Marking) (syllable : Text) : Bool :=
  !syllable.isEmpty && syllable.all marking.letters.contains &&
    (ToneModel.standard.search syllable).isSome

/-- The texts without those that came before. -/
def firstOccurrences : List Text → List Text → List Text
  | _, [] => []
  | seen, t :: rest =>
    if seen.contains t then firstOccurrences seen rest
    else t :: firstOccurrences (t :: seen) rest

def ofReadings (marking : Marking) (readings : List Text) : Except Error (List Text) :=
  if marking.letters.isEmpty then .error .noLetters
  else .ok ((firstOccurrences [] (spelled readings)).filter (isToned marking))

end TonelessPinyin.Syllable
