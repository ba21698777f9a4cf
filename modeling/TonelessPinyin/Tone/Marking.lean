import TonelessPinyin.Entries

/-!
How tones are written: the toned forms of each vowel, the vowels written with a letter before the
toned one, and the plain spellings.
-/
namespace TonelessPinyin

structure Marking where
  /-- The toned letters of a vowel, by tone. -/
  marks : Entries Text
  /-- A vowel spelled by an untoned letter and a vowel of `marks`. -/
  compounds : Entries (Text × Text)
  /-- The plain spelling of a vowel, where it is not its own name. -/
  plainBases : Entries Text
  /-- The untoned letters of syllables. -/
  alphabet : Text
  deriving DecidableEq

namespace Marking

/-- The vowel ü is called `v`, and `ve` where an e with the tone follows. It is plainly spelled as
u. -/
def standard : Marking where
  marks := [
    (['a'], ['ā', 'á', 'ǎ', 'à']),
    (['e'], ['ē', 'é', 'ě', 'è']),
    (['i'], ['ī', 'í', 'ǐ', 'ì']),
    (['o'], ['ō', 'ó', 'ǒ', 'ò']),
    (['u'], ['ū', 'ú', 'ǔ', 'ù']),
    (['v'], ['ǖ', 'ǘ', 'ǚ', 'ǜ'])]
  compounds := [(['v', 'e'], (['ü'], ['e']))]
  plainBases := [(['v'], ['u']), (['v', 'e'], ['u', 'e'])]
  alphabet := [
    'a', 'b', 'c', 'd', 'e', 'f', 'g', 'h', 'i', 'j', 'k', 'l', 'm', 'n', 'o', 'p', 'q', 'r',
    's', 't', 'u', 'v', 'w', 'x', 'y', 'z', 'ü']

def plainBase (m : Marking) (base : Text) : Text := (m.plainBases.get? base).getD base

def tonedLetters (m : Marking) : Text := m.marks.flatMap (·.2)

/-- The letters of a toned syllable. -/
def letters (m : Marking) : Text := m.alphabet ++ m.tonedLetters

end Marking

end TonelessPinyin
