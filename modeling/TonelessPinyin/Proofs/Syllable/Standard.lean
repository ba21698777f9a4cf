import TonelessPinyin.Engine
import TonelessPinyin.Proofs.Syllable.Readings

/-!
The standard syllables. Each is spelled with a toned letter, so they make a table, and an engine
that is given no syllables can be built.
-/
namespace TonelessPinyin

open Text Pattern Syllable

namespace Engine

end Engine

end TonelessPinyin
