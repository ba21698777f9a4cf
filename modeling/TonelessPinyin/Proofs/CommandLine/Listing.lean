import TonelessPinyin.CommandLine.Run
import TonelessPinyin.Proofs.Syllable.Standard

/-!
Listing and counting. Both read the same sources and find the same lines in them; one prints the
lines with their numbers, the other how many they are. A file that cannot be opened ends the run,
and what has been printed before stays.
-/
namespace TonelessPinyin

open Text Pattern

/-! ## Lines -/

namespace Text

end Text

namespace CommandLine

variable {r : Node} {tree : FileTree} {input : Text}

/-! ## What is listed -/

/-- Where text comes from: a file by its name, or the standard input. -/
abbrev Source := Option Text × Text

namespace Outcome

end Outcome

namespace Options

/-- The pattern to search for. -/
def prepared (o : Options) : Except Error Node := do
  let e ← Engine.build o.settings .standard none
  let pattern ← e.compile o.query (some o.strategy)
  prepare e.settings.caseless pattern

end Options

/-- The arguments are options that have lines searched for, and the pattern can be read. -/
structure Searches (arguments : List Text) (o : Options) (r : Node) : Prop where
  options : Options.ofArguments arguments = .ok o
  searches : o.has .showPattern = false
  prepared : o.prepared = .ok r

end CommandLine

end TonelessPinyin
