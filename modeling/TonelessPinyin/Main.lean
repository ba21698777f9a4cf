import TonelessPinyin.CommandLine.Run

/-!
The command line program.
-/

open TonelessPinyin CommandLine

/-- The files among the arguments that can be read. -/
def readFiles (names : List String) : IO (List (Text × Content)) :=
  names.filterMapM fun (name : String) => do
    try
      let bytes ← IO.FS.readBinFile name
      return some (name.toList, .file bytes.toList)
    catch _ => return none

def main (args : List String) : IO UInt32 := do
  let names := match Options.ofArguments (args.map String.toList) with
    | .ok o => o.files
    | .error _ => []
  let files ← readFiles (names.map Text.asString)
  let input ← if names.isEmpty then (← IO.getStdin).readToEnd else pure ""
  let o := run (args.map String.toList) (.ofFiles files) input.toList
  IO.print o.stdout.asString
  IO.eprint o.stderr.asString
  match o.code with
  | .ok n => return n.toUInt32
  | .error _ => return 1
