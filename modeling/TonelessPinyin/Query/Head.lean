import TonelessPinyin.Query.Substitution
import TonelessPinyin.Syllable.Table

/-!
The head of a query: the longest syllable that it begins with, and the pattern of that syllable.
-/
namespace TonelessPinyin.Query

open Text Pattern

/-- The greatest length up to `n`, but at least two, of a syllable that the text begins with. -/
def longestSyllable (table : SyllableTable) (t : Text) : Nat → Option Nat
  | 0 => none
  | 1 => none
  | n + 2 => if table.contains (t.take (n + 2)) then some (n + 2) else longestSyllable table t (n + 1)

/-- The length of the longest syllable that an escaped query begins with and goes beyond. -/
def headLength (table : SyllableTable) (escaped : Text) : Option Nat :=
  longestSyllable table escaped (escaped.length - 1)

/-- The character as the query writes it, if that is the same letter. -/
def inCaseOfLetter (surface toned : Char) : Char :=
  if lower [surface] = [toned] then surface else toned

/-- The pattern of a syllable: its tone cluster becomes the exact class of its vowel. The case is
that of the surface, if there is one of the same length. -/
def syllablePattern (classes : VowelClasses) (model : ToneModel) (toned : Text)
    (surface : Option Text) : Except Error Text :=
  match model.search toned with
  | none => .error (.untonedSyllable toned)
  | some s => do
    let cluster ← model.find (s.of toned)
    let fragment ← classes.find cluster.base
    let assemble := fun (source middle : Text) =>
      escape (source.take s.start) ++ middle ++ escape (source.drop s.stop)
    match surface with
    | none => return assemble toned fragment
    | some written =>
      if written.length = toned.length then
        return assemble (List.zipWith inCaseOfLetter written toned)
          (inCaseOf (s.of written) fragment)
      else return assemble toned fragment

end TonelessPinyin.Query
