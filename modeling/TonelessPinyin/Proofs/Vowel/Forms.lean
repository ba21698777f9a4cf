import TonelessPinyin.Proofs.Pattern.Piece

/-!
The letters that a vowel of a query may stand for, by the marking of tones, and the vowel classes as
sets of these letters.
-/
namespace TonelessPinyin

open Text Pattern

/-- Whether the tone of a vowel must be written. -/
inductive Tones
  | required
  | optional
  deriving DecidableEq

def tonesOf (vowel : Char) : Text := (Marking.standard.marks.get? [vowel]).getD []

/-- The toned letters of a vowel; u and v share theirs. -/
def tonedForms (vowel : Char) : Text :=
  if vowel = 'u' ∨ vowel = 'v' then tonesOf 'u' ++ tonesOf 'v' else tonesOf vowel

/-- The letters of a vowel without a tone. -/
def untonedForms (vowel : Char) : Text :=
  if vowel = 'u' ∨ vowel = 'v' then ['u', 'ü'] else [vowel]

namespace Tones

def forms : Tones → Char → Text
  | required, vowel => tonedForms vowel
  | optional, vowel => untonedForms vowel ++ tonedForms vowel

def classes : Tones → VowelClasses
  | required => .exact
  | optional => .relaxed

/-- The letters for each character of a vowel. The first of two is an untoned u or ü. -/
def lettersOf (tones : Tones) : Text → List Text
  | [vowel] => [tones.forms vowel]
  | [_, vowel] => [untonedForms 'u', tones.forms vowel]
  | _ => []

end Tones

/-- The texts with one letter from each set, in order. -/
def oneOfEach (sets : List Text) : Language Char := {w | List.Forall₂ (· ∈ ·) w sets}

theorem mem_oneOfEach {sets : List Text} {w : Text} :
    w ∈ oneOfEach sets ↔ List.Forall₂ (· ∈ ·) w sets := Iff.rfl

/-- The vowels of queries, in the order in which they are tried. -/
def vowelKeys : List Text :=
  [['u', 'e'], ['v', 'e'], ['a'], ['e'], ['i'], ['o'], ['u'], ['v']]

namespace Tones

theorem sortLongest_keys (tones : Tones) : sortLongest tones.classes.classes.keys = vowelKeys := by
  cases tones <;> decide

/-- The pattern of every vowel is made of the sets of its letters. -/
theorem get?_classes (tones : Tones) :
    ∀ key ∈ vowelKeys, tones.classes.classes.get? (lower key) =
      some ((tones.lettersOf key).flatMap VowelClasses.set) := by
  cases tones <;> decide

theorem find_classes (tones : Tones) {key : Text} (h : key ∈ vowelKeys) :
    tones.classes.find key = .ok ((tones.lettersOf key).flatMap VowelClasses.set) := by
  rw [VowelClasses.find, get?_classes tones key h]

end Tones

/-! ## Vowels as pieces -/

open Query

/-- The sets that a vowel becomes, in the case of its surface. -/
def vowelPieces (tones : Tones) (key surface : Text) : List Piece :=
  (tones.lettersOf key).map fun letters => .set (inCaseOf surface letters)

/-- The texts of a vowel, in capitals if its surface is. -/
def vowelTexts (tones : Tones) (key surface : Text) : Language Char :=
  oneOfEach ((tones.lettersOf key).map (inCaseOf surface))

theorem upper_append (a b : Text) : upper (a ++ b) = upper a ++ upper b := List.flatMap_append

theorem upper_set (letters : Text) :
    upper (VowelClasses.set letters) = VowelClasses.set (upper letters) := by
  have hopen : upperLetter '[' = ['['] := by decide
  have hclose : upper [']'] = [']'] := by decide
  simp only [VowelClasses.set, List.cons_append, upper, List.flatMap_cons, hopen,
    List.flatMap_append]
  exact congrArg (fun t => '[' :: (letters.flatMap upperLetter ++ t)) hclose

theorem inCaseOf_flatMap_set (surface : Text) (sets : List Text) :
    inCaseOf surface (sets.flatMap VowelClasses.set) =
      sourceOf (sets.map fun letters => .set (inCaseOf surface letters)) := by
  induction sets with
  | nil => simp [inCaseOf, upper, sourceOf]
  | cons letters sets ih =>
    rw [List.map_cons, sourceOf, List.flatMap_cons, List.flatMap_cons]
    rw [sourceOf] at ih
    rw [← ih]
    cases h : isUpper surface <;> simp [inCaseOf, h, Piece.source, upper_append, upper_set]

/-- The pattern of a vowel in the case of its surface is spelled by its pieces. -/
theorem inCaseOf_eq_sourceOf (tones : Tones) (key surface : Text) :
    inCaseOf surface ((tones.lettersOf key).flatMap VowelClasses.set) =
      sourceOf (vowelPieces tones key surface) :=
  inCaseOf_flatMap_set surface _

/-- Neither case of a vowel's letters has any that means something in a set, or a blank. -/
theorem lettersOf_plain (tones : Tones) :
    ∀ key ∈ vowelKeys, ∀ letters ∈ tones.lettersOf key, ∀ cased ∈ [letters, upper letters],
      (Piece.set cased).IsPlain ∧ ∀ c ∈ cased, isBlank c = false := by
  cases tones <;> decide

theorem inCaseOf_mem (surface letters : Text) :
    inCaseOf surface letters ∈ [letters, upper letters] := by
  cases h : isUpper surface <;> simp [inCaseOf, h]

theorem mem_vowelPieces_plain {tones : Tones} {key surface : Text} (hkey : key ∈ vowelKeys)
    {p : Piece} (hp : p ∈ vowelPieces tones key surface) :
    p.IsPlain ∧ p.isSolid = true ∧ ∀ c ∈ p.letters, isBlank c = false := by
  obtain ⟨letters, hletters, rfl⟩ := List.mem_map.1 hp
  obtain ⟨hplain, hblank⟩ :=
    lettersOf_plain tones key hkey letters hletters _ (inCaseOf_mem surface letters)
  exact ⟨hplain, rfl, hblank⟩

end TonelessPinyin
