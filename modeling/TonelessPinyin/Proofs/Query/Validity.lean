import TonelessPinyin.Proofs.Query.Pieces

/-!
Whatever the table and the tone model are, a pinyin pattern over the standard vowel classes can be
read: it is spelled by plain pieces.
-/
namespace TonelessPinyin

open Text Pattern

namespace Query

/-- The pattern is spelled by pieces that can be read. -/
def IsSpelledPlainly (pattern : Text) : Prop :=
  ∃ ps : List Piece, (∀ p ∈ ps, p.IsPlain) ∧ pattern = sourceOf ps

namespace IsSpelledPlainly

theorem append {a b : Text} (ha : IsSpelledPlainly a) (hb : IsSpelledPlainly b) :
    IsSpelledPlainly (a ++ b) := by
  obtain ⟨ps, hps, rfl⟩ := ha
  obtain ⟨qs, hqs, rfl⟩ := hb
  exact ⟨ps ++ qs, List.forall_mem_append.2 ⟨hps, hqs⟩, (sourceOf_append ps qs).symm⟩

theorem nil : IsSpelledPlainly [] := ⟨[], by simp, rfl⟩

theorem blanks : IsSpelledPlainly blanks := ⟨[.blanks], by simp [Piece.IsPlain], rfl⟩

theorem escape (t : Text) : IsSpelledPlainly (escape t) := by
  refine ⟨t.map .letter, fun p hp => ?_, escape_eq_sourceOf t⟩
  obtain ⟨c, -, rfl⟩ := List.mem_map.1 hp
  trivial

theorem substitute (tones : Tones) (t : Text) :
    IsSpelledPlainly (substitute tones.classes Query.blanks t) :=
  ⟨piecesOf tones t, fun p hp => (isClean_of_mem_piecesFrom p hp).1, substitute_eq_sourceOf tones t⟩

theorem withTail {head tail : Text} (hhead : IsSpelledPlainly head) (htail : IsSpelledPlainly tail) :
    IsSpelledPlainly (Compiler.withTail head tail) := by
  rw [Compiler.withTail]
  refine (hhead.append ?_).append htail
  split_ifs
  · exact nil
  · exact blanks

end IsSpelledPlainly

/-! ## Vowels -/

theorem classes_spelled (tones : Tones) :
    ∀ p ∈ tones.classes.classes,
      p.1 ∈ vowelKeys ∧ p.2 = (tones.lettersOf p.1).flatMap VowelClasses.set := by
  cases tones <;> decide

/-- Whatever a cluster of the model is based on: if it has a class, this can be read in either
case. -/
theorem isSpelledPlainly_of_find {tones : Tones} {base fragment : Text}
    (h : tones.classes.find base = .ok fragment) (written : Text) :
    IsSpelledPlainly (inCaseOf written fragment) := by
  rw [VowelClasses.find] at h
  cases hget : tones.classes.classes.get? (lower base) with
  | none => simp [hget] at h
  | some found =>
    obtain rfl : found = fragment := by simpa [hget] using h
    obtain ⟨hkey, hsets⟩ := classes_spelled tones _ (Entries.mem_of_get? hget)
    dsimp only at hkey hsets
    refine ⟨vowelPieces tones (lower base) written, ?_, ?_⟩
    · exact fun p hp => (mem_vowelPieces_plain hkey hp).1
    · rw [hsets, inCaseOf_eq_sourceOf]

/-! ## Syllables and queries -/

theorem isSpelledPlainly_syllablePattern {model : ToneModel} {toned pattern : Text}
    {surface : Option Text} (h : syllablePattern .exact model toned surface = .ok pattern) :
    IsSpelledPlainly pattern := by
  obtain ⟨base, fragment, before, written, after, hfragment, rfl⟩ := exists_of_syllablePattern h
  have hfound : Tones.required.classes.find base = .ok fragment := hfragment
  have hvowel := isSpelledPlainly_of_find hfound written
  exact ((IsSpelledPlainly.escape before).append hvowel).append (.escape after)

theorem isSpelledPlainly_compileHead {c : Compiler} (hexact : c.exact = .exact)
    (hrelaxed : c.relaxed = .relaxed) {query : Text} {length : Nat} {compiled : Compiler.Compiled}
    (h : c.compileHead query length = .ok compiled) : IsSpelledPlainly compiled.pattern := by
  obtain ⟨toned, head, hhead, hpattern⟩ := exists_of_compileHead h
  rw [hexact] at hhead
  have hspelled := isSpelledPlainly_syllablePattern hhead
  rcases hpattern with hpattern | hpattern
  · rw [hpattern]
    exact hspelled
  · rw [hpattern, hrelaxed]
    exact hspelled.withTail (.substitute .optional _)

end Query

namespace Compiler

open Query

theorem isSpelledPlainly {c : Compiler} (hexact : c.exact = .exact) (hrelaxed : c.relaxed = .relaxed)
    {query pattern : Text} (h : c.compile query .pinyin = .ok pattern) :
    IsSpelledPlainly pattern := by
  cases hhead : headLength c.table (Pattern.escape query) with
  | none =>
    rw [compile_of_headLength_eq_none hhead, hexact] at h
    obtain rfl := Except.ok.inj h
    exact .substitute .required query
  | some n =>
    rw [compile_of_headLength_eq_some hhead] at h
    cases hcompiled : c.compileHead query n with
    | error e => simp [hcompiled, Except.map] at h
    | ok compiled =>
      rw [hcompiled] at h
      obtain rfl := Except.ok.inj h
      exact isSpelledPlainly_compileHead hexact hrelaxed hcompiled

/-- A pinyin pattern is never refused, with or without regard to case. -/
theorem prepare_of_compile {c : Compiler} (hexact : c.exact = .exact)
    (hrelaxed : c.relaxed = .relaxed) {query pattern : Text}
    (h : c.compile query .pinyin = .ok pattern) (caseless : Bool) :
    ∃ r, prepare caseless pattern = .ok r := by
  obtain ⟨ps, hps, rfl⟩ := isSpelledPlainly hexact hrelaxed h
  obtain ⟨r, hr, -⟩ := prepare_sourceOf hps caseless
  exact ⟨r, hr⟩

end Compiler

end TonelessPinyin
