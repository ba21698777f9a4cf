import TonelessPinyin.Proofs.Query.Head

/-!
The empty query. Its pattern is empty, and no other query has an empty pattern.
-/
namespace TonelessPinyin

open Text Pattern VowelClasses

namespace Query

variable {tones : Tones}

theorem sourceOf_pieces_ne_nil {g : Grapheme}
    (hcompound : ∀ c d, g = .compound c d → isCompound c d = true) :
    sourceOf (g.pieces tones) ≠ [] := by
  have hvowel {key surface : Text} (h : key ∈ vowelKeys) :
      sourceOf (vowelPieces tones key surface) ≠ [] := by
    intro heq
    have hhead := head?_sourceOf_vowelPieces tones h surface
    rw [heq] at hhead
    cases hhead
  cases g with
  | blank c => exact List.cons_ne_nil _ _
  | letter c =>
    rw [Grapheme.pieces]
    split_ifs with hkey
    · exact hvowel hkey
    · by_cases hc : c ∈ specials <;> simp [sourceOf, Piece.source, escapeLetter, hc]
  | compound c d => exact hvowel (mem_vowelKeys_of_isCompound (hcompound c d rfl))

/-- No blanks come before the first grapheme. -/
theorem exists_piecesFrom_eq (tones : Tones) (tolerant : Bool) (g : Grapheme)
    (gs : List Grapheme) :
    ∃ rest, piecesFrom tones tolerant 0 false (g :: gs) = g.pieces tones ++ rest := by
  cases g with
  | blank c => exact ⟨_, rfl⟩
  | letter c =>
    exact ⟨piecesFrom tones tolerant 1 false gs, by simp [piecesFrom, Grapheme.spelling]⟩
  | compound c d =>
    exact ⟨piecesFrom tones tolerant 2 false gs, by simp [piecesFrom, Grapheme.spelling]⟩

/-- A text that is not empty has a pattern that is not. -/
theorem substitute_ne_nil (tones : Tones) {t : Text} (h : t ≠ []) :
    substitute tones.classes blanks t ≠ [] := by
  have hfirst {g : Grapheme} {gs : List Grapheme} (hgs : graphemes t = g :: gs)
      (hne : sourceOf (g.pieces tones) ≠ []) : substitute tones.classes blanks t ≠ [] := by
    obtain ⟨rest, hrest⟩ := exists_piecesFrom_eq tones (1 < t.length) g gs
    rw [substitute_eq_sourceOf, piecesOf, hgs, hrest, sourceOf_append]
    exact List.append_ne_nil_of_left_ne_nil hne _
  cases t using graphemes_cases with
  | nil => exact absurd rfl h
  | blank c t hb _ => exact hfirst (graphemes_blank hb t) (sourceOf_pieces_ne_nil (by simp))
  | letter c t hb hs _ => exact hfirst (graphemes_letter hb hs) (sourceOf_pieces_ne_nil (by simp))
  | compound c d t hcd _ =>
    refine hfirst (graphemes_compound hcd t) (sourceOf_pieces_ne_nil ?_)
    rintro _ _ ⟨⟩
    exact hcd

/-- No vowel has an empty pattern, in either case. -/
theorem inCaseOf_ne_nil {base fragment : Text} (h : VowelClasses.exact.find base = .ok fragment)
    (written : Text) : inCaseOf written fragment ≠ [] := by
  have hclasses : ∀ p ∈ VowelClasses.exact.classes, p.2 ≠ [] ∧ upper p.2 ≠ [] := by decide
  rw [find] at h
  split at h
  · next found hget =>
    obtain rfl := Except.ok.inj h
    obtain ⟨hplain, hupper⟩ := hclasses _ (Entries.mem_of_get? hget)
    rw [inCaseOf]
    split_ifs
    · exact hupper
    · exact hplain
  · cases h

/-- The pattern of a syllable has that of its vowel in it. -/
theorem syllablePattern_ne_nil {model : ToneModel} {toned head : Text} {surface : Option Text}
    (h : syllablePattern .exact model toned surface = .ok head) : head ≠ [] := by
  obtain ⟨base, fragment, before, written, after, hfragment, rfl⟩ := exists_of_syllablePattern h
  have hvowel := inCaseOf_ne_nil hfragment written
  exact List.append_ne_nil_of_left_ne_nil (List.append_ne_nil_of_right_ne_nil _ hvowel) _

theorem compileHead_ne_nil {c : Compiler} (hexact : c.exact = .exact) {query : Text} {n : Nat}
    {compiled : Compiler.Compiled} (h : c.compileHead query n = .ok compiled) :
    compiled.pattern ≠ [] := by
  obtain ⟨toned, head, hhead, hpattern⟩ := exists_of_compileHead h
  rw [hexact] at hhead
  have hne := syllablePattern_ne_nil hhead
  rcases hpattern with hpattern | hpattern
  · rw [hpattern]
    exact hne
  · rw [hpattern]
    exact List.append_ne_nil_of_left_ne_nil (List.append_ne_nil_of_left_ne_nil hne _) _

end Query

namespace Engine

theorem compile_nil (e : Engine) (strategy : Strategy) : e.compile [] (some strategy) = .ok [] := by
  cases strategy
  · rfl
  · rfl

theorem exact_of_build {settings : Settings} {model : ToneModel} {syllables : Option (List Text)}
    {e : Engine} (hbuild : Engine.build settings model syllables = .ok e) :
    e.compiler.exact = .exact := by
  rw [build] at hbuild
  split at hbuild
  · cases hbuild
  · obtain rfl := Except.ok.inj hbuild
    rfl

/-- The empty query alone has an empty pattern. -/
theorem pattern_eq_nil_iff {e : Engine} (hexact : e.compiler.exact = .exact) {query pattern : Text}
    {strategy : Strategy} (h : e.compile query (some strategy) = .ok pattern) :
    pattern = [] ↔ query = [] := by
  constructor
  · intro hpattern
    by_contra hne
    cases strategy with
    | regexp => exact hne ((Except.ok.inj h).trans hpattern)
    | pinyin =>
      change e.compiler.compile query .pinyin = .ok pattern at h
      cases hhead : Query.headLength e.compiler.table (escape query) with
      | none =>
        rw [Query.compile_of_headLength_eq_none hhead, hexact] at h
        exact Query.substitute_ne_nil .required hne ((Except.ok.inj h).trans hpattern)
      | some n =>
        rw [Query.compile_of_headLength_eq_some hhead] at h
        cases hcompiled : e.compiler.compileHead query n with
        | error error => simp [hcompiled, Except.map] at h
        | ok compiled =>
          rw [hcompiled] at h
          exact Query.compileHead_ne_nil hexact hcompiled ((Except.ok.inj h).trans hpattern)
  · rintro rfl
    rw [e.compile_nil] at h
    exact (Except.ok.inj h).symm

end Engine

end TonelessPinyin
