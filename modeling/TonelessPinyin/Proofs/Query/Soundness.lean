import TonelessPinyin.Proofs.Query.Pieces

/-!
What an engine finds is spelled like its query. Apart from blanks, a stretch that is found and the
query have the same plain letters one to one.
-/
namespace TonelessPinyin

open Text Pattern Query Syllable

theorem forall₂_trans {α β γ : Type} {R : α → β → Prop} {S : β → γ → Prop} {T : α → γ → Prop}
    (h : ∀ a b c, R a b → S b c → T a c) {as : List α} {bs : List β} {cs : List γ}
    (hR : List.Forall₂ R as bs) (hS : List.Forall₂ S bs cs) : List.Forall₂ T as cs := by
  induction hR generalizing cs with
  | nil =>
    cases hS
    exact .nil
  | cons hab _ ih =>
    cases hS with
    | cons hbc hrest => exact .cons (h _ _ _ hab hbc) (ih hrest)

namespace Query

/-- All letters of the piece have the plain form of the character. -/
def StandsFor (p : Piece) (c : Char) : Prop := ∀ d ∈ p.letters, plainForm d = plainForm c

variable {tones : Tones}

/-! ## Vowels and single letters -/

theorem plainForm_lettersOf (tones : Tones) :
    ∀ key ∈ vowelKeys, List.Forall₂ (fun letters v => ∀ cased ∈ [letters, upper letters],
      ∀ d ∈ cased, plainForm d = [plainLetter v]) (tones.lettersOf key) key := by
  cases tones <;> decide

theorem standsFor_vowelPieces {key surface : Text} (hkey : key ∈ vowelKeys)
    (h : List.Forall₂ (fun v c => plainForm c = [plainLetter v]) key surface) :
    List.Forall₂ StandsFor (vowelPieces tones key surface) surface := by
  rw [vowelPieces, List.forall₂_map_left_iff]
  apply forall₂_trans _ (plainForm_lettersOf tones key hkey) h
  intro letters v c hv hc d hd
  rw [hv _ (inCaseOf_mem surface letters) d hd, hc]

theorem standsFor_letter (tones : Tones) (c : Char) :
    List.Forall₂ StandsFor ((Grapheme.letter c).pieces tones) [c] := by
  rw [Grapheme.pieces]
  split_ifs with hkey
  · have hI : c ≠ 'İ' := by
      rintro rfl
      exact absurd hkey (by decide)
    apply standsFor_vowelPieces hkey
    rw [lower_singleton hI]
    exact .cons (plainForm_eq hI) .nil
  · exact .cons (by simp [StandsFor, Piece.letters]) .nil

theorem standsFor_compound {c d : Char} (h : isCompound c d = true) :
    List.Forall₂ StandsFor ((Grapheme.compound c d).pieces tones) [c, d] := by
  obtain ⟨hc, hd⟩ := lowerLetter_of_isCompound h
  have hcI : c ≠ 'İ' := by
    rintro rfl
    exact absurd hc (by decide)
  have hdI : d ≠ 'İ' := by
    rintro rfl
    exact absurd hd (by decide)
  apply standsFor_vowelPieces (mem_vowelKeys_of_isCompound h)
  rw [lower_pair h]
  exact .cons (plainForm_eq hcI) (.cons (plainForm_eq hdI) .nil)

theorem standsFor_solidPieces (tones : Tones) (t : Text) :
    List.Forall₂ StandsFor (solidPieces tones t) (t.filter (!isBlank ·)) := by
  induction t using graphemes_cases with
  | nil => exact .nil
  | blank c t hb ih =>
    rw [solidPieces_blank hb, List.filter_cons_of_neg (by simp [hb])]
    exact ih
  | letter c t hb h ih =>
    rw [solidPieces_letter hb h, List.filter_cons_of_pos (by simp [hb])]
    exact List.rel_append (standsFor_letter tones c) ih
  | compound c d t h ih =>
    obtain ⟨hc, hd⟩ := not_blank_of_isCompound h
    rw [solidPieces_compound h, List.filter_cons_of_pos (by simp [hc]),
      List.filter_cons_of_pos (by simp [hd])]
    exact List.rel_append (standsFor_compound h) ih

/-! ## Heads -/

/-- A character with the key of a letter has the plain form of that letter. -/
theorem plainForm_eq_of_normalizeKey {c d : Char} (h : normalizeKey [c] = [foldLetter d]) :
    plainForm c = [plainLetter d] := by
  have hplain : plainForm c = (normalizeKey [c]).map plainLetter := by
    rw [plainForm, normalizeKey, List.map_map]
    exact List.map_congr_left fun d _ => (plainLetter_foldLetter d).symm
  rw [hplain, h, List.map_singleton, plainLetter_foldLetter]

theorem standsFor_letters {surface toned : Text} (htoned : IsSpelled toned)
    (h : List.Forall₂ (fun c d => normalizeKey [c] = [foldLetter d]) surface toned) :
    List.Forall₂ StandsFor ((List.zipWith inCaseOfLetter surface toned).map .letter) surface := by
  induction h with
  | nil => exact .nil
  | @cons c d _ _ hcd _ ih =>
    obtain ⟨hd, htoned⟩ := List.forall_mem_cons.1 htoned
    refine .cons ?_ (ih htoned)
    have hsame : plainForm (inCaseOfLetter c d) = plainForm c := by
      rw [inCaseOfLetter]
      split_ifs
      · rfl
      · rw [plainForm_of_mem_letters hd, plainForm_eq_of_normalizeKey hcd]
    simpa [StandsFor, Piece.letters] using hsame

theorem plainLetter_vowelOf {cluster base : Text} (h : SpellsVowel cluster base) :
    (vowelOf cluster).map plainLetter = cluster.map fun c => plainLetter (plainLetter c) := by
  rcases h with ⟨c, hc, rfl, -⟩ | ⟨c, hc, rfl, -⟩
  · revert c
    decide
  · revert c
    decide

theorem standsFor_headPieces {table : SyllableTable} {query : Text} {n : Nat}
    {before cluster after base first written last : Text}
    (h : IsWrittenHead table query n before cluster after base first written last) :
    List.Forall₂ StandsFor (headPieces (before ++ cluster ++ after) (query.take n))
      (query.take n) := by
  obtain ⟨hbefore, -, hafter⟩ := IsSpelled.append_append_iff.1 h.spelled
  have hvowel : List.Forall₂ (fun v c => plainForm c = [plainLetter v]) (vowelOf cluster) written := by
    have hforms : List.Forall₂ (fun v d => plainLetter v = plainLetter (plainLetter d))
        (vowelOf cluster) cluster := by
      have hmap := plainLetter_vowelOf h.carriesTone.spells
      rwa [← List.forall₂_eq_eq_eq, List.forall₂_map_left_iff, List.forall₂_map_right_iff] at hmap
    apply forall₂_trans _ hforms h.surface.written.flip
    intro v d c hv hc
    have hplain : plainLetter d = foldLetter (untoned d) := rfl
    rw [hplain] at hc
    rw [plainForm_eq_of_normalizeKey hc, hv, hplain, plainLetter_foldLetter]
  have hkey := h.carriesTone.spells.vowelOf_mem_keys
  rw [headPieces_eq h.carriesTone h.surface, h.surface.split]
  exact List.rel_append (List.rel_append (standsFor_letters hbefore h.surface.first)
    (standsFor_vowelPieces hkey hvowel)) (standsFor_letters hafter h.surface.last)

/-! ## Whole queries -/

variable {table : SyllableTable} {syllables : List Text}

theorem not_isBlank_of_isSpelled_lower {t : Text} (h : IsSpelled (lower t)) :
    ∀ c ∈ t, isBlank c = false := by
  intro c hc
  rw [← isBlank_lowerLetter c]
  exact not_isBlank_of_mem_letters _ (h.lowerLetter_mem hc)

theorem standsFor_queryPieces (h : table.IsBuiltFrom syllables) (query : Text) :
    List.Forall₂ StandsFor ((queryPieces table query).filter Piece.isSolid)
      (query.filter (!isBlank ·)) := by
  cases hhead : headLength table (escape query) with
  | none =>
    rw [queryPieces_of_none hhead, piecesOf, filter_isSolid_piecesFrom]
    exact standsFor_solidPieces .required query
  | some n =>
    obtain ⟨before, cluster, after, base, first, written, last, hw⟩ := exists_isWrittenHead h hhead
    have hsolid : (query.take n).filter (!isBlank ·) = query.take n := by
      apply List.filter_eq_self.2
      intro c hc
      simpa using not_isBlank_of_isSpelled_lower (h.isSpelled_of_get? hw.isHead.get).2 c hc
    have hsplit : query.filter (!isBlank ·) =
        query.take n ++ (query.drop n).filter (!isBlank ·) := by
      conv_lhs => rw [← List.take_append_drop n query]
      rw [List.filter_append, hsolid]
    rw [queryPieces_of_some hhead hw.isHead, List.filter_append,
      filter_isSolid_headPieces hw.carriesTone hw.surface, filter_isSolid_afterGap, piecesOf,
      filter_isSolid_piecesFrom, hsplit]
    exact List.rel_append (standsFor_headPieces hw) (standsFor_solidPieces .optional _)

end Query

/-- The character is, up to its case in a caseless search, one with the plain form of the query's. -/
def Sounds (caseless : Bool) (c queried : Char) : Prop :=
  ∃ d, (if caseless then agrees d c else d == c) = true ∧ plainForm d = plainForm queried

theorem sounds_of_mem_languageOf {table : SyllableTable} {syllables : List Text}
    (h : table.IsBuiltFrom syllables) {caseless : Bool} {query w : Text}
    (hw : w ∈ languageOf (Modes.start caseless).casing (queryPieces table query)) :
    List.Forall₂ (Sounds caseless) (w.filter (!isBlank ·)) (query.filter (!isBlank ·)) := by
  have hblank := fun p hp => (isClean_of_mem_queryPieces h query p hp).2
  apply forall₂_trans _ (forall₂_accepts_of_mem hblank hw).flip (standsFor_queryPieces h query)
  intro c p queried hpc hpq
  obtain ⟨d, hd, hdc⟩ := hpc
  refine ⟨d, ?_, hpq d hd⟩
  cases caseless <;> exact hdc

namespace Engine

variable {settings : Settings} {syllables : List Text} {e : Engine}

theorem compiler_of_build (hbuild : Engine.build settings .standard (some syllables) = .ok e)
    (hspelled : ∀ s ∈ syllables, IsSpelled (lower s)) :
    ∃ table, table.IsBuiltFrom syllables ∧ e.compiler = .ofTable table := by
  obtain ⟨table, htable, hcompiler⟩ := exists_table_of_build hbuild
  exact ⟨table, ⟨htable, hspelled⟩, hcompiler⟩

/-- No false finds. Over an engine that is built from spelled syllables every pinyin query has a
pattern, and apart from blanks all that the pattern matches sounds like the query character by
character. A query that is not blank has no empty match. -/
theorem spans_sound (hbuild : Engine.build settings .standard (some syllables) = .ok e)
    (hspelled : ∀ s ∈ syllables, IsSpelled (lower s)) (query t : Text) :
    ∃ pattern r, e.compile query (some .pinyin) = .ok pattern ∧
      prepare e.settings.caseless pattern = .ok r ∧
      e.spans query t (some .pinyin) = .ok ((r.spans t).filter fun s => s.start < s.stop) ∧
      (∀ s ∈ r.spans t, List.Forall₂ (Sounds e.settings.caseless)
        ((s.of t).filter (!isBlank ·)) (query.filter (!isBlank ·))) ∧
      ((∃ c ∈ query, isBlank c = false) → ∀ s ∈ r.spans t, s.start < s.stop) := by
  obtain ⟨table, htable, hcompiler⟩ := compiler_of_build hbuild hspelled
  obtain ⟨pattern, r, hcompile, hprepare, hrecognises⟩ :=
    exists_recognises htable query e.settings.caseless
  have hpattern : e.compile query (some .pinyin) = .ok pattern := by
    rw [Engine.compile, hcompiler]
    exact hcompile
  have hsounds : ∀ s ∈ r.spans t, List.Forall₂ (Sounds e.settings.caseless)
      ((s.of t).filter (!isBlank ·)) (query.filter (!isBlank ·)) := by
    intro s hs
    exact sounds_of_mem_languageOf htable (hrecognises.mem_spans hs)
  refine ⟨pattern, r, hpattern, hprepare, ?_, hsounds, ?_⟩
  · simp only [Engine.spans, hpattern, hprepare, bind, Except.bind]
    rfl
  · rintro ⟨c, hc, hblank⟩ s hs
    by_contra hempty
    -- an empty match leaves nothing that sounds like `c`
    have hnone : s.of t = [] := by
      rw [Span.of, slice]
      exact List.drop_eq_nil_of_le ((List.length_take_le _ _).trans (Nat.le_of_not_lt hempty))
    have hfound := hsounds s hs
    rw [hnone, List.filter_nil, List.forall₂_nil_left_iff, List.filter_eq_nil_iff] at hfound
    exact hfound c hc (by simp [hblank])

/-- Over the syllable lǔ the query `Lux` finds `lǔ X`, which sounds like it. -/
theorem spans_sound_lux :
    let e : Engine := ⟨.ofTable ⟨[(['l', 'u'], ['l', 'ǔ'])]⟩, .custom, ⟨true, .pinyin⟩⟩
    e.spans ['L', 'u', 'x'] ['l', 'ǔ', ' ', 'X'] (some .pinyin) = .ok [⟨0, 4⟩] ∧
      List.Forall₂ (Sounds true) ['l', 'ǔ', 'X'] ['L', 'u', 'x'] := by
  intro e
  have hspans : e.spans ['L', 'u', 'x'] ['l', 'ǔ', ' ', 'X'] (some .pinyin) = .ok [⟨0, 4⟩] := by
    decide
  have hbuild : Engine.build ⟨true, .pinyin⟩ .standard (some [['l', 'ǔ']]) = .ok e := by
    decide
  obtain ⟨pattern, r, -, -, hfound, hsounds, -⟩ :=
    spans_sound hbuild (by decide) ['L', 'u', 'x'] ['l', 'ǔ', ' ', 'X']
  have hmem : (⟨0, 4⟩ : Span) ∈ r.spans ['l', 'ǔ', ' ', 'X'] := by
    have heq := Except.ok.inj (hfound.symm.trans hspans)
    exact List.mem_of_mem_filter (heq ▸ List.mem_singleton_self _)
  exact ⟨hspans, hsounds _ hmem⟩

end Engine

end TonelessPinyin
