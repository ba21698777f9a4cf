import TonelessPinyin.Proofs.Pattern.Likeness
import TonelessPinyin.Proofs.Query.Correspondence
import TonelessPinyin.Proofs.Query.Plain

/-!
Searches without regard to case. Queries that differ in case only, or write v for u in places, have
alike pieces, so they find the same stretches of texts that differ in case only.
-/
namespace TonelessPinyin

open Text Pattern Syllable

namespace Query

/-! ## Characters -/

/-- The character is u or v in some case. -/
def IsU (c : Char) : Prop := lower [c] = ['u'] ∨ lower [c] = ['v']

/-- The characters have the same lower case, or both are u or v. -/
def SameVowel (c d : Char) : Prop := lower [c] = lower [d] ∨ IsU c ∧ IsU d

theorem lowerLetter_eq_of_lower_eq {c d : Char} (h : lower [c] = lower [d]) :
    lowerLetter c = lowerLetter d := by
  have htwo : (lower ['İ']).length = 2 := by decide
  by_cases hc : c = 'İ'
  · subst hc
    by_cases hd : d = 'İ'
    · rw [hd]
    · rw [h, lower_singleton hd] at htwo
      cases htwo
  · by_cases hd : d = 'İ'
    · subst hd
      rw [← h, lower_singleton hc] at htwo
      cases htwo
    · rw [lower_singleton hc, lower_singleton hd] at h
      exact List.singleton_inj.1 h

theorem fold_eq_of_lowerLetter_eq {c d : Char} (h : lowerLetter c = lowerLetter d) :
    fold c = fold d := by
  rw [fold, fold, h]

theorem lower_singleton_eq_iff {c v : Char} (hv : v ∈ ['u', 'v', 'e']) :
    lower [c] = [v] ↔ lowerLetter c = v := by
  by_cases hI : c = 'İ'
  · subst hI
    revert v
    decide
  · rw [lower_singleton hI, List.singleton_inj]

theorem isCompound_iff_letters {c d : Char} :
    isCompound c d = true ↔ IsU c ∧ lower [d] = ['e'] := by
  rw [IsU, lower_singleton_eq_iff (by decide), lower_singleton_eq_iff (by decide),
    lower_singleton_eq_iff (by decide)]
  constructor
  · exact lowerLetter_of_isCompound
  · rintro ⟨hc, hd⟩
    have hpair : lower [c, d] = [lowerLetter c, lowerLetter d] := by
      apply lowerAfter_eq_map
      · intro hm
        rcases List.mem_pair.1 hm with rfl | rfl
        · exact absurd hc (by decide)
        · exact absurd hd (by decide)
      · intro hm
        rcases List.mem_pair.1 hm with rfl | rfl
        · exact absurd hc (by decide)
        · exact absurd hd (by decide)
    rw [isCompound_iff, hpair, hd]
    exact hc.imp (fun hu => by rw [hu]) fun hv => by rw [hv]

namespace IsU

theorem not_isBlank {c : Char} (h : IsU c) : isBlank c = false := by
  rw [IsU, lower_singleton_eq_iff (by decide), lower_singleton_eq_iff (by decide)] at h
  rw [← isBlank_lowerLetter c]
  rcases h with h | h <;> rw [h] <;> decide

theorem lower_ne {c : Char} (h : IsU c) : lower [c] ≠ ['e'] := by
  rcases h with h | h <;> rw [h] <;> decide

end IsU

namespace SameVowel

variable {c d c' d' : Char}

theorem sameKey (h : SameVowel c d) : SameKey c d := by
  rcases h with h | ⟨hc, hd⟩
  · rw [SameKey, normalizeKey, normalizeKey, h]
  · have hu {c : Char} (hc : IsU c) : normalizeKey [c] = ['u'] := by
      rcases hc with hc | hc <;> rw [normalizeKey, hc] <;> rfl
    rw [SameKey, hu hc, hu hd]

theorem isBlank_eq (h : SameVowel c d) : isBlank c = isBlank d := by
  rcases h with h | ⟨hc, hd⟩
  · rw [← isBlank_lowerLetter c, lowerLetter_eq_of_lower_eq h, isBlank_lowerLetter]
  · rw [hc.not_isBlank, hd.not_isBlank]

theorem isU_iff (h : SameVowel c d) : IsU c ↔ IsU d := by
  rcases h with h | ⟨hc, hd⟩
  · rw [IsU, IsU, h]
  · exact iff_of_true hc hd

theorem lower_eq_e_iff (h : SameVowel c d) : lower [c] = ['e'] ↔ lower [d] = ['e'] := by
  rcases h with h | ⟨hc, hd⟩
  · rw [h]
  · exact iff_of_false hc.lower_ne hd.lower_ne

theorem isCompound_eq (hc : SameVowel c c') (hd : SameVowel d d') :
    isCompound c d = isCompound c' d' := by
  rw [Bool.eq_iff_iff, isCompound_iff_letters, isCompound_iff_letters, hc.isU_iff,
    hd.lower_eq_e_iff]

end SameVowel

/-! ## Vowels -/

theorem map_fold_upper (tones : Tones) :
    ∀ key ∈ vowelKeys, ∀ letters ∈ tones.lettersOf key,
      (upper letters).map fold = letters.map fold := by
  cases tones <;> decide

/-- The case in which a vowel is written makes no difference. -/
theorem alike_vowelPieces {tones : Tones} {key key' : Text} (hkey : key ∈ vowelKeys)
    (hsame : tones.lettersOf key = tones.lettersOf key') (surface surface' : Text) :
    List.Forall₂ Piece.Alike (vowelPieces tones key surface) (vowelPieces tones key' surface') := by
  rw [vowelPieces, vowelPieces, ← hsame, List.forall₂_map_left_iff, List.forall₂_map_right_iff,
    List.forall₂_same]
  intro letters hletters
  have hcased (written : Text) : (inCaseOf written letters).map fold = letters.map fold := by
    rcases List.mem_pair.1 (inCaseOf_mem written letters) with h | h
    · rw [h]
    · rw [h, map_fold_upper tones key hkey letters hletters]
  refine ⟨rfl, fun c => ?_⟩
  rw [Piece.accepts_unicode_iff, Piece.accepts_unicode_iff]
  simp only [Piece.letters, hcased]

theorem alike_letter {c d : Char} (h : fold c = fold d) :
    Piece.Alike (.letter c) (.letter d) := by
  refine ⟨rfl, fun e => ?_⟩
  rw [Piece.accepts_unicode_iff, Piece.accepts_unicode_iff]
  simp only [Piece.letters, List.map_singleton, h]

/-- u and v have the same letters. -/
theorem lettersOf_lower_eq {tones : Tones} {c d : Char} (hc : IsU c) (hd : IsU d) :
    tones.lettersOf (lower [c]) = tones.lettersOf (lower [d]) := by
  rcases hc with hc | hc <;> rcases hd with hd | hd <;> rw [hc, hd] <;> cases tones <;> rfl

theorem IsU.mem_vowelKeys {c : Char} (h : IsU c) : lower [c] ∈ vowelKeys := by
  rcases h with h | h <;> rw [h] <;> decide

theorem lettersOf_of_isCompound {tones : Tones} {c d : Char} (h : isCompound c d = true) :
    tones.lettersOf (lower [c, d]) = [untonedForms 'u', tones.forms 'e'] := by
  rcases isCompound_iff.1 h with h | h <;> rw [h] <;> rfl

theorem corresponds_sameVowel (tones : Tones) : Corresponds tones SameVowel Piece.Alike where
  blanks := .refl _
  isBlank h := h.isBlank_eq
  isCompound hc hd := hc.isCompound_eq hd
  letter {c d} h := by
    rw [Grapheme.pieces, Grapheme.pieces]
    rcases h with h | ⟨hc, hd⟩
    · rw [h]
      split_ifs with hkey
      · exact alike_vowelPieces hkey rfl _ _
      · exact .cons (alike_letter (fold_eq_of_lowerLetter_eq (lowerLetter_eq_of_lower_eq h))) .nil
    · rw [if_pos hc.mem_vowelKeys, if_pos hd.mem_vowelKeys]
      exact alike_vowelPieces hc.mem_vowelKeys (lettersOf_lower_eq hc hd) _ _
  compound hc hd h := by
    have h' := (hc.isCompound_eq hd).symm.trans h
    apply alike_vowelPieces (mem_vowelKeys_of_isCompound h)
    rw [lettersOf_of_isCompound h, lettersOf_of_isCompound h']

/-! ## Heads -/

theorem fold_inCaseOfLetter {c d : Char} (hd : d ∈ Marking.standard.letters) :
    fold (inCaseOfLetter c d) = fold d := by
  rw [inCaseOfLetter]
  split_ifs with h
  · rw [← lower_letter hd] at h
    exact fold_eq_of_lowerLetter_eq (lowerLetter_eq_of_lower_eq h)
  · rfl

/-- However a head is written, its letters are alike to those of the syllable. -/
theorem alike_letters {surface toned : Text} (htoned : IsSpelled toned)
    (hlength : surface.length = toned.length) :
    List.Forall₂ Piece.Alike ((List.zipWith inCaseOfLetter surface toned).map .letter)
      (toned.map .letter) := by
  induction surface generalizing toned with
  | nil =>
    rw [List.length_eq_zero_iff.1 hlength.symm]
    exact .nil
  | cons c surface ih =>
    obtain ⟨d, toned, rfl⟩ := List.exists_cons_of_length_eq_add_one hlength.symm
    obtain ⟨hd, htoned⟩ := List.forall_mem_cons.1 htoned
    exact .cons (alike_letter (fold_inCaseOfLetter hd)) (ih htoned (Nat.succ_injective hlength))

theorem forall₂_alike_symm {ps ps' : List Piece} (h : List.Forall₂ Piece.Alike ps ps') :
    List.Forall₂ Piece.Alike ps' ps :=
  h.flip.imp fun _ _ => Piece.Alike.symm

theorem forall₂_alike_trans {ps ps' ps'' : List Piece} (h : List.Forall₂ Piece.Alike ps ps')
    (h' : List.Forall₂ Piece.Alike ps' ps'') : List.Forall₂ Piece.Alike ps ps'' := by
  apply forall₂_trans _ h h'
  intro p p' p'' hp hp'
  exact hp.trans hp'

variable {table : SyllableTable} {syllables : List Text}

theorem alike_headPieces (h : table.IsBuiltFrom syllables) {surface surface' toned : Text}
    (hget : table.get? surface = some toned) (hget' : table.get? surface' = some toned) :
    List.Forall₂ Piece.Alike (headPieces toned surface) (headPieces toned surface') := by
  obtain ⟨before, cluster, after, base, hcarries, hkeys⟩ := h.surface hget
  have hspelled := (h.isSpelled_of_get? hget).1
  rw [hcarries.split, IsSpelled.append_append_iff] at hspelled
  have hvowel := hcarries.spells.vowelOf_mem_keys
  -- both are alike to the syllable as the table has it
  have hplain {surface : Text} (hget : table.get? surface = some toned) :
      List.Forall₂ Piece.Alike (headPieces toned surface) (before.map .letter ++
        vowelPieces .required (vowelOf cluster) cluster ++ after.map .letter) := by
    obtain ⟨before', cluster', after', base', hcarries', hkeys'⟩ := h.surface hget
    obtain ⟨first, written, last, hs⟩ := exists_isSurface hkeys'
    have haround := hcarries.aroundTone_eq.symm.trans hcarries'.aroundTone_eq
    obtain ⟨rfl, rfl, rfl⟩ : before = before' ∧ cluster = cluster' ∧ after = after' := by
      simpa using haround
    rw [headPieces_eq hcarries hs]
    exact List.rel_append (List.rel_append (alike_letters hspelled.1 hs.first.length_eq)
      (alike_vowelPieces hvowel rfl _ _)) (alike_letters hspelled.2.2 hs.last.length_eq)
  exact forall₂_alike_trans (hplain hget) (forall₂_alike_symm (hplain hget'))

/-! ## Queries -/

/-- What a query has after its head. -/
def afterHead (table : SyllableTable) (query : Text) : Text :=
  query.drop ((headLength table (escape query)).getD 0)

/-- Queries with the same keys have the same after their heads that they have throughout. -/
theorem forall₂_afterHead (h : table.IsBuiltFrom syllables) {R : Char → Char → Prop}
    {query query' : Text} (hkeys : List.Forall₂ SameKey query query')
    (hquery : List.Forall₂ R query query') :
    List.Forall₂ R (afterHead table query) (afterHead table query') := by
  rw [afterHead, afterHead, ← headLength_congr h (forall₂_escape hkeys)]
  exact List.forall₂_drop _ hquery

/-- The heads of queries with the same keys are alike, however they are written. -/
theorem alike_queryPieces (h : table.IsBuiltFrom syllables) {query query' : Text}
    (hkeys : List.Forall₂ SameKey query query')
    (hrest : List.Forall₂ SameVowel (afterHead table query) (afterHead table query')) :
    List.Forall₂ Piece.Alike (queryPieces table query) (queryPieces table query') := by
  rw [afterHead, afterHead, ← headLength_congr h (forall₂_escape hkeys)] at hrest
  apply forall₂_queryPieces h (.refl _) (fun h => h.isSolid) hkeys
  · intro hhead
    rw [hhead] at hrest
    exact (corresponds_sameVowel .required).piecesOf hrest
  · intro n toned hhead hn hn'
    rw [hhead] at hrest
    exact ⟨alike_headPieces h hn.get hn'.get, (corresponds_sameVowel .optional).piecesOf hrest⟩

end Query

open Query

namespace Engine

/-- The engine compiles over a table of the syllables, with the standard classes and tones. -/
structure IsBuiltOver (e : Engine) (syllables : List Text) : Prop where
  compiler : e.compiler = .ofTable e.table
  table : e.table.IsBuiltFrom syllables

variable {e : Engine} {syllables : List Text}

theorem IsBuiltOver.spans_eq (h : e.IsBuiltOver syllables) (hcaseless : e.settings.caseless = true)
    (query t : Text) :
    e.spans query t (some .pinyin) =
      .ok (((nodeOf .unicode (queryPieces e.table query)).spans t).filter fun s =>
        s.start < s.stop) := by
  have hcompile : e.compile query (some .pinyin) = .ok (sourceOf (queryPieces e.table query)) := by
    rw [Engine.compile, h.compiler]
    exact compile_eq_sourceOf h.table query
  have hprepare := prepare_sourceOf_eq
    (fun p hp => (isClean_of_mem_queryPieces h.table query p hp).1) true
  simp only [Engine.spans, hcompile, hcaseless, hprepare, bind, Except.bind]
  rfl

/-- With alike pieces the same stretches are found. -/
theorem IsBuiltOver.spans_eq_of_alike (h : e.IsBuiltOver syllables)
    (hcaseless : e.settings.caseless = true) {query query' t t' : Text}
    (hpieces : List.Forall₂ Piece.Alike (queryPieces e.table query) (queryPieces e.table query'))
    (ht : SameFold t t') :
    ∃ spans, e.spans query t (some .pinyin) = .ok spans ∧
      e.spans query' t' (some .pinyin) = .ok spans := by
  have hplain (query : Text) : ∀ p ∈ queryPieces e.table query, p.IsPlain :=
    fun p hp => (isClean_of_mem_queryPieces h.table query p hp).1
  refine ⟨_, h.spans_eq hcaseless query t, ?_⟩
  rw [h.spans_eq hcaseless, spans_nodeOf_eq (hplain query) (hplain query') hpieces ht]

/-- Case does not count in a caseless search. Queries whose characters have the same lower cases
find the same stretches in texts whose characters have the same one-character lower cases. -/
theorem spans_ignore_case (h : e.IsBuiltOver syllables) (hcaseless : e.settings.caseless = true)
    {query query' t t' : Text} (hquery : List.Forall₂ (fun c d => lower [c] = lower [d]) query query')
    (ht : List.Forall₂ (fun c d => lowerLetter c = lowerLetter d) t t') :
    ∃ spans, e.spans query t (some .pinyin) = .ok spans ∧
      e.spans query' t' (some .pinyin) = .ok spans := by
  have hvowels : List.Forall₂ SameVowel query query' := hquery.imp fun _ _ => .inl
  have hkeys : List.Forall₂ SameKey query query' := hvowels.imp fun _ _ h => h.sameKey
  have hrest := forall₂_afterHead h.table hkeys hvowels
  have hfolds : SameFold t t' := ht.imp fun _ _ => fold_eq_of_lowerLetter_eq
  exact h.spans_eq_of_alike hcaseless (alike_queryPieces h.table hkeys hrest) hfolds

/-- Over the syllable lǔ the queries `Lux` and `lUX` find the same in `lǔ X` and `LǓ x`. -/
theorem spans_ignore_case_lux :
    let e : Engine := ⟨.ofTable ⟨[(['l', 'u'], ['l', 'ǔ'])]⟩, .custom, ⟨true, .pinyin⟩⟩
    e.spans ['L', 'u', 'x'] ['l', 'ǔ', ' ', 'X'] (some .pinyin) = .ok [⟨0, 4⟩] ∧
      e.spans ['l', 'U', 'X'] ['L', 'Ǔ', ' ', 'x'] (some .pinyin) = .ok [⟨0, 4⟩] := by
  intro e
  have hbuilt : e.IsBuiltOver [['l', 'ǔ']] := ⟨rfl, by decide, by decide⟩
  have hspans : e.spans ['L', 'u', 'x'] ['l', 'ǔ', ' ', 'X'] (some .pinyin) = .ok [⟨0, 4⟩] := by
    decide
  obtain ⟨spans, hfound, hfound'⟩ := spans_ignore_case hbuilt rfl
    (by decide : List.Forall₂ (fun c d => lower [c] = lower [d]) ['L', 'u', 'x'] ['l', 'U', 'X'])
    (by decide : List.Forall₂ (fun c d => lowerLetter c = lowerLetter d) ['l', 'ǔ', ' ', 'X']
      ['L', 'Ǔ', ' ', 'x'])
  obtain rfl := Except.ok.inj (hfound.symm.trans hspans)
  exact ⟨hspans, hfound'⟩

end Engine

end TonelessPinyin
