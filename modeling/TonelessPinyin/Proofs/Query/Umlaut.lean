import TonelessPinyin.Proofs.Query.Caseless

/-!
The spellings of ü. A query that writes u instead of v or ü finds the same, as long as no ü after
its head has been replaced: there ü stands for itself, while u and v stand for all toned forms of u
and ü.
-/
namespace TonelessPinyin

open Text Pattern Syllable

namespace Query

/-- The character is the same, or a v or ü that has become u. -/
def Respelled (c d : Char) : Prop := d = c ∨ (c = 'v' ∨ c = 'ü') ∧ d = 'u'

namespace Respelled

variable {c d : Char}

theorem sameKey (h : Respelled c d) : SameKey c d := by
  rcases h with rfl | ⟨rfl | rfl, rfl⟩
  · rfl
  · change normalizeKey _ = normalizeKey _
    decide
  · change normalizeKey _ = normalizeKey _
    decide

theorem isBlank_eq (h : Respelled c d) : isBlank c = isBlank d := by
  rcases h with rfl | ⟨rfl | rfl, rfl⟩
  · rfl
  · decide
  · decide

/-- Only ü is no longer the same vowel. -/
theorem sameVowel (h : Respelled c d) (humlaut : c = 'ü' → d = 'ü') : SameVowel c d := by
  rcases h with rfl | ⟨rfl | rfl, rfl⟩
  · exact .inl rfl
  · exact .inr ⟨.inr (by decide), .inl (by decide)⟩
  · cases humlaut rfl

end Respelled

/-! ## A text that a query finds -/

def firstLetter (p : Piece) : Char := p.letters.headD 'u'

/-- The first letters of the pieces, without any blanks. -/
def sampleOf (ps : List Piece) : Text := (ps.filter Piece.isSolid).map firstLetter

theorem firstLetter_mem {p : Piece} (h : p.IsPlain) (hsolid : p.isSolid = true) :
    firstLetter p ∈ p.letters := by
  cases p with
  | letter c => exact List.mem_singleton_self c
  | set letters =>
    obtain ⟨c, letters, rfl⟩ := List.exists_cons_of_ne_nil h.1
    exact List.mem_cons_self
  | blanks => cases hsolid

theorem sampleOf_mem {ps : List Piece} (hps : ∀ p ∈ ps, IsClean p) (casing : Casing) :
    sampleOf ps ∈ languageOf casing ps := by
  have hfirst : ∀ p ∈ ps.filter Piece.isSolid, IsClean p ∧ firstLetter p ∈ p.letters := by
    intro p hp
    obtain ⟨hmem, hsolid⟩ := List.mem_filter.1 hp
    exact ⟨hps p hmem, firstLetter_mem (hps p hmem).1 hsolid⟩
  have hblank : ∀ c ∈ sampleOf ps, isBlank c = false := by
    intro c hc
    obtain ⟨p, hp, rfl⟩ := List.mem_map.1 hc
    obtain ⟨hclean, hmem⟩ := hfirst p hp
    exact hclean.2 _ hmem
  rw [mem_languageOf_iff_forall₂ (fun p hp => (hps p hp).2) hblank, sampleOf,
    List.forall₂_map_right_iff, List.forall₂_same]
  exact fun p hp => ⟨_, (hfirst p hp).2, casing.agrees_refl _⟩

variable {table : SyllableTable} {syllables : List Text}

theorem length_solidPieces (h : table.IsBuiltFrom syllables) {query query' : Text}
    (hquery : List.Forall₂ Respelled query query') :
    ((queryPieces table query).filter Piece.isSolid).length =
      ((queryPieces table query').filter Piece.isSolid).length := by
  have hletters : List.Forall₂ Respelled (query.filter (!isBlank ·)) (query'.filter (!isBlank ·)) :=
    List.rel_filter (fun c d hcd => by simp [hcd.isBlank_eq]) hquery
  rw [(standsFor_queryPieces h query).length_eq, (standsFor_queryPieces h query').length_eq,
    hletters.length_eq]

/-! ## Pieces of ü and u -/

/-- A piece that stands where the query has the character: ü stands for itself, and the sample of
u is a u with or without a tone. -/
structure Writes (p : Piece) (c : Char) : Prop where
  umlaut : c = 'ü' → p = .letter 'ü'
  u : c = 'u' → firstLetter p = 'u' ∨ firstLetter p = 'ū'

theorem writes_letter (tones : Tones) (c : Char) :
    List.Forall₂ Writes ((Grapheme.letter c).pieces tones) [c] := by
  obtain ⟨p, hp⟩ : ∃ p, (Grapheme.letter c).pieces tones = [p] :=
    List.length_eq_one_iff.1 (standsFor_letter tones c).length_eq
  have humlaut : (Grapheme.letter 'ü').pieces tones = [.letter 'ü'] := by cases tones <;> decide
  have hu : ((Grapheme.letter 'u').pieces tones).map firstLetter = ['u'] ∨
      ((Grapheme.letter 'u').pieces tones).map firstLetter = ['ū'] := by
    cases tones <;> decide
  rw [hp]
  refine .cons ⟨?_, ?_⟩ .nil
  · rintro rfl
    exact List.singleton_inj.1 (hp.symm.trans humlaut)
  · rintro rfl
    simpa [hp] using hu

theorem writes_compound {c d : Char} (tones : Tones) (h : isCompound c d = true) :
    List.Forall₂ Writes ((Grapheme.compound c d).pieces tones) [c, d] := by
  obtain ⟨hc, hd⟩ := lowerLetter_of_isCompound h
  -- after a small u the vowel is not written in capitals
  have hsmall : isUpper ['u', d] = false := by
    have hu : isSmall 'u' = true := by decide
    simp [isUpper, hu]
  rw [Grapheme.pieces, vowelPieces, lettersOf_of_isCompound h]
  refine .cons ⟨?_, ?_⟩ (.cons ⟨?_, ?_⟩ .nil)
  · rintro rfl
    exact absurd hc (by decide)
  · rintro rfl
    simp only [inCaseOf, hsmall]
    exact .inl rfl
  · rintro rfl
    exact absurd hd (by decide)
  · rintro rfl
    exact absurd hd (by decide)

theorem writes_solidPieces (tones : Tones) (t : Text) :
    List.Forall₂ Writes (solidPieces tones t) (t.filter (!isBlank ·)) := by
  induction t using graphemes_cases with
  | nil => exact .nil
  | blank c t hb ih =>
    rw [solidPieces_blank hb, List.filter_cons_of_neg (by simp [hb])]
    exact ih
  | letter c t hb h ih =>
    rw [solidPieces_letter hb h, List.filter_cons_of_pos (by simp [hb])]
    exact List.rel_append (writes_letter tones c) ih
  | compound c d t h ih =>
    obtain ⟨hc, hd⟩ := not_blank_of_isCompound h
    rw [solidPieces_compound h, List.filter_cons_of_pos (by simp [hc]),
      List.filter_cons_of_pos (by simp [hd])]
    exact List.rel_append (writes_compound tones h) ih

/-- The solid pieces after those of the head are the ones of what follows it. -/
theorem exists_drop_eq_solidPieces (h : table.IsBuiltFrom syllables) (query : Text) :
    ∃ tones, ((queryPieces table query).filter Piece.isSolid).drop
      ((headLength table (escape query)).getD 0) = solidPieces tones (afterHead table query) := by
  rw [afterHead]
  cases hhead : headLength table (escape query) with
  | none =>
    refine ⟨.required, ?_⟩
    rw [queryPieces_of_none hhead, piecesOf, filter_isSolid_piecesFrom]
    rfl
  | some n =>
    obtain ⟨before, cluster, after, base, first, written, last, hw⟩ := exists_isWrittenHead h hhead
    have hlength := (standsFor_headPieces hw).length_eq
    rw [List.length_take, Nat.min_eq_left hw.isHead.lt.le] at hlength
    refine ⟨.optional, ?_⟩
    rw [queryPieces_of_some hhead hw.isHead, List.filter_append,
      filter_isSolid_headPieces hw.carriesTone hw.surface, filter_isSolid_afterGap, piecesOf,
      filter_isSolid_piecesFrom, Option.getD_some, List.drop_left' hlength]

/-- A piece of ü does not take the sample of u. -/
theorem not_accepts_sample {p p' : Piece} (hp : Writes p 'ü') (hp' : Writes p' 'u') :
    ¬p.Accepts .unicode (firstLetter p') := by
  rw [hp.umlaut rfl, Piece.accepts_unicode_iff]
  rcases hp'.u rfl with h | h <;> rw [h] <;> decide

theorem forall₂_of_filter_blanks {R S : Char → Char → Prop}
    (hblank : ∀ c d, R c d → isBlank c = isBlank d)
    (hfree : ∀ c d, R c d → isBlank c = true → S c d) {t t' : Text} (hR : List.Forall₂ R t t')
    (hS : List.Forall₂ S (t.filter (!isBlank ·)) (t'.filter (!isBlank ·))) :
    List.Forall₂ S t t' := by
  induction hR with
  | nil => exact .nil
  | @cons c d _ _ hcd _ ih =>
    cases hb : isBlank c with
    | true =>
      have hb' := (hblank c d hcd).symm.trans hb
      rw [List.filter_cons_of_neg (by simp [hb]), List.filter_cons_of_neg (by simp [hb'])] at hS
      exact .cons (hfree c d hcd hb) (ih hS)
    | false =>
      have hb' := (hblank c d hcd).symm.trans hb
      rw [List.filter_cons_of_pos (by simp [hb]), List.filter_cons_of_pos (by simp [hb'])] at hS
      cases hS with
      | cons hS hrest => exact .cons hS (ih hrest)

end Query

open Query

variable {e : Engine} {syllables : List Text}

/-- If both queries find the same in the sample of the second, the pieces of the first take it
letter by letter. -/
theorem accepts_firstLetter (h : e.IsBuiltOver syllables) (hcaseless : e.settings.caseless = true)
    {query query' : Text} (hquery : List.Forall₂ Respelled query query')
    (hsame : e.spans query (sampleOf (queryPieces e.table query')) (some .pinyin) =
      e.spans query' (sampleOf (queryPieces e.table query')) (some .pinyin)) :
    List.Forall₂ (fun p p' => p.Accepts .unicode (firstLetter p'))
      ((queryPieces e.table query).filter Piece.isSolid)
      ((queryPieces e.table query').filter Piece.isSolid) := by
  have hlength := length_solidPieces h.table hquery
  have hclean (query : Text) := isClean_of_mem_queryPieces h.table query
  have hrecognises (query : Text) :
      Recognises (nodeOf .unicode (queryPieces e.table query))
        (languageOf .unicode (queryPieces e.table query)) :=
    recognises_nodeOf (fun p hp => (hclean query p hp).1) .unicode
  have htaken {query w : Text} (hw : w ∈ languageOf .unicode (queryPieces e.table query)) :=
    forall₂_accepts_of_mem (fun p hp => (hclean query p hp).2) hw
  obtain ⟨s, hs⟩ :=
    (hrecognises query').exists_mem_spans (sampleOf_mem (hclean query') .unicode)
  generalize hsample : sampleOf (queryPieces e.table query') = sample at hsame hs
  have htaken' := htaken ((hrecognises query').mem_spans hs)
  by_cases hempty : s.start < s.stop
  · rw [h.spans_eq hcaseless, h.spans_eq hcaseless] at hsame
    have hmem : s ∈ (nodeOf .unicode (queryPieces e.table query)).spans sample := by
      apply List.mem_of_mem_filter
      rw [Except.ok.inj hsame, List.mem_filter]
      exact ⟨hs, by simpa using hempty⟩
    have hfound := htaken ((hrecognises query).mem_spans hmem)
    -- the stretch has a letter for each piece, so it is the whole sample
    have hwhole : (s.of sample).filter (!isBlank ·) = sample := by
      apply List.Sublist.eq_of_length
      · exact List.filter_sublist.trans ((List.drop_sublist _ _).trans (List.take_sublist _ _))
      · rw [← hfound.length_eq, hlength, ← hsample, sampleOf, List.length_map]
    rw [hwhole, ← hsample, sampleOf, List.forall₂_map_right_iff] at hfound
    exact hfound
  · -- only without solid pieces there is an empty match
    have hnone : s.of sample = [] := by
      rw [Span.of, slice]
      exact List.drop_eq_nil_of_le ((List.length_take_le _ _).trans (Nat.le_of_not_lt hempty))
    rw [hnone, List.filter_nil, List.forall₂_nil_right_iff] at htaken'
    rw [htaken', List.length_nil, List.length_eq_zero_iff] at hlength
    rw [hlength, htaken']
    exact .nil

/-- If both queries find the same in the sample of the second, no ü after the head has become u. -/
theorem umlauts_kept (h : e.IsBuiltOver syllables) (hcaseless : e.settings.caseless = true)
    {query query' : Text} (hquery : List.Forall₂ Respelled query query')
    (hsame : e.spans query (sampleOf (queryPieces e.table query')) (some .pinyin) =
      e.spans query' (sampleOf (queryPieces e.table query')) (some .pinyin)) :
    List.Forall₂ (fun c d => c = 'ü' → d = 'ü') (afterHead e.table query)
      (afterHead e.table query') := by
  have hkeys : List.Forall₂ SameKey query query' := hquery.imp fun _ _ h => h.sameKey
  have hlength := headLength_congr h.table (forall₂_escape hkeys)
  have haccepts := List.forall₂_drop ((headLength e.table (escape query)).getD 0)
    (accepts_firstLetter h hcaseless hquery hsame)
  obtain ⟨tones, hpieces⟩ := exists_drop_eq_solidPieces h.table query
  obtain ⟨tones', hpieces'⟩ := exists_drop_eq_solidPieces h.table query'
  rw [← hlength] at hpieces'
  rw [hpieces, hpieces'] at haccepts
  have hrest := forall₂_afterHead h.table hkeys hquery
  -- from the letters of one query through the pieces to the letters of the other
  have hletters : List.Forall₂ (fun c d => ¬(c = 'ü' ∧ d = 'u'))
      ((afterHead e.table query).filter (!isBlank ·))
      ((afterHead e.table query').filter (!isBlank ·)) := by
    have hleft : List.Forall₂ (fun c p' => ∃ p, Writes p c ∧ p.Accepts .unicode (firstLetter p'))
        ((afterHead e.table query).filter (!isBlank ·))
        (solidPieces tones' (afterHead e.table query')) := by
      apply forall₂_trans _ (writes_solidPieces tones _).flip haccepts
      exact fun c p p' hp hp' => ⟨p, hp, hp'⟩
    apply forall₂_trans _ hleft (writes_solidPieces tones' _)
    rintro c p' d ⟨p, hp, haccepts⟩ hp' ⟨rfl, rfl⟩
    exact not_accepts_sample hp hp' haccepts
  have hkept : List.Forall₂ (fun c d => ¬(c = 'ü' ∧ d = 'u')) (afterHead e.table query)
      (afterHead e.table query') := by
    apply forall₂_of_filter_blanks (fun c d hcd => hcd.isBlank_eq) _ hrest hletters
    rintro c d - hb ⟨rfl, -⟩
    exact absurd hb (by decide)
  apply List.Forall₂.mp _ hrest hkept
  rintro c d hcd hnot rfl
  rcases hcd with rfl | ⟨-, rfl⟩
  · rfl
  · exact absurd ⟨rfl, rfl⟩ hnot

namespace Engine

/-- A query in which some v and ü have become u finds the same as the query itself in every text
just if no ü after the head is among them. -/
theorem spans_respelled_iff (h : e.IsBuiltOver syllables) (hcaseless : e.settings.caseless = true)
    {query query' : Text} (hquery : List.Forall₂ Respelled query query') :
    (∀ t, ∃ spans, e.spans query t (some .pinyin) = .ok spans ∧
        e.spans query' t (some .pinyin) = .ok spans) ↔
      List.Forall₂ (fun c d => c = 'ü' → d = 'ü') (afterHead e.table query)
        (afterHead e.table query') := by
  have hkeys : List.Forall₂ SameKey query query' := hquery.imp fun _ _ h => h.sameKey
  have hrest := forall₂_afterHead h.table hkeys hquery
  constructor
  · intro hall
    obtain ⟨spans, hspans, hspans'⟩ := hall (sampleOf (queryPieces e.table query'))
    exact umlauts_kept h hcaseless hquery (hspans.trans hspans'.symm)
  · intro hkept t
    have hvowels : List.Forall₂ SameVowel (afterHead e.table query) (afterHead e.table query') :=
      List.Forall₂.mp (fun _ _ hcd humlaut => hcd.sameVowel humlaut) hrest hkept
    exact h.spans_eq_of_alike hcaseless (alike_queryPieces h.table hkeys hvowels)
      (List.forall₂_same.2 fun _ _ => rfl)

/-- Over the syllable mā the query `malu` finds mālǜ, and `malü` does not: its ü is after the head. -/
theorem spans_respelled_iff_malu :
    let e : Engine := ⟨.ofTable ⟨[(['m', 'a'], ['m', 'ā'])]⟩, .custom, ⟨true, .pinyin⟩⟩
    let query := ['m', 'a', 'l', 'ü']
    let query' := ['m', 'a', 'l', 'u']
    let t := ['m', 'ā', 'l', 'ǜ']
    e.spans query t (some .pinyin) = .ok [] ∧ e.spans query' t (some .pinyin) = .ok [⟨0, 4⟩] ∧
      ¬List.Forall₂ (fun c d => c = 'ü' → d = 'ü') (afterHead e.table query)
        (afterHead e.table query') := by
  intro e query query' t
  have hbuilt : e.IsBuiltOver [['m', 'ā']] := ⟨rfl, by decide, by decide⟩
  have hquery : List.Forall₂ Respelled query query' :=
    .cons (.inl rfl) (.cons (.inl rfl) (.cons (.inl rfl) (.cons (.inr ⟨.inr rfl, rfl⟩) .nil)))
  have hnone : e.spans query t (some .pinyin) = .ok [] := by decide
  have hone : e.spans query' t (some .pinyin) = .ok [⟨0, 4⟩] := by decide
  refine ⟨hnone, hone, fun hkept => ?_⟩
  obtain ⟨spans, hspans, hspans'⟩ := (spans_respelled_iff hbuilt rfl hquery).2 hkept t
  obtain rfl := Except.ok.inj (hspans.symm.trans hnone)
  cases hspans'.symm.trans hone

end Engine

end TonelessPinyin
