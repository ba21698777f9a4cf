import TonelessPinyin.Proofs.Query.Pieces
import TonelessPinyin.Proofs.Query.Totality

/-!
Queries that correspond character by character. If the characters have the same keys, then over a
built table both queries have the same head, and if their graphemes have related pieces, so have the
queries.
-/
namespace TonelessPinyin.Query

open Text Pattern Syllable

/-! ## Keys -/

/-- The characters have the same key. -/
def SameKey (c d : Char) : Prop := normalizeKey [c] = normalizeKey [d]

theorem SameKey.symm {c d : Char} (h : SameKey c d) : SameKey d c := Eq.symm h

theorem forall₂_sameKey_symm {t t' : Text} (h : List.Forall₂ SameKey t t') :
    List.Forall₂ SameKey t' t :=
  h.flip.imp fun _ _ => SameKey.symm

/-- Characters that have letters for keys have spelled lower cases, also together. -/
theorem isSpelled_lower_of_keys {t : Text}
    (h : ∀ c ∈ t, ∃ d ∈ Marking.standard.letters, normalizeKey [c] = [d]) :
    IsSpelled (lower t) := by
  have hI : 'İ' ∉ t := by
    intro hm
    obtain ⟨d, -, hkey⟩ := h _ hm
    -- its lower case is not one character
    have htwo : (normalizeKey ['İ']).length = 2 := by decide
    rw [hkey] at htwo
    cases htwo
  have hletter : ∀ c ∈ t, lowerLetter c ∈ Marking.standard.letters := by
    intro c hc
    obtain ⟨d, hd, hkey⟩ := h c hc
    have hne : c ≠ 'İ' := fun heq => hI (heq ▸ hc)
    rw [normalizeKey, lower_singleton hne, List.map_singleton, List.singleton_inj] at hkey
    exact foldLetter_mem_letters_iff.1 (hkey ▸ hd)
  have hS : 'Σ' ∉ t := fun hm => absurd (hletter _ hm) (by decide)
  rw [lower, lowerAfter_eq_map hI hS]
  intro d hd
  obtain ⟨c, hc, rfl⟩ := List.mem_map.1 hd
  exact hletter c hc

/-- Where one text is spelled, the keys of its characters are those of the whole text. -/
theorem normalizeKey_congr {a b : Text} (h : List.Forall₂ SameKey a b) (ha : IsSpelled (lower a)) :
    normalizeKey a = normalizeKey b := by
  have hsame : (a.map fun c => normalizeKey [c]) = b.map fun c => normalizeKey [c] := by
    rw [← List.forall₂_eq_eq_eq, List.forall₂_map_left_iff, List.forall₂_map_right_iff]
    exact h
  have hkeys := map_normalizeKey_of_spelled_lower ha
  have hb : IsSpelled (lower b) := by
    apply isSpelled_lower_of_keys
    intro c hc
    have hmem : normalizeKey [c] ∈ (normalizeKey a).map fun c => [c] := by
      rw [← hkeys, hsame]
      exact List.mem_map_of_mem hc
    obtain ⟨d, hd, heq⟩ := List.mem_map.1 hmem
    exact ⟨d, isSpelled_map_foldLetter_iff.2 ha d hd, heq.symm⟩
  rw [hsame, map_normalizeKey_of_spelled_lower hb] at hkeys
  exact (List.map_injective_iff.2 List.singleton_injective hkeys).symm

variable {table : SyllableTable} {syllables : List Text}

theorem get?_congr (h : table.IsBuiltFrom syllables) {a b : Text} (hab : List.Forall₂ SameKey a b) :
    table.get? a = table.get? b := by
  have hone {a b : Text} (hab : List.Forall₂ SameKey a b) {toned : Text}
      (hget : table.get? a = some toned) : table.get? b = some toned := by
    have hkey := normalizeKey_congr hab (h.isSpelled_of_get? hget).2
    rwa [SyllableTable.get?, hkey] at hget
  exact Option.ext fun toned => ⟨hone hab, hone (forall₂_sameKey_symm hab)⟩

/-! ## Heads -/

/-- A character with the key of a special one is this itself. -/
theorem SameKey.eq_of_special {c d : Char} (h : SameKey c d) (hc : c ∈ specials) : d = c := by
  have hmem : c ∈ normalizeKey [c] := (mem_normalizeKey_special_iff hc [c]).2 (by simp)
  have hd : c ∈ [d] := (mem_normalizeKey_special_iff hc [d]).1 (h ▸ hmem)
  exact (List.mem_singleton.1 hd).symm

theorem forall₂_escape {t t' : Text} (h : List.Forall₂ SameKey t t') :
    List.Forall₂ SameKey (escape t) (escape t') := by
  induction h with
  | nil => exact .nil
  | @cons c d _ _ hcd _ ih =>
    have hletter : List.Forall₂ SameKey (escapeLetter c) (escapeLetter d) := by
      by_cases hc : c ∈ specials
      · obtain rfl := hcd.eq_of_special hc
        exact List.forall₂_same.2 fun _ _ => rfl
      · have hd : d ∉ specials := by
          intro hd
          obtain rfl := hcd.symm.eq_of_special hd
          exact hc hd
        rw [escapeLetter, escapeLetter, if_neg hc, if_neg hd]
        exact .cons hcd .nil
    exact List.rel_append hletter ih

theorem headLength_congr (h : table.IsBuiltFrom syllables) {t t' : Text}
    (ht : List.Forall₂ SameKey t t') : headLength table t = headLength table t' := by
  have hcontains (n : Nat) : table.contains (t.take n) = table.contains (t'.take n) := by
    rw [SyllableTable.contains, SyllableTable.contains, get?_congr h (List.forall₂_take n ht)]
  rw [headLength, headLength, longestSyllable_congr hcontains, ht.length_eq]

/-! ## Pieces -/

/-- Related characters are blanks together and compounds together, and their graphemes have related
pieces. -/
structure Corresponds (tones : Tones) (R : Char → Char → Prop) (P : Piece → Piece → Prop) :
    Prop where
  blanks : P .blanks .blanks
  isBlank : ∀ {c d}, R c d → isBlank c = isBlank d
  isCompound : ∀ {c d c' d'}, R c c' → R d d' → isCompound c d = isCompound c' d'
  letter : ∀ {c c'}, R c c' → List.Forall₂ P ((Grapheme.letter c).pieces tones)
    ((Grapheme.letter c').pieces tones)
  compound : ∀ {c d c' d'}, R c c' → R d d' → Query.isCompound c d = true →
    List.Forall₂ P ((Grapheme.compound c d).pieces tones) ((Grapheme.compound c' d').pieces tones)

namespace Corresponds

variable {tones : Tones} {R : Char → Char → Prop} {P : Piece → Piece → Prop}

theorem gap (h : Corresponds tones R P) (b : Bool) :
    List.Forall₂ P (if b then [Piece.blanks] else []) (if b then [Piece.blanks] else []) ∧
      List.Forall₂ P (if b then [] else [Piece.blanks]) (if b then [] else [Piece.blanks]) := by
  have hone : List.Forall₂ P [Piece.blanks] [Piece.blanks] := .cons h.blanks .nil
  cases b
  · exact ⟨.nil, hone⟩
  · exact ⟨hone, .nil⟩

theorem beginsSingly (h : Corresponds tones R P) {c c' : Char} (hc : R c c') {t t' : Text}
    (ht : List.Forall₂ R t t') (hsingly : BeginsSingly c t) : BeginsSingly c' t' := by
  intro d' hd'
  cases ht with
  | nil => cases hd'
  | @cons d e _ _ hd _ =>
    obtain rfl : e = d' := by simpa using hd'
    rw [← h.isCompound hc hd]
    exact hsingly d rfl

theorem piecesFrom (h : Corresponds tones R P) (tolerant : Bool) {t t' : Text}
    (ht : List.Forall₂ R t t') (index : Nat) (afterBlanks : Bool) :
    List.Forall₂ P (piecesFrom tones tolerant index afterBlanks (graphemes t))
      (piecesFrom tones tolerant index afterBlanks (graphemes t')) := by
  induction t using graphemes_cases generalizing t' index afterBlanks with
  | nil =>
    cases ht
    exact .nil
  | blank c t hb ih =>
    cases ht with
    | @cons _ c' _ t' hc ht =>
      rw [graphemes_blank hb, graphemes_blank (h.isBlank hc ▸ hb)]
      exact List.rel_append (h.gap afterBlanks).2 (ih ht _ _)
  | letter c t hb hsingly ih =>
    cases ht with
    | @cons _ c' _ t' hc ht =>
      rw [graphemes_letter hb hsingly,
        graphemes_letter (h.isBlank hc ▸ hb) (h.beginsSingly hc ht hsingly),
        piecesFrom_cons (by simp), piecesFrom_cons (by simp)]
      exact List.rel_append (List.rel_append (h.gap _).1 (h.letter hc)) (ih ht _ _)
  | compound c d t hcompound ih =>
    cases ht with
    | @cons _ c' _ _ hc ht =>
      cases ht with
      | @cons _ d' _ t' hd ht =>
        rw [graphemes_compound hcompound, graphemes_compound (h.isCompound hc hd ▸ hcompound),
          piecesFrom_cons (by simp), piecesFrom_cons (by simp)]
        exact List.rel_append (List.rel_append (h.gap _).1 (h.compound hc hd hcompound)) (ih ht _ _)

theorem piecesOf (h : Corresponds tones R P) {t t' : Text} (ht : List.Forall₂ R t t') :
    List.Forall₂ P (piecesOf tones t) (piecesOf tones t') := by
  rw [Query.piecesOf, Query.piecesOf, ht.length_eq]
  exact h.piecesFrom _ ht 0 false

end Corresponds

theorem forall₂_afterGap {P : Piece → Piece → Prop} (hblanks : P .blanks .blanks)
    (hsolid : ∀ {p p'}, P p p' → p.isSolid = p'.isSolid) {ps ps' : List Piece}
    (h : List.Forall₂ P ps ps') : List.Forall₂ P (afterGap ps) (afterGap ps') := by
  have hhead : ps.head? = some .blanks ↔ ps'.head? = some .blanks := by
    have hone (p : Piece) : p = .blanks ↔ p.isSolid = false := by cases p <;> simp [Piece.isSolid]
    cases h with
    | nil => rfl
    | cons hp _ => simp only [List.head?_cons, Option.some.injEq, hone, hsolid hp]
  by_cases hgap : ps.head? = some .blanks
  · rwa [afterGap, afterGap, if_pos hgap, if_pos (hhead.1 hgap)]
  · rw [afterGap, afterGap, if_neg hgap, if_neg (mt hhead.2 hgap)]
    exact .cons hblanks h

/-- Queries with the same keys have related pieces if the heads have, and what comes after them. -/
theorem forall₂_queryPieces (h : table.IsBuiltFrom syllables) {P : Piece → Piece → Prop}
    (hblanks : P .blanks .blanks) (hsolid : ∀ {p p'}, P p p' → p.isSolid = p'.isSolid)
    {query query' : Text} (hkeys : List.Forall₂ SameKey query query')
    (hnone : headLength table (escape query) = none →
      List.Forall₂ P (piecesOf .required query) (piecesOf .required query'))
    (hsome : ∀ n toned, headLength table (escape query) = some n →
      IsHead table query n toned → IsHead table query' n toned →
      List.Forall₂ P (headPieces toned (query.take n)) (headPieces toned (query'.take n)) ∧
        List.Forall₂ P (piecesOf .optional (query.drop n)) (piecesOf .optional (query'.drop n))) :
    List.Forall₂ P (queryPieces table query) (queryPieces table query') := by
  have hlength := headLength_congr h (forall₂_escape hkeys)
  cases hhead : headLength table (escape query) with
  | none =>
    rw [queryPieces_of_none hhead, queryPieces_of_none (hlength ▸ hhead)]
    exact hnone hhead
  | some n =>
    obtain ⟨toned, hn⟩ := headLength_eq_some h hhead
    have hn' : IsHead table query' n toned :=
      ⟨hn.two_le, hkeys.length_eq ▸ hn.lt, by rw [← get?_congr h (List.forall₂_take n hkeys), hn.get]⟩
    obtain ⟨hbegin, hend⟩ := hsome n toned hhead hn hn'
    rw [queryPieces_of_some hhead hn, queryPieces_of_some (hlength ▸ hhead) hn']
    exact List.rel_append hbegin (forall₂_afterGap hblanks hsolid hend)

end TonelessPinyin.Query
