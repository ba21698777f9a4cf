import TonelessPinyin.Proofs.Pattern.PieceReading
import TonelessPinyin.Proofs.Query.Head

/-!
The pieces of compiled queries: none has a blank among its letters, and the pattern that they spell
can be read.
-/
namespace TonelessPinyin

open Text Pattern Syllable

namespace Query

/-- A piece that can be read and has no blank among its letters. -/
def IsClean (p : Piece) : Prop := p.IsPlain ∧ ∀ d ∈ p.letters, isBlank d = false

theorem isClean_blanks : IsClean .blanks := ⟨trivial, by simp [Piece.letters]⟩

theorem isClean_letter {c : Char} (h : isBlank c = false) : IsClean (.letter c) :=
  ⟨trivial, by simpa [Piece.letters] using h⟩

theorem isClean_of_mem_vowelPieces {tones : Tones} {key surface : Text} (hkey : key ∈ vowelKeys)
    {p : Piece} (hp : p ∈ vowelPieces tones key surface) : IsClean p :=
  have h := mem_vowelPieces_plain hkey hp
  ⟨h.1, h.2.2⟩

theorem filter_isSolid_vowelPieces {tones : Tones} {key surface : Text} (hkey : key ∈ vowelKeys) :
    (vowelPieces tones key surface).filter Piece.isSolid = vowelPieces tones key surface :=
  List.filter_eq_self.2 fun _ hp => (mem_vowelPieces_plain hkey hp).2.1

/-! ## Pieces of graphemes -/

variable {tones : Tones} {tolerant : Bool}

theorem isClean_of_mem_letter {c : Char} (hc : isBlank c = false) {p : Piece}
    (hp : p ∈ (Grapheme.letter c).pieces tones) : IsClean p := by
  rw [Grapheme.pieces] at hp
  split_ifs at hp with hkey
  · exact isClean_of_mem_vowelPieces hkey hp
  · rw [List.mem_singleton.1 hp]
    exact isClean_letter hc

theorem filter_isSolid_letter (tones : Tones) (c : Char) :
    ((Grapheme.letter c).pieces tones).filter Piece.isSolid = (Grapheme.letter c).pieces tones := by
  rw [Grapheme.pieces]
  split_ifs with hkey
  · exact filter_isSolid_vowelPieces hkey
  · rfl

/-- Blanks that are allowed, or left out, are clean and not solid. -/
theorem gap_facts {gap : List Piece} (h : ∀ p ∈ gap, p = .blanks) :
    (∀ p ∈ gap, IsClean p) ∧ gap.filter Piece.isSolid = [] := by
  constructor
  · intro p hp
    exact h p hp ▸ isClean_blanks
  · rw [List.filter_eq_nil_iff]
    intro p hp
    rw [h p hp]
    simp [Piece.isSolid]

theorem eq_blanks_of_mem_gap (b : Bool) :
    (∀ p ∈ if b then [Piece.blanks] else [], p = .blanks) ∧
      ∀ p ∈ if b then [] else [Piece.blanks], p = .blanks := by
  cases b <;> simp

theorem isClean_of_mem_piecesFrom {t : Text} {index : Nat} {afterBlanks : Bool} :
    ∀ p ∈ piecesFrom tones tolerant index afterBlanks (graphemes t), IsClean p := by
  induction t using graphemes_cases generalizing index afterBlanks with
  | nil => simp [graphemes, piecesFrom]
  | blank c t hb ih =>
    rw [graphemes_blank hb, piecesFrom, List.forall_mem_append]
    exact ⟨(gap_facts (eq_blanks_of_mem_gap _).2).1, ih⟩
  | letter c t hb h ih =>
    rw [graphemes_letter hb h, piecesFrom, List.forall_mem_append, List.forall_mem_append]
    · exact ⟨⟨(gap_facts (eq_blanks_of_mem_gap _).1).1, fun p hp => isClean_of_mem_letter hb hp⟩, ih⟩
    · simp
  | compound c d t h ih =>
    have hpieces : ∀ p ∈ (Grapheme.compound c d).pieces tones, IsClean p := fun p hp =>
      isClean_of_mem_vowelPieces (mem_vowelKeys_of_isCompound h) hp
    rw [graphemes_compound h, piecesFrom, List.forall_mem_append, List.forall_mem_append]
    · exact ⟨⟨(gap_facts (eq_blanks_of_mem_gap _).1).1, hpieces⟩, ih⟩
    · simp

/-- The pieces of a text without those of blanks. -/
def solidPieces (tones : Tones) (t : Text) : List Piece :=
  ((graphemes t).flatMap (Grapheme.pieces tones)).filter Piece.isSolid

theorem solidPieces_nil (tones : Tones) : solidPieces tones [] = [] := rfl

theorem solidPieces_blank {c : Char} (hb : isBlank c = true) (t : Text) :
    solidPieces tones (c :: t) = solidPieces tones t := by
  rw [solidPieces, graphemes_blank hb]
  rfl

theorem solidPieces_letter {c : Char} {t : Text} (hb : isBlank c = false) (h : BeginsSingly c t) :
    solidPieces tones (c :: t) = (Grapheme.letter c).pieces tones ++ solidPieces tones t := by
  rw [solidPieces, graphemes_letter hb h, List.flatMap_cons, List.filter_append,
    filter_isSolid_letter]
  rfl

theorem solidPieces_compound {c d : Char} (h : isCompound c d = true) (t : Text) :
    solidPieces tones (c :: d :: t) =
      (Grapheme.compound c d).pieces tones ++ solidPieces tones t := by
  rw [solidPieces, graphemes_compound h, List.flatMap_cons, List.filter_append, Grapheme.pieces,
    filter_isSolid_vowelPieces (mem_vowelKeys_of_isCompound h)]
  rfl

theorem filter_isSolid_piecesFrom (t : Text) (index : Nat) (afterBlanks : Bool) :
    (piecesFrom tones tolerant index afterBlanks (graphemes t)).filter Piece.isSolid =
      solidPieces tones t := by
  induction t using graphemes_cases generalizing index afterBlanks with
  | nil => rfl
  | blank c t hb ih =>
    rw [graphemes_blank hb, piecesFrom, List.filter_append,
      (gap_facts (eq_blanks_of_mem_gap _).2).2, ih, solidPieces_blank hb]
    rfl
  | letter c t hb h ih =>
    rw [graphemes_letter hb h, piecesFrom, List.filter_append, List.filter_append,
      (gap_facts (eq_blanks_of_mem_gap _).1).2, ih, solidPieces_letter hb h, filter_isSolid_letter]
    · rfl
    · simp
  | compound c d t h ih =>
    rw [graphemes_compound h, piecesFrom, List.filter_append, List.filter_append,
      (gap_facts (eq_blanks_of_mem_gap _).1).2, ih, solidPieces_compound h, Grapheme.pieces,
      filter_isSolid_vowelPieces (mem_vowelKeys_of_isCompound h)]
    · rfl
    · simp

/-! ## Pieces of heads -/

/-- A text that is looked up, cut where the syllable that is found has its cluster. -/
structure IsSurface (surface before cluster after first written last : Text) : Prop where
  split : surface = first ++ written ++ last
  first : List.Forall₂ (fun c d => normalizeKey [c] = [foldLetter d]) first before
  written : List.Forall₂ (fun c d => normalizeKey [c] = [plainLetter d]) written cluster
  last : List.Forall₂ (fun c d => normalizeKey [c] = [foldLetter d]) last after

theorem exists_isSurface {surface before cluster after : Text}
    (h : (surface.map fun c => normalizeKey [c]) =
      (keyAround before cluster after).map fun c => [c]) :
    ∃ first written last, IsSurface surface before cluster after first written last := by
  have hforall {a b : Text} {f : Char → Char}
      (heq : (a.map fun c => normalizeKey [c]) = (b.map f).map fun c => [c]) :
      List.Forall₂ (fun c d => normalizeKey [c] = [f d]) a b := by
    rw [List.map_map, ← List.forall₂_eq_eq_eq, List.forall₂_map_left_iff,
      List.forall₂_map_right_iff] at heq
    exact heq
  rw [keyAround, List.map_append, List.map_append, List.map_eq_append_iff] at h
  obtain ⟨begun, last, rfl, hbegun, hlast⟩ := h
  rw [List.map_eq_append_iff] at hbegun
  obtain ⟨first, written, rfl, hfirst, hwritten⟩ := hbegun
  exact ⟨first, written, last, rfl, hforall hfirst, hforall hwritten, hforall hlast⟩

theorem headPieces_eq {toned surface before cluster after base first written last : Text}
    (h : CarriesTone toned before cluster after base)
    (hs : IsSurface surface before cluster after first written last) :
    headPieces toned surface =
      (List.zipWith inCaseOfLetter first before).map .letter ++
        vowelPieces .required (vowelOf cluster) written ++
        (List.zipWith inCaseOfLetter last after).map .letter := by
  have hfirst := hs.first.length_eq
  have hwritten := hs.written.length_eq
  simp only [headPieces, h.aroundTone_eq, hs.split, ← hfirst, ← hwritten, List.append_assoc,
    List.take_left, List.drop_left]

/-- A letter of a head is not blank. -/
theorem not_isBlank_inCaseOfLetter {c d : Char} (hd : d ∈ Marking.standard.letters)
    (h : normalizeKey [c] = [foldLetter d]) : isBlank (inCaseOfLetter c d) = false := by
  have hdblank := not_isBlank_of_mem_letters d hd
  rw [inCaseOfLetter]
  split_ifs with hcd
  · rw [← isBlank_lowerLetter c]
    by_cases hI : c = 'İ'
    · subst hI
      decide
    · rw [lower_singleton hI, List.singleton_inj] at hcd
      rwa [hcd]
  · exact hdblank

theorem isClean_of_mem_letters {surface toned : Text} (htoned : IsSpelled toned)
    (h : List.Forall₂ (fun c d => normalizeKey [c] = [foldLetter d]) surface toned) :
    ∀ p ∈ (List.zipWith inCaseOfLetter surface toned).map Piece.letter, IsClean p := by
  induction h with
  | nil => simp
  | cons hcd _ ih =>
    obtain ⟨hd, htoned⟩ := List.forall_mem_cons.1 htoned
    rw [List.zipWith_cons_cons, List.map_cons, List.forall_mem_cons]
    exact ⟨isClean_letter (not_isBlank_inCaseOfLetter hd hcd), ih htoned⟩

theorem isClean_of_mem_headPieces {toned surface before cluster after base first written last : Text}
    (htoned : IsSpelled toned) (h : CarriesTone toned before cluster after base)
    (hs : IsSurface surface before cluster after first written last) :
    ∀ p ∈ headPieces toned surface, IsClean p := by
  rw [h.split, IsSpelled.append_append_iff] at htoned
  rw [headPieces_eq h hs, List.forall_mem_append, List.forall_mem_append]
  have hvowel := h.spells.vowelOf_mem_keys
  exact ⟨⟨isClean_of_mem_letters htoned.1 hs.first,
    fun p hp => isClean_of_mem_vowelPieces hvowel hp⟩, isClean_of_mem_letters htoned.2.2 hs.last⟩

theorem filter_isSolid_headPieces {toned surface before cluster after base first written last : Text}
    (h : CarriesTone toned before cluster after base)
    (hs : IsSurface surface before cluster after first written last) :
    (headPieces toned surface).filter Piece.isSolid = headPieces toned surface := by
  have hvowel := h.spells.vowelOf_mem_keys
  rw [headPieces_eq h hs, List.filter_append, List.filter_append, filter_isSolid_letters,
    filter_isSolid_vowelPieces hvowel, filter_isSolid_letters]

/-! ## Pieces of queries -/

variable {table : SyllableTable} {syllables : List Text} {query : Text}

theorem queryPieces_of_none (h : headLength table (escape query) = none) :
    queryPieces table query = piecesOf .required query := by
  rw [queryPieces, h]

theorem queryPieces_of_some {n : Nat} {toned : Text}
    (h : headLength table (escape query) = some n) (hn : IsHead table query n toned) :
    queryPieces table query =
      headPieces toned (query.take n) ++ afterGap (piecesOf .optional (query.drop n)) := by
  simp only [queryPieces, h, hn.get, Option.getD_some]

theorem isClean_of_mem_afterGap {ps : List Piece} (h : ∀ p ∈ ps, IsClean p) :
    ∀ p ∈ afterGap ps, IsClean p := by
  rw [afterGap]
  split_ifs
  · exact h
  · exact List.forall_mem_cons.2 ⟨isClean_blanks, h⟩

theorem filter_isSolid_afterGap (ps : List Piece) :
    (afterGap ps).filter Piece.isSolid = ps.filter Piece.isSolid := by
  rw [afterGap]
  split_ifs <;> rfl

/-- The head of a query over a built table, and how the query writes it. -/
structure IsWrittenHead (table : SyllableTable) (query : Text) (n : Nat)
    (before cluster after base first written last : Text) : Prop where
  isHead : IsHead table query n (before ++ cluster ++ after)
  spelled : IsSpelled (before ++ cluster ++ after)
  carriesTone : CarriesTone (before ++ cluster ++ after) before cluster after base
  surface : IsSurface (query.take n) before cluster after first written last

theorem exists_isWrittenHead (h : table.IsBuiltFrom syllables) {n : Nat}
    (hn : headLength table (escape query) = some n) :
    ∃ before cluster after base first written last,
      IsWrittenHead table query n before cluster after base first written last := by
  obtain ⟨toned, hhead⟩ := headLength_eq_some h hn
  obtain ⟨before, cluster, after, base, hcarries, hkey⟩ := h.surface hhead.get
  obtain ⟨first, written, last, hsurface⟩ := exists_isSurface hkey
  have hspelled := (h.isSpelled_of_get? hhead.get).1
  obtain rfl := hcarries.split
  exact ⟨before, cluster, after, base, first, written, last, hhead, hspelled, hcarries, hsurface⟩

theorem isClean_of_mem_queryPieces (h : table.IsBuiltFrom syllables) (query : Text) :
    ∀ p ∈ queryPieces table query, IsClean p := by
  cases hhead : headLength table (escape query) with
  | none =>
    rw [queryPieces_of_none hhead]
    exact isClean_of_mem_piecesFrom
  | some n =>
    obtain ⟨before, cluster, after, base, first, written, last, hw⟩ := exists_isWrittenHead h hhead
    rw [queryPieces_of_some hhead hw.isHead, List.forall_mem_append]
    exact ⟨isClean_of_mem_headPieces hw.spelled hw.carriesTone hw.surface,
      isClean_of_mem_afterGap isClean_of_mem_piecesFrom⟩

/-- Over a built table every query has a pattern that can be read, and what it matches is the
language of its pieces. -/
theorem exists_recognises (h : table.IsBuiltFrom syllables) (query : Text) (caseless : Bool) :
    ∃ pattern r, (Compiler.ofTable table).compile query .pinyin = .ok pattern ∧
      prepare caseless pattern = .ok r ∧
      Recognises r (languageOf (Modes.start caseless).casing (queryPieces table query)) := by
  obtain ⟨r, hr, hrecognises⟩ :=
    prepare_sourceOf (fun p hp => (isClean_of_mem_queryPieces h query p hp).1) caseless
  exact ⟨_, r, compile_eq_sourceOf h query, hr, hrecognises⟩

end Query

/-- Whether the pattern of a query finds something in a text. -/
def Compiler.finds (c : Compiler) (caseless : Bool) (query t : Text) : Except Error Bool := do
  let pattern ← c.compile query .pinyin
  let r ← prepare caseless pattern
  return (r.search t 0 t.length).isSome

theorem Compiler.finds_iff {table : SyllableTable} {syllables : List Text}
    (h : table.IsBuiltFrom syllables) (caseless : Bool) (query t : Text) :
    ∃ found, (Compiler.ofTable table).finds caseless query t = .ok found ∧
      (found = true ↔
        ∃ w ∈ languageOf (Modes.start caseless).casing (Query.queryPieces table query), w <:+: t) := by
  obtain ⟨pattern, r, hcompile, hprepare, hrecognises⟩ := Query.exists_recognises h query caseless
  refine ⟨_, ?_, hrecognises.search_isSome_iff t⟩
  simp only [Compiler.finds, hcompile, hprepare, bind, Except.bind]
  rfl

end TonelessPinyin
