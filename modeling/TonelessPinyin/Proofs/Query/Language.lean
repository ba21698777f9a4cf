import TonelessPinyin.Proofs.Query.Pieces

/-!
The texts that a query stands for, and that its pattern finds just these.
-/
namespace TonelessPinyin.Query

open Text Pattern Syllable

/-! ## The texts of a query -/

/-- The texts of graphemes from `index` on. Written blanks are any blanks; in a longer text there
may be blanks before every grapheme from the third character on. -/
def textsFrom (tones : Tones) (tolerant : Bool) : Nat → List Grapheme → Language Char
  | _, [] => 1
  | index, .blank _ :: gs => blankTexts * textsFrom tones tolerant (index + 1) gs
  | index, g :: gs =>
    (if tolerant && 2 ≤ index then blankTexts else 1) * g.texts tones *
      textsFrom tones tolerant (index + g.spelling.length) gs

/-- The texts of a query without a head, or of the rest after a head. -/
def textsOf (tones : Tones) (t : Text) : Language Char :=
  textsFrom tones (1 < t.length) 0 (graphemes t)

/-- The syllable `toned` where the query writes `surface`. Its cluster may be any toned form of the
vowel; of the other letters the query decides the case. -/
def headTexts (toned surface : Text) : Language Char :=
  match aroundTone toned with
  | none => 0
  | some (before, cluster, after) =>
    let rest := surface.drop before.length
    {List.zipWith inCaseOfLetter (surface.take before.length) before} *
      vowelTexts .required (vowelOf cluster) (rest.take cluster.length) *
      {List.zipWith inCaseOfLetter (rest.drop cluster.length) after}

def queryTexts (table : SyllableTable) (query : Text) : Language Char :=
  match headLength table (escape query) with
  | none => textsOf .required query
  | some n =>
    match table.get? (query.take n) with
    | none => 0
    | some toned =>
      headTexts toned (query.take n) * blankTexts * textsOf .optional (query.drop n)

/-! ## The languages of pieces -/

theorem blankTexts_mul_self : blankTexts * blankTexts = blankTexts := by
  ext w
  rw [Language.mem_mul]
  constructor
  · rintro ⟨u, hu, v, hv, rfl⟩
    exact List.forall_mem_append.2 ⟨hu, hv⟩
  · intro hw
    exact ⟨w, hw, [], by simp [mem_blankTexts], List.append_nil w⟩

theorem blankTexts_mul_mul (L : Language Char) : blankTexts * (blankTexts * L) = blankTexts * L := by
  rw [← mul_assoc, blankTexts_mul_self]

/-- Blanks before an allowed gap are as good as the gap. -/
theorem blankTexts_mul_gap (b : Bool) (L : Language Char) :
    blankTexts * ((if b then blankTexts else 1) * L) = blankTexts * L := by
  cases b
  · exact congrArg (blankTexts * ·) (one_mul L)
  · exact blankTexts_mul_mul L

theorem language_blanks : Piece.blanks.language .exact = blankTexts := rfl

theorem languageOf_nil : languageOf .exact [] = 1 := rfl

theorem languageOf_blanks : languageOf .exact [.blanks] = blankTexts := by
  rw [languageOf_cons, language_blanks, languageOf_nil, mul_one]

theorem mem_singleton_iff {t w : Text} : w ∈ ({t} : Language Char) ↔ w = t := Iff.rfl

theorem languageOf_letters (t : Text) : languageOf .exact (t.map .letter) = {t} := by
  ext w
  rw [mem_languageOf_letters_iff, mem_singleton_iff, eq_comm]
  simp only [Casing.agrees, beq_iff_eq, List.forall₂_eq_eq_eq]

theorem languageOf_sets (sets : List Text) :
    languageOf .exact (sets.map .set) = oneOfEach sets := by
  induction sets with
  | nil =>
    ext w
    rw [List.map_nil, languageOf_nil, Language.mem_one]
    exact (List.forall₂_nil_right_iff).symm
  | cons letters sets ih =>
    rw [List.map_cons, languageOf_cons, ih]
    ext w
    have hset (u : Text) : u ∈ (Piece.set letters).language .exact ↔ ∃ c ∈ letters, u = [c] := by
      simp [Piece.language, Piece.isSolid, mem_agreeing, Piece.letters, Casing.agrees]
    rw [Language.mem_mul]
    simp only [hset]
    constructor
    · rintro ⟨u, ⟨c, hc, rfl⟩, v, hv, rfl⟩
      exact .cons hc hv
    · intro hw
      cases hw with
      | @cons c _ v _ hc hv => exact ⟨[c], ⟨c, hc, rfl⟩, v, hv, rfl⟩

theorem languageOf_vowelPieces (tones : Tones) (key surface : Text) :
    languageOf .exact (vowelPieces tones key surface) = vowelTexts tones key surface := by
  have hsets : vowelPieces tones key surface =
      ((tones.lettersOf key).map (inCaseOf surface)).map .set := (List.map_map ..).symm
  rw [hsets, languageOf_sets, vowelTexts]

theorem languageOf_pieces (tones : Tones) (g : Grapheme) :
    languageOf .exact (g.pieces tones) = g.texts tones := by
  cases g with
  | blank c => exact languageOf_blanks
  | letter c =>
    rw [Grapheme.pieces, Grapheme.texts]
    split_ifs
    · exact languageOf_vowelPieces tones _ _
    · exact languageOf_letters [c]
  | compound c d => exact languageOf_vowelPieces tones _ _

theorem languageOf_gap (b : Bool) :
    languageOf .exact (if b then [.blanks] else []) = if b then blankTexts else 1 := by
  cases b
  · exact languageOf_nil
  · exact languageOf_blanks

/-! ## The language of a query -/

variable {tones : Tones} {tolerant : Bool}

theorem textsFrom_cons {g : Grapheme} (hg : ∀ c, g ≠ .blank c) (index : Nat) (gs : List Grapheme) :
    textsFrom tones tolerant index (g :: gs) =
      (if tolerant && 2 ≤ index then blankTexts else 1) * g.texts tones *
        textsFrom tones tolerant (index + g.spelling.length) gs := by
  cases g with
  | blank c => exact absurd rfl (hg c)
  | letter c => rfl
  | compound c d => rfl

/-- The gap that is left out after blanks makes no difference after blanks. -/
theorem languageOf_piecesFrom (gs : List Grapheme) (index : Nat) :
    languageOf .exact (piecesFrom tones tolerant index false gs) =
        textsFrom tones tolerant index gs ∧
      blankTexts * languageOf .exact (piecesFrom tones tolerant index true gs) =
        blankTexts * textsFrom tones tolerant index gs := by
  induction gs generalizing index with
  | nil => exact ⟨rfl, rfl⟩
  | cons g gs ih =>
    -- only after written blanks is the gap left out, and there it adds nothing
    by_cases hg : ∃ c, g = .blank c
    · obtain ⟨c, rfl⟩ := hg
      simp only [piecesFrom, textsFrom, languageOf_append, Bool.false_eq_true, if_false, if_true,
        languageOf_blanks, languageOf_nil, one_mul, (ih (index + 1)).2, blankTexts_mul_mul,
        and_self]
    · have hg' : ∀ c, g ≠ .blank c := fun c hc => hg ⟨c, hc⟩
      rw [piecesFrom_cons hg', piecesFrom_cons hg', textsFrom_cons hg']
      simp only [languageOf_append, languageOf_pieces, (ih _).1, Bool.not_false, Bool.not_true,
        Bool.and_true, Bool.and_false, languageOf_gap, Bool.false_eq_true, if_false, one_mul,
        languageOf_nil, true_and]
      rw [mul_assoc _ (g.texts tones), blankTexts_mul_gap]

theorem languageOf_piecesOf (tones : Tones) (t : Text) :
    languageOf .exact (piecesOf tones t) = textsOf tones t :=
  (languageOf_piecesFrom (graphemes t) 0).1

theorem languageOf_headPieces {toned before cluster after base : Text}
    (h : CarriesTone toned before cluster after base) (surface : Text) :
    languageOf .exact (headPieces toned surface) = headTexts toned surface := by
  simp only [headPieces, headTexts, h.aroundTone_eq, languageOf_append, languageOf_letters,
    languageOf_vowelPieces]

/-- Pieces that begin with any blanks take more blanks before them. -/
theorem languageOf_afterGap (ps : List Piece) :
    languageOf .exact (afterGap ps) = blankTexts * languageOf .exact ps := by
  rw [afterGap]
  split_ifs with h
  · obtain ⟨ps, rfl⟩ := List.head?_eq_some_iff.1 h
    rw [languageOf_cons, language_blanks, blankTexts_mul_mul]
  · rw [languageOf_cons, language_blanks]

variable {table : SyllableTable} {syllables : List Text}

theorem languageOf_queryPieces (h : table.IsBuiltFrom syllables) (query : Text) :
    languageOf .exact (queryPieces table query) = queryTexts table query := by
  cases hhead : headLength table (escape query) with
  | none =>
    rw [queryPieces_of_none hhead, languageOf_piecesOf, queryTexts, hhead]
  | some n =>
    obtain ⟨before, cluster, after, base, first, written, last, hw⟩ := exists_isWrittenHead h hhead
    rw [queryPieces_of_some hhead hw.isHead, languageOf_append,
      languageOf_headPieces hw.carriesTone, languageOf_afterGap, languageOf_piecesOf, ← mul_assoc]
    simp only [queryTexts, hhead, hw.isHead.get]

/-- Over a built table a query finds something in a text just if one of the texts that the query
stands for is in it. -/
theorem finds_iff_queryTexts (h : table.IsBuiltFrom syllables) (query t : Text) :
    ∃ found, (Compiler.ofTable table).finds false query t = .ok found ∧
      (found = true ↔ ∃ w ∈ queryTexts table query, w <:+: t) := by
  obtain ⟨found, hfinds, hiff⟩ := Compiler.finds_iff h false query t
  have hexact : (Modes.start false).casing = .exact := rfl
  rw [hexact, languageOf_queryPieces h query] at hiff
  exact ⟨found, hfinds, hiff⟩

/-- Over the syllable lǔ the query `lux` finds something in `lǚ x`. -/
theorem finds_iff_queryTexts_lux :
    (Compiler.ofTable ⟨[(['l', 'u'], ['l', 'ǔ'])]⟩).finds false ['l', 'u', 'x']
        ['l', 'ǚ', ' ', 'x'] = .ok true ∧
      ∃ w ∈ queryTexts ⟨[(['l', 'u'], ['l', 'ǔ'])]⟩ ['l', 'u', 'x'], w <:+: ['l', 'ǚ', ' ', 'x'] := by
  have htable : SyllableTable.IsBuiltFrom ⟨[(['l', 'u'], ['l', 'ǔ'])]⟩ [['l', 'ǔ']] :=
    ⟨by decide, by decide⟩
  have htrue : (Compiler.ofTable ⟨[(['l', 'u'], ['l', 'ǔ'])]⟩).finds false ['l', 'u', 'x']
      ['l', 'ǚ', ' ', 'x'] = .ok true := by
    decide
  obtain ⟨found, hfinds, hiff⟩ := finds_iff_queryTexts htable ['l', 'u', 'x'] ['l', 'ǚ', ' ', 'x']
  obtain rfl := Except.ok.inj (hfinds.symm.trans htrue)
  exact ⟨htrue, hiff.1 rfl⟩

end TonelessPinyin.Query
