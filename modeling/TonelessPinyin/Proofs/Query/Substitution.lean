import TonelessPinyin.Proofs.Query.Grapheme

/-!
Substitution writes the pieces of the graphemes of a text.
-/
namespace TonelessPinyin.Query

open Text Pattern VowelClasses

variable {tones : Tones}

theorem longest?_eq (tones : Tones) (t : Text) :
    tones.classes.longest? t = vowelKeys.find? (beginsWith · t) := by
  rw [longest?, tones.sortLongest_keys]

theorem beginsWith_one (v c : Char) (t : Text) :
    beginsWith [v] (c :: t) = (lower [c] == [v]) := by
  simp [beginsWith]

theorem beginsWith_two (u v c d : Char) (t : Text) :
    beginsWith [u, v] (c :: d :: t) = (lower [c, d] == [u, v]) := by
  simp [beginsWith]

theorem not_beginsWith_two (u v c : Char) : beginsWith [u, v] [c] = false := by
  simp [beginsWith]

theorem longest?_compound {c d : Char} (h : isCompound c d = true) (t : Text) :
    tones.classes.longest? (c :: d :: t) = some (lower [c, d]) := by
  rw [longest?_eq]
  rcases isCompound_iff.1 h with hl | hl <;> simp [vowelKeys, beginsWith_two, hl]

theorem find?_beq (t : Text) (keys : List Text) :
    keys.find? (t == ·) = if t ∈ keys then some t else none := by
  induction keys with
  | nil => rfl
  | cons key keys ih =>
    by_cases h : t = key
    · simp [h]
    · simp [h, ih]

/-- Where no compound begins, the vowel is the first letter itself, if it is one. -/
theorem longest?_single {c : Char} {t : Text} (h : BeginsSingly c t) :
    tones.classes.longest? (c :: t) = if lower [c] ∈ vowelKeys then some (lower [c]) else none := by
  have hcompound : beginsWith ['u', 'e'] (c :: t) = false ∧
      beginsWith ['v', 'e'] (c :: t) = false := by
    cases t with
    | nil => exact ⟨not_beginsWith_two _ _ c, not_beginsWith_two _ _ c⟩
    | cons d t =>
      have hcd := h d rfl
      simpa [beginsWith_two, isCompound] using hcd
  -- İ has a lower case of two characters, but they are no compound
  have hdifferent : lower [c] ≠ ['u', 'e'] ∧ lower [c] ≠ ['v', 'e'] := by
    by_cases hI : c = 'İ'
    · subst hI
      decide
    · simp [lower_singleton hI]
  have hfind : vowelKeys.find? (beginsWith · (c :: t)) =
      [['a'], ['e'], ['i'], ['o'], ['u'], ['v']].find? (lower [c] == ·) := by
    simp [vowelKeys, List.find?_cons, hcompound.1, hcompound.2, beginsWith_one]
  have hmem : lower [c] ∈ vowelKeys ↔ lower [c] ∈ [['a'], ['e'], ['i'], ['o'], ['u'], ['v']] := by
    rw [vowelKeys, List.mem_cons, List.mem_cons, or_iff_right hdifferent.1,
      or_iff_right hdifferent.2]
  rw [longest?_eq, hfind, find?_beq]
  simp only [hmem]

theorem leading_compound {c d : Char} (h : isCompound c d = true) (t : Text) :
    leading tones.classes c (d :: t) = (sourceOf ((Grapheme.compound c d).pieces tones), 2) := by
  have hlength : (lower [c, d]).length = 2 := by simp [lower_pair h]
  simp only [leading, longest?_compound h, tones.find_classes (mem_vowelKeys_of_isCompound h),
    inCaseOf_eq_sourceOf, hlength]
  rfl

theorem leading_single {c : Char} {t : Text} (h : BeginsSingly c t) :
    leading tones.classes c t = (sourceOf ((Grapheme.letter c).pieces tones), 1) := by
  rw [leading, longest?_single h, Grapheme.pieces]
  split_ifs with hkey
  · have hlength : (lower [c]).length = 1 := by
      by_cases hI : c = 'İ'
      · subst hI
        exact absurd hkey (by decide)
      · simp [lower_singleton hI]
    simp only [tones.find_classes hkey, inCaseOf_eq_sourceOf, hlength]
    rfl
  · simp [sourceOf, Piece.source]

theorem head?_sourceOf_vowelPieces (tones : Tones) {key : Text} (h : key ∈ vowelKeys)
    (surface : Text) :
    (sourceOf (vowelPieces tones key surface)).head? = some '[' := by
  have hne : ∀ k ∈ vowelKeys, tones.lettersOf k ≠ [] := by cases tones <;> decide
  obtain ⟨letters, sets, hsets⟩ := List.exists_cons_of_ne_nil (hne key h)
  simp [vowelPieces, hsets, sourceOf, Piece.source, VowelClasses.set]

/-- No grapheme that is not a blank is written as any blanks. -/
theorem sourceOf_pieces_ne_blanks {g : Grapheme} (hg : ∀ c, g ≠ .blank c)
    (hcompound : ∀ c d, g = .compound c d → isCompound c d = true) :
    sourceOf (g.pieces tones) ≠ blanks := by
  have hvowel {key surface : Text} (h : key ∈ vowelKeys) :
      sourceOf (vowelPieces tones key surface) ≠ blanks := by
    intro heq
    have hhead := head?_sourceOf_vowelPieces tones h surface
    rw [heq] at hhead
    simp [blanks] at hhead
  cases g with
  | blank c => exact absurd rfl (hg c)
  | letter c =>
    rw [Grapheme.pieces]
    split_ifs with hkey
    · exact hvowel hkey
    · intro heq
      have hlength := congrArg List.length heq
      by_cases hc : c ∈ specials <;>
        simp [sourceOf, Piece.source, escapeLetter, hc, blanks] at hlength
  | compound c d => exact hvowel (mem_vowelKeys_of_isCompound (hcompound c d rfl))

/-- The next token after a grapheme that is not a blank. -/
theorem tokensFrom_cons {c : Char} {t : Text} (hb : isBlank c = false) {tolerant : Bool}
    {g : Grapheme} {count index : Nat} {done : List Text}
    (hlead : leading tones.classes c t = (sourceOf (g.pieces tones), g.spelling.length)) :
    tokensFrom tones.classes blanks tolerant (count + 1) index done (c :: t) =
      tokensFrom tones.classes blanks tolerant count (index + g.spelling.length)
        (sourceOf (g.pieces tones) ::
          if tolerant && 2 ≤ index && done.head?.any (· != blanks) then blanks :: done else done)
        ((c :: t).drop g.spelling.length) := by
  rw [tokensFrom, if_neg (by simp [hb]), hlead]

theorem head?_any_ne_eq {done : List Text} (h : done ≠ []) :
    done.head?.any (· != blanks) = !(done.head? == some blanks) := by
  obtain ⟨token, done, rfl⟩ := List.exists_cons_of_ne_nil h
  simp [bne]

/-- A token, and blanks before it where they are due, are the pieces of its grapheme. -/
theorem flatten_after_token {g : Grapheme} (hg : ∀ c, g ≠ .blank c)
    (hne : sourceOf (g.pieces tones) ≠ blanks) {tolerant : Bool} {index : Nat} {done : List Text}
    (hdone : 2 ≤ index → done ≠ []) (gs : List Grapheme) :
    (sourceOf (g.pieces tones) :: if tolerant && 2 ≤ index && done.head?.any (· != blanks)
        then blanks :: done else done).reverse.flatten ++
      sourceOf (piecesFrom tones tolerant (index + g.spelling.length)
        ((sourceOf (g.pieces tones) :: if tolerant && 2 ≤ index && done.head?.any (· != blanks)
          then blanks :: done else done).head? == some blanks) gs) =
      done.reverse.flatten ++
        sourceOf (piecesFrom tones tolerant index (done.head? == some blanks) (g :: gs)) := by
  have hlast : ((some (sourceOf (g.pieces tones)) : Option Text) == some blanks) = false := by
    simpa using hne
  rw [List.head?_cons, hlast, piecesFrom_cons hg, sourceOf_append, sourceOf_append]
  by_cases hindex : 2 ≤ index
  · rw [head?_any_ne_eq (hdone hindex)]
    cases tolerant && decide (2 ≤ index) && !(done.head? == some blanks) <;>
      simp [sourceOf, Piece.source]
  · simp [hindex, sourceOf]

/-- What is written from `index` on, after the tokens `done`. The count is enough, since every
token takes a character. -/
theorem flatten_tokensFrom (tones : Tones) (tolerant : Bool) (t : Text) {count index : Nat}
    {done : List Text} (hcount : t.length ≤ count) (hdone : 2 ≤ index → done ≠ []) :
    (tokensFrom tones.classes blanks tolerant count index done t).flatten =
      done.reverse.flatten ++
        sourceOf (piecesFrom tones tolerant index (done.head? == some blanks) (graphemes t)) := by
  induction t using graphemes_cases generalizing count index done with
  | nil => cases count <;> simp [tokensFrom, graphemes, piecesFrom, sourceOf]
  | blank c t hb ih =>
    obtain ⟨count, rfl⟩ := Nat.exists_eq_add_of_le' (Nat.le_trans (Nat.succ_pos t.length) hcount)
    have hlength : t.length ≤ count := Nat.le_of_succ_le_succ hcount
    rw [tokensFrom, if_pos hb, graphemes_blank hb, piecesFrom, sourceOf_append]
    by_cases hspaced : done.head? = some blanks
    · have hne : done ≠ [] := by rintro rfl; simp at hspaced
      rw [if_pos hspaced, ih hlength fun _ => hne]
      simp [hspaced, sourceOf]
    · rw [if_neg hspaced, ih hlength fun _ => List.cons_ne_nil _ _]
      simp [hspaced, sourceOf, Piece.source]
  | letter c t hb h ih =>
    obtain ⟨count, rfl⟩ := Nat.exists_eq_add_of_le' (Nat.le_trans (Nat.succ_pos t.length) hcount)
    have hlength : t.length ≤ count := Nat.le_of_succ_le_succ hcount
    have hne : sourceOf ((Grapheme.letter c).pieces tones) ≠ blanks :=
      sourceOf_pieces_ne_blanks (by simp) (by simp)
    rw [tokensFrom_cons hb (leading_single h), graphemes_letter hb h,
      ← flatten_after_token (by simp) hne hdone]
    exact ih hlength fun _ => List.cons_ne_nil _ _
  | compound c d t h ih =>
    obtain ⟨count, rfl⟩ := Nat.exists_eq_add_of_le' (Nat.le_trans (Nat.succ_pos _) hcount)
    have hlength : t.length ≤ count := by
      simp only [List.length_cons] at hcount
      omega
    have hne : sourceOf ((Grapheme.compound c d).pieces tones) ≠ blanks :=
      sourceOf_pieces_ne_blanks (by simp) (by rintro _ _ ⟨⟩; exact h)
    rw [tokensFrom_cons (not_blank_of_isCompound h).1 (leading_compound h t),
      graphemes_compound h, ← flatten_after_token (by simp) hne hdone]
    exact ih hlength fun _ => List.cons_ne_nil _ _

/-- The pattern of a text that is substituted as a whole is spelled by its pieces. -/
theorem substitute_eq_sourceOf (tones : Tones) (t : Text) :
    substitute tones.classes blanks t = sourceOf (piecesOf tones t) := by
  rw [substitute, tokens, flatten_tokensFrom tones _ t le_rfl (by simp)]
  rfl

end TonelessPinyin.Query
