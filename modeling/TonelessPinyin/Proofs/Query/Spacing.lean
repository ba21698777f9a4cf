import TonelessPinyin.Proofs.Query.EscapedHead
import TonelessPinyin.Proofs.Query.Soundness

/-!
Queries that differ in the blanks between their words. Which blanks a run has, and how many, makes
no difference: the head ends before the first run, and from the first run on the tokens after a run
stand where blanks are allowed before the next ones.
-/
namespace TonelessPinyin

open Text Pattern Syllable

namespace Query

/-- One blank or more. -/
def IsGap (t : Text) : Prop := t ≠ [] ∧ ∀ c ∈ t, isBlank c = true

instance (t : Text) : Decidable (IsGap t) := inferInstanceAs (Decidable (_ ∧ _))

/-- The texts are the same but for their gaps, each of which is a gap in both. -/
inductive Respaced : Text → Text → Prop
  | nil : Respaced [] []
  | letter {c : Char} {t t' : Text} (hc : isBlank c = false) (h : Respaced t t') :
      Respaced (c :: t) (c :: t')
  | gap {gap gap' t t' : Text} (hgap : IsGap gap) (hgap' : IsGap gap') (h : Respaced t t') :
      Respaced (gap ++ t) (gap' ++ t')

theorem IsGap.exists_eq_cons {gap : Text} (h : IsGap gap) :
    ∃ c rest, gap = c :: rest ∧ isBlank c = true := by
  obtain ⟨c, rest, rfl⟩ := List.exists_cons_of_ne_nil h.1
  exact ⟨c, rest, rfl, h.2 c List.mem_cons_self⟩

namespace Respaced

variable {t t' : Text}

theorem symm (h : Respaced t t') : Respaced t' t := by
  induction h with
  | nil => exact .nil
  | letter hc _ ih => exact .letter hc ih
  | gap hgap hgap' _ ih => exact .gap hgap' hgap ih

theorem eq_nil_iff (h : Respaced t t') : t = [] ↔ t' = [] := by
  cases h with
  | nil => rfl
  | letter => simp
  | gap hgap hgap' => simp [hgap.1, hgap'.1]

/-- A text that begins with a letter differs only after it. -/
theorem exists_of_cons {c : Char} (hc : isBlank c = false) (h : Respaced (c :: t) t') :
    ∃ rest, t' = c :: rest ∧ Respaced t rest := by
  generalize htext : c :: t = text at h
  cases h with
  | nil => cases htext
  | letter _ h =>
    obtain ⟨rfl, rfl⟩ := List.cons.inj htext
    exact ⟨_, rfl, h⟩
  | gap hgap _ _ =>
    obtain ⟨d, rest, rfl, hd⟩ := hgap.exists_eq_cons
    obtain ⟨rfl, -⟩ := List.cons.inj htext
    rw [hc] at hd
    cases hd

/-- Up to the first blank the texts are the same. -/
theorem take_eq {n : Nat} (h : Respaced t t') (hn : ∀ c ∈ t.take n, isBlank c = false) :
    t'.take n = t.take n ∧ Respaced (t.drop n) (t'.drop n) := by
  induction n generalizing t t' with
  | zero => exact ⟨rfl, h⟩
  | succ n ih =>
    cases t with
    | nil =>
      obtain rfl := h.eq_nil_iff.1 rfl
      exact ⟨rfl, .nil⟩
    | cons c t =>
      obtain ⟨hc, hrest⟩ := List.forall_mem_cons.1 hn
      obtain ⟨rest, rfl, hspaced⟩ := h.exists_of_cons hc
      obtain ⟨htake, hdrop⟩ := ih hspaced hrest
      exact ⟨congrArg (c :: ·) htake, hdrop⟩

theorem lt_length_iff {n : Nat} (h : Respaced t t') (hn : ∀ c ∈ t.take n, isBlank c = false) :
    n < t.length ↔ n < t'.length := by
  have hend := (h.take_eq hn).2.eq_nil_iff
  rw [List.drop_eq_nil_iff, List.drop_eq_nil_iff] at hend
  omega

end Respaced

/-! ## Graphemes -/

theorem Respaced.beginsSingly {c : Char} {t t' : Text} (h : Respaced t t')
    (hsingly : BeginsSingly c t) : BeginsSingly c t' := by
  cases h with
  | nil => exact hsingly
  | letter => simpa [BeginsSingly] using hsingly
  | gap _ hgap' _ =>
    obtain ⟨d, rest, rfl, hd⟩ := hgap'.exists_eq_cons
    intro e he
    obtain rfl : d = e := by simpa using he
    by_contra hcompound
    have hblank := (not_blank_of_isCompound (Bool.eq_true_of_not_eq_false hcompound)).2
    rw [hd] at hblank
    cases hblank

/-- Both texts are taken apart at their first grapheme, or at their first gap. -/
theorem Respaced.graphemes_cases {motive : Text → Text → Prop} (nil : motive [] [])
    (letter : ∀ c t t', isBlank c = false → BeginsSingly c t → BeginsSingly c t' →
      motive t t' → motive (c :: t) (c :: t'))
    (compound : ∀ c d t t', isCompound c d = true → motive t t' →
      motive (c :: d :: t) (c :: d :: t'))
    (gap : ∀ gap gap' t t', IsGap gap → IsGap gap' → motive t t' →
      motive (gap ++ t) (gap' ++ t')) {t t' : Text} (h : Respaced t t') : motive t t' := by
  -- a compound takes two letters, so the rest after the first one is carried along
  suffices hboth : motive t t' ∧ ∀ d rest, t = d :: rest → isBlank d = false →
      ∃ rest', t' = d :: rest' ∧ motive rest rest' from hboth.1
  induction h with
  | nil =>
    refine ⟨nil, ?_⟩
    rintro d rest ⟨⟩
  | @letter c t t' hc h ih =>
    obtain ⟨ih, hafter⟩ := ih
    refine ⟨?_, ?_⟩
    · by_cases hsingly : BeginsSingly c t
      · exact letter c t t' hc hsingly (h.beginsSingly hsingly) ih
      · obtain ⟨d, hd, hcompound⟩ : ∃ d ∈ t.head?, isCompound c d = true := by
          simpa [BeginsSingly] using hsingly
        obtain ⟨rest, rfl⟩ := List.head?_eq_some_iff.1 hd
        obtain ⟨rest', rfl, hrest⟩ := hafter d rest rfl (not_blank_of_isCompound hcompound).2
        exact compound c d rest rest' hcompound hrest
    · rintro d rest ⟨⟩ -
      exact ⟨t', rfl, ih⟩
  | @gap g g' t t' hgap hgap' h ih =>
    refine ⟨gap g g' t t' hgap hgap' ih.1, ?_⟩
    obtain ⟨c, rest, rfl, hc⟩ := hgap.exists_eq_cons
    rintro d rest' ⟨⟩ hd
    rw [hc] at hd
    cases hd

/-! ## Pieces -/

variable {tones : Tones}

theorem piecesFrom_blanks {gap : Text} (hgap : ∀ c ∈ gap, isBlank c = true) (tolerant : Bool)
    (index : Nat) (t : Text) :
    piecesFrom tones tolerant index true (graphemes (gap ++ t)) =
      piecesFrom tones tolerant (index + gap.length) true (graphemes t) := by
  induction gap generalizing index with
  | nil => rfl
  | cons c gap ih =>
    obtain ⟨hc, hgap⟩ := List.forall_mem_cons.1 hgap
    rw [List.cons_append, graphemes_blank hc, piecesFrom, if_pos rfl, List.nil_append, ih hgap,
      List.length_cons, Nat.add_right_comm, Nat.add_assoc]

/-- A gap is one piece of blanks, or none after blanks. -/
theorem piecesFrom_gap {gap : Text} (hgap : IsGap gap) (tolerant : Bool) (index : Nat)
    (afterBlanks : Bool) (t : Text) :
    piecesFrom tones tolerant index afterBlanks (graphemes (gap ++ t)) =
      (if afterBlanks then [] else [.blanks]) ++
        piecesFrom tones tolerant (index + gap.length) true (graphemes t) := by
  obtain ⟨c, rest, rfl, hc⟩ := hgap.exists_eq_cons
  rw [List.cons_append, graphemes_blank hc, piecesFrom,
    piecesFrom_blanks (List.forall_mem_cons.1 hgap.2).2, List.length_cons, Nat.add_right_comm,
    Nat.add_assoc]

/-- The places are equal as far as blanks before the next graphemes go: after blanks both are past
the first character, else both are past the second. -/
def SamePlace (afterBlanks : Bool) (i j : Nat) : Prop :=
  i = j ∨ (if afterBlanks then 1 else 2) ≤ min i j

theorem SamePlace.add {afterBlanks : Bool} {i j : Nat} (h : SamePlace afterBlanks i j) {n : Nat}
    (hn : 1 ≤ n) : SamePlace false (i + n) (j + n) := by
  rcases h with rfl | h
  · exact .inl rfl
  · refine .inr ?_
    cases afterBlanks <;> simp at h ⊢ <;> omega

theorem SamePlace.gap_eq {afterBlanks : Bool} {i j : Nat} (h : SamePlace afterBlanks i j) :
    (decide (2 ≤ i) && !afterBlanks) = (decide (2 ≤ j) && !afterBlanks) := by
  rcases h with rfl | h
  · rfl
  · cases afterBlanks with
    | true => simp
    | false =>
      have hboth : 2 ≤ i ∧ 2 ≤ j := by simpa using h
      simp [hboth]

theorem piecesFrom_cons_congr {g : Grapheme} (hg : ∀ c, g ≠ .blank c) {tolerant : Bool} {i j : Nat}
    {afterBlanks : Bool} (hplace : SamePlace afterBlanks i j) {gs gs' : List Grapheme}
    (hrest : ∀ {i j}, SamePlace false i j →
      piecesFrom tones tolerant i false gs = piecesFrom tones tolerant j false gs') :
    piecesFrom tones tolerant i afterBlanks (g :: gs) =
      piecesFrom tones tolerant j afterBlanks (g :: gs') := by
  have hlength : 1 ≤ g.spelling.length := by cases g <;> simp [Grapheme.spelling]
  rw [piecesFrom_cons hg, piecesFrom_cons hg, Bool.and_assoc, Bool.and_assoc, hplace.gap_eq,
    hrest (hplace.add hlength)]

/-- The pieces of the texts are the same, also from different places. -/
theorem Respaced.piecesFrom_eq {t t' : Text} (h : Respaced t t') (tolerant : Bool) {i j : Nat}
    {afterBlanks : Bool} (hplace : SamePlace afterBlanks i j) :
    piecesFrom tones tolerant i afterBlanks (graphemes t) =
      piecesFrom tones tolerant j afterBlanks (graphemes t') := by
  refine h.graphemes_cases (motive := fun t t' => ∀ {i j afterBlanks}, SamePlace afterBlanks i j →
    piecesFrom tones tolerant i afterBlanks (graphemes t) =
      piecesFrom tones tolerant j afterBlanks (graphemes t')) ?nil ?letter ?compound ?gap hplace
  case nil => exact fun _ => rfl
  case letter =>
    intro c t t' hc hsingly hsingly' ih i j afterBlanks hplace
    rw [graphemes_letter hc hsingly, graphemes_letter hc hsingly']
    exact piecesFrom_cons_congr (by simp) hplace ih
  case compound =>
    intro c d t t' hcompound ih i j afterBlanks hplace
    rw [graphemes_compound hcompound, graphemes_compound hcompound]
    exact piecesFrom_cons_congr (by simp) hplace ih
  case gap =>
    intro gap gap' t t' hgap hgap' ih i j afterBlanks hplace
    have hlength := List.length_pos_of_ne_nil hgap.1
    have hlength' := List.length_pos_of_ne_nil hgap'.1
    have hafter : SamePlace true (i + gap.length) (j + gap'.length) := by
      refine .inr ?_
      rw [if_pos rfl]
      omega
    rw [piecesFrom_gap hgap, piecesFrom_gap hgap', ih hafter]

/-- The length of the text makes no difference: a short one has no third character. -/
theorem piecesOf_eq (tones : Tones) (t : Text) :
    piecesOf tones t = piecesFrom tones true 0 false (graphemes t) := by
  rw [piecesOf]
  cases t with
  | nil => rfl
  | cons c t =>
    cases t with
    | nil =>
      rw [graphemes, Grapheme.single]
      split_ifs <;> rfl
    | cons d t => simp

theorem Respaced.piecesOf_eq {t t' : Text} (h : Respaced t t') :
    piecesOf tones t = piecesOf tones t' := by
  rw [Query.piecesOf_eq, Query.piecesOf_eq]
  exact h.piecesFrom_eq true (.inl rfl)

/-! ## Heads -/

variable {table : SyllableTable} {syllables : List Text} {query query' : Text}

theorem not_isBlank_of_contains (h : table.IsBuiltFrom syllables) {t : Text}
    (ht : table.contains t = true) : ∀ c ∈ t, isBlank c = false := by
  obtain ⟨toned, hget⟩ := Option.isSome_iff_exists.1 ht
  exact not_isBlank_of_isSpelled_lower (h.isSpelled_of_get? hget).2

/-- The longest beginning ends before the first gap. -/
theorem Respaced.isLongestBeginning (h : table.IsBuiltFrom syllables)
    (hspaced : Respaced query query') {n : Nat} (hn : IsLongestBeginning table query n) :
    IsLongestBeginning table query' n := by
  have hplain := not_isBlank_of_contains h hn.contains
  refine ⟨hn.two_le, (hspaced.lt_length_iff hplain).1 hn.lt, ?_, ?_⟩
  · rw [(hspaced.take_eq hplain).1]
    exact hn.contains
  · intro m hm hlt
    rw [Bool.eq_false_iff]
    intro hcontains
    -- a longer one of the other query would be one of this query
    have hplain' := not_isBlank_of_contains h hcontains
    have hlonger := hn.longest m hm ((hspaced.symm.lt_length_iff hplain').1 hlt)
    rw [(hspaced.symm.take_eq hplain').1, hcontains] at hlonger
    cases hlonger

theorem Respaced.headLength_eq (h : table.IsBuiltFrom syllables) (hspaced : Respaced query query') :
    headLength table (escape query) = headLength table (escape query') := by
  apply Option.ext
  intro n
  rw [headLength_escape_eq_some_iff h, headLength_escape_eq_some_iff h]
  exact ⟨hspaced.isLongestBeginning h, hspaced.symm.isLongestBeginning h⟩

theorem Respaced.queryPieces_eq (h : table.IsBuiltFrom syllables) (hspaced : Respaced query query') :
    queryPieces table query = queryPieces table query' := by
  rw [queryPieces, queryPieces, ← hspaced.headLength_eq h]
  cases hhead : headLength table (escape query) with
  | none => exact hspaced.piecesOf_eq
  | some n =>
    have hn := (headLength_escape_eq_some_iff h).1 hhead
    obtain ⟨htake, hdrop⟩ := hspaced.take_eq (not_isBlank_of_contains h hn.contains)
    simp only [htake, hdrop.piecesOf_eq]

end Query

namespace Compiler

open Query

/-- Queries that differ in the gaps between their words only have the same pattern. -/
theorem compile_respaced {table : SyllableTable} {syllables : List Text}
    (h : table.IsBuiltFrom syllables) {query query' : Text} (hspaced : Respaced query query') :
    ∃ pattern, (ofTable table).compile query .pinyin = .ok pattern ∧
      (ofTable table).compile query' .pinyin = .ok pattern := by
  refine ⟨_, compile_eq_sourceOf h query, ?_⟩
  rw [hspaced.queryPieces_eq h]
  exact compile_eq_sourceOf h query'

/-- One blank after each word, or several and other ones. -/
theorem compile_respaced_zhen :
    let table : SyllableTable := ⟨[(['z', 'h', 'e', 'n'], ['z', 'h', 'ē', 'n'])]⟩
    let query := ['z', 'h', 'e', 'n', ' ', 'd', 'e', ' ']
    let query' := ['z', 'h', 'e', 'n', '\u3000', '\t', ' ', 'd', 'e', '\n']
    table.IsBuiltFrom [['z', 'h', 'ē', 'n']] ∧ Respaced query query' ∧
      (ofTable table).compile query .pinyin = (ofTable table).compile query' .pinyin := by
  intro table query query'
  have hbuilt : table.IsBuiltFrom [['z', 'h', 'ē', 'n']] := ⟨by decide, by decide⟩
  have hend : Respaced ([' '] ++ []) (['\n'] ++ []) := .gap (by decide) (by decide) .nil
  have hrest : Respaced ([' '] ++ ['d', 'e', ' ']) (['\u3000', '\t', ' '] ++ ['d', 'e', '\n']) :=
    .gap (by decide) (by decide) (.letter (by decide) (.letter (by decide) hend))
  have hspaced : Respaced query query' :=
    .letter (by decide) (.letter (by decide) (.letter (by decide) (.letter (by decide) hrest)))
  obtain ⟨pattern, hquery, hquery'⟩ := compile_respaced hbuilt hspaced
  exact ⟨hbuilt, hspaced, hquery.trans hquery'.symm⟩

end Compiler

end TonelessPinyin
