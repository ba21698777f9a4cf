import TonelessPinyin.Proofs.Vowel.Forms

/-!
A query cut into graphemes: blanks, single letters, and ue or ve written together. Substitution
works on graphemes one after another, and what it writes is spelled by the pieces of these.
-/
namespace TonelessPinyin.Query

open Text Pattern

inductive Grapheme
  | blank (c : Char)
  | letter (c : Char)
  | compound (c d : Char)
  deriving DecidableEq

/-- The two letters are ue or ve in some case. -/
def isCompound (c d : Char) : Bool := lower [c, d] = ['u', 'e'] || lower [c, d] = ['v', 'e']

namespace Grapheme

def spelling : Grapheme → Text
  | blank c => [c]
  | letter c => [c]
  | compound c d => [c, d]

def single (c : Char) : Grapheme := if isBlank c then blank c else letter c

/-- A letter that is a vowel becomes the vowel's letters, any other stands for itself. -/
def pieces (tones : Tones) : Grapheme → List Piece
  | blank _ => [.blanks]
  | letter c =>
    if lower [c] ∈ vowelKeys then vowelPieces tones (lower [c]) [c] else [.letter c]
  | compound c d => vowelPieces tones (lower [c, d]) [c, d]

/-- The texts that a grapheme stands for in a case-sensitive search. -/
def texts (tones : Tones) : Grapheme → Language Char
  | blank _ => blankTexts
  | letter c => if lower [c] ∈ vowelKeys then vowelTexts tones (lower [c]) [c] else {[c]}
  | compound c d => vowelTexts tones (lower [c, d]) [c, d]

end Grapheme

/-- Compounds are taken first, from the left. -/
def graphemes : Text → List Grapheme
  | [] => []
  | [c] => [.single c]
  | c :: d :: t =>
    if isCompound c d then .compound c d :: graphemes t else .single c :: graphemes (d :: t)

/-- The pieces from `index` on, after blanks or not. From the third character of a longer text on,
blanks are allowed before every grapheme, and nowhere twice. -/
def piecesFrom (tones : Tones) (tolerant : Bool) : Nat → Bool → List Grapheme → List Piece
  | _, _, [] => []
  | index, afterBlanks, .blank _ :: gs =>
    (if afterBlanks then [] else [.blanks]) ++ piecesFrom tones tolerant (index + 1) true gs
  | index, afterBlanks, g :: gs =>
    (if tolerant && 2 ≤ index && !afterBlanks then [.blanks] else []) ++ g.pieces tones ++
      piecesFrom tones tolerant (index + g.spelling.length) false gs

theorem piecesFrom_cons {g : Grapheme} (hg : ∀ c, g ≠ .blank c) (tones : Tones) (tolerant : Bool)
    (index : Nat) (afterBlanks : Bool) (gs : List Grapheme) :
    piecesFrom tones tolerant index afterBlanks (g :: gs) =
      (if tolerant && 2 ≤ index && !afterBlanks then [.blanks] else []) ++ g.pieces tones ++
        piecesFrom tones tolerant (index + g.spelling.length) false gs := by
  cases g with
  | blank c => exact absurd rfl (hg c)
  | letter c => rfl
  | compound c d => rfl

/-- The pieces of a text that is substituted as a whole. -/
def piecesOf (tones : Tones) (t : Text) : List Piece :=
  piecesFrom tones (1 < t.length) 0 false (graphemes t)

/-! ## Compounds -/

theorem isCompound_iff {c d : Char} :
    isCompound c d = true ↔ lower [c, d] = ['u', 'e'] ∨ lower [c, d] = ['v', 'e'] := by
  simp [isCompound]

theorem lower_pair {c d : Char} (h : isCompound c d = true) :
    lower [c, d] = [lowerLetter c, lowerLetter d] := by
  have hlower := isCompound_iff.1 h
  refine lower_eq_map ?_ ?_ ?_ <;> rcases hlower with hl | hl <;> rw [hl] <;> decide

/-- The first letter of a compound is u or v, the second e. -/
theorem lowerLetter_of_isCompound {c d : Char} (h : isCompound c d = true) :
    (lowerLetter c = 'u' ∨ lowerLetter c = 'v') ∧ lowerLetter d = 'e' := by
  have hlower := isCompound_iff.1 h
  rw [lower_pair h] at hlower
  simp only [List.cons.injEq, and_true] at hlower
  tauto

theorem mem_vowelKeys_of_isCompound {c d : Char} (h : isCompound c d = true) :
    lower [c, d] ∈ vowelKeys := by
  rcases isCompound_iff.1 h with hl | hl <;> rw [hl] <;> decide

theorem not_blank_of_isCompound {c d : Char} (h : isCompound c d = true) :
    isBlank c = false ∧ isBlank d = false := by
  obtain ⟨hc, hd⟩ := lowerLetter_of_isCompound h
  rw [← isBlank_lowerLetter c, ← isBlank_lowerLetter d, hd]
  rcases hc with hc | hc <;> rw [hc] <;> decide

/-! ## Cutting -/

theorem graphemes_compound {c d : Char} (h : isCompound c d = true) (t : Text) :
    graphemes (c :: d :: t) = .compound c d :: graphemes t := if_pos h

/-- The text does not begin with a compound. -/
def BeginsSingly (c : Char) (t : Text) : Prop := ∀ d ∈ t.head?, isCompound c d = false

theorem graphemes_single {c : Char} {t : Text} (h : BeginsSingly c t) :
    graphemes (c :: t) = .single c :: graphemes t := by
  cases t with
  | nil => rfl
  | cons d t => exact if_neg (by simp [h d rfl])

theorem graphemes_blank {c : Char} (h : isBlank c = true) (t : Text) :
    graphemes (c :: t) = .blank c :: graphemes t := by
  have hsingle : BeginsSingly c t := by
    intro d _
    by_contra hcd
    simp [(not_blank_of_isCompound (by simpa using hcd)).1] at h
  rw [graphemes_single hsingle, Grapheme.single, if_pos h]

theorem graphemes_letter {c : Char} (hb : isBlank c = false) {t : Text} (h : BeginsSingly c t) :
    graphemes (c :: t) = .letter c :: graphemes t := by
  rw [graphemes_single h, Grapheme.single, if_neg (by simp [hb])]

/-- A text is taken apart at its first grapheme. -/
theorem graphemes_cases {motive : Text → Prop} (nil : motive [])
    (blank : ∀ c t, isBlank c = true → motive t → motive (c :: t))
    (letter : ∀ c t, isBlank c = false → BeginsSingly c t → motive t → motive (c :: t))
    (compound : ∀ c d t, isCompound c d = true → motive t → motive (c :: d :: t)) (t : Text) :
    motive t := by
  induction t using graphemes.induct with
  | case1 => exact nil
  | case2 c =>
    cases hb : isBlank c with
    | true => exact blank c [] hb nil
    | false => exact letter c [] hb (by simp [BeginsSingly]) nil
  | case3 c d t h ih => exact compound c d t h ih
  | case4 c d t h ih =>
    cases hb : isBlank c with
    | true => exact blank c (d :: t) hb ih
    | false => exact letter c (d :: t) hb (by simpa [BeginsSingly] using h) ih

end TonelessPinyin.Query
