import TonelessPinyin.Proofs.Text.Lowered
import TonelessPinyin.Proofs.Vowel.Forms
import TonelessPinyin.Syllable.Key

/-!
The letters of toned syllables. Each is its own lower case and agrees with no other, and each
stands for one plain letter.
-/
namespace TonelessPinyin

open Text Pattern Syllable

/-- All characters are letters of toned syllables. -/
def IsSpelled (t : Text) : Prop := ∀ c ∈ t, c ∈ Marking.standard.letters

instance (t : Text) : Decidable (IsSpelled t) := inferInstanceAs (Decidable (∀ c ∈ t, _))

def isToned (c : Char) : Bool := Marking.standard.tonedLetters.contains c

/-- The vowel of a toned letter; any other letter itself. -/
def untoned (c : Char) : Char :=
  ((Marking.standard.marks.find? (·.2.contains c)).bind (·.1.head?)).getD c

/-- The plain letter of a small letter: without its tone, and u for v and ü. -/
def plainLetter (c : Char) : Char := foldLetter (untoned c)

/-- The plain letters of a character in either case. -/
def plainForm (c : Char) : Text := (lower [c]).map plainLetter

/-! ## Single letters -/

theorem lowerLetter_of_mem_letters : ∀ c ∈ Marking.standard.letters, lowerLetter c = c := by
  decide

theorem not_isCapital_of_mem_letters : ∀ c ∈ Marking.standard.letters, isCapital c = false := by
  decide

theorem not_isBlank_of_mem_letters : ∀ c ∈ Marking.standard.letters, isBlank c = false := by
  decide

theorem not_special_of_mem_letters : ∀ c ∈ Marking.standard.letters, c ∉ specials := by
  decide

theorem eq_of_fold_eq : ∀ c ∈ Marking.standard.letters, ∀ d ∈ Marking.standard.letters,
    fold c = fold d → c = d := by
  decide

theorem agrees_iff_eq {casing : Casing} (hcasing : casing ≠ .ascii) {c d : Char}
    (hc : c ∈ Marking.standard.letters) (hd : d ∈ Marking.standard.letters) :
    casing.agrees c d = true ↔ c = d := by
  cases casing with
  | exact => simp [Casing.agrees]
  | ascii => exact absurd rfl hcasing
  | unicode =>
    constructor
    · intro h
      apply eq_of_fold_eq c hc d hd
      simpa [Casing.agrees, Text.agrees] using h
    · rintro rfl
      exact Casing.agrees_refl _ c

/-! ## Spelled texts -/

theorem IsSpelled.append_iff {a b : Text} : IsSpelled (a ++ b) ↔ IsSpelled a ∧ IsSpelled b :=
  List.forall_mem_append

theorem IsSpelled.append_append_iff {a b c : Text} :
    IsSpelled (a ++ b ++ c) ↔ IsSpelled a ∧ IsSpelled b ∧ IsSpelled c := by
  rw [append_iff, append_iff, and_assoc]

theorem IsSpelled.take {t : Text} (h : IsSpelled t) (n : Nat) : IsSpelled (t.take n) :=
  fun c hc => h c (List.mem_of_mem_take hc)

theorem IsSpelled.isLowered {t : Text} (h : IsSpelled t) : IsLowered t :=
  fun c hc => lowerLetter_of_mem_letters c (h c hc)

theorem IsSpelled.lower_eq {t : Text} (h : IsSpelled t) : lower t = t := h.isLowered.lower_eq

/-- A text whose lower case is spelled is lowered character by character. -/
theorem IsSpelled.lower_eq_map {t : Text} (h : IsSpelled (lower t)) :
    lower t = t.map lowerLetter := by
  refine Text.lower_eq_map ?_ ?_ ?_ <;> exact fun hm => absurd (h _ hm) (by decide)

theorem IsSpelled.lowerLetter_mem {t : Text} (h : IsSpelled (lower t)) {c : Char} (hc : c ∈ t) :
    lowerLetter c ∈ Marking.standard.letters := by
  apply h
  rw [h.lower_eq_map]
  exact List.mem_map_of_mem hc

/-! ## Plain letters -/

theorem foldLetter_mem_letters_iff {c : Char} :
    foldLetter c ∈ Marking.standard.letters ↔ c ∈ Marking.standard.letters := by
  rw [foldLetter]
  split_ifs with h
  · rcases h with rfl | rfl <;> decide
  · rfl

theorem plainLetter_foldLetter (c : Char) : plainLetter (foldLetter c) = plainLetter c := by
  rw [foldLetter]
  split_ifs with h
  · rcases h with rfl | rfl <;> decide
  · rfl

theorem plainForm_eq {c : Char} (h : c ≠ 'İ') : plainForm c = [plainLetter (lowerLetter c)] := by
  rw [plainForm, lower_singleton h]
  rfl

theorem plainForm_of_mem_letters {c : Char} (h : c ∈ Marking.standard.letters) :
    plainForm c = [plainLetter c] := by
  have hI : c ≠ 'İ' := by rintro rfl; revert h; decide
  rw [plainForm_eq hI, lowerLetter_of_mem_letters c h]

/-- Only toned letters lose their tone. -/
theorem untoned_of_not_isToned {c : Char} (h : isToned c = false) : untoned c = c := by
  have hnone : Marking.standard.marks.find? (·.2.contains c) = none := by
    simpa [isToned, Marking.tonedLetters, List.find?_eq_none] using h
  rw [untoned, hnone]
  rfl

end TonelessPinyin
