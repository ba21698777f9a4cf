import Mathlib.Data.List.Forall2
import TonelessPinyin.Proofs.Text.Case

/-!
Texts in lower case. No letter of the table of lower cases has itself a lower case there, so a text
that has been lowered is its own lower case. It agrees with the text it comes from unless that has a
capital I with a dot.
-/
namespace TonelessPinyin.Text

open Case

/-- No image of the first run is in the second: they are apart, or only one of them is even. -/
def CaseRun.imagesAvoid (r r' : CaseRun) : Bool :=
  r.image + (r.last - r.first) < r'.first || r'.last < r.image ||
    (r'.step == 2 && (r.step == 2 || r.first == r.last) && (r.image + r'.first) % 2 == 1)

theorem lowerRuns_imagesAvoid :
    (lowerRuns.all fun r => lowerRuns.all (r.imagesAvoid ·)) = true := by
  decide +kernel

theorem CaseRun.not_contains_image {r r' : CaseRun} (h : r.imagesAvoid r' = true) {n : Nat}
    (hn : r.contains n = true) : r'.contains (r.image + (n - r.first)) = false := by
  simp only [CodeRun.contains, Bool.and_eq_true, decide_eq_true_eq, beq_iff_eq] at hn
  obtain ⟨⟨hfirst, hlast⟩, hstep⟩ := hn
  simp only [imagesAvoid, Bool.or_eq_true, Bool.and_eq_true, decide_eq_true_eq, beq_iff_eq] at h
  by_contra hin
  simp only [CodeRun.contains, Bool.not_eq_false, Bool.and_eq_true, decide_eq_true_eq,
    beq_iff_eq] at hin
  obtain ⟨⟨hfirst', hlast'⟩, hstep'⟩ := hin
  obtain (hbefore | hafter) | ⟨⟨htwo', htwo | hone⟩, hodd⟩ := h
  · omega
  · omega
  · rw [htwo] at hstep
    rw [htwo'] at hstep'
    omega
  · rw [htwo'] at hstep'
    omega

theorem image?_image {r : CaseRun} (hr : r ∈ lowerRuns) {n : Nat} (hn : r.contains n = true) :
    CaseRun.image? lowerRuns (r.image + (n - r.first)) = none := by
  rw [Option.eq_none_iff_forall_ne_some]
  intro m hm
  obtain ⟨r', hr', hcontains, -⟩ := CaseRun.image?_eq_some hm
  have havoid := List.all_eq_true.1 (List.all_eq_true.1 lowerRuns_imagesAvoid r hr) r' hr'
  rw [CaseRun.not_contains_image havoid hn] at hcontains
  cases hcontains

theorem lowerLetter_lowerLetter (c : Char) : lowerLetter (lowerLetter c) = lowerLetter c := by
  cases himage : CaseRun.image? lowerRuns c.toNat with
  | none =>
    have hsame : lowerLetter c = c := by rw [lowerLetter, himage]
    rw [hsame, hsame]
  | some m =>
    obtain ⟨r, hr, hc, rfl⟩ := CaseRun.image?_eq_some himage
    have hlower : lowerLetter c = Char.ofNat (r.image + (c.toNat - r.first)) := by
      rw [lowerLetter, himage]
    rcases toNat_ofNat_or (r.image + (c.toNat - r.first)) with hnat | hzero
    · rw [hlower, lowerLetter, hnat, image?_image hr hc]
    · rw [hlower, hzero]
      decide

/-- Every character is its own lower case. -/
def IsLowered (t : Text) : Prop := ∀ c ∈ t, lowerLetter c = c

theorem isLowered_lower (t : Text) : IsLowered (lower t) := by
  have hbetween (before : Text) (c : Char) (after : Text) :
      IsLowered (lowerBetween before c after) := by
    have hsmall : ∀ c ∈ ['i', '\u0307', 'ς', 'σ'], lowerLetter c = c := by decide
    unfold lowerBetween
    split_ifs with hI hS hfinal
    · exact fun d hd => hsmall d (List.mem_append_left _ hd)
    · exact fun d hd => hsmall d (by simp [List.mem_singleton.1 hd])
    · exact fun d hd => hsmall d (by simp [List.mem_singleton.1 hd])
    · intro d hd
      rw [List.mem_singleton.1 hd]
      exact lowerLetter_lowerLetter c
  have hafter (t before : Text) : IsLowered (lowerAfter before t) := by
    induction t generalizing before with
    | nil => exact fun d hd => by cases hd
    | cons c t ih => exact List.forall_mem_append.2 ⟨hbetween before c t, ih (c :: before)⟩
  exact hafter t []

namespace IsLowered

variable {t : Text}

theorem append_iff {a b : Text} : IsLowered (a ++ b) ↔ IsLowered a ∧ IsLowered b :=
  List.forall_mem_append

theorem of_prefix_drop (h : IsLowered t) {w : Text} {i : Nat} (hw : w <+: t.drop i) :
    IsLowered w :=
  fun c hc => h c (List.mem_of_mem_drop (hw.subset hc))

theorem lower_eq (h : IsLowered t) : lower t = t := by
  have hI : 'İ' ∉ t := fun hm => absurd (h _ hm) (by decide)
  have hS : 'Σ' ∉ t := fun hm => absurd (h _ hm) (by decide)
  rw [lower, lowerAfter_eq_map hI hS, List.map_congr_left h, List.map_id']

end IsLowered

theorem lower_lower (t : Text) : lower (lower t) = lower t := (isLowered_lower t).lower_eq

/-! ## Agreeing texts -/

theorem agrees_iff {c d : Char} : agrees c d = true ↔ fold c = fold d := beq_iff_eq

theorem fold_lowerLetter (c : Char) : fold (lowerLetter c) = fold c := by
  rw [fold, lowerLetter_lowerLetter, fold]

/-- The texts agree letter by letter. -/
def Agree (t w : Text) : Prop := List.Forall₂ (fun c d => agrees c d = true) t w

theorem Agree.refl (t : Text) : Agree t t := List.forall₂_same.2 fun _ _ => agrees_iff.2 rfl

theorem Agree.trans {t u w : Text} (htu : Agree t u) (huw : Agree u w) : Agree t w := by
  induction htu generalizing w with
  | nil => exact huw
  | cons hcd _ ih =>
    obtain ⟨e, w, hde, hw, rfl⟩ := List.forall₂_cons_left_iff.1 huw
    exact .cons (agrees_iff.2 ((agrees_iff.1 hcd).trans (agrees_iff.1 hde))) (ih hw)

theorem agree_map_lowerLetter (t : Text) : Agree t (t.map lowerLetter) := by
  rw [Agree, List.forall₂_map_right_iff, List.forall₂_same]
  exact fun c _ => agrees_iff.2 (fold_lowerLetter c).symm

/-- Without a capital I with a dot a text agrees with its lower case. -/
theorem agree_lower {t : Text} (h : 'İ' ∉ t) : Agree t (lower t) := by
  have hletter (before after : Text) (c : Char) (hc : c ≠ 'İ') :
      Agree [c] (lowerBetween before c after) := by
    have hsigma : agrees 'Σ' 'ς' = true ∧ agrees 'Σ' 'σ' = true := by decide
    rw [lowerBetween, if_neg hc]
    split_ifs with hcapital hfinal
    · exact hcapital ▸ .cons hsigma.1 .nil
    · exact hcapital ▸ .cons hsigma.2 .nil
    · exact agree_map_lowerLetter [c]
  have hafter (t before : Text) (h : 'İ' ∉ t) : Agree t (lowerAfter before t) := by
    induction t generalizing before with
    | nil => exact .nil
    | cons c t ih =>
      obtain ⟨hc, ht⟩ := not_or.1 (mt List.mem_cons.2 h)
      exact List.rel_append (hletter before t c (Ne.symm hc)) (ih (c :: before) ht)
  exact hafter t [] h

theorem length_lowerBetween_pos (before after : Text) (c : Char) :
    1 ≤ (lowerBetween before c after).length := by
  rw [lowerBetween]
  split_ifs <;> simp

theorem length_le_length_lowerAfter (t before : Text) :
    t.length ≤ (lowerAfter before t).length := by
  induction t generalizing before with
  | nil => exact Nat.le_refl 0
  | cons c t ih =>
    have hletter := length_lowerBetween_pos before t c
    have hrest := ih (c :: before)
    rw [lowerAfter, List.length_append, List.length_cons]
    omega

/-- A capital I with a dot becomes an i and a dot. -/
theorem mem_lower_of_dotted {t : Text} (h : 'İ' ∈ t) :
    'i' ∈ lower t ∧ t.length < (lower t).length := by
  have hafter (t before : Text) (h : 'İ' ∈ t) :
      'i' ∈ lowerAfter before t ∧ t.length < (lowerAfter before t).length := by
    induction t generalizing before with
    | nil => cases h
    | cons c t ih =>
      rw [lowerAfter, List.mem_append, List.length_append, List.length_cons]
      rcases List.mem_cons.1 h with rfl | h
      · have hrest := length_le_length_lowerAfter t ('İ' :: before)
        rw [lowerBetween, if_pos rfl, List.length_cons, List.length_singleton]
        exact ⟨.inl List.mem_cons_self, by omega⟩
      · have hletter := length_lowerBetween_pos before t c
        obtain ⟨hmem, hlength⟩ := ih (c :: before) h
        exact ⟨.inr hmem, by omega⟩
  exact hafter t [] h

end TonelessPinyin.Text
