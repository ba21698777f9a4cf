import Mathlib.Data.List.Basic
import TonelessPinyin.Pattern.Casing
import TonelessPinyin.Pattern.Escape
import TonelessPinyin.Text.Blank

/-!
Letter case, character by character. Apart from two capitals the lower case of a text is that of
its characters, and no blank has a case: a character that agrees with a blank is a blank.
-/
namespace TonelessPinyin.Text

open Case Pattern

-- Of characters in a text only the text's own have to be tried, not all that there are.
instance (priority := 2000) decidableForallMem (p : Char → Prop) [DecidablePred p] (t : Text) :
    Decidable (∀ c ∈ t, p c) :=
  List.decidableBAll p t

instance (priority := 2000) decidableExistsMem (p : Char → Prop) [DecidablePred p] (t : Text) :
    Decidable (∃ c ∈ t, p c) :=
  List.decidableBEx p t

theorem CaseRun.image?_eq_some {runs : List CaseRun} {n m : Nat} (h : image? runs n = some m) :
    ∃ r ∈ runs, r.contains n = true ∧ m = r.image + (n - r.first) := by
  induction runs with
  | nil => simp [image?] at h
  | cons r rs ih =>
    rw [image?] at h
    split_ifs at h with hlt hr
    · exact ⟨r, List.mem_cons_self, hr, (Option.some.inj h).symm⟩
    · obtain ⟨r', hr', h'⟩ := ih h
      exact ⟨r', List.mem_cons_of_mem r hr', h'⟩

/-! ## The lower case of a text -/

theorem lower_singleton {c : Char} (h : c ≠ 'İ') : lower [c] = [lowerLetter c] := by
  by_cases hs : c = 'Σ'
  · subst hs
    decide
  · simp [lower, lowerAfter, lowerBetween, h, hs]

theorem lowerAfter_eq_map {t : Text} (hI : 'İ' ∉ t) (hS : 'Σ' ∉ t) (before : Text) :
    lowerAfter before t = t.map lowerLetter := by
  induction t generalizing before with
  | nil => rfl
  | cons c t ih =>
    simp only [List.mem_cons, not_or] at hI hS
    have hc : lowerBetween before c t = [lowerLetter c] := by
      rw [lowerBetween, if_neg (Ne.symm hI.1), if_neg (Ne.symm hS.1)]
    rw [lowerAfter, ih hI.2 hS.2, hc]
    rfl

/-- Three characters show that one of the two capitals has been lowered. -/
theorem mem_lowerAfter_of_capital {t : Text} (h : 'İ' ∈ t ∨ 'Σ' ∈ t) (before : Text) :
    '\u0307' ∈ lowerAfter before t ∨ 'σ' ∈ lowerAfter before t ∨ 'ς' ∈ lowerAfter before t := by
  induction t generalizing before with
  | nil => simp at h
  | cons c t ih =>
    simp only [lowerAfter, List.mem_append]
    by_cases hrest : 'İ' ∈ t ∨ 'Σ' ∈ t
    · rcases ih hrest (c :: before) with h | h | h <;> simp [h]
    · simp only [List.mem_cons] at h
      rcases (by tauto : 'İ' = c ∨ 'Σ' = c) with rfl | rfl
      · simp [lowerBetween]
      · cases hb : touchesCased before && !touchesCased t <;> simp [lowerBetween, hb]

theorem lower_eq_map {t : Text} (hdot : '\u0307' ∉ lower t) (hsigma : 'σ' ∉ lower t)
    (hfinal : 'ς' ∉ lower t) : lower t = t.map lowerLetter := by
  have hnone : ¬('İ' ∈ t ∨ 'Σ' ∈ t) := by
    intro h
    rcases mem_lowerAfter_of_capital h [] with h | h | h
    · exact hdot h
    · exact hsigma h
    · exact hfinal h
  rw [not_or] at hnone
  exact lowerAfter_eq_map hnone.1 hnone.2 []

/-! ## The characters of patterns have no case -/

theorem toNat_ofNat_or (n : Nat) : (Char.ofNat n).toNat = n ∨ Char.ofNat n = '\x00' := by
  by_cases hv : n.isValidChar
  · exact .inl (by rw [Char.ofNat, dif_pos hv]; rfl)
  · exact .inr (by rw [Char.ofNat, dif_neg hv]; rfl)

set_option maxRecDepth 4096 in
/-- The small letters of the table are those of ASCII, from a to z, or beyond ASCII. -/
theorem lowerRuns_image_bounds :
    ∀ r ∈ lowerRuns, (97 ≤ r.image ∧ r.image + (r.last - r.first) ≤ 122) ∨ 127 ≤ r.image := by
  decide

theorem lowerRuns_avoid_specials {r : CaseRun} (hr : r ∈ lowerRuns) {c : Char}
    (hc : c ∈ specials) : c.toNat < r.image ∨ r.image + (r.last - r.first) < c.toNat := by
  have hspecials : ∀ c ∈ specials, c.toNat < 97 ∨ 122 < c.toNat ∧ c.toNat < 127 := by decide
  have himage := lowerRuns_image_bounds r hr
  have hspecial := hspecials c hc
  omega

theorem lowerLetter_eq_special_iff {c d : Char} (hd : d ∈ specials) : lowerLetter c = d ↔ c = d := by
  have hfixed : ∀ d ∈ specials, lowerLetter d = d := by decide
  have hzero : '\x00' ∉ specials := by decide
  constructor
  · intro h
    rw [lowerLetter] at h
    cases hm : CaseRun.image? lowerRuns c.toNat with
    | none => simpa [hm] using h
    | some m =>
      obtain ⟨r, hr, hc, rfl⟩ := CaseRun.image?_eq_some hm
      simp only [hm] at h
      simp only [CodeRun.contains, Bool.and_eq_true, decide_eq_true_eq] at hc
      exfalso
      rcases toNat_ofNat_or (r.image + (c.toNat - r.first)) with hn | hn
      · have havoid := lowerRuns_avoid_specials hr hd
        rw [h] at hn
        omega
      · exact hzero (hn ▸ h ▸ hd)
  · rintro rfl
    exact hfixed c hd

theorem mem_lower_special_iff {c : Char} (hc : c ∈ specials) (t : Text) : c ∈ lower t ↔ c ∈ t := by
  have hcapitals : ∀ d ∈ specials, d ≠ 'İ' ∧ d ≠ 'Σ' ∧
      ∀ small ∈ ['i', '\u0307', 'ς', 'σ'], d ≠ small := by decide
  obtain ⟨hI, hS, hsmall⟩ := hcapitals c hc
  have hletter (before : Text) (d : Char) (after : Text) :
      c ∈ lowerBetween before d after ↔ c = d := by
    rw [lowerBetween]
    split_ifs with hi hs
    · have hne : c ≠ d := hi ▸ hI
      simp [hne, hsmall 'i', hsmall '\u0307']
    · have hne : c ≠ d := hs ▸ hS
      simp [hne, hsmall 'ς']
    · have hne : c ≠ d := hs ▸ hS
      simp [hne, hsmall 'σ']
    · rw [List.mem_singleton, eq_comm, lowerLetter_eq_special_iff hc, eq_comm]
  have hall (t before : Text) : c ∈ lowerAfter before t ↔ c ∈ t := by
    induction t generalizing before with
    | nil => rfl
    | cons d t ih => rw [lowerAfter, List.mem_append, hletter, ih, List.mem_cons]
  exact hall t []

/-! ## Blanks have no case -/

/-- No blank is among the code points from `first` to `last`. -/
def avoidsBlanks (first last : Nat) : Bool :=
  blankRuns.all fun r => last < r.first || r.last < first

theorem not_covered_of_avoidsBlanks {first last n : Nat} (h : avoidsBlanks first last = true)
    (hf : first ≤ n) (hl : n ≤ last) : CodeRun.covered blankRuns n = false := by
  have hall (runs : List CodeRun) (hr : ∀ r ∈ runs, last < r.first ∨ r.last < first) :
      CodeRun.covered runs n = false := by
    induction runs with
    | nil => rfl
    | cons r rs ih =>
      have hout : r.contains n = false := by
        have := hr r List.mem_cons_self
        simp only [CodeRun.contains, Bool.and_eq_false_iff, decide_eq_false_iff_not]
        omega
      rw [CodeRun.covered, hout, ih fun r' hr' => hr r' (List.mem_cons_of_mem r hr')]
      simp
  exact hall blankRuns (by simpa [avoidsBlanks] using h)

set_option maxRecDepth 4096 in
/-- Neither the capitals of the table nor their small letters are blanks. -/
theorem lowerRuns_avoid_blanks :
    ∀ r ∈ lowerRuns, avoidsBlanks r.first r.last = true ∧
      avoidsBlanks r.image (r.image + (r.last - r.first)) = true := by
  decide

theorem letterShapes_avoid_blanks :
    ∀ group ∈ letterShapes, ∀ n ∈ group, CodeRun.covered blankRuns n = false := by
  decide

theorem isBlank_ofNat {n : Nat} (h : CodeRun.covered blankRuns n = false) :
    isBlank (Char.ofNat n) = false := by
  by_cases hv : n.isValidChar
  · rw [Char.ofNat, dif_pos hv]
    exact h
  · rw [Char.ofNat, dif_neg hv]
    decide

theorem isBlank_lowerLetter (c : Char) : isBlank (lowerLetter c) = isBlank c := by
  rw [lowerLetter]
  cases hm : CaseRun.image? lowerRuns c.toNat with
  | none => rfl
  | some m =>
    obtain ⟨r, hr, hc, rfl⟩ := CaseRun.image?_eq_some hm
    obtain ⟨hcapital, hsmall⟩ := lowerRuns_avoid_blanks r hr
    simp only [CodeRun.contains, Bool.and_eq_true, decide_eq_true_eq] at hc
    have himage : isBlank (Char.ofNat (r.image + (c.toNat - r.first))) = false :=
      isBlank_ofNat (not_covered_of_avoidsBlanks hsmall (by omega) (by omega))
    have hchar : isBlank c = false := not_covered_of_avoidsBlanks hcapital hc.1.1 hc.1.2
    exact himage.trans hchar.symm

theorem groupAmong_eq (groups : List (List Nat)) (n : Nat) :
    groupAmong groups n = [n] ∨ groupAmong groups n ∈ groups ∧ n ∈ groupAmong groups n := by
  induction groups with
  | nil => exact .inl rfl
  | cons group rest ih =>
    rw [groupAmong]
    split_ifs with hlt hmem
    · exact .inl rfl
    · exact .inr ⟨List.mem_cons_self, by simpa using hmem⟩
    · exact ih.imp_right fun h => ⟨List.mem_cons_of_mem group h.1, h.2⟩

/-- A letter without other shapes stands for itself, any other one for one of its shapes. -/
theorem fold_cases (c : Char) : fold c = (lowerLetter c).toNat ∨
    ∃ group ∈ letterShapes, (lowerLetter c).toNat ∈ group ∧ fold c ∈ group := by
  rcases groupAmong_eq letterShapes (lowerLetter c).toNat with h | ⟨hgroup, hn⟩
  · left
    rw [fold, shapesOf, h]
    rfl
  · refine .inr ⟨_, hgroup, hn, ?_⟩
    rw [fold, shapesOf, List.headD_eq_head?_getD, List.head?_eq_some_head (List.ne_nil_of_mem hn)]
    exact List.head_mem _

theorem isBlank_eq_covered_fold (c : Char) : isBlank c = CodeRun.covered blankRuns (fold c) := by
  rw [← isBlank_lowerLetter c]
  rcases fold_cases c with h | ⟨group, hgroup, hn, hfold⟩
  · rw [h]
    rfl
  · have hnone := letterShapes_avoid_blanks group hgroup
    rw [isBlank, hnone _ hn, hnone _ hfold]

theorem isBlank_toLower (c : Char) : isBlank c.toLower = isBlank c := by
  change isBlank (dite (c.val ≥ 'A'.val ∧ c.val ≤ 'Z'.val) _ _) = isBlank c
  split_ifs with h
  · have hlow : 65 ≤ c.toNat := UInt32.le_iff_toNat_le.1 h.1
    have hhigh : c.toNat ≤ 90 := UInt32.le_iff_toNat_le.1 h.2
    have hsum : (c.val + ('a'.val - 'A'.val)).toNat = c.toNat + 32 := by
      rw [UInt32.toNat_add]
      exact Nat.mod_eq_of_lt (Nat.lt_of_le_of_lt (Nat.add_le_add_right hhigh 32) (by decide))
    have hsmall : CodeRun.covered blankRuns (c.toNat + 32) = false :=
      not_covered_of_avoidsBlanks (by decide : avoidsBlanks 97 122 = true) (by omega) (by omega)
    have hcapital : isBlank c = false :=
      not_covered_of_avoidsBlanks (by decide : avoidsBlanks 65 90 = true) hlow hhigh
    rw [hcapital, isBlank, Char.toNat, hsum, hsmall]
  · rfl

theorem isBlank_eq_of_agrees {casing : Casing} {a b : Char} (h : casing.agrees a b = true) :
    isBlank a = isBlank b := by
  cases casing with
  | exact => rw [show a = b by simpa [Casing.agrees] using h]
  | ascii =>
    have hl : a.toLower = b.toLower := by simpa [Casing.agrees] using h
    rw [← isBlank_toLower a, hl, isBlank_toLower b]
  | unicode =>
    have hf : fold a = fold b := by simpa [Casing.agrees, agrees] using h
    rw [isBlank_eq_covered_fold a, hf, ← isBlank_eq_covered_fold b]

/-! ## Upper case -/

theorem mem_of_lookup_eq_some {l : List (Char × Text)} {c : Char} {t : Text}
    (h : l.lookup c = some t) : (c, t) ∈ l := by
  obtain ⟨before, after, rfl, -⟩ := List.lookup_eq_some_iff.1 h
  simp

set_option maxRecDepth 4096 in
/-- No capital of the tables is a small u, v or ü. -/
theorem capitals_avoid_small :
    (∀ p ∈ capitalExpansions, ∀ d ∈ ['u', 'v', 'ü'], d ∉ p.2) ∧
      ∀ r ∈ upperRuns, ∀ d ∈ ['u', 'v', 'ü'],
        d.toNat < r.image ∨ r.image + (r.last - r.first) < d.toNat := by
  decide

theorem notMem_upperLetter {d : Char} (hd : d ∈ ['u', 'v', 'ü']) (c : Char) :
    d ∉ upperLetter c := by
  have hraised : ∀ d ∈ ['u', 'v', 'ü'], d ∉ upperLetter d ∧ d ≠ '\x00' := by decide
  by_cases hcd : c = d
  · exact hcd ▸ (hraised d hd).1
  rw [upperLetter]
  split
  · next t ht => exact capitals_avoid_small.1 _ (mem_of_lookup_eq_some ht) d hd
  · split
    · next m hm =>
      obtain ⟨r, hr, hc, rfl⟩ := CaseRun.image?_eq_some hm
      simp only [CodeRun.contains, Bool.and_eq_true, decide_eq_true_eq] at hc
      rw [List.mem_singleton]
      rintro rfl
      have havoid := capitals_avoid_small.2 r hr _ hd
      rcases toNat_ofNat_or (r.image + (c.toNat - r.first)) with hn | hn
      · omega
      · exact (hraised _ hd).2 hn
    · rw [List.mem_singleton]
      exact Ne.symm hcd

theorem notMem_upper {d : Char} (hd : d ∈ ['u', 'v', 'ü']) (t : Text) : d ∉ upper t := by
  intro hm
  obtain ⟨c, -, hc⟩ := List.mem_flatMap.1 hm
  exact notMem_upperLetter hd c hc

set_option maxRecDepth 4096 in
/-- Blanks are not among the letters that have capitals. -/
theorem small_avoid_blanks :
    (∀ p ∈ capitalExpansions, isBlank p.1 = false) ∧
      ∀ r ∈ upperRuns, avoidsBlanks r.first r.last = true := by
  decide

theorem upperLetter_of_isBlank {c : Char} (h : isBlank c = true) : upperLetter c = [c] := by
  rw [upperLetter]
  split
  · next t ht =>
    have hblank := small_avoid_blanks.1 _ (mem_of_lookup_eq_some ht)
    simp [h] at hblank
  · split
    · next m hm =>
      obtain ⟨r, hr, hc, -⟩ := CaseRun.image?_eq_some hm
      simp only [CodeRun.contains, Bool.and_eq_true, decide_eq_true_eq] at hc
      have hblank : isBlank c = false :=
        not_covered_of_avoidsBlanks (small_avoid_blanks.2 r hr) hc.1.1 hc.1.2
      simp [h] at hblank
    · rfl

end TonelessPinyin.Text
