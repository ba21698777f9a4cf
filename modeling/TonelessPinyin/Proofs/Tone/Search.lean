import TonelessPinyin.Proofs.Entries
import TonelessPinyin.Proofs.Tone.Letters

/-!
Tone models on texts in lower case. A model whose clusters spell the vowels with a tone finds the
first toned letter, and an ü with it if the model knows the letter with an ü before it.
-/
namespace TonelessPinyin

open Text Pattern Syllable

/-! ## Clusters that spell vowels -/

/-- How a cluster and the name of its vowel are written. -/
def SpellsVowel (cluster base : Text) : Prop :=
  (∃ c ∈ Marking.standard.tonedLetters, cluster = [c] ∧ base = [untoned c]) ∨
    ∃ c ∈ tonesOf 'e', cluster = ['ü', c] ∧ base = ['v', 'e']

instance (cluster base : Text) : Decidable (SpellsVowel cluster base) :=
  inferInstanceAs (Decidable (_ ∨ _))

namespace SpellsVowel

variable {cluster base : Text}

theorem plain (h : SpellsVowel cluster base) :
    base ∈ vowelKeys ∧ base.length = cluster.length ∧ IsSpelled (Marking.standard.plainBase base) ∧
      (Marking.standard.plainBase base).map foldLetter = cluster.map plainLetter := by
  rcases h with ⟨c, hc, rfl, rfl⟩ | ⟨c, hc, rfl, rfl⟩
  · revert c
    decide
  · revert c
    decide

/-- A cluster ends with its toned letter. -/
theorem exists_eq_append (h : SpellsVowel cluster base) :
    ∃ opening c, cluster = opening ++ [c] ∧ isToned c = true ∧ ∀ d ∈ opening, d = 'ü' := by
  rcases h with ⟨c, hc, rfl, -⟩ | ⟨c, hc, rfl, -⟩
  · exact ⟨[], c, rfl, by simpa [isToned] using hc, by simp⟩
  · refine ⟨['ü'], c, rfl, ?_, by simp⟩
    revert c
    decide

theorem exists_toned (h : SpellsVowel cluster base) : ∃ c ∈ cluster, isToned c = true := by
  obtain ⟨opening, c, rfl, hc, -⟩ := h.exists_eq_append
  exact ⟨c, by simp, hc⟩

theorem eq_or_isToned (h : SpellsVowel cluster base) {c : Char} (hc : c ∈ cluster) :
    c = 'ü' ∨ isToned c = true := by
  obtain ⟨opening, last, rfl, hlast, hopening⟩ := h.exists_eq_append
  rcases List.mem_append.1 hc with hc | hc
  · exact .inl (hopening c hc)
  · rw [List.mem_singleton.1 hc]
    exact .inr hlast

theorem isSpelled (h : SpellsVowel cluster base) : IsSpelled cluster := by
  intro c hc
  rcases h.eq_or_isToned hc with rfl | htoned
  · decide
  · exact List.mem_append_right _ (List.contains_iff_mem.1 htoned)

end SpellsVowel

/-- Every cluster spells a vowel, and every toned letter is one. -/
structure ToneModel.SpellsVowels (m : ToneModel) : Prop where
  spells : ∀ entry ∈ m.clusters, SpellsVowel entry.1 entry.2.base
  toned : ∀ c ∈ Marking.standard.tonedLetters, [c] ∈ m.clusters.keys

theorem standard_clusters :
    ∀ entry ∈ ToneModel.standard.clusters, SpellsVowel entry.1 entry.2.base := by
  decide

theorem toned_mem_keys :
    ∀ c ∈ Marking.standard.tonedLetters, [c] ∈ ToneModel.standard.clusters.keys := by
  decide

theorem spellsVowels_standard : ToneModel.standard.SpellsVowels :=
  ⟨standard_clusters, toned_mem_keys⟩

theorem compound_mem_keys : ∀ c ∈ tonesOf 'e', ['ü', c] ∈ ToneModel.standard.clusters.keys := by
  decide

/-- Every cluster that can be found can be looked up. -/
theorem find_of_mem_keys {m : ToneModel} (hm : m.SpellsVowels) {key : Text}
    (h : key ∈ m.clusters.keys) :
    ∃ cluster, m.find key = .ok cluster ∧ SpellsVowel key cluster.base := by
  obtain ⟨cluster, hget, hmem⟩ := Entries.get?_of_mem_keys h
  have hspells : SpellsVowel key cluster.base := hm.spells _ hmem
  refine ⟨cluster, ?_, hspells⟩
  rw [ToneModel.find, ToneModel.find?, hspells.isSpelled.lower_eq, hget]

/-! ## The recogniser -/

theorem mem_sum_iff {Ls : List (Language Char)} {w : Text} : w ∈ Ls.sum ↔ ∃ L ∈ Ls, w ∈ L := by
  induction Ls with
  | nil => simp
  | cons L Ls ih => simp [Language.mem_add, ih]

/-- The texts that agree with a key letter by letter. -/
def keyTexts (m : ToneModel) : Language Char :=
  {w | ∃ key ∈ m.clusters.keys, w ∈ languageOf .unicode (key.map .letter)}

theorem recognises_word (casing : Casing) (t : Text) :
    Recognises (.word casing t) (languageOf casing (t.map .letter)) := by
  have hletters : t.map (Node.letter casing) =
      (t.map Piece.letter).map (Piece.node casing) := by
    rw [List.map_map]
    rfl
  rw [Node.word, hletters]
  apply recognises_nodeOf
  intro p hp
  obtain ⟨c, -, rfl⟩ := List.mem_map.1 hp
  trivial

theorem ToneModel.alternatives_ne_nil {m : ToneModel} (h : m.clusters.keys ≠ []) :
    m.alternatives ≠ [] := by
  obtain ⟨key, hkey⟩ := List.exists_mem_of_ne_nil _ h
  exact List.ne_nil_of_mem (mem_sortLongest.2 hkey)

theorem recognises_recognizer {m : ToneModel} (h : m.clusters.keys ≠ []) :
    Recognises m.recognizer (keyTexts m) := by
  obtain ⟨first, rest, hfirst⟩ := List.exists_cons_of_ne_nil (ToneModel.alternatives_ne_nil h)
  have hsum : (m.alternatives.map fun key => languageOf .unicode (key.map .letter)).sum =
      keyTexts m := by
    ext w
    rw [mem_sum_iff]
    simp only [List.mem_map, exists_exists_and_eq_and, ToneModel.alternatives, mem_sortLongest]
    rfl
  rw [← hsum, ToneModel.recognizer, hfirst, List.map_cons, List.map_cons]
  apply Recognises.choice (recognises_word .unicode first)
  rw [List.forall₂_map_left_iff, List.forall₂_map_right_iff, List.forall₂_same]
  exact fun key _ => recognises_word .unicode key

theorem filter_isSolid_letters (t : Text) :
    (t.map Piece.letter).filter Piece.isSolid = t.map Piece.letter :=
  List.filter_eq_self.2 fun p hp => by
    obtain ⟨c, -, rfl⟩ := List.mem_map.1 hp
    rfl

/-- Spelled texts agree only with themselves. -/
theorem forall₂_accepts_letters_iff {casing : Casing} (hcasing : casing ≠ .ascii) {t w : Text}
    (ht : IsSpelled t) (hw : IsSpelled w) :
    List.Forall₂ (Piece.Accepts casing) (t.map .letter) w ↔ w = t := by
  rw [List.forall₂_map_left_iff]
  induction t generalizing w with
  | nil => simp
  | cons c t ih =>
    cases w with
    | nil => simp
    | cons d w =>
      obtain ⟨hc, ht⟩ := List.forall_mem_cons.1 ht
      obtain ⟨hd, hw⟩ := List.forall_mem_cons.1 hw
      have haccepts : Piece.Accepts casing (.letter c) d ↔ c = d := by
        simpa [Piece.Accepts, Piece.letters] using agrees_iff_eq hcasing hc hd
      rw [List.forall₂_cons, haccepts, List.cons.injEq, eq_comm (a := c)]
      exact and_congr_right fun _ => ih ht hw

/-- Neither ü nor a toned letter has another shape. -/
theorem not_mem_letterShapes :
    ∀ c ∈ 'ü' :: Marking.standard.tonedLetters, fold c = c.toNat ∧
      ∀ group ∈ letterShapes, c.toNat ∉ group := by
  decide

/-- In lower case they agree only with themselves. -/
theorem eq_of_agrees {c d : Char} (hc : c = 'ü' ∨ isToned c = true) (hd : lowerLetter d = d)
    (h : Casing.unicode.agrees c d = true) : c = d := by
  have hmem : c ∈ 'ü' :: Marking.standard.tonedLetters := by
    rw [List.mem_cons]
    exact hc.imp_right List.contains_iff_mem.1
  obtain ⟨hfold, hshapes⟩ := not_mem_letterShapes c hmem
  have hsame : c.toNat = fold d := by rw [← hfold, agrees_iff.1 h]
  rcases fold_cases d with hone | ⟨group, hgroup, -, hin⟩
  · apply Char.toNat_inj.1
    rw [hsame, hone, hd]
  · rw [← hsame] at hin
    exact absurd hin (hshapes group hgroup)

theorem eq_of_forall₂_agrees {t w : Text} (ht : ∀ c ∈ t, c = 'ü' ∨ isToned c = true)
    (hw : IsLowered w) (h : List.Forall₂ (fun c d => Casing.unicode.agrees c d = true) t w) :
    t = w := by
  induction h with
  | nil => rfl
  | cons hcd _ ih =>
    obtain ⟨hc, ht⟩ := List.forall_mem_cons.1 ht
    obtain ⟨hd, hw⟩ := List.forall_mem_cons.1 hw
    rw [eq_of_agrees hc hd hcd, ih ht hw]

variable {m : ToneModel} {t : Text}

theorem mem_keyTexts_iff (hm : m.SpellsVowels) {w : Text} (hw : IsLowered w) :
    w ∈ keyTexts m ↔ w ∈ m.clusters.keys := by
  constructor
  · rintro ⟨key, hkey, h⟩
    obtain ⟨cluster, -, hspells⟩ := find_of_mem_keys hm hkey
    have hagrees := mem_languageOf_letters_iff.1 h
    rwa [← eq_of_forall₂_agrees (fun c hc => hspells.eq_or_isToned hc) hw hagrees]
  · intro h
    refine ⟨w, h, mem_languageOf_letters_iff.2 ?_⟩
    exact List.forall₂_same.2 fun c _ => Casing.agrees_refl .unicode c

theorem ToneModel.SpellsVowels.recognises (hm : m.SpellsVowels) :
    Recognises m.recognizer (keyTexts m) :=
  recognises_recognizer (List.ne_nil_of_mem (hm.toned 'ā' (by decide)))

theorem matchAt_isSome_iff_key (hm : m.SpellsVowels) (ht : IsLowered t) (i : Nat) :
    (m.recognizer.matchAt t.toArray i).isSome ↔ ∃ key ∈ m.clusters.keys, key <+: t.drop i := by
  rw [hm.recognises.matchAt_isSome_iff]
  constructor
  · rintro ⟨w, hw, hwt⟩
    exact ⟨w, (mem_keyTexts_iff hm (ht.of_prefix_drop hwt)).1 hw, hwt⟩
  · rintro ⟨key, hkey, hkt⟩
    exact ⟨key, (mem_keyTexts_iff hm (ht.of_prefix_drop hkt)).2 hkey, hkt⟩

/-- What a search finds is a cluster that can be looked up, and none begins before it. -/
theorem exists_of_search (hm : m.SpellsVowels) (ht : IsLowered t) {s : Span}
    (hs : m.search t = some s) :
    ∃ before cluster after c, t = before ++ cluster ++ after ∧
      s = ⟨before.length, before.length + cluster.length⟩ ∧ m.find cluster = .ok c ∧
      SpellsVowel cluster c.base ∧
      ∀ i < before.length, ∀ key ∈ m.clusters.keys, ¬key <+: t.drop i := by
  rw [ToneModel.search, Node.search_whole] at hs
  obtain ⟨-, hstart, hat, hfirst⟩ := Node.firstMatch_eq_some hs
  obtain ⟨cluster, hw, hwt, hstop⟩ := hm.recognises.matchAt_eq_some hat
  have hkey := (mem_keyTexts_iff hm (ht.of_prefix_drop hwt)).1 hw
  obtain ⟨c, hfind, hspells⟩ := find_of_mem_keys hm hkey
  obtain ⟨after, hafter⟩ := hwt
  have hlength : (t.take s.start).length = s.start := by
    rw [List.length_take]
    omega
  refine ⟨t.take s.start, cluster, after, c, ?_, ?_, hfind, hspells, ?_⟩
  · rw [List.append_assoc, hafter, List.take_append_drop]
  · rw [hlength, ← hstop]
  · rw [hlength]
    intro i hi key hkey hkt
    have hnone := hfirst i (Nat.zero_le i) hi
    have hsome := (matchAt_isSome_iff_key hm ht i).2 ⟨key, hkey, hkt⟩
    simp [hnone] at hsome

theorem not_isToned_of_first (hm : m.SpellsVowels) {before : Text} (hbefore : before <+: t)
    (hfirst : ∀ i < before.length, ∀ key ∈ m.clusters.keys, ¬key <+: t.drop i) :
    ∀ c ∈ before, isToned c = false := by
  intro c hc
  by_contra htoned
  obtain ⟨rest, rfl⟩ := hbefore
  obtain ⟨i, hi, rfl⟩ := List.getElem_of_mem hc
  -- a toned letter would be a cluster by itself
  apply hfirst i hi [before[i]]
  · exact hm.toned _ (List.contains_iff_mem.1 (Bool.eq_true_of_not_eq_false htoned))
  · rw [List.drop_append_of_le_length hi.le, ← List.getElem_cons_drop hi]
    exact List.prefix_append [before[i]] _

/-- Nothing is found just where no letter is toned. -/
theorem search_eq_none_iff (hm : m.SpellsVowels) (ht : IsLowered t) :
    m.search t = none ↔ ∀ c ∈ t, isToned c = false := by
  constructor
  · intro hnone c hc
    by_contra htoned
    have hkey : [c] ∈ m.clusters.keys :=
      hm.toned c (List.contains_iff_mem.1 (Bool.eq_true_of_not_eq_false htoned))
    have hlowered : IsLowered [c] := fun d hd => List.mem_singleton.1 hd ▸ ht c hc
    have hfound : (m.search t).isSome := by
      unfold ToneModel.search
      rw [hm.recognises.search_isSome_iff]
      exact ⟨[c], (mem_keyTexts_iff hm hlowered).2 hkey, (List.singleton_infix_iff c t).2 hc⟩
    rw [hnone] at hfound
    cases hfound
  · intro huntoned
    cases hs : m.search t with
    | none => rfl
    | some s =>
      obtain ⟨before, cluster, after, c, rfl, -, -, hspells, -⟩ := exists_of_search hm ht hs
      obtain ⟨d, hd, htoned⟩ := hspells.exists_toned
      rw [huntoned d (by simp [hd])] at htoned
      cases htoned

/-! ## Where a syllable carries its tone -/

section Split

variable {before cluster after : Text}

theorem take_of_split (h : t = before ++ cluster ++ after) : t.take before.length = before := by
  rw [h, List.append_assoc, List.take_left]

theorem drop_of_split (h : t = before ++ cluster ++ after) :
    t.drop (before.length + cluster.length) = after := by
  rw [h, ← List.length_append, List.drop_left]

theorem span_of_split (h : t = before ++ cluster ++ after) :
    (⟨before.length, before.length + cluster.length⟩ : Span).of t = cluster :=
  span_of_eq_of_start _ ⟨after, by simp [h]⟩ rfl

end Split

/-- A syllable around its first cluster, which spells the vowel `base`. -/
structure CarriesTone (toned before cluster after base : Text) : Prop where
  split : toned = before ++ cluster ++ after
  search : ToneModel.standard.search toned =
    some ⟨before.length, before.length + cluster.length⟩
  find : ∃ c, ToneModel.standard.find cluster = .ok c ∧ c.base = base
  spells : SpellsVowel cluster base
  first : ∀ i < before.length, ∀ key ∈ ToneModel.standard.clusters.keys, ¬key <+: toned.drop i

theorem carriesTone_of_search (ht : IsLowered t) {s : Span}
    (hs : ToneModel.standard.search t = some s) :
    ∃ before cluster after base, CarriesTone t before cluster after base ∧
      s = ⟨before.length, before.length + cluster.length⟩ := by
  obtain ⟨before, cluster, after, c, hsplit, rfl, hfind, hspells, hfirst⟩ :=
    exists_of_search spellsVowels_standard ht hs
  exact ⟨before, cluster, after, c.base, ⟨hsplit, hs, ⟨c, hfind, rfl⟩, hspells, hfirst⟩, rfl⟩

/-! ## The first cluster, read off -/

/-- A syllable before, at and after its first toned letter. An ü before a toned e is with the e. -/
def aroundTone : Text → Option (Text × Text × Text)
  | [] => none
  | [c] => if isToned c then some ([], [c], []) else none
  | c :: d :: t =>
    if c = 'ü' ∧ d ∈ tonesOf 'e' then some ([], [c, d], t)
    else if isToned c then some ([], [c], d :: t)
    else (aroundTone (d :: t)).map fun (before, cluster, after) => (c :: before, cluster, after)

/-- The vowel that a cluster spells. -/
def vowelOf : Text → Text
  | [c] => [untoned c]
  | _ => ['v', 'e']

theorem SpellsVowel.eq_vowelOf {cluster base : Text} (h : SpellsVowel cluster base) :
    base = vowelOf cluster := by
  rcases h with ⟨c, -, rfl, rfl⟩ | ⟨c, -, rfl, rfl⟩ <;> rfl

theorem SpellsVowel.vowelOf_mem_keys {cluster base : Text} (h : SpellsVowel cluster base) :
    vowelOf cluster ∈ vowelKeys :=
  h.eq_vowelOf ▸ h.plain.1

theorem aroundTone_cluster {cluster base : Text} (h : SpellsVowel cluster base) (after : Text) :
    aroundTone (cluster ++ after) = some ([], cluster, after) := by
  rcases h with ⟨c, hc, rfl, -⟩ | ⟨c, hc, rfl, -⟩
  · have htoned : isToned c = true := by simpa [isToned] using hc
    have humlaut : c ≠ 'ü' := by rintro rfl; revert hc; decide
    cases after <;> simp [aroundTone, htoned, humlaut]
  · simp [aroundTone, hc]

/-- What stands before the first cluster is not toned, and no ü belongs to a toned e after it. -/
theorem aroundTone_append {before cluster base after : Text} (h : SpellsVowel cluster base)
    (hfirst : ∀ i < before.length, ∀ key ∈ ToneModel.standard.clusters.keys,
      ¬key <+: (before ++ cluster ++ after).drop i) :
    aroundTone (before ++ cluster ++ after) = some (before, cluster, after) := by
  induction before with
  | nil => exact aroundTone_cluster h after
  | cons c before ih =>
    have hrest := ih fun i hi key hkey => hfirst (i + 1) (Nat.succ_lt_succ hi) key hkey
    have hhere := hfirst 0 (Nat.succ_pos _)
    -- were `c` toned, or an ü of a compound, then the first cluster would begin at `c`
    have huntoned : isToned c = false :=
      not_isToned_of_first spellsVowels_standard ⟨cluster ++ after, by simp⟩ hfirst c
        List.mem_cons_self
    obtain ⟨d, t, hdt⟩ : ∃ d t, before ++ cluster ++ after = d :: t := by
      cases hcases : before ++ cluster ++ after with
      | nil => simp [hcases, aroundTone] at hrest
      | cons d t => exact ⟨d, t, rfl⟩
    have humlaut : ¬(c = 'ü' ∧ d ∈ tonesOf 'e') := by
      rintro ⟨rfl, hd⟩
      apply hhere ['ü', d] (compound_mem_keys d hd)
      rw [List.drop_zero, List.cons_append, List.cons_append, hdt]
      simp
    rw [List.cons_append, List.cons_append, hdt, aroundTone, if_neg humlaut,
      if_neg (by simp [huntoned]), ← hdt, hrest]
    rfl

theorem CarriesTone.aroundTone_eq {toned before cluster after base : Text}
    (h : CarriesTone toned before cluster after base) :
    aroundTone toned = some (before, cluster, after) := by
  have hfirst := h.first
  rw [h.split] at hfirst ⊢
  exact aroundTone_append h.spells hfirst

end TonelessPinyin
