import Mathlib.Data.Finset.Max
import TonelessPinyin.Proofs.Syllable.Tabulation
import TonelessPinyin.Proofs.Tone.LeftmostLongest

/-!
Looking up what a search has found. The recogniser compares a text with the clusters letter by
letter, and letters in different shapes agree. A cluster is looked up under the lower case of the
text, which tells the shapes apart, and for a capital I with a dot has two characters.
-/
namespace TonelessPinyin

open Text Pattern Syllable

variable {m : ToneModel} {t w : Text}

/-! ## What is found -/

theorem span_whole (w : Text) : (⟨0, w.length⟩ : Span).of w = w :=
  span_of_eq_of_start _ List.prefix_rfl (Nat.zero_add _).symm

/-- A text that agrees with a cluster is found whole. -/
theorem search_of_mem_keyTexts (hw : w ∈ keyTexts m) : m.search w = some ⟨0, w.length⟩ := by
  obtain ⟨key, hkey, hagree⟩ := mem_keyTexts.1 hw
  have hoccurs : m.OccursAt w 0 key :=
    ⟨hkey, Nat.zero_le _, ToneModel.exists_prefix_iff.1 ⟨w, hagree, List.prefix_rfl⟩⟩
  have hlength : w.length = 0 + key.length := by rw [Nat.zero_add, hagree.length_eq]
  rw [ToneModel.search_eq_some_iff (List.ne_nil_of_mem hkey)]
  refine ⟨⟨⟨key, hoccurs⟩, fun _ _ => Nat.zero_le _⟩, ⟨key, hoccurs, hlength⟩, ?_⟩
  rintro n ⟨other, hother, rfl⟩
  obtain ⟨w', hagree', hw'⟩ := ToneModel.exists_prefix_iff.2 hother.2.2
  rw [Nat.zero_add, hagree'.length_eq]
  exact hw'.length_le

/-- What a search finds agrees with a cluster. -/
theorem mem_keyTexts_of_search (hkeys : m.clusters.keys ≠ []) {s : Span}
    (hs : m.search t = some s) : s.of t ∈ keyTexts m ∧ s.of t <+: t.drop s.start := by
  obtain ⟨key, ⟨hkey, -, hagree⟩, hstop⟩ :=
    ((ToneModel.search_eq_some_iff hkeys).1 hs).stop.1
  rw [← hstop] at hagree
  refine ⟨mem_keyTexts.2 ⟨key, hkey, hagree⟩, ?_⟩
  rw [Span.of, slice, List.drop_take]
  exact List.take_prefix _ _

/-! ## Looking up -/

namespace ToneModel

theorem find_of_not_mem_keys (h : lower t ∉ m.clusters.keys) :
    m.find t = .error (.missingKey (lower t)) := by
  rw [find, find?, Entries.get?_eq_none_iff.2 h]

theorem exists_find_iff : (∃ c, m.find t = .ok c) ↔ lower t ∈ m.clusters.keys := by
  constructor
  · rintro ⟨c, hc⟩
    by_contra hmissing
    rw [find_of_not_mem_keys hmissing] at hc
    cases hc
  · intro hkey
    obtain ⟨c, hget, -⟩ := Entries.get?_of_mem_keys hkey
    exact ⟨c, by rw [find, find?, hget]⟩

/-- All that searches find can be looked up just if every text that agrees with a cluster has the
lower case of one. -/
theorem forall_exists_find_iff (hkeys : m.clusters.keys ≠ []) :
    (∀ t s, m.search t = some s → ∃ c, m.find (s.of t) = .ok c) ↔
      ∀ w ∈ keyTexts m, lower w ∈ m.clusters.keys := by
  constructor
  · intro hfinds w hw
    have hfound := exists_find_iff.1 (hfinds w _ (search_of_mem_keyTexts hw))
    rwa [span_whole] at hfound
  · intro hlower t s hs
    exact exists_find_iff.2 (hlower _ (mem_keyTexts_of_search hkeys hs).1)

/-- The model has all small texts that agree with one of its clusters. -/
def HasAllShapes (m : ToneModel) : Prop :=
  ∀ key ∈ m.clusters.keys, ∀ w, IsLowered w → Agree key w → w ∈ m.clusters.keys

theorem hasAllShapes_iff :
    m.HasAllShapes ↔ ∀ w ∈ keyTexts m, IsLowered w → w ∈ m.clusters.keys := by
  constructor
  · intro h w hw hlowered
    obtain ⟨key, hkey, hagree⟩ := mem_keyTexts.1 hw
    exact h key hkey w hlowered hagree
  · intro h key hkey w hlowered hagree
    exact h w (mem_keyTexts.2 ⟨key, hkey, hagree⟩) hlowered

/-- Were there a capital I with a dot, its small letter would be in a cluster, too. -/
theorem HasAllShapes.not_mem_dotted (h : m.HasAllShapes) (hi : ∀ key ∈ m.clusters.keys, 'i' ∉ key)
    (hw : w ∈ keyTexts m) : 'İ' ∉ w := by
  intro hdotted
  obtain ⟨key, hkey, hagree⟩ := mem_keyTexts.1 hw
  have hlowered : IsLowered (w.map lowerLetter) := by
    intro c hc
    obtain ⟨d, -, rfl⟩ := List.mem_map.1 hc
    exact lowerLetter_lowerLetter d
  have hsmall := h key hkey _ hlowered (hagree.trans (agree_map_lowerLetter w))
  exact hi _ hsmall (List.mem_map.2 ⟨'İ', hdotted, by decide⟩)

theorem exists_longer (h : ∀ w ∈ keyTexts m, lower w ∈ m.clusters.keys) {key : Text}
    (hkey : key ∈ m.clusters.keys) (hi : 'i' ∈ key) :
    ∃ longer ∈ m.clusters.keys, 'i' ∈ longer ∧ key.length < longer.length := by
  obtain ⟨before, after, rfl⟩ := List.append_of_mem hi
  have hagree : Agree (before ++ 'i' :: after) (before ++ 'İ' :: after) :=
    List.rel_append (Agree.refl before) (.cons (by decide) (Agree.refl after))
  obtain ⟨hmem, hlength⟩ := mem_lower_of_dotted (t := before ++ 'İ' :: after) (by simp)
  refine ⟨_, h _ (mem_keyTexts.2 ⟨_, hkey, hagree⟩), hmem, ?_⟩
  rw [← hagree.length_eq] at hlength
  exact hlength

/-- A longest cluster with an i has no longer one. -/
theorem i_not_mem_of_forall (h : ∀ w ∈ keyTexts m, lower w ∈ m.clusters.keys) :
    ∀ key ∈ m.clusters.keys, 'i' ∉ key := by
  intro key hkey hi
  obtain ⟨longest, hlongest, hmax⟩ := Finset.exists_max_image
    (m.clusters.keys.toFinset.filter ('i' ∈ ·)) List.length ⟨key, by simp [hkey, hi]⟩
  obtain ⟨hmem, hi'⟩ := Finset.mem_filter.1 hlongest
  obtain ⟨longer, hlonger, hi'', hlength⟩ := exists_longer h (List.mem_toFinset.1 hmem) hi'
  have hle := hmax longer (by simp [hlonger, hi''])
  omega

theorem forall_lower_mem_keys_iff :
    (∀ w ∈ keyTexts m, lower w ∈ m.clusters.keys) ↔
      m.HasAllShapes ∧ ∀ key ∈ m.clusters.keys, 'i' ∉ key := by
  constructor
  · intro h
    refine ⟨hasAllShapes_iff.2 ?_, i_not_mem_of_forall h⟩
    intro w hw hlowered
    rw [← hlowered.lower_eq]
    exact h w hw
  · rintro ⟨hshapes, hi⟩ w hw
    obtain ⟨key, hkey, hagree⟩ := mem_keyTexts.1 hw
    have hlower := agree_lower (hshapes.not_mem_dotted hi hw)
    exact hshapes key hkey _ (isLowered_lower w) (hagree.trans hlower)

/-! ## Deriving a key -/

theorem derive_of_not_mem_keys (marking : Marking) (hw : w ∈ keyTexts m) (hlowered : IsLowered w)
    (h : w ∉ m.clusters.keys) : derive marking m w = .error (.missingKey w) := by
  have hfind : m.find w = .error (.missingKey w) := by
    rw [find_of_not_mem_keys, hlowered.lower_eq]
    rwa [hlowered.lower_eq]
  simp only [derive, hlowered.lower_eq, search_of_mem_keyTexts hw, span_whole, hfind, bind,
    Except.bind]

/-- Keys are derived in lower case, so no other texts are looked up. -/
theorem forall_derive_error_iff (hkeys : m.clusters.keys ≠ []) :
    (∀ marking syllable error, derive marking m syllable = .error error →
      error = .untonedSyllable (lower syllable)) ↔ m.HasAllShapes := by
  rw [hasAllShapes_iff]
  constructor
  · intro h w hw hlowered
    by_contra hmissing
    have herror := derive_of_not_mem_keys .standard hw hlowered hmissing
    cases h _ _ _ herror
  · intro h marking syllable error herror
    rw [derive] at herror
    cases hsearch : m.search (lower syllable) with
    | none =>
      rw [hsearch] at herror
      exact (Except.error.inj herror).symm
    | some s =>
      obtain ⟨hw, hwt⟩ := mem_keyTexts_of_search hkeys hsearch
      have hlowered := (isLowered_lower syllable).of_prefix_drop hwt
      obtain ⟨c, hc⟩ : ∃ c, m.find (s.of (lower syllable)) = .ok c := by
        rw [exists_find_iff, hlowered.lower_eq]
        exact h _ hw hlowered
      simp only [hsearch, hc, bind, Except.bind] at herror
      cases herror

/-- All that searches find can be looked up just if the model has all small texts that agree with
one of its clusters, and no cluster has an i: a capital I with a dot agrees with it, but its lower
case has two characters. Keys are derived in lower case, where the first condition is enough: then
only a syllable in which nothing is found has no key. -/
theorem finds_recognised_iff {clusters : List ToneCluster} (h : ofClusters clusters = .ok m) :
    ((∀ t s, m.search t = some s → ∃ c, m.find (s.of t) = .ok c) ↔
        m.HasAllShapes ∧ ∀ key ∈ m.clusters.keys, 'i' ∉ key) ∧
      ((∀ marking syllable error, derive marking m syllable = .error error →
          error = .untonedSyllable (lower syllable)) ↔
        m.HasAllShapes) := by
  have hkeys := keys_ne_nil h
  exact ⟨(forall_exists_find_iff hkeys).trans forall_lower_mem_keys_iff,
    forall_derive_error_iff hkeys⟩

/-- A long s agrees with the s of a cluster, but is its own lower case. -/
theorem finds_recognised_iff_long_s :
    let cluster : ToneCluster := ⟨['s'], ['a'], [['s']]⟩
    let m : ToneModel := ⟨[(['s'], cluster)]⟩
    ofClusters [cluster] = .ok m ∧ m.search ['ſ'] = some ⟨0, 1⟩ ∧
      m.find ['ſ'] = .error (.missingKey ['ſ']) ∧
      derive .standard m ['ſ'] = .error (.missingKey ['ſ']) ∧ ¬m.HasAllShapes := by
  intro cluster m
  have hm : ofClusters [cluster] = .ok m := rfl
  have herror : derive .standard m ['ſ'] = .error (.missingKey ['ſ']) := by decide
  refine ⟨hm, by decide, by decide, herror, ?_⟩
  intro hshapes
  cases (finds_recognised_iff hm).2.2 hshapes _ _ _ herror

/-- With its dotless shape the letter i has all shapes, but a capital I with a dot cannot be looked
up. -/
example :
    let m : ToneModel := ⟨[(['i'], ⟨['i'], ['i'], []⟩), (['ı'], ⟨['ı'], ['i'], []⟩)]⟩
    m.search ['İ'] = some ⟨0, 1⟩ ∧ m.find ['İ'] = .error (.missingKey ['i', '\u0307']) := by
  decide

/-! ## Toned vowels -/

theorem SpellsVowels.hasAllShapes (hm : m.SpellsVowels) : m.HasAllShapes :=
  hasAllShapes_iff.2 fun _ hw hlowered => (mem_keyTexts_iff hm hlowered).1 hw

theorem SpellsVowels.i_not_mem (hm : m.SpellsVowels) : ∀ key ∈ m.clusters.keys, 'i' ∉ key := by
  intro key hkey hi
  obtain ⟨c, -, hspells⟩ := find_of_mem_keys hm hkey
  rcases hspells.eq_or_isToned hi with heq | htoned
  · exact absurd heq (by decide)
  · exact absurd htoned (by decide)

/-- Where the clusters are toned vowels, all that searches find can be looked up. -/
theorem SpellsVowels.exists_find (hm : m.SpellsVowels) {s : Span} (hs : m.search t = some s) :
    ∃ c, m.find (s.of t) = .ok c := by
  have hkeys : m.clusters.keys ≠ [] := List.ne_nil_of_mem (hm.toned 'ā' (by decide))
  have hlower := forall_lower_mem_keys_iff.2 ⟨hm.hasAllShapes, hm.i_not_mem⟩
  exact (forall_exists_find_iff hkeys).2 hlower t s hs

end ToneModel

end TonelessPinyin
