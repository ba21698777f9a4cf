import TonelessPinyin.Proofs.Syllable.Tabulation

/-!
Tables built from spelled syllables. Every look-up gives one of the syllables, whose plain letters
are the letters of the key.
-/
namespace TonelessPinyin

open Text Pattern Syllable

/-! ## Keys of spelled syllables -/

theorem isSpelled_map_foldLetter_iff {t : Text} : IsSpelled (t.map foldLetter) ↔ IsSpelled t := by
  simp [IsSpelled, foldLetter_mem_letters_iff]

/-- Where the lower case is spelled, every character has a key of its own. -/
theorem map_normalizeKey_of_spelled_lower {t : Text} (h : IsSpelled (lower t)) :
    (t.map fun c => normalizeKey [c]) = (normalizeKey t).map fun c => [c] := by
  have hdot : 'İ' ∉ t := by
    intro hm
    rcases mem_lowerAfter_of_capital (.inl hm) [] with hl | hl | hl <;>
      exact absurd (h _ hl) (by decide)
  rw [normalizeKey, h.lower_eq_map, List.map_map, List.map_map]
  apply List.map_congr_left
  intro c hc
  have hne : c ≠ 'İ' := fun heq => hdot (heq ▸ hc)
  rw [normalizeKey, lower_singleton hne]
  rfl

theorem CarriesTone.derive_eq {syllable before cluster after base : Text}
    (h : CarriesTone (lower syllable) before cluster after base) :
    derive .standard .standard syllable =
      .ok ⟨TonelessPinyin.keyAround before cluster after, lower syllable⟩ := by
  obtain ⟨c, hfind, rfl⟩ := h.find
  exact derive_eq_keyAround h.split h.search hfind h.spells

/-- A syllable that has a key carries a tone. -/
theorem carriesTone_of_derive {syllable : Text} {d : Derived}
    (h : derive .standard .standard syllable = .ok d) :
    ∃ before cluster after base, CarriesTone (lower syllable) before cluster after base ∧
      d = ⟨keyAround before cluster after, lower syllable⟩ := by
  cases hsearch : ToneModel.standard.search (lower syllable) with
  | none => simp [derive, hsearch] at h
  | some s =>
    obtain ⟨before, cluster, after, base, hcarries, -⟩ :=
      carriesTone_of_search (isLowered_lower syllable) hsearch
    rw [hcarries.derive_eq] at h
    exact ⟨before, cluster, after, base, hcarries, (Except.ok.inj h).symm⟩

theorem IsSpelled.keyAround {toned before cluster after base : Text} (hspelled : IsSpelled toned)
    (h : CarriesTone toned before cluster after base) :
    IsSpelled (keyAround before cluster after) := by
  obtain ⟨-, -, hplain, hfold⟩ := h.spells.plain
  rw [h.split, append_append_iff] at hspelled
  rw [TonelessPinyin.keyAround, append_append_iff, ← hfold]
  simp only [isSpelled_map_foldLetter_iff]
  exact ⟨hspelled.1, hplain, hspelled.2.2⟩

theorem CarriesTone.plainKey_eq {toned before cluster after base : Text}
    (h : CarriesTone toned before cluster after base) :
    plainKey toned = TonelessPinyin.keyAround before cluster after := by
  have hfirst := h.first
  rw [h.split] at hfirst ⊢
  exact plainKey_eq_keyAround spellsVowels_standard h.spells hfirst

/-! ## Built tables -/

namespace SyllableTable

/-- Every look-up gives one of the syllables, which has the key that is looked up. -/
theorem derive_of_get? {table : SyllableTable} {syllables : List Text}
    (hbuild : SyllableTable.build .standard .standard syllables = .ok table) {t toned : Text}
    (hget : table.get? t = some toned) :
    ∃ s ∈ syllables, derive .standard .standard s = .ok ⟨normalizeKey t, toned⟩ := by
  obtain rfl := eq_of_build hbuild
  exact exists_of_mem_entriesOf (Entries.mem_of_get? hget)

/-- A table of spelled syllables, as it is built with the standard model. -/
structure IsBuiltFrom (table : SyllableTable) (syllables : List Text) : Prop where
  build : SyllableTable.build .standard .standard syllables = .ok table
  spelled : ∀ s ∈ syllables, IsSpelled (lower s)

namespace IsBuiltFrom

variable {table : SyllableTable} {syllables : List Text}

/-- Every entry is one of the syllables, around its cluster, under the key of its letters. -/
theorem entry (h : table.IsBuiltFrom syllables) {p : Text × Text} (hp : p ∈ table.entries) :
    ∃ s ∈ syllables, lower s = p.2 ∧ ∃ before cluster after base,
      CarriesTone p.2 before cluster after base ∧ p.1 = keyAround before cluster after := by
  obtain rfl := eq_of_build h.build
  obtain ⟨s, hs, hderive⟩ := exists_of_mem_entriesOf hp
  obtain ⟨before, cluster, after, base, hcarries, heq⟩ := carriesTone_of_derive hderive
  obtain ⟨hkey, htoned⟩ := Derived.mk.inj heq
  exact ⟨s, hs, htoned.symm, before, cluster, after, base, htoned ▸ hcarries, hkey⟩

/-- Every look-up gives one of the syllables, under the key of what is looked up. -/
theorem lookup (h : table.IsBuiltFrom syllables) {t toned : Text}
    (hget : table.get? t = some toned) :
    ∃ s ∈ syllables, lower s = toned ∧ ∃ before cluster after base,
      CarriesTone toned before cluster after base ∧
        normalizeKey t = keyAround before cluster after :=
  h.entry (Entries.mem_of_get? hget)

theorem get?_key (h : table.IsBuiltFrom syllables) {key toned : Text}
    (hget : table.entries.get? key = some toned) : table.get? key = some toned := by
  obtain rfl := eq_of_build h.build
  have hkey : key ∈ (entriesOf syllables).keys := List.mem_map_of_mem (Entries.mem_of_get? hget)
  rw [SyllableTable.get?, normalizeKey_of_mem_keys hkey, hget]

theorem isSpelled_of_get? (h : table.IsBuiltFrom syllables) {t toned : Text}
    (hget : table.get? t = some toned) : IsSpelled toned ∧ IsSpelled (lower t) := by
  obtain ⟨s, hs, rfl, before, cluster, after, base, hcarries, hkey⟩ := h.lookup hget
  have hspelled := h.spelled s hs
  refine ⟨hspelled, isSpelled_map_foldLetter_iff.1 ?_⟩
  have hkeyed := hspelled.keyAround hcarries
  rwa [← hkey] at hkeyed

/-- The syllable that is found, around its cluster, has the letters of what is looked up. -/
theorem surface (h : table.IsBuiltFrom syllables) {t toned : Text}
    (hget : table.get? t = some toned) :
    ∃ before cluster after base, CarriesTone toned before cluster after base ∧
      (t.map fun c => normalizeKey [c]) = (keyAround before cluster after).map fun c => [c] := by
  obtain ⟨s, hs, -, before, cluster, after, base, hcarries, hkey⟩ := h.lookup hget
  refine ⟨before, cluster, after, base, hcarries, ?_⟩
  rw [← hkey, map_normalizeKey_of_spelled_lower (h.isSpelled_of_get? hget).2]

theorem length_eq_of_get? (h : table.IsBuiltFrom syllables) {t toned : Text}
    (hget : table.get? t = some toned) : t.length = toned.length := by
  obtain ⟨before, cluster, after, base, hcarries, hkey⟩ := h.surface hget
  have hlength := congrArg List.length hkey
  rwa [List.length_map, List.length_map, length_keyAround, ← hcarries.split] at hlength

end IsBuiltFrom

end SyllableTable

end TonelessPinyin
