import Mathlib.Data.List.TakeWhile
import TonelessPinyin.Proofs.Syllable.PlainKey
import TonelessPinyin.Syllable.Table

/-!
What a table of syllables holds. It can be built if every syllable has a toned letter. Then each key
gives the first syllable that has it, and the keys stand in the order in which they first came.
-/
namespace TonelessPinyin

open Text Pattern Syllable

/-! ## Keys of syllables -/

/-- What is derived from a syllable, if it has a tone. -/
def derived? (s : Text) : Option Derived := (derive .standard .standard s).toOption

theorem derived?_eq_some_iff {s : Text} {d : Derived} :
    derived? s = some d ↔ derive .standard .standard s = .ok d := by
  rw [derived?]
  cases derive .standard .standard s <;> simp [Except.toOption]

/-- The key of a syllable, if it has one. -/
def keyOf? (s : Text) : Option Text := (derived? s).map (·.plain)

theorem keyOf?_eq_some_iff {s key : Text} :
    keyOf? s = some key ↔ (lower s).any isToned = true ∧ key = plainKey (lower s) := by
  rw [keyOf?, Option.map_eq_some_iff]
  constructor
  · rintro ⟨d, hd, rfl⟩
    obtain ⟨htoned, rfl⟩ := derive_eq_ok_iff.1 (derived?_eq_some_iff.1 hd)
    exact ⟨htoned, rfl⟩
  · rintro ⟨htoned, rfl⟩
    exact ⟨_, derived?_eq_some_iff.2 (derive_eq_ok_iff.2 ⟨htoned, rfl⟩), rfl⟩

/-! ## Syllables added one after another -/

namespace SyllableTable.Draft

theorem entries_add (d : Draft) (s : Derived) :
    (d.add s).entries = if s.plain ∈ d.entries.keys then d.entries
      else d.entries ++ [(s.plain, s.toned)] := by
  rw [add]
  cases hget : d.entries.get? s.plain with
  | none =>
    have hkey := Entries.get?_eq_none_iff.1 hget
    rw [if_neg hkey, ← Entries.put_of_not_mem_keys hkey]
  | some kept =>
    have hkey : s.plain ∈ d.entries.keys := List.mem_map_of_mem (Entries.mem_of_get? hget)
    rw [if_pos hkey]
    dsimp only
    split_ifs <;> rfl

/-- A key that is taken keeps its syllable. -/
theorem get?_add (d : Draft) (s : Derived) (key : Text) :
    (d.add s).entries.get? key =
      (d.entries.get? key).or (if s.plain = key then some s.toned else none) := by
  rw [entries_add]
  split_ifs with hmem hkey hkey
  · obtain ⟨kept, hkept, -⟩ := Entries.get?_of_mem_keys (hkey ▸ hmem)
    rw [hkept, Option.some_or]
  · rw [Option.or_none]
  · rw [Entries.get?_append, Entries.get?_cons, if_pos hkey.symm]
  · rw [Entries.get?_append, Entries.get?_cons, if_neg (Ne.symm hkey)]
    rfl

theorem nodup_add {d : Draft} (h : d.entries.keys.Nodup) (s : Derived) :
    (d.add s).entries.keys.Nodup := by
  rw [entries_add]
  split_ifs with hmem
  · exact h
  · rw [Entries.keys, List.map_append]
    exact List.concat_eq_append ▸ h.concat hmem

theorem nodup_foldl_add (added : List Derived) {d : Draft} (h : d.entries.keys.Nodup) :
    (added.foldl add d).entries.keys.Nodup := by
  induction added generalizing d with
  | nil => exact h
  | cons s added ih => exact ih (nodup_add h s)

theorem get?_foldl_add (added : List Derived) (d : Draft) (key : Text) :
    (added.foldl add d).entries.get? key =
      (d.entries.get? key).or ((added.find? (·.plain = key)).map (·.toned)) := by
  induction added generalizing d with
  | nil => simp
  | cons s added ih =>
    rw [List.foldl_cons, ih, get?_add, Option.or_assoc]
    by_cases hkey : s.plain = key <;> simp [hkey]

theorem keys_foldl_add (added : List Derived) {d : Draft} (h : d.entries.keys.Nodup) :
    (added.foldl add d).entries.keys = (d.entries.keys ++ added.map (·.plain)).eraseDups := by
  induction added generalizing d with
  | nil => rw [List.map_nil, List.append_nil, eraseDups_eq_self h, List.foldl_nil]
  | cons s added ih =>
    rw [List.foldl_cons, ih (nodup_add h s), entries_add, List.map_cons]
    split_ifs with hmem
    · rw [eraseDups_append_cons hmem]
    · rw [Entries.keys, List.map_append, List.append_assoc]
      rfl

theorem mem_foldl_add {added : List Derived} {d : Draft} {p : Text × Text}
    (h : p ∈ (added.foldl add d).entries) : ⟨p.1, p.2⟩ ∈ added ∨ p ∈ d.entries := by
  induction added generalizing d with
  | nil => exact .inr h
  | cons s added ih =>
    rcases ih h with h | h
    · exact .inl (List.mem_cons_of_mem s h)
    · rw [entries_add] at h
      split_ifs at h
      · exact .inr h
      · rcases List.mem_append.1 h with h | h
        · exact .inr h
        · rw [List.mem_singleton.1 h]
          exact .inl List.mem_cons_self

/-- Syllables are added up to the first without a tone. -/
theorem addAll_standard (syllables : List Text) (d : Draft) :
    addAll .standard .standard syllables d =
      (((syllables.takeWhile fun s => (lower s).any isToned).filterMap derived?).foldl add d,
        (syllables.find? fun s => !(lower s).any isToned).map fun s =>
          .untonedSyllable (lower s)) := by
  induction syllables generalizing d with
  | nil => rfl
  | cons s syllables ih =>
    have hderive := derive_of_spellsVowels spellsVowels_standard s
    cases htoned : (lower s).any isToned with
    | true =>
      rw [htoned, if_pos rfl] at hderive
      have hderived := derived?_eq_some_iff.2 hderive
      rw [addAll, hderive]
      simp only [ih, List.takeWhile_cons, List.find?_cons, htoned, if_true, Bool.not_true,
        List.filterMap_cons, hderived, List.foldl_cons]
    | false =>
      -- nothing is added any more, whatever follows
      rw [htoned, if_neg Bool.false_ne_true] at hderive
      rw [addAll, hderive]
      simp only [List.takeWhile_cons, List.find?_cons, htoned, Bool.false_eq_true, if_false,
        Bool.not_false, List.filterMap_nil, List.foldl_nil, Option.map_some]

end SyllableTable.Draft

/-! ## What a table holds -/

namespace SyllableTable

/-- A table that gives, for each key, the first of the syllables that has it. -/
structure Tabulates (table : SyllableTable) (syllables : List Text) : Prop where
  contains_iff : ∀ x, table.contains x = true ↔ ∃ s ∈ syllables, keyOf? s = some (normalizeKey x)
  find : ∀ x, table.find x = match syllables.find? (keyOf? · = some (normalizeKey x)) with
    | some s => .ok (lower s)
    | none => .error (.missingKey (normalizeKey x))
  keys : table.entries.keys = (syllables.filterMap keyOf?).eraseDups
  nodup : table.entries.keys.Nodup
  fixed : ∀ key ∈ table.entries.keys, normalizeKey key = key ∧ 'v' ∉ key ∧ 'ü' ∉ key
  value : ∀ key ∈ table.entries.keys, ∃ toned, table.find key = .ok toned ∧
    key.length = toned.length ∧ derive .standard .standard toned = .ok ⟨key, toned⟩

variable {syllables : List Text}

theorem build_of_untoned {s : Text}
    (h : syllables.find? (fun s => !(lower s).any isToned) = some s) :
    SyllableTable.build .standard .standard syllables = .error (.untonedSyllable (lower s)) := by
  rw [SyllableTable.build, draft, Draft.addAll_standard, h]
  rfl

/-- The entries of the syllables, as they are added one after another. -/
def entriesOf (syllables : List Text) : Entries Text :=
  ((syllables.filterMap derived?).foldl Draft.add ⟨[], []⟩).entries

theorem nodup_entriesOf (syllables : List Text) : (entriesOf syllables).keys.Nodup :=
  Draft.nodup_foldl_add _ List.nodup_nil

theorem keys_entriesOf (syllables : List Text) :
    (entriesOf syllables).keys = (syllables.filterMap keyOf?).eraseDups := by
  have hempty : (Entries.keys ([] : Entries Text)).Nodup := List.nodup_nil
  rw [entriesOf, Draft.keys_foldl_add _ hempty, List.map_filterMap]
  rfl

theorem get?_entriesOf (syllables : List Text) (key : Text) :
    (entriesOf syllables).get? key = (syllables.find? (keyOf? · = some key)).map lower := by
  have hkey (s : Text) : (derived? s).any (·.plain = key) = decide (keyOf? s = some key) := by
    rw [keyOf?]
    cases derived? s <;> simp
  rw [entriesOf, Draft.get?_foldl_add, List.find?_filterMap]
  simp only [hkey]
  cases hfind : syllables.find? (keyOf? · = some key) with
  | none => rfl
  | some s =>
    have hs : keyOf? s = some key := by simpa using List.find?_some hfind
    have hderived : derived? s = some ⟨key, lower s⟩ := by
      rw [derived?_eq_some_iff, derive_eq_ok_iff]
      obtain ⟨htoned, rfl⟩ := keyOf?_eq_some_iff.1 hs
      exact ⟨htoned, rfl⟩
    change (derived? s).map (·.toned) = some (lower s)
    rw [hderived]
    rfl

/-- Every entry was derived from one of the syllables. -/
theorem exists_of_mem_entriesOf {p : Text × Text} (h : p ∈ entriesOf syllables) :
    ∃ s ∈ syllables, derive .standard .standard s = .ok ⟨p.1, p.2⟩ := by
  rcases Draft.mem_foldl_add h with h | h
  · obtain ⟨s, hs, hderived⟩ := List.mem_filterMap.1 h
    exact ⟨s, hs, derived?_eq_some_iff.1 hderived⟩
  · cases h

theorem exists_of_mem_keys {key : Text} (h : key ∈ (entriesOf syllables).keys) :
    ∃ s, (lower s).any isToned = true ∧ key = plainKey (lower s) ∧
      (entriesOf syllables).get? key = some (lower s) := by
  obtain ⟨toned, hget, hmem⟩ := Entries.get?_of_mem_keys h
  obtain ⟨s, -, hderive⟩ := exists_of_mem_entriesOf hmem
  obtain ⟨htoned, heq⟩ := derive_eq_ok_iff.1 hderive
  obtain ⟨rfl, rfl⟩ := Derived.mk.inj heq
  exact ⟨s, htoned, rfl, hget⟩

theorem normalizeKey_of_mem_keys {key : Text} (h : key ∈ (entriesOf syllables).keys) :
    normalizeKey key = key := by
  obtain ⟨s, -, rfl, -⟩ := exists_of_mem_keys h
  exact normalizeKey_plainKey (isLowered_lower s)

theorem build_of_toned (h : syllables.find? (fun s => !(lower s).any isToned) = none) :
    SyllableTable.build .standard .standard syllables = .ok ⟨entriesOf syllables⟩ := by
  have htake : syllables.takeWhile (fun s => (lower s).any isToned) = syllables :=
    List.takeWhile_eq_self_iff.2 (by simpa using h)
  -- as the keys are distinct and fixed, no entry is lost when they are normalised
  rw [SyllableTable.build, draft, Draft.addAll_standard, h, htake]
  change Except.ok (ofEntries (entriesOf syllables)) = _
  rw [ofEntries, Entries.mapKeys_eq_self (nodup_entriesOf syllables)]
  exact fun key hkey => normalizeKey_of_mem_keys hkey

theorem eq_of_build {table : SyllableTable}
    (h : SyllableTable.build .standard .standard syllables = .ok table) :
    table = ⟨entriesOf syllables⟩ := by
  cases hfind : syllables.find? fun s => !(lower s).any isToned with
  | none =>
    rw [build_of_toned hfind] at h
    exact (Except.ok.inj h).symm
  | some s =>
    rw [build_of_untoned hfind] at h
    cases h

theorem tabulates_entriesOf (syllables : List Text) :
    Tabulates ⟨entriesOf syllables⟩ syllables where
  contains_iff x := by
    rw [contains, get?, get?_entriesOf, Option.isSome_map, List.find?_isSome]
    simp only [decide_eq_true_eq]
  find x := by
    rw [SyllableTable.find, get?, get?_entriesOf]
    cases syllables.find? (keyOf? · = some (normalizeKey x)) <;> rfl
  keys := keys_entriesOf syllables
  nodup := nodup_entriesOf syllables
  fixed key hkey := by
    refine ⟨normalizeKey_of_mem_keys hkey, ?_⟩
    obtain ⟨s, -, rfl, -⟩ := exists_of_mem_keys hkey
    constructor
    · exact fun hv => absurd (foldLetter_of_mem_plainKey hv) (by decide)
    · exact fun hu => absurd (foldLetter_of_mem_plainKey hu) (by decide)
  value key hkey := by
    have hfixed := normalizeKey_of_mem_keys hkey
    obtain ⟨s, htoned, rfl, hget⟩ := exists_of_mem_keys hkey
    refine ⟨lower s, ?_, length_plainKey _, derive_eq_ok_iff.2 ?_⟩
    · rw [SyllableTable.find, get?, hfixed, hget]
    · rw [lower_lower]
      exact ⟨htoned, rfl⟩

/-- If every syllable has a toned letter, the table can be built and tabulates the syllables.
Otherwise the first syllable without one is the error. -/
theorem build_tabulates (syllables : List Text) :
    match syllables.find? fun s => !(lower s).any isToned with
    | some s =>
      SyllableTable.build .standard .standard syllables = .error (.untonedSyllable (lower s))
    | none =>
      ∃ table, SyllableTable.build .standard .standard syllables = .ok table ∧
        table.Tabulates syllables := by
  split
  · next s hs => exact build_of_untoned hs
  · next hs => exact ⟨_, build_of_toned hs, tabulates_entriesOf syllables⟩

/-- Of two syllables with one key the first is kept. -/
example : SyllableTable.build .standard .standard
    ["Lǜ".toList, "nüè".toList, "lù".toList] =
      .ok ⟨[("lu".toList, "lǜ".toList), ("nue".toList, "nüè".toList)]⟩ := by
  rfl

end SyllableTable

end TonelessPinyin
