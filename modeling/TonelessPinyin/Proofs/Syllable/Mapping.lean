import TonelessPinyin.Proofs.Syllable.PlainKey
import TonelessPinyin.Syllable.Table

/-!
A table of syllables as a mapping. Keys are normalised when they are entered and again when they are
looked up, which comes to the same, as a normalised key stays as it is. Of entries whose keys become
equal, the first one gives the place and the last one gives the value.
-/
namespace TonelessPinyin

open Text Syllable

namespace SyllableTable

/-- The last entry under a key that is normalised like the given one. -/
def lastOf? (entries : Entries Text) (x : Text) : Option (Text × Text) :=
  (entries.filter fun p => normalizeKey p.1 = normalizeKey x).getLast?

theorem isSome_lastOf?_iff {entries : Entries Text} {x : Text} :
    (lastOf? entries x).isSome = true ↔ ∃ p ∈ entries, normalizeKey p.1 = normalizeKey x := by
  rw [lastOf?, List.getLast?_isSome, Ne, List.filter_eq_nil_iff]
  simp

/-- What the table of the entries says of a text, and which keys it goes through. -/
structure Maps (table : SyllableTable) (entries : Entries Text) : Prop where
  contains_iff : ∀ x, table.contains x = true ↔ ∃ p ∈ entries, normalizeKey p.1 = normalizeKey x
  get? : ∀ x, table.get? x = (lastOf? entries x).map (·.2)
  find : ∀ x, table.find x = match lastOf? entries x with
    | some p => .ok p.2
    | none => .error (.missingKey (normalizeKey x))
  keys : table.entries.keys = (entries.map fun p => normalizeKey p.1).eraseDups
  nodup : table.entries.keys.Nodup
  size : table.size = table.entries.keys.length
  stored : ∀ p ∈ table.entries,
    normalizeKey p.1 = p.1 ∧ table.contains p.1 = true ∧ table.find p.1 = .ok p.2

variable (entries : Entries Text)

theorem get?_ofEntries (x : Text) :
    (ofEntries entries).get? x = (lastOf? entries x).map (·.2) := by
  rw [get?, ofEntries, Entries.mapKeys, Entries.get?_ofPairs, List.filter_map, List.getLast?_map,
    Option.map_map]
  rfl

theorem find_ofEntries (x : Text) :
    (ofEntries entries).find x = match lastOf? entries x with
      | some p => .ok p.2
      | none => .error (.missingKey (normalizeKey x)) := by
  rw [find, get?_ofEntries]
  cases lastOf? entries x <;> rfl

theorem keys_ofEntries :
    (ofEntries entries).entries.keys = (entries.map fun p => normalizeKey p.1).eraseDups ∧
      (ofEntries entries).entries.keys.Nodup := by
  have hkeys := Entries.keys_ofPairs (entries.map fun p => (normalizeKey p.1, p.2))
  rwa [List.map_map] at hkeys

/-- A stored key is looked up as it stands. -/
theorem get?_of_stored {p : Text × Text} (hp : p ∈ (ofEntries entries).entries) :
    normalizeKey p.1 = p.1 ∧ (ofEntries entries).get? p.1 = some p.2 := by
  have hkey : p.1 ∈ (ofEntries entries).entries.keys := List.mem_map_of_mem hp
  obtain ⟨k, -, hk⟩ := Entries.mem_keys_mapKeys.1 hkey
  have hfixed : normalizeKey p.1 = p.1 := by rw [← hk, normalizeKey_normalizeKey]
  refine ⟨hfixed, ?_⟩
  rw [get?, hfixed]
  exact Entries.get?_of_mem (keys_ofEntries entries).2 hp

theorem maps_ofEntries : (ofEntries entries).Maps entries where
  contains_iff x := by rw [contains, get?_ofEntries, Option.isSome_map, isSome_lastOf?_iff]
  get? := get?_ofEntries entries
  find := find_ofEntries entries
  keys := (keys_ofEntries entries).1
  nodup := (keys_ofEntries entries).2
  size := (List.length_map _).symm
  stored p hp := by
    obtain ⟨hfixed, hget⟩ := get?_of_stored entries hp
    refine ⟨hfixed, ?_, ?_⟩
    · rw [contains, hget]
      rfl
    · rw [SyllableTable.find, hget]

/-- A table of entries is a mapping by normalised key, whatever the entries are. A key can be
normalised again, as that changes nothing. -/
theorem ofEntries_consistent :
    (ofEntries entries).Maps entries ∧ ∀ t, normalizeKey (normalizeKey t) = normalizeKey t :=
  ⟨maps_ofEntries entries, normalizeKey_normalizeKey⟩

/-- The later entry gives its value to the key that the first one entered. -/
example : (ofEntries [("LÜ".toList, ['1']), ("shu".toList, ['2']), ("lv".toList, ['3'])]).entries =
    [("lu".toList, ['3']), ("shu".toList, ['2'])] := by
  rfl

end SyllableTable

end TonelessPinyin
