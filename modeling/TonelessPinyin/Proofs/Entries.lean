import Mathlib.Data.List.Nodup
import TonelessPinyin.Entries

/-!
What is found in entries, and in which order their keys stand.
-/
namespace TonelessPinyin

/-! ## Lists without doubles -/

section

variable {α : Type} [BEq α] [LawfulBEq α]

theorem eraseDups_eq_self {l : List α} (h : l.Nodup) : l.eraseDups = l := by
  induction l with
  | nil => rfl
  | cons a l ih =>
    obtain ⟨ha, hl⟩ := List.nodup_cons.1 h
    have hfilter : (l.filter fun b => !b == a) = l := by
      apply List.filter_eq_self.2
      intro b hb
      simpa using ne_of_mem_of_not_mem hb ha
    rw [List.eraseDups_cons, hfilter, ih hl]

/-- A member that comes again is left out. -/
theorem eraseDups_append_cons {l : List α} {a : α} (h : a ∈ l) (rest : List α) :
    (l ++ a :: rest).eraseDups = (l ++ rest).eraseDups := by
  have hremove : (a :: rest).removeAll l = rest.removeAll l := by simp [List.removeAll, h]
  rw [List.eraseDups_append, List.eraseDups_append, hremove]

end

/-! ## Entries -/

namespace Entries

variable {α : Type} {entries : Entries α} {key : Text}

theorem mem_of_get? {value : α}
    (h : entries.get? key = some value) : (key, value) ∈ entries := by
  induction entries with
  | nil => simp [get?] at h
  | cons entry entries ih =>
    obtain ⟨k, v⟩ := entry
    rw [get?_cons] at h
    split_ifs at h with hk
    · simp [hk, Option.some.inj h]
    · exact List.mem_cons_of_mem _ (ih h)

theorem get?_of_mem_keys (h : key ∈ entries.keys) :
    ∃ value, entries.get? key = some value ∧ (key, value) ∈ entries := by
  induction entries with
  | nil => simp [keys] at h
  | cons entry entries ih =>
    obtain ⟨k, v⟩ := entry
    rw [get?_cons]
    split_ifs with hk
    · exact ⟨v, rfl, by simp [hk]⟩
    · have hmem : key ∈ keys entries := by simpa [keys, hk] using h
      obtain ⟨value, hvalue, hentry⟩ := ih hmem
      exact ⟨value, hvalue, List.mem_cons_of_mem _ hentry⟩

/-- Of keys without doubles, each gives the value that stands with it. -/
theorem get?_of_mem (h : entries.keys.Nodup) {p : Text × α} (hp : p ∈ entries) :
    entries.get? p.1 = some p.2 := by
  induction entries with
  | nil => cases hp
  | cons q entries ih =>
    obtain ⟨hq, hrest⟩ := List.nodup_cons.1 h
    rw [get?_cons]
    rcases List.mem_cons.1 hp with rfl | hp
    · rw [if_pos rfl]
    · have hkey : p.1 ∈ keys entries := List.mem_map_of_mem hp
      rw [if_neg (ne_of_mem_of_not_mem hkey hq), ih hrest hp]

theorem get?_eq_none_iff : entries.get? key = none ↔ key ∉ entries.keys := by
  constructor
  · intro hnone hkey
    obtain ⟨value, hvalue, -⟩ := get?_of_mem_keys hkey
    rw [hnone] at hvalue
    cases hvalue
  · intro hkey
    rw [Option.eq_none_iff_forall_ne_some]
    intro value hvalue
    exact hkey (List.mem_map_of_mem (mem_of_get? hvalue))

theorem get?_append (a b : Entries α) (key : Text) :
    (a ++ b).get? key = (a.get? key).or (b.get? key) :=
  List.lookup_append

theorem put_of_not_mem_keys (h : key ∉ entries.keys) (value : α) :
    entries.put key value = entries ++ [(key, value)] := by
  induction entries with
  | nil => rfl
  | cons entry entries ih =>
    obtain ⟨k, v⟩ := entry
    obtain ⟨hk, hrest⟩ := not_or.1 (mt List.mem_cons.2 h)
    rw [put, if_neg (Ne.symm hk), ih hrest]
    rfl

theorem ofPairs_eq_self (h : entries.keys.Nodup) : ofPairs entries = entries := by
  have hfold (pairs done : Entries α) (h : (keys (done ++ pairs)).Nodup) :
      pairs.foldl (fun e p => e.put p.1 p.2) done = done ++ pairs := by
    induction pairs generalizing done with
    | nil => simp
    | cons p pairs ih =>
      have hp : p.1 ∉ keys done := by
        rw [keys, List.map_append, List.nodup_append] at h
        intro hp
        exact h.2.2 p.1 hp p.1 (by simp) rfl
      rw [List.append_cons] at h
      rw [List.foldl_cons, put_of_not_mem_keys hp, ih _ h, ← List.append_cons]
  exact hfold entries [] h

/-- Keys that are mapped to themselves keep their entries. -/
theorem mapKeys_eq_self {f : Text → Text} (h : entries.keys.Nodup)
    (hf : ∀ key ∈ entries.keys, f key = key) : entries.mapKeys f = entries := by
  have hsame : (entries.map fun p => (f p.1, p.2)) = entries.map id := by
    apply List.map_congr_left
    intro p hp
    rw [hf p.1 (List.mem_map_of_mem hp)]
    rfl
  rw [mapKeys, hsame, List.map_id, ofPairs_eq_self h]

/-! ## Entries of pairs -/

/-- Of pairs with the same key, the last one gives the value. -/
theorem get?_ofPairs (pairs : List (Text × α)) (key : Text) :
    (ofPairs pairs).get? key = ((pairs.filter (·.1 = key)).getLast?).map (·.2) := by
  have hfold (pairs : List (Text × α)) (done : Entries α) :
      (pairs.foldl (fun entries p => entries.put p.1 p.2) done).get? key =
        (((pairs.filter (·.1 = key)).getLast?).map (·.2)).or (done.get? key) := by
    induction pairs generalizing done with
    | nil => rfl
    | cons p pairs ih =>
      rw [List.foldl_cons, ih, get?_put]
      by_cases hp : p.1 = key
      · rw [if_pos hp.symm, List.filter_cons_of_pos (by simpa using hp), List.getLast?_cons]
        cases (pairs.filter (·.1 = key)).getLast? <;> rfl
      · rw [if_neg (Ne.symm hp), List.filter_cons_of_neg (by simpa using hp)]
  rw [ofPairs, hfold]
  exact Option.or_none

theorem nodup_keys_put (h : entries.keys.Nodup) (key : Text) (value : α) :
    (entries.put key value).keys.Nodup := by
  rw [keys_put]
  split_ifs with hkey
  · exact h
  · exact List.concat_eq_append ▸ h.concat hkey

/-- Each key stands where it first came. -/
theorem keys_ofPairs (pairs : List (Text × α)) :
    (ofPairs pairs).keys = (pairs.map (·.1)).eraseDups ∧ (ofPairs pairs).keys.Nodup := by
  have hfold (pairs : List (Text × α)) (done : Entries α) (h : done.keys.Nodup) :
      (pairs.foldl (fun entries p => entries.put p.1 p.2) done).keys =
          (done.keys ++ pairs.map (·.1)).eraseDups ∧
        (pairs.foldl (fun entries p => entries.put p.1 p.2) done).keys.Nodup := by
    induction pairs generalizing done with
    | nil => simp [eraseDups_eq_self h, h]
    | cons p pairs ih =>
      obtain ⟨hkeys, hnodup⟩ := ih _ (nodup_keys_put h p.1 p.2)
      refine ⟨?_, hnodup⟩
      rw [List.foldl_cons, hkeys, keys_put, List.map_cons]
      split_ifs with hmem
      · rw [eraseDups_append_cons hmem]
      · rw [List.append_assoc, List.singleton_append]
  exact hfold pairs [] List.nodup_nil

theorem mem_keys_ofPairs {pairs : List (Text × α)} :
    key ∈ (ofPairs pairs).keys ↔ key ∈ pairs.map (·.1) := by
  rw [(keys_ofPairs pairs).1, List.mem_eraseDups]

theorem mem_keys_mapKeys {f : Text → Text} :
    key ∈ (entries.mapKeys f).keys ↔ ∃ k ∈ entries.keys, f k = key := by
  rw [mapKeys, mem_keys_ofPairs]
  simp [keys]

end Entries

end TonelessPinyin
