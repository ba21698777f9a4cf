import TonelessPinyin.Text.Basic

/-!
Values by key, in the order in which the keys first came.
-/
namespace TonelessPinyin

abbrev Entries (α : Type) := List (Text × α)

namespace Entries

variable {α : Type}

/-- A new value for a key that is there takes the place of the old one. -/
def put (key : Text) (value : α) : Entries α → Entries α
  | [] => [(key, value)]
  | (k, v) :: rest => if k = key then (key, value) :: rest else (k, v) :: put key value rest

def ofPairs (pairs : List (Text × α)) : Entries α :=
  pairs.foldl (fun entries p => entries.put p.1 p.2) []

def get? (entries : Entries α) (key : Text) : Option α := entries.lookup key

def keys (entries : Entries α) : List Text := entries.map (·.1)

theorem get?_cons (k key : Text) (value : α) (rest : Entries α) :
    get? ((key, value) :: rest) k = if k = key then some value else get? rest k := by
  by_cases h : k = key <;> simp [get?, List.lookup_cons, h, beq_eq_false_iff_ne.2]

theorem get?_put (entries : Entries α) (key : Text) (value : α) (k : Text) :
    (entries.put key value).get? k = if k = key then some value else entries.get? k := by
  induction entries with
  | nil => exact get?_cons k key value []
  | cons p rest ih =>
    obtain ⟨first, old⟩ := p
    by_cases hf : first = key
    · by_cases hk : k = key <;> simp [put, get?_cons, hf, hk]
    · by_cases hk : k = first <;> simp [put, get?_cons, hf, hk, ih]

theorem keys_put (entries : Entries α) (key : Text) (value : α) :
    (entries.put key value).keys =
      if key ∈ entries.keys then entries.keys else entries.keys ++ [key] := by
  induction entries with
  | nil => rfl
  | cons p rest ih =>
    simp only [keys] at ih
    by_cases hf : p.1 = key
    · simp [put, keys, hf]
    · by_cases hr : key ∈ rest.map (·.1) <;> simp_all [put, keys, Ne.symm hf]

/-- The entries under other keys. Of keys that become equal, the last one gives the value. -/
def mapKeys (f : Text → Text) (entries : Entries α) : Entries α :=
  ofPairs (entries.map fun p => (f p.1, p.2))

end Entries

end TonelessPinyin
