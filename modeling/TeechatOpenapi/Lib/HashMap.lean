import Mathlib.Data.List.AList

/-!
# Hash maps

A hash map is an association list with distinct keys, of which only lookups and the size are used.
-/

namespace TeechatOpenapi.Lib

abbrev HashMap (κ α : Type) : Type := AList fun _ : κ => α

namespace HashMap

variable {κ α : Type}

def size (m : HashMap κ α) : Nat := m.keys.length

def retain (p : κ → α → Bool) (m : HashMap κ α) : HashMap κ α :=
  ⟨m.entries.filter fun e => p e.1 e.2, m.nodupKeys.sublist List.filter_sublist⟩

lemma size_retain_le (p : κ → α → Bool) (m : HashMap κ α) : size (retain p m) ≤ size m :=
  (List.filter_sublist.map Sigma.fst).length_le

variable [DecidableEq κ]

lemma lookup_retain (p : κ → α → Bool) (m : HashMap κ α) (k : κ) :
    (retain p m).lookup k = (m.lookup k).filter (p k) := by
  refine Option.ext fun a => ?_
  have hkept : (retain p m).lookup k = some a ↔ ⟨k, a⟩ ∈ m.entries ∧ p k a = true := by
    rw [← Option.mem_def, AList.mem_lookup_iff]
    exact List.mem_filter
  rw [hkept, Option.filter_eq_some_iff, ← AList.mem_lookup_iff, Option.mem_def]

lemma size_insert (m : HashMap κ α) (k : κ) (a : α) :
    size (m.insert k a) = if k ∈ m then size m else size m + 1 := by
  rw [size, AList.keys_insert, List.length_cons]
  split_ifs with hmem
  · have hpos : 0 < m.keys.length := List.length_pos_of_mem hmem
    rw [List.length_erase_of_mem hmem, size]
    omega
  · rw [List.erase_of_not_mem hmem, size]

lemma size_erase_le (m : HashMap κ α) (k : κ) : size (m.erase k) ≤ size m := by
  rw [size, AList.keys_erase]
  exact List.length_erase_le

end HashMap

end TeechatOpenapi.Lib
