import Mathlib.Data.List.Basic

/-!
# A vector that grows to an index

`touch` updates the slot of an index, after it has pushed defaults until there is one.
-/

namespace TeechatOpenapi.Lib

section Slots

variable {α β : Type}

/-- Push defaults until the index is there, then update its slot. -/
def touch (default : α) (l : List α) (i : Nat) (f : α → α) : List α :=
  (l ++ List.replicate (i + 1 - l.length) default).modify i f

variable {default : α}

lemma length_touch (l : List α) (i : Nat) (f : α → α) : (touch default l i f).length = max l.length (i + 1) := by
  rw [touch, List.length_modify, List.length_append, List.length_replicate]
  omega

end Slots

end TeechatOpenapi.Lib
