import Mathlib.Data.List.Lex
import Mathlib.Data.List.Pairwise
import Mathlib.Order.Lattice

/-!
# Lists in the order of a key

Insertion into a list that ascends strictly in a key: an element with the same key is replaced.  `ascending` inserts the
elements of a list one after another, so it is the list of the entries of a map that was filled in that order, and with
the identity as key it is the list sorted and without duplicates.
-/

namespace TeechatOpenapi.Lib

section Keyed

variable {α κ : Type} [LinearOrder κ] (key : α → κ)

/-- Every key is below the keys behind it. -/
def Ascends (l : List α) : Prop := l.Pairwise fun a b => key a < key b

/-- Insertion of `a` in its place. -/
def insertAt (a : α) : List α → List α
  | [] => [a]
  | b :: l =>
    if key a < key b then a :: b :: l
    else if key b < key a then b :: insertAt a l
    else a :: l

/-- The elements of a list, inserted one after another. -/
def ascending (l : List α) : List α := l.foldl (fun placed a => insertAt key a placed) []

variable {key}

lemma mem_insertAt {a x : α} {l : List α} (h : x ∈ insertAt key a l) : x = a ∨ x ∈ l := by
  induction l with
  | nil => exact Or.inl (List.mem_singleton.mp h)
  | cons b l ih =>
    unfold insertAt at h
    split_ifs at h
    · exact List.mem_cons.mp h
    · rcases List.mem_cons.mp h with rfl | h
      · exact Or.inr List.mem_cons_self
      · exact (ih h).imp id (List.mem_cons_of_mem b)
    · exact (List.mem_cons.mp h).imp id (List.mem_cons_of_mem b)

lemma Ascends.insertAt {a : α} {l : List α} (hl : Ascends key l) : Ascends key (insertAt key a l) := by
  induction l with
  | nil => exact List.pairwise_singleton _ a
  | cons b l ih =>
    obtain ⟨hb, htail⟩ := List.pairwise_cons.mp hl
    unfold Lib.insertAt
    split_ifs with hbelow habove
    · refine List.pairwise_cons.mpr ⟨?_, hl⟩
      intro x hx
      rcases List.mem_cons.mp hx with rfl | hx
      · exact hbelow
      · exact hbelow.trans (hb x hx)
    · refine List.pairwise_cons.mpr ⟨?_, ih htail⟩
      intro x hx
      rcases mem_insertAt hx with rfl | hx
      · exact habove
      · exact hb x hx
    · -- neither is below the other: `a` takes the place of `b`
      have hsame : key a = key b := le_antisymm (not_lt.mp habove) (not_lt.mp hbelow)
      refine List.pairwise_cons.mpr ⟨?_, htail⟩
      intro x hx
      rw [hsame]
      exact hb x hx

lemma ascends_foldl (l : List α) {placed : List α} (hplaced : Ascends key placed) :
    Ascends key (l.foldl (fun placed a => insertAt key a placed) placed) := by
  induction l generalizing placed with
  | nil => exact hplaced
  | cons a l ih => exact ih hplaced.insertAt

/-- **Filled in any order, the entries ascend.** -/
theorem ascends_ascending (l : List α) : Ascends key (ascending key l) := ascends_foldl l List.Pairwise.nil

end Keyed

section Sorted

variable {α : Type} [LinearOrder α]

lemma mem_insertAt_id {a x : α} {l : List α} : x ∈ insertAt id a l ↔ x = a ∨ x ∈ l := by
  refine ⟨mem_insertAt, ?_⟩
  intro h
  induction l with
  | nil => exact List.mem_singleton.mpr (h.resolve_right List.not_mem_nil)
  | cons b l ih =>
    unfold insertAt
    split_ifs with hbelow habove
    · exact List.mem_cons.mpr h
    · rcases h with rfl | h
      · exact List.mem_cons_of_mem b (ih (Or.inl rfl))
      · rcases List.mem_cons.mp h with rfl | h
        · exact List.mem_cons_self
        · exact List.mem_cons_of_mem b (ih (Or.inr h))
    · have hsame : a = b := le_antisymm (not_lt.mp habove) (not_lt.mp hbelow)
      rcases h with rfl | h
      · exact List.mem_cons_self
      · rwa [hsame]

lemma mem_foldl_insertAt {x : α} (l placed : List α) :
    x ∈ l.foldl (fun placed a => insertAt id a placed) placed ↔ x ∈ l ∨ x ∈ placed := by
  induction l generalizing placed with
  | nil => simp
  | cons a l ih =>
    rw [List.foldl_cons, ih, mem_insertAt_id, List.mem_cons]
    tauto

/-- **A sorted list has the elements of the list.** -/
theorem mem_ascending {x : α} {l : List α} : x ∈ ascending id l ↔ x ∈ l := by
  rw [ascending, mem_foldl_insertAt]
  simp

end Sorted

end TeechatOpenapi.Lib
