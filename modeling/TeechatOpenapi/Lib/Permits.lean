import Mathlib.Data.List.Count

/-!
# Counted permits

Permits are handed out for keys and dropped in any order; a counter for each key is kept beside the list of the permits
that are live.  `Counted` says that the counters are exact and within their limit.
-/

namespace TeechatOpenapi.Lib

variable {κ : Type} [DecidableEq κ] [BEq κ] [LawfulBEq κ] {max : Nat} {count count' : κ → Nat} {live : List κ} {key : κ}

/-- Every counter is the number of live permits of its key, and within the limit. -/
structure Counted (max : Nat) (count : κ → Nat) (live : List κ) : Prop where
  exact : ∀ k, count k = live.count k
  bound : ∀ k, count k ≤ max

namespace Counted

lemma acquire (h : Counted max count live) (key : κ) (hroom : count key < max)
    (hcount : ∀ k, count' k = if k = key then count key + 1 else count k) : Counted max count' (key :: live) := by
  refine ⟨fun k => ?_, fun k => ?_⟩
  · rw [hcount, List.count_cons]
    by_cases hk : k = key
    · rw [if_pos hk, hk, beq_self_eq_true, if_pos rfl, h.exact]
    · rw [if_neg hk, if_neg (by simpa using Ne.symm hk), Nat.add_zero, h.exact]
  · rw [hcount]
    split
    · exact hroom
    · exact h.bound k

lemma drop (h : Counted max count live) (hcount : ∀ k, count' k = if k = key then count key - 1 else count k) :
    Counted max count' (live.erase key) := by
  refine ⟨fun k => ?_, fun k => ?_⟩
  · rw [hcount, List.count_erase]
    by_cases hk : k = key
    · rw [if_pos hk, hk, beq_self_eq_true, if_pos rfl, h.exact]
    · rw [if_neg hk, if_neg (by simpa using Ne.symm hk), Nat.sub_zero, h.exact]
  · have hbound := h.bound k
    rw [hcount]
    split
    · next hk =>
      rw [hk] at hbound
      omega
    · exact hbound

end Counted

end TeechatOpenapi.Lib
