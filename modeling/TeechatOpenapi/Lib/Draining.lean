import Mathlib.Data.List.Basic

/-!
# Draining a buffer

A buffer is fed piece by piece, and each time whole items are taken from its front, one after the other, until what is
left starts with none.
-/

namespace TeechatOpenapi.Lib

variable {α σ : Type}

/-- A way to take the first item from a buffer, if it is there. -/
structure Cutter (α : Type) where
  cut : List α → Option (List α × List α)
  shorter : ∀ {b item rest}, cut b = some (item, rest) → rest.length < b.length
  stable : ∀ {b item rest}, cut b = some (item, rest) → ∀ more, cut (b ++ more) = some (item, rest ++ more)

section Drain

variable (k : Cutter α) (step : σ → List α → σ)

/-- Take items from the front of a buffer until there is none. -/
def drain (s : σ) (b : List α) : σ × List α :=
  match _h : k.cut b with
  | none => (s, b)
  | some (item, rest) => drain (step s item) rest
termination_by b.length
decreasing_by exact k.shorter _h

variable {k step}

lemma drain_none {s : σ} {b : List α} (h : k.cut b = none) : drain k step s b = (s, b) := by
  unfold drain
  split
  · rfl
  · next hcut => cases h.symm.trans hcut

lemma drain_some {s : σ} {b item rest : List α} (h : k.cut b = some (item, rest)) :
    drain k step s b = drain k step (step s item) rest := by
  conv_lhs => unfold drain
  split
  · next hcut => cases h.symm.trans hcut
  · next hcut =>
    cases h.symm.trans hcut
    rfl

lemma cut_drain (s : σ) (b : List α) : k.cut (drain k step s b).2 = none := by
  fun_induction drain k step s b with
  | case1 s b hcut => exact hcut
  | case2 s b item rest hcut ih => exact ih

/-- **Draining in two goes** is draining at once. -/
theorem drain_append (s : σ) (b more : List α) :
    drain k step s (b ++ more) = drain k step (drain k step s b).1 ((drain k step s b).2 ++ more) := by
  fun_induction drain k step s b with
  | case1 s b hcut => rfl
  | case2 s b item rest hcut ih =>
    rw [drain_some (k.stable hcut more)]
    exact ih

variable (k step) in
def feed (s : σ × List α) (piece : List α) : σ × List α := drain k step s.1 (s.2 ++ piece)

/-- **Pieces are their concatenation.** -/
theorem feed_eq {s : σ × List α} (h : k.cut s.2 = none) (pieces : List (List α)) :
    pieces.foldl (feed k step) s = drain k step s.1 (s.2 ++ pieces.flatten) := by
  induction pieces generalizing s with
  | nil =>
    rw [List.flatten_nil, List.append_nil, drain_none h]
    rfl
  | cons piece pieces ih =>
    have hopen : k.cut (feed k step s piece).2 = none := cut_drain _ _
    rw [List.foldl_cons, ih hopen, List.flatten_cons, ← List.append_assoc, drain_append _ (s.2 ++ piece)]
    rfl

end Drain

end TeechatOpenapi.Lib
