import Mathlib.Data.List.Basic

/-!
# Fixed windows

A log of events, each with its instant and the start of the window it fell into.  Windows are `width` wide and start at
least `width` apart, and each holds at most `limit` events.
-/

namespace TeechatOpenapi.Lib

variable {α : Type} (instant window : α → Nat)

/-- The events of one window. -/
def inWindow (log : List α) (start : Nat) : List α := log.filter fun a => window a = start

/-- Every event lies in its window, windows do not overlap, and none holds more than `limit` events. -/
structure Windowed (width limit : Nat) (log : List α) : Prop where
  inside : ∀ a ∈ log, window a ≤ instant a ∧ instant a < window a + width
  spaced : ∀ a ∈ log, ∀ b ∈ log, window a < window b → window a + width ≤ window b
  bounded : ∀ start, (inWindow window log start).length ≤ limit

variable {instant window} {width limit : Nat} {log : List α}

lemma inWindow_concat (log : List α) (a : α) (start : Nat) :
    inWindow window (log ++ [a]) start = inWindow window log start ++ if window a = start then [a] else [] := by
  unfold inWindow
  rw [List.filter_append]
  by_cases h : window a = start
  · simp [h]
  · simp [h]

lemma inWindow_eq_nil {start : Nat} (h : ∀ a ∈ log, window a ≠ start) : inWindow window log start = [] := by
  rw [inWindow, List.filter_eq_nil_iff]
  intro a ha hstart
  exact h a ha (of_decide_eq_true hstart)

namespace Windowed

lemma nil : Windowed instant window width limit [] :=
  ⟨nofun, nofun, fun _ => Nat.zero_le limit⟩

/-- An event joins a window with room, and every other window ended before that one started. -/
lemma push (h : Windowed instant window width limit log) {a : α}
    (hinside : window a ≤ instant a ∧ instant a < window a + width)
    (hspaced : ∀ b ∈ log, window b ≠ window a → window b + width ≤ window a)
    (hroom : (inWindow window log (window a)).length < limit) :
    Windowed instant window width limit (log ++ [a]) := by
  refine ⟨?_, ?_, ?_⟩
  · intro b hb
    rcases List.mem_append.mp hb with hb | hb
    · exact h.inside b hb
    · rw [List.mem_singleton.mp hb]
      exact hinside
  · intro b hb c hc hlt
    rcases List.mem_append.mp hb with hb | hb <;> rcases List.mem_append.mp hc with hc | hc
    · exact h.spaced b hb c hc hlt
    · rw [List.mem_singleton.mp hc] at hlt ⊢
      exact hspaced b hb (Nat.ne_of_lt hlt)
    · -- an older event is never in a later window
      rw [List.mem_singleton.mp hb] at hlt
      have := hspaced c hc (Nat.ne_of_gt hlt)
      omega
    · rw [List.mem_singleton.mp hb, List.mem_singleton.mp hc] at hlt
      omega
  · intro start
    rw [inWindow_concat, List.length_append]
    have hold := h.bounded start
    by_cases hstart : window a = start
    · rw [hstart] at hroom
      rw [if_pos hstart, List.length_singleton]
      omega
    · rw [if_neg hstart, List.length_nil]
      omega

lemma length_near_le (h : Windowed instant window width limit log) {l : List α} (hl : l.Sublist log) (first : Nat)
    (hnear : ∀ a ∈ l, first ≤ window a ∧ window a < first + width) : l.length ≤ limit := by
  rcases l with _ | ⟨a, l⟩
  · exact Nat.zero_le limit
  · have hsame : ∀ b ∈ a :: l, window b = window a := by
      intro b hb
      have hna := hnear a List.mem_cons_self
      have hnb := hnear b hb
      by_contra hne
      rcases Nat.lt_or_gt_of_ne hne with hlt | hlt
      · have := h.spaced b (hl.subset hb) a (hl.subset List.mem_cons_self) hlt
        omega
      · have := h.spaced a (hl.subset List.mem_cons_self) b (hl.subset hb) hlt
        omega
    have hall : inWindow window (a :: l) (window a) = a :: l := by
      rw [inWindow, List.filter_eq_self]
      intro b hb
      exact decide_eq_true (hsame b hb)
    have hsub : (inWindow window (a :: l) (window a)).Sublist (inWindow window log (window a)) := hl.filter _
    rw [hall] at hsub
    exact Nat.le_trans hsub.length_le (h.bounded (window a))

/-- **The sliding bound**: an interval of one width holds at most twice the limit. -/
theorem length_interval_le (h : Windowed instant window width limit log) (t : Nat) :
    (log.filter fun a => t ≤ instant a ∧ instant a < t + width).length ≤ 2 * limit := by
  -- the windows that started by `t`, and those that start in the interval
  have hearly : ((log.filter fun a => t ≤ instant a ∧ instant a < t + width).filter
      fun a => window a ≤ t).length ≤ limit := by
    refine h.length_near_le ((List.filter_sublist).trans List.filter_sublist) (t + 1 - width) fun a ha => ?_
    obtain ⟨ha, hle⟩ := List.mem_filter.mp ha
    obtain ⟨hlog, hin⟩ := List.mem_filter.mp ha
    have hinside := h.inside a hlog
    rw [decide_eq_true_eq] at hin hle
    omega
  have hlate : ((log.filter fun a => t ≤ instant a ∧ instant a < t + width).filter
      fun a => ! decide (window a ≤ t)).length ≤ limit := by
    refine h.length_near_le ((List.filter_sublist).trans List.filter_sublist) (t + 1) fun a ha => ?_
    obtain ⟨ha, hlt⟩ := List.mem_filter.mp ha
    obtain ⟨hlog, hin⟩ := List.mem_filter.mp ha
    have hinside := h.inside a hlog
    rw [decide_eq_true_eq] at hin
    rw [Bool.not_eq_true', decide_eq_false_iff_not] at hlt
    omega
  have hsplit := List.length_eq_length_filter_add (l := log.filter fun a => t ≤ instant a ∧ instant a < t + width)
    fun a => decide (window a ≤ t)
  omega

end Windowed

end TeechatOpenapi.Lib
