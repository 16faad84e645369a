import Mathlib.Data.List.Basic

/-!
# Layouts that can be read back

Ways of writing several pieces into one list from which the pieces can be told again: joined with a separator
that the pieces of one of two joins do not hold (`intercalate_injective`), joined with a separator of several entries
(`append_infix_injective`), or one after the other with given lengths (`flatten_injective`).
-/

namespace TeechatOpenapi.Lib

variable {α : Type}

section Joins

/-- The separators of a join: those between the pieces and those inside them. -/
lemma count_intercalate [DecidableEq α] (sep : α) (x : List α) (xs : List (List α)) :
    ([sep].intercalate (x :: xs)).count sep = xs.length + (x :: xs).flatten.count sep := by
  induction xs generalizing x with
  | nil => simp
  | cons y ys ih =>
    rw [List.intercalate_cons_cons, List.count_append, List.count_append, ih y, List.count_singleton_self,
      List.flatten_cons (l := x), List.count_append, List.length_cons]
    omega

lemma append_sep_injective {sep : α} {x y r r' : List α} (hx : sep ∉ x) (hy : sep ∉ y)
    (h : x ++ sep :: r = y ++ sep :: r') : x = y ∧ r = r' := by
  induction x generalizing y with
  | nil =>
    cases y with
    | nil => exact ⟨rfl, List.tail_eq_of_cons_eq h⟩
    | cons b y =>
      have hb : sep = b := (List.cons.inj h).1
      exact absurd (hb ▸ List.mem_cons_self) hy
  | cons a x ih =>
    cases y with
    | nil =>
      have ha : a = sep := (List.cons.inj h).1
      exact absurd (ha ▸ List.mem_cons_self) hx
    | cons b y =>
      obtain ⟨rfl, htail⟩ := List.cons.inj h
      obtain ⟨rfl, hr⟩ := ih (fun hm => hx (List.mem_cons_of_mem a hm)) (fun hm => hy (List.mem_cons_of_mem a hm)) htail
      exact ⟨rfl, hr⟩

lemma intercalate_injective_of_free {sep : α} {xs ys : List (List α)} (hlen : xs.length = ys.length)
    (hx : ∀ x ∈ xs, sep ∉ x) (hy : ∀ y ∈ ys, sep ∉ y) (h : [sep].intercalate xs = [sep].intercalate ys) : xs = ys := by
  induction xs generalizing ys with
  | nil =>
    cases ys with
    | nil => rfl
    | cons y ys => simp at hlen
  | cons x xs ih =>
    cases ys with
    | nil => simp at hlen
    | cons y ys =>
      have hlen' : xs.length = ys.length := Nat.succ.inj hlen
      cases xs with
      | nil =>
        obtain rfl : ys = [] := List.eq_nil_of_length_eq_zero hlen'.symm
        rw [List.intercalate_singleton, List.intercalate_singleton] at h
        rw [h]
      | cons x' xs =>
        cases ys with
        | nil => simp at hlen'
        | cons y' ys =>
          rw [List.intercalate_cons_cons, List.intercalate_cons_cons, List.append_assoc, List.append_assoc] at h
          obtain ⟨rfl, hrest⟩ := append_sep_injective (hx x List.mem_cons_self) (hy y List.mem_cons_self) h
          have htail := ih hlen' (fun z hz => hx z (List.mem_cons_of_mem x hz))
            (fun z hz => hy z (List.mem_cons_of_mem x hz)) hrest
          rw [htail]

/-- **A join is read back from one honest side**: equally many pieces, one side free of the separator. -/
theorem intercalate_injective [DecidableEq α] {sep : α} {xs ys : List (List α)} (hlen : xs.length = ys.length)
    (hx : ∀ x ∈ xs, sep ∉ x) (h : [sep].intercalate xs = [sep].intercalate ys) : xs = ys := by
  refine intercalate_injective_of_free hlen hx ?_ h
  cases xs with
  | nil =>
    obtain rfl : ys = [] := List.eq_nil_of_length_eq_zero hlen.symm
    simp
  | cons x xs =>
    cases ys with
    | nil => simp at hlen
    | cons y ys =>
      have hcount := congrArg (List.count sep) h
      rw [count_intercalate, count_intercalate] at hcount
      have hfree : (x :: xs).flatten.count sep = 0 := by
        rw [List.count_eq_zero, List.mem_flatten]
        rintro ⟨z, hz, hsep⟩
        exact hx z hz hsep
      -- as many separators in all, so none is left for the pieces of the other side
      have hother : (y :: ys).flatten.count sep = 0 := by
        simp only [List.length_cons] at hlen
        omega
      intro z hz hsep
      exact List.count_eq_zero.mp hother (List.mem_flatten_of_mem hz hsep)

lemma sep_append_cases {a : α} {s c r r' : List α} (ha : a ∉ s) (h : a :: s ++ r = c ++ (a :: s ++ r')) :
    c = [] ∨ ∃ t, c = a :: s ++ t ∧ r = t ++ (a :: s ++ r') := by
  obtain ⟨t, hc, hr⟩ | ⟨t, hsep, hrest⟩ := List.append_eq_append_iff.mp h
  · exact Or.inr ⟨t, hc, hr⟩
  · cases c with
    | nil => exact Or.inl rfl
    | cons b c =>
      obtain ⟨-, hs⟩ := List.cons.inj hsep
      cases t with
      | nil =>
        refine Or.inr ⟨[], ?_, ?_⟩
        · rw [hsep, List.append_nil, List.append_nil]
        · rw [List.nil_append] at hrest ⊢
          exact hrest.symm
      | cons d t =>
        -- the second separator would start inside the first one
        obtain ⟨had, -⟩ := List.cons.inj hrest
        refine absurd ?_ ha
        rw [hs, had]
        exact List.mem_append_right c List.mem_cons_self

/-- **Two pieces around a separator of several entries**: read back when the separator stands in neither piece. -/
theorem append_infix_injective {a : α} {s x y r r' : List α} (ha : a ∉ s) (hx : ¬ a :: s <:+: x) (hr : ¬ a :: s <:+: r)
    (h : x ++ (a :: s ++ r) = y ++ (a :: s ++ r')) : x = y ∧ r = r' := by
  obtain ⟨c, rfl, hc⟩ | ⟨c, rfl, hc⟩ := List.append_eq_append_iff.mp h
  · obtain rfl | ⟨t, -, hrt⟩ := sep_append_cases ha hc
    · rw [List.nil_append] at hc
      exact ⟨(List.append_nil x).symm, List.append_cancel_left hc⟩
    · refine absurd ⟨t, r', ?_⟩ hr
      rw [hrt, List.append_assoc]
  · obtain rfl | ⟨t, hct, -⟩ := sep_append_cases ha hc
    · rw [List.nil_append] at hc
      exact ⟨List.append_nil y, (List.append_cancel_left hc).symm⟩
    · refine absurd ⟨y, t, ?_⟩ hx
      rw [hct, List.append_assoc]

end Joins

lemma flatten_injective {xs ys : List (List α)} (hlen : xs.map List.length = ys.map List.length)
    (h : xs.flatten = ys.flatten) : xs = ys := by
  induction xs generalizing ys with
  | nil =>
    cases ys with
    | nil => rfl
    | cons y ys => simp at hlen
  | cons x xs ih =>
    cases ys with
    | nil => simp at hlen
    | cons y ys =>
      obtain ⟨hhead, htail⟩ := List.cons.inj hlen
      obtain ⟨rfl, hrest⟩ := List.append_inj h hhead
      rw [ih htail hrest]

lemma prefix_append_cases {p a b : List α} (h : p <+: a ++ b) :
    (p <+: a ∧ p ≠ a) ∨ ∃ q, p = a ++ q ∧ q <+: b := by
  rcases List.prefix_or_prefix_of_prefix h (List.prefix_append a b) with hp | ⟨q, rfl⟩
  · by_cases heq : p = a
    · exact Or.inr ⟨[], by rw [heq, List.append_nil], List.nil_prefix⟩
    · exact Or.inl ⟨hp, heq⟩
  · exact Or.inr ⟨q, rfl, (List.prefix_append_right_inj a).mp h⟩

end TeechatOpenapi.Lib
