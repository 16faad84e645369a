import Mathlib.Data.List.Infix
import Mathlib.Tactic.Common

/-!
# Lists that are cut at a delimiter

A list is cut at the first place where a delimiter starts.  Whether a delimiter is the first one does not depend on what
stands behind it (`Delimits`), so a cut stays where it is when the list goes on.
-/

namespace TeechatOpenapi.Lib

variable {α : Type}

/-- A delimiter behind `a` is the first one: none starts in `a`. -/
def Delimits (d a : List α) : Prop := ¬ d <:+: (a ++ d).dropLast

section Delimits

variable {d a b : List α} {x : α}

lemma delimits_nil (hd : d ≠ []) : Delimits d [] := by
  intro h
  have hlen := h.length_le
  have hpos : 0 < d.length := List.length_pos_of_ne_nil hd
  rw [List.nil_append, List.length_dropLast] at hlen
  omega

lemma delimits_cons (hd : d ≠ []) : Delimits d (x :: a) ↔ ¬ d <+: x :: (a ++ d) ∧ Delimits d a := by
  have hne : a ++ d ≠ [] := List.append_ne_nil_of_right_ne_nil a hd
  have hdrop : ((x :: a) ++ d).dropLast = x :: (a ++ d).dropLast := by
    rw [List.cons_append, List.dropLast_cons_of_ne_nil hne]
  have hfront : d <+: x :: (a ++ d).dropLast ↔ d <+: x :: (a ++ d) := by
    rw [← List.dropLast_cons_of_ne_nil hne]
    constructor
    · exact fun h => h.trans ( List.dropLast_prefix _)
    · -- the delimiter is shorter than the whole, so the last element is not needed
      intro h
      refine List.prefix_of_prefix_length_le h ( List.dropLast_prefix _) ?_
      rw [List.length_dropLast, List.length_cons, List.length_append]
      omega
  unfold Delimits
  rw [hdrop, List.infix_cons_iff, hfront, not_or]

lemma front_iff : d <+: x :: (a ++ d ++ b) ↔ d <+: x :: (a ++ d) := by
  constructor
  · intro h
    refine List.prefix_of_prefix_length_le h ⟨b, rfl⟩ ?_
    rw [List.length_cons, List.length_append]
    omega
  · intro h
    exact h.trans ⟨b, rfl⟩

lemma Delimits.free (hd : d ≠ []) (h : Delimits d a) : ¬ d <:+: a := by
  intro hwithin
  have hfront : a <+: (a ++ d).dropLast := by
    rw [List.dropLast_append_of_ne_nil hd]
    exact List.prefix_append _ _
  exact h (hwithin.trans hfront.isInfix)

end Delimits

variable [DecidableEq α]

/-- What stands in front of the first delimiter, and what stands behind it. -/
def splitAtFirst (d : List α) : List α → Option (List α × List α)
  | [] => if d = [] then some ([], []) else none
  | x :: s =>
    if d <+: x :: s then some ([], (x :: s).drop d.length)
    else (splitAtFirst d s).map fun parts => (x :: parts.1, parts.2)

section Cut

variable {d a b s : List α}

/-- **Where a list is cut.** -/
theorem splitAtFirst_eq_some (hd : d ≠ []) : splitAtFirst d s = some (a, b) ↔ s = a ++ d ++ b ∧ Delimits d a := by
  induction s generalizing a with
  | nil =>
    rw [splitAtFirst, if_neg hd]
    constructor
    · intro h
      cases h
    · rintro ⟨h, -⟩
      have hparts := List.append_eq_nil_iff.mp h.symm
      exact absurd (List.append_eq_nil_iff.mp hparts.1).2 hd
  | cons x s ih =>
    rw [splitAtFirst]
    by_cases hfront : d <+: x :: s
    · rw [if_pos hfront]
      obtain ⟨rest, hrest⟩ := hfront
      rw [← hrest, List.drop_left]
      constructor
      · intro h
        obtain ⟨rfl, rfl⟩ := Prod.mk.inj (Option.some.inj h)
        exact ⟨rfl, delimits_nil hd⟩
      · rintro ⟨h, hdelim⟩
        cases a with
        | nil => rw [List.append_cancel_left h]
        | cons y a =>
          refine absurd ?_ ((delimits_cons hd).mp hdelim).1
          rw [← front_iff (b := b), ← List.cons_append, ← List.cons_append, ← h]
          exact ⟨rest, rfl⟩
    · rw [if_neg hfront, Option.map_eq_some_iff]
      constructor
      · rintro ⟨⟨a', b'⟩, hcut, hparts⟩
        obtain ⟨rfl, rfl⟩ := Prod.mk.inj hparts
        obtain ⟨rfl, hdelim⟩ := ih.mp hcut
        exact ⟨rfl, (delimits_cons hd).mpr ⟨fun h => hfront (front_iff.mpr h), hdelim⟩⟩
      · rintro ⟨h, hdelim⟩
        cases a with
        | nil => exact absurd ⟨b, h.symm⟩ hfront
        | cons y a =>
          obtain ⟨rfl, rfl⟩ := List.cons.inj h
          exact ⟨(a, b), ih.mpr ⟨rfl, ((delimits_cons hd).mp hdelim).2⟩, rfl⟩

lemma splitAtFirst_of_delimits (hd : d ≠ []) (h : Delimits d a) (b : List α) :
    splitAtFirst d (a ++ d ++ b) = some (a, b) :=
  (splitAtFirst_eq_some hd).mpr ⟨rfl, h⟩

/-- **There is no cut exactly when the delimiter does not occur.** -/
theorem splitAtFirst_eq_none (hd : d ≠ []) : splitAtFirst d s = none ↔ ¬ d <:+: s := by
  induction s with
  | nil =>
    rw [splitAtFirst, if_neg hd, List.infix_nil]
    exact ⟨fun _ => hd, fun _ => rfl⟩
  | cons x s ih =>
    rw [splitAtFirst, List.infix_cons_iff]
    by_cases hfront : d <+: x :: s
    · simp [hfront]
    · simp [hfront, ih]

lemma length_splitAtFirst_lt (hd : d ≠ []) (h : splitAtFirst d s = some (a, b)) : b.length < s.length := by
  have hpos : 0 < d.length := List.length_pos_of_ne_nil hd
  rw [((splitAtFirst_eq_some hd).mp h).1, List.length_append, List.length_append]
  omega

end Cut

/-- What stands between the delimiters `x y`. -/
def pieces (x y : α) (s : List α) : List (List α) :=
  match _h : splitAtFirst [x, y] s with
  | none => [s]
  | some (a, b) => a :: pieces x y b
termination_by s.length
decreasing_by exact length_splitAtFirst_lt (List.cons_ne_nil _ _) _h

/-- Lines with the delimiter `x y` between them. -/
def joined (x y : α) (line : List α) (more : List (List α)) : List α := line ++ more.flatMap ([x, y] ++ ·)

section Lines

variable {x y : α} {s line : List α}

lemma pieces_of_none (h : splitAtFirst [x, y] s = none) : pieces x y s = [s] := by
  rw [pieces]
  split
  next => rfl
  next hcut =>
    rw [h] at hcut
    cases hcut

lemma pieces_of_some {a b : List α} (h : splitAtFirst [x, y] s = some (a, b)) : pieces x y s = a :: pieces x y b := by
  rw [pieces]
  split
  next hcut =>
    rw [h] at hcut
    cases hcut
  next a' b' hcut =>
    rw [h] at hcut
    obtain ⟨rfl, rfl⟩ := Prod.mk.inj (Option.some.inj hcut)
    rfl

lemma not_infix_pieces (s : List α) : ∀ l ∈ pieces x y s, ¬ [x, y] <:+: l := by
  fun_induction pieces x y s with
  | case1 s hnone =>
    intro l hl
    rw [List.mem_singleton.mp hl]
    exact (splitAtFirst_eq_none (List.cons_ne_nil _ _)).mp hnone
  | case2 s a b hsome ih =>
    intro l hl
    rcases List.mem_cons.mp hl with rfl | hl
    · exact ((splitAtFirst_eq_some (List.cons_ne_nil _ _)).mp hsome).2.free (List.cons_ne_nil _ _)
    · exact ih l hl

omit [DecidableEq α] in
lemma delimits_of_free (hxy : x ≠ y) (h : ¬ [x, y] <:+: line) : Delimits [x, y] line := by
  have hdrop : (line ++ [x, y]).dropLast = line ++ [x] := by
    rw [List.dropLast_append_of_ne_nil (List.cons_ne_nil _ _)]
    rfl
  unfold Delimits
  rw [hdrop, List.infix_concat_iff]
  rintro (hsuffix | hwithin)
  · have hlast := hsuffix.getLast (List.cons_ne_nil _ _)
    simp only [List.getLast_append_of_ne_nil, ne_eq, reduceCtorEq, not_false_eq_true, List.getLast_singleton,
      List.getLast_cons] at hlast
    exact hxy hlast.symm
  · exact h hwithin

omit [DecidableEq α] in
/-- In front of a line that is not empty no delimiter ends. -/
lemma front_line (hxy : x ≠ y) (h : ¬ [x, y] <:+: line) (hne : line ≠ []) (rest : List α) :
    ¬ [x, y] <+: line ++ x :: y :: rest := by
  cases line with
  | nil => exact absurd rfl hne
  | cons z line =>
    have hfront := ((delimits_cons (List.cons_ne_nil _ _)).mp (delimits_of_free hxy h)).1
    have hassoc : z :: line ++ x :: y :: rest = z :: (line ++ [x, y] ++ rest) := by
      rw [List.append_assoc]
      rfl
    rwa [hassoc, front_iff]

omit [DecidableEq α] in
/-- A line in front of a text that does not start with a delimiter has no doubled delimiter. -/
lemma delimits_line (hxy : x ≠ y) (h : ¬ [x, y] <:+: line) {tail : List α} (htail : Delimits [x, y, x, y] tail)
    (hfront : ¬ [x, y] <+: tail ++ [x, y, x, y]) : Delimits [x, y, x, y] (line ++ x :: y :: tail) := by
  have hd : [x, y, x, y] ≠ [] := List.cons_ne_nil _ _
  induction line with
  | nil =>
    rw [List.nil_append, delimits_cons hd, delimits_cons hd]
    refine ⟨fun hcut => ?_, fun hcut => ?_, htail⟩
    · exact hfront ((List.prefix_cons_inj y).mp ((List.prefix_cons_inj x).mp hcut))
    · exact hxy (List.cons_prefix_cons.mp hcut).1
  | cons z line ih =>
    have hline := (delimits_cons (List.cons_ne_nil _ _)).mp (delimits_of_free hxy h)
    rw [List.cons_append, delimits_cons hd]
    refine ⟨fun hcut => hline.1 ?_, ih fun hwithin => h (List.infix_cons hwithin)⟩
    have hshort : [x, y] <+: z :: (line ++ [x, y] ++ (tail ++ [x, y, x, y])) := by
      have hassoc : line ++ [x, y] ++ (tail ++ [x, y, x, y]) = line ++ x :: y :: tail ++ [x, y, x, y] := by simp
      rw [hassoc]
      exact List.IsPrefix.trans ⟨[x, y], rfl⟩ hcut
    exact front_iff.mp hshort

omit [DecidableEq α] in
/-- **A doubled delimiter is first found behind the last line.** -/
theorem delimits_joined (hxy : x ≠ y) {more : List (List α)} (h : ∀ l ∈ line :: more, ¬ [x, y] <:+: l)
    (hne : ∀ l ∈ more, l ≠ []) : Delimits [x, y, x, y] (joined x y line more) := by
  have hd : [x, y, x, y] ≠ [] := List.cons_ne_nil _ _
  induction more generalizing line with
  | nil =>
    rw [joined, List.flatMap_nil, List.append_nil]
    have hline := delimits_of_free hxy (h line List.mem_cons_self)
    clear h hne
    induction line with
    | nil => exact delimits_nil hd
    | cons z line ih =>
      obtain ⟨hfront, hrest⟩ := (delimits_cons (List.cons_ne_nil _ _)).mp hline
      refine (delimits_cons hd).mpr ⟨fun hcut => hfront ?_, ih hrest⟩
      have hshort : [x, y] <+: z :: (line ++ [x, y] ++ [x, y]) := by
        rw [List.append_assoc]
        exact List.IsPrefix.trans ⟨[x, y], rfl⟩ hcut
      exact front_iff.mp hshort
  | cons next more ih =>
    obtain ⟨hline, hmore⟩ := List.forall_mem_cons.mp h
    obtain ⟨hnext, hrest⟩ := List.forall_mem_cons.mp hne
    have hjoined : joined x y line (next :: more) = line ++ x :: y :: joined x y next more := by
      simp [joined]
    have hfront : ∀ more : List (List α), ∃ rest,
        joined x y next more ++ [x, y, x, y] = next ++ x :: y :: rest := by
      intro more
      cases more with
      | nil => exact ⟨[x, y], by simp [joined]⟩
      | cons l more => exact ⟨_, by simp only [joined, List.flatMap_cons, List.append_assoc]; rfl⟩
    obtain ⟨rest, heq⟩ := hfront more
    rw [hjoined]
    refine delimits_line hxy hline (ih hmore hrest) ?_
    rw [heq]
    exact front_line hxy (hmore next List.mem_cons_self) hnext rest

/-- **The cuts give the lines back.** -/
theorem pieces_joined (hxy : x ≠ y) {more : List (List α)} (h : ∀ l ∈ line :: more, ¬ [x, y] <:+: l) :
    pieces x y (joined x y line more) = line :: more := by
  have hd : [x, y] ≠ [] := List.cons_ne_nil _ _
  induction more generalizing line with
  | nil =>
    rw [joined, List.flatMap_nil, List.append_nil]
    exact pieces_of_none ((splitAtFirst_eq_none hd).mpr (h line List.mem_cons_self))
  | cons next more ih =>
    obtain ⟨hline, hmore⟩ := List.forall_mem_cons.mp h
    have hjoined : joined x y line (next :: more) = line ++ [x, y] ++ joined x y next more := by
      simp [joined]
    rw [hjoined, pieces_of_some (splitAtFirst_of_delimits hd (delimits_of_free hxy hline) _), ih hmore]

end Lines

end TeechatOpenapi.Lib
