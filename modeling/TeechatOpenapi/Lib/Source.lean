import TeechatOpenapi.Lib.Text

/-!
# Byte sources with short reads

A reader hands out octets in the pieces it likes: a read into a buffer of `cap` octets returns between one and `cap` of
the octets that are left, and none only when there are none left (or the buffer is empty).  `short` says how much the
reads to come will take, so every pattern of short reads is one `short`.
-/

namespace TeechatOpenapi.Lib

/-- The octets that are left, and how far the reads to come go beyond their first octet. -/
structure Source where
  left : Bytes
  short : Nat → Nat

namespace Source

/-- How many octets the next read into a buffer of `cap` octets returns. -/
def amount (s : Source) (cap : Nat) : Nat := min (min cap s.left.length) (s.short 0 + 1)

/-- The source after a read of `n` octets. -/
def after (s : Source) (n : Nat) : Source := ⟨s.left.drop n, fun k => s.short (k + 1)⟩

/-- `Read::read` into a buffer of `cap` octets. -/
def read (s : Source) (cap : Nat) : Bytes × Source := (s.left.take (s.amount cap), s.after (s.amount cap))

variable {s : Source} {cap : Nat}

variable (s cap) in
lemma amount_le_left : s.amount cap ≤ s.left.length := le_trans (min_le_left _ _) (min_le_right _ _)

variable (s cap) in
lemma amount_le_cap : s.amount cap ≤ cap := le_trans (min_le_left _ _) (min_le_left _ _)

lemma amount_pos (hcap : 0 < cap) (hleft : s.left ≠ []) : 0 < s.amount cap := by
  have hlen : 0 < s.left.length := List.length_pos_of_ne_nil hleft
  unfold amount
  omega

lemma read_nil (h : s.left = []) : s.read cap = ([], s.after 0) := by
  have hzero : s.amount cap = 0 := by
    have := s.amount_le_left cap
    rw [h, List.length_nil] at this
    omega
  rw [read, hzero, List.take_zero]

lemma read_one {b : UInt8} {rest : Bytes} (h : s.left = b :: rest) : s.read 1 = ([b], s.after 1) := by
  have hone : s.amount 1 = 1 := by
    have hpos : 0 < s.amount 1 := amount_pos Nat.one_pos (by rw [h]; exact List.cons_ne_nil b rest)
    have hle := s.amount_le_cap 1
    omega
  rw [read, hone, h]
  rfl

@[simp] lemma left_after (n : Nat) : (s.after n).left = s.left.drop n := rfl

lemma length_read_lt {got : Bytes} {s' : Source} (h : s.read cap = (got, s')) (hgot : got ≠ []) :
    s'.left.length < s.left.length := by
  obtain ⟨rfl, rfl⟩ := Prod.mk.inj h
  have hpos : 0 < (s.left.take (s.amount cap)).length := List.length_pos_of_ne_nil hgot
  rw [List.length_take] at hpos
  rw [left_after, List.length_drop]
  omega

lemma read_split {got : Bytes} {s' : Source} (h : s.read cap = (got, s')) :
    s.left = got ++ s'.left ∧ got.length ≤ cap := by
  obtain ⟨rfl, rfl⟩ := Prod.mk.inj h
  refine ⟨(List.take_append_drop _ _).symm, ?_⟩
  rw [List.length_take]
  exact le_trans (min_le_left _ _) (s.amount_le_cap cap)

lemma left_of_read_nil {s' : Source} (hcap : 0 < cap) (h : s.read cap = ([], s')) : s.left = [] := by
  by_contra hleft
  have hpos := amount_pos hcap hleft
  have hgot : s.left.take (s.amount cap) = [] := (Prod.mk.inj h).1
  rcases List.take_eq_nil_iff.mp hgot with hzero | hnil
  · omega
  · exact hleft hnil

variable (s cap) in
lemma length_read_le : (s.read cap).2.left.length ≤ s.left.length := by
  change (s.left.drop (s.amount cap)).length ≤ s.left.length
  rw [List.length_drop]
  omega

end Source

end TeechatOpenapi.Lib
