import TeechatOpenapi.Lib.Source

/-!
# Reading until a decision

A buffer of `cap` octets is filled read by read, and after each read a decision is tried on what is there.  A decision
is stable when octets that come behind it do not change it.
-/

namespace TeechatOpenapi.Lib

variable {ρ : Type}

/-- Octets that come behind a decision do not change it. -/
def Stable (verdict : Bytes → Option ρ) : Prop := ∀ b c r, verdict b = some r → verdict (b ++ c) = some r

/-- How reading ends: with a decision, with a full buffer, or with the stream. -/
inductive ReadEnd (ρ : Type) where
  | decided (r : ρ)
  | full
  | ended

/-- Read into what is left of the buffer, and decide after each read. -/
def readUntil (verdict : Bytes → Option ρ) (cap : Nat) (buffer : Bytes) (s : Source) : ReadEnd ρ :=
  match _h : s.read (cap - buffer.length) with
  | ([], _) => .ended
  | (b :: got, s') =>
    match verdict (buffer ++ b :: got) with
    | some r => .decided r
    | none =>
      if cap ≤ (buffer ++ b :: got).length then .full else readUntil verdict cap (buffer ++ b :: got) s'
termination_by s.left.length
decreasing_by exact Source.length_read_lt _h (List.cons_ne_nil _ _)

/-- How reading a stream ends, whatever the reads. -/
def settle (verdict : Bytes → Option ρ) (cap : Nat) (stream : Bytes) : ReadEnd ρ :=
  match verdict (stream.take cap) with
  | some r => .decided r
  | none => if cap ≤ stream.length then .full else .ended

variable {verdict : Bytes → Option ρ} {cap : Nat}

lemma settle_eq_decided {stream : Bytes} {r : ρ} (h : settle verdict cap stream = .decided r) :
    verdict (stream.take cap) = some r := by
  unfold settle at h
  split at h
  · next r' hr =>
    cases h
    exact hr
  · split at h
    · cases h
    · cases h

lemma settle_eq_full {stream : Bytes} (h : settle verdict cap stream = .full) :
    verdict (stream.take cap) = none ∧ cap ≤ stream.length := by
  unfold settle at h
  split at h
  · cases h
  · next hnone =>
    split at h
    · next hlong => exact ⟨hnone, hlong⟩
    · cases h

/-- A decision on a beginning that fits the buffer is the one on the buffer. -/
lemma Stable.take (hstable : Stable verdict) {b rest : Bytes} {r : ρ} (hfits : b.length ≤ cap)
    (h : verdict b = some r) : verdict ((b ++ rest).take cap) = some r := by
  rw [List.take_append, List.take_of_length_le hfits]
  exact hstable b _ r h

/-- **What reading ends with**, when there is something to read or nothing was decided. -/
theorem readUntil_eq (hstable : Stable verdict) {buffer : Bytes} {s : Source} (hroom : buffer.length < cap)
    (hopen : s.left ≠ [] ∨ verdict buffer = none) :
    readUntil verdict cap buffer s = settle verdict cap (buffer ++ s.left) := by
  fun_induction readUntil verdict cap buffer s with
  | case1 buffer s s' hread =>
    have hleft : s.left = [] := Source.left_of_read_nil (by omega) hread
    have hnone : verdict buffer = none := hopen.resolve_left (not_not.mpr hleft)
    rw [hleft, List.append_nil, settle, List.take_of_length_le (by omega), hnone]
    dsimp only
    rw [if_neg (by omega)]
  | case2 buffer s b got s' hread r hr =>
    obtain ⟨hleft, hfits⟩ := Source.read_split hread
    have hlen : (buffer ++ b :: got).length ≤ cap := by
      rw [List.length_append]
      omega
    rw [hleft, ← List.append_assoc, settle, hstable.take hlen hr]
  | case3 buffer s b got s' hread hr hfull =>
    obtain ⟨hleft, hfits⟩ := Source.read_split hread
    have hlen : (buffer ++ b :: got).length = cap := by
      rw [List.length_append] at hfull ⊢
      omega
    rw [hleft, ← List.append_assoc, settle, ← hlen, List.take_left, hr]
    dsimp only
    rw [if_pos (List.prefix_append (buffer ++ b :: got) s'.left).length_le]
  | case4 buffer s b got s' hread hr hfull ih =>
    obtain ⟨hleft, -⟩ := Source.read_split hread
    rw [hleft, ← List.append_assoc]
    exact ih (by omega) (Or.inr hr)

/-- **Where the reads end does not matter.** -/
theorem readUntil_congr (hstable : Stable verdict) (hcap : 0 < cap) {s s' : Source} (h : s.left = s'.left) :
    readUntil verdict cap [] s = readUntil verdict cap [] s' := by
  by_cases hleft : s.left = []
  · rw [readUntil, Source.read_nil hleft, readUntil, Source.read_nil (h ▸ hleft)]
  · rw [readUntil_eq hstable hcap (Or.inl hleft), readUntil_eq hstable hcap (Or.inl (h ▸ hleft)), h]

end TeechatOpenapi.Lib
