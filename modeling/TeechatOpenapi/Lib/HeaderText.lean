import TeechatOpenapi.Lib.Delimited
import TeechatOpenapi.Lib.Utf8

/-!
# Header blocks

A header block is a text of lines with CR LF between them and an empty line at its end.
-/

namespace TeechatOpenapi.Lib

/-- The octets of a header block. -/
def headerBlock (line : Str) (more : List Str) : Bytes := utf8 (joined '\r' '\n' line more) ++ [13, 10, 13, 10]

section Block

variable {line : Str} {more : List Str}

lemma utf8_joined (line : Str) (more : List Str) :
    utf8 (joined '\r' '\n' line more) = joined 13 10 (utf8 line) (more.map utf8) := by
  have hmore : utf8 (more.flatMap (['\r', '\n'] ++ ·)) = (more.map utf8).flatMap ([13, 10] ++ ·) := by
    induction more with
    | nil => rfl
    | cons next more ih =>
      rw [List.flatMap_cons, utf8_append, ih, utf8_append]
      rfl
  rw [joined, utf8_append, hmore]
  rfl

lemma headerBlock_eq (line : Str) (more : List Str) :
    headerBlock line more = utf8 (joined '\r' '\n' line more ++ ['\r', '\n', '\r', '\n']) := by
  rw [utf8_append]
  rfl

/-- An ASCII octet of a text is one of its characters, and the rest is cut there. -/
lemma utf8_cut_ascii {b : UInt8} (hb : b.toNat < 128) {s : Str} {u v : Bytes} (h : utf8 s = u ++ b :: v) :
    ∃ p q, s = p ++ Char.ofNat b.toNat :: q ∧ utf8 p = u ∧ utf8 q = v := by
  induction s generalizing u with
  | nil => cases u <;> cases h
  | cons c s ih =>
    have hcons : String.utf8EncodeChar c ++ utf8 s = u ++ b :: v := h
    have hlater : ∀ u', u = String.utf8EncodeChar c ++ u' → utf8 s = u' ++ b :: v →
        ∃ p q, c :: s = p ++ Char.ofNat b.toNat :: q ∧ utf8 p = u ∧ utf8 q = v := by
      rintro u' rfl hs
      obtain ⟨p, q, rfl, hp, hq⟩ := ih hs
      refine ⟨c :: p, q, rfl, ?_, hq⟩
      rw [← hp]
      rfl
    rcases List.append_eq_append_iff.mp hcons with ⟨u', hu, hs⟩ | ⟨w, hc, hw⟩
    · exact hlater u' hu hs
    · cases w with
      | nil => exact hlater [] (by rw [hc, List.append_nil, List.append_nil]) hw.symm
      | cons b' w =>
        obtain ⟨rfl, hv⟩ := List.cons.inj hw
        have hmem : b ∈ String.utf8EncodeChar c := by
          rw [hc]
          exact List.mem_append_right _ List.mem_cons_self
        have hval := ascii_mem_encodeChar hb hmem
        have hlt : c.toNat < 128 := by rwa [hval]
        have hsize : c.utf8Size = 1 :=
          Char.utf8Size_eq_one_iff.mpr (UInt32.le_iff_toNat_le.mpr (Nat.lt_succ_iff.mp hlt))
        rw [String.utf8EncodeChar_eq_singleton hsize] at hc
        obtain ⟨rfl, hnil⟩ : u = [] ∧ w = [] := by
          cases u with
          | nil => exact ⟨rfl, (List.cons.inj hc).2.symm⟩
          | cons z u => simp at hc
        subst hnil
        exact ⟨[], s, by rw [← hval, Char.ofNat_toNat]; rfl, rfl, hv.symm⟩

lemma crlf_infix_utf8 {s : Str} : [13, 10] <:+: utf8 s ↔ ['\r', '\n'] <:+: s := by
  constructor
  · rintro ⟨u, v, huv⟩
    rw [List.append_assoc] at huv
    obtain ⟨p, q, rfl, -, hq⟩ := utf8_cut_ascii (b := 13) (by decide) huv.symm
    obtain ⟨p', q', rfl, hp', -⟩ := utf8_cut_ascii (b := 10) (u := []) (by decide) hq
    rw [utf8_eq_nil.mp hp']
    exact ⟨p, q', by simp⟩
  · rintro ⟨p, q, rfl⟩
    refine ⟨utf8 p, utf8 q, ?_⟩
    rw [utf8_append, utf8_append]
    rfl

lemma not_crlf_of_return {s : Str} (h : '\r' ∉ s) : ¬ ['\r', '\n'] <:+: s := fun hwithin =>
  h (hwithin.subset List.mem_cons_self)

lemma not_crlf_octets (h : ∀ l ∈ line :: more, ¬ ['\r', '\n'] <:+: l) :
    ∀ l ∈ utf8 line :: more.map utf8, ¬ [13, 10] <:+: l := by
  intro l hl
  rw [← List.map_cons] at hl
  obtain ⟨s, hs, rfl⟩ := List.mem_map.mp hl
  exact crlf_infix_utf8.not.mpr (h s hs)

/-- **The first CR LF CR LF ends the block**, when each line is one line and none behind the first is empty. -/
theorem splitAtFirst_headerBlock (h : ∀ l ∈ line :: more, ¬ ['\r', '\n'] <:+: l) (hne : ∀ l ∈ more, l ≠ [])
    (body : Bytes) : splitAtFirst [13, 10, 13, 10] (headerBlock line more ++ body) =
      some (utf8 (joined '\r' '\n' line more), body) := by
  refine splitAtFirst_of_delimits (List.cons_ne_nil _ _) ?_ body
  rw [utf8_joined]
  refine delimits_joined (by decide) (not_crlf_octets h) ?_
  intro l hl
  obtain ⟨s, hs, rfl⟩ := List.mem_map.mp hl
  exact utf8_eq_nil.not.mpr (hne s hs)

/-- A block and what follows it, as a reader takes them apart: at the first CR LF CR LF, and at CR LF in front of it. -/
def readBlock (wire : Bytes) : Option (List Bytes × Bytes) :=
  (splitAtFirst [13, 10, 13, 10] wire).map fun parts => (pieces 13 10 parts.1, parts.2)

/-- **A block is read as it was written** exactly if no line has CR LF in it. -/
theorem readBlock_iff (hne : ∀ l ∈ more, l ≠ []) (body : Bytes) :
    readBlock (headerBlock line more ++ body) = some ((line :: more).map utf8, body) ↔
      ∀ l ∈ line :: more, ¬ ['\r', '\n'] <:+: l := by
  constructor
  · intro hread l hl hwithin
    obtain ⟨parts, -, hparts⟩ := Option.map_eq_some_iff.mp hread
    have hmem : utf8 l ∈ pieces 13 10 parts.1 := by
      rw [(Prod.mk.inj hparts).1]
      exact List.mem_map_of_mem hl
    exact not_infix_pieces parts.1 (utf8 l) hmem (crlf_infix_utf8.mpr hwithin)
  · intro hlines
    rw [readBlock, splitAtFirst_headerBlock hlines hne, Option.map_some, utf8_joined,
      pieces_joined (by decide) (not_crlf_octets hlines), List.map_cons]

lemma joined_cons (line next : Str) (more : List Str) (rest : Str) :
    joined '\r' '\n' line (next :: more) ++ rest = line ++ '\r' :: '\n' :: (joined '\r' '\n' next more ++ rest) := by
  simp [joined]

lemma lines_with_ends (line : Str) (more : List Str) :
    line ++ ['\r', '\n'] ++ more.flatMap (· ++ ['\r', '\n']) ++ ['\r', '\n'] =
      joined '\r' '\n' line more ++ ['\r', '\n', '\r', '\n'] := by
  induction more generalizing line with
  | nil => simp [joined]
  | cons next more ih =>
    rw [joined_cons, ← ih next, List.flatMap_cons]
    simp only [List.append_assoc, List.cons_append, List.nil_append]

lemma crlf_infix_append {s : Str} (hs : '\r' ∉ s) (t : Str) : ['\r', '\n'] <:+: s ++ t ↔ ['\r', '\n'] <:+: t := by
  induction s with
  | nil => rfl
  | cons c s ih =>
    obtain ⟨hc, hrest⟩ := not_or.mp (List.mem_cons.not.mp hs)
    rw [List.cons_append, List.infix_cons_iff, ih hrest]
    constructor
    · rintro (hfront | hlater)
      · exact absurd (List.cons_prefix_cons.mp hfront).1 hc
      · exact hlater
    · exact Or.inr

end Block

end TeechatOpenapi.Lib
