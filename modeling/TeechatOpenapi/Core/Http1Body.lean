import TeechatOpenapi.Core.Api
import TeechatOpenapi.Lib.Source

/-!
# Chunked bodies (`openapi-core/src/http1_body.rs`)

`copyChunked` copies a chunked body from a reader to a writer.  The reader is a `Source`; the writer takes what it is
given.  Errors of the connection itself are left out: the reader ends, it does not fail.
-/

namespace TeechatOpenapi.Core

open Lib

/-- The reader, what the writer has taken, and the count `total`. -/
structure CopyState where
  reader : Source
  out : Bytes
  total : UInt64

/-- A line ends with CRLF. -/
def endsCrlf (line : Bytes) : Prop := 2 ≤ line.length ∧ line.drop (line.length - 2) = [13, 10]

instance : DecidablePred endsCrlf := fun _ => inferInstanceAs (Decidable (_ ∧ _))

/-- The loop of `read_line`. -/
def readLineLoop (line : Bytes) (s : CopyState) : Except ApiError Bytes × CopyState :=
  match _h : s.reader.read 1 with
  | ([], reader) =>
    if line = [] then (.error (.upstream "unexpected EOF reading header line"), { s with reader })
    else (.ok line, { s with reader })
  | (b :: _, reader) =>
    if endsCrlf (line ++ [b]) then (.ok ((line ++ [b]).take ((line ++ [b]).length - 2)), { s with reader })
    else if 8192 < (line ++ [b]).length then (.error (.upstream "header line too long"), { s with reader })
    else readLineLoop (line ++ [b]) { s with reader }
termination_by s.reader.left.length
decreasing_by exact Source.length_read_lt _h (List.cons_ne_nil _ _)

def readLine : Op CopyState ApiError Str := do
  let line ← readLineLoop []
  Op.lift (mapErr .upstream (stringFromUtf8 line))

/-- The inner loop of `copy_chunked`: `remaining` octets of a chunk, through a buffer of `bufLen` octets. -/
def copyData (bufLen remaining : Nat) (s : CopyState) : Except ApiError Unit × CopyState :=
  if _h : remaining = 0 then (.ok (), s)
  else
    match s.reader.read (min bufLen remaining) with
    | ([], reader) => (.error (.upstream "upstream closed mid-chunk"), { s with reader })
    | (b :: got, reader) =>
      copyData bufLen (remaining - (b :: got).length)
        ⟨reader, s.out ++ b :: got, s.total + UInt64.ofNat (b :: got).length⟩
termination_by remaining
decreasing_by
  simp only [List.length_cons]
  omega

/-- One turn of the loop of `copy_chunked`: `some` is the count it returns, `none` is another turn. -/
def copyStep (bufLen : Nat) : Op CopyState ApiError (Option UInt64) := do
  let sizeLine ← readLine
  if trim sizeLine = [] then return none
  else
    let size ← Op.lift (mapErr (fun e => .upstream ("invalid chunk size: ".toList ++ e))
      (fromStrRadix16 (trim ((trim sizeLine).takeWhile (· ≠ ';')))))
    if size = 0 then
      let _ ← readLine
      let s ← Op.get
      return some s.total
    else
      copyData bufLen size
      let trailer ← readLine
      Op.lift (failIf (trailer ≠ [] ∧ trailer ≠ ['\r']) (.upstream "expected chunk CRLF"))
      return none

/-- The reader has no more left than before. -/
def CopyState.Drains (s s' : CopyState) : Prop := s'.reader.left.length ≤ s.reader.left.length

lemma CopyState.Drains.refl (s : CopyState) : s.Drains s := le_refl _

/-- A line takes at least one octet, unless the reader has ended. -/
lemma readLineLoop_drains (line : Bytes) (s : CopyState) :
    (readLineLoop line s).2.reader.left.length < s.reader.left.length ∨
      (s.Drains (readLineLoop line s).2 ∧ (line = [] → ∃ e, (readLineLoop line s).1 = .error e)) := by
  fun_induction readLineLoop line s with
  | case1 s reader h =>
    right
    refine ⟨?_, fun _ => ⟨_, rfl⟩⟩
    have := s.reader.length_read_le 1
    rwa [h] at this
  | case2 line s reader h hline =>
    right
    refine ⟨?_, fun hnil => absurd hnil hline⟩
    have := s.reader.length_read_le 1
    rwa [h] at this
  | case3 line s b tail reader h hcrlf => exact Or.inl (Source.length_read_lt h (List.cons_ne_nil _ _))
  | case4 line s b tail reader h hcrlf hlong => exact Or.inl (Source.length_read_lt h (List.cons_ne_nil _ _))
  | case5 line s b tail reader h hcrlf hlong ih =>
    left
    have hlt := Source.length_read_lt h (List.cons_ne_nil b tail)
    rcases ih with ih | ⟨ih, -⟩
    · exact lt_trans ih hlt
    · exact lt_of_le_of_lt ih hlt

lemma readLine_shrinks {s s' : CopyState} {line : Str} (h : readLine s = (.ok line, s')) :
    s'.reader.left.length < s.reader.left.length := by
  obtain ⟨l, s₁, hloop, h⟩ := Op.bind_eq_ok.mp h
  obtain ⟨-, rfl⟩ := Prod.mk.inj h
  rcases readLineLoop_drains [] s with hlt | ⟨-, herr⟩
  · rwa [hloop] at hlt
  · obtain ⟨e, he⟩ := herr rfl
    rw [hloop] at he
    cases he

lemma copyData_drains (bufLen remaining : Nat) : Op.Within CopyState.Drains (copyData bufLen remaining) := by
  intro s
  fun_induction copyData bufLen remaining s with
  | case1 s => exact CopyState.Drains.refl s
  | case2 remaining s hpos reader h =>
    have := s.reader.length_read_le (min bufLen remaining)
    rwa [h] at this
  | case3 remaining s hpos b got reader h ih =>
    exact le_trans ih (le_of_lt (Source.length_read_lt h (List.cons_ne_nil b got)))

lemma copyStep_shrinks {bufLen : Nat} {s s' : CopyState} (h : copyStep bufLen s = (.ok none, s')) :
    s'.reader.left.length < s.reader.left.length := by
  obtain ⟨sizeLine, s₁, hline, h⟩ := Op.bind_eq_ok.mp h
  have hlt := readLine_shrinks hline
  refine lt_of_le_of_lt ?_ hlt
  split at h
  · obtain ⟨-, rfl⟩ := Prod.mk.inj h
    exact le_refl _
  · obtain ⟨size, s₂, hsize, h⟩ := Op.bind_eq_ok.mp h
    obtain ⟨-, rfl⟩ := Prod.mk.inj hsize
    split at h
    · obtain ⟨_, s₃, -, h⟩ := Op.bind_eq_ok.mp h
      obtain ⟨_, s₄, -, h⟩ := Op.bind_eq_ok.mp h
      cases (Prod.mk.inj h).1
    · obtain ⟨_, s₃, hdata, h⟩ := Op.bind_eq_ok.mp h
      obtain ⟨trailer, s₄, htrailer, h⟩ := Op.bind_eq_ok.mp h
      obtain ⟨_, s₅, hcheck, h⟩ := Op.bind_eq_ok.mp h
      obtain ⟨-, rfl⟩ := Prod.mk.inj hcheck
      obtain ⟨-, rfl⟩ := Prod.mk.inj h
      have hle := copyData_drains bufLen size s₁
      rw [hdata] at hle
      exact le_trans (le_of_lt (readLine_shrinks htrailer)) hle

/-- `copy_chunked` with a buffer of `bufLen` octets. -/
def copyChunked (bufLen : Nat) (s : CopyState) : Except ApiError UInt64 × CopyState :=
  match _h : copyStep bufLen s with
  | (.error e, s') => (.error e, s')
  | (.ok (some total), s') => (.ok total, s')
  | (.ok none, s') => copyChunked bufLen s'
termination_by s.reader.left.length
decreasing_by exact copyStep_shrinks _h

lemma copyChunked_of_error {bufLen : Nat} {s s' : CopyState} {e : ApiError}
    (h : copyStep bufLen s = (.error e, s')) : copyChunked bufLen s = (.error e, s') := by
  rw [copyChunked]
  split <;> simp_all

lemma copyChunked_of_some {bufLen : Nat} {s s' : CopyState} {total : UInt64}
    (h : copyStep bufLen s = (.ok (some total), s')) : copyChunked bufLen s = (.ok total, s') := by
  rw [copyChunked]
  split <;> simp_all

lemma copyChunked_of_none {bufLen : Nat} {s s' : CopyState} (h : copyStep bufLen s = (.ok none, s')) :
    copyChunked bufLen s = copyChunked bufLen s' := by
  rw [copyChunked]
  split <;> simp_all

lemma not_endsCrlf {line : Bytes} {b : UInt8} (hb : b ≠ 10) : ¬ endsCrlf (line ++ [b]) := by
  rintro ⟨hlen, hdrop⟩
  have hlast := congrArg List.getLast? hdrop
  rw [List.getLast?_drop, if_neg (by omega), List.getLast?_concat] at hlast
  exact hb (Option.some.inj hlast)

lemma endsCrlf_crlf (line : Bytes) : endsCrlf (line ++ [13] ++ [10]) := by
  have hdrop : (line ++ [13] ++ [10]).length - 2 = line.length := by
    simp only [List.length_append, List.length_cons, List.length_nil]
    omega
  refine ⟨?_, ?_⟩
  · simp only [List.length_append, List.length_cons, List.length_nil]
    omega
  · rw [hdrop, List.append_assoc, List.drop_left]
    rfl

lemma cut_crlf {r : Bytes} (h : r <+: [13, 10]) (hne : r ≠ [13, 10]) : r = [] ∨ r = [13] := by
  rcases r with _ | ⟨a, _ | ⟨b, r⟩⟩
  · exact Or.inl rfl
  · obtain ⟨rfl, -⟩ := List.cons_prefix_cons.mp h
    exact Or.inr rfl
  · obtain ⟨rfl, h₁⟩ := List.cons_prefix_cons.mp h
    obtain ⟨rfl, h₂⟩ := List.cons_prefix_cons.mp h₁
    rw [List.prefix_nil.mp h₂] at hne
    exact absurd rfl hne

/-- The state after the next octet. -/
def CopyState.next (s : CopyState) : CopyState := { s with reader := s.reader.after 1 }

section Lines

variable {line : Bytes} {s : CopyState} {b : UInt8} {rest : Bytes}

variable (line) in
lemma readLineLoop_nil (h : s.reader.left = []) :
    readLineLoop line s = (if line = [] then .error (.upstream "unexpected EOF reading header line") else .ok line,
      { s with reader := s.reader.after 0 }) := by
  rw [readLineLoop]
  split
  · next reader hread =>
    rw [Source.read_nil h] at hread
    obtain ⟨-, rfl⟩ := Prod.mk.inj hread
    split <;> rfl
  · next hread =>
    rw [Source.read_nil h] at hread
    cases (Prod.mk.inj hread).1

lemma readLineLoop_cons (h : s.reader.left = b :: rest) :
    readLineLoop line s =
      if endsCrlf (line ++ [b]) then (.ok ((line ++ [b]).take ((line ++ [b]).length - 2)), s.next)
      else if 8192 < (line ++ [b]).length then (.error (.upstream "header line too long"), s.next)
      else readLineLoop (line ++ [b]) s.next := by
  rw [readLineLoop]
  split
  · next hread =>
    rw [Source.read_one h] at hread
    cases (Prod.mk.inj hread).1
  · next hread =>
    rw [Source.read_one h] at hread
    obtain ⟨hb, rfl⟩ := Prod.mk.inj hread
    obtain ⟨rfl, -⟩ := List.cons.inj hb
    rfl

lemma readLineLoop_push (h : s.reader.left = b :: rest) (hb : b ≠ 10) (hlen : line.length < 8192) :
    readLineLoop line s = readLineLoop (line ++ [b]) s.next := by
  rw [readLineLoop_cons h, if_neg (not_endsCrlf hb), if_neg]
  simp only [List.length_append, List.length_cons, List.length_nil]
  omega

lemma left_next (h : s.reader.left = b :: rest) : s.next.reader.left = rest := by
  change (s.reader.left.drop 1) = rest
  rw [h]
  rfl

lemma readLineLoop_crlf {l : Bytes} (h : s.reader.left = l ++ 13 :: 10 :: rest) (hl : 10 ∉ l)
    (hlen : (line ++ l).length ≤ 8190) :
    ∃ short, readLineLoop line s = (.ok (line ++ l), { s with reader := ⟨rest, short⟩ }) := by
  induction l generalizing line s with
  | nil =>
    simp only [List.nil_append, List.append_nil] at h hlen ⊢
    have h₁ := left_next h
    have h₂ : s.next.next.reader = ⟨rest, s.next.next.reader.short⟩ := by
      rw [← left_next h₁]
    refine ⟨s.next.next.reader.short, ?_⟩
    rw [readLineLoop_push h (by decide) (by omega), readLineLoop_cons h₁, if_pos (endsCrlf_crlf line), ← h₂]
    have htake : (line ++ [13] ++ [10]).length - 2 = line.length := by
      simp only [List.length_append, List.length_cons, List.length_nil]
      omega
    rw [htake, List.append_assoc, List.take_left]
    rfl
  | cons b l ih =>
    have hb : b ≠ 10 := fun heq => hl (heq ▸ List.mem_cons_self)
    have happ : line ++ b :: l = line ++ [b] ++ l := by rw [List.append_assoc, List.singleton_append]
    rw [happ] at hlen ⊢
    rw [readLineLoop_push h hb (by simp only [List.length_append] at hlen; omega)]
    exact ih (left_next h) (fun hm => hl (List.mem_cons_of_mem b hm)) hlen

lemma readLineLoop_cut {l : Bytes} (h : s.reader.left = l) (hl : 10 ∉ l) (hne : line ++ l ≠ [])
    (hlen : (line ++ l).length ≤ 8192) :
    ∃ short, readLineLoop line s = (.ok (line ++ l), { s with reader := ⟨[], short⟩ }) := by
  induction l generalizing line s with
  | nil =>
    rw [List.append_nil] at hne ⊢
    refine ⟨fun k => s.reader.short (k + 1), ?_⟩
    rw [readLineLoop_nil _ h, if_neg hne, Source.after, h]
    rfl
  | cons b l ih =>
    have hb : b ≠ 10 := fun heq => hl (heq ▸ List.mem_cons_self)
    have happ : line ++ b :: l = line ++ [b] ++ l := by rw [List.append_assoc, List.singleton_append]
    rw [happ] at hlen hne ⊢
    rw [readLineLoop_push h hb (by simp only [List.length_append, List.length_cons] at hlen; omega)]
    exact ih (left_next h) (fun hm => hl (List.mem_cons_of_mem b hm)) hne hlen

lemma lf_notMem_utf8 {t : Str} (h : '\n' ∉ t) : 10 ∉ utf8 t := fun hm => h (newline_mem_utf8 hm)

lemma readLine_crlf {t : Str} (h : s.reader.left = utf8 t ++ 13 :: 10 :: rest) (ht : '\n' ∉ t)
    (hlen : (utf8 t).length ≤ 8190) : ∃ short, readLine s = (.ok t, { s with reader := ⟨rest, short⟩ }) := by
  obtain ⟨short, hloop⟩ : ∃ short, readLineLoop [] s = (.ok (utf8 t), { s with reader := ⟨rest, short⟩ }) :=
    readLineLoop_crlf h (lf_notMem_utf8 ht) hlen
  refine ⟨short, Op.bind_eq_ok.mpr ⟨_, _, hloop, ?_⟩⟩
  rw [stringFromUtf8_utf8]
  rfl

lemma readLine_cut {t : Str} (h : s.reader.left = utf8 t) (ht : '\n' ∉ t) (hne : t ≠ [])
    (hlen : (utf8 t).length ≤ 8192) : ∃ short, readLine s = (.ok t, { s with reader := ⟨[], short⟩ }) := by
  have hne' : [] ++ utf8 t ≠ [] := fun hnil => hne (utf8_eq_nil.mp hnil)
  obtain ⟨short, hloop⟩ : ∃ short, readLineLoop [] s = (.ok (utf8 t), { s with reader := ⟨[], short⟩ }) :=
    readLineLoop_cut h (lf_notMem_utf8 ht) hne' hlen
  refine ⟨short, Op.bind_eq_ok.mpr ⟨_, _, hloop, ?_⟩⟩
  rw [stringFromUtf8_utf8]
  rfl

lemma readLine_eof (h : s.reader.left = []) : ∃ e s', readLine s = (.error e, s') := by
  have hloop := readLineLoop_nil [] h
  rw [if_pos rfl] at hloop
  exact ⟨_, _, Op.bind_eq_error.mpr (Or.inl hloop)⟩

end Lines

section Data

variable {bufLen : Nat} {s : CopyState}

lemma copyData_read {remaining : Nat} (hpos : 0 < remaining) (hbuf : 0 < bufLen) (hleft : s.reader.left ≠ []) :
    ∃ n, 0 < n ∧ n ≤ remaining ∧ n ≤ s.reader.left.length ∧ copyData bufLen remaining s =
      copyData bufLen (remaining - n)
        ⟨s.reader.after n, s.out ++ s.reader.left.take n, s.total + UInt64.ofNat n⟩ := by
  have hn : 0 < s.reader.amount (min bufLen remaining) := Source.amount_pos (by omega) hleft
  have hle := s.reader.amount_le_left (min bufLen remaining)
  have hcap := s.reader.amount_le_cap (min bufLen remaining)
  refine ⟨s.reader.amount (min bufLen remaining), hn, by omega, hle, ?_⟩
  rw [copyData, dif_neg (by omega)]
  have hlen : (s.reader.left.take (s.reader.amount (min bufLen remaining))).length =
      s.reader.amount (min bufLen remaining) := by rw [List.length_take]; omega
  rcases hgot : s.reader.left.take (s.reader.amount (min bufLen remaining)) with _ | ⟨b, got⟩
  · rw [hgot, List.length_nil] at hlen
    omega
  · rw [hgot] at hlen
    simp only [Source.read, hgot, hlen]

/-- All the data is there: it is written, however the reader cuts it. -/
lemma copyData_full (hbuf : 0 < bufLen) {data rest : Bytes} (h : s.reader.left = data ++ rest) :
    ∃ short, copyData bufLen data.length s =
      (.ok (), ⟨⟨rest, short⟩, s.out ++ data, s.total + UInt64.ofNat data.length⟩) := by
  induction hlen : data.length using Nat.strong_induction_on generalizing data s with
  | _ m ih =>
    subst hlen
    by_cases hdata : data = []
    · subst hdata
      refine ⟨s.reader.short, ?_⟩
      rw [List.nil_append] at h
      rw [copyData, dif_pos List.length_nil, ← h, List.append_nil]
      simp
    · have hpos : 0 < data.length := List.length_pos_of_ne_nil hdata
      have hleft : s.reader.left ≠ [] := by
        rw [h]
        exact List.append_ne_nil_of_left_ne_nil hdata rest
      obtain ⟨n, hn, hle, -, hread⟩ := copyData_read hpos hbuf hleft
      -- the rest of the data follows, and there is less of it
      have hdrop : (s.reader.after n).left = data.drop n ++ rest := by
        rw [Source.left_after, h, List.drop_append_of_le_length hle]
      obtain ⟨short, hrest⟩ := ih (data.drop n).length (by rw [List.length_drop]; omega)
        (s := ⟨s.reader.after n, s.out ++ s.reader.left.take n, s.total + UInt64.ofNat n⟩) hdrop rfl
      refine ⟨short, ?_⟩
      rw [hread, ← List.length_drop, hrest, h, List.take_append_of_le_length hle, List.append_assoc,
        List.take_append_drop, List.length_drop, UInt64.add_assoc, ← UInt64.ofNat_add]
      congr 4
      omega

lemma copyData_short (hbuf : 0 < bufLen) {remaining : Nat} (h : s.reader.left.length < remaining) :
    ∃ e s', copyData bufLen remaining s = (.error e, s') := by
  induction remaining using Nat.strong_induction_on generalizing s with
  | _ m ih =>
    by_cases hleft : s.reader.left = []
    · rw [copyData, dif_neg (by omega), Source.read_nil hleft]
      exact ⟨_, _, rfl⟩
    · obtain ⟨n, hn, hle, hlen, hread⟩ := copyData_read (show 0 < m by omega) hbuf hleft
      rw [hread]
      refine ih (m - n) (by omega) ?_
      rw [Source.left_after, List.length_drop]
      omega

end Data

end TeechatOpenapi.Core
