import TeechatOpenapi.Core.Http1Body
import TeechatOpenapi.Lib.Layout

/-!
# Writing a chunked stream (`openapi-http/src/streaming.rs`) and copying it

`ChunkedWriter` makes a chunk of every write, `writeSseStreamEnd` ends the body; `copyChunked`
(`openapi-core/src/http1_body.rs`) is other code in another crate.

Error values of the writer are left out: it takes what it is given.
-/

namespace TeechatOpenapi.Http

open Lib TeechatOpenapi.Core

/-- A Rust slice of octets: at most `isize::MAX` of them. -/
abbrev Slice : Type := { b : Bytes // b.length < 2 ^ 63 }

/-- `write_chunk`: what the writer holds afterwards. -/
def writeChunk (out data : Bytes) : Bytes :=
  if data = [] then out else out ++ utf8 (hexNumeral data.length ++ "\r\n".toList) ++ data ++ utf8 "\r\n"

def chunkedWriteAll (inner : Bytes) (buf : Slice) : Bytes := writeChunk inner buf.val

def writeSseStreamEnd (out : Bytes) : Bytes := out ++ utf8 "0\r\n\r\n"

/-- The octets on the wire for a sequence of writes. -/
def wire (writes : List Slice) : Bytes := writeSseStreamEnd (writes.foldl chunkedWriteAll [])

def payload (writes : List Slice) : Bytes := (writes.map Subtype.val).flatten

/-- The octets of one chunk. -/
def chunkBytes (data : Bytes) : Bytes := utf8 (hexNumeral data.length) ++ 13 :: 10 :: (data ++ [13, 10])

lemma chunkBytes_append (data rest : Bytes) :
    chunkBytes data ++ rest = utf8 (hexNumeral data.length) ++ 13 :: 10 :: (data ++ 13 :: 10 :: rest) := by
  rw [chunkBytes]
  simp only [List.append_assoc, List.cons_append, List.nil_append]

/-- The octets that end a body. -/
def endBytes : Bytes := [48, 13, 10, 13, 10]

lemma writeChunk_eq (out data : Bytes) :
    writeChunk out data = out ++ (if data = [] then [] else chunkBytes data) := by
  unfold writeChunk
  split
  · rw [List.append_nil]
  · rw [utf8_append, show utf8 "\r\n" = [13, 10] from rfl, chunkBytes]
    simp only [List.append_assoc, List.cons_append, List.nil_append]

/-- The octets that are still to come for some writes. -/
def wireFrom : List Slice → Bytes
  | [] => endBytes
  | c :: writes => (if c.val = [] then [] else chunkBytes c.val) ++ wireFrom writes

lemma foldl_chunkedWriteAll (writes : List Slice) (out : Bytes) :
    writeSseStreamEnd (writes.foldl chunkedWriteAll out) = out ++ wireFrom writes := by
  induction writes generalizing out with
  | nil => rfl
  | cons c writes ih =>
    rw [List.foldl_cons, ih, chunkedWriteAll, writeChunk_eq, wireFrom, List.append_assoc]

lemma wire_eq (writes : List Slice) : wire writes = wireFrom writes := foldl_chunkedWriteAll writes []

lemma payload_cons (c : Slice) (writes : List Slice) : payload (c :: writes) = c.val ++ payload writes := rfl

lemma trim_hexNumeral (n : Nat) : trim (hexNumeral n) = hexNumeral n := trim_digits (isAsciiHexdigit_hexNumeral n)

variable {n : Nat}

lemma length_utf8_hexNumeral (h : n ≤ u64Max) : (utf8 (hexNumeral n)).length ≤ 16 := by
  rw [utf8_length_of_ascii fun c hc => Encoding.isAsciiHexdigit_lt (isAsciiHexdigit_hexNumeral n c hc)]
  exact length_hexNumeral_le h

variable {t : Str}

lemma size_of_digits {q : Str} (h : ∀ c ∈ q, isAsciiHexdigit c = true) (ht : trim t = q) :
    trim ((trim t).takeWhile (· ≠ ';')) = q := by
  have hall : q.takeWhile (· ≠ ';') = q := by
    rw [List.takeWhile_eq_self_iff]
    intro c hc
    have hdigit := h c hc
    rw [decide_eq_true_eq]
    rintro rfl
    revert hdigit
    decide
  rw [ht, hall, trim_digits h]

variable {s₁ : CopyState}

section Steps

variable {bufLen : Nat} {s : CopyState}

lemma copyStep_of_pos (hline : readLine s = (.ok t, s₁)) (hne : trim t ≠ []) {size : Nat}
    (hsize : fromStrRadix16 (trim ((trim t).takeWhile (· ≠ ';'))) = .ok size) (hpos : 0 < size) :
    copyStep bufLen s = (do
      copyData bufLen size
      let trailer ← readLine
      Op.lift (failIf (trailer ≠ [] ∧ trailer ≠ ['\r']) (.upstream "expected chunk CRLF"))
      return none : Op CopyState ApiError (Option UInt64)) s₁ := by
  rw [copyStep, Op.bind_run, hline]
  simp only [hne, if_false, hsize, mapErr, Op.bind_run, Op.lift_run, Nat.ne_of_gt hpos]

lemma copyStep_of_zero (hline : readLine s = (.ok t, s₁)) (hne : trim t ≠ [])
    (hsize : fromStrRadix16 (trim ((trim t).takeWhile (· ≠ ';'))) = .ok 0) :
    copyStep bufLen s = (do
      let _ ← readLine
      let s ← Op.get
      return some s.total : Op CopyState ApiError (Option UInt64)) s₁ := by
  rw [copyStep, Op.bind_run, hline]
  simp only [hne, if_false, hsize, mapErr, Op.bind_run, Op.lift_run, if_true]

variable (bufLen) in
lemma copyStep_sized (hpos : 0 < n) (hlen : n ≤ u64Max) {rest : Bytes}
    (h : s.reader.left = utf8 (hexNumeral n) ++ 13 :: 10 :: rest) :
    ∃ short, copyStep bufLen s = (do
      copyData bufLen n
      let trailer ← readLine
      Op.lift (failIf (trailer ≠ [] ∧ trailer ≠ ['\r']) (.upstream "expected chunk CRLF"))
      return none : Op CopyState ApiError (Option UInt64)) { s with reader := ⟨rest, short⟩ } := by
  have hdigits := isAsciiHexdigit_hexNumeral n
  have htrim := trim_hexNumeral n
  have hshort : (utf8 (hexNumeral n)).length ≤ 8190 := le_trans (length_utf8_hexNumeral hlen) (by decide)
  obtain ⟨short, hline⟩ := readLine_crlf h (newline_notMem_digits hdigits) hshort
  have hsize : fromStrRadix16 (trim ((trim (hexNumeral n)).takeWhile (· ≠ ';'))) = .ok n := by
    rw [size_of_digits hdigits htrim, fromStrRadix16_hexNumeral hlen]
  exact ⟨short, copyStep_of_pos hline (by rw [htrim]; exact hexNumeral_ne_nil n) hsize hpos⟩

lemma copyStep_chunk (hbuf : 0 < bufLen) {data rest : Bytes} (hne : data ≠ []) (hlen : data.length ≤ u64Max)
    (h : s.reader.left = chunkBytes data ++ rest) :
    ∃ short, copyStep bufLen s =
      (.ok none, ⟨⟨rest, short⟩, s.out ++ data, s.total + UInt64.ofNat data.length⟩) := by
  rw [chunkBytes_append] at h
  obtain ⟨short₁, hstep⟩ := copyStep_sized bufLen (List.length_pos_of_ne_nil hne) hlen h
  obtain ⟨short₂, hdata⟩ := copyData_full hbuf
    (s := { s with reader := ⟨data ++ 13 :: 10 :: rest, short₁⟩ }) rfl
  obtain ⟨short₃, htrailer⟩ := readLine_crlf (t := [])
    (s := ⟨⟨13 :: 10 :: rest, short₂⟩, s.out ++ data, s.total + UInt64.ofNat data.length⟩) rfl List.not_mem_nil
    (by decide)
  refine ⟨short₃, ?_⟩
  rw [hstep]
  exact Op.bind_eq_ok.mpr ⟨(), _, hdata, Op.bind_eq_ok.mpr ⟨[], _, htrailer, Op.bind_eq_ok.mpr ⟨(), _, rfl, rfl⟩⟩⟩

lemma isAsciiHexdigit_zero : ∀ c ∈ ['0'], isAsciiHexdigit c = true := by
  intro c hc
  rw [List.mem_singleton.mp hc]
  decide

lemma size_zero (ht : trim t = ['0']) :
    fromStrRadix16 (trim ((trim t).takeWhile (· ≠ ';'))) = .ok 0 := by
  rw [size_of_digits isAsciiHexdigit_zero ht]
  rfl

variable (bufLen) in
/-- The end of a body: whatever follows the last size line, if it is a line, is read and nothing is written. -/
lemma copyStep_end {line : Str} {s₂ : CopyState} (hline : readLine s = (.ok t, s₁)) (ht : trim t = ['0'])
    (hlast : readLine s₁ = (.ok line, s₂)) : copyStep bufLen s = (.ok (some s₂.total), s₂) := by
  rw [copyStep_of_zero hline (by rw [ht]; decide) (size_zero ht)]
  exact Op.bind_eq_ok.mpr ⟨line, s₂, hlast, Op.bind_eq_ok.mpr ⟨s₂, s₂, rfl, rfl⟩⟩

lemma copyStep_end_cut (hline : readLine s = (.ok t, s₁)) (ht : trim t = ['0'])
    (hleft : s₁.reader.left = []) : ∃ e s', copyStep bufLen s = (.error e, s') := by
  obtain ⟨e, s', heof⟩ := readLine_eof hleft
  refine ⟨e, s', ?_⟩
  rw [copyStep_of_zero hline (by rw [ht]; decide) (size_zero ht)]
  exact Op.bind_eq_error.mpr (Or.inl heof)

end Steps

section Whole

variable {bufLen : Nat}

variable (bufLen) in
lemma copyChunked_endBytes {s : CopyState} (h : s.reader.left = endBytes) :
    ∃ s', copyChunked bufLen s = (.ok s.total, s') ∧ s'.out = s.out := by
  obtain ⟨short₁, hline⟩ := readLine_crlf (t := ['0']) h (by decide) (by decide)
  obtain ⟨short₂, hlast⟩ := readLine_crlf (t := []) (s := { s with reader := ⟨[13, 10], short₁⟩ }) rfl (by decide)
    (by decide)
  have hrun := copyChunked_of_some (copyStep_end bufLen hline (by decide) hlast)
  exact ⟨_, hrun, rfl⟩

lemma copyChunked_wireFrom (hbuf : 0 < bufLen) (writes : List Slice) {s : CopyState}
    (h : s.reader.left = wireFrom writes) :
    ∃ s', copyChunked bufLen s = (.ok (s.total + UInt64.ofNat (payload writes).length), s') ∧
      s'.out = s.out ++ payload writes := by
  induction writes generalizing s with
  | nil =>
    obtain ⟨s', hrun, hout⟩ := copyChunked_endBytes bufLen h
    refine ⟨s', ?_, by rw [hout]; exact (List.append_nil _).symm⟩
    rw [hrun]
    simp [payload]
  | cons c writes ih =>
    rw [wireFrom] at h
    by_cases hc : c.val = []
    · -- an empty write leaves nothing on the wire
      rw [if_pos hc, List.nil_append] at h
      rw [payload_cons, hc, List.nil_append]
      exact ih h
    · rw [if_neg hc] at h
      have hmax : c.val.length ≤ u64Max := le_trans (le_of_lt c.2) (by decide)
      obtain ⟨short, hstep⟩ := copyStep_chunk hbuf hc hmax h
      obtain ⟨s', hrun, hout⟩ := ih (s := ⟨⟨wireFrom writes, short⟩, s.out ++ c.val,
        s.total + UInt64.ofNat c.val.length⟩) rfl
      refine ⟨s', ?_, ?_⟩
      · rw [copyChunked_of_none hstep, hrun, payload_cons, List.length_append, UInt64.ofNat_add, UInt64.add_assoc]
      · rw [hout, payload_cons, List.append_assoc]

end Whole

section Cut

variable {bufLen : Nat}

/-- A copy fails. -/
def Fails (bufLen : Nat) (s : CopyState) : Prop := ∃ e s', copyChunked bufLen s = (.error e, s')

variable {s : CopyState}

lemma fails_of_step (h : ∃ e s', copyStep bufLen s = (.error e, s')) : Fails bufLen s := by
  obtain ⟨e, s', h⟩ := h
  exact ⟨e, s', copyChunked_of_error h⟩

lemma fails_of_eof (h : s.reader.left = []) : Fails bufLen s := by
  obtain ⟨e, s', heof⟩ := readLine_eof h
  exact fails_of_step ⟨e, s', Op.bind_eq_error.mpr (Or.inl heof)⟩

lemma fails_of_cut_size (hbuf : 0 < bufLen) (hn : 0 < n) {q : Str}
    (hline : readLine s = (.ok t, s₁)) (ht : trim t = q) (hq : q <+: hexNumeral n) (hne : q ≠ [])
    (hleft : s₁.reader.left = []) : Fails bufLen s := by
  have hdigits : ∀ c ∈ q, isAsciiHexdigit c = true := fun c hc => isAsciiHexdigit_hexNumeral n c (hq.subset hc)
  have hnet : trim t ≠ [] := by rwa [ht]
  rcases hsize : fromStrRadix16 (trim ((trim t).takeWhile (· ≠ ';'))) with e | size
  · refine fails_of_step ⟨.upstream ("invalid chunk size: ".toList ++ e), s₁, ?_⟩
    rw [copyStep, Op.bind_run, hline]
    simp only [hnet, if_false, hsize, mapErr, Op.bind_run, Op.lift_run]
  · have hpos : 0 < size := by
      rw [size_of_digits hdigits ht] at hsize
      exact fromStrRadix16_cut hn hq hne hsize
    obtain ⟨e, s', hdata⟩ : ∃ e s', copyData bufLen size s₁ = (.error e, s') :=
      copyData_short hbuf (by rw [hleft]; exact hpos)
    refine fails_of_step ⟨e, s', ?_⟩
    rw [copyStep_of_pos hline hnet hsize hpos]
    exact Op.bind_eq_error.mpr (Or.inl hdata)

lemma fails_of_cut_line (hbuf : 0 < bufLen) (hn : 0 < n) (hlen : n ≤ u64Max) {q : Str}
    (h : s.reader.left = utf8 t) (hq : q <+: hexNumeral n) (hne : q ≠ []) (ht : t = q ∨ t = q ++ ['\r']) :
    Fails bufLen s := by
  have hdigits : ∀ c ∈ q, isAsciiHexdigit c = true := fun c hc => isAsciiHexdigit_hexNumeral n c (hq.subset hc)
  have htrim : trim t = q := by
    rcases ht with rfl | rfl
    · exact trim_digits hdigits
    · rw [trim_concat q (by decide), trim_digits hdigits]
  have hnewline : '\n' ∉ t := by
    rcases ht with rfl | rfl
    · exact newline_notMem_digits hdigits
    · intro hm
      rcases List.mem_append.mp hm with hm | hm
      · exact newline_notMem_digits hdigits hm
      · revert hm
        decide
  have hnil : t ≠ [] := by
    rintro rfl
    exact hne htrim.symm
  have hascii : ∀ c ∈ t, c.toNat < 128 := by
    intro c hc
    rcases ht with rfl | rfl
    · exact Encoding.isAsciiHexdigit_lt (hdigits c hc)
    · rcases List.mem_append.mp hc with hc | hc
      · exact Encoding.isAsciiHexdigit_lt (hdigits c hc)
      · rw [List.mem_singleton.mp hc]
        decide
  have hshort : (utf8 t).length ≤ 8192 := by
    have hqlen : q.length ≤ 16 := le_trans hq.length_le (length_hexNumeral_le hlen)
    rw [utf8_length_of_ascii hascii]
    rcases ht with rfl | rfl
    · omega
    · rw [List.length_append, List.length_singleton]
      omega
  obtain ⟨short, hline⟩ := readLine_cut h hnewline hnil hshort
  exact fails_of_cut_size hbuf hn hline htrim hq hne rfl

lemma fails_of_cut_data (hbuf : 0 < bufLen) (hn : 0 < n) (hlen : n ≤ u64Max) {p : Bytes}
    (h : s.reader.left = utf8 (hexNumeral n) ++ 13 :: 10 :: p) (hp : p.length < n) : Fails bufLen s := by
  obtain ⟨short, hstep⟩ := copyStep_sized bufLen hn hlen h
  obtain ⟨e, s', hdata⟩ := copyData_short hbuf (s := { s with reader := ⟨p, short⟩ }) hp
  refine fails_of_step ⟨e, s', ?_⟩
  rw [hstep]
  exact Op.bind_eq_error.mpr (Or.inl hdata)

lemma fails_of_cut_trailer (hbuf : 0 < bufLen) {data r : Bytes} (hne : data ≠ [])
    (hlen : data.length ≤ u64Max) (h : s.reader.left = utf8 (hexNumeral data.length) ++ 13 :: 10 :: (data ++ r))
    (hr : r = [] ∨ r = [13]) : Fails bufLen s := by
  obtain ⟨short₁, hstep⟩ := copyStep_sized bufLen (List.length_pos_of_ne_nil hne) hlen h
  obtain ⟨short₂, hdata⟩ := copyData_full hbuf (s := { s with reader := ⟨data ++ r, short₁⟩ }) rfl
  rcases hr with rfl | rfl
  · obtain ⟨e, s', heof⟩ := readLine_eof
      (s := ⟨⟨[], short₂⟩, s.out ++ data, s.total + UInt64.ofNat data.length⟩) rfl
    refine fails_of_step ⟨e, s', ?_⟩
    rw [hstep]
    exact Op.bind_eq_error.mpr (Or.inr ⟨(), _, hdata, Op.bind_eq_error.mpr (Or.inl heof)⟩)
  · obtain ⟨short₃, hline⟩ := readLine_cut (t := ['\r'])
      (s := ⟨⟨[13], short₂⟩, s.out ++ data, s.total + UInt64.ofNat data.length⟩) rfl (by decide) (by decide) (by decide)
    have hnext : copyStep bufLen s = (.ok none,
        ⟨⟨[], short₃⟩, s.out ++ data, s.total + UInt64.ofNat data.length⟩) := by
      rw [hstep]
      exact Op.bind_eq_ok.mpr ⟨(), _, hdata, Op.bind_eq_ok.mpr ⟨['\r'], _, hline,
        Op.bind_eq_ok.mpr ⟨(), _, rfl, rfl⟩⟩⟩
    have hfails : Fails bufLen ⟨⟨[], short₃⟩, s.out ++ data, s.total + UInt64.ofNat data.length⟩ := fails_of_eof rfl
    obtain ⟨e, s', hfail⟩ := hfails
    exact ⟨e, s', by rw [copyChunked_of_none hnext, hfail]⟩

lemma fails_of_cut_chunk (hbuf : 0 < bufLen) {data : Bytes} (hne : data ≠ [])
    (hlen : data.length ≤ u64Max) (h : s.reader.left <+: chunkBytes data) (hcut : s.reader.left ≠ chunkBytes data) :
    Fails bufLen s := by
  have hpos := List.length_pos_of_ne_nil hne
  have hdigits := isAsciiHexdigit_hexNumeral data.length
  have hnum := hexNumeral_ne_nil data.length
  rw [chunkBytes] at h hcut
  rcases prefix_append_cases h with ⟨hp, -⟩ | ⟨r, hleft, hr⟩
  · -- in the digits of the size
    obtain ⟨q, hq, hleft⟩ := prefix_utf8_of_ascii (fun c hc => Encoding.isAsciiHexdigit_lt (hdigits c hc)) hp
    by_cases hq0 : q = []
    · rw [hq0] at hleft
      exact fails_of_eof hleft
    · exact fails_of_cut_line hbuf hpos hlen hleft hq hq0 (Or.inl rfl)
  rw [hleft] at hcut
  rcases prefix_append_cases (a := [13, 10]) hr with ⟨hr, hne'⟩ | ⟨r₁, rfl, hr₁⟩
  · -- in the line end of the size
    rcases cut_crlf hr hne' with rfl | rfl
    · rw [List.append_nil] at hleft
      exact fails_of_cut_line hbuf hpos hlen hleft (List.prefix_refl _) hnum (Or.inl rfl)
    · refine fails_of_cut_line hbuf hpos hlen (t := hexNumeral data.length ++ ['\r']) ?_ (List.prefix_refl _) hnum
        (Or.inr rfl)
      rw [hleft, utf8_append]
      rfl
  rcases prefix_append_cases hr₁ with ⟨hr₁, hne'⟩ | ⟨r₂, rfl, hr₂⟩
  · -- in the data
    refine fails_of_cut_data hbuf hpos hlen hleft (lt_of_le_of_ne hr₁.length_le fun heq => hne' ?_)
    exact hr₁.eq_of_length heq
  · -- in the line end of the data
    refine fails_of_cut_trailer hbuf hne hlen hleft (cut_crlf hr₂ fun heq => hcut ?_)
    rw [heq]
    rfl

/-- The reader ends after the chunks: the copy fails, or ends where it stands. -/
lemma copyChunked_cut_end (h : s.reader.left <+: endBytes) (hcut : s.reader.left ≠ endBytes) :
    Fails bufLen s ∨ (copyChunked bufLen s).2.out = s.out := by
  rcases prefix_append_cases (a := utf8 ['0']) (b := [13, 10, 13, 10]) h with ⟨hp, hne⟩ | ⟨r, hleft, hr⟩
  · obtain ⟨q, hq, hleft⟩ := prefix_utf8_of_ascii (s := ['0'])
      (fun c hc => Encoding.isAsciiHexdigit_lt (isAsciiHexdigit_zero c hc)) hp
    left
    rcases q with _ | ⟨c, q⟩
    · exact fails_of_eof hleft
    · obtain ⟨rfl, hq₁⟩ := List.cons_prefix_cons.mp hq
      rw [List.prefix_nil.mp hq₁] at hleft
      exact absurd hleft hne
  rcases prefix_append_cases (a := [13, 10]) (b := [13, 10]) hr with ⟨hr, hne⟩ | ⟨r₁, rfl, hr₁⟩
  · -- in the last size line
    left
    rcases cut_crlf hr hne with rfl | rfl
    · obtain ⟨short, hline⟩ := readLine_cut (t := ['0']) hleft (by decide) (by decide) (by decide)
      exact fails_of_step (copyStep_end_cut hline (by decide) rfl)
    · obtain ⟨short, hline⟩ := readLine_cut (t := ['0', '\r']) hleft (by decide) (by decide) (by decide)
      exact fails_of_step (copyStep_end_cut hline (by decide) rfl)
  · have hne : r₁ ≠ [13, 10] := by
      rintro rfl
      exact hcut hleft
    obtain ⟨short₁, hline⟩ := readLine_crlf (t := ['0']) hleft (by decide) (by decide)
    rcases cut_crlf hr₁ hne with rfl | rfl
    · exact Or.inl (fails_of_step (copyStep_end_cut hline (by decide) rfl))
    · -- a lone CR is taken for the last line; everything has been written
      obtain ⟨short₂, hlast⟩ := readLine_cut (t := ['\r']) (s := { s with reader := ⟨[13], short₁⟩ }) rfl (by decide)
        (by decide) (by decide)
      right
      rw [copyChunked_of_some (copyStep_end bufLen hline (by decide) hlast)]

/-- A body that is cut short: the copy fails, or has written everything. -/
lemma copyChunked_cut (hbuf : 0 < bufLen) (writes : List Slice)
    (h : s.reader.left <+: wireFrom writes) (hcut : s.reader.left ≠ wireFrom writes) :
    Fails bufLen s ∨ (copyChunked bufLen s).2.out = s.out ++ payload writes := by
  induction writes generalizing s with
  | nil =>
    rw [payload, List.map_nil, List.flatten_nil, List.append_nil]
    exact copyChunked_cut_end h hcut
  | cons c writes ih =>
    rw [wireFrom] at h hcut
    by_cases hc : c.val = []
    · rw [if_pos hc, List.nil_append] at h hcut
      rw [payload_cons, hc, List.nil_append]
      exact ih h hcut
    · rw [if_neg hc] at h hcut
      have hmax : c.val.length ≤ u64Max := le_trans (le_of_lt c.2) (by decide)
      rcases prefix_append_cases h with ⟨hp, hne⟩ | ⟨q, hleft, hq⟩
      · exact Or.inl (fails_of_cut_chunk hbuf hc hmax hp hne)
      · obtain ⟨short, hstep⟩ := copyStep_chunk hbuf hc hmax hleft
        have hne : q ≠ wireFrom writes := fun heq => hcut (by rw [hleft, heq])
        rw [payload_cons, ← List.append_assoc, Fails, copyChunked_of_none hstep]
        exact ih (s := ⟨⟨q, short⟩, s.out ++ c.val, s.total + UInt64.ofNat c.val.length⟩) hq hne

end Cut

/-- **A chunked stream is copied whole, and a cut one is not taken for a whole one**: for every sequence of writes,
every buffer with room for an octet and every pattern of short reads.  The count is a `u64`. -/
theorem chunked_round_trip (bufLen : Nat) (hbuf : 1 ≤ bufLen) (writes : List Slice) :
    (∀ short, ∃ s', copyChunked bufLen ⟨⟨wire writes, short⟩, [], 0⟩ =
        (.ok (UInt64.ofNat (payload writes).length), s') ∧ s'.out = payload writes) ∧
      ∀ p, p <+: wire writes → p ≠ wire writes → ∀ short,
        (∃ e s', copyChunked bufLen ⟨⟨p, short⟩, [], 0⟩ = (.error e, s')) ∨
          (copyChunked bufLen ⟨⟨p, short⟩, [], 0⟩).2.out = payload writes := by
  rw [wire_eq]
  refine ⟨fun short => ?_, fun p hp hne short => ?_⟩
  · obtain ⟨s', hrun, hout⟩ := copyChunked_wireFrom hbuf writes (s := ⟨⟨wireFrom writes, short⟩, [], 0⟩) rfl
    exact ⟨s', by rw [hrun, UInt64.zero_add], hout⟩
  · exact copyChunked_cut hbuf writes (s := ⟨⟨p, short⟩, [], 0⟩) hp hne

def sampleWrites : List Slice := [⟨[104, 105], by decide⟩, ⟨[], by decide⟩, ⟨[13, 10], by decide⟩]

theorem chunked_round_trip_sample :
    wire sampleWrites = utf8 "2\r\nhi\r\n2\r\n\r\n\r\n0\r\n\r\n" ∧
      (∃ s', copyChunked 1 ⟨⟨wire sampleWrites, fun _ => 0⟩, [], 0⟩ = (.ok 4, s') ∧ s'.out = [104, 105, 13, 10]) ∧
      ((∃ e s', copyChunked 1 ⟨⟨utf8 "2\r\nh", fun _ => 0⟩, [], 0⟩ = (.error e, s')) ∨
        (copyChunked 1 ⟨⟨utf8 "2\r\nh", fun _ => 0⟩, [], 0⟩).2.out = payload sampleWrites) := by
  have hwire : wire sampleWrites = utf8 "2\r\nhi\r\n2\r\n\r\n\r\n0\r\n\r\n" := by decide
  refine ⟨hwire, (chunked_round_trip 1 (le_refl 1) sampleWrites).1 _, ?_⟩
  refine (chunked_round_trip 1 (le_refl 1) sampleWrites).2 (utf8 "2\r\nh") ?_ ?_ _
  · rw [hwire]
    decide
  · rw [hwire]
    decide

end TeechatOpenapi.Http
