import TeechatOpenapi.Core.Http1Body

/-!
# The body reader of the gateway client (`openapi-platform-sgx/src/gateway_ope_api.rs`)

`FramedBodyReader` reads the body of a response through buffers of any sizes.  The connection is a `Source`, which ends
and does not fail.
-/

namespace TeechatOpenapi.Sgx

open Lib TeechatOpenapi.Core

/-- The kinds of `std::io::Error` that the reader makes. -/
inductive IoErrorKind where
  | unexpectedEof
  | invalidData
  deriving DecidableEq

/-- `std::io::Error`, by its kind and text. -/
structure IoError where
  kind : IoErrorKind
  message : Str
  deriving DecidableEq

/-- How the end of a body is found. -/
inductive BodyFraming where
  | contentLength (n : Nat)
  | chunked
  | untilClose

/-- What is left to read of a body. -/
inductive FramedState where
  | contentLength (remaining : Nat)
  | untilClose
  | chunked (remaining : Nat) (done : Bool)

/-- A connection, and what is left of the body on it. -/
structure FramedBodyReader where
  inner : Source
  state : FramedState

def FramedBodyReader.new (inner : Source) (framing : BodyFraming) : FramedBodyReader :=
  ⟨inner, match framing with
    | .contentLength n => .contentLength n
    | .untilClose => .untilClose
    | .chunked => .chunked 0 false⟩

/-- The loop of `read_line_bytes`. -/
def readLineBytesLoop (line : Bytes) (r : Source) : Except IoError Bytes × Source :=
  match _h : r.read 1 with
  | ([], r) => (.ok line, r)
  | (b :: _, r) =>
    if endsCrlf (line ++ [b]) then (.ok ((line ++ [b]).take ((line ++ [b]).length - 2)), r)
    else if 8192 < (line ++ [b]).length then (.error ⟨.invalidData, "chunk header line too long"⟩, r)
    else readLineBytesLoop (line ++ [b]) r
termination_by r.left.length
decreasing_by exact Source.length_read_lt _h (List.cons_ne_nil _ _)

def readLineBytes : Op Source IoError Bytes := readLineBytesLoop []

/-- The text in a size line that is taken for the size. -/
def sizeStr (line : Bytes) : Str := trim ((fromUtf8Lossy line).takeWhile (· ≠ ';'))

def readChunkSize : Op Source IoError Nat := do
  let line ← readLineBytes
  Op.lift (mapErr (fun e => ⟨.invalidData, "invalid chunk size: ".toList ++ e⟩) (fromStrRadix16 (sizeStr line)))

def consumeLine : Op Source IoError Unit := do
  let _ ← readLineBytes
  return ()

/-- The part of a read that follows once `remaining` octets of a chunk are known to be left. -/
def readChunk (cap remaining : Nat) (inner : Source) : Except IoError Bytes × FramedBodyReader :=
  match inner.read (min cap remaining) with
  | ([], inner) => (.error ⟨.unexpectedEof, "upstream closed mid-chunk"⟩, ⟨inner, .chunked remaining false⟩)
  | (b :: got, inner) =>
    if remaining - (b :: got).length = 0 then
      match consumeLine inner with
      | (.error e, inner) => (.error e, ⟨inner, .chunked 0 false⟩)
      | (.ok (), inner) => (.ok (b :: got), ⟨inner, .chunked 0 false⟩)
    else (.ok (b :: got), ⟨inner, .chunked (remaining - (b :: got).length) false⟩)

/-- `FramedBodyReader::read` into a buffer of `cap` octets. -/
def FramedBodyReader.read (cap : Nat) : Op FramedBodyReader IoError Bytes := fun r =>
  if cap = 0 then (.ok [], r)
  else
    match r.state with
    | .contentLength remaining =>
      if remaining = 0 then (.ok [], r)
      else
        let (got, inner) := r.inner.read (min cap remaining)
        (.ok got, ⟨inner, .contentLength (remaining - got.length)⟩)
    | .untilClose =>
      let (got, inner) := r.inner.read cap
      (.ok got, ⟨inner, .untilClose⟩)
    | .chunked remaining done =>
      if done then (.ok [], r)
      else if remaining = 0 then
        match readChunkSize r.inner with
        | (.error e, inner) => (.error e, ⟨inner, r.state⟩)
        | (.ok size, inner) =>
          if size = 0 then
            match consumeLine inner with
            | (.error e, inner) => (.error e, ⟨inner, r.state⟩)
            | (.ok (), inner) => (.ok [], ⟨inner, .chunked 0 true⟩)
          else readChunk cap size inner
      else readChunk cap remaining r.inner

/-! ## Every read that delivers something shrinks the connection -/

/-- The connection has no more left than before. -/
def Drains (s s' : Source) : Prop := s'.left.length ≤ s.left.length

lemma readLineBytesLoop_drains (line : Bytes) (s : Source) : Drains s (readLineBytesLoop line s).2 := by
  fun_induction readLineBytesLoop line s with
  | case1 line s r h =>
    have hle := s.length_read_le 1
    rwa [h] at hle
  | case2 line s b tail r h hcrlf => exact le_of_lt (Source.length_read_lt h (List.cons_ne_nil _ _))
  | case3 line s b tail r h hcrlf hlong => exact le_of_lt (Source.length_read_lt h (List.cons_ne_nil _ _))
  | case4 line s b tail r h hcrlf hlong ih =>
    exact le_trans ih (le_of_lt (Source.length_read_lt h (List.cons_ne_nil b tail)))

lemma Drains.refl (s : Source) : Drains s s := le_refl _

lemma Drains.trans (s₁ s₂ s₃ : Source) (h : Drains s₁ s₂) (h' : Drains s₂ s₃) : Drains s₁ s₃ := le_trans h' h

lemma readLineBytes_drains : Op.Within Drains readLineBytes := fun s => readLineBytesLoop_drains [] s

lemma consumeLine_drains : Op.Within Drains consumeLine :=
  Op.Within.bind Drains.trans readLineBytes_drains fun _ => Op.Within.pure Drains.refl _

lemma readChunkSize_drains : Op.Within Drains readChunkSize :=
  Op.Within.bind Drains.trans readLineBytes_drains fun _ => Op.Within.lift Drains.refl _

variable {got : Bytes} {cap : Nat}

lemma readChunk_shrinks {remaining : Nat} {inner : Source} {r : FramedBodyReader}
    (h : readChunk cap remaining inner = (.ok got, r)) : r.inner.left.length < inner.left.length := by
  unfold readChunk at h
  split at h
  · cases (Prod.mk.inj h).1
  · next b tail inner₁ hread =>
    have hlt := Source.length_read_lt hread (List.cons_ne_nil b tail)
    split at h
    · have hle := consumeLine_drains inner₁
      rcases hline : consumeLine inner₁ with ⟨e | _, inner₂⟩
      · rw [hline] at h
        cases (Prod.mk.inj h).1
      · rw [hline] at h hle
        obtain ⟨-, rfl⟩ := Prod.mk.inj h
        exact lt_of_le_of_lt hle hlt
    · obtain ⟨-, rfl⟩ := Prod.mk.inj h
      exact hlt

lemma FramedBodyReader.read_shrinks {r r' : FramedBodyReader}
    (h : FramedBodyReader.read cap r = (.ok got, r')) (hgot : got ≠ []) :
    r'.inner.left.length < r.inner.left.length := by
  unfold FramedBodyReader.read at h
  split at h
  · exact absurd (Except.ok.inj (Prod.mk.inj h).1).symm hgot
  · split at h
    · split at h
      · exact absurd (Except.ok.inj (Prod.mk.inj h).1).symm hgot
      · obtain ⟨hval, rfl⟩ := Prod.mk.inj h
        obtain rfl := Except.ok.inj hval
        exact Source.length_read_lt rfl hgot
    · obtain ⟨hval, rfl⟩ := Prod.mk.inj h
      obtain rfl := Except.ok.inj hval
      exact Source.length_read_lt rfl hgot
    · split at h
      · exact absurd (Except.ok.inj (Prod.mk.inj h).1).symm hgot
      split at h
      · have hle := readChunkSize_drains r.inner
        rcases hsize : readChunkSize r.inner with ⟨e | size, inner₁⟩
        · rw [hsize] at h
          cases (Prod.mk.inj h).1
        · rw [hsize] at h hle
          dsimp only at h
          split at h
          · rcases hline : consumeLine inner₁ with ⟨e | _, inner₂⟩
            · rw [hline] at h
              cases (Prod.mk.inj h).1
            · rw [hline] at h
              exact absurd (Except.ok.inj (Prod.mk.inj h).1).symm hgot
          · exact lt_of_lt_of_le (readChunk_shrinks h) hle
      · exact readChunk_shrinks h

/-- Reading to the end: reads into buffers of the sizes `caps`, until one delivers nothing or fails.  The result, and
everything that was delivered. -/
def readToEnd (caps : Nat → Nat) (r : FramedBodyReader) : Except IoError Unit × Bytes :=
  match _h : FramedBodyReader.read (caps 0) r with
  | (.error e, _) => (.error e, [])
  | (.ok [], _) => (.ok (), [])
  | (.ok (b :: got), r') =>
    let (result, more) := readToEnd (fun k => caps (k + 1)) r'
    (result, b :: got ++ more)
termination_by r.inner.left.length
decreasing_by exact FramedBodyReader.read_shrinks _h (List.cons_ne_nil _ _)

variable {caps : Nat → Nat}

lemma readToEnd_of_error {r r' : FramedBodyReader} {e : IoError}
    (h : FramedBodyReader.read (caps 0) r = (.error e, r')) : readToEnd caps r = (.error e, []) := by
  rw [readToEnd]
  split <;> simp_all

lemma readToEnd_of_nil {r r' : FramedBodyReader}
    (h : FramedBodyReader.read (caps 0) r = (.ok [], r')) : readToEnd caps r = (.ok (), []) := by
  rw [readToEnd]
  split <;> simp_all

lemma readToEnd_of_got {r r' : FramedBodyReader} (hgot : got ≠ [])
    (h : FramedBodyReader.read (caps 0) r = (.ok got, r')) : readToEnd caps r =
      ((readToEnd (fun k => caps (k + 1)) r').1, got ++ (readToEnd (fun k => caps (k + 1)) r').2) := by
  rw [readToEnd]
  split
  · simp_all
  · simp_all
  · next b tail r₁ h₁ =>
    obtain ⟨hval, rfl⟩ := Prod.mk.inj (h₁.symm.trans h)
    rw [← Except.ok.inj hval]

/-! ## Lines -/

/-- Whatever the short reads, `x` returns `a` and leaves `left'` on the connection. -/
def Returns {α : Type} (x : Op Source IoError α) (left : Bytes) (a : α) (left' : Bytes) : Prop :=
  ∀ short, ∃ short', x ⟨left, short⟩ = (.ok a, ⟨left', short'⟩)

/-- Whatever the short reads, `x` fails. -/
def AlwaysFails {α : Type} (x : Op Source IoError α) (left : Bytes) : Prop :=
  ∀ short, ∃ e s', x ⟨left, short⟩ = (.error e, s')

section Lines

variable {line l rest : Bytes} {b : UInt8} {short : Nat → Nat}

lemma readLineBytesLoop_nil (line : Bytes) : Returns (readLineBytesLoop line) [] line [] := by
  intro short
  refine ⟨fun k => short (k + 1), ?_⟩
  rw [readLineBytesLoop]
  split
  · next r hread =>
    rw [Source.read_nil rfl] at hread
    obtain ⟨-, rfl⟩ := Prod.mk.inj hread
    rfl
  · next hread =>
    rw [Source.read_nil rfl] at hread
    cases (Prod.mk.inj hread).1

lemma readLineBytesLoop_cons (line : Bytes) (b : UInt8) (rest : Bytes) (short : Nat → Nat) :
    readLineBytesLoop line ⟨b :: rest, short⟩ =
      if endsCrlf (line ++ [b]) then
        (.ok ((line ++ [b]).take ((line ++ [b]).length - 2)), ⟨rest, fun k => short (k + 1)⟩)
      else if 8192 < (line ++ [b]).length then
        (.error ⟨.invalidData, "chunk header line too long"⟩, ⟨rest, fun k => short (k + 1)⟩)
      else readLineBytesLoop (line ++ [b]) ⟨rest, fun k => short (k + 1)⟩ := by
  rw [readLineBytesLoop]
  split
  · next hread =>
    rw [Source.read_one rfl] at hread
    cases (Prod.mk.inj hread).1
  · next hread =>
    rw [Source.read_one rfl] at hread
    obtain ⟨hb, rfl⟩ := Prod.mk.inj hread
    obtain ⟨rfl, -⟩ := List.cons.inj hb
    rfl

lemma readLineBytesLoop_push (hb : b ≠ 10) (hlen : line.length < 8192) :
    readLineBytesLoop line ⟨b :: rest, short⟩ = readLineBytesLoop (line ++ [b]) ⟨rest, fun k => short (k + 1)⟩ := by
  rw [readLineBytesLoop_cons, if_neg (not_endsCrlf hb), if_neg]
  rw [List.length_append, List.length_singleton]
  omega

lemma readLineBytesLoop_crlf (hl : 10 ∉ l) (hlen : (line ++ l).length ≤ 8191) :
    Returns (readLineBytesLoop line) (l ++ 13 :: 10 :: rest) (line ++ l) rest := by
  intro short
  induction l generalizing line short with
  | nil =>
    rw [List.append_nil] at hlen ⊢
    refine ⟨fun k => short (k + 2), ?_⟩
    have htake : (line ++ [13] ++ [10]).length - 2 = line.length := by
      simp only [List.length_append, List.length_cons, List.length_nil]
      omega
    rw [List.nil_append, readLineBytesLoop_push (by decide) (by omega), readLineBytesLoop_cons,
      if_pos (endsCrlf_crlf line), htake, List.append_assoc, List.take_left]
  | cons b l ih =>
    have hb : b ≠ 10 := fun heq => hl (heq ▸ List.mem_cons_self)
    rw [List.append_cons line b l] at hlen ⊢
    rw [List.cons_append, readLineBytesLoop_push hb (by simp only [List.length_append] at hlen; omega)]
    exact ih (fun hm => hl (List.mem_cons_of_mem b hm)) hlen _

lemma readLineBytesLoop_cut (hl : 10 ∉ l) (hlen : (line ++ l).length ≤ 8192) :
    Returns (readLineBytesLoop line) l (line ++ l) [] := by
  intro short
  induction l generalizing line short with
  | nil =>
    rw [List.append_nil]
    exact readLineBytesLoop_nil line short
  | cons b l ih =>
    have hb : b ≠ 10 := fun heq => hl (heq ▸ List.mem_cons_self)
    rw [List.append_cons line b l] at hlen ⊢
    rw [readLineBytesLoop_push hb (by simp only [List.length_append, List.length_singleton] at hlen; omega)]
    exact ih (fun hm => hl (List.mem_cons_of_mem b hm)) hlen _

lemma readLineBytesLoop_long (hl : 10 ∉ l) (hline : line.length ≤ 8192) (hlen : 8192 < (line ++ l).length) :
    AlwaysFails (readLineBytesLoop line) (l ++ rest) := by
  intro short
  induction l generalizing line short with
  | nil =>
    rw [List.append_nil] at hlen
    omega
  | cons b l ih =>
    have hb : b ≠ 10 := fun heq => hl (heq ▸ List.mem_cons_self)
    rw [List.append_cons line b l] at hlen
    rw [List.cons_append, readLineBytesLoop_cons, if_neg (not_endsCrlf hb)]
    split
    · exact ⟨_, _, rfl⟩
    · next hshort => exact ih (fun hm => hl (List.mem_cons_of_mem b hm)) (by omega) hlen _

lemma readLineBytes_crlf (rest : Bytes) (hl : 10 ∉ l) (hlen : l.length ≤ 8191) :
    Returns readLineBytes (l ++ 13 :: 10 :: rest) l rest := readLineBytesLoop_crlf hl hlen

lemma readLineBytes_cut (hl : 10 ∉ l) (hlen : l.length ≤ 8192) : Returns readLineBytes l l [] :=
  readLineBytesLoop_cut hl hlen

lemma readLineBytes_long (rest : Bytes) (hl : 10 ∉ l) (hlen : 8192 < l.length) :
    AlwaysFails readLineBytes (l ++ rest) := readLineBytesLoop_long hl (Nat.zero_le _) hlen

lemma Returns.consumeLine {left left' : Bytes} (h : Returns readLineBytes left line left') :
    Returns consumeLine left () left' := by
  intro short
  obtain ⟨short', hline⟩ := h short
  exact ⟨short', Op.bind_eq_ok.mpr ⟨_, _, hline, rfl⟩⟩

lemma Returns.chunkSize {left left' : Bytes} {n : Nat} (h : Returns readLineBytes left line left')
    (hsize : fromStrRadix16 (sizeStr line) = .ok n) : Returns readChunkSize left n left' := by
  intro short
  obtain ⟨short', hline⟩ := h short
  refine ⟨short', Op.bind_eq_ok.mpr ⟨_, _, hline, ?_⟩⟩
  rw [Op.lift_run, hsize]
  rfl

lemma Returns.chunkSize_error {left left' : Bytes} {e : Str} (h : Returns readLineBytes left line left')
    (hsize : fromStrRadix16 (sizeStr line) = .error e) : AlwaysFails readChunkSize left := by
  intro short
  obtain ⟨short', hline⟩ := h short
  refine ⟨⟨.invalidData, "invalid chunk size: ".toList ++ e⟩, ⟨left', short'⟩, ?_⟩
  refine Op.bind_eq_error.mpr (Or.inr ⟨_, _, hline, ?_⟩)
  rw [Op.lift_run, hsize]
  rfl

lemma AlwaysFails.chunkSize {left : Bytes} (h : AlwaysFails readLineBytes left) : AlwaysFails readChunkSize left := by
  intro short
  obtain ⟨e, s', hline⟩ := h short
  exact ⟨e, s', Op.bind_eq_error.mpr (Or.inl hline)⟩

end Lines

/-! ## Rules for reading to the end -/

/-- A condition on a result and on everything that was delivered holds after reading to the end, whatever the short
reads and the sizes of the buffers. -/
def ReadToEnd (left : Bytes) (state : FramedState) (P : Except IoError Unit → Bytes → Prop) : Prop :=
  ∀ short caps, (∀ k, 1 ≤ caps k) →
    P (readToEnd caps ⟨⟨left, short⟩, state⟩).1 (readToEnd caps ⟨⟨left, short⟩, state⟩).2

/-- The reading failed. -/
def Failed (result : Except IoError Unit) (_ : Bytes) : Prop := ∃ e, result = .error e

section Rules

variable {left left' data tail : Bytes} {n : Nat} {P Q : Except IoError Unit → Bytes → Prop}

lemma ReadToEnd.imp {state : FramedState} (h : ReadToEnd left state P)
    (himp : ∀ result out, P result out → Q result out) :
    ReadToEnd left state Q := fun short caps hcaps => himp _ _ (h short caps hcaps)

/-- What holds after one read, and then to the end. -/
def After (P : Except IoError Unit → Bytes → Prop) : Except IoError Bytes × FramedBodyReader → Prop
  | (.error e, _) => P (.error e) []
  | (.ok [], _) => P (.ok ()) []
  | (.ok (b :: got), r) => ReadToEnd r.inner.left r.state fun result out => P result (b :: got ++ out)

lemma After.of_got {r : FramedBodyReader} (hgot : got ≠ [])
    (h : ReadToEnd r.inner.left r.state fun result out => P result (got ++ out)) : After P (.ok got, r) := by
  rcases got with _ | ⟨b, got⟩
  · exact absurd rfl hgot
  · exact h

lemma ReadToEnd.of_read {state : FramedState}
    (h : ∀ short cap, 1 ≤ cap → After P (FramedBodyReader.read cap ⟨⟨left, short⟩, state⟩)) :
    ReadToEnd left state P := by
  intro short caps hcaps
  have hafter := h short (caps 0) (hcaps 0)
  rcases hread : FramedBodyReader.read (caps 0) ⟨⟨left, short⟩, state⟩ with ⟨e | _ | ⟨b, got⟩, r⟩
  · rw [hread] at hafter
    rw [readToEnd_of_error hread]
    exact hafter
  · rw [hread] at hafter
    rw [readToEnd_of_nil hread]
    exact hafter
  · rw [hread] at hafter
    rw [readToEnd_of_got (List.cons_ne_nil b got) hread]
    exact hafter r.inner.short (fun k => caps (k + 1)) fun k => hcaps (k + 1)

lemma read_beginning (cap : Nat) (hcap : 1 ≤ cap) (hleft : left ≠ []) (short : Nat → Nat) :
    ∃ k short', 1 ≤ k ∧ k ≤ cap ∧ k ≤ left.length ∧
      (⟨left, short⟩ : Source).read cap = (left.take k, ⟨left.drop k, short'⟩) :=
  ⟨(⟨left, short⟩ : Source).amount cap, _, Source.amount_pos hcap hleft, Source.amount_le_cap _ _,
    Source.amount_le_left _ _, rfl⟩

/-! ### Inside a chunk -/

lemma read_chunked (hcap : 1 ≤ cap) (hn : n ≠ 0) (inner : Source) :
    FramedBodyReader.read cap ⟨inner, .chunked n false⟩ = readChunk cap n inner := by
  unfold FramedBodyReader.read
  dsimp only
  rw [if_neg (by omega), if_neg Bool.false_ne_true, if_neg hn]

lemma readChunk_nil (cap n : Nat) (short : Nat → Nat) :
    ∃ e r, readChunk cap n ⟨[], short⟩ = (.error e, r) := by
  unfold readChunk
  rw [Source.read_nil rfl]
  exact ⟨_, _, rfl⟩

lemma readChunk_more {inner inner' : Source}
    (hread : inner.read (min cap n) = (got, inner')) (hgot : got ≠ []) (hmore : got.length < n) :
    readChunk cap n inner = (.ok got, ⟨inner', .chunked (n - got.length) false⟩) := by
  unfold readChunk
  rw [hread]
  rcases got with _ | ⟨b, got⟩
  · exact absurd rfl hgot
  · exact if_neg (by omega)

lemma readChunk_last {inner inner' inner'' : Source}
    (hread : inner.read (min cap n) = (got, inner')) (hgot : got ≠ []) (hlast : n ≤ got.length)
    (hline : consumeLine inner' = (.ok (), inner'')) :
    readChunk cap n inner = (.ok got, ⟨inner'', .chunked 0 false⟩) := by
  unfold readChunk
  rw [hread]
  rcases got with _ | ⟨b, got⟩
  · exact absurd rfl hgot
  · dsimp only
    rw [if_pos (by omega), hline]

lemma ends_data (hdata : data ≠ []) (htail : Returns consumeLine tail () left')
    (hrest : ReadToEnd left' (.chunked 0 false) fun result out => P result (data ++ out)) :
    ReadToEnd (data ++ tail) (.chunked data.length false) P := by
  induction hlen : data.length using Nat.strong_induction_on generalizing data P with
  | _ m ih =>
    subst hlen
    have hpos := List.length_pos_of_ne_nil hdata
    refine ReadToEnd.of_read fun short cap hcap => ?_
    rw [read_chunked hcap (by omega)]
    obtain ⟨k, short₁, hk, hkcap, -, hread⟩ := read_beginning (min cap data.length) (by omega)
      (List.append_ne_nil_of_left_ne_nil hdata tail) short
    have hkdata : k ≤ data.length := by omega
    rw [List.take_append_of_le_length hkdata, List.drop_append_of_le_length hkdata] at hread
    have hgotlen : (data.take k).length = k := by
      rw [List.length_take]
      omega
    have hgot : data.take k ≠ [] := List.ne_nil_of_length_pos (by omega)
    by_cases hlast : k = data.length
    · -- the last piece of the data
      rw [hlast, List.take_length, List.drop_length, List.nil_append] at hread
      obtain ⟨short₂, hline⟩ := htail short₁
      rw [readChunk_last hread hdata (le_refl _) hline]
      exact After.of_got hdata hrest
    · rw [readChunk_more hread hgot (by omega), hgotlen]
      have hdrop : data.drop k ≠ [] := List.ne_nil_of_length_pos (by rw [List.length_drop]; omega)
      have hmore := ih (data.drop k).length (by rw [List.length_drop]; omega) hdrop
        (P := fun result out => P result (data.take k ++ out)) ?_ rfl
      · rw [List.length_drop] at hmore
        exact After.of_got hgot hmore
      · refine hrest.imp fun result out h => ?_
        rw [← List.append_assoc, List.take_append_drop]
        exact h

lemma ends_data_short (h : left.length < n) : ReadToEnd left (.chunked n false) Failed := by
  induction n using Nat.strong_induction_on generalizing left with
  | _ n ih =>
    refine ReadToEnd.of_read fun short cap hcap => ?_
    rw [read_chunked hcap (by omega)]
    by_cases hleft : left = []
    · rw [hleft]
      obtain ⟨e, r, hread⟩ := readChunk_nil cap n short
      rw [hread]
      exact ⟨e, rfl⟩
    · obtain ⟨k, short₁, hk, -, hkleft, hread⟩ := read_beginning (min cap n) (by omega) hleft short
      have hgotlen : (left.take k).length = k := by
        rw [List.length_take]
        omega
      have hgot : left.take k ≠ [] := List.ne_nil_of_length_pos (by omega)
      rw [readChunk_more hread hgot (by omega), hgotlen]
      refine After.of_got hgot (ih (n - k) (by omega) ?_)
      rw [List.length_drop]
      omega

/-! ### Between chunks -/

lemma ends_size (h : Returns readChunkSize left n left') (hn : n ≠ 0) (hrest : ReadToEnd left' (.chunked n false) P) :
    ReadToEnd left (.chunked 0 false) P := by
  intro short caps hcaps
  obtain ⟨short', hsize⟩ := h short
  have hsame : ∀ cap, 1 ≤ cap → FramedBodyReader.read cap ⟨⟨left, short⟩, .chunked 0 false⟩ =
      FramedBodyReader.read cap ⟨⟨left', short'⟩, .chunked n false⟩ := by
    intro cap hcap
    rw [read_chunked hcap hn]
    unfold FramedBodyReader.read
    dsimp only
    rw [if_neg (by omega), if_neg Bool.false_ne_true, if_pos rfl, hsize]
    exact if_neg hn
  have hread := hrest short' caps hcaps
  rw [readToEnd, ← hsame (caps 0) (hcaps 0), ← readToEnd] at hread
  exact hread

lemma ends_zero (h : Returns readChunkSize left 0 left') (hline : Returns consumeLine left' () tail)
    (hP : P (.ok ()) []) : ReadToEnd left (.chunked 0 false) P := by
  refine ReadToEnd.of_read fun short cap hcap => ?_
  obtain ⟨short₁, hsize⟩ := h short
  obtain ⟨short₂, hconsume⟩ := hline short₁
  unfold FramedBodyReader.read
  dsimp only
  rw [if_neg (by omega), if_neg Bool.false_ne_true, if_pos rfl, hsize]
  dsimp only
  rw [if_pos rfl, hconsume]
  exact hP

lemma ends_refused (h : AlwaysFails readChunkSize left) : ReadToEnd left (.chunked 0 false) Failed := by
  refine ReadToEnd.of_read fun short cap hcap => ?_
  obtain ⟨e, s', hsize⟩ := h short
  unfold FramedBodyReader.read
  dsimp only
  rw [if_neg (by omega), if_neg Bool.false_ne_true, if_pos rfl, hsize]
  exact ⟨e, rfl⟩

lemma ends_eof : ReadToEnd [] (.chunked 0 false) Failed :=
  ends_refused ((readLineBytes_cut List.not_mem_nil (Nat.zero_le _)).chunkSize_error (e := _) rfl)

/-! ### A body of known length -/

/-- As much of a body as is there is delivered, and its end is not noticed. -/
lemma ends_contentLength (data rest : Bytes) (h : data.length = n ∨ rest = [] ∧ data.length ≤ n) :
    ReadToEnd (data ++ rest) (.contentLength n) fun result out => result = .ok () ∧ out = data := by
  induction hlen : data.length using Nat.strong_induction_on generalizing data n with
  | _ m ih =>
    subst hlen
    refine ReadToEnd.of_read fun short cap hcap => ?_
    unfold FramedBodyReader.read
    dsimp only
    rw [if_neg (by omega)]
    by_cases hn : n = 0
    · have hnil : data = [] := List.length_eq_zero_iff.mp (by omega)
      rw [if_pos hn, hnil]
      exact ⟨rfl, rfl⟩
    rw [if_neg hn]
    by_cases hleft : data ++ rest = []
    · rw [hleft, Source.read_nil rfl, (List.append_eq_nil_iff.mp hleft).1]
      exact ⟨rfl, rfl⟩
    · obtain ⟨k, short₁, hk, hkcap, hkleft, hread⟩ := read_beginning (min cap n) (by omega) hleft short
      have hkdata : k ≤ data.length := by
        rcases h with h | ⟨hrest, -⟩
        · omega
        · rw [hrest, List.append_nil] at hkleft
          exact hkleft
      rw [List.take_append_of_le_length hkdata, List.drop_append_of_le_length hkdata] at hread
      have hgotlen : (data.take k).length = k := by
        rw [List.length_take]
        omega
      have hfits : (data.drop k).length = n - k ∨ rest = [] ∧ (data.drop k).length ≤ n - k := by
        rw [List.length_drop]
        rcases h with h | ⟨hrest, h⟩
        · left
          omega
        · right
          exact ⟨hrest, by omega⟩
      have hmore := ih (data.drop k).length (by rw [List.length_drop]; omega) (data.drop k) hfits rfl
      rw [hread]
      dsimp only
      rw [hgotlen]
      refine After.of_got (List.ne_nil_of_length_pos (by omega)) (hmore.imp fun result out hout => ⟨hout.1, ?_⟩)
      rw [hout.2, List.take_append_drop]

end Rules

end TeechatOpenapi.Sgx
