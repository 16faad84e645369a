import TeechatOpenapi.Cvm.Completion
import TeechatOpenapi.Cvm.OpeWrap
import TeechatOpenapi.Lib.Picked

/-!
# The engine's answer, decrypted (`openapi-platform-cvm/src/ope_upstream.rs`)

The relay hands the edge a body of lines: one names the server's share, the others carry a chunk with its number.

The fields named `delivered` are history: the plaintexts that were decrypted so far, in order.  No definition reads
them.
-/

namespace TeechatOpenapi.Cvm

open Lib TeechatOpenapi.Core

/-! ## Lines -/

/-- A line of the body, as the loops see it. -/
inductive StreamLine where
  | other
  | share (serverShare : Str)
  | chunk (seq : Nat) (ciphertext : Str)
  deriving DecidableEq

def StreamLine.label? : StreamLine → Option Nat
  | .chunk seq _ => some seq
  | _ => none

/-- The meaning of the value on a line.  Only the streaming loop passes over trailers. -/
def streamLine (skipTrailer : Bool) (v : Json) : StreamLine :=
  if v.getStr? "ope_stream" ≠ some "1.0" then .other
  else if skipTrailer ∧ v.getStr? "type" = some "trailer" then .other
  else
    match v.getStr? "server_share" with
    | some share => .share share
    | none =>
      match (v.get? "seq").bind Json.asU64?, v.getStr? "ciphertext" with
      | some seq, some ct => .chunk seq ct
      | _, _ => .other

variable {s : Bridge}

section Stream

variable (X : Crates) {O : Ope}

/-- The meaning of a line: an empty line, and one that is not JSON, is passed over. -/
def readLine (skipTrailer : Bool) (line : Str) : StreamLine :=
  let trimmed := trim line
  if trimmed = [] then .other
  else
    match X.json.value (utf8 trimmed) with
    | .ok v => streamLine skipTrailer v
    | .error _ => .other

/-- `decrypt_chunk` with its error as the edge reports it. -/
def openChunk (enc : EncryptedOpeRequest O) (serverShare : Str) (seq : Nat) (ct : Str) : Except ApiError Bytes :=
  -- `seq as u32` keeps the low 32 bits
  mapErr (fun e => ApiError.upstream e.display) (decryptChunk enc serverShare (UInt32.ofNat seq) ct)

/-- The chunk of a line, which must come after a share. -/
def openLine (enc : EncryptedOpeRequest O) (serverShare : Str) (seq : Nat) (ct : Str) : Except ApiError Bytes := do
  failIf (serverShare = []) (ApiError.upstream "ope ciphertext before server_share")
  openChunk enc serverShare seq ct

/-! ## The body read to its end -/

/-- The aggregate of a body, and the share the loop holds. -/
structure Buffered where
  serverShare : Str
  agg : AggregatedCompletion
  delivered : List Bytes

def Buffered.start (serverShare : Str) : Buffered := ⟨serverShare, .empty, []⟩

/-- A decrypted plaintext goes into the aggregate. -/
def Buffered.append (st : Buffered) (plain : Bytes) : Except ApiError Buffered := do
  let agg ← appendPlainToAggregate X st.agg plain
  pure { st with agg := agg, delivered := st.delivered ++ [plain] }

/-- One round of the loop of `decrypt_ndjson_to_completion`. -/
def ndjsonStep (enc : EncryptedOpeRequest O) (st : Buffered) : StreamLine → Except ApiError Buffered
  | .other => .ok st
  | .share share => .ok { st with serverShare := share }
  | .chunk seq ct => do
    let plain ← openLine enc st.serverShare seq ct
    st.append X plain

/-- The lines of a body that was read to its end. -/
def ndjsonLines (raw : Bytes) : List StreamLine := (lines (fromUtf8Lossy raw)).map (readLine X false)

/-- `decrypt_ndjson_to_completion`; its result is the field `agg`. -/
def decryptNdjsonToCompletion (enc : EncryptedOpeRequest O) (raw : Bytes) : Except ApiError Buffered :=
  (ndjsonLines X raw).foldlM (ndjsonStep X enc) (.start [])

def looksLikeOpeNdjson (raw : Bytes) : Bool :=
  (lines (fromUtf8Lossy raw)).any fun l => containsStr l "\"ope_stream\""

/-- One round of the loop over `chunks`: the chunk's number is its place in the array. -/
def chunkStep (enc : EncryptedOpeRequest O) (st : Buffered) (c : Json × Nat) : Except ApiError Buffered := do
  let ct ← okOr c.1.asStr? (ApiError.upstream "ope chunk not string")
  let plain ← openChunk enc st.serverShare c.2 ct
  st.append X plain

/-- The `chunks` of a buffered body. -/
def chunksOf (v : Json) : List Json := ((v.get? "chunks").bind Json.asArray?).getD []

/-- `decrypt_ope_body_to_completion`; its result is the field `agg`. -/
def decryptOpeBodyToCompletion (enc : EncryptedOpeRequest O) (raw : Bytes) (contentType : Str) :
    Except ApiError Buffered :=
  if containsStr contentType "ope+json-stream" ∨ looksLikeOpeNdjson raw then decryptNdjsonToCompletion X enc raw
  else do
    let v ← mapErr (fun e => ApiError.upstream ("ope body json: ".toList ++ e)) (X.json.value raw)
    let share ← okOr (v.getStr? "server_share")
      (ApiError.upstream "unexpected ope response shape (expected stream or server_share/chunks)")
    (chunksOf v).zipIdx.foldlM (chunkStep X enc) (.start share)

/-! ## The body turned into events -/

/-- The variables of the bridge: what it has written, its count of that, and what it holds between lines. -/
structure Bridge where
  out : Bytes
  written : Nat
  serverShare : Str
  pending : Bytes
  sawFinish : Bool
  delivered : List Bytes

def Bridge.start : Bridge := ⟨[], 0, [], [], false, []⟩

/-- A `Read`: the octets it yields, and the error it then ends with, if it does not just end. -/
structure Reader where
  bytes : Bytes
  fault : Option Str

/-- What a bridge is given besides the body: the `Write`, which may refuse octets after those it took, the
completion's id and its model. -/
structure Sink where
  refuses : (taken next : Bytes) → Option Str
  id : Str
  model : Str

variable (sink : Sink)

/-- `write_all_count`; every caller adds the count to `written`. -/
def writeAllCount (bytes : Bytes) : Op Bridge ApiError Unit := fun s =>
  match sink.refuses s.out bytes with
  | some e => (.error (.upstream e), s)
  | none => (.ok (), { s with out := s.out ++ bytes, written := s.written + bytes.length })

def writeSse (data : Str) : Op Bridge ApiError Unit :=
  writeAllCount sink (utf8 ("data: ".toList ++ data ++ "\n\n".toList))

def writeSome : Option Str → Op Bridge ApiError Unit
  | some data => writeSse sink data
  | none => pure ()

def emitOpenaiDeltaFrame (frame : Json) : Op Bridge ApiError Unit :=
  match firstOf frame "choices" with
  | none => pure ()
  | some choice => do
    let finish := finishOf choice
    Op.modify fun s => { s with sawFinish := s.sawFinish || finish.isSome }
    writeSome sink
      (openaiSseFromStructuredDelta X sink.id sink.model ((choice.get? "delta").getD (Json.object [])) finish)

/-- One text of a legacy stream: a frame, or content. -/
def emitPiece (piece : Str) : Op Bridge ApiError Unit :=
  if piece = [] then pure ()
  else
    match deltaFrame? X (utf8 piece) with
    | some v => emitOpenaiDeltaFrame X sink v
    | none => writeSse sink (openaiSseDelta X sink.id sink.model piece none)

def emitPieces : List Str → Op Bridge ApiError Unit
  | [] => pure ()
  | piece :: rest => do
    emitPiece X sink piece
    emitPieces rest

/-- The frame that a whole plaintext is, when it is a text and one. -/
def plainFrame? (plain : Bytes) : Option Json :=
  match fromUtf8 plain with
  | .ok _ => deltaFrame? X plain
  | .error _ => none

def processDecryptedPlaintext (plain : Bytes) : Op Bridge ApiError Unit :=
  match plainFrame? X plain with
  | some v => emitOpenaiDeltaFrame X sink v
  | none => do
    let s ← Op.get
    let pushed ← Op.lift (utf8Push s.pending plain)
    Op.modify fun s => { s with pending := pushed.pending }
    emitPieces X sink pushed.texts

/-- One round of the loop of `bridge_ope_to_openai_sse`. -/
def bridgeStep (enc : EncryptedOpeRequest O) : StreamLine → Op Bridge ApiError Unit
  | .other => pure ()
  | .share share => Op.modify fun s => { s with serverShare := share }
  | .chunk seq ct => do
    let s ← Op.get
    let plain ← Op.lift (openLine enc s.serverShare seq ct)
    Op.modify fun s => { s with delivered := s.delivered ++ [plain] }
    if plain = [] then pure () else processDecryptedPlaintext X sink plain

/-- The loop of `bridge_ope_to_openai_sse`; `read_line` fails on a line that is not UTF-8. -/
def bridgeLoop (enc : EncryptedOpeRequest O) : List Bytes → Op Bridge ApiError Unit
  | [] => pure ()
  | line :: rest => do
    let text ← Op.lift (mapErr (fun _ => ApiError.upstream "stream did not contain valid UTF-8") (fromUtf8 line))
    bridgeStep X sink enc (readLine X true text)
    bridgeLoop enc rest

def Reader.finish (reader : Reader) : Except ApiError Unit :=
  match reader.fault with
  | some e => .error (.upstream e)
  | none => .ok ()

/-- The lines `read_line` returns: those that end before a fault, or all of them. -/
def Reader.lines (reader : Reader) : List Bytes :=
  if reader.fault.isSome then (byteLines reader.bytes).filter fun l => l.getLast? = some 10 else byteLines reader.bytes

/-- The tail that the accumulator held back. -/
def emitTail : Op Bridge ApiError Unit := do
  let s ← Op.get
  let tail ← Op.lift (utf8Finish s.pending)
  emitPiece X sink (tail.getD [])

def emitAggregatedCompletionAsSse (agg : AggregatedCompletion) : Op Bridge ApiError Unit := do
  writeSome sink
    (if agg.content = [] then none else some (openaiSseDelta X sink.id sink.model agg.content none))
  let indexed := agg.toolCalls.mapIdx fun i tc => tc.set "index" (.number (.posInt i))
  writeSome sink
    (if agg.toolCalls = [] then none
    else openaiSseFromStructuredDelta X sink.id sink.model (.object [("tool_calls", .array indexed)]) none)
  match agg.finishReason.or (if agg.toolCalls = [] then none else some "tool_calls") with
  | none => pure ()
  | some fr => do
    Op.modify fun s => { s with sawFinish := true }
    writeSse sink (openaiSseDelta X sink.id sink.model [] (some fr))

def isStreamed (contentType : Str) : Bool := containsStr contentType "ope+json-stream" ∨ contentType = []

/-- The body of `bridge_ope_to_openai_sse` up to the closing events. -/
def bridgeBody (enc : EncryptedOpeRequest O) (reader : Reader) (contentType : Str) : Op Bridge ApiError Unit :=
  if isStreamed contentType then do
    bridgeLoop X sink enc reader.lines
    Op.lift reader.finish
    emitTail X sink
  else do
    Op.lift reader.finish
    let body ← Op.lift (decryptOpeBodyToCompletion X enc reader.bytes contentType)
    Op.modify fun s => { s with delivered := body.delivered }
    emitAggregatedCompletionAsSse X sink body.agg

def bridgeClose : Op Bridge ApiError Unit := do
  let s ← Op.get
  writeSome sink (if s.sawFinish then none else some (openaiSseDelta X sink.id sink.model [] (some "stop")))
  writeAllCount sink (utf8 "data: [DONE]\n\n".toList)

def bridgeOpeToOpenaiSse (enc : EncryptedOpeRequest O) (reader : Reader) (contentType : Str) :
    Op Bridge ApiError Nat := do
  bridgeBody X sink enc reader contentType
  bridgeClose X sink
  let s ← Op.get
  pure s.written

/-! ### A chunk of text -/

variable {X sink}

lemma ndjsonStep_text {enc : EncryptedOpeRequest O} {st : Buffered} {seq : Nat} {ct t : Str}
    (hopen : openLine enc st.serverShare seq ct = .ok (utf8 t)) (hframe : deltaFrame? X (utf8 t) = none) :
    ndjsonStep X enc st (.chunk seq ct) =
      .ok ⟨st.serverShare, { st.agg with content := st.agg.content ++ t }, st.delivered ++ [utf8 t]⟩ := by
  simp only [ndjsonStep, Buffered.append, hopen, ok_bind, appendPlainToAggregate_text st.agg hframe]
  rfl

lemma processDecryptedPlaintext_text {t : Str} (hsink : ∀ taken next, sink.refuses taken next = none)
    (hframe : deltaFrame? X (utf8 t) = none) (ht : t ≠ []) (hpending : s.pending = []) :
    ∃ out written,
      processDecryptedPlaintext X sink (utf8 t) s = (.ok (), { s with out := out, written := written }) := by
  have hplain : plainFrame? X (utf8 t) = none := by simp only [plainFrame?, fromUtf8_utf8, hframe]
  simp only [processDecryptedPlaintext, hplain, Op.bind_run, Op.get_run, Op.lift_run, hpending, utf8Push_text, ht,
    if_false, Op.modify_run, emitPieces, emitPiece, hframe, writeSse, writeAllCount, hsink]
  rw [← hpending]
  exact ⟨_, _, rfl⟩

lemma bridgeStep_text {enc : EncryptedOpeRequest O} {seq : Nat} {ct t : Str}
    (hsink : ∀ taken next, sink.refuses taken next = none) (hopen : openLine enc s.serverShare seq ct = .ok (utf8 t))
    (hframe : deltaFrame? X (utf8 t) = none) (ht : t ≠ []) (hpending : s.pending = []) :
    ∃ out written, bridgeStep X sink enc (.chunk seq ct) s =
      (.ok (), { s with out := out, written := written, delivered := s.delivered ++ [utf8 t] }) := by
  have hne : utf8 t ≠ [] := fun h => ht (utf8_eq_nil.mp h)
  simp only [bridgeStep, Op.bind_run, Op.get_run, Op.lift_run, hopen, Op.modify_run, hne, if_false]
  exact processDecryptedPlaintext_text hsink hframe ht hpending

end Stream

/-! ## What the bridge leaves alone -/

section Frame

variable (X : Crates) (sink : Sink)

/-- What the loop holds between lines besides the output: the share and the history. -/
def Bridge.held (s : Bridge) : Str × List Bytes := (s.serverShare, s.delivered)

/-- An operation that only writes. -/
def Writes {α : Type} (x : Op Bridge ApiError α) : Prop := Op.Fixes Bridge.held x

lemma Writes.ite {c : Prop} [Decidable c] {x y : Op Bridge ApiError Unit} (hx : Writes x) (hy : Writes y) :
    Writes (if c then x else y) := by
  split
  · exact hx
  · exact hy

lemma writes_pure {α : Type} (a : α) : Writes (pure a) := Op.Fixes.pure _ a

lemma writes_get : Writes Op.get := fun _ => rfl

lemma writes_writeAllCount (bytes : Bytes) : Writes (writeAllCount sink bytes) := by
  intro s
  unfold writeAllCount
  split <;> rfl

lemma writes_writeSse (data : Str) : Writes (writeSse sink data) := writes_writeAllCount sink _

lemma writes_writeSome (data : Option Str) : Writes (writeSome sink data) := by
  cases data with
  | none => exact writes_pure ()
  | some data => exact writes_writeSse sink data

lemma writes_emitOpenaiDeltaFrame (frame : Json) : Writes (emitOpenaiDeltaFrame X sink frame) := by
  unfold emitOpenaiDeltaFrame
  split
  · exact writes_pure ()
  · exact Op.Fixes.bind (fun _ => rfl) fun _ => writes_writeSome sink _

lemma writes_emitPiece (piece : Str) : Writes (emitPiece X sink piece) := by
  unfold emitPiece
  refine Writes.ite (writes_pure ()) ?_
  split
  · exact writes_emitOpenaiDeltaFrame X sink _
  · exact writes_writeSse sink _

lemma writes_emitPieces (pieces : List Str) : Writes (emitPieces X sink pieces) := by
  induction pieces with
  | nil => exact writes_pure ()
  | cons piece rest ih => exact Op.Fixes.bind (writes_emitPiece X sink piece) fun _ => ih

lemma writes_processDecryptedPlaintext (plain : Bytes) : Writes (processDecryptedPlaintext X sink plain) := by
  unfold processDecryptedPlaintext
  split
  · exact writes_emitOpenaiDeltaFrame X sink _
  · refine Op.Fixes.bind writes_get fun s => ?_
    refine Op.Fixes.lift_bind fun pushed => ?_
    refine Op.Fixes.bind (fun _ => rfl) fun _ => ?_
    exact writes_emitPieces X sink pushed.texts

lemma writes_emitTail : Writes (emitTail X sink) := by
  refine Op.Fixes.bind writes_get fun s => ?_
  refine Op.Fixes.lift_bind fun tail => ?_
  exact writes_emitPiece X sink (tail.getD [])

lemma writes_emitAggregatedCompletionAsSse (agg : AggregatedCompletion) :
    Writes (emitAggregatedCompletionAsSse X sink agg) := by
  unfold emitAggregatedCompletionAsSse
  refine Op.Fixes.bind (writes_writeSome sink _) fun _ => ?_
  refine Op.Fixes.bind (writes_writeSome sink _) fun _ => ?_
  split
  · exact writes_pure ()
  · exact Op.Fixes.bind (fun _ => rfl) fun _ => writes_writeSse sink _

lemma writes_bridgeClose : Writes (bridgeClose X sink) := by
  refine Op.Fixes.bind writes_get fun s => ?_
  refine Op.Fixes.bind (writes_writeSome sink _) fun _ => ?_
  exact writes_writeAllCount sink _

end Frame

/-! ## What the engine sent, and what is delivered of it -/

/-- The engine's answer in one session: its share, its plaintext chunks, and the ciphertext of each.  A chunk opens
under its own number and no other ciphertext does. -/
structure EngineStream {O : Ope} (enc : EncryptedOpeRequest O) where
  share : Str
  plains : List Bytes
  ciphertext : Nat → Str
  opens : ∀ (seq : UInt32) (ct : Str) (p : Bytes),
    decryptChunk enc share seq ct = .ok p ↔ ct = ciphertext seq.toNat ∧ plains[seq.toNat]? = some p

namespace EngineStream

variable {X : Crates} {O : Ope} {enc : EncryptedOpeRequest O} (S : EngineStream enc) {sink : Sink}

/-- The relay names no share but the engine's. -/
def SharedBy (ls : List StreamLine) : Prop := ∀ s, StreamLine.share s ∈ ls → s = S.share

/-- The `k`-th chunk line carries a number whose low 32 bits name the `k`-th chunk, or one that says the same. -/
def LabelledInOrder (ls : List StreamLine) : Prop :=
  ∀ k l : Nat, (ls.filterMap StreamLine.label?)[k]? = some l → S.plains[l % 2 ^ 32]? = S.plains[k]?

/-- The loops hold no share or the engine's, and have delivered what the lines so far name. -/
structure Delivered (ls : List StreamLine) (serverShare : Str) (got : List Bytes) : Prop where
  share : serverShare = [] ∨ serverShare = S.share
  picked : Picked S.plains (· % 2 ^ 32) (ls.filterMap StreamLine.label?) got

variable {S} {ls : List StreamLine} {share : Str} {got : List Bytes}

lemma labels_append_of_none {l : StreamLine} (h : l.label? = none) :
    (ls ++ [l]).filterMap StreamLine.label? = ls.filterMap StreamLine.label? := by
  rw [List.filterMap_append, List.filterMap_cons_none h, List.filterMap_nil, List.append_nil]

lemma Delivered.nil : S.Delivered [] [] [] := ⟨.inl rfl, .nil⟩

lemma Delivered.other (h : S.Delivered ls share got) : S.Delivered (ls ++ [.other]) share got :=
  ⟨h.share, by rw [labels_append_of_none rfl]; exact h.picked⟩

lemma Delivered.newShare {s : Str} (h : S.Delivered ls share got) (hs : s = S.share) :
    S.Delivered (ls ++ [.share s]) s got :=
  ⟨.inr hs, by rw [labels_append_of_none rfl]; exact h.picked⟩

lemma openChunk_picks {seq : Nat} {ct : Str} {p : Bytes} (h : openChunk enc S.share seq ct = .ok p) :
    S.plains[seq % 2 ^ 32]? = some p := by
  have hp := ((S.opens _ _ _).mp (mapErr_eq_ok.mp h)).2
  rwa [UInt32.toNat_ofNat'] at hp

lemma Delivered.chunk {seq : Nat} {ct : Str} {p : Bytes} (h : S.Delivered ls share got)
    (hp : openLine enc share seq ct = .ok p) : S.Delivered (ls ++ [.chunk seq ct]) share (got ++ [p]) := by
  obtain ⟨_, hne, hopen⟩ := bind_eq_ok.mp hp
  have hshare : share = S.share := h.share.resolve_left (failIf_eq_ok.mp hne)
  subst hshare
  refine ⟨h.share, ?_⟩
  rw [List.filterMap_append]
  exact h.picked.snoc (openChunk_picks hopen)

/-! ### The body read to its end -/

lemma Buffered.append_delivered {st st' : Buffered} {plain : Bytes} (h : st.append X plain = .ok st') :
    st'.serverShare = st.serverShare ∧ st'.delivered = st.delivered ++ [plain] := by
  obtain ⟨agg, _, hst⟩ := bind_eq_ok.mp h
  cases hst
  exact ⟨rfl, rfl⟩

/-- One line keeps what the loop holds in step with the lines read. -/
lemma ndjsonStep_delivered {st st' : Buffered} {l : StreamLine} (hS : S.SharedBy [l])
    (h : S.Delivered ls st.serverShare st.delivered) (hstep : ndjsonStep X enc st l = .ok st') :
    S.Delivered (ls ++ [l]) st'.serverShare st'.delivered := by
  cases l with
  | other =>
    cases hstep
    exact h.other
  | share s =>
    cases hstep
    exact h.newShare (hS s (List.mem_singleton_self _))
  | chunk seq ct =>
    obtain ⟨plain, hplain, happ⟩ := bind_eq_ok.mp hstep
    obtain ⟨hs, hd⟩ := Buffered.append_delivered happ
    rw [hs, hd]
    exact h.chunk hplain

lemma ndjson_delivered {st st' : Buffered} (rest : List StreamLine) (hS : S.SharedBy rest)
    (h : S.Delivered ls st.serverShare st.delivered) (hrun : rest.foldlM (ndjsonStep X enc) st = .ok st') :
    S.Delivered (ls ++ rest) st'.serverShare st'.delivered := by
  -- along the lines: what was read moves from `rest` into `ls`
  induction rest generalizing ls st with
  | nil =>
    cases hrun
    simpa using h
  | cons l rest ih =>
    rw [List.foldlM_cons] at hrun
    obtain ⟨st₁, hstep, hrest⟩ := bind_eq_ok.mp hrun
    have h₁ := ndjsonStep_delivered (fun s hs => hS s (by simp_all)) h hstep
    simpa using ih (fun s hs => hS s (List.mem_cons_of_mem _ hs)) h₁ hrest

/-- The lines that a buffered body amounts to. -/
def arrayLines (share : Str) (chunks : List (Json × Nat)) : List StreamLine :=
  .share share :: chunks.map fun c => .chunk c.2 (c.1.asStr?.getD [])

lemma array_delivered {st st' : Buffered} (ls : List StreamLine) (chunks : List (Json × Nat))
    (hs : st.serverShare = S.share) (h : Picked S.plains (· % 2 ^ 32) (ls.filterMap StreamLine.label?) st.delivered)
    (hrun : chunks.foldlM (chunkStep X enc) st = .ok st') :
    Picked S.plains (· % 2 ^ 32)
      ((ls ++ chunks.map fun c => StreamLine.chunk c.2 (c.1.asStr?.getD [])).filterMap StreamLine.label?)
      st'.delivered := by
  induction chunks generalizing ls st with
  | nil =>
    cases hrun
    simpa using h
  | cons c chunks ih =>
    rw [List.foldlM_cons] at hrun
    obtain ⟨st₁, hstep, hrest⟩ := bind_eq_ok.mp hrun
    obtain ⟨ct, hct, hopen⟩ := bind_eq_ok.mp hstep
    obtain ⟨plain, hplain, happ⟩ := bind_eq_ok.mp hopen
    obtain ⟨hs₁, hd₁⟩ := Buffered.append_delivered happ
    rw [hs] at hplain
    have h₁ : Picked S.plains (· % 2 ^ 32)
        ((ls ++ [StreamLine.chunk c.2 (c.1.asStr?.getD [])]).filterMap StreamLine.label?) st₁.delivered := by
      rw [hd₁, List.filterMap_append]
      exact h.snoc (openChunk_picks hplain)
    simpa using ih _ (hs₁.trans hs) h₁ hrest

end EngineStream

section Lines

variable (X : Crates)

/-- The lines that `decrypt_ope_body_to_completion` reads. -/
def bodyLines (raw : Bytes) (contentType : Str) : List StreamLine :=
  if containsStr contentType "ope+json-stream" ∨ looksLikeOpeNdjson raw then ndjsonLines X raw
  else
    match X.json.value raw with
    | .ok v => EngineStream.arrayLines ((v.getStr? "server_share").getD []) (chunksOf v).zipIdx
    | .error _ => []

/-- The meaning of the lines that `read_line` returns. -/
def streamedLines (ls : List Bytes) : List StreamLine :=
  ls.filterMap fun l => (toOption (fromUtf8 l)).map (readLine X true)

/-- The lines that `bridge_ope_to_openai_sse` reads. -/
def bridgeLines (reader : Reader) (contentType : Str) : List StreamLine :=
  if isStreamed contentType then streamedLines X reader.lines else bodyLines X reader.bytes contentType

variable {X}

lemma readLine_congr {skipTrailer : Bool} {t l : Str} (h : trim t = trim l) :
    readLine X skipTrailer t = readLine X skipTrailer l := by
  simp only [readLine, h]

lemma ndjsonLines_flatten (ls : List Str) (h : ∀ l ∈ ls, IsLine l) :
    ndjsonLines X (utf8 ls.flatten) = ls.map (readLine X false) := by
  rw [ndjsonLines, fromUtf8Lossy_utf8]
  induction ls with
  | nil => rfl
  | cons l ls ih =>
    obtain ⟨hl, hls⟩ := List.forall_mem_cons.mp h
    obtain ⟨t, hlines, htrim⟩ := lines_append ls.flatten hl
    rw [List.flatten_cons, hlines, List.map_cons, readLine_congr htrim, ih hls]
    rfl

lemma streamedLines_flatten (ls : List Str) (h : ∀ l ∈ ls, IsLine l) :
    streamedLines X (byteLines (utf8 ls.flatten)) = ls.map (readLine X true) := by
  rw [byteLines_flatten ls h, streamedLines, List.filterMap_map, ← List.filterMap_eq_map]
  refine List.filterMap_congr fun l _ => ?_
  simp only [Function.comp_apply, fromUtf8_utf8, toOption, Option.map_some]

lemma bridgeLoop_texts {O : Ope} {sink : Sink} {enc : EncryptedOpeRequest O} (l : Str) (ls : List Bytes) :
    bridgeLoop X sink enc (utf8 l :: ls) = (do
      bridgeStep X sink enc (readLine X true l)
      bridgeLoop X sink enc ls) := by
  rw [bridgeLoop, fromUtf8_utf8]
  rfl

end Lines

variable {contentType : Str}

namespace EngineStream

variable {X : Crates} {O : Ope} {enc : EncryptedOpeRequest O} {S : EngineStream enc} {sink : Sink}
  {ls : List StreamLine}

lemma decryptNdjson_picked {raw : Bytes} {d : Buffered} (hS : S.SharedBy (ndjsonLines X raw))
    (h : decryptNdjsonToCompletion X enc raw = .ok d) :
    Picked S.plains (· % 2 ^ 32) ((ndjsonLines X raw).filterMap StreamLine.label?) d.delivered :=
  (ndjson_delivered _ hS Delivered.nil h).picked

lemma decryptOpeBody_picked {raw : Bytes} {d : Buffered}
    (hS : S.SharedBy (bodyLines X raw contentType)) (h : decryptOpeBodyToCompletion X enc raw contentType = .ok d) :
    Picked S.plains (· % 2 ^ 32) ((bodyLines X raw contentType).filterMap StreamLine.label?) d.delivered := by
  unfold decryptOpeBodyToCompletion at h
  unfold bodyLines at hS ⊢
  split at h
  · rename_i hnd
    rw [if_pos hnd] at hS ⊢
    exact decryptNdjson_picked hS h
  · rename_i hnd
    rw [if_neg hnd] at hS ⊢
    obtain ⟨v, hv, h⟩ := bind_eq_ok.mp h
    obtain ⟨share, hshare, hrun⟩ := bind_eq_ok.mp h
    rw [mapErr_eq_ok.mp hv] at hS ⊢
    simp only [okOr_eq_ok.mp hshare, Option.getD_some] at hS ⊢
    have hs : share = S.share := hS share List.mem_cons_self
    exact array_delivered [.share share] _ hs Picked.nil hrun

/-! ### The body turned into events -/

lemma Delivered.of_held {s' : Bridge} (h : S.Delivered ls s.serverShare s.delivered) (hheld : s'.held = s.held) :
    S.Delivered ls s'.serverShare s'.delivered := by
  obtain ⟨hs, hd⟩ := Prod.mk.inj hheld
  rw [hs, hd]
  exact h

lemma held_of_writes {α : Type} {x : Op Bridge ApiError α} {s' : Bridge} {r : Except ApiError α} (hx : Writes x)
    (h : x s = (r, s')) : s'.held = s.held := by
  have := hx s
  rwa [h] at this

/-- One line keeps what the bridge holds in step with the lines read. -/
lemma bridgeStep_delivered {s' : Bridge} {l : StreamLine} (hS : S.SharedBy [l])
    (h : S.Delivered ls s.serverShare s.delivered) (hstep : bridgeStep X sink enc l s = (.ok (), s')) :
    S.Delivered (ls ++ [l]) s'.serverShare s'.delivered := by
  cases l with
  | other =>
    cases hstep
    exact h.other
  | share share =>
    cases hstep
    exact h.newShare (hS share (List.mem_singleton_self _))
  | chunk seq ct =>
    obtain ⟨s₀, _, hget, hstep⟩ := Op.bind_eq_ok.mp hstep
    cases hget
    obtain ⟨plain, s₁, hplain, hstep⟩ := Op.bind_eq_ok.mp hstep
    obtain ⟨hopen, rfl⟩ := Prod.mk.inj hplain
    obtain ⟨_, s₂, hmod, hstep⟩ := Op.bind_eq_ok.mp hstep
    cases hmod
    have hw : Writes (if plain = [] then pure () else processDecryptedPlaintext X sink plain) :=
      Writes.ite (writes_pure ()) (writes_processDecryptedPlaintext X sink plain)
    exact (h.chunk hopen).of_held (s := { s with delivered := s.delivered ++ [plain] }) (held_of_writes hw hstep)

lemma bridgeLoop_delivered {s' : Bridge} (ls : List StreamLine) (rest : List Bytes)
    (hS : S.SharedBy (streamedLines X rest)) (h : S.Delivered ls s.serverShare s.delivered)
    (hrun : bridgeLoop X sink enc rest s = (.ok (), s')) :
    S.Delivered (ls ++ streamedLines X rest) s'.serverShare s'.delivered := by
  induction rest generalizing ls s with
  | nil =>
    cases hrun
    simpa [streamedLines] using h
  | cons line rest ih =>
    obtain ⟨text, s₁, htext, hrun⟩ := Op.bind_eq_ok.mp hrun
    obtain ⟨hutf, rfl⟩ := Prod.mk.inj htext
    obtain ⟨_, s₂, hstep, hrest⟩ := Op.bind_eq_ok.mp hrun
    have hcons : streamedLines X (line :: rest) = readLine X true text :: streamedLines X rest := by
      simp [streamedLines, mapErr_eq_ok.mp hutf, toOption]
    rw [hcons] at hS ⊢
    have h₁ := bridgeStep_delivered (fun t ht => hS t (by simp_all)) h hstep
    simpa using ih _ (fun t ht => hS t (List.mem_cons_of_mem _ ht)) h₁ hrest

lemma bridgeBody_picked {reader : Reader} (hS : S.SharedBy (bridgeLines X reader contentType))
    (h : bridgeBody X sink enc reader contentType .start = (.ok (), s)) :
    Picked S.plains (· % 2 ^ 32) ((bridgeLines X reader contentType).filterMap StreamLine.label?) s.delivered := by
  unfold bridgeBody at h
  unfold bridgeLines at hS ⊢
  split at h
  · rename_i hct
    rw [if_pos hct] at hS ⊢
    obtain ⟨_, s₁, hloop, h⟩ := Op.bind_eq_ok.mp h
    obtain ⟨_, s₂, hend, htail⟩ := Op.bind_eq_ok.mp h
    obtain ⟨-, rfl⟩ := Prod.mk.inj hend
    have hd := bridgeLoop_delivered [] _ hS Delivered.nil hloop
    exact (hd.of_held (held_of_writes (writes_emitTail X sink) htail)).picked
  · rename_i hct
    rw [if_neg hct] at hS ⊢
    obtain ⟨_, s₁, hend, h⟩ := Op.bind_eq_ok.mp h
    obtain ⟨-, rfl⟩ := Prod.mk.inj hend
    obtain ⟨body, s₂, hbody, h⟩ := Op.bind_eq_ok.mp h
    obtain ⟨hdec, rfl⟩ := Prod.mk.inj hbody
    obtain ⟨_, s₃, hmod, hemit⟩ := Op.bind_eq_ok.mp h
    cases hmod
    have hheld := held_of_writes (writes_emitAggregatedCompletionAsSse X sink body.agg) hemit
    rw [(Prod.mk.inj hheld).2]
    exact decryptOpeBody_picked hS hdec

lemma bridge_picked {reader : Reader} {n : Nat} (hS : S.SharedBy (bridgeLines X reader contentType))
    (h : bridgeOpeToOpenaiSse X sink enc reader contentType .start = (.ok n, s)) :
    Picked S.plains (· % 2 ^ 32) ((bridgeLines X reader contentType).filterMap StreamLine.label?) s.delivered := by
  obtain ⟨_, s₁, hbody, h⟩ := Op.bind_eq_ok.mp h
  obtain ⟨_, s₂, hclose, h⟩ := Op.bind_eq_ok.mp h
  cases h
  rw [(Prod.mk.inj (held_of_writes (writes_bridgeClose X sink) hclose)).2]
  exact bridgeBody_picked hS hbody

end EngineStream

/-- **When the answer arrives in order.**  Whatever lines the relay makes of the engine's share and chunks, a body that
the edge reads to its end without an error gave a prefix of the engine's chunks exactly when the chunk lines are
numbered in the order they come in; the edge does not check that they are. -/
theorem delivered_in_order_iff (X : Crates) {O : Ope} {enc : EncryptedOpeRequest O} (S : EngineStream enc) :
    (∀ raw d, S.SharedBy (ndjsonLines X raw) → decryptNdjsonToCompletion X enc raw = .ok d →
      (d.delivered <+: S.plains ↔ S.LabelledInOrder (ndjsonLines X raw))) ∧
    (∀ sink reader contentType n s, S.SharedBy (bridgeLines X reader contentType) →
      bridgeOpeToOpenaiSse X sink enc reader contentType .start = (.ok n, s) →
      (s.delivered <+: S.plains ↔ S.LabelledInOrder (bridgeLines X reader contentType))) := by
  constructor
  · intro raw d hS h
    exact (EngineStream.decryptNdjson_picked hS h).prefix_iff
  · intro sink reader contentType n s hS h
    exact (EngineStream.bridge_picked hS h).prefix_iff

namespace Sample

def streamOpe : Ope where
  ClientSession := Unit
  kexX25519Mlkem768 := "X25519MLKEM768"
  devVector001Seed := List.replicate 32 7
  encryptRequest := fun e _ _ _ => .ok e
  signEnvelope := fun e _ => .ok e
  toVec := fun _ => .ok []
  decryptResponseChunk := fun _ _ share seq ct =>
    if share = "s" ∧ ct = 'c' :: decimal seq.toNat then okOr ([utf8 "Hel", utf8 "lo"][seq.toNat]?) "decrypt"
    else .error "decrypt"

def streamEnc : EncryptedOpeRequest streamOpe where
  envelope := openEnvelope ⟨"e1", [], [], [], []⟩ "k1" .null "/v1/chat/completions" [] []
  clientSession := ()
  ephemeralEpoch := "ep"

def engineStream : EngineStream streamEnc where
  share := "s"
  plains := [utf8 "Hel", utf8 "lo"]
  ciphertext := fun n => 'c' :: decimal n
  opens := by
    intro seq ct p
    rw [decryptChunk, mapErr_eq_ok]
    change (if ("s" : Str) = "s" ∧ ct = 'c' :: decimal seq.toNat then
      okOr ([utf8 "Hel", utf8 "lo"][seq.toNat]?) ("decrypt" : Str) else Except.error ("decrypt" : Str)) = .ok p ↔ _
    by_cases hct : ct = 'c' :: decimal seq.toNat
    · rw [if_pos ⟨rfl, hct⟩, okOr_eq_ok]
      exact ⟨fun h => ⟨hct, h⟩, fun h => h.2⟩
    · rw [if_neg fun h => hct h.2]
      exact ⟨fun h => (nomatch h), fun h => absurd h.1 hct⟩

def shareLine : Str := "\x7b\"ope_stream\":\"1.0\",\"server_share\":\"s\"\x7d\n"

def chunkLine0 : Str := "\x7b\"ope_stream\":\"1.0\",\"seq\":0,\"ciphertext\":\"c0\"\x7d\n"

def chunkLine1 : Str := "\x7b\"ope_stream\":\"1.0\",\"seq\":1,\"ciphertext\":\"c1\"\x7d\n"

def chunkValue (seq : Nat) (ct : Str) : Json :=
  .object [("ope_stream", .string "1.0"), ("seq", .number (.posInt seq)), ("ciphertext", .string ct)]

def streamTables : CrateTables where
  trees := [
    (utf8 (trim shareLine), .object [("ope_stream", .string "1.0"), ("server_share", .string "s")]),
    (utf8 (trim chunkLine0), chunkValue 0 "c0"),
    (utf8 (trim chunkLine1), chunkValue 1 "c1")]

def inOrderBody : Bytes := utf8 (shareLine ++ chunkLine0 ++ chunkLine1)

def swappedBody : Bytes := utf8 (shareLine ++ chunkLine1 ++ chunkLine0)

def streamSink : Sink := ⟨fun _ _ => none, "chatcmpl-00", "m"⟩

lemma isLine_sample : IsLine shareLine ∧ IsLine chunkLine0 ∧ IsLine chunkLine1 := by decide

lemma readLine_sample (skipTrailer : Bool) :
    readLine streamTables.crates skipTrailer shareLine = .share "s" ∧
    readLine streamTables.crates skipTrailer chunkLine0 = .chunk 0 "c0" ∧
    readLine streamTables.crates skipTrailer chunkLine1 = .chunk 1 "c1" := by
  cases skipTrailer <;> decide

lemma swappedBody_eq : swappedBody = utf8 [shareLine, chunkLine1, chunkLine0].flatten := by
  simp only [swappedBody, List.flatten_cons, List.flatten_nil, List.append_nil, List.append_assoc]

lemma inOrderBody_eq : inOrderBody = utf8 [shareLine, chunkLine0, chunkLine1].flatten := by
  simp only [inOrderBody, List.flatten_cons, List.flatten_nil, List.append_nil, List.append_assoc]

lemma isLine_swapped : ∀ l ∈ [shareLine, chunkLine1, chunkLine0], IsLine l := by
  simp only [List.forall_mem_cons, isLine_sample, true_and]
  exact List.forall_mem_nil _

lemma isLine_inOrder : ∀ l ∈ [shareLine, chunkLine0, chunkLine1], IsLine l := by
  simp only [List.forall_mem_cons, isLine_sample, true_and]
  exact List.forall_mem_nil _

lemma ndjsonLines_swapped :
    ndjsonLines streamTables.crates swappedBody = [.share "s", .chunk 1 "c1", .chunk 0 "c0"] := by
  rw [swappedBody_eq, ndjsonLines_flatten _ isLine_swapped]
  simp only [List.map_cons, List.map_nil, readLine_sample]

lemma ndjsonLines_inOrder :
    ndjsonLines streamTables.crates inOrderBody = [.share "s", .chunk 0 "c0", .chunk 1 "c1"] := by
  rw [inOrderBody_eq, ndjsonLines_flatten _ isLine_inOrder]
  simp only [List.map_cons, List.map_nil, readLine_sample]

lemma isStreamed_sample : isStreamed "application/ope+json-stream" = true := by decide

lemma bridgeLines_swapped :
    bridgeLines streamTables.crates ⟨swappedBody, none⟩ "application/ope+json-stream" =
      [.share "s", .chunk 1 "c1", .chunk 0 "c0"] := by
  rw [bridgeLines, if_pos isStreamed_sample, swappedBody_eq]
  refine (streamedLines_flatten _ isLine_swapped).trans ?_
  simp only [List.map_cons, List.map_nil, readLine_sample]

lemma bridgeLines_inOrder :
    bridgeLines streamTables.crates ⟨inOrderBody, none⟩ "application/ope+json-stream" =
      [.share "s", .chunk 0 "c0", .chunk 1 "c1"] := by
  rw [bridgeLines, if_pos isStreamed_sample, inOrderBody_eq]
  refine (streamedLines_flatten _ isLine_inOrder).trans ?_
  simp only [List.map_cons, List.map_nil, readLine_sample]

lemma sharedBy_chunks {a b : Nat} {ct ct' : Str} :
    engineStream.SharedBy [.share "s", .chunk a ct, .chunk b ct'] := by
  intro s hs
  simp only [List.mem_cons, StreamLine.share.injEq, reduceCtorEq, List.not_mem_nil, or_false] at hs
  exact hs

def bridged (body : Bytes) : Except ApiError Nat × Bridge :=
  bridgeOpeToOpenaiSse streamTables.crates streamSink streamEnc ⟨body, none⟩ "application/ope+json-stream" .start

lemma text_sample : deltaFrame? streamTables.crates (utf8 "Hel") = none ∧
    deltaFrame? streamTables.crates (utf8 "lo") = none := by
  simp only [← Option.isNone_iff_eq_none]
  decide

lemma open_sample : openLine streamEnc "s" 0 "c0" = .ok (utf8 "Hel") ∧
    openLine streamEnc "s" 1 "c1" = .ok (utf8 "lo") := by
  simp only [← toOption_eq_some]
  decide

lemma decrypt_swapped : ∃ d, decryptNdjsonToCompletion streamTables.crates streamEnc swappedBody = .ok d ∧
    (d.agg.content, d.delivered) = ("loHel".toList, [utf8 "lo", utf8 "Hel"]) := by
  rw [decryptNdjsonToCompletion, ndjsonLines_swapped, List.foldlM_cons, ndjsonStep, ok_bind, List.foldlM_cons,
    ndjsonStep_text open_sample.2 text_sample.2, ok_bind, List.foldlM_cons, ndjsonStep_text open_sample.1 text_sample.1]
  exact ⟨_, rfl, rfl⟩

lemma decrypt_inOrder : ∃ d, decryptNdjsonToCompletion streamTables.crates streamEnc inOrderBody = .ok d ∧
    (d.agg.content, d.delivered) = ("Hello".toList, [utf8 "Hel", utf8 "lo"]) := by
  rw [decryptNdjsonToCompletion, ndjsonLines_inOrder, List.foldlM_cons, ndjsonStep, ok_bind, List.foldlM_cons,
    ndjsonStep_text open_sample.1 text_sample.1, ok_bind, List.foldlM_cons, ndjsonStep_text open_sample.2 text_sample.2]
  exact ⟨_, rfl, rfl⟩

lemma bridged_two {a b : Str} {body : Bytes} {i j : Nat} {ct ct' t t' : Str}
    (hbody : body = utf8 [shareLine, a, b].flatten) (hlines : ∀ l ∈ [shareLine, a, b], IsLine l)
    (ha : readLine streamTables.crates true a = .chunk i ct) (hb : readLine streamTables.crates true b = .chunk j ct')
    (hi : openLine streamEnc "s" i ct = .ok (utf8 t)) (hj : openLine streamEnc "s" j ct' = .ok (utf8 t'))
    (ht : deltaFrame? streamTables.crates (utf8 t) = none ∧ t ≠ [])
    (ht' : deltaFrame? streamTables.crates (utf8 t') = none ∧ t' ≠ []) :
    ∃ n s, bridged body = (.ok n, s) ∧ s.delivered = [utf8 t, utf8 t'] := by
  have hsink : ∀ taken next, streamSink.refuses taken next = none := fun _ _ => rfl
  have hread : Reader.lines ⟨body, none⟩ = [utf8 shareLine, utf8 a, utf8 b] := by
    rw [hbody]
    exact byteLines_flatten _ hlines
  obtain ⟨o₁, n₁, h₁⟩ := bridgeStep_text (X := streamTables.crates) (s := { Bridge.start with serverShare := "s" })
    hsink hi ht.1 ht.2 rfl
  obtain ⟨o₂, n₂, h₂⟩ := bridgeStep_text (X := streamTables.crates)
    (s := { Bridge.start with serverShare := "s", out := o₁, written := n₁, delivered := [utf8 t] })
    hsink hj ht'.1 ht'.2 rfl
  have hshare : bridgeStep streamTables.crates streamSink streamEnc (.share "s") Bridge.start =
      (.ok (), { Bridge.start with serverShare := "s" }) := rfl
  have hloop : bridgeLoop streamTables.crates streamSink streamEnc (Reader.lines ⟨body, none⟩) Bridge.start =
      (.ok (), { Bridge.start with serverShare := "s", out := o₂, written := n₂, delivered := [utf8 t, utf8 t'] }) := by
    rw [hread, bridgeLoop_texts, bridgeLoop_texts, bridgeLoop_texts, (readLine_sample true).1, ha, hb]
    simp only [Op.bind_run, hshare]
    rw [h₁]
    simp only [Bridge.start, List.nil_append] at h₂ ⊢
    rw [h₂]
    rfl
  simp only [bridged, bridgeOpeToOpenaiSse, bridgeBody, isStreamed_sample, if_true, Op.bind_run, hloop]
  exact ⟨_, _, rfl, rfl⟩

lemma bridged_swapped : ∃ n s, bridged swappedBody = (.ok n, s) ∧ s.delivered = [utf8 "lo", utf8 "Hel"] :=
  bridged_two swappedBody_eq isLine_swapped (readLine_sample true).2.2 (readLine_sample true).2.1 open_sample.2
    open_sample.1 ⟨text_sample.2, by decide⟩ ⟨text_sample.1, by decide⟩

lemma bridged_inOrder : ∃ n s, bridged inOrderBody = (.ok n, s) ∧ s.delivered = [utf8 "Hel", utf8 "lo"] :=
  bridged_two inOrderBody_eq isLine_inOrder (readLine_sample true).2.1 (readLine_sample true).2.2 open_sample.1
    open_sample.2 ⟨text_sample.1, by decide⟩ ⟨text_sample.2, by decide⟩

end Sample

open Sample in
/-- Two chunks swapped by the relay, each with its own number: both loops succeed, and the client reads `loHel` where
the engine said `Hello`. -/
theorem swapped_chunks_delivered :
    (∃ d, engineStream.SharedBy (ndjsonLines streamTables.crates swappedBody) ∧
      decryptNdjsonToCompletion streamTables.crates streamEnc swappedBody = .ok d ∧
      d.agg.content = "loHel".toList ∧ ¬ d.delivered <+: engineStream.plains) ∧
    ∃ n s, engineStream.SharedBy (bridgeLines streamTables.crates ⟨swappedBody, none⟩ "application/ope+json-stream") ∧
      bridgeOpeToOpenaiSse streamTables.crates streamSink streamEnc ⟨swappedBody, none⟩ "application/ope+json-stream"
        .start = (.ok n, s) ∧ ¬ s.delivered <+: engineStream.plains := by
  have hnot : ¬ [utf8 "lo", utf8 "Hel"] <+: engineStream.plains := by decide
  constructor
  · obtain ⟨d, hd, heq⟩ := decrypt_swapped
    obtain ⟨hcontent, hdel⟩ := Prod.mk.inj heq
    exact ⟨d, by rw [ndjsonLines_swapped]; exact sharedBy_chunks, hd, hcontent, by rw [hdel]; exact hnot⟩
  · obtain ⟨n, s, hs, hdel⟩ := bridged_swapped
    exact ⟨n, s, by rw [bridgeLines_swapped]; exact sharedBy_chunks, hs, by rw [hdel]; exact hnot⟩

open Sample in
/-- Passed on as they came, the chunks arrive in order from both loops. -/
theorem delivered_in_order_iff_sample :
    (∃ d, decryptNdjsonToCompletion streamTables.crates streamEnc inOrderBody = .ok d ∧
      (d.delivered <+: engineStream.plains ↔
        engineStream.LabelledInOrder (ndjsonLines streamTables.crates inOrderBody)) ∧
      d.delivered <+: engineStream.plains) ∧
    ∃ n s, bridged inOrderBody = (.ok n, s) ∧
      (s.delivered <+: engineStream.plains ↔ engineStream.LabelledInOrder
        (bridgeLines streamTables.crates ⟨inOrderBody, none⟩ "application/ope+json-stream")) ∧
      s.delivered <+: engineStream.plains := by
  have hyes : [utf8 "Hel", utf8 "lo"] <+: engineStream.plains := List.prefix_rfl
  have h := delivered_in_order_iff streamTables.crates engineStream
  constructor
  · obtain ⟨d, hd, heq⟩ := decrypt_inOrder
    refine ⟨d, hd, h.1 inOrderBody d (by rw [ndjsonLines_inOrder]; exact sharedBy_chunks) hd, ?_⟩
    rw [(Prod.mk.inj heq).2]
    exact hyes
  · obtain ⟨n, s, hs, hdel⟩ := bridged_inOrder
    refine ⟨n, s, hs, h.2 streamSink ⟨inOrderBody, none⟩ "application/ope+json-stream" n s
      (by rw [bridgeLines_inOrder]; exact sharedBy_chunks) hs, ?_⟩
    rw [hdel]
    exact hyes

end TeechatOpenapi.Cvm
