import TeechatOpenapi.Core.Admission
import TeechatOpenapi.Http.Response
import TeechatOpenapi.Http.Streaming

/-!
# Answering a request (`openapi-http/src/server.rs`)

`dispatchToWriter` hands a request to the app and writes its answer; a stream is written while upstream produces it.
What upstream does with a streamed request is any sequence of writes with a result (`StreamAnswer`).  The writer takes
what it is given, and a flush does nothing to what it has taken.  Log lines are left out.
-/

namespace TeechatOpenapi.Http

open Lib TeechatOpenapi.Core

/-- The errors of serving a connection. -/
inductive ServerError where
  | io (text : Str)
  | other (text : Str)
  deriving DecidableEq

def ServerError.display : ServerError → Str
  | .io text => "io: ".toList ++ text
  | .other text => "server: ".toList ++ text

/-- The arguments of `dispatch_to_writer`. -/
structure WireRequest where
  method : Str
  path : Str
  authorization : Option Str
  body : Bytes
  clientIp : Option Str
  challengeBenchHeader : Option Str

/-- What `handle_from_ex` is called with. -/
def WireRequest.edge (req : WireRequest) (nowMs : Nat) : EdgeRequest where
  method := .parse req.method
  path := req.path
  authorization := req.authorization
  body := req.body
  nowMs := nowMs
  clientIp := req.clientIp
  challengeBenchHeader := req.challengeBenchHeader

/-- A browser's preflight for the challenge API. -/
def WireRequest.preflight (req : WireRequest) : Bool :=
  eqIgnoreAsciiCase req.method "OPTIONS" && isAttestationChallengePath req.path

/-- What upstream does with a streamed request: its writes, and how it returns. -/
structure StreamAnswer where
  writes : List Slice
  result : Except ApiError Unit

/-- `forward_v1_stream_ctx` of an upstream. -/
abbrev StreamForwarder : Type := HttpMethod → Str → Bytes → UpstreamRequestContext → StreamAnswer

/-- The app, and what the writer has taken. -/
structure Dispatch where
  app : AppState
  out : Bytes

def sseStreamHeaders : Bytes :=
  utf8 (format ["HTTP/1.1 200 OK\r\n", "Content-Type: text/event-stream\r\n",
    "Cache-Control: no-cache, no-transform\r\n", "X-Accel-Buffering: no\r\n", "Transfer-Encoding: chunked\r\n",
    "Connection: close\r\n\r\n"])

/-- `write_all` on the writer. -/
def writeAll {ε : Type} (bytes : Bytes) : Op Bytes ε Unit := Op.modify (· ++ bytes)

/-- The answer of upstream to a prepared stream. -/
def SsePassthrough.answer (F : StreamForwarder) (p : SsePassthrough) : StreamAnswer :=
  F p.method p.path p.body (.fromAuth p.keyId p.keySet)

/-- `execute_sse_passthrough_ctx` into a `ChunkedWriter`. -/
def executeSsePassthroughCtx (F : StreamForwarder) (p : SsePassthrough) : Op Bytes ApiError Unit := fun out =>
  ((SsePassthrough.answer F p).result, (SsePassthrough.answer F p).writes.foldl chunkedWriteAll out)

/-- The arm of `AppResponse::SsePassthrough`: the headers are out before upstream is called. -/
def passthrough (F : StreamForwarder) (p : SsePassthrough) : Op Bytes ServerError Unit := do
  writeAll sseStreamHeaders
  let r ← Op.attempt (executeSsePassthroughCtx F p)
  Op.lift (mapErr (fun e => .other e.display) r)
  Op.modify writeSseStreamEnd

def maybeCors (path : Str) (bytes : Bytes) : Bytes :=
  if isAttestationChallengePath path then withChallengeCors bytes else bytes

section Server

variable {X : Crates} (A : App X) (E : Answers) (F : StreamForwarder)

/-- What `dispatch_to_writer` does with the answer of the app. -/
def respond (X : Crates) (path : Str) : Except (Fault ApiError) AppResponse → Op Bytes (Fault ServerError) Unit
  | .ok (.json body) => writeAll (maybeCors path (buildJsonResponse 200 (utf8 (X.json.valueText body))))
  | .ok (.sseBuffered upstreamBody) => writeAll (buildSseBufferedResponse upstreamBody)
  | .ok (.ssePassthrough p) => Op.returning (passthrough F p)
  | .error (.returned e) => writeAll (maybeCors path (buildErrorResponse X e))
  | .error .panicked => Op.lift (.error .panicked)

def dispatchToWriter (nowMs : Nat) (req : WireRequest) : Op Dispatch (Fault ServerError) Unit :=
  if req.preflight then Op.on Dispatch.out (fun out d => { d with out }) (writeAll buildChallengeCorsPreflight)
  else do
    let answer ← Op.attempt (Op.on Dispatch.app (fun app d => { d with app }) (handleFromEx A E (req.edge nowMs)))
    Op.on Dispatch.out (fun out d => { d with out }) (respond F X req.path answer)

/-- `dispatch_request_from`: the answer is collected in memory. -/
def dispatchRequestFrom (nowMs : Nat) (req : WireRequest) : Op AppState (Fault ServerError) Bytes := fun s =>
  match dispatchToWriter A E F nowMs req ⟨s, []⟩ with
  | (.ok (), d) => (.ok d.out, d.app)
  | (.error (.returned e), d) => (.ok (buildErrorResponse X (.internal e.display)), d.app)
  | (.error .panicked, d) => (.error .panicked, d.app)

end Server

section Writes

variable {X : Crates} {A : App X} {E : Answers} {nowMs : Nat} {req : WireRequest} {s s' : AppState}

lemma dispatchToWriter_of_handled (F : StreamForwarder) (hpre : req.preflight = false)
    {answer : Except (Fault ApiError) AppResponse} (h : handleFromEx A E (req.edge nowMs) s = (answer, s'))
    (out : Bytes) :
    dispatchToWriter A E F nowMs req ⟨s, out⟩ =
      ((respond F X req.path answer out).1, ⟨s', (respond F X req.path answer out).2⟩) := by
  have hattempt : (Op.attempt (Op.on Dispatch.app (fun app d => { d with app }) (handleFromEx A E (req.edge nowMs))) :
      Op Dispatch (Fault ServerError) _) ⟨s, out⟩ = (.ok answer, ⟨s', out⟩) := by
    rw [Op.attempt_eq_ok, Op.on, h]
  rw [dispatchToWriter, hpre, if_neg Bool.false_ne_true, Op.bind_run, hattempt]
  rfl

/-- The chunk encoding of a sequence of writes: an empty one leaves nothing. -/
def chunksOf (writes : List Slice) : Bytes := writes.flatMap fun c => if c.val = [] then [] else chunkBytes c.val

lemma foldl_chunkedWriteAll_eq (writes : List Slice) (out : Bytes) :
    writes.foldl chunkedWriteAll out = out ++ chunksOf writes := by
  induction writes generalizing out with
  | nil => exact (List.append_nil out).symm
  | cons c writes ih =>
    rw [List.foldl_cons, ih, chunkedWriteAll, writeChunk_eq, List.append_assoc]
    rfl

/-- What ends the body of a stream. -/
def endingOf : Except ApiError Unit → Bytes
  | .ok () => endBytes
  | .error _ => []

lemma passthrough_run (F : StreamForwarder) (p : SsePassthrough) (out : Bytes) :
    passthrough F p out =
      (mapErr (fun e => .other e.display) (SsePassthrough.answer F p).result,
        out ++ sseStreamHeaders ++
          (chunksOf (SsePassthrough.answer F p).writes ++ endingOf (SsePassthrough.answer F p).result)) := by
  have hattempt : (Op.attempt (executeSsePassthroughCtx F p) : Op Bytes ServerError _) (out ++ sseStreamHeaders) =
      (.ok (SsePassthrough.answer F p).result,
        out ++ sseStreamHeaders ++ chunksOf (SsePassthrough.answer F p).writes) := by
    rw [Op.attempt_eq_ok, executeSsePassthroughCtx, foldl_chunkedWriteAll_eq]
  have hheaders : (writeAll sseStreamHeaders : Op Bytes ServerError Unit) out = (.ok (), out ++ sseStreamHeaders) := rfl
  rw [passthrough, Op.bind_run, hheaders]
  dsimp only
  rw [Op.bind_run, hattempt]
  dsimp only
  rcases (SsePassthrough.answer F p).result with e | _
  · rw [endingOf, List.append_nil]
    rfl
  · rw [endingOf, ← List.append_assoc]
    rfl

/-- **All that a streamed request writes**: the headers, a chunk for each write of upstream, and the end only when
upstream succeeded. -/
theorem dispatchToWriter_passthrough (F : StreamForwarder) (hpre : req.preflight = false) {p : SsePassthrough}
    (h : handleFromEx A E (req.edge nowMs) s = (.ok (.ssePassthrough p), s')) (out : Bytes) :
    dispatchToWriter A E F nowMs req ⟨s, out⟩ =
      (mapErr (fun e => .returned (.other e.display)) (SsePassthrough.answer F p).result,
        ⟨s', out ++ sseStreamHeaders ++
          (chunksOf (SsePassthrough.answer F p).writes ++ endingOf (SsePassthrough.answer F p).result)⟩) := by
  rw [dispatchToWriter_of_handled F hpre h, respond, Op.returning, passthrough_run]
  rcases (SsePassthrough.answer F p).result with e | _ <;> rfl

end Writes

section Streams

variable {bufLen : Nat}

lemma chunksOf_cons (c : Slice) (writes : List Slice) :
    chunksOf (c :: writes) = (if c.val = [] then [] else chunkBytes c.val) ++ chunksOf writes := rfl

lemma chunksOf_append_endBytes (writes : List Slice) : chunksOf writes ++ endBytes = wireFrom writes := by
  induction writes with
  | nil => rfl
  | cons c writes ih => rw [chunksOf_cons, List.append_assoc, ih, wireFrom]

/-- Whole chunks without an end: the copy takes them all, and then finds the reader at its end. -/
lemma fails_chunksOf (hbuf : 0 < bufLen) (writes : List Slice) {s : CopyState} (h : s.reader.left = chunksOf writes) :
    Fails bufLen s := by
  induction writes generalizing s with
  | nil => exact fails_of_eof h
  | cons c writes ih =>
    rw [chunksOf_cons] at h
    by_cases hc : c.val = []
    · rw [if_pos hc, List.nil_append] at h
      exact ih h
    · rw [if_neg hc] at h
      have hmax : c.val.length ≤ u64Max := le_trans (le_of_lt c.2) (by decide)
      obtain ⟨short, hstep⟩ := copyStep_chunk hbuf hc hmax h
      rw [Fails, copyChunked_of_none hstep]
      exact ih rfl

end Streams

/-- **A failed stream never looks complete.**  For every request that is handled as a stream and everything upstream may
do: behind the headers stands the chunk encoding of what upstream wrote, with the end of the body exactly when upstream
succeeded; and copying that body, through any buffer and with any short reads, succeeds exactly then, with everything
that upstream wrote. -/
theorem stream_ends_iff_success {X : Crates} (A : App X) (E : Answers) (F : StreamForwarder) (nowMs : Nat)
    (req : WireRequest) (s s' : AppState) (p : SsePassthrough) (out : Bytes) (bufLen : Nat) (hbuf : 1 ≤ bufLen)
    (hpre : req.preflight = false) (hhandled : handleFromEx A E (req.edge nowMs) s = (.ok (.ssePassthrough p), s')) :
    ∃ result body, dispatchToWriter A E F nowMs req ⟨s, out⟩ = (result, ⟨s', out ++ sseStreamHeaders ++ body⟩) ∧
      (((SsePassthrough.answer F p).result = .ok () ∧ body = chunksOf (SsePassthrough.answer F p).writes ++ endBytes) ∨
        ((∃ e, (SsePassthrough.answer F p).result = .error e) ∧ body = chunksOf (SsePassthrough.answer F p).writes)) ∧
      ∀ short,
        ((∃ total s₁, copyChunked bufLen ⟨⟨body, short⟩, [], 0⟩ = (.ok total, s₁)) ↔
          (SsePassthrough.answer F p).result = .ok ()) ∧
        ((SsePassthrough.answer F p).result = .ok () →
          (copyChunked bufLen ⟨⟨body, short⟩, [], 0⟩).2.out = payload (SsePassthrough.answer F p).writes) := by
  refine ⟨_, _, dispatchToWriter_passthrough F hpre hhandled out, ?_⟩
  rcases (SsePassthrough.answer F p).result with e | _
  · refine ⟨Or.inr ⟨⟨e, rfl⟩, List.append_nil _⟩, fun short => ⟨?_, nofun⟩⟩
    rw [endingOf, List.append_nil]
    obtain ⟨e', s₁, hfails⟩ := fails_chunksOf hbuf (SsePassthrough.answer F p).writes
      (s := ⟨⟨chunksOf (SsePassthrough.answer F p).writes, short⟩, [], 0⟩) rfl
    refine iff_of_false ?_ nofun
    rintro ⟨total, s₂, hok⟩
    cases hfails.symm.trans hok
  · refine ⟨Or.inl ⟨rfl, rfl⟩, fun short => ?_⟩
    rw [endingOf, chunksOf_append_endBytes]
    obtain ⟨s₁, hrun, hout⟩ := copyChunked_wireFrom hbuf (SsePassthrough.answer F p).writes
      (s := ⟨⟨wireFrom (SsePassthrough.answer F p).writes, short⟩, [], 0⟩) rfl
    refine ⟨iff_of_true ⟨_, s₁, hrun⟩ rfl, fun _ => ?_⟩
    rw [hrun]
    exact hout

section Status

variable {X : Crates} {A : App X} {E : Answers} {F : StreamForwarder} {nowMs : Nat} {req : WireRequest}
  {s s' : AppState}

lemma hasStatus_headers (rest : Bytes) : HasStatus 200 (sseStreamHeaders ++ rest) := by
  refine HasStatus.append (hasStatus_utf8 ?_) rest
  have hline : format ["HTTP/1.1 ", decimal 200, " "] <+: format ["HTTP/1.1 200 OK\r\n"] := by decide
  exact hline.trans (prefix_format _ _)

lemma hasStatus_maybeCors {code : Nat} {response : Bytes} (h : HasStatus code response) (path : Str) :
    HasStatus code (maybeCors path response) := by
  unfold maybeCors
  split
  · exact h.withChallengeCors
  · exact h

/-- An error of the app reaches the client with its own status. -/
lemma hasStatus_refused (F : StreamForwarder) (hpre : req.preflight = false) {e : ApiError}
    (h : handleFromEx A E (req.edge nowMs) s = (.error (.returned e), s')) :
    HasStatus e.statusCode (dispatchToWriter A E F nowMs req ⟨s, []⟩).2.out := by
  rw [dispatchToWriter_of_handled F hpre h]
  exact hasStatus_maybeCors (hasStatus_buildErrorResponse X e) req.path

/-- A stream reaches the client with status 200, whatever upstream does. -/
lemma hasStatus_passthrough (F : StreamForwarder) (hpre : req.preflight = false) {p : SsePassthrough}
    (h : handleFromEx A E (req.edge nowMs) s = (.ok (.ssePassthrough p), s')) :
    HasStatus 200 (dispatchToWriter A E F nowMs req ⟨s, []⟩).2.out := by
  rw [dispatchToWriter_passthrough F hpre h]
  exact hasStatus_headers _

end Status

/-- **The status of a failed request.**  A failure of upstream never reaches the client with an error status, whether or
not a body was begun; collected in memory it is a 500.  An error of the app itself has its own status either way. -/
theorem failed_stream_status {X : Crates} (A : App X) (E : Answers) (F : StreamForwarder) (nowMs : Nat)
    (req : WireRequest) (s s' : AppState) (answer : Except (Fault ApiError) AppResponse) (hpre : req.preflight = false)
    (hhandled : handleFromEx A E (req.edge nowMs) s = (answer, s')) :
    (∀ p e, answer = .ok (.ssePassthrough p) → (SsePassthrough.answer F p).result = .error e →
      (¬ ∃ code, 400 ≤ code ∧ HasStatus code (dispatchToWriter A E F nowMs req ⟨s, []⟩).2.out) ∧
      ∃ response, (dispatchRequestFrom A E F nowMs req s).1 = .ok response ∧ HasStatus 500 response) ∧
    ∀ e, answer = .error (.returned e) → 400 ≤ e.statusCode ∧
      HasStatus e.statusCode (dispatchToWriter A E F nowMs req ⟨s, []⟩).2.out ∧
      ∃ response, (dispatchRequestFrom A E F nowMs req s).1 = .ok response ∧ HasStatus e.statusCode response := by
  constructor
  · rintro p e rfl he
    have hstatus := hasStatus_passthrough F hpre hhandled
    refine ⟨?_, _, ?_, hasStatus_buildErrorResponse X (.internal (ServerError.other e.display).display)⟩
    · rintro ⟨code, hcode, hother⟩
      have := hstatus.unique hother
      omega
    · rw [dispatchRequestFrom, dispatchToWriter_passthrough F hpre hhandled, he]
      rfl
  · rintro e rfl
    have hstatus := hasStatus_refused F hpre hhandled
    refine ⟨e.le_statusCode, hstatus, _, ?_, hstatus⟩
    rw [dispatchRequestFrom, dispatchToWriter_of_handled F hpre hhandled]
    rfl

lemma handleInference_streams {X : Crates} {A : App X} {E : Answers} {req : EdgeRequest} {path : Str}
    {auth : AuthContext} {s s₁ : AppState} (hpass : passChecks A E req s = (.ok auth, s₁))
    (hsize : A.limits.validateBodySize req.body.length = .ok ()) (hcontent : enforceContent X auth req.body = .ok ())
    (hchat : path = "/v1/chat/completions".toList) (hcheck : checkChat X req.body = .ok ())
    (hstream : bodyWantsStream X req.body = true) :
    handleInference A E req path s =
      (.ok (.ssePassthrough ⟨.post, "/v1/chat/completions", req.body, auth.keyId, auth.policy.keySet⟩), s₁) := by
  simp only [handleInference, handleChatCompletions, AppState.check, handleInferencePost, Op.bind_run, Op.lift_run,
    Op.pure_run, hpass, hsize, hcontent, hcheck, mapErr, if_pos hchat, hstream, if_true]

namespace Sample

open Core.Sample

/-- `{"model":"m","messages":[{"role":"user","content":"hi"}],"stream":true}`. -/
def chatTree : Json := .object [("model", .string "m"),
  ("messages", .array [.object [("role", .string "user"), ("content", .string "hi")]]), ("stream", .bool true)]

def chatBody : Bytes := utf8 (renderText chatTree)

def chatTables : CrateTables := { authTables with trees := [(chatBody, chatTree)] }

def chatApp : App chatTables.crates where
  config := ⟨"global", .allowlist⟩
  limits := .default
  authenticator := .remote authenticator

def chatRequest : WireRequest where
  method := "POST"
  path := "/v1/chat/completions"
  authorization := some ("Bearer ".toList ++ parsedKey.fullKey)
  body := chatBody
  clientIp := none
  challengeBenchHeader := none

def chatEdge : EdgeRequest := chatRequest.edge embedRequest.nowMs

lemma value_chat : chatTables.crates.json.value chatBody = .ok chatTree :=
  CrateTables.value_of_lookup List.lookup_cons_self

lemma tree_chat : chatTables.crates.json.tree chatBody = .ok chatTree :=
  CrateTables.tree_of_lookup List.lookup_cons_self

lemma check_chat : checkChat chatTables.crates chatEdge.body = .ok () := by
  have hread : chatTables.crates.fromSlice ChatCompletionRequest.read chatEdge.body =
      .ok ⟨"m", [⟨"user", .string "hi"⟩], true⟩ := by
    rw [Crates.fromSlice, show chatTables.crates.json.tree chatEdge.body = .ok chatTree from tree_chat]
    rfl
  rw [checkChat, hread]
  rfl

lemma handle_chat : ∃ s', handleFromEx chatApp embedAnswers chatEdge embedState =
    (.ok (.ssePassthrough ⟨.post, "/v1/chat/completions", chatBody, parsedKey.keyId, authz.policy.keySet⟩), s') := by
  have hpass : passChecks chatApp embedAnswers chatEdge embedState = _ :=
    passChecks_of refuse_embed rfl authenticate_embed rfl
  have hclass : classify chatEdge.method "/v1/chat/completions" chatApp.config.proxyMode = .inferencePost := by decide
  have hpath : normalizePath chatEdge.path = .ok "/v1/chat/completions" := rfl
  have hroute : handleFromEx chatApp embedAnswers chatEdge =
      handleInference chatApp embedAnswers chatEdge "/v1/chat/completions" := by
    rw [handleFromEx, hpath]
    dsimp only
    rw [handleRoute, hclass]
  have hstream : bodyWantsStream chatTables.crates chatEdge.body = true := by
    rw [bodyWantsStream, show chatTables.crates.json.value chatEdge.body = .ok chatTree from value_chat]
    rfl
  rw [hroute]
  exact ⟨_, handleInference_streams hpass rfl rfl rfl check_chat hstream⟩

def twoWrites : StreamForwarder := fun _ _ _ _ => ⟨sampleWrites, .ok ()⟩

def noEngine : StreamForwarder := fun _ _ _ _ => ⟨[], .error (.serviceUnavailable "no engine" "no_engine" 5)⟩

end Sample

open Sample Core.Sample in
theorem stream_ends_iff_success_sample : ∃ result s' body,
    dispatchToWriter chatApp embedAnswers twoWrites embedRequest.nowMs chatRequest ⟨embedState, []⟩ =
      (result, ⟨s', sseStreamHeaders ++ body⟩) ∧
    (copyChunked 1 ⟨⟨body, fun _ => 0⟩, [], 0⟩).2.out = [104, 105, 13, 10] := by
  obtain ⟨s', hhandled⟩ := handle_chat
  obtain ⟨result, body, hrun, -, hcopy⟩ := stream_ends_iff_success chatApp embedAnswers twoWrites embedRequest.nowMs
    chatRequest embedState s' _ [] 1 (le_refl 1) (by decide) hhandled
  exact ⟨result, s', body, hrun, (hcopy _).2 rfl⟩

open Sample Core.Sample in
/-- **An error behind a 200**: upstream has no engine and writes nothing, and the client reads `HTTP/1.1 200`. -/
theorem unavailable_engine_is_200 : ∃ p s', handleFromEx chatApp embedAnswers chatEdge embedState =
      (.ok (.ssePassthrough p), s') ∧
    (SsePassthrough.answer noEngine p).writes = [] ∧
    (SsePassthrough.answer noEngine p).result = .error (.serviceUnavailable "no engine" "no_engine" 5) ∧
    HasStatus 200
      (dispatchToWriter chatApp embedAnswers noEngine embedRequest.nowMs chatRequest ⟨embedState, []⟩).2.out := by
  obtain ⟨s', hhandled⟩ := handle_chat
  exact ⟨_, s', hhandled, rfl, rfl, hasStatus_passthrough noEngine (by decide) hhandled⟩

open Sample Core.Sample in
theorem failed_stream_status_sample : ∃ response,
    (dispatchRequestFrom chatApp embedAnswers noEngine embedRequest.nowMs chatRequest embedState).1 = .ok response ∧
      HasStatus 500 response := by
  obtain ⟨s', hhandled⟩ := handle_chat
  exact ((failed_stream_status chatApp embedAnswers noEngine embedRequest.nowMs chatRequest embedState s' _
    (by decide) hhandled).1 _ _ rfl rfl).2

end TeechatOpenapi.Http
