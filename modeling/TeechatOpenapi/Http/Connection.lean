import TeechatOpenapi.Core.Permits
import TeechatOpenapi.Http.Request
import TeechatOpenapi.Http.Server

/-!
# Connections (`openapi-http/src/server.rs`, `openapi-edge/src/lib.rs`)

`handleConnection` (plain) and `serveConnection` (TLS) read one request into a buffer and answer it.  The network is a
`Source`: a stream of octets in pieces of any size.  A peer that sends nothing more, or closes, is the end of the
stream; timeouts and failing reads and writes are left out.
-/

namespace TeechatOpenapi.Http

open Lib TeechatOpenapi.Core

/-- `request_recv_capacity`; `handle_connection` has the same expression. -/
def requestRecvCapacity (maxBodyBytes : Nat) : Nat := max (saturatingAdd maxBodyBytes (64 * 1024)) (256 * 1024)

/-- What the loop of a connection comes to. -/
inductive Reading where
  | dispatched (req : HttpRequest)
  | answered (e : ApiError)
  | unanswered

def Reading.ofReadEnd : ReadEnd (Except ParseError HttpRequest) → Reading
  | .decided (.ok req) => .dispatched req
  | .decided (.error .bodyTooLarge) => .answered .payloadTooLarge
  | .decided (.error _) => .answered (.badRequest "malformed request")
  | .full => .answered .payloadTooLarge
  | .ended => .unanswered

/-- The loop of a connection: parse again after each read.  A buffer of more than `isize::MAX` octets panics. -/
def readRequest (P : Httparse) (maxBodyBytes : Nat) (conn : Source) : Except (Fault ServerError) Reading :=
  if 2 ^ 63 ≤ requestRecvCapacity maxBodyBytes then .error .panicked
  else .ok (.ofReadEnd (readUntil (verdict P maxBodyBytes) (requestRecvCapacity maxBodyBytes) [] conn))

/-- What a parsed request is dispatched with. -/
def HttpRequest.wire (req : HttpRequest) (clientIp : Option Str) : WireRequest where
  method := req.method
  path := req.path
  authorization := req.headers "authorization"
  body := req.body
  clientIp := clientIp
  challengeBenchHeader := req.headers "x-teechat-challenge-bench"

/-- A plain connection: what it dispatches into, and the connections of each address. -/
structure Connection where
  dispatch : Dispatch
  ipCounts : IpCounts

section Connections

variable {X : Crates} (A : App X) (E : Answers) (F : StreamForwarder) (P : Httparse) (maxBodyBytes nowMs : Nat)
  (clientIp : Option Str) (conn : Source)

/-- Write an error response to the peer. -/
def writeError (X : Crates) (e : ApiError) : Op Dispatch (Fault ServerError) Unit :=
  Op.on Dispatch.out (fun out d => { d with out }) (writeAll (buildErrorResponse X e))

/-- `serve_connection`: an error of the dispatch ends the connection. -/
def serveConnection : Op Dispatch (Fault ServerError) Unit := do
  match ← Op.lift (readRequest P maxBodyBytes conn) with
  | .dispatched req =>
    match ← Op.attempt (dispatchToWriter A E F nowMs (req.wire clientIp)) with
    | .error .panicked => Op.lift (.error .panicked)
    | _ => return ()
  | .answered e => writeError X e
  | .unanswered => return ()

/-- `handle_connection` with its permit: an error of the dispatch is returned. -/
def handlePermitted : Op Dispatch (Fault ServerError) Unit := do
  match ← Op.lift (readRequest P maxBodyBytes conn) with
  | .dispatched req => dispatchToWriter A E F nowMs (req.wire clientIp)
  | .answered e => writeError X e
  | .unanswered => return ()

/-- `handle_connection`: the permit is dropped in every case. -/
def handleConnection : Op Connection (Fault ServerError) Unit := fun c =>
  match ipTryAcquire A.limits.ipMaxConnections (clientIp.getD "unknown") c.ipCounts with
  | (.error e, counts) => (.ok (), ⟨(writeError X e c.dispatch).2, counts⟩)
  | (.ok permit, counts) =>
    match handlePermitted A E F P maxBodyBytes nowMs clientIp conn c.dispatch with
    | (r, d) => (r, ⟨d, dropIpConnPermit permit counts⟩)

end Connections

section Reading

variable {P : Httparse} {maxBodyBytes : Nat}

lemma le_requestRecvCapacity (maxBodyBytes : Nat) : 256 * 1024 ≤ requestRecvCapacity maxBodyBytes :=
  le_max_right _ _

/-- A buffer that can be had holds a head of 64 KiB and a body. -/
lemma le_capacity (h : requestRecvCapacity maxBodyBytes < 2 ^ 63) :
    maxBodyBytes + 64 * 1024 ≤ requestRecvCapacity maxBodyBytes := by
  unfold requestRecvCapacity saturatingAdd u64Max at *
  omega

variable {conn : Source}

lemma readRequest_congr (hP : P.PrefixStable) {conn' : Source} (h : conn.left = conn'.left) :
    readRequest P maxBodyBytes conn = readRequest P maxBodyBytes conn' := by
  have hcap : 0 < requestRecvCapacity maxBodyBytes := lt_of_lt_of_le (by decide) (le_requestRecvCapacity maxBodyBytes)
  rw [readRequest, readRequest, readUntil_congr (verdict_stable hP maxBodyBytes) hcap h]

lemma readRequest_eq (hP : P.PrefixStable) (hleft : conn.left ≠ [])
    (hcap : requestRecvCapacity maxBodyBytes < 2 ^ 63) :
    readRequest P maxBodyBytes conn =
      .ok (.ofReadEnd (settle (verdict P maxBodyBytes) (requestRecvCapacity maxBodyBytes) conn.left)) := by
  have hroom : 0 < requestRecvCapacity maxBodyBytes := lt_of_lt_of_le (by decide) (le_requestRecvCapacity maxBodyBytes)
  rw [readRequest, if_neg (Nat.not_le.mpr hcap), readUntil_eq (verdict_stable hP maxBodyBytes) hroom (Or.inl hleft),
    List.nil_append]

lemma readRequest_nil (hleft : conn.left = []) {reading : Reading}
    (h : readRequest P maxBodyBytes conn = .ok reading) : reading = .unanswered := by
  rw [readRequest, readUntil, Source.read_nil hleft] at h
  split_ifs at h
  exact (Except.ok.inj h).symm

lemma readRequest_eq_ok (hP : P.PrefixStable) {reading : Reading}
    (h : readRequest P maxBodyBytes conn = .ok reading) (hne : reading ≠ .unanswered) :
    requestRecvCapacity maxBodyBytes < 2 ^ 63 ∧
      .ofReadEnd (settle (verdict P maxBodyBytes) (requestRecvCapacity maxBodyBytes) conn.left) = reading := by
  by_cases hcap : requestRecvCapacity maxBodyBytes < 2 ^ 63
  · refine ⟨hcap, ?_⟩
    by_cases hleft : conn.left = []
    · exact absurd (readRequest_nil hleft h) hne
    · exact Except.ok.inj ((readRequest_eq hP hleft hcap).symm.trans h)
  · rw [readRequest, if_pos (Nat.le_of_not_lt hcap)] at h
    cases h

lemma ofReadEnd_eq_dispatched {f : ReadEnd (Except ParseError HttpRequest)} {req : HttpRequest}
    (h : Reading.ofReadEnd f = .dispatched req) : f = .decided (.ok req) := by
  rcases f with (e | req') | _ | _
  · cases e <;> cases h
  · cases h
    rfl
  · cases h
  · cases h

lemma ofReadEnd_eq_tooLarge {f : ReadEnd (Except ParseError HttpRequest)}
    (h : Reading.ofReadEnd f = .answered .payloadTooLarge) : f = .full ∨ f = .decided (.error .bodyTooLarge) := by
  rcases f with (e | req') | _ | _
  · cases e with
    | bodyTooLarge => exact Or.inr rfl
    | incomplete => cases h
    | invalid text => cases h
  · cases h
  · exact Or.inl rfl
  · cases h

lemma body_of_dispatched (hP : P.PrefixStable) {req : HttpRequest}
    (h : readRequest P maxBodyBytes conn = .ok (.dispatched req)) :
    ∃ headerLen head n, P (conn.left.take (requestRecvCapacity maxBodyBytes)) = .complete headerLen head ∧
      head.Declares n ∧ headerLen + n ≤ conn.left.length ∧ req.body = (conn.left.drop headerLen).take n := by
  obtain ⟨-, hframed⟩ := readRequest_eq_ok hP h nofun
  have hparse := verdict_eq_ok (settle_eq_decided (ofReadEnd_eq_dispatched hframed))
  obtain ⟨headerLen, head, n, hhead, hdeclares, hlen, hbody⟩ := ParsedRequest.parse_eq_some hparse
  have htake : conn.left.take (requestRecvCapacity maxBodyBytes) <+: conn.left := List.take_prefix _ _
  obtain ⟨rest, hrest⟩ := htake
  refine ⟨headerLen, head, n, hhead, hdeclares, le_trans hlen (List.IsPrefix.length_le ( List.take_prefix _ _)), ?_⟩
  rw [hbody, ← take_drop_append hlen, hrest]

lemma not_tooLarge (hP : P.PrefixStable) {headerLen : Nat} {head : RequestHead}
    (hhead : P (conn.left.take headerLen) = .complete headerLen head) (hlen : headerLen ≤ 64 * 1024)
    (hlimit : ∀ v ∈ contentLengths head.headers, ∀ n, declaredLength v = some n → n ≤ maxBodyBytes) :
    readRequest P maxBodyBytes conn ≠ .ok (.answered .payloadTooLarge) := by
  intro h
  obtain ⟨hcap, hframed⟩ := readRequest_eq_ok hP h nofun
  have hroom := le_capacity hcap
  have hfull : P (conn.left.take (requestRecvCapacity maxBodyBytes)) = .complete headerLen head := by
    have hsplit : conn.left.take headerLen <+: conn.left.take (requestRecvCapacity maxBodyBytes) :=
      List.take_prefix_take_left (by omega)
    obtain ⟨rest, hrest⟩ := hsplit
    rw [← hrest]
    exact hP.complete _ _ _ _ hhead
  obtain ⟨hnot, hwait⟩ := verdict_of_complete hfull hlimit
  rcases ofReadEnd_eq_tooLarge hframed with hfull | hdecided
  · obtain ⟨hnone, hlong⟩ := settle_eq_full hfull
    have hshort := hwait hnone
    rw [List.length_take, min_eq_left hlong] at hshort
    omega
  · exact hnot (settle_eq_decided hdecided)

end Reading

/-- **Reading does not depend on the segments of the network.**  With an `httparse` that is prefix-stable, for every
stream and every two ways of cutting it into reads: both connections do the same; a dispatched body is the octets behind
the head, as many as its `Content-Length` says; and a request with a head of at most 64 KiB that keeps to the limit is
not refused for its size. -/
theorem reading_segment_free {X : Crates} (A : App X) (E : Answers) (F : StreamForwarder) (P : Httparse)
    (hP : P.PrefixStable) (maxBodyBytes nowMs : Nat) (clientIp : Option Str) (stream : Bytes)
    (short short' : Nat → Nat) :
    readRequest P maxBodyBytes ⟨stream, short⟩ = readRequest P maxBodyBytes ⟨stream, short'⟩ ∧
    handleConnection A E F P maxBodyBytes nowMs clientIp ⟨stream, short⟩ =
      handleConnection A E F P maxBodyBytes nowMs clientIp ⟨stream, short'⟩ ∧
    serveConnection A E F P maxBodyBytes nowMs clientIp ⟨stream, short⟩ =
      serveConnection A E F P maxBodyBytes nowMs clientIp ⟨stream, short'⟩ ∧
    (∀ req, readRequest P maxBodyBytes ⟨stream, short⟩ = .ok (.dispatched req) →
      ∃ headerLen head n, P (stream.take (requestRecvCapacity maxBodyBytes)) = .complete headerLen head ∧
        head.Declares n ∧ headerLen + n ≤ stream.length ∧ req.body = (stream.drop headerLen).take n) ∧
    ∀ headerLen head, P (stream.take headerLen) = .complete headerLen head → headerLen ≤ 64 * 1024 →
      (∀ v ∈ contentLengths head.headers, ∀ n, declaredLength v = some n → n ≤ maxBodyBytes) →
      readRequest P maxBodyBytes ⟨stream, short⟩ ≠ .ok (.answered .payloadTooLarge) := by
  have hread : readRequest P maxBodyBytes ⟨stream, short⟩ = readRequest P maxBodyBytes ⟨stream, short'⟩ :=
    readRequest_congr hP rfl
  have hpermitted : handlePermitted A E F P maxBodyBytes nowMs clientIp ⟨stream, short⟩ =
      handlePermitted A E F P maxBodyBytes nowMs clientIp ⟨stream, short'⟩ := by
    rw [handlePermitted, handlePermitted, hread]
  refine ⟨hread, ?_, ?_, ?_, ?_⟩
  · funext c
    rw [handleConnection, handleConnection, hpermitted]
  · rw [serveConnection, serveConnection, hread]
  · intro req h
    obtain ⟨headerLen, head, n, hhead, hdeclares, hlen, hbody⟩ := body_of_dispatched hP h
    exact ⟨headerLen, head, n, hhead, hdeclares, hlen, hbody⟩
  · intro headerLen head hhead hlen hlimit
    exact not_tooLarge hP hhead hlen hlimit

namespace Sample

/-- `POST /` with a body of two octets. -/
def head : Bytes := utf8 "POST / HTTP/1.1\r\nContent-Length: 2\r\n\r\n"

def headParser : Httparse := fun b =>
  if head <+: b then .complete 38 ⟨some "POST", some "/", [("Content-Length", utf8 "2")]⟩ else .incomplete

lemma headParser_stable : headParser.PrefixStable where
  complete b c headerLen h hb := by
    unfold headParser at hb ⊢
    split_ifs at hb with hstarts
    rw [if_pos (hstarts.trans (List.prefix_append b c))]
    exact hb
  failed b c e hb := by
    unfold headParser at hb
    split_ifs at hb

end Sample

open Sample Core.Sample in
theorem reading_segment_free_sample :
    readRequest headParser 1024 ⟨head ++ utf8 "\x7b\x7d", fun _ => 0⟩ =
      readRequest headParser 1024 ⟨head ++ utf8 "\x7b\x7d", fun _ => 1000⟩ ∧
    readRequest headParser 1024 ⟨head ++ utf8 "\x7b\x7d", fun _ => 0⟩ ≠ .ok (.answered .payloadTooLarge) := by
  obtain ⟨hread, -, -, -, hsize⟩ := reading_segment_free chatApp embedAnswers noEngine headParser headParser_stable 1024
    0 none (head ++ utf8 "\x7b\x7d") (fun _ => 0) (fun _ => 1000)
  refine ⟨hread, hsize 38 ⟨some "POST", some "/", [("Content-Length", utf8 "2")]⟩ ?_ (by decide) (by decide)⟩
  rfl

end TeechatOpenapi.Http
