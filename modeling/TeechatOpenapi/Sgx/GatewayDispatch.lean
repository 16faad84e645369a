import TeechatOpenapi.Lib.HeaderText
import TeechatOpenapi.Sgx.FramedBody

/-!
# The dispatch of the gateway client (`openapi-platform-sgx/src/gateway_ope_api.rs`)

The enclave writes its requests to the gateway by hand.  The values of some fields come from the gateway's own answers
and are only trimmed.
-/

namespace TeechatOpenapi.Sgx

open Lib

/-- The errors of the gateway client. -/
inductive GatewayOpeApiError where
  | config (text : Str)
  | tls (text : Str)
  | transport (text : Str)
  | http (status : Nat) (body : Str)
  | decode (text : Str)
  deriving DecidableEq

/-- A sealed request for an engine. -/
structure DispatchRequest where
  engineId : Str
  conversationId : Option Str
  ephemeralEpoch : Option Str
  openapiKeyId : Option Str
  assignId : Option Str
  body : Bytes

/-- `DispatchReaderResponse`: status, headers and the reader of the body. -/
abbrev DispatchReaderResponse : Type := Nat × List (Str × Str) × FramedBodyReader

/-- `GatewayOpeApiClient`.  `connect` is the connection with its TLS handshake; `answer` is what `read_response_headers`
and `parse_header_pairs` make of the gateway's answer to the octets of a request. -/
structure GatewayOpeApiClient where
  host : Str
  token : Option Str
  connect : Except GatewayOpeApiError Unit
  answer : Bytes → Except GatewayOpeApiError DispatchReaderResponse

/-- The header that `write_request` builds. -/
def requestHead (host method path : Str) (headers : List (Str × Str)) (length : Option Nat) : Str :=
  method ++ " ".toList ++ path ++ " HTTP/1.1\r\nHost: ".toList ++ host ++ "\r\n".toList ++
    (headers.flatMap fun header => header.1 ++ ": ".toList ++ header.2 ++ "\r\n".toList) ++
    (match length with
      | some n => "Content-Length: ".toList ++ decimal n ++ "\r\n".toList
      | none => []) ++
    "Connection: close\r\n\r\n".toList

/-- `write_request`: the octets that it writes. -/
def writeRequest (host method path : Str) (headers : List (Str × Str)) (body : Option Bytes) : Bytes :=
  utf8 (requestHead host method path headers (body.map List.length)) ++ body.getD []

/-- A header for a value that is there and not blank. -/
def optionalHeader (name : Str) (value : Option Str) : List (Str × Str) :=
  match (value.map trim).filter (· ≠ []) with
  | some v => [(name, v)]
  | none => []

namespace GatewayOpeApiClient

variable (c : GatewayOpeApiClient)

def authHeaders : List (Str × Str) :=
  match c.token with
  | some tok => [("Authorization", "Bearer ".toList ++ tok)]
  | none => []

/-- The headers of a dispatch. -/
def dispatchHeaders (req : DispatchRequest) : List (Str × Str) :=
  c.authHeaders ++ [("Content-Type".toList, "application/json".toList),
      ("x-ope-engine-id".toList, trim req.engineId)] ++
    optionalHeader "x-ope-conversation-id" req.conversationId ++
    optionalHeader "x-ope-ephemeral-epoch" req.ephemeralEpoch ++
    optionalHeader "x-teechat-openapi-key-id" req.openapiKeyId ++
    optionalHeader "x-ope-assign-id" req.assignId

/-- `exec`, over what was written to connections so far, the latest first. -/
def exec (method path : Str) (headers : List (Str × Str)) (body : Option Bytes) :
    Op (List Bytes) GatewayOpeApiError DispatchReaderResponse := do
  Op.lift c.connect
  Op.modify (writeRequest c.host method path headers body :: ·)
  Op.lift (c.answer (writeRequest c.host method path headers body))

def dispatchReader (req : DispatchRequest) : Op (List Bytes) GatewayOpeApiError DispatchReaderResponse := do
  Op.lift (failIf (trim req.engineId = []) (.config "dispatch requires non-empty engine_id"))
  c.exec "POST" "/v1/ope/dispatch" (c.dispatchHeaders req) (some req.body)

/-- The fields that a dispatch is meant to have. -/
def dispatchFields (req : DispatchRequest) : List (Str × Str) :=
  ("Host".toList, c.host) :: c.dispatchHeaders req ++
    [("Content-Length".toList, decimal req.body.length), ("Connection".toList, "close".toList)]

end GatewayOpeApiClient

/-- A field as a line. -/
def fieldLine (field : Str × Str) : Str := field.1 ++ ": ".toList ++ field.2

lemma requestHead_eq (host method path : Str) (headers : List (Str × Str)) (n : Nat) :
    requestHead host method path headers (some n) =
      joined '\r' '\n' (method ++ ' ' :: (path ++ " HTTP/1.1".toList))
        ((("Host".toList, host) :: headers ++
          [("Content-Length".toList, decimal n), ("Connection".toList, "close".toList)]).map fieldLine) ++
        ['\r', '\n', '\r', '\n'] := by
  have hhost : " HTTP/1.1\r\nHost: ".toList =
      " HTTP/1.1".toList ++ (['\r', '\n'] ++ ("Host".toList ++ ": ".toList)) := rfl
  have hlength : "Content-Length: ".toList = "Content-Length".toList ++ ": ".toList := rfl
  have hclose : "Connection: close\r\n\r\n".toList =
      "Connection".toList ++ (": ".toList ++ ("close".toList ++ (['\r', '\n'] ++ ['\r', '\n']))) := rfl
  have hheaders : (headers.flatMap fun header => header.1 ++ ": ".toList ++ header.2 ++ ['\r', '\n']) =
      (headers.map fieldLine).flatMap (· ++ ['\r', '\n']) := by
    rw [List.flatMap_map]
    rfl
  rw [← lines_with_ends, requestHead, hhost, hlength, hclose]
  change method ++ [' '] ++ path ++ _ ++ host ++ ['\r', '\n'] ++
    (headers.flatMap fun header => header.1 ++ ": ".toList ++ header.2 ++ ['\r', '\n']) ++
    (_ ++ decimal n ++ ['\r', '\n']) ++ _ = _
  rw [hheaders]
  generalize " HTTP/1.1".toList = version, "Host".toList = hostName, "Content-Length".toList = lengthName,
    "Connection".toList = connection, "close".toList = close, decimal n = digits
  simp only [List.map_append, List.map_cons, List.map_nil, List.flatMap_append, List.flatMap_cons, List.flatMap_nil,
    fieldLine, List.append_assoc, List.cons_append, List.nil_append, List.append_nil]

section Dispatch

variable {c : GatewayOpeApiClient} {req : DispatchRequest} {field : Str × Str}

/-- The request line of a dispatch. -/
def dispatchLine : Str := "POST".toList ++ ' ' :: ("/v1/ope/dispatch".toList ++ " HTTP/1.1".toList)

lemma writeRequest_dispatch : writeRequest c.host "POST" "/v1/ope/dispatch" (c.dispatchHeaders req) (some req.body) =
    headerBlock dispatchLine ((c.dispatchFields req).map fieldLine) ++ req.body := by
  rw [headerBlock_eq]
  exact congrArg (utf8 · ++ req.body) (requestHead_eq _ _ _ _ _)

lemma dispatchReader_sent (sent : List Bytes) (hconnect : c.connect = .ok ()) (hengine : trim req.engineId ≠ []) :
    (c.dispatchReader req sent).2 =
      (headerBlock dispatchLine ((c.dispatchFields req).map fieldLine) ++ req.body) :: sent := by
  have hcheck : (Op.lift (failIf (trim req.engineId = [])
      (GatewayOpeApiError.config "dispatch requires non-empty engine_id")) : Op (List Bytes) _ Unit) sent =
      (.ok (), sent) := by
    rw [failIf_neg hengine]
    rfl
  have hopen : (Op.lift c.connect : Op (List Bytes) GatewayOpeApiError Unit) sent = (.ok (), sent) := by
    rw [hconnect]
    rfl
  rw [GatewayOpeApiClient.dispatchReader, Op.bind_of_ok hcheck, GatewayOpeApiClient.exec, Op.bind_of_ok hopen,
    ← writeRequest_dispatch]
  rfl

lemma optionalHeader_name {name : Str} {value : Option Str} (h : field ∈ optionalHeader name value) :
    field.1 = name := by
  unfold optionalHeader at h
  split at h
  next => rw [List.mem_singleton.mp h]
  next => cases h

lemma dispatchHeaders_name (h : field ∈ c.dispatchHeaders req) : '\r' ∉ field.1 := by
  have hauth : field ∈ c.authHeaders → '\r' ∉ field.1 := by
    intro hmem
    unfold GatewayOpeApiClient.authHeaders at hmem
    split at hmem
    next =>
      rw [List.mem_singleton.mp hmem]
      exact (by decide : '\r' ∉ "Authorization".toList)
    next => cases hmem
  have hfixed : field ∈ [("Content-Type".toList, "application/json".toList),
      ("x-ope-engine-id".toList, trim req.engineId)] → '\r' ∉ field.1 := by
    intro hmem
    rcases List.mem_cons.mp hmem with rfl | hmem
    · exact (by decide : '\r' ∉ "Content-Type".toList)
    · rw [List.mem_singleton.mp hmem]
      exact (by decide : '\r' ∉ "x-ope-engine-id".toList)
  have hoptional : ∀ {name : Str} {value : Option Str}, '\r' ∉ name → field ∈ optionalHeader name value →
      '\r' ∉ field.1 := by
    intro name value hname hmem
    rwa [optionalHeader_name hmem]
  rcases List.mem_append.mp h with h | h
  · rcases List.mem_append.mp h with h | h
    · rcases List.mem_append.mp h with h | h
      · rcases List.mem_append.mp h with h | h
        · rcases List.mem_append.mp h with h | h
          · exact hauth h
          · exact hfixed h
        · exact hoptional (by decide) h
      · exact hoptional (by decide) h
    · exact hoptional (by decide) h
  · exact hoptional (by decide) h

lemma crlf_infix_fieldLine (h : '\r' ∉ field.1) :
    ['\r', '\n'] <:+: fieldLine field ↔ ['\r', '\n'] <:+: field.2 := by
  refine crlf_infix_append (fun hmem => ?_) field.2
  rcases List.mem_append.mp hmem with hmem | hmem
  · exact h hmem
  · exact absurd hmem (by decide)

lemma dispatch_lines_iff : (∀ l ∈ dispatchLine :: (c.dispatchFields req).map fieldLine, ¬ ['\r', '\n'] <:+: l) ↔
    ∀ field ∈ ("Host".toList, c.host) :: c.dispatchHeaders req, ¬ ['\r', '\n'] <:+: field.2 := by
  have hname : ∀ field ∈ ("Host".toList, c.host) :: c.dispatchHeaders req, '\r' ∉ field.1 := by
    intro field hfield
    rcases List.mem_cons.mp hfield with rfl | hfield
    · exact (by decide : '\r' ∉ "Host".toList)
    · exact dispatchHeaders_name hfield
  constructor
  · intro h field hfield hwithin
    refine h (fieldLine field) (List.mem_cons_of_mem _ (List.mem_map_of_mem ?_))
      ((crlf_infix_fieldLine (hname field hfield)).mpr hwithin)
    exact List.mem_append_left _ hfield
  · intro h l hl
    rcases List.mem_cons.mp hl with rfl | hl
    · exact not_crlf_of_return (by decide)
    · obtain ⟨field, hfield, rfl⟩ := List.mem_map.mp hl
      rcases List.mem_append.mp hfield with hfield | hfield
      · exact (crlf_infix_fieldLine (hname field hfield)).not.mpr (h field hfield)
      · rcases List.mem_cons.mp hfield with rfl | hfield
        · have hdigits : '\r' ∉ decimal req.body.length := notMem_decimal rfl _
          exact (crlf_infix_fieldLine (by decide : '\r' ∉ "Content-Length".toList)).not.mpr (not_crlf_of_return hdigits)
        · rw [List.mem_singleton.mp hfield]
          exact not_crlf_of_return (by decide)

/-- **A dispatch is one request** — its request line, each field once, and the body — exactly if no value that goes
into a field has CR LF in it. -/
theorem dispatch_one_request_iff (c : GatewayOpeApiClient) (req : DispatchRequest) (sent : List Bytes)
    (hconnect : c.connect = .ok ()) (hengine : trim req.engineId ≠ []) :
    ∃ wire, (c.dispatchReader req sent).2 = wire :: sent ∧
      (readBlock wire = some ((dispatchLine :: (c.dispatchFields req).map fieldLine).map utf8, req.body) ↔
        ∀ field ∈ ("Host".toList, c.host) :: c.dispatchHeaders req, ¬ ['\r', '\n'] <:+: field.2) := by
  have hline : ∀ l ∈ (c.dispatchFields req).map fieldLine, l ≠ [] := by
    intro l hl
    obtain ⟨field, -, rfl⟩ := List.mem_map.mp hl
    unfold fieldLine
    rw [List.append_assoc]
    exact List.append_ne_nil_of_right_ne_nil _ (List.cons_ne_nil _ _)
  exact ⟨_, dispatchReader_sent sent hconnect hengine, by rw [readBlock_iff hline, dispatch_lines_iff]⟩

end Dispatch

/-- The dispatch that `forward_v1_stream_ctx` makes. -/
def streamDispatch (engineId assignId ephemeralEpoch keyId : Str) (envelope : Bytes) : DispatchRequest :=
  ⟨engineId, none, some ephemeralEpoch, some keyId, some assignId, envelope⟩

def sampleClient : GatewayOpeApiClient := ⟨"10.0.0.1", none, .ok (), fun _ => .error (.transport "closed")⟩

/-- The dispatch of plain identifiers. -/
theorem dispatch_one_request_plain : sampleClient.connect = .ok () ∧ trim "e".toList ≠ [] ∧
    ∃ wire, (sampleClient.dispatchReader (streamDispatch "e" "a" "p" "k" [1]) []).2 = [wire] ∧
      readBlock wire = some ((dispatchLine ::
        (sampleClient.dispatchFields (streamDispatch "e" "a" "p" "k" [1])).map fieldLine).map utf8, [1]) := by
  have hengine : trim "e".toList ≠ [] := by decide
  obtain ⟨wire, hsent, hiff⟩ :=
    dispatch_one_request_iff sampleClient (streamDispatch "e" "a" "p" "k" [1]) [] rfl hengine
  exact ⟨rfl, hengine, wire, hsent, hiff.mpr (by decide)⟩

def splitFields : List Str :=
  ["Host: 10.0.0.1".toList, "Content-Type: application/json".toList, "x-ope-engine-id: e".toList,
    "x-ope-assign-id: b".toList, "x-ope-ephemeral-epoch: p".toList, "x-teechat-openapi-key-id: k".toList,
    "x-ope-assign-id: a".toList, "Content-Length: 0".toList, "Connection: close".toList]

/-- An engine id of two lines is two fields: the gateway finds another assignment in front of the one that is meant. -/
theorem engine_id_adds_field : trim "e\r\nx-ope-assign-id: b".toList ≠ [] ∧
    ∃ wire, (sampleClient.dispatchReader (streamDispatch "e\r\nx-ope-assign-id: b" "a" "p" "k" []) []).2 = [wire] ∧
      readBlock wire = some ((dispatchLine :: splitFields).map utf8, []) ∧
      readBlock wire ≠ some ((dispatchLine :: (sampleClient.dispatchFields
        (streamDispatch "e\r\nx-ope-assign-id: b" "a" "p" "k" [])).map fieldLine).map utf8, []) := by
  have hengine : trim "e\r\nx-ope-assign-id: b".toList ≠ [] := by decide
  have hlines : ∀ l ∈ dispatchLine :: splitFields, '\r' ∉ l := by decide
  have hblock : headerBlock dispatchLine ((sampleClient.dispatchFields
      (streamDispatch "e\r\nx-ope-assign-id: b" "a" "p" "k" [])).map fieldLine) =
      headerBlock dispatchLine splitFields := rfl
  have hread : readBlock (headerBlock dispatchLine splitFields ++ []) =
      some ((dispatchLine :: splitFields).map utf8, []) := by
    refine (readBlock_iff (by decide) []).mpr fun l hl hwithin => hlines l hl (hwithin.subset List.mem_cons_self)
  refine ⟨hengine, headerBlock dispatchLine splitFields ++ [], ?_, hread, ?_⟩
  · rw [← hblock]
    exact dispatchReader_sent [] rfl hengine
  · rw [hread]
    intro heq
    have hlength := congrArg (fun r => (r.getD ([], [])).1.length) heq
    exact absurd hlength (by decide)

end TeechatOpenapi.Sgx
