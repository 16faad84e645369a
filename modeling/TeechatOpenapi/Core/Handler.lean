import TeechatOpenapi.Core.EdgeAuth
import TeechatOpenapi.Core.Limits
import TeechatOpenapi.Core.Maintenance
import TeechatOpenapi.Core.Routes
import TeechatOpenapi.Platform.Challenge

/-!
# The request handler (`openapi-core/src/handler.rs`)

`handleFromEx` is an operation on what an `App` keeps behind its locks.  The state also lists the calls made to
upstream, in order, so that a statement can speak of them.  What the outside gives a request (instants of the clock, the
answers of L0, of upstream and of the platform) is in `Answers`.

A request that panics returns nothing: the error is `Fault.panicked`.
-/

namespace TeechatOpenapi.Core

open Lib

/-- `Config`: what the handler reads. -/
structure Config where
  region : Str
  proxyMode : ProxyMode

/-- The arguments of `handle_from_ex`. -/
structure EdgeRequest where
  method : HttpMethod
  path : Str
  authorization : Option Str
  body : Bytes
  nowMs : Nat
  clientIp : Option Str
  challengeBenchHeader : Option Str

/-- The fields of `AppResponse::SsePassthrough`. -/
structure SsePassthrough where
  method : HttpMethod
  path : Str
  body : Bytes
  keyId : Str
  keySet : Str

/-- What the handler returns. -/
inductive AppResponse where
  | json (value : Json)
  | sseBuffered (upstreamBody : Bytes)
  | ssePassthrough (p : SsePassthrough)

def UpstreamRequestContext.fromAuth (keyId keySet : Str) : UpstreamRequestContext :=
  ⟨keyId, if trim keySet = [] then "api" else trim keySet⟩

/-- A model in a list. -/
structure ModelObject where
  id : Str
  object : Str
  created : Nat
  ownedBy : Str

/-- The answer to a request for the models. -/
structure ModelsListResponse where
  object : Str
  data : List ModelObject

def ModelObject.tree (m : ModelObject) : Json :=
  .object [("id", .string m.id), ("object", .string m.object), ("created", numberTree m.created),
    ("owned_by", .string m.ownedBy)]

def ModelsListResponse.tree (m : ModelsListResponse) : Json :=
  .object [("object", .string m.object), ("data", .array (m.data.map ModelObject.tree))]

/-- A message of a chat request. -/
structure ChatMessage where
  role : Str
  content : Json

def ChatMessage.read (j : Json) : Option ChatMessage := do
  let role ← Json.required Json.asStr? (Json.slot 2 j 0 "role")
  let content ← Json.defaulted .null some (Json.slot 2 j 1 "content")
  return ⟨role, content⟩

/-- `ChatCompletionRequest`, without the members that are not named. -/
structure ChatCompletionRequest where
  model : Str
  messages : List ChatMessage
  stream : Bool

/-- The derived `Deserialize` of `ChatCompletionRequest`: a flattened member leaves only the object form. -/
def ChatCompletionRequest.read (j : Json) : Option ChatCompletionRequest := do
  let _ ← j.asObject?
  let model ← Json.required Json.asStr? (Json.slot 4 j 0 "model")
  let messages ← Json.required (Json.vec ChatMessage.read) (Json.slot 4 j 1 "messages")
  let stream ← Json.defaulted false Json.asBool? (Json.slot 4 j 2 "stream")
  return ⟨model, messages, stream⟩

/-- The derived `Deserialize` of `AttestationChallengeRequest`. -/
def readChallengeRequest (j : Json) : Option Str := Json.required Json.asStr? (Json.slot 1 j 0 "nonce_b64")

/-- The derived `Serialize` of `EdgeIdentity`. -/
def edgeIdentityTree (e : Platform.EdgeIdentity) : Json :=
  let always : List (Str × Json) :=
    [("build_version", .string e.buildVersion), ("code_hash", .string e.codeHash),
     ("measurement", Platform.measurementTree e.measurement), ("tls_cert_spki_sha256", .string e.tlsCertSpkiSha256)]
  let policyHash : Option (Str × Json) := e.policyHash.map fun h => ("policy_hash", .string h)
  .object (always ++ policyHash.toList)

/-- The derived `Serialize` of `AttestationChallengeResponse`. -/
def challengeResponseTree (r : Platform.AttestationChallengeResponse) : Json :=
  .object [("schema_version", numberTree r.schemaVersion), ("report_data_version", numberTree r.reportDataVersion),
    ("edge", edgeIdentityTree r.edge), ("challenge_nonce_b64", .string r.challengeNonceB64),
    ("quote_format", .string r.quoteFormat.asStr), ("quote_b64", .string r.quoteB64)]

/-- A call of `UpstreamForwarder`. -/
inductive UpstreamCall where
  | listModelsForKey (ctx : UpstreamRequestContext) (policy : OpenApiKeyPolicy)
  | forwardV1Ctx (method : HttpMethod) (path : Str) (body : Option Bytes) (ctx : UpstreamRequestContext)

/-- The context that a call passes. -/
def UpstreamCall.ctx : UpstreamCall → UpstreamRequestContext
  | .listModelsForKey ctx _ => ctx
  | .forwardV1Ctx _ _ _ ctx => ctx

/-- What the outside gives a request. -/
structure Answers where
  l0 : L0Answers
  ipInstant : Nat
  keyInstant : Nat
  challengeInstant : Nat
  listModelsForKey : UpstreamRequestContext → OpenApiKeyPolicy → Except ApiError ModelsListResponse
  forwardV1Ctx : HttpMethod → Str → Option Bytes → UpstreamRequestContext → Except ApiError UpstreamResponse
  challenge : Bytes → Except Platform.PlatformError Platform.AttestationChallengeResponse
  openapiProfile : Option Str

/-- `App`, the fields that do not change. -/
structure App (X : Crates) where
  config : Config
  limits : Limits
  authenticator : EdgeAuthenticator X

/-- `App`, what stands behind its locks, and the calls made to upstream. -/
structure AppState where
  rateLimiter : Buckets
  challengeRateLimiter : Buckets
  challengeInflight : Nat
  ipRateLimiter : Buckets
  authenticator : Shared
  maintenance : MaintenanceState
  upstreamCalls : List UpstreamCall

/-- An operation on a part of the state that does not panic. -/
def AppState.on {τ α : Type} (part : AppState → τ) (put : τ → AppState → AppState) (x : Op τ ApiError α) :
    Op AppState (Fault ApiError) α := Op.returning (Op.on part put x)

/-- A check that does not touch the state and does not panic. -/
def AppState.check {α : Type} (x : Except ApiError α) : Op AppState (Fault ApiError) α := Op.lift (mapErr .returned x)

def refuseIfMaintenance (state : MaintenanceState) (nowMs : Nat) : Except (Fault ApiError) Unit := do
  let active ← state.active nowMs none
  match active with
  | some a => failIf (a.phase = .hard) (Fault.returned (.maintenance a))
  | none => return ()

section Handler

variable {X : Crates} (A : App X) (E : Answers)

def enforceRateLimit (auth : AuthContext) : Op Buckets ApiError Unit :=
  checkWithRpm E.keyInstant auth.keyId (auth.policy.effectiveRpm A.limits.requestsPerMinute)

def enforceIpApiLimit (clientIp : Option Str) : Op Buckets ApiError Unit :=
  if A.limits.ipRequestsPerMinute = 0 then pure ()
  else checkWithRpm E.ipInstant (clientIp.getD "unknown") A.limits.ipRequestsPerMinute

def enforceModelPolicy (X : Crates) (auth : AuthContext) (body : Bytes) : Except ApiError Unit :=
  let model := modelFromBody X body
  failIf (¬ auth.policy.allowsModel model)
    (ApiError.forbidden (format ["model `", model, "` is not allowed for this API key"]))

/-- The gates on what a body holds: model, quota and context. -/
def enforceContent (X : Crates) (auth : AuthContext) (body : Bytes) : Except ApiError Unit := do
  enforceModelPolicy X auth body
  enforceTokenQuotaForKey X auth.policy body
  enforceMaxContext X auth.policy body

/-- The IP limit and the authentication. -/
def identify (req : EdgeRequest) : Op AppState (Fault ApiError) AuthContext := do
  AppState.on AppState.ipRateLimiter (fun b s => { s with ipRateLimiter := b }) (enforceIpApiLimit A E req.clientIp)
  AppState.on AppState.authenticator (fun b s => { s with authenticator := b })
    (A.authenticator.authenticateBearer E.l0 req.authorization)

/-- The checks with which every route to upstream starts. -/
def passChecks (req : EdgeRequest) : Op AppState (Fault ApiError) AuthContext := do
  let s ← Op.get
  Op.lift (refuseIfMaintenance s.maintenance req.nowMs)
  let auth ← identify A E req
  AppState.on AppState.rateLimiter (fun b s => { s with rateLimiter := b }) (enforceRateLimit A E auth)
  return auth

/-- A call to upstream, with its answer. -/
def callUpstream {α : Type} (call : UpstreamCall) (answer : Except ApiError α) : Op AppState (Fault ApiError) α := do
  Op.modify fun s => { s with upstreamCalls := s.upstreamCalls ++ [call] }
  AppState.check answer

def listModelsForKey (ctx : UpstreamRequestContext) (policy : OpenApiKeyPolicy) :
    Op AppState (Fault ApiError) ModelsListResponse :=
  callUpstream (.listModelsForKey ctx policy) (E.listModelsForKey ctx policy)

def forwardV1Ctx (method : HttpMethod) (path : Str) (body : Option Bytes) (ctx : UpstreamRequestContext) :
    Op AppState (Fault ApiError) UpstreamResponse :=
  callUpstream (.forwardV1Ctx method path body ctx) (E.forwardV1Ctx method path body ctx)

/-- An upstream body that is no JSON. -/
def binaryTree (X : Crates) (bytes : Bytes) : Json :=
  .object [("object", .string "binary"), ("data", .string (X.base64.encodeUrlSafeNoPad bytes))]

def upstreamToJsonResponse (X : Crates) : UpstreamResponse → AppResponse
  | .json body => .json body
  | .raw bytes _ => .json ((toOption (X.json.value bytes)).getD (binaryTree X bytes))

def upstreamToInferenceResponse (X : Crates) (stream : Bool) : UpstreamResponse → AppResponse
  | .json body => if stream then .sseBuffered (utf8 (X.json.valueText body)) else .json body
  | .raw bytes _ =>
    if stream then .sseBuffered bytes else .json ((toOption (X.json.value bytes)).getD (binaryTree X bytes))

def handleInferencePost (X : Crates) (auth : AuthContext) (path : Str) (body : Bytes) :
    Op AppState (Fault ApiError) AppResponse :=
  let ctx := UpstreamRequestContext.fromAuth auth.keyId auth.policy.keySet
  if bodyWantsStream X body then
    return .ssePassthrough ⟨.post, path, body, auth.keyId, auth.policy.keySet⟩
  else do
    let upstream ← forwardV1Ctx E .post path (some body) ctx
    return upstreamToInferenceResponse X false upstream

/-- The checks of `handle_chat_completions`. -/
def checkChat (X : Crates) (body : Bytes) : Except ApiError Unit := do
  let req ← mapErr (fun e => ApiError.badRequest ("invalid chat request: ".toList ++ e))
    (X.fromSlice ChatCompletionRequest.read body)
  failIf (req.messages = []) (ApiError.badRequest "messages must not be empty")

def handleChatCompletions (X : Crates) (auth : AuthContext) (body : Bytes) :
    Op AppState (Fault ApiError) AppResponse := do
  AppState.check (checkChat X body)
  handleInferencePost E X auth "/v1/chat/completions" body

/-- `RouteAction::ModelsList`. -/
def handleModelsList (req : EdgeRequest) : Op AppState (Fault ApiError) AppResponse := do
  let auth ← passChecks A E req
  let ctx := UpstreamRequestContext.fromAuth auth.keyId auth.policy.keySet
  let models ← listModelsForKey E ctx auth.policy
  return .json models.tree

/-- `RouteAction::InferencePost`. -/
def handleInference (req : EdgeRequest) (path : Str) : Op AppState (Fault ApiError) AppResponse := do
  let auth ← passChecks A E req
  AppState.check (A.limits.validateBodySize req.body.length)
  AppState.check (enforceContent X auth req.body)
  if path = "/v1/chat/completions" then handleChatCompletions E X auth req.body
  else handleInferencePost E X auth path req.body

/-- The checks on the body of a proxied request. -/
def checkProxied (req : EdgeRequest) (auth : AuthContext) : Except ApiError Unit := do
  if req.body ≠ [] then A.limits.validateBodySize req.body.length else .ok ()
  if req.method = .post ∧ req.body ≠ [] then enforceContent X auth req.body else .ok ()

/-- A proxied request after its checks. -/
def sendProxied (X : Crates) (req : EdgeRequest) (path : Str) (auth : AuthContext) :
    Op AppState (Fault ApiError) AppResponse :=
  let ctx := UpstreamRequestContext.fromAuth auth.keyId auth.policy.keySet
  if req.method = .post ∧ bodyWantsStream X req.body then
    return .ssePassthrough ⟨req.method, path, req.body, auth.keyId, auth.policy.keySet⟩
  else do
    let upstream ← forwardV1Ctx E req.method path (if req.body = [] then none else some req.body) ctx
    return upstreamToJsonResponse X upstream

/-- `RouteAction::ProxyGet` and `RouteAction::ProxyPost`. -/
def handleProxy (req : EdgeRequest) (path : Str) : Op AppState (Fault ApiError) AppResponse := do
  let auth ← passChecks A E req
  AppState.check (checkProxied A req auth)
  sendProxied E X req path auth

/-- `load_edge_profile` returns `Ok(EdgeProfile::Dev)`. -/
def profileIsDev (openapiProfile : Option Str) : Bool :=
  ((openapiProfile.map trim).filter (· ≠ [])).map toAsciiLowercase = some "dev"

/-- The bench bypass of `handle_attestation`. -/
def benchBypass (challengeBenchHeader : Option Str) : Bool :=
  profileIsDev E.openapiProfile &&
    match A.limits.challengeBenchToken, challengeBenchHeader with
    | some expected, some got => expected ≠ [] ∧ utf8 expected = utf8 got
    | _, _ => false

/-- `handle_attestation` behind its limits. -/
def answerChallenge (body : Bytes) : Except ApiError AppResponse := do
  A.limits.validateBodySize body.length
  failIf (body = []) (ApiError.badRequest "attestation challenge requires JSON body with nonce_b64")
  let nonceB64 ← mapErr (fun e => ApiError.badRequest ("invalid challenge request: ".toList ++ e))
    (X.fromSlice readChallengeRequest body)
  let nonce ← mapErr (fun e => ApiError.badRequest ("invalid nonce_b64: ".toList ++ e))
    (X.base64.urlSafeNoPad (trim nonceB64))
  failIf (nonce.length ≠ 32) (ApiError.badRequest "nonce must be exactly 32 bytes")
  let attestation ← mapErr (fun e => ApiError.internal e.display) (E.challenge nonce)
  return .json (challengeResponseTree attestation)

/-- The `Drop` of the permit, when the handler returns. -/
def AppState.dropPermit (permit : Bool) (s : AppState) : AppState :=
  { s with challengeInflight := Core.dropPermit permit s.challengeInflight }

def handleAttestation (req : EdgeRequest) : Op AppState (Fault ApiError) AppResponse :=
  if benchBypass A E req.challengeBenchHeader then AppState.check (answerChallenge A E req.body)
  else do
    let ipKey := ((req.clientIp.map trim).filter (· ≠ [])).getD "unknown"
    AppState.on AppState.challengeRateLimiter (fun b s => { s with challengeRateLimiter := b })
      (checkWithRpm E.challengeInstant ipKey A.limits.challengeRequestsPerMinute)
    let permit ← AppState.on AppState.challengeInflight (fun n s => { s with challengeInflight := n })
      (tryAcquire A.limits.challengeMaxInflight)
    let answer := answerChallenge A E req.body
    Op.modify (AppState.dropPermit permit)
    AppState.check answer

/-- `handle_from_ex` on a normalized path. -/
def handleRoute (req : EdgeRequest) (path : Str) : Op AppState (Fault ApiError) AppResponse :=
  match classify req.method path A.config.proxyMode with
  | .health => return .json (.object [("status", .string "ok"), ("region", .string A.config.region)])
  | .status => do
    let s ← Op.get
    let status ← Op.lift (s.maintenance.statusJson req.nowMs A.config.region)
    return .json status
  | .attestation => handleAttestation A E req
  | .modelsList => handleModelsList A E req
  | .inferencePost => handleInference A E req path
  | .proxyGet | .proxyPost => handleProxy A E req path
  | .notImplemented reason => do
    let _ ← identify A E req
    AppState.check (.error (.notImplemented reason))
  | .methodNotAllowed => AppState.check (.error .methodNotAllowed)
  | .notFound => AppState.check (.error .notFound)

def handleFromEx (req : EdgeRequest) : Op AppState (Fault ApiError) AppResponse :=
  match normalizePath req.path with
  | .error _ => AppState.check (.error .notFound)
  | .ok path => handleRoute A E req path

end Handler

end TeechatOpenapi.Core
