import TeechatOpenapi.Cvm.OpeStream
import TeechatOpenapi.Platform.EngineUsage

/-!
# A request, forwarded (`openapi-platform-cvm/src/ope_upstream.rs`)

`forwardV1Ctx` returns a `Forwarded`, which keeps what the response was made of; `Forwarded.response` is the response.
-/

namespace TeechatOpenapi.Cvm

open Lib Platform TeechatOpenapi.Core

/-- A request for an engine and its keys. -/
structure PreassignRequest where
  engineId : Str
  keySet : Option Str
  model : Option Str
  openapiKeyId : Option Str

/-- A sealed request for an engine. -/
structure DispatchRequest where
  engineId : Str
  conversationId : Option Str
  ephemeralEpoch : Option Str
  openapiKeyId : Option Str
  assignId : Option Str
  body : Bytes

/-- What a dispatch returns: status, headers, and a body of type `β`. -/
structure DispatchResponse (β : Type) where
  status : Nat
  headers : List (Str × Str)
  body : β

/-- `GatewayOpeApiClient`: what the relay answers. -/
structure Gateway where
  inventory : (keySet : Str) → Except GatewayOpeApiError (List InventoryEngine)
  preassign : PreassignRequest → Except GatewayOpeApiError PreassignResponse
  dispatch : DispatchRequest → Except GatewayOpeApiError (DispatchResponse Bytes)
  dispatchReader : DispatchRequest → Except GatewayOpeApiError (DispatchResponse Reader)

/-- What one request draws from its surroundings; `id` is the random part of the completion's id. -/
structure ForwardInputs (O : Ope) where
  call : CallInputs
  gateway : Gateway
  wrap : WrapInputs O
  id : Str

/-- A buffered completion and what it was made of. -/
structure Metered where
  pre : PreassignResponse
  usageHdr : Option Str
  model : Str
  agg : AggregatedCompletion
  promptTokens : Nat
  completionTokens : Nat

/-- The outcome of `forward_v1_ctx`. -/
inductive Forwarded where
  | streamed (bytes : Bytes)
  | embeddings (value : Json)
  | completion (m : Metered)

def Forwarded.response (id : Str) : Forwarded → UpstreamResponse
  | .streamed bytes => .raw bytes "text/event-stream"
  | .embeddings value => .json value
  | .completion m => .json (openaiChatCompletionJson id m.model m.agg m.promptTokens m.completionTokens)

def stripModelProviderSuffix (model : Str) : Str := (beforeLast model '@').getD model

def serves (m : Str) (e : InventoryEngine) : Bool := e.healthy && e.models.any fun x => stripModelProviderSuffix x = m

def pickEngine (engines : List InventoryEngine) (model : Str) : Except ApiError InventoryEngine := do
  let m := stripModelProviderSuffix (trim model)
  failIf (m = []) (.badRequest "model required")
  okOr ((engines.find? fun e => decide (0 < e.readySessions) && serves m e).or (engines.find? (serves m)))
    (.upstream ("no engine available for model ".toList ++ '\x60' :: m ++ ['\x60']))

def dispatchStatusError (status : Nat) (msg : Str) : ApiError :=
  let text := "ope dispatch ".toList ++ decimal status ++ ": ".toList ++ msg
  if 400 ≤ status ∧ status < 500 then .badRequest text else .upstream text

def header? (headers : List (Str × Str)) (name : Str) : Option Str :=
  (headers.find? fun h => eqIgnoreAsciiCase h.1 name).map Prod.snd

section Forward

variable (X : Crates) (O : Ope) (edge : OpeDispatchUpstream) (inputs : ForwardInputs O)

def prepare (body : Bytes) (ctx : UpstreamRequestContext) (openaiPath : Str) :
    Op EdgeState ApiError (PreassignResponse × EncryptedOpeRequest O × Str) := do
  let model := stripModelProviderSuffix (modelFromBody X body)
  let payload ← Op.lift (mapErr (fun e => ApiError.badRequest ("invalid json: ".toList ++ e)) (X.json.value body))
  let payload := payload.set "model" (.string model)
  let engines ← Op.lift (mapErr mapGw (inputs.gateway.inventory ctx.keySet))
  let engine ← Op.lift (pickEngine engines model)
  let pre ← Op.lift (mapErr mapGw (inputs.gateway.preassign
    ⟨engine.engineId, some ctx.keySet, some model, some ctx.keyId⟩))
  verifyPreassign X edge inputs.call pre engine ctx
  let enc ← Op.lift (mapErr (fun e => ApiError.internal e.display)
    (encryptOpenaiBodyWithPath X O edge.host inputs.wrap pre.trust ctx.keyId payload openaiPath))
  return (pre, enc, model)

/-- The dispatch of a sealed request. -/
def dispatchRequest (pre : PreassignResponse) (enc : EncryptedOpeRequest O) (ctx : UpstreamRequestContext) :
    Except ApiError DispatchRequest := do
  let body ← mapErr (fun e => ApiError.internal e.display) (envelopeToBytes O enc.envelope)
  return ⟨pre.engineId, none, some enc.ephemeralEpoch, some ctx.keyId, some pre.assignId, body⟩

def dispatchEncrypted (pre : PreassignResponse) (enc : EncryptedOpeRequest O) (ctx : UpstreamRequestContext) :
    Except ApiError (DispatchResponse Bytes) := do
  let request ← dispatchRequest O pre enc ctx
  mapErr mapGw (inputs.gateway.dispatch request)

/-- `resolve_usage_or_estimate`, with the meter context that `forward_v1_ctx` gives it. -/
def resolveUsageOrEstimate (usageHdr : Option Str) (requestBody : Bytes) (completionText : Str)
    (pre : PreassignResponse) : Except ApiError (Nat × Nat) :=
  let ctx : UsageVerifyContext :=
    { expectedEngineId := pre.engineId
      expectedEpochId := pre.trust.epochId
      verifyKeyB64url := pre.trust.identity.ed25519Public
      expectedRequestHashHex := requestBodyHashHex X requestBody
      maxTotalTokens := independentTokenBound requestBody completionText }
  let require := requireSignedUsageFromEnv edge.host
  mapErr (fun e => ApiError.badRequest e.display)
    (resolveUsageTokens X usageHdr requestBody completionText require (if require then some ctx else none))

/-- `forward_v1_stream_ctx`: the bridge's final state. -/
def forwardV1StreamCtx (refuses : (taken next : Bytes) → Option Str) (method : HttpMethod) (path : Str)
    (body : Option Bytes) (ctx : UpstreamRequestContext) : Op EdgeState ApiError Bridge := do
  Op.lift (failIf (method ≠ .post) ApiError.methodNotAllowed)
  Op.lift (failIf (containsStr path "embeddings")
    (ApiError.badRequest "streaming is not supported for /v1/embeddings"))
  let (pre, enc, model) ← prepare X O edge inputs (body.getD []) ctx path
  let request ← Op.lift (dispatchRequest O pre enc ctx)
  let resp ← Op.lift (mapErr mapGw (inputs.gateway.dispatchReader request))
  Op.lift (failIf (¬ (200 ≤ resp.status ∧ resp.status < 300))
    (dispatchStatusError resp.status (fromUtf8Lossy resp.body.bytes)))
  let sink : Sink := ⟨refuses, "chatcmpl-".toList ++ inputs.id, model⟩
  let (r, bridge) := bridgeOpeToOpenaiSse X sink enc resp.body ((header? resp.headers "content-type").getD []) .start
  let _ ← Op.lift r
  return bridge

/-- The buffered answer of `forward_v1_ctx`, from the decrypted body on. -/
def finishBuffered (path : Str) (body : Bytes) (pre : PreassignResponse) (model : Str) (usageHdr : Option Str)
    (agg : AggregatedCompletion) : Except ApiError Forwarded :=
  if containsStr path "embeddings" then do
    let value ← mapErr (fun e => ApiError.upstream ("embeddings response is not JSON: ".toList ++ e))
      (X.json.value (utf8 agg.content))
    failIf (value.getStr? "object" = some "chat.completion")
      (ApiError.upstream "embeddings path returned chat.completion")
    return .embeddings value
  else do
    let counts ← resolveUsageOrEstimate X edge usageHdr body agg.content pre
    return .completion ⟨pre, usageHdr, model, agg, counts.1, counts.2⟩

/-- `forward_v1_ctx` for a body that does not ask for a stream. -/
def forwardBuffered (path : Str) (body : Bytes) (ctx : UpstreamRequestContext) : Op EdgeState ApiError Forwarded := do
  let (pre, enc, model) ← prepare X O edge inputs body ctx path
  let resp ← Op.lift (dispatchEncrypted O inputs pre enc ctx)
  Op.lift (failIf (¬ (200 ≤ resp.status ∧ resp.status < 300))
    (dispatchStatusError resp.status (fromUtf8Lossy resp.body)))
  let buffered ← Op.lift (decryptOpeBodyToCompletion X enc resp.body ((header? resp.headers "content-type").getD []))
  Op.lift (finishBuffered X edge path body pre model (header? resp.headers "x-ope-usage-report") buffered.agg)

/-- The stream fallback of `forward_v1_ctx`: the events are collected in a buffer, which refuses nothing. -/
def forwardCollected (method : HttpMethod) (path : Str) (body : Bytes) (ctx : UpstreamRequestContext) :
    Op EdgeState ApiError Forwarded := do
  let bridge ← forwardV1StreamCtx X O edge inputs (fun _ _ => none) method path (some body) ctx
  return .streamed bridge.out

def forwardV1Ctx (method : HttpMethod) (path : Str) (body : Option Bytes) (ctx : UpstreamRequestContext) :
    Op EdgeState ApiError Forwarded := do
  Op.lift (failIf (method ≠ .post) ApiError.methodNotAllowed)
  Op.lift (failIf (¬ "/v1/".toList <+: path) ApiError.notFound)
  if bodyWantsStream X (body.getD []) then forwardCollected X O edge inputs method path (body.getD []) ctx
  else forwardBuffered X O edge inputs path (body.getD []) ctx

end Forward

/-! ## The key behind the token counts -/

/-- The key has the standing that the acceptance gave it: the usage key of the attested epoch, or the pinned
identity of the engine. -/
def UsageKeyTrusted (X : Crates) (policy : EngineRecipientPolicy) (trust : PreassignTrust)
    (accepted : AcceptedRecipient) (key : Bytes) : Prop :=
  match accepted.via with
  | .epochEvidence => ∃ epoch, accepted.epoch = some epoch ∧ base64UrlDecode X (trim epoch.usageSigningPublic) = .ok key
  | .identitySignature => ∃ pinned, policy.identityPins.pinnedPublicKey trust.engineId = some pinned ∧
      decodePublicKey X pinned = .ok key

/-- The identity key of the document is the usage key of every epoch block its quote carries. -/
def OneUsageKey (X : Crates) (trust : PreassignTrust) : Prop :=
  ∀ q wrapper epoch, trust.cpuQuote = some q → parseWrapper X q = some wrapper → wrapper.claims.epoch = some epoch →
    base64UrlDecode X (trim epoch.usageSigningPublic) = base64UrlDecode X (trim trust.identity.ed25519Public)

section UsageKey

variable {X : Crates} {O : Ope} {edge : OpeDispatchUpstream} {inputs : ForwardInputs O}

lemma base64UrlDecode_trim_of_decodePublicKey (hb : X.base64.Lawful) {text : Str} {key : Bytes}
    (h : decodePublicKey X text = .ok key) : base64UrlDecode X (trim text) = .ok key := by
  simp only [decodePublicKey, bind_eq_ok, mapErr_eq_ok, failIf_eq_ok, pure_eq_ok] at h
  obtain ⟨bytes, hdec, -, -, rfl⟩ := h
  unfold decodeBase64url at hdec
  unfold base64UrlDecode
  rcases hnp : X.base64.urlSafeNoPad text with e | b
  · rw [hnp] at hdec
    have hsafe : X.base64.urlSafe text = .ok bytes := hdec
    rw [hb.urlSafe_trim text bytes hsafe, hnp]
    exact mapErr_eq_ok.mpr hsafe
  · rw [hnp] at hdec
    cases hdec
    rw [hb.urlSafeNoPad_trim text bytes hnp, hnp]

variable {ctx : UpstreamRequestContext} {pre : PreassignResponse}

lemma verifyPreassign_accepted {engine : InventoryEngine}
    {call : CallInputs} {s s' : EdgeState} (h : verifyPreassign X edge call pre engine ctx s = (.ok (), s')) :
    ∃ floor nowMs accepted, acceptEngineRecipient X edge.host floor edge.recipientPolicy pre.trust.ephemeral
      pre.trust.cpuQuote none nowMs = .ok accepted := by
  obtain ⟨nowMs, s₁, vcek, -, -, hacc⟩ := verifyPreassign_eq_ok.mp h
  obtain ⟨s₂, s₃, hget, hacc⟩ := Op.bind_eq_ok.mp hacc
  cases hget
  obtain ⟨accepted, s₄, hlift, -⟩ := Op.bind_eq_ok.mp hacc
  exact ⟨s₁.floor, nowMs, accepted, mapErr_eq_ok.mp (Prod.mk.inj hlift).1⟩

variable {enc : EncryptedOpeRequest O} {path model : Str} {body : Bytes}

lemma prepare_accepted {s s' : EdgeState}
    (h : prepare X O edge inputs body ctx path s = (.ok (pre, enc, model), s')) :
    ∃ floor nowMs accepted, acceptEngineRecipient X edge.host floor edge.recipientPolicy pre.trust.ephemeral
      pre.trust.cpuQuote none nowMs = .ok accepted := by
  obtain ⟨payload, s₁, -, h⟩ := Op.bind_eq_ok.mp h
  obtain ⟨engines, s₂, -, h⟩ := Op.bind_eq_ok.mp h
  obtain ⟨engine, s₃, -, h⟩ := Op.bind_eq_ok.mp h
  obtain ⟨pre', s₄, -, h⟩ := Op.bind_eq_ok.mp h
  obtain ⟨_, s₅, hver, h⟩ := Op.bind_eq_ok.mp h
  obtain ⟨enc', s₆, -, h⟩ := Op.bind_eq_ok.mp h
  cases h
  exact verifyPreassign_accepted hver

/-- What a completion was made of: an accepted preassignment, and counts that were resolved against it. -/
lemma forwardV1Ctx_completion {method : HttpMethod} {body : Option Bytes}
    {s s' : EdgeState} {m : Metered}
    (h : forwardV1Ctx X O edge inputs method path body ctx s = (.ok (.completion m), s')) :
    (∃ floor nowMs accepted, acceptEngineRecipient X edge.host floor edge.recipientPolicy m.pre.trust.ephemeral
      m.pre.trust.cpuQuote none nowMs = .ok accepted) ∧
    resolveUsageOrEstimate X edge m.usageHdr (body.getD []) m.agg.content m.pre =
      .ok (m.promptTokens, m.completionTokens) := by
  obtain ⟨_, s₁, -, h⟩ := Op.bind_eq_ok.mp h
  obtain ⟨_, s₂, -, h⟩ := Op.bind_eq_ok.mp h
  split at h
  · -- the fallback collects events and returns no completion
    obtain ⟨bridge, s₃, -, h⟩ := Op.bind_eq_ok.mp h
    cases h
  · obtain ⟨⟨pre, enc, model⟩, s₃, hprep, h⟩ := Op.bind_eq_ok.mp h
    obtain ⟨resp, s₄, -, h⟩ := Op.bind_eq_ok.mp h
    obtain ⟨_, s₅, -, h⟩ := Op.bind_eq_ok.mp h
    obtain ⟨buffered, s₆, -, h⟩ := Op.bind_eq_ok.mp h
    have hfin := (Prod.mk.inj h).1
    unfold finishBuffered at hfin
    split at hfin
    · obtain ⟨value, -, hfin⟩ := bind_eq_ok.mp hfin
      obtain ⟨_, -, hfin⟩ := bind_eq_ok.mp hfin
      cases hfin
    · obtain ⟨counts, hcounts, hfin⟩ := bind_eq_ok.mp hfin
      cases hfin
      exact ⟨prepare_accepted hprep, hcounts⟩

/-- On an accepted document, the identity key has the standing of a usage key exactly when no epoch block says
otherwise. -/
lemma usageKeyTrusted_iff (hb : X.base64.Lawful) {host : Host} {floor : FloorFile} {policy : EngineRecipientPolicy}
    {trust : PreassignTrust} {nowMs : Nat} {accepted : AcceptedRecipient} {key : Bytes}
    (hacc : acceptEngineRecipient X host floor policy trust.ephemeral trust.cpuQuote none nowMs = .ok accepted)
    (hkey : base64UrlDecode X (trim trust.identity.ed25519Public) = .ok key) :
    UsageKeyTrusted X policy trust accepted key ↔ OneUsageKey X trust := by
  obtain ⟨-, -, hby⟩ := acceptEngineRecipient_ok hacc
  cases hby with
  | evidence hq hv =>
    rename_i q verified digest
    obtain ⟨wrapper, -, hw, he, -⟩ := (verifyEpochEvidence_eq_ok X).mp hv
    constructor
    · rintro ⟨epoch, hep, hdec⟩ q' wrapper' epoch' hq' hw' he'
      -- the document has one quote, and the quote one epoch block
      obtain rfl : q = q' := Option.some.inj (hq.symm.trans hq')
      obtain rfl : wrapper = wrapper' := Option.some.inj (hw.symm.trans hw')
      obtain rfl : verified.epoch = epoch' := Option.some.inj (he.symm.trans he')
      obtain rfl : verified.epoch = epoch := Option.some.inj hep
      rw [hdec, hkey]
    · intro hone
      exact ⟨verified.epoch, rfl, (hone q wrapper verified.epoch hq hw he).trans hkey⟩
  | identity hquote hpolicy hv =>
    obtain ⟨-, pinned, key', -, -, hpin, hpinned, hpres, -⟩ := (verifyEphemeralEngineTrust_eq_ok X).mp hv
    have hsame : key' = key := by
      have := base64UrlDecode_trim_of_decodePublicKey hb hpres
      exact Except.ok.inj (this.symm.trans hkey)
    subst hsame
    constructor
    · intro _ q wrapper epoch hq hw he
      -- a quote with an epoch block does not come this way
      have hno := verifyEpochEvidence_absent X (hquote q hq)
      simp [quoteHasEpochEvidence, hw, he] at hno
    · intro _
      exact ⟨pinned, hpin, hpinned⟩

lemma prepare_of_steps {s s' : EdgeState} {payload : Json}
    {engines : List InventoryEngine} {engine : InventoryEngine}
    (hmodel : stripModelProviderSuffix (modelFromBody X body) = model)
    (hbody : X.json.value body = .ok payload) (hinv : inputs.gateway.inventory ctx.keySet = .ok engines)
    (hpick : pickEngine engines model = .ok engine)
    (hpre : inputs.gateway.preassign ⟨engine.engineId, some ctx.keySet, some model, some ctx.keyId⟩ = .ok pre)
    (hver : verifyPreassign X edge inputs.call pre engine ctx s = (.ok (), s'))
    (henc : encryptOpenaiBodyWithPath X O edge.host inputs.wrap pre.trust ctx.keyId
      (payload.set "model" (.string model)) path = .ok enc) :
    prepare X O edge inputs body ctx path s = (.ok (pre, enc, model), s') := by
  subst hmodel
  simp only [prepare, Op.bind_run, Op.lift_run, hbody, hinv, hpick, hpre, hver, henc, mapErr]
  rfl

lemma forwardV1Ctx_of_steps {s s' : EdgeState}
    {resp : DispatchResponse Bytes}
    {buffered : Buffered} {out : Forwarded} (hpath : "/v1/".toList <+: path) (hstream : bodyWantsStream X body = false)
    (hprep : prepare X O edge inputs body ctx path s = (.ok (pre, enc, model), s'))
    (hdisp : dispatchEncrypted O inputs pre enc ctx = .ok resp) (hstatus : 200 ≤ resp.status ∧ resp.status < 300)
    (hdec : decryptOpeBodyToCompletion X enc resp.body ((header? resp.headers "content-type").getD []) = .ok buffered)
    (hfin : finishBuffered X edge path body pre model (header? resp.headers "x-ope-usage-report") buffered.agg =
      .ok out) :
    forwardV1Ctx X O edge inputs .post path (some body) ctx s = (.ok out, s') := by
  simp only [forwardV1Ctx, Op.bind_run, Op.lift_run, failIf, ne_eq, not_true_eq_false, if_false, hpath,
    Option.getD_some, hstream, Bool.false_eq_true, forwardBuffered, hprep, hdisp, hstatus, and_self, hdec, hfin]

end UsageKey

/-- **Whose key vouches for the usage.**  With signed usage required, the counts of a completion come from a report in
the header that verified under one key, and that key is the attested usage key (or, without evidence, the pinned
identity) exactly when the relayed identity key agrees with the attested epoch block: nothing compares the two. -/
theorem forward_usage_key_iff (X : Crates) (hb : X.base64.Lawful) (O : Ope) (edge : OpeDispatchUpstream)
    (hreq : requireSignedUsageFromEnv edge.host = true) (inputs : ForwardInputs O) (method : HttpMethod) (path : Str)
    (body : Option Bytes) (ctx : UpstreamRequestContext) (s s' : EdgeState) (m : Metered)
    (h : forwardV1Ctx X O edge inputs method path body ctx s = (.ok (.completion m), s')) :
    ∃ floor nowMs accepted hdr signed key,
      acceptEngineRecipient X edge.host floor edge.recipientPolicy m.pre.trust.ephemeral m.pre.trust.cpuQuote none
        nowMs = .ok accepted ∧
      m.usageHdr = some hdr ∧ parseUsageReportHeader X hdr = .ok signed ∧
      (m.promptTokens, m.completionTokens) = (signed.report.promptTokens, signed.report.completionTokens) ∧
      base64UrlDecode X (trim m.pre.trust.identity.ed25519Public) = .ok key ∧ VerifiedUnder X signed key ∧
      (UsageKeyTrusted X edge.recipientPolicy m.pre.trust accepted key ↔ OneUsageKey X m.pre.trust) := by
  obtain ⟨⟨floor, nowMs, accepted, hacc⟩, hres⟩ := forwardV1Ctx_completion h
  simp only [resolveUsageOrEstimate, hreq, if_true, mapErr_eq_ok] at hres
  obtain ⟨hdr, signed, key, hhdr, hparse, -, hcounts, hkey, hver⟩ := resolveUsageTokens_signed hres
  exact ⟨floor, nowMs, accepted, hdr, signed, key, hacc, hhdr, hparse, hcounts, hkey, hver,
    usageKeyTrusted_iff hb hacc hkey⟩

/-! ## A report under the relay's own key -/

namespace Sample

open Platform.Sample Encoding

def relayKey : Bytes :=
  [253, 23, 36, 56, 90, 160, 199, 91, 100, 251, 120, 205, 96, 47, 161, 217, 145, 253, 235, 247, 107, 19, 197, 142, 215,
   2, 234, 200, 53, 233, 246, 24]

def relayedPre : PreassignResponse :=
  { pre with trust := { pre.trust with identity := ⟨encodeRaw true relayKey, []⟩ } }

def requestBody : Bytes := utf8 "\x7b\"model\":\"m\"\x7d"

def bodyHash : Bytes :=
  [84, 143, 88, 209, 195, 108, 113, 91, 68, 240, 134, 52, 114, 7, 74, 151, 196, 72, 213, 184, 209, 129, 100, 185, 42,
   223, 85, 89, 43, 18, 127, 134]

def usageReport : UsageReport := ⟨hexEncode bodyHash, "c", "e1", 3, 2, 0, "t", none⟩

def usageSig : Bytes :=
  [29, 88, 154, 28, 190, 219, 22, 97, 188, 106, 222, 0, 207, 8, 13, 86, 56, 18, 151, 203, 37, 132, 74, 154, 178, 206,
   190, 82, 182, 99, 26, 107, 207, 229, 2, 59, 68, 21, 181, 81, 38, 151, 243, 243, 30, 205, 137, 166, 99, 101, 83, 169,
   16, 148, 121, 74, 148, 178, 17, 128, 31, 118, 211, 11]

def signedUsage : SignedUsageReport := ⟨usageReport, encodeRaw true usageSig⟩

def usageTree : Json := .object [
  ("report", .object [("request_id", .string usageReport.requestId), ("conversation_id", .string "c"),
    ("engine_id", .string "e1"), ("prompt_tokens", .number (.posInt 3)), ("completion_tokens", .number (.posInt 2)),
    ("ts", .string "t")]),
  ("sig", .string signedUsage.sig)]

def usageBytes : Bytes := utf8 (renderText usageTree)

def usageHeader : Str := encodeRaw true usageBytes

def usageText : Bytes := usageReportSigningBytes tables.crates usageReport

def forwardTables : CrateTables where
  sha512 := tables.sha512
  sha256 := (requestBody, bodyHash) :: tables.sha256
  trees := (requestBody, .object [("model", .string "m")]) :: (usageBytes, usageTree) ::
    (streamTables.trees ++ tables.trees)
  signatures := [(relayKey, usageText, usageSig)]

def forwardHost : Host :=
  { host with env := fun name =>
      if name = "OPENAPI_REQUIRE_SIGNED_USAGE" then some "1"
      else if name = "OPENAPI_OPE_REQUIRE_ENGINE_CHALLENGE" then some "0"
      else none }

def forwardEdge : OpeDispatchUpstream := ⟨policy, false, forwardHost⟩

def forwardInputs : ForwardInputs streamOpe where
  call := call
  gateway :=
    { inventory := fun _ => .ok [engine]
      preassign := fun _ => .ok relayedPre
      dispatch := fun _ => .ok ⟨200, [("content-type", "application/ope+json-stream"),
        ("x-ope-usage-report", usageHeader)], inOrderBody⟩
      dispatchReader := fun _ => .error (.transport "timed out") }
  wrap := ⟨.ok (), [], []⟩
  id := "00"

def sealedRequest : EncryptedOpeRequest streamOpe :=
  ⟨openEnvelope (engineIdentityFromTrust streamOpe relayedPre.trust) "k1" (.object [("model", .string "m")])
    "/v1/chat/completions" [] [], (), "p1"⟩

lemma resolve_usage : resolveUsageOrEstimate forwardTables.crates forwardEdge (some usageHeader) requestBody "Hello"
    relayedPre = .ok (3, 2) :=
  toOption_eq_some.mp (by decide +kernel)

lemma parse_usage : parseUsageReportHeader forwardTables.crates usageHeader = .ok signedUsage :=
  toOption_eq_some.mp (by decide +kernel)

lemma decrypt_sealed : ∃ b, decryptOpeBodyToCompletion forwardTables.crates sealedRequest inOrderBody
    "application/ope+json-stream" = .ok b ∧ b.agg.content = "Hello".toList :=
  toOption_map_eq_some.mp (by decide +kernel)

lemma encrypt_sealed : encryptOpenaiBodyWithPath forwardTables.crates streamOpe forwardEdge.host forwardInputs.wrap
    relayedPre.trust ctx.keyId (Json.set (.object [("model", .string "m")]) "model" (.string "m"))
    "/v1/chat/completions" = .ok sealedRequest := rfl

lemma lookup_wrapper : forwardTables.trees.lookup wrapperBytes = some wrapperTree := by
  change (([(requestBody, Json.object [("model", .string "m")]), (usageBytes, usageTree)] ++ streamTables.trees) ++
    tables.trees).lookup wrapperBytes = _
  -- the texts of the request, the report and the lines are all others
  exact lookup_behind (by decide) List.lookup_cons_self

lemma cpuQuote_relayed : relayedPre.trust.cpuQuote = some quote :=
  cpuQuote_of_encode wrapperBytes (by decide) rfl

section Relayed

variable {t : CrateTables} {h : Host} (h512 : t.sha512.lookup bindText = some bound)
  (h256 : t.sha256.lookup (utf8 (hexEncode measurement)) = some measurementHash)
  (htree : t.trees.lookup wrapperBytes = some wrapperTree)
  (hwindow : checkWindow h .missing relayedPre.trust.ephemeral 1785542400000 policy.epochClockSkewMs = .ok ())

include h512 h256 htree hwindow

lemma accept_relayed_in : acceptEngineRecipient t.crates h .missing policy relayedPre.trust.ephemeral
    relayedPre.trust.cpuQuote none 1785542400000 =
      .ok ⟨.epochEvidence, some epoch, some (encodePadded false report), some launchDigest⟩ := by
  have hmem : launchDigest ∈ policy.launchDigestAllowlist := Finset.mem_singleton_self _
  have hdig := checkLaunchDigest_of_mem (digest_quote h256 htree) hmem
  rw [cpuQuote_relayed]
  exact acceptEngineRecipient_of_evidence hwindow hdig (verify_quote h512 htree)

lemma verify_relayed_in (hsealed : sealedTimeEnabledFromEnv h = false)
    (hoff : challengeVcek t.crates ⟨policy, false, h⟩ call relayedPre.trust = .ok none) :
    verifyPreassign t.crates ⟨policy, false, h⟩ call relayedPre engine ctx (.fresh .missing) =
      (.ok (), .fresh .missing) := by
  have hcheck : checkAssignment ⟨policy, false, h⟩ call relayedPre engine ctx (.fresh .missing) =
      (.ok 1785542400000, .fresh .missing) := checkAssignment_of_unsealed hsealed (by decide) (by decide)
  exact verifyPreassign_eq_ok.mpr
    ⟨_, _, _, hcheck, hoff, acceptRecipient_chain_off rfl (accept_relayed_in h512 h256 htree hwindow)⟩

end Relayed

lemma window_relayed : checkWindow forwardHost .missing relayedPre.trust.ephemeral 1785542400000
    policy.epochClockSkewMs = .ok () := by decide

lemma accept_relayed : acceptEngineRecipient forwardTables.crates forwardHost .missing policy
    relayedPre.trust.ephemeral relayedPre.trust.cpuQuote none 1785542400000 =
      .ok ⟨.epochEvidence, some epoch, some (encodePadded false report), some launchDigest⟩ :=
  accept_relayed_in List.lookup_cons_self (by decide) lookup_wrapper window_relayed

lemma verify_relayed : verifyPreassign forwardTables.crates forwardEdge forwardInputs.call relayedPre engine ctx
    (.fresh .missing) = (.ok (), .fresh .missing) := by
  refine verify_relayed_in List.lookup_cons_self (by decide) lookup_wrapper window_relayed rfl ?_
  rw [challengeVcek, if_neg (by decide)]

lemma prepare_relayed : prepare forwardTables.crates streamOpe forwardEdge forwardInputs requestBody ctx
    "/v1/chat/completions" (.fresh .missing) = (.ok (relayedPre, sealedRequest, "m".toList), .fresh .missing) := by
  have hbody : forwardTables.crates.json.value requestBody = .ok (.object [("model", .string "m")]) :=
    CrateTables.value_of_lookup List.lookup_cons_self
  have hmodel : stripModelProviderSuffix (modelFromBody forwardTables.crates requestBody) = "m".toList := by
    rw [modelFromBody, hbody]
    rfl
  have hpick : pickEngine [engine] "m" = .ok engine := rfl
  exact prepare_of_steps hmodel hbody rfl hpick rfl verify_relayed encrypt_sealed

lemma forward_relayed : ∃ agg, forwardV1Ctx forwardTables.crates streamOpe forwardEdge forwardInputs .post
    "/v1/chat/completions" (some requestBody) ctx (.fresh .missing) =
      (.ok (.completion ⟨relayedPre, some usageHeader, "m", agg, 3, 2⟩), .fresh .missing) := by
  obtain ⟨b, hdec, hcontent⟩ := decrypt_sealed
  have hfin : finishBuffered forwardTables.crates forwardEdge "/v1/chat/completions" requestBody relayedPre "m"
      (some usageHeader) b.agg = .ok (.completion ⟨relayedPre, some usageHeader, "m", b.agg, 3, 2⟩) := by
    rw [finishBuffered, if_neg (by decide), hcontent]
    rw [resolve_usage]
    rfl
  have hdisp : dispatchEncrypted streamOpe forwardInputs relayedPre sealedRequest ctx = .ok ⟨200,
      [("content-type", "application/ope+json-stream"), ("x-ope-usage-report", usageHeader)], inOrderBody⟩ := rfl
  exact ⟨b.agg, forwardV1Ctx_of_steps (by decide) (by decide) prepare_relayed hdisp (by decide) hdec
    hfin⟩

lemma relayKey_not_attested :
    base64UrlDecode forwardTables.crates (trim epoch.usageSigningPublic) ≠ .ok relayKey := by
  intro h
  exact absurd (toOption_eq_some.mpr h) (by decide)

lemma decode_relayKey : base64UrlDecode forwardTables.crates (trim relayedPre.trust.identity.ed25519Public) =
    .ok relayKey := toOption_eq_some.mp (by decide)

lemma verified_relayKey : VerifiedUnder forwardTables.crates signedUsage relayKey := by
  have h : verifyUsageSignature forwardTables.crates relayedPre.trust.identity.ed25519Public signedUsage = true := by
    decide
  exact .of_text decode_relayKey h

end Sample

open Sample in
/-- On an epoch accepted by its evidence, the edge takes token counts from a report that only the relay's own key
signed. -/
theorem forward_relay_key_verifies_usage :
    requireSignedUsageFromEnv forwardEdge.host = true ∧
    (∃ agg, forwardV1Ctx forwardTables.crates streamOpe forwardEdge forwardInputs .post "/v1/chat/completions"
      (some requestBody) ctx (.fresh .missing) =
        (.ok (.completion ⟨relayedPre, some usageHeader, "m", agg, 3, 2⟩), .fresh .missing)) ∧
    ∃ accepted, acceptEngineRecipient forwardTables.crates forwardEdge.host .missing forwardEdge.recipientPolicy
        relayedPre.trust.ephemeral relayedPre.trust.cpuQuote none 1785542400000 = .ok accepted ∧
      parseUsageReportHeader forwardTables.crates usageHeader = .ok signedUsage ∧
      VerifiedUnder forwardTables.crates signedUsage relayKey ∧
      ¬ UsageKeyTrusted forwardTables.crates forwardEdge.recipientPolicy relayedPre.trust accepted relayKey := by
  refine ⟨by decide, forward_relayed, _, accept_relayed, parse_usage, verified_relayKey, ?_⟩
  rintro ⟨attested, hattested, hdec⟩
  obtain rfl : Platform.Sample.epoch = attested := Option.some.inj hattested
  exact relayKey_not_attested hdec

open Sample in
theorem forward_usage_key_iff_sample : ∃ floor nowMs accepted hdr signed key,
    acceptEngineRecipient forwardTables.crates forwardEdge.host floor forwardEdge.recipientPolicy
      relayedPre.trust.ephemeral relayedPre.trust.cpuQuote none nowMs = .ok accepted ∧
    some usageHeader = some hdr ∧ parseUsageReportHeader forwardTables.crates hdr = .ok signed ∧
    (3, 2) = (signed.report.promptTokens, signed.report.completionTokens) ∧
    base64UrlDecode forwardTables.crates (trim relayedPre.trust.identity.ed25519Public) = .ok key ∧
    VerifiedUnder forwardTables.crates signed key ∧
    (UsageKeyTrusted forwardTables.crates forwardEdge.recipientPolicy relayedPre.trust accepted key ↔
      OneUsageKey forwardTables.crates relayedPre.trust) := by
  obtain ⟨agg, h⟩ := forward_relayed
  have hreq : requireSignedUsageFromEnv forwardEdge.host = true := by decide
  have hm := forward_usage_key_iff forwardTables.crates Base64.rfc4648_lawful streamOpe forwardEdge hreq forwardInputs
    .post "/v1/chat/completions" (some requestBody) ctx (.fresh .missing) (.fresh .missing)
    ⟨relayedPre, some usageHeader, "m", agg, 3, 2⟩ h
  exact hm

end TeechatOpenapi.Cvm
