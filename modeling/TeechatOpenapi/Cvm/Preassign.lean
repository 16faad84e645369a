import TeechatOpenapi.Attest.Snp
import TeechatOpenapi.Core.Api
import TeechatOpenapi.Platform.EngineChallenge

/-!
# Preassignment (`openapi-platform-cvm/src/ope_upstream.rs`, `gateway_ope_api.rs`)

The gateway is an untrusted relay: it picks an engine (`PreassignResponse`) and relays the engine's answer to the
edge's challenge.  `verifyPreassign` decides whether the request may be encrypted to the keys it handed over.

What the host and the relay do in one call is an input (`CallInputs`); what survives a call is `EdgeState`.
-/

namespace TeechatOpenapi.Cvm

open Lib Encoding Platform Attest TeechatOpenapi.Core

/-- The errors of the gateway client. -/
inductive GatewayOpeApiError where
  | config (text : Str)
  | tls (text : Str)
  | transport (text : Str)
  | http (status : Nat) (body : Str)
  | decode (text : Str)
  deriving DecidableEq

def GatewayOpeApiError.display : GatewayOpeApiError → Str
  | .config text => "config: ".toList ++ text
  | .tls text => "tls: ".toList ++ text
  | .transport text => "transport: ".toList ++ text
  | .http status body => "http ".toList ++ decimal status ++ ": ".toList ++ body
  | .decode text => "decode: ".toList ++ text

def mapGw : GatewayOpeApiError → ApiError
  | .http status body =>
    if status = 403 then .forbidden ("ope matrix denied: ".toList ++ body)
    else if status = 409 then .upstream ("ope assign stale: ".toList ++ body)
    else if status = 503 then .upstream ("ope unavailable: ".toList ++ body)
    else if 400 ≤ status ∧ status < 500 then
      .badRequest ("ope dispatch ".toList ++ decimal status ++ ": ".toList ++ body)
    else .upstream ("ope http ".toList ++ decimal status ++ ": ".toList ++ body)
  | e => .upstream e.display

/-- An engine, as the gateway describes it. -/
structure InventoryEngine where
  engineId : Str
  engineSet : Str
  models : List Str
  healthy : Bool
  readySessions : Nat

/-- The engine's ephemeral keys. -/
structure PreassignTrustHybrid where
  kex : Str
  mlkemEncapsulationKey : Str
  x25519Public : Str

/-- The engine's identity key and its signature. -/
structure PreassignTrustIdentity where
  ed25519Public : Str
  identitySignature : Str

/-- The engine's quote. -/
structure PreassignTrustCpuTee where
  kind : Str
  quote : Str

/-- `PreassignTrust`; the attestation is its only field, `cpu_tee`. -/
structure PreassignTrust where
  engineId : Str
  epochId : Str
  notBefore : Str
  notAfter : Str
  hybrid : PreassignTrustHybrid
  identity : PreassignTrustIdentity
  attestation : Option (Option PreassignTrustCpuTee)

def PreassignTrust.cpuQuote (trust : PreassignTrust) : Option Str :=
  (trust.attestation.join.map fun c => trim c.quote).filter (· ≠ [])

lemma cpuQuote_of_encode {trust : PreassignTrust} {kind : Str} (x : Bytes) (hne : encodeRaw true x ≠ [])
    (h : trust.attestation = some (some ⟨kind, encodeRaw true x⟩)) : trust.cpuQuote = some (encodeRaw true x) := by
  simp only [PreassignTrust.cpuQuote, h, Option.join_some, Option.map_some, trim_encodeRaw, Option.filter_some, hne,
    ne_eq, not_false_eq_true, decide_true, if_true]

/-- The trust document that `verify_preassign` hands to the recipient check. -/
def PreassignTrust.ephemeral (trust : PreassignTrust) : EphemeralEngineTrust where
  engineId := trust.engineId
  epochId := trust.epochId
  notBefore := trust.notBefore
  notAfter := trust.notAfter
  mlkemEncapsulationKey := trust.hybrid.mlkemEncapsulationKey
  x25519Public := trust.hybrid.x25519Public
  ed25519Public := trust.identity.ed25519Public
  identitySignature := trust.identity.identitySignature

/-- The engine that the gateway picked, and the keys it hands over. -/
structure PreassignResponse where
  assignId : Str
  engineId : Str
  engineSet : Str
  keySet : Str
  openapiKeyId : Str
  expiresAtMs : Nat
  ttlMs : Nat
  trust : PreassignTrust

/-- The configuration of an `OpeDispatchUpstream`, and the host it runs on. -/
structure OpeDispatchUpstream where
  recipientPolicy : EngineRecipientPolicy
  verifyEngineSnpChain : Bool
  host : Host

/-- What survives a call: the cache of chain verdicts, and the floor file.  `chainPassed` is a history variable: the
reports that passed the chain check, latest first.  Nothing reads it. -/
structure EdgeState where
  verifiedReports : Finset Str
  floor : FloorFile
  chainPassed : List Bytes
  deriving DecidableEq

def EdgeState.fresh (floor : FloorFile) : EdgeState := ⟨∅, floor, []⟩

/-- What the host, the gateway and the AMD key server do in one call: the clock, the write of the floor, the random
nonce, `challenge_engine` and `http_get`. -/
structure CallInputs where
  hostMs : Nat
  write : HostWrite
  nonce : Octets 32
  challengeEngine : (engineId nonceB64 : Str) → Option Str → Except GatewayOpeApiError EngineChallengeWireResponse
  httpGet : Str → Except AttestError Bytes

section Verify

variable (X : Crates) (edge : OpeDispatchUpstream) (call : CallInputs)

def currentUnixMs : Op EdgeState ApiError Nat := fun s =>
  let (r, floor) := observeHostTimeFromEnv edge.host call.write call.hostMs s.floor
  (mapErr (fun e => .forbidden e.display) r, { s with floor })

/-- The key of a verdict: the hash of the report's text. -/
def reportKey (reportB64 : Str) : Str := X.hex.encode (X.sha2.sha256 (utf8 reportB64))

/-- The chain verification of a report, with the VCEK of the challenge or one from the AMD key server. -/
def verifyReport (reportB64 : Str) (challengeVcekDer : Option Bytes) : Except AttestError SnpVerifyReport :=
  match challengeVcekDer with
  | some vcekDer => verifySnpReportWithCollateral X reportB64 vcekDer true
  | none => verifySnpReport X call.httpGet reportB64 true

/-- The octets that `verifyReport` checks. -/
def checkedReport (reportB64 : Str) (challengeVcekDer : Option Bytes) : List Bytes :=
  match challengeVcekDer with
  | some _ => (toOption (X.base64.standard (trim reportB64))).toList
  | none =>
    match rawSnpReportB64 X reportB64 with
    | .ok b64 => (toOption (X.base64.standard (trim b64))).toList
    | .error _ => []

/-- The error of a report whose chain does not verify. -/
def chainRefused (e : AttestError) : ApiError :=
  .forbidden ("engine SNP report failed chain verification: ".toList ++ e.display)

def verifyReportChain (reportB64 : Str) (challengeVcekDer : Option Bytes) : Op EdgeState ApiError Unit :=
  if edge.verifyEngineSnpChain = false then pure ()
  else do
    let s ← Op.get
    if reportKey X reportB64 ∈ s.verifiedReports then pure ()
    else
      let _ ← Op.lift (mapErr chainRefused (verifyReport X call reportB64 challengeVcekDer))
      Op.modify fun s =>
        { s with
          verifiedReports := insert (reportKey X reportB64) s.verifiedReports
          chainPassed := checkedReport X reportB64 challengeVcekDer ++ s.chainPassed }

/-- The challenge of `verify_preassign`: the VCEK that the verified answer carries. -/
def challengeVcek (trust : PreassignTrust) : Except ApiError (Option Bytes) :=
  if requireEngineChallengeFromEnv edge.host then do
    let chal ← mapErr mapGw
      (call.challengeEngine trust.engineId (encodeNonceB64Url X call.nonce.val) (some trust.epochId))
    mapErr (fun e => .forbidden ("engine challenge failed: ".toList ++ e.display))
      (verifyEngineChallengeResponse X call.nonce chal)
    mapErr (fun e => .forbidden ("engine challenge VCEK decode failed: ".toList ++ e.display)) (chal.cpu.vcekDer X)
  else .ok none

/-- The binding of a preassignment to the engine and the caller. -/
def BindingMismatch (pre : PreassignResponse) (engine : InventoryEngine) (ctx : UpstreamRequestContext) : Prop :=
  trim pre.assignId = [] ∨ pre.engineId ≠ engine.engineId ∨ pre.trust.engineId ≠ engine.engineId ∨
    pre.engineSet ≠ engine.engineSet ∨ pre.keySet ≠ ctx.keySet ∨ pre.openapiKeyId ≠ ctx.keyId

instance (pre : PreassignResponse) (engine : InventoryEngine) (ctx : UpstreamRequestContext) :
    Decidable (BindingMismatch pre engine ctx) := inferInstanceAs (Decidable (_ ∨ _))

/-- The recipient decision of `verify_preassign` and the chain over the accepted report. -/
def acceptRecipient (pre : PreassignResponse) (nowMs : Nat) (challengeVcekDer : Option Bytes) :
    Op EdgeState ApiError Unit := do
  let s ← Op.get
  let accepted ← Op.lift (mapErr
    (fun e => .forbidden ("untrusted OPE engine recipient: ".toList ++ e.display X))
    (acceptEngineRecipient X edge.host s.floor edge.recipientPolicy pre.trust.ephemeral pre.trust.cpuQuote none nowMs))
  match accepted.reportB64 with
  | some reportB64 => verifyReportChain X edge call reportB64 challengeVcekDer
  | none => pure ()

/-- The checks of `verify_preassign` before the challenge: binding, clock and expiry. -/
def checkAssignment (pre : PreassignResponse) (engine : InventoryEngine) (ctx : UpstreamRequestContext) :
    Op EdgeState ApiError Nat := do
  Op.lift (failIf (BindingMismatch pre engine ctx) (.forbidden "OPE preassignment binding mismatch"))
  let nowMs ← currentUnixMs edge call
  Op.lift (failIf (pre.ttlMs = 0 ∨ pre.expiresAtMs ≤ nowMs) (.forbidden "OPE preassignment expired"))
  return nowMs

def verifyPreassign (pre : PreassignResponse) (engine : InventoryEngine) (ctx : UpstreamRequestContext) :
    Op EdgeState ApiError Unit := do
  let nowMs ← checkAssignment edge call pre engine ctx
  let challengeVcekDer ← Op.lift (challengeVcek X edge call pre.trust)
  acceptRecipient X edge call pre nowMs challengeVcekDer

end Verify

/-- A challenge answer is about the epoch of a trust document: same engine, epoch, window and keys. -/
structure AnswerNames (doc : EngineChallengeWireResponse) (trust : PreassignTrust) : Prop where
  engineId : doc.engine.engineId = trust.engineId
  epochId : doc.epoch.epochId = trust.epochId
  notBefore : doc.epoch.notBefore = trust.notBefore
  notAfter : doc.epoch.notAfter = trust.notAfter
  mlkem : doc.epoch.mlkemEncapsulationKey = trust.hybrid.mlkemEncapsulationKey
  x25519 : doc.epoch.x25519Public = trust.hybrid.x25519Public

/-- The call in which the relay answers the challenge with `doc`. -/
def CallInputs.answering (call : CallInputs) (doc : EngineChallengeWireResponse) : CallInputs :=
  { call with challengeEngine := fun _ _ _ => .ok doc }

section Challenge

variable (X : Crates) (edge : OpeDispatchUpstream) (call : CallInputs) (pre : PreassignResponse)
  (engine : InventoryEngine) (ctx : UpstreamRequestContext) (s : EdgeState)

/-- A preassignment passes every check but the challenge, when the challenge yields `vcek`. -/
def OtherwiseAccepted (vcek : Option Bytes) : Prop :=
  ∃ nowMs s₁ s₂, checkAssignment edge call pre engine ctx s = (.ok nowMs, s₁) ∧
    acceptRecipient X edge call pre nowMs vcek s₁ = (.ok (), s₂)

variable {X edge call pre engine ctx s}

lemma verifyPreassign_eq_ok {s' : EdgeState} :
    verifyPreassign X edge call pre engine ctx s = (.ok (), s') ↔
      ∃ nowMs s₁ vcek, checkAssignment edge call pre engine ctx s = (.ok nowMs, s₁) ∧
        challengeVcek X edge call pre.trust = .ok vcek ∧
        acceptRecipient X edge call pre nowMs vcek s₁ = (.ok (), s') := by
  simp only [verifyPreassign, Op.bind_eq_ok, Op.lift_run, Prod.mk.injEq]
  constructor
  · rintro ⟨nowMs, s₁, hcheck, vcek, s₂, ⟨hv, rfl⟩, hacc⟩
    exact ⟨nowMs, s₁, vcek, hcheck, hv, hacc⟩
  · rintro ⟨nowMs, s₁, vcek, hcheck, hv, hacc⟩
    exact ⟨nowMs, s₁, hcheck, vcek, s₁, ⟨hv, rfl⟩, hacc⟩

/-- With sealed time switched off, a bound preassignment that has not expired passes the first checks, and the
clock is the host's. -/
lemma checkAssignment_of_unsealed (hoff : sealedTimeEnabledFromEnv edge.host = false)
    (hbind : ¬ BindingMismatch pre engine ctx) (hlive : ¬ (pre.ttlMs = 0 ∨ pre.expiresAtMs ≤ call.hostMs)) :
    checkAssignment edge call pre engine ctx s = (.ok call.hostMs, s) := by
  have hclock : currentUnixMs edge call s = (.ok call.hostMs, s) := by
    simp only [currentUnixMs, observeHostTimeFromEnv, SealedTimeStore.fromEnv, hoff, Bool.false_eq_true, if_false,
      SealedTimeStore.observe]
    rfl
  simp only [checkAssignment, Op.bind_run, Op.lift_run, failIf, hbind, if_false, hclock, hlive]
  rfl

variable {vcek : Option Bytes} {accepted : AcceptedRecipient} {nowMs : Nat}

lemma acceptRecipient_of_report {reportB64 : Str}
    (h : acceptEngineRecipient X edge.host s.floor edge.recipientPolicy pre.trust.ephemeral pre.trust.cpuQuote none
      nowMs = .ok accepted) (hreport : accepted.reportB64 = some reportB64) :
    acceptRecipient X edge call pre nowMs vcek s = verifyReportChain X edge call reportB64 vcek s := by
  simp only [acceptRecipient, Op.bind_run, Op.get_run, Op.lift_run, h, mapErr, hreport]

lemma acceptRecipient_of_no_report
    (h : acceptEngineRecipient X edge.host s.floor edge.recipientPolicy pre.trust.ephemeral pre.trust.cpuQuote none
      nowMs = .ok accepted) (hreport : accepted.reportB64 = none) :
    acceptRecipient X edge call pre nowMs vcek s = (.ok (), s) := by
  simp only [acceptRecipient, Op.bind_run, Op.get_run, Op.lift_run, h, mapErr, hreport]
  rfl

lemma acceptRecipient_chain_off
    (hoff : edge.verifyEngineSnpChain = false)
    (h : acceptEngineRecipient X edge.host s.floor edge.recipientPolicy pre.trust.ephemeral pre.trust.cpuQuote none
      nowMs = .ok accepted) : acceptRecipient X edge call pre nowMs vcek s = (.ok (), s) := by
  rcases hreport : accepted.reportB64 with _ | reportB64
  · exact acceptRecipient_of_no_report h hreport
  · rw [acceptRecipient_of_report h hreport, verifyReportChain, if_pos hoff]
    rfl

/-- The challenge accepts an answer that verifies, and yields its VCEK. -/
lemma challengeVcek_answering (trust : PreassignTrust) {doc : EngineChallengeWireResponse}
    (hreq : requireEngineChallengeFromEnv edge.host = true)
    (hdoc : verifyEngineChallengeResponse X call.nonce doc = .ok ()) (hvcek : doc.cpu.vcekDer X = .ok vcek) :
    challengeVcek X edge (call.answering doc) trust = .ok vcek := by
  simp only [challengeVcek, hreq, if_true, bind_eq_ok, mapErr_eq_ok]
  exact ⟨doc, rfl, (), hdoc, hvcek⟩

/-- Any verified answer with the right VCEK completes a preassignment that passes the other checks. -/
lemma verifyPreassign_answering {doc : EngineChallengeWireResponse}
    {s₁ s₂ : EdgeState} (hreq : requireEngineChallengeFromEnv edge.host = true)
    (hdoc : verifyEngineChallengeResponse X call.nonce doc = .ok ()) (hvcek : doc.cpu.vcekDer X = .ok vcek)
    (hcheck : checkAssignment edge call pre engine ctx s = (.ok nowMs, s₁))
    (hacc : acceptRecipient X edge call pre nowMs vcek s₁ = (.ok (), s₂)) :
    verifyPreassign X edge (call.answering doc) pre engine ctx s = (.ok (), s₂) :=
  verifyPreassign_eq_ok.mpr
    ⟨nowMs, s₁, vcek, hcheck, challengeVcek_answering pre.trust hreq hdoc hvcek, hacc⟩

variable (X)

/-- An answer of some other engine, with a VCEK of the relay's choice. -/
def otherEngineAnswer (nonce : Octets 32) (engineId : Str) (vcek : Option Bytes) : EngineChallengeWireResponse :=
  let zeros : Bytes := List.replicate 32 0
  { schemaVersion := 1
    reportDataVersion := 1
    engine := ⟨'x' :: engineId, X.hex.encode zeros, ⟨"mrenclave", none, none, some (X.hex.encode zeros)⟩⟩
    epoch := ⟨[], [], [], X.base64.encodeUrlSafeNoPad [], X.base64.encodeUrlSafeNoPad [],
      X.base64.encodeUrlSafeNoPad []⟩
    challengeNonceB64 := X.base64.encodeUrlSafeNoPad nonce.val
    cpu := ⟨[], vcek.map X.base64.encodeUrlSafeNoPad⟩
    gpu := none }

variable {X}

lemma expectedReportData_otherEngineAnswer (hb : X.base64.Lawful) (hh : X.hex.Lawful) (nonce : Octets 32)
    (engineId : Str) (vcek : Option Bytes) :
    ∃ b, expectedReportData X nonce (otherEngineAnswer X nonce engineId vcek) = .ok b := by
  have hkey := decodeB64_encode X hb []
  have hhex (label : Str) := decodeHex32_encode X hh ⟨List.replicate 32 0, List.length_replicate⟩ label
  have hbody : measurementBody X (.mrenclave (X.hex.encode (List.replicate 32 0))) =
      .ok (0x01 :: List.replicate 32 0) := by
    rw [measurementBody, hhex]
    rfl
  exact expectedReportData_exists X hkey hkey hkey (hhex _) rfl rfl hbody

lemma vcekDer_otherEngineAnswer (hb : X.base64.Lawful) (nonce : Octets 32) (engineId : Str)
    (vcek : Option Bytes) : (otherEngineAnswer X nonce engineId vcek).cpu.vcekDer X = .ok vcek := by
  rcases vcek with _ | der
  · rfl
  · simp only [otherEngineAnswer, EngineChallengeWireCpu.vcekDer, Option.map_some, decodeB64_encode X hb]
    rfl

end Challenge

/-- **When the challenge speaks about the recipient.**  Against a relay that may answer the challenge as it likes, an
accepted answer is about the trust document exactly when the preassignment is refused anyway: nothing compares
the answer with the document. -/
theorem verifyPreassign_answer_names_trust_iff (X : Crates) (hb : X.base64.Lawful) (hh : X.hex.Lawful)
    (hj : X.json.RejectsNul) (edge : OpeDispatchUpstream)
    (hreq : requireEngineChallengeFromEnv edge.host = true) (call : CallInputs) (pre : PreassignResponse)
    (engine : InventoryEngine) (ctx : UpstreamRequestContext) (s : EdgeState) :
    (∀ doc s', verifyPreassign X edge (call.answering doc) pre engine ctx s = (.ok (), s') →
      AnswerNames doc pre.trust) ↔
    ¬ ∃ vcek, OtherwiseAccepted X edge call pre engine ctx s vcek := by
  constructor
  · rintro h ⟨vcek, nowMs, s₁, s₂, hcheck, hacc⟩
    -- the relay splices in an answer of another engine, with the VCEK that the report needs
    obtain ⟨b, hexp⟩ := expectedReportData_otherEngineAnswer hb hh call.nonce pre.trust.engineId vcek
    have hver := verifyEngineChallengeResponse_withRawQuote X hb hj ⟨rfl, rfl⟩
      (decodeNonceB64Url_encode X hb call.nonce) hexp
    have hvcek := vcekDer_otherEngineAnswer hb call.nonce pre.trust.engineId vcek
    have hnames := h _ s₂ (verifyPreassign_answering hreq hver hvcek hcheck hacc)
    exact List.cons_ne_self _ _ hnames.engineId
  · rintro hnone doc s' hok
    obtain ⟨nowMs, s₁, vcek, hcheck, -, hacc⟩ := verifyPreassign_eq_ok.mp hok
    exact absurd ⟨vcek, nowMs, s₁, s', hcheck, hacc⟩ hnone

namespace Sample

open Platform.Sample

def pre : PreassignResponse where
  assignId := "a1"
  engineId := "e1"
  engineSet := "shared"
  keySet := "api"
  openapiKeyId := "k1"
  expiresAtMs := 1785542430000
  ttlMs := 30000
  trust :=
    { engineId := trust.engineId
      epochId := trust.epochId
      notBefore := trust.notBefore
      notAfter := trust.notAfter
      hybrid := ⟨[], trust.mlkemEncapsulationKey, trust.x25519Public⟩
      identity := ⟨trust.ed25519Public, trust.identitySignature⟩
      attestation := some (some ⟨"sev-snp", quote⟩) }

def engine : InventoryEngine := ⟨"e1", "shared", ["m"], true, 1⟩

def ctx : UpstreamRequestContext := ⟨"k1", "api"⟩

def edge : OpeDispatchUpstream := ⟨policy, false, host⟩

def call : CallInputs where
  hostMs := 1785542400000
  write := .stored
  nonce := nonce
  challengeEngine _ _ _ := .error (.transport "timed out")
  httpGet _ := .error (.http "timed out")

lemma cpuQuote_pre : pre.trust.cpuQuote = some quote := cpuQuote_of_encode wrapperBytes (by decide) rfl

lemma check_pre : checkAssignment edge call pre engine ctx (.fresh .missing) =
    (.ok 1785542400000, .fresh .missing) :=
  checkAssignment_of_unsealed rfl (by decide) (by decide)

lemma accept_pre (vcek : Option Bytes) : acceptRecipient challengeTables.crates edge call pre 1785542400000 vcek
    (.fresh .missing) = (.ok (), .fresh .missing) := by
  have htree : challengeTables.trees.lookup wrapperBytes = some wrapperTree := by
    have hne : (wrapperBytes == challengeBytes) = false := by decide
    change List.lookup wrapperBytes ((challengeBytes, challengeTree) :: tables.trees) = _
    rw [List.lookup_cons, hne]
    exact List.lookup_cons_self
  have hacc := accept_quote (t := challengeTables) window_host List.lookup_cons_self (by decide) htree
  rw [← cpuQuote_pre] at hacc
  exact acceptRecipient_chain_off rfl hacc

end Sample

/-- The edge accepts the keys of `e1` on a challenge that `e2` answered. -/
theorem verifyPreassign_spliced_answer :
    verifyPreassign Platform.Sample.challengeTables.crates Sample.edge (Sample.call.answering Platform.Sample.answer)
      Sample.pre Sample.engine Sample.ctx (.fresh .missing) = (.ok (), .fresh .missing) ∧
    ¬ AnswerNames Platform.Sample.answer Sample.pre.trust :=
  ⟨verifyPreassign_answering rfl Platform.Sample.verify_answer rfl Sample.check_pre (Sample.accept_pre none),
    fun h => absurd h.engineId (by decide)⟩

theorem verifyPreassign_answer_names_trust_iff_sample :
    ¬ ∀ doc s', verifyPreassign Platform.Sample.challengeTables.crates Sample.edge (Sample.call.answering doc)
      Sample.pre Sample.engine Sample.ctx (.fresh .missing) = (.ok (), s') → AnswerNames doc Sample.pre.trust := by
  have hj : Platform.Sample.challengeTables.crates.json.RejectsNul :=
    CrateTables.rejectsNul (by decide)
  rw [verifyPreassign_answer_names_trust_iff _ Base64.rfc4648_lawful Hex.lowercase_lawful hj _ rfl, not_not]
  exact ⟨none, _, _, _, Sample.check_pre, Sample.accept_pre none⟩

end TeechatOpenapi.Cvm
