import TeechatOpenapi.Platform.EngineTrust

/-!
# Per-epoch evidence (`openapi-platform/src/epoch_evidence.rs`)

A quote is the base64url text of a JSON wrapper around a SEV-SNP report.  With bind v2 the report's REPORT_DATA is a
hash over the epoch's own keys (`bindEpochReportData64`); `verifyEpochEvidence` recomputes it and looks for it in the
report.
-/

namespace TeechatOpenapi.Platform

open Lib

/-- `QuoteEpochClaims`: the key material a report vouches for. -/
structure QuoteEpochClaims where
  engineId : Str
  epochId : Str
  notBefore : Str
  notAfter : Str
  mlkemEncapsulationKey : Str
  x25519Public : Str
  usageSigningPublic : Str
  deriving DecidableEq

/-- The hash of a binary. -/
structure WorkloadMeasurement where
  binarySha256 : Str

/-- What a wrapper claims beside the report. -/
structure WrapperClaims where
  tlsClientCertSha256 : Str
  engine : Option WorkloadMeasurement
  vllm : Option WorkloadMeasurement
  epoch : Option QuoteEpochClaims
  issuedAt : Str

/-- The JSON wrapper around a report. -/
structure QuoteWrapper where
  v : Nat
  kind : Str
  reportB64 : Str
  reportDataB64 : Str
  claims : WrapperClaims

def QuoteEpochClaims.read (j : Json) : Option QuoteEpochClaims := do
  let field (i : Nat) (name : Str) : Option Str := Json.required Json.asStr? (j.slot 7 i name)
  return {
    engineId := ← field 0 "engine_id"
    epochId := ← field 1 "epoch_id"
    notBefore := ← field 2 "not_before"
    notAfter := ← field 3 "not_after"
    mlkemEncapsulationKey := ← field 4 "mlkem_encapsulation_key"
    x25519Public := ← field 5 "x25519_public"
    usageSigningPublic := ← field 6 "usage_signing_public" }

def WorkloadMeasurement.read (j : Json) : Option WorkloadMeasurement := do
  return { binarySha256 := ← Json.defaulted [] Json.asStr? (j.slot 1 0 "binary_sha256") }

def WrapperClaims.read (j : Json) : Option WrapperClaims := do
  return {
    tlsClientCertSha256 := ← Json.defaulted [] Json.asStr? (j.slot 5 0 "tls_client_cert_sha256")
    engine := ← Json.defaulted none (Json.nullable WorkloadMeasurement.read) (j.slot 5 1 "engine")
    vllm := ← Json.defaulted none (Json.nullable WorkloadMeasurement.read) (j.slot 5 2 "vllm")
    epoch := ← Json.defaulted none (Json.nullable QuoteEpochClaims.read) (j.slot 5 3 "epoch")
    issuedAt := ← Json.defaulted [] Json.asStr? (j.slot 5 4 "issued_at") }

def QuoteWrapper.read (j : Json) : Option QuoteWrapper := do
  return {
    v := ← Json.required (Json.asUnsigned? 255) (j.slot 5 0 "v")
    kind := ← Json.required Json.asStr? (j.slot 5 1 "kind")
    reportB64 := ← Json.defaulted [] Json.asStr? (j.slot 5 2 "report_b64")
    reportDataB64 := ← Json.defaulted [] Json.asStr? (j.slot 5 3 "report_data_b64")
    claims := ← Json.required WrapperClaims.read (j.slot 5 4 "claims") }

/-- The subject of the evidence: what the caller is asked to encrypt to (`EpochEvidenceSubject`). -/
structure EpochEvidenceSubject where
  engineId : Str
  epochId : Str
  notBefore : Str
  notAfter : Str
  mlkemEncapsulationKey : Str
  x25519Public : Str

/-- Why epoch evidence is refused. -/
inductive EpochEvidenceError where
  | absent
  | unreadableQuote
  | engineMismatch
  | epochMismatch
  | windowMismatch
  | mlkemMismatch
  | x25519Mismatch
  | usageKeyMissing
  | reportDataMismatch
  | reportUnreadable
  deriving DecidableEq

def EpochEvidenceError.display : EpochEvidenceError → Str
  | .absent => "attestation carries no per-epoch evidence"
  | .unreadableQuote => "attestation quote is not a readable SEV-SNP wrapper"
  | .engineMismatch => "attested engine id does not match the epoch presented"
  | .epochMismatch => "attested epoch id does not match the epoch presented"
  | .windowMismatch => "attested epoch window does not match the epoch presented"
  | .mlkemMismatch => "attested ML-KEM key does not match the epoch presented"
  | .x25519Mismatch => "attested X25519 key does not match the epoch presented"
  | .usageKeyMissing => "attested epoch carries no usage-signing key"
  | .reportDataMismatch => "attestation report does not carry this epoch's REPORT_DATA"
  | .reportUnreadable => "attestation report is too short to hold REPORT_DATA"

/-- The epoch that a report was found to name. -/
structure VerifiedEpochEvidence where
  epoch : QuoteEpochClaims
  reportB64 : Str

def snpReportDataOffset : Nat := 0x50

def reportDataLen : Nat := 64

variable {subject : EpochEvidenceSubject} {nonce : Option Str}

section Evidence

variable (X : Crates)

def bindEpochReportData64 (epoch : QuoteEpochClaims)
    (tlsClientCertSha256 engineBinarySha256 vllmBinarySha256 issuedAt : Str) (nonce : Option Str) : Bytes :=
  X.sha2.sha512 (utf8 (joinNul ["teechat-sev-snp-bind-v2", epoch.engineId, epoch.epochId, epoch.notBefore,
    epoch.notAfter, epoch.mlkemEncapsulationKey, epoch.x25519Public, epoch.usageSigningPublic,
    toAsciiLowercase tlsClientCertSha256, toAsciiLowercase engineBinarySha256, toAsciiLowercase vllmBinarySha256,
    issuedAt, nonce.getD []]))

/-- `decode_base64url` of this module: on the trimmed text. -/
def decodeTrimmedBase64url (value : Str) : Option Bytes := toOption (decodeBase64url X (trim value))

def parseWrapper (quote : Str) : Option QuoteWrapper := do
  let raw ← decodeTrimmedBase64url X quote
  let j ← toOption (X.json.tree raw)
  let wrapper ← QuoteWrapper.read j
  if wrapper.v ≠ 2 ∨ wrapper.kind ≠ ("sev-snp" : Str) then none else some wrapper

def quoteHasEpochEvidence (quote : Str) : Bool :=
  ((parseWrapper X quote).map fun w => w.claims.epoch.isSome).getD false

def matchFields (epoch : QuoteEpochClaims) (subject : EpochEvidenceSubject) : Except EpochEvidenceError Unit := do
  failIf (epoch.engineId ≠ subject.engineId) .engineMismatch
  failIf (epoch.epochId ≠ subject.epochId) .epochMismatch
  failIf (epoch.notBefore ≠ subject.notBefore ∨ epoch.notAfter ≠ subject.notAfter) .windowMismatch
  failIf (epoch.mlkemEncapsulationKey = [] ∨ epoch.mlkemEncapsulationKey ≠ subject.mlkemEncapsulationKey)
    .mlkemMismatch
  failIf (epoch.x25519Public = [] ∨ epoch.x25519Public ≠ subject.x25519Public) .x25519Mismatch
  failIf (trim epoch.usageSigningPublic = []) .usageKeyMissing

/-- The REPORT_DATA that a wrapper's own claims bind an epoch block to. -/
def WrapperClaims.bind (claims : WrapperClaims) (epoch : QuoteEpochClaims) (nonce : Option Str) : Bytes :=
  bindEpochReportData64 X epoch claims.tlsClientCertSha256 ((claims.engine.map (·.binarySha256)).getD [])
    ((claims.vllm.map (·.binarySha256)).getD []) claims.issuedAt nonce

def verifyEpochEvidence (quote : Str) (subject : EpochEvidenceSubject) (nonce : Option Str) :
    Except EpochEvidenceError VerifiedEpochEvidence := do
  let wrapper ← okOr (parseWrapper X quote) .unreadableQuote
  let epoch ← okOr wrapper.claims.epoch .absent
  matchFields epoch subject
  let expected := wrapper.claims.bind X epoch nonce
  let declared ← mapErr (fun _ => .reportDataMismatch) (X.base64.standard (trim wrapper.reportDataB64))
  failIf (declared.length ≠ reportDataLen ∨ declared ≠ expected) .reportDataMismatch
  -- the wrapper's own field is self-declared; the report is the part the hardware signed
  let report ← mapErr (fun _ => .reportUnreadable) (X.base64.standard (trim wrapper.reportB64))
  let found ← okOr (slice report snpReportDataOffset reportDataLen) .reportUnreadable
  failIf (found ≠ expected) .reportDataMismatch
  return { epoch, reportB64 := wrapper.reportB64 }

/-- An epoch block describes a subject: same engine, epoch, window and keys, and the keys are there. -/
structure QuoteEpochClaims.Describes (epoch : QuoteEpochClaims) (subject : EpochEvidenceSubject) : Prop where
  engineId : epoch.engineId = subject.engineId
  epochId : epoch.epochId = subject.epochId
  notBefore : epoch.notBefore = subject.notBefore
  notAfter : epoch.notAfter = subject.notAfter
  mlkem : epoch.mlkemEncapsulationKey = subject.mlkemEncapsulationKey
  x25519 : epoch.x25519Public = subject.x25519Public
  mlkem_ne : epoch.mlkemEncapsulationKey ≠ []
  x25519_ne : epoch.x25519Public ≠ []
  usage_ne : trim epoch.usageSigningPublic ≠ []

lemma matchFields_eq_ok {epoch : QuoteEpochClaims} {u : Unit} :
    matchFields epoch subject = .ok u ↔ epoch.Describes subject := by
  simp only [matchFields, bind_eq_ok, failIf_eq_ok, exists_const, not_or, not_not]
  constructor
  · rintro ⟨he, hp, ⟨hb, ha⟩, ⟨hm0, hm⟩, ⟨hx0, hx⟩, hu⟩
    exact ⟨he, hp, hb, ha, hm, hx, hm0, hx0, hu⟩
  · rintro ⟨he, hp, hb, ha, hm, hx, hm0, hx0, hu⟩
    exact ⟨he, hp, ⟨hb, ha⟩, ⟨hm0, hm⟩, ⟨hx0, hx⟩, hu⟩

lemma length_bind (claims : WrapperClaims) (epoch : QuoteEpochClaims) (nonce : Option Str) :
    (claims.bind X epoch nonce).length = reportDataLen := X.sha2.sha512_length _

/-- **What an accepted quote is**: a wrapper whose epoch block describes the subject, and whose declared field and
report both carry the hash of that block. -/
theorem verifyEpochEvidence_eq_ok {quote : Str} {verified : VerifiedEpochEvidence} :
    verifyEpochEvidence X quote subject nonce = .ok verified ↔
    ∃ wrapper report, parseWrapper X quote = some wrapper ∧ wrapper.claims.epoch = some verified.epoch ∧
      verified.epoch.Describes subject ∧ verified.reportB64 = wrapper.reportB64 ∧
      X.base64.standard (trim wrapper.reportDataB64) = .ok (wrapper.claims.bind X verified.epoch nonce) ∧
      X.base64.standard (trim wrapper.reportB64) = .ok report ∧
      slice report snpReportDataOffset reportDataLen = some (wrapper.claims.bind X verified.epoch nonce) := by
  simp only [verifyEpochEvidence, bind_eq_ok, okOr_eq_ok, mapErr_eq_ok, failIf_eq_ok, pure_eq_ok, exists_const,
    not_or, not_not, matchFields_eq_ok]
  constructor
  · rintro ⟨wrapper, hw, epoch, he, hm, declared, hd, ⟨-, rfl⟩, report, hr, found, hf, rfl, rfl⟩
    exact ⟨wrapper, report, hw, he, hm, rfl, hd, hr, hf⟩
  · rintro ⟨wrapper, report, hw, he, hm, hrep, hd, hr, hf⟩
    refine ⟨wrapper, hw, verified.epoch, he, hm, _, hd, ⟨length_bind X _ _ _, rfl⟩, report, hr, _, hf, rfl, ?_⟩
    rw [← hrep]

/-- The only way to find no evidence is a wrapper without an epoch block. -/
lemma verifyEpochEvidence_absent {quote : Str}
    (h : verifyEpochEvidence X quote subject nonce = .error .absent) : quoteHasEpochEvidence X quote = false := by
  rcases hw : parseWrapper X quote with _ | wrapper
  · simp [quoteHasEpochEvidence, hw]
  · rcases he : wrapper.claims.epoch with _ | epoch
    · simp [quoteHasEpochEvidence, hw, he]
    · -- with an epoch block every later error is another one
      exfalso
      revert h
      simp [-bind_pure_comp, verifyEpochEvidence, matchFields, bind_eq_error, okOr_eq_error, failIf_eq_error,
        mapErr_eq_error, pure_ne_error, hw, he]

lemma verifyEpochEvidence_of_no_epoch {quote : Str}
    {wrapper : QuoteWrapper} (hw : parseWrapper X quote = some wrapper) (he : wrapper.claims.epoch = none) :
    verifyEpochEvidence X quote subject nonce = .error .absent := by
  simp only [verifyEpochEvidence, hw, he, okOr, ok_bind]
  rfl

/-- The quote an engine writes around a wrapper tree. -/
def quoteOf (j : Json) : Str := X.base64.encodeUrlSafeNoPad (utf8 (X.json.structText j))

lemma decodeTrimmedBase64url_encode (hb : X.base64.Lawful) (x : Bytes) :
    decodeTrimmedBase64url X (X.base64.encodeUrlSafeNoPad x) = some x := by
  rw [decodeTrimmedBase64url, hb.trim_encodeUrlSafeNoPad, decodeBase64url, hb.urlSafeNoPad_encode]
  rfl

lemma parseWrapper_quoteOf (hb : X.base64.Lawful) {j : Json} {wrapper : QuoteWrapper}
    (hj : X.json.tree (utf8 (X.json.structText j)) = .ok j) (hw : QuoteWrapper.read j = some wrapper)
    (hv : wrapper.v = 2) (hk : wrapper.kind = ("sev-snp" : Str)) : parseWrapper X (quoteOf X j) = some wrapper := by
  simp only [parseWrapper, quoteOf, decodeTrimmedBase64url_encode X hb, hj, toOption, hw, hv, hk,
    Option.bind_eq_bind, Option.bind_some, ne_eq, not_true_eq_false, or_self, if_false]

end Evidence

end TeechatOpenapi.Platform
