import TeechatOpenapi.Crates
import TeechatOpenapi.Platform.SealedTime

/-!
# Signed usage reports (`openapi-platform/src/engine_usage.rs`)

The token counts of an answer come from a signed report, from an unsigned one, or from an estimate.
-/

namespace TeechatOpenapi.Platform

open Lib

/-- Why a usage report is refused. -/
inductive EngineUsageError where
  | missing
  | invalid (text : Str)
  | signatureInvalid
  | requestHashMismatch
  | engineMismatch
  | epochMismatch
  | inflatedCounts
  deriving DecidableEq

def EngineUsageError.display : EngineUsageError → Str
  | .missing => "engine usage report required (RB-37)"
  | .invalid text => "engine usage report invalid: ".toList ++ text
  | .signatureInvalid => "engine usage signature invalid (RB-37)"
  | .requestHashMismatch => "engine usage request hash mismatch (RB-37)"
  | .engineMismatch => "engine usage engine_id mismatch (RB-37)"
  | .epochMismatch => "engine usage epoch mismatch (RB-37)"
  | .inflatedCounts => "engine usage token counts exceed independent bound (RB-37)"

def requireSignedUsageFromEnv (host : Host) : Bool := host.flagOn "OPENAPI_REQUIRE_SIGNED_USAGE"

/-- An engine's count of the tokens of a request. -/
structure UsageReport where
  requestId : Str
  conversationId : Str
  engineId : Str
  promptTokens : Nat
  completionTokens : Nat
  cachedTokens : Nat
  ts : Str
  epochId : Option Str
  deriving DecidableEq

/-- A usage report with the engine's signature. -/
structure SignedUsageReport where
  report : UsageReport
  sig : Str
  deriving DecidableEq

def UsageReport.read (j : Json) : Option UsageReport := do
  return {
    requestId := ← Json.required Json.asStr? (j.slot 8 0 "request_id")
    conversationId := ← Json.required Json.asStr? (j.slot 8 1 "conversation_id")
    engineId := ← Json.required Json.asStr? (j.slot 8 2 "engine_id")
    promptTokens := ← Json.required Json.asU64? (j.slot 8 3 "prompt_tokens")
    completionTokens := ← Json.required Json.asU64? (j.slot 8 4 "completion_tokens")
    cachedTokens := ← Json.defaulted 0 Json.asU64? (j.slot 8 5 "cached_tokens")
    ts := ← Json.required Json.asStr? (j.slot 8 6 "ts")
    epochId := ← Json.defaulted none (Json.nullable Json.asStr?) (j.slot 8 7 "epoch_id") }

def SignedUsageReport.read (j : Json) : Option SignedUsageReport := do
  return {
    report := ← Json.required UsageReport.read (j.slot 2 0 "report")
    sig := ← Json.required Json.asStr? (j.slot 2 1 "sig") }

/-- What a usage report is checked against. -/
structure UsageVerifyContext where
  expectedEngineId : Str
  expectedEpochId : Str
  verifyKeyB64url : Str
  expectedRequestHashHex : Str
  maxTotalTokens : Nat

/-- A byte-length estimate of a token count. -/
def tokenEstimate (len : Nat) : Nat := max (len / 4) 1

def independentTokenBound (requestBody : Bytes) (completionText : Str) : Nat :=
  min (saturatingAdd (tokenEstimate requestBody.length) (tokenEstimate (utf8 completionText).length) * 8) u64Max

def constantTimeEq (a b : Bytes) : Bool :=
  if a.length ≠ b.length then false else (List.zipWith (· ^^^ ·) a b).foldl (· ||| ·) 0 = 0

section Usage

variable (X : Crates)

def usageReportSigningBytes (report : UsageReport) : Bytes :=
  utf8 (X.json.valueText (.object [
    ("cached_tokens", .number (.posInt report.cachedTokens)),
    ("completion_tokens", .number (.posInt report.completionTokens)),
    ("conversation_id", .string report.conversationId), ("engine_id", .string report.engineId),
    ("prompt_tokens", .number (.posInt report.promptTokens)), ("request_id", .string report.requestId),
    ("ts", .string report.ts)]))

def requestBodyHashHex (requestBody : Bytes) : Str := X.hex.encode (X.sha2.sha256 requestBody)

def base64UrlDecode (s : Str) : Except Unit Bytes :=
  match X.base64.urlSafeNoPad s with
  | .ok b => .ok b
  | .error _ => mapErr (fun _ => ()) (X.base64.urlSafe s)

def parseUsageReportHeader (header : Str) : Except EngineUsageError SignedUsageReport := do
  let bytes ← mapErr (fun _ => EngineUsageError.invalid "base64url decode failed") (base64UrlDecode X (trim header))
  let tree ← mapErr (fun e => EngineUsageError.invalid ("json: ".toList ++ e)) (X.json.tree bytes)
  okOr (SignedUsageReport.read tree) (.invalid ("json: ".toList ++ X.json.typeError bytes))

def verifyUsageSignature (ed25519PublicB64url : Str) (signed : SignedUsageReport) : Bool :=
  match base64UrlDecode X (trim ed25519PublicB64url), base64UrlDecode X (trim signed.sig) with
  | .ok key, .ok sig =>
    key.length = 32 ∧ sig.length = 64 ∧ X.ed25519.keyFromBytes key ∧
      X.ed25519.verify key (usageReportSigningBytes X signed.report) sig
  | _, _ => false

def verifySignedUsageReport (signed : SignedUsageReport) (ctx : UsageVerifyContext) : Except EngineUsageError Unit := do
  failIf (signed.report.engineId ≠ ctx.expectedEngineId) .engineMismatch
  failIf (∃ epoch ∈ signed.report.epochId, epoch ≠ ctx.expectedEpochId) .epochMismatch
  failIf (¬ constantTimeEq (utf8 signed.report.requestId) (utf8 ctx.expectedRequestHashHex)) .requestHashMismatch
  failIf (ctx.maxTotalTokens < saturatingAdd signed.report.promptTokens signed.report.completionTokens) .inflatedCounts
  failIf (¬ verifyUsageSignature X ctx.verifyKeyB64url signed) .signatureInvalid

/-- The counts of an unsigned header, when one of them is positive. -/
def unsignedCounts (hdr : Str) : Option (Nat × Nat) :=
  let counts :=
    match parseUsageReportHeader X hdr with
    | .ok signed => some (signed.report.promptTokens, signed.report.completionTokens)
    | .error _ =>
      -- legacy: the header is decoded without a trim, and `report` may be left out
      ((toOption (base64UrlDecode X hdr)).bind fun bytes => toOption (X.json.value bytes)).map fun (v : Json) =>
        let report := (v.get? "report").getD v
        (((report.get? "prompt_tokens").bind Json.asU64?).getD 0,
          ((report.get? "completion_tokens").bind Json.asU64?).getD 0)
  counts.filter fun c => 0 < c.1 ∨ 0 < c.2

def resolveUsageTokens (usageHdr : Option Str) (requestBody : Bytes) (completionText : Str) (requireSigned : Bool)
    (ctx : Option UsageVerifyContext) : Except EngineUsageError (Nat × Nat) :=
  if requireSigned then do
    let ctx ← okOr ctx EngineUsageError.missing
    let hdr ← okOr usageHdr EngineUsageError.missing
    let signed ← parseUsageReportHeader X hdr
    verifySignedUsageReport X signed ctx
    return (signed.report.promptTokens, signed.report.completionTokens)
  else
    .ok ((usageHdr.bind (unsignedCounts X)).getD
      (tokenEstimate requestBody.length, tokenEstimate (utf8 completionText).length))

end Usage

section Verified

variable {X : Crates}

lemma base64UrlDecode_encode (hb : X.base64.Lawful) (x : Bytes) :
    base64UrlDecode X (X.base64.encodeUrlSafeNoPad x) = .ok x := by
  rw [base64UrlDecode, hb.urlSafeNoPad_encode]

/-- The signature of a report verifies under `key`. -/
structure VerifiedUnder (X : Crates) (signed : SignedUsageReport) (key : Bytes) : Prop where
  length : key.length = 32
  sig : ∃ sig, base64UrlDecode X (trim signed.sig) = .ok sig ∧
    X.ed25519.verify key (usageReportSigningBytes X signed.report) sig = true

lemma verifyUsageSignature_key {keyText : Str} {signed : SignedUsageReport}
    (h : verifyUsageSignature X keyText signed = true) :
    ∃ key, base64UrlDecode X (trim keyText) = .ok key ∧ VerifiedUnder X signed key := by
  unfold verifyUsageSignature at h
  split at h
  · rename_i key sig hkey hsig
    simp only [Bool.decide_and, Bool.and_eq_true, decide_eq_true_eq] at h
    obtain ⟨hlen, -, -, hver⟩ := h
    exact ⟨key, hkey, hlen, sig, hsig, hver⟩
  · cases h

lemma VerifiedUnder.of_text {keyText : Str} {signed : SignedUsageReport} {key : Bytes}
    (hkey : base64UrlDecode X (trim keyText) = .ok key) (h : verifyUsageSignature X keyText signed = true) :
    VerifiedUnder X signed key := by
  obtain ⟨key', hkey', hver⟩ := verifyUsageSignature_key h
  obtain rfl : key' = key := Except.ok.inj (hkey'.symm.trans hkey)
  exact hver

/-- **Counts under required signatures** are those of a report in the header that names the engine and verifies under
the key of the context. -/
theorem resolveUsageTokens_signed {usageHdr : Option Str} {body : Bytes} {text : Str} {ctx : UsageVerifyContext}
    {counts : Nat × Nat} (h : resolveUsageTokens X usageHdr body text true (some ctx) = .ok counts) :
    ∃ hdr signed key, usageHdr = some hdr ∧ parseUsageReportHeader X hdr = .ok signed ∧
      signed.report.engineId = ctx.expectedEngineId ∧
      counts = (signed.report.promptTokens, signed.report.completionTokens) ∧
      base64UrlDecode X (trim ctx.verifyKeyB64url) = .ok key ∧ VerifiedUnder X signed key := by
  simp only [resolveUsageTokens, if_true, bind_eq_ok, okOr_eq_ok, pure_eq_ok, Option.some.injEq,
    verifySignedUsageReport, failIf_eq_ok, not_not] at h
  obtain ⟨_, rfl, hdr, hhdr, signed, hparse, _, ⟨_, hengine, _, _, _, _, _, _, hsig⟩, hcounts⟩ := h
  obtain ⟨key, hkey, hver⟩ := verifyUsageSignature_key hsig
  exact ⟨hdr, signed, key, hhdr, hparse, hengine, hcounts.symm, hkey, hver⟩

end Verified

end TeechatOpenapi.Platform
