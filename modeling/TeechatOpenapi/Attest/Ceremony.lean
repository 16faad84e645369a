import TeechatOpenapi.Attest.Manifest

/-!
# TLS key ceremonies (`openapi-attest/src/ceremony.rs`)

The public pins of the keys that a ceremony produced.  The signature check is the module's own, and so is the fetch,
which does not look at the status of an answer.  `parseCeremonyManifest` does not look at `not_after`.
-/

namespace TeechatOpenapi.Attest

open Lib

/-- A key that a ceremony produced, by its SPKI digest. -/
structure CeremonyRelease where
  ceremonyId : Str
  spkiSha256 : Str
  goldenVersion : Str
  retiredAt : Option Str
  deriving DecidableEq

/-- The signed list of the keys of ceremonies. -/
structure CeremonyManifest where
  schema : Str
  keyId : Str
  epoch : Nat
  notAfter : Str
  retiredGracePeriodDays : Nat
  hostnames : List Str
  active : List CeremonyRelease
  retired : List CeremonyRelease

/-- A ceremony manifest whose signature was checked, and where it came from. -/
structure VerifiedCeremonyManifest where
  manifest : CeremonyManifest
  trustSource : Str

/-- Where a ceremony manifest is looked for. -/
structure CeremonyLoadOptions where
  manifestPath : Option Str := none
  manifestSigPath : Option Str := none
  wwwUrl : Option Str := none

def CeremonyRelease.read (j : Json) : Option CeremonyRelease := do
  let _ ← Json.required Json.asStr? (j.slot 6 3 "published_at")
  let _ ← optText (j.slot 6 4 "notes")
  return {
    ceremonyId := ← Json.required Json.asStr? (j.slot 6 0 "ceremony_id")
    spkiSha256 := ← Json.required Json.asStr? (j.slot 6 1 "spki_sha256")
    goldenVersion := ← Json.required Json.asStr? (j.slot 6 2 "golden_version")
    retiredAt := ← optText (j.slot 6 5 "retired_at") }

def CeremonyManifest.read (j : Json) : Option CeremonyManifest := do
  let _ ← Json.required Json.asStr? (j.slot 10 2 "published_at")
  let _ ← optText (j.slot 10 6 "manifest_url")
  return {
    schema := ← Json.required Json.asStr? (j.slot 10 0 "schema")
    keyId := ← Json.required Json.asStr? (j.slot 10 1 "key_id")
    epoch := ← Json.required (Json.asUnsigned? u64Max) (j.slot 10 3 "epoch")
    notAfter := ← Json.required Json.asStr? (j.slot 10 4 "not_after")
    retiredGracePeriodDays := ← Json.defaulted 0 (Json.asUnsigned? u64Max) (j.slot 10 5 "retired_grace_period_days")
    hostnames := ← Json.required (Json.vec Json.asStr?) (j.slot 10 7 "hostnames")
    active := ← Json.defaulted [] (Json.vec CeremonyRelease.read) (j.slot 10 8 "active")
    retired := ← Json.defaulted [] (Json.vec CeremonyRelease.read) (j.slot 10 9 "retired") }

def defaultCeremonyWwwUrl : Str := "https://www.teechat.ai/.well-known/teechat/openapi-tls-ceremony/manifest.json"

section Load

variable (X : Crates) (E : Outside)

def parseCeremonyManifest (bytes : Bytes) : Except AttestError CeremonyManifest := do
  let m ← mapErr (fun e => .manifest (format ["ceremony json: ", e])) (X.fromSlice CeremonyManifest.read bytes)
  failIf (m.schema ≠ ("teechat-openapi-tls-ceremony/v1" : Str))
    (.manifest (format ["unsupported ceremony schema ", m.schema]))
  failIf (m.keyId ≠ pinnedKeyId)
    (.manifest (format ["unexpected ceremony key_id ", m.keyId, " (want ", pinnedKeyId, ")"]))
  return m

/-- `verify_sig`. -/
def verifyCeremonySig (bytes : Bytes) (sigHex : Str) : Except AttestError Unit := do
  let pkBytes ← mapErr (fun e => .manifest (format ["pinned pubkey: ", e])) (X.hex.decode pinnedPublicKeyHex)
  failIf (pkBytes.length ≠ 32) (.manifest "pinned pubkey length")
  failIf (¬ X.ed25519.keyFromBytes pkBytes) (.manifest (format ["pubkey: ", E.keyError pkBytes]))
  let sigRaw ← mapErr (fun e => .manifest (format ["ceremony sig hex: ", e])) (X.hex.decode (trim sigHex))
  let sig ← mapErr (fun e => .manifest (format ["ceremony sig: ", e])) (X.ed25519.signatureFromSlice sigRaw)
  failIf (¬ X.ed25519.verify pkBytes bytes sig) (.manifest (format ["ceremony signature: ", E.verifyError]))

def loadSignedCeremonyFiles (manifestPath sigPath : Str) : Run VerifiedCeremonyManifest := do
  let bytes ← fsRead E manifestPath
  let sig ← fsReadToString E sigPath
  Op.lift (verifyCeremonySig X E bytes sig)
  let manifest ← Op.lift (parseCeremonyManifest X bytes)
  return ⟨manifest, "local"⟩

def loadCeremonyAllowlist (opts : CeremonyLoadOptions) : Run VerifiedCeremonyManifest :=
  match opts.manifestPath, opts.manifestSigPath with
  | some mp, some sp => loadSignedCeremonyFiles X E mp sp
  | _, _ => do
    let www := opts.wwwUrl.getD defaultCeremonyWwwUrl
    let bytes ← fetchUrl E www
    let raw ← fetchUrl E (sigUrlOf replaceAll www)
    let sig ← Op.lift (mapErr (fun e => .http (format ["ceremony sig utf8: ", e])) (stringFromUtf8 raw))
    Op.lift (verifyCeremonySig X E bytes sig)
    let manifest ← Op.lift (parseCeremonyManifest X bytes)
    return ⟨manifest, "teechat_fallback"⟩

lemma loadCeremonyAllowlist_floor (opts : CeremonyLoadOptions) :
    Op.Fixes AttestState.floor (loadCeremonyAllowlist X E opts) := by
  unfold loadCeremonyAllowlist
  split
  · exact Op.Fixes.bind (fsRead_floor E _) fun _ => Op.Fixes.bind (fsReadToString_floor E _) fun _ =>
      Op.Fixes.lift_bind fun _ => Op.Fixes.lift_bind fun _ => Op.Fixes.pure _ _
  · exact Op.Fixes.bind (fetchUrl_floor E _) fun _ => Op.Fixes.bind (fetchUrl_floor E _) fun _ =>
      Op.Fixes.lift_bind fun _ => Op.Fixes.lift_bind fun _ =>
        Op.Fixes.lift_bind fun _ => Op.Fixes.pure _ _

end Load

/-- A row pins a serving key. -/
def CeremonyRelease.pins (rel : CeremonyRelease) (spkiSha256 : Str) : Bool :=
  eqIgnoreAsciiCase rel.spkiSha256 (toAsciiLowercase (trim spkiSha256))

/-- The body of the loop over `retired`: whether a row is returned. -/
def CeremonyRelease.retiredOk (now graceDays : Nat) (rel : CeremonyRelease) : Bool :=
  match rel.retiredAt with
  | none => true
  | some retiredAt =>
    match parseRfc3339Secs retiredAt with
    | .ok retired => withinGrace now graceDays retired
    | .error _ => false

def findCeremonyReleaseBySpki (now : Nat) (manifest : CeremonyManifest) (spkiSha256 : Str) :
    Option (Listed CeremonyRelease) :=
  match manifest.active.find? (·.pins spkiSha256) with
  | some r => some ⟨.active, r⟩
  | none =>
    (manifest.retired.find? fun r => r.pins spkiSha256 && r.retiredOk now manifest.retiredGracePeriodDays).map
      (⟨.retired, ·⟩)

def ceremonyPinRequired (manifest : CeremonyManifest) : Bool := manifest.active ≠ []

end TeechatOpenapi.Attest
