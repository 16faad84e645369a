import TeechatOpenapi.Attest.Outside
import TeechatOpenapi.Platform.Challenge

/-!
# The edge manifest (`openapi-attest/src/manifest.rs`)

The signed allowlist of edge builds.  `parseAndValidateManifest` is the only one of the three document parsers of the
client that looks at `not_after`.

A row that a search returns is a reference into the manifest, so it also tells the list it stands in (`Listed`).
-/

namespace TeechatOpenapi.Attest

open Lib Platform

/-- `parse_rfc3339_secs`.  What follows the third part of the date or of the time is not looked at, and neither are the
ranges of the parts; arithmetic wraps. -/
def parseRfc3339Secs (text : Str) : Except AttestError Nat := do
  let s := trim text
  let (date, time) ← okOr ((stripSuffix s ['Z']).bind (splitOnce · 'T')) (.manifest (format ["bad timestamp ", s]))
  let d := date.splitOn '-'
  let y ← okOr (d[0]?.bind parseI64) (.manifest "bad year")
  let mo ← okOr (d[1]?.bind (parseUnsigned u32Max)) (.manifest "bad month")
  let day ← okOr (d[2]?.bind (parseUnsigned u32Max)) (.manifest "bad day")
  let t := (time.takeWhile (· ≠ '.')).splitOn ':'
  let hh ← okOr (t[0]?.bind (parseUnsigned u32Max)) (.manifest "bad hour")
  let mm ← okOr (t[1]?.bind (parseUnsigned u32Max)) (.manifest "bad minute")
  let ss ← okOr (t[2]?.bind (parseUnsigned u32Max)) (.manifest "bad second")
  let y := if mo ≤ 2 then wrapI64 (y - 1) else y
  let era := (if 0 ≤ y then y else wrapI64 (y - 399)).tdiv 400
  let yoe := wrapU64 (y - era * 400)
  let mp := if 2 < mo then mo - 3 else mo + 9
  let doy := wrapU64 ((153 * mp + 2) / 5 + day - 1)
  let doe := wrapU64 (yoe * 365 + yoe / 4 - yoe / 100 + doy)
  let days := wrapI64 (era * 146097 + doe - 719468)
  let secs := wrapI64 (days * 86400 + hh * 3600 + mm * 60 + ss)
  if secs < 0 then .error (.manifest "timestamp before epoch") else return secs.toNat

/-- A `not_after` has not passed. -/
def Unexpired (now : Nat) (notAfter : Str) : Prop := ∃ secs, parseRfc3339Secs notAfter = .ok secs ∧ now ≤ secs

/-- The end of a grace period of some days has not passed. -/
def withinGrace (now graceDays retired : Nat) : Bool := now ≤ saturatingAdd retired (saturatingMul graceDays 86400)

/-- The two lists a row can stand in. -/
inductive ListKind where
  | active
  | retired
  deriving DecidableEq

/-- A row of a document, with the list it stands in. -/
structure Listed (α : Type) where
  list : ListKind
  row : α

/-- `active.iter().chain(retired.iter())`. -/
def listed {α : Type} (active retired : List α) : List (Listed α) :=
  active.map (⟨.active, ·⟩) ++ retired.map (⟨.retired, ·⟩)

lemma mem_listed {α : Type} {active retired : List α} {r : Listed α} :
    r ∈ listed active retired ↔ r.list = .active ∧ r.row ∈ active ∨ r.list = .retired ∧ r.row ∈ retired := by
  obtain ⟨k, row⟩ := r
  cases k <;> simp [listed]

/-- A build of the edge that clients accept. -/
structure EdgeRelease where
  buildVersion : Str
  codeHash : Str
  quoteFormats : List Str
  goldenVersion : Option Str
  policyHash : Option Str
  measurement : Measurement
  retiredAt : Option Str
  deriving DecidableEq

/-- The builds that run under some hostnames. -/
structure ManifestRegion where
  region : Str
  hostnames : List Str
  active : List EdgeRelease
  retired : List EdgeRelease

/-- What a manifest asks of the client. -/
structure ManifestPolicy where
  rejectDebug : Bool
  requireSessionSpkiBind : Bool
  requireRuntimePolicyPin : Bool

/-- The signed list of edge builds. -/
structure OpenApiEdgeManifest where
  schema : Str
  keyId : Str
  epoch : Nat
  notAfter : Str
  retiredGracePeriodDays : Nat
  policy : ManifestPolicy
  regions : List ManifestRegion

/-- A manifest whose signature was checked, and by which key. -/
structure VerifiedManifest where
  manifest : OpenApiEdgeManifest
  keyId : Str

/-! ### Their JSON -/

/-- An optional text with `#[serde(default)]`. -/
def optText (slot : Option Json.Slot) : Option (Option Str) := Json.defaulted none (Json.nullable Json.asStr?) slot

/-- The variant of a `Measurement` that a tag names. -/
def readMeasurementVariant (tag fields : Json) : Option Measurement :=
  match tag.asStr? with
  | none => none
  | some name =>
    if name = ("mrenclave" : Str) then
      (Json.required Json.asStr? (fields.slot 1 0 "value")).map .mrenclave
    else if name = ("launch_digest" : Str) then do
      let launchDigest ← Json.required Json.asStr? (fields.slot 2 0 "launch_digest")
      let imageDigest ← Json.required Json.asStr? (fields.slot 2 1 "image_digest")
      return .launchDigest launchDigest imageDigest
    else none

/-- The derived `Deserialize` of `Measurement`, tagged by `kind`. -/
def readMeasurement : Json → Option Measurement
  | .object ms =>
    match ms.filter fun m => m.1 = ("kind" : Str) with
    | [tag] => readMeasurementVariant tag.2 (.object (ms.filter fun m => m.1 ≠ ("kind" : Str)))
    | _ => none
  | .array (tag :: rest) => readMeasurementVariant tag (.array rest)
  | _ => none

def EdgeRelease.read (j : Json) : Option EdgeRelease := do
  let _ ← optText (j.slot 8 6 "notes")
  return {
    buildVersion := ← Json.required Json.asStr? (j.slot 8 0 "build_version")
    codeHash := ← Json.required Json.asStr? (j.slot 8 1 "code_hash")
    quoteFormats := ← Json.required (Json.vec Json.asStr?) (j.slot 8 2 "quote_formats")
    goldenVersion := ← optText (j.slot 8 3 "golden_version")
    policyHash := ← optText (j.slot 8 4 "policy_hash")
    measurement := ← Json.required readMeasurement (j.slot 8 5 "measurement")
    retiredAt := ← optText (j.slot 8 7 "retired_at") }

def ManifestRegion.read (j : Json) : Option ManifestRegion := do
  return {
    region := ← Json.required Json.asStr? (j.slot 4 0 "region")
    hostnames := ← Json.required (Json.vec Json.asStr?) (j.slot 4 1 "hostnames")
    active := ← Json.required (Json.vec EdgeRelease.read) (j.slot 4 2 "active")
    retired := ← Json.defaulted [] (Json.vec EdgeRelease.read) (j.slot 4 3 "retired") }

def ManifestPolicy.read (j : Json) : Option ManifestPolicy := do
  let _ ← Json.required (Json.asUnsigned? u64Max) (j.slot 4 1 "max_quote_age_ms")
  return {
    rejectDebug := ← Json.required Json.asBool? (j.slot 4 0 "reject_debug")
    requireSessionSpkiBind := ← Json.defaulted true Json.asBool? (j.slot 4 2 "require_session_spki_bind")
    requireRuntimePolicyPin := ← Json.defaulted true Json.asBool? (j.slot 4 3 "require_runtime_policy_pin") }

/-- The derived `Deserialize` of `NextKey`, whose fields nothing reads. -/
def readNextKey (j : Json) : Option Unit := do
  let _ ← Json.required Json.asStr? (j.slot 3 0 "key_id")
  let _ ← Json.required Json.asStr? (j.slot 3 1 "public_key_hex")
  let _ ← optText (j.slot 3 2 "not_before")
  return ()

/-- The derived `Deserialize` of `OpenApiEdgeManifest`; `default_grace` is 30. -/
def OpenApiEdgeManifest.read (j : Json) : Option OpenApiEdgeManifest := do
  let _ ← Json.required Json.asStr? (j.slot 10 2 "published_at")
  let _ ← optText (j.slot 10 6 "manifest_url")
  let _ ← Json.defaulted none (Json.nullable readNextKey) (j.slot 10 9 "next_key")
  return {
    schema := ← Json.required Json.asStr? (j.slot 10 0 "schema")
    keyId := ← Json.required Json.asStr? (j.slot 10 1 "key_id")
    epoch := ← Json.required (Json.asUnsigned? u64Max) (j.slot 10 3 "epoch")
    notAfter := ← Json.required Json.asStr? (j.slot 10 4 "not_after")
    retiredGracePeriodDays := ← Json.defaulted 30 (Json.asUnsigned? u64Max) (j.slot 10 5 "retired_grace_period_days")
    policy := ← Json.required ManifestPolicy.read (j.slot 10 7 "policy")
    regions := ← Json.required (Json.vec ManifestRegion.read) (j.slot 10 8 "regions") }

def defaultManifestUrl : Str :=
  "https://www.teechat.ai/.well-known/teechat/openapi-attestation/global/manifest.json"

def pinnedKeyId : Str := "openapi-attestation-v1"

def pinnedPublicKeyHex : Str := "e2ea0bdac9f57cd912e45d3bcd11c46576273b72608b294fcc8660193db234b5"

section Load

variable (X : Crates) (E : Outside)

def verifyingKeyFromHex (hexStr : Str) : Except AttestError Bytes := do
  let bytes ← mapErr .manifest (X.hex.decode (trim hexStr))
  failIf (bytes.length ≠ 32) (.manifest "public key must be 32 bytes")
  failIf (¬ X.ed25519.keyFromBytes bytes) (.manifest (E.keyError bytes))
  return bytes

def loadPinnedVerifyingKey : Except AttestError Bytes := verifyingKeyFromHex X E pinnedPublicKeyHex

def verifyManifestSignature (bytes : Bytes) (sigHex : Str) (key : Bytes) : Except AttestError Unit := do
  let sigBytes ← mapErr (fun e => .manifest (format ["sig hex: ", e]))
    (X.hex.decode ((trim sigHex).filter fun c => c ≠ '\n' ∧ c ≠ ' ' ∧ c ≠ '\r'))
  failIf (sigBytes.length ≠ 64) (.manifest "signature must be 64 bytes")
  failIf (¬ X.ed25519.verify key bytes sigBytes) (.manifest "Ed25519 signature invalid")

def validatePolicyHash : Option Str → Except Str Unit
  | none => .error "policy_hash required by manifest policy"
  | some value =>
    failIf ((utf8 value).length ≠ 64 ∨ ¬ value.all fun c => isAsciiDigit c || ('a' ≤ c && c ≤ 'f'))
      "policy_hash must be 64 lowercase hexadecimal characters"

/-- `parse_and_validate_manifest`; the hint of a key id has no effect. -/
def parseAndValidateManifest (bytes : Bytes) : Except AttestError OpenApiEdgeManifest := do
  let m ← mapErr (fun e => .manifest (format ["json: ", e])) (X.fromSlice OpenApiEdgeManifest.read bytes)
  failIf (m.schema ≠ ("teechat-openapi-edge-manifest/v1" : Str)) (.manifest (format ["unsupported schema ", m.schema]))
  let notAfter ← parseRfc3339Secs m.notAfter
  failIf (notAfter < E.nowUnix) (.manifest (format ["manifest expired at ", m.notAfter]))
  failIf (¬ m.policy.requireRuntimePolicyPin) (.manifest "policy.require_runtime_policy_pin must be true")
  m.regions.forM fun region => region.active.forM fun rel =>
    mapErr (fun e => .manifest (format ["active release ", rel.buildVersion, " in region ", region.region, ": ", e]))
      (validatePolicyHash rel.policyHash)
  return m

lemma parseAndValidateManifest_eq_ok {bytes : Bytes} {m : OpenApiEdgeManifest}
    (h : parseAndValidateManifest X E bytes = .ok m) : Unexpired E.nowUnix m.notAfter := by
  simp only [parseAndValidateManifest, bind_eq_ok, mapErr_eq_ok, failIf_eq_ok, pure_eq_ok] at h
  obtain ⟨m', -, -, -, secs, hsecs, -, hnow, -, -, -, -, rfl⟩ := h
  exact ⟨secs, hsecs, not_lt.mp hnow⟩

def verifySignedManifestBytes (bytes : Bytes) (sigHex : Str) : Except AttestError VerifiedManifest := do
  let pinned ← loadPinnedVerifyingKey X E
  verifyManifestSignature X bytes sigHex pinned
  let manifest ← parseAndValidateManifest X E bytes
  failIf (manifest.keyId ≠ pinnedKeyId)
    (.manifest (format ["unexpected key_id ", manifest.keyId, " (pinned ", pinnedKeyId, ")"]))
  return ⟨manifest, manifest.keyId⟩

lemma verifySignedManifestBytes_eq_ok {bytes : Bytes} {sigHex : Str} {v : VerifiedManifest}
    (h : verifySignedManifestBytes X E bytes sigHex = .ok v) : Unexpired E.nowUnix v.manifest.notAfter := by
  simp only [verifySignedManifestBytes, bind_eq_ok, failIf_eq_ok, pure_eq_ok] at h
  obtain ⟨-, -, -, -, m, hparse, -, -, rfl⟩ := h
  exact parseAndValidateManifest_eq_ok X E hparse

/-- The address of a detached signature. -/
def sigUrlOf (replace : Str → Str → Str → Str) (url : Str) : Str :=
  if ("manifest.json" : Str) <:+ url then replace url "manifest.json" "manifest.sig" else url ++ ".sig".toList

def fetchSignedManifest (manifestUrl : Str) : Run VerifiedManifest := do
  let bytes ← httpGetBytes E manifestUrl
  let raw ← httpGetBytes E (sigUrlOf replaceFirst manifestUrl)
  let sig ← Op.lift (mapErr (fun e => .manifest (format ["sig utf8: ", e])) (stringFromUtf8 raw))
  Op.lift (verifySignedManifestBytes X E bytes sig)

def loadSignedManifestFiles (manifestPath sigPath : Str) : Run VerifiedManifest := do
  let bytes ← fsRead E manifestPath
  let sig ← fsReadToString E sigPath
  Op.lift (verifySignedManifestBytes X E bytes sig)

end Load

/-- What a challenge says of a build. -/
structure EdgeBuild where
  buildVersion : Str
  codeHash : Str
  measurement : Measurement
  quoteFormat : QuoteFormat
  policyHash : Option Str

def measurementEq : Measurement → Measurement → Bool
  | .mrenclave va, .mrenclave vb => eqIgnoreAsciiCase va vb
  | .launchDigest la ia, .launchDigest lb ib => eqIgnoreAsciiCase la lb && eqIgnoreAsciiCase ia ib
  | _, _ => false

/-- A row is about a build: the tests of `find_matching_releases` up to its retirement. -/
def EdgeRelease.isAbout (rel : EdgeRelease) (b : EdgeBuild) : Bool :=
  rel.buildVersion = b.buildVersion && eqIgnoreAsciiCase rel.codeHash b.codeHash &&
    measurementEq rel.measurement b.measurement && b.quoteFormat.asStr ∈ rel.quoteFormats &&
    match rel.policyHash, b.policyHash with
    | some want, some got => eqIgnoreAsciiCase want got
    | _, _ => false

/-- The body of the loop of `find_matching_releases`: whether a row is pushed. -/
def keepRelease (now graceDays : Nat) (b : EdgeBuild) (rel : EdgeRelease) : Except AttestError Bool :=
  if ¬ rel.isAbout b then .ok false
  else
    match rel.retiredAt with
    | none => .ok true
    | some retiredAt => do
      let retired ← parseRfc3339Secs retiredAt
      return withinGrace now graceDays retired

lemma keepRelease_isAbout {now graceDays : Nat} {b : EdgeBuild} {rel : EdgeRelease}
    (h : keepRelease now graceDays b rel = .ok true) : rel.isAbout b = true := by
  unfold keepRelease at h
  split at h
  · cases Except.ok.inj h
  · next hnot => exact not_not.mp hnot

lemma keepRelease_undated {now graceDays : Nat} {b : EdgeBuild} {rel : EdgeRelease} (habout : rel.isAbout b = true)
    (hat : rel.retiredAt = none) : keepRelease now graceDays b rel = .ok true := by
  simp [keepRelease, habout, hat]

/-- The first region that serves a hostname. -/
def OpenApiEdgeManifest.regionOf (manifest : OpenApiEdgeManifest) (hostname : Str) : Option ManifestRegion :=
  manifest.regions.find? fun r => r.hostnames.any (eqIgnoreAsciiCase · (toAsciiLowercase hostname))

/-- The rows of a region, active ones first. -/
def ManifestRegion.rows (region : ManifestRegion) : List (Listed EdgeRelease) := listed region.active region.retired

def findMatchingReleases (now : Nat) (manifest : OpenApiEdgeManifest) (hostname : Str) (b : EdgeBuild) :
    Except AttestError (List (Listed EdgeRelease)) := do
  let region ← okOr (manifest.regionOf hostname) (.policy (format ["hostname ", hostname, " not in manifest"]))
  let out ← filterE (fun rel => keepRelease now manifest.retiredGracePeriodDays b rel.row) region.rows
  failIf (out = []) (.policy "edge measurement/build/code_hash/policy_hash not on allowlist for this hostname")
  return out

lemma findMatchingReleases_eq_ok {now : Nat} {manifest : OpenApiEdgeManifest} {hostname : Str} {b : EdgeBuild}
    {rows : List (Listed EdgeRelease)} (h : findMatchingReleases now manifest hostname b = .ok rows) :
    ∃ region, manifest.regionOf hostname = some region ∧ rows ≠ [] ∧
      filterE (fun rel => keepRelease now manifest.retiredGracePeriodDays b rel.row) region.rows = .ok rows := by
  simp only [findMatchingReleases, bind_eq_ok, okOr_eq_ok, failIf_eq_ok, pure_eq_ok] at h
  obtain ⟨region, hregion, out, hout, -, hne, rfl⟩ := h
  exact ⟨region, hregion, hne, hout⟩

end TeechatOpenapi.Attest
