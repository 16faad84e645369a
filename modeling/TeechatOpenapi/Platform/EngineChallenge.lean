import TeechatOpenapi.Platform.EngineRecipient

/-!
# Engine attestation challenge (`openapi-platform/src/engine_challenge.rs`)

The edge sends a fresh nonce; the engine answers with a document and a quote whose REPORT_DATA hashes the nonce and
the fields of the document.
-/

namespace TeechatOpenapi.Platform

open Lib Encoding

/-- Why an engine's answer is refused. -/
inductive EngineChallengeError where
  | invalid (label : Str)
  | nonceEchoMismatch
  | reportDataMismatch
  | schemaUnsupported
  | decode (text : Str)
  deriving DecidableEq

def EngineChallengeError.display : EngineChallengeError → Str
  | .invalid label => label
  | .nonceEchoMismatch => "nonce_echo_mismatch"
  | .reportDataMismatch => "report_data_mismatch"
  | .schemaUnsupported => "schema_unsupported"
  | .decode text => "decode: ".toList ++ text

/-- The measurement of an engine, as the preimage has it. -/
inductive EngineChallengeMeasurement where
  | launchDigest (launchDigest imageDigest : Str)
  | mrenclave (mrenclave : Str)

/-- What the report data of an engine challenge is computed from. -/
structure EngineChallengeReportDataInput where
  nonce : Bytes
  engineId : Str
  epochId : Str
  notBefore : Str
  notAfter : Str
  usageSigningPublicRaw : Bytes
  mlkemEncapKeyRaw : Bytes
  x25519PublicRaw : Bytes
  gpuEvidenceSha256 : Bytes
  policyHash : Bytes
  measurement : EngineChallengeMeasurement

/-- The measurement, as an answer has it. -/
structure EngineChallengeWireMeasurement where
  kind : Str
  launchDigest : Option Str
  imageDigest : Option Str
  mrenclave : Option Str

/-- The engine, as an answer has it. -/
structure EngineChallengeWireEngine where
  engineId : Str
  policyHash : Str
  measurement : EngineChallengeWireMeasurement

/-- The epoch and its keys, as an answer has them. -/
structure EngineChallengeWireEpoch where
  epochId : Str
  notBefore : Str
  notAfter : Str
  mlkemEncapsulationKey : Str
  x25519Public : Str
  usageSigningPublic : Str

/-- `EngineChallengeWireCpu`; the endorsement is the text of its only field, `vcek_der_b64`. -/
structure EngineChallengeWireCpu where
  quoteB64 : Str
  endorsement : Option Str

/-- `EngineChallengeWireResponse`; the GPU evidence is the text of its only field, `evidence_sha256`. -/
structure EngineChallengeWireResponse where
  schemaVersion : Nat
  reportDataVersion : Nat
  engine : EngineChallengeWireEngine
  epoch : EngineChallengeWireEpoch
  challengeNonceB64 : Str
  cpu : EngineChallengeWireCpu
  gpu : Option Str

section Challenge

variable (X : Crates)

def decodeHex32 (raw label : Str) : Except EngineChallengeError (Octets 32) :=
  let cleaned := toAsciiLowercase (trim raw)
  if cleaned.length ≠ 64 ∨ ¬ cleaned.all isAsciiHexdigit then .error (.invalid label)
  else
    match X.hex.decode cleaned with
    | .error _ => .error (.invalid label)
    | .ok bytes => if h : bytes.length = 32 then .ok ⟨bytes, h⟩ else .error (.invalid label)

def measurementBody : EngineChallengeMeasurement → Except EngineChallengeError Bytes
  | .mrenclave mrenclave => do
    return 0x01 :: (← decodeHex32 X mrenclave "invalid_mrenclave").val
  | .launchDigest launchDigest imageDigest => do
    let launch ← decodeHex32 X launchDigest "invalid_launch_digest"
    let image ← decodeHex32 X imageDigest "invalid_image_digest"
    return 0x02 :: (launch.val ++ image.val)

def buildEngineChallengePreimage (input : EngineChallengeReportDataInput) : Except EngineChallengeError Bytes := do
  failIf (input.nonce.length ≠ 32) (.invalid "nonce_must_be_32_bytes")
  failIf (input.gpuEvidenceSha256.length ≠ 32) (.invalid "gpu_hash_must_be_32_bytes")
  failIf (input.policyHash.length ≠ 32) (.invalid "policy_hash_must_be_32_bytes")
  let window := utf8 input.notBefore ++ 0 :: utf8 input.notAfter
  let measurement ← measurementBody X input.measurement
  let sha256 := X.sha2.sha256
  return utf8 "teechat-engine-challenge-v1" ++ input.nonce ++ sha256 (utf8 input.engineId) ++
    sha256 (utf8 input.epochId) ++ sha256 window ++ sha256 input.usageSigningPublicRaw ++
    sha256 input.mlkemEncapKeyRaw ++ sha256 input.x25519PublicRaw ++ input.gpuEvidenceSha256 ++ input.policyHash ++
    measurement

/-- `build_engine_challenge_report_data`: the hash of the preimage and 32 zeros. -/
def buildEngineChallengeReportData (input : EngineChallengeReportDataInput) : Except EngineChallengeError Bytes := do
  return X.sha2.sha256 (← buildEngineChallengePreimage X input) ++ List.replicate 32 0

def encodeNonceB64Url (nonce : Bytes) : Str := X.base64.encodeUrlSafeNoPad nonce

def decodeNonceB64Url (raw : Str) : Except EngineChallengeError (Octets 32) :=
  match X.base64.urlSafeNoPad (trim raw) with
  | .error _ => .error (.invalid "invalid_nonce_b64")
  | .ok b => if h : b.length = 32 then .ok ⟨b, h⟩ else .error (.invalid "nonce_must_be_32_bytes")

def decodeB64 (raw : Str) : Except EngineChallengeError Bytes :=
  match X.base64.urlSafeNoPad (trim raw) with
  | .ok b => .ok b
  | .error _ => mapErr .decode (X.base64.standard (trim raw))

def EngineChallengeWireCpu.vcekDer (cpu : EngineChallengeWireCpu) : Except EngineChallengeError (Option Bytes) :=
  match cpu.endorsement with
  | some vcekDerB64 => do return some (← decodeB64 X vcekDerB64)
  | none => .ok none

def measurementFromWire (m : EngineChallengeWireMeasurement) :
    Except EngineChallengeError EngineChallengeMeasurement :=
  if m.kind = ("mrenclave" : Str) then do
    return .mrenclave (← okOr m.mrenclave (.invalid "invalid_measurement"))
  else do
    let ld ← okOr m.launchDigest (.invalid "invalid_measurement")
    let id ← okOr m.imageDigest (.invalid "invalid_measurement")
    return .launchDigest ld id

/-- The GPU evidence hash of a response, 32 zeros when it has none. -/
def gpuHashFromWire : Option Str → Except EngineChallengeError (Octets 32)
  | some evidenceSha256 => decodeHex32 X evidenceSha256 "invalid_gpu_hash"
  | none => .ok ⟨List.replicate 32 0, List.length_replicate⟩

lemma decodeB64_encode (hb : X.base64.Lawful) (x : Bytes) :
    decodeB64 X (X.base64.encodeUrlSafeNoPad x) = .ok x := by
  rw [decodeB64, hb.trim_encodeUrlSafeNoPad, hb.urlSafeNoPad_encode]

lemma decodeNonceB64Url_encode (hb : X.base64.Lawful) (nonce : Octets 32) :
    decodeNonceB64Url X (X.base64.encodeUrlSafeNoPad nonce.val) = .ok nonce := by
  rw [decodeNonceB64Url, hb.trim_encodeUrlSafeNoPad, hb.urlSafeNoPad_encode]
  exact dif_pos nonce.2

lemma decodeHex32_encode (hh : X.hex.Lawful) (x : Octets 32) (label : Str) :
    decodeHex32 X (X.hex.encode x.val) label = .ok x := by
  have htrim : trim (X.hex.encode x.val) = X.hex.encode x.val :=
    trim_eq_self fun c hc => (hh.digit_encode _ c hc).2.2
  have hlower := hh.toAsciiLowercase_encode x.val
  have hlen : (X.hex.encode x.val).length = 64 := by rw [hh.length_encode, x.2]
  have hall : (X.hex.encode x.val).all isAsciiHexdigit = true :=
    List.all_eq_true.mpr fun c hc => (hh.digit_encode _ c hc).1
  simp only [decodeHex32, htrim, hlower, hlen, hall, ne_eq, not_true_eq_false, or_self, if_false, hh.decode_encode]
  exact dif_pos x.2

/-- The report data that a response must carry for a nonce: `build_engine_challenge_report_data` of the fields of the
response. -/
def expectedReportData (nonce : Octets 32) (doc : EngineChallengeWireResponse) :
    Except EngineChallengeError Bytes := do
  let usage ← decodeB64 X doc.epoch.usageSigningPublic
  let mlkem ← decodeB64 X doc.epoch.mlkemEncapsulationKey
  let x25519 ← decodeB64 X doc.epoch.x25519Public
  let policyHash ← decodeHex32 X doc.engine.policyHash "invalid_policy_hash"
  let gpuHash ← gpuHashFromWire X doc.gpu
  let measurement ← measurementFromWire doc.engine.measurement
  buildEngineChallengeReportData X {
    nonce := nonce.val
    engineId := doc.engine.engineId
    epochId := doc.epoch.epochId
    notBefore := doc.epoch.notBefore
    notAfter := doc.epoch.notAfter
    usageSigningPublicRaw := usage
    mlkemEncapKeyRaw := mlkem
    x25519PublicRaw := x25519
    gpuEvidenceSha256 := gpuHash.val
    policyHash := policyHash.val
    measurement }

def reportDataFromRawSnp (raw : Bytes) : Except EngineChallengeError Bytes :=
  okOr (slice raw 0x50 64) (.invalid "quote_missing_report_data")

/-- `extract_report_data_from_quote`: the wrapper's declared field, the wrapped report, or the quote as a report. -/
def extractReportDataFromQuote (quote : Bytes) : Except EngineChallengeError Bytes :=
  match X.json.value quote with
  | .error _ => reportDataFromRawSnp quote
  | .ok v =>
    match v.getStr? "report_data_b64" with
    | some b64 => do
      let bytes ← decodeB64 X b64
      failIf (bytes.length ≠ 64) (.invalid "report_data_len")
      return bytes
    | none =>
      match v.getStr? "report_b64" with
      | some rb64 => do reportDataFromRawSnp (← decodeB64 X rb64)
      | none => reportDataFromRawSnp quote

def verifyEngineChallengeResponse (expectedNonce : Octets 32) (doc : EngineChallengeWireResponse) :
    Except EngineChallengeError Unit := do
  failIf (doc.schemaVersion ≠ 1 ∨ doc.reportDataVersion ≠ 1) .schemaUnsupported
  let echoed ← decodeNonceB64Url X doc.challengeNonceB64
  failIf (echoed ≠ expectedNonce) .nonceEchoMismatch
  let expected ← expectedReportData X expectedNonce doc
  let quote ← decodeB64 X doc.cpu.quoteB64
  let actual ← extractReportDataFromQuote X quote
  failIf (actual ≠ expected) .reportDataMismatch

/-- `require_engine_challenge_from_env`: on unless switched off. -/
def requireEngineChallengeFromEnv (host : Host) : Bool :=
  match host.env "OPENAPI_OPE_REQUIRE_ENGINE_CHALLENGE" with
  | some v => toAsciiLowercase (trim v) ∉ [("0" : Str), "false", "no", "off"]
  | none => true

lemma length_buildEngineChallengeReportData {input : EngineChallengeReportDataInput} {b : Bytes}
    (h : buildEngineChallengeReportData X input = .ok b) : b.length = 64 := by
  simp only [buildEngineChallengeReportData, bind_eq_ok, pure_eq_ok] at h
  obtain ⟨pre, -, rfl⟩ := h
  rw [List.length_append, X.sha2.sha256_length, List.length_replicate]

variable {doc : EngineChallengeWireResponse} {nonce : Octets 32}

lemma length_expectedReportData {b : Bytes}
    (h : expectedReportData X nonce doc = .ok b) : b.length = 64 := by
  simp only [expectedReportData, bind_eq_ok] at h
  obtain ⟨_, -, _, -, _, -, _, -, _, -, _, -, h⟩ := h
  exact length_buildEngineChallengeReportData X h

/-- Lengths apart, only the measurement can keep report data from being built. -/
lemma buildEngineChallengeReportData_exists {input : EngineChallengeReportDataInput} {body : Bytes}
    (hn : input.nonce.length = 32) (hg : input.gpuEvidenceSha256.length = 32) (hp : input.policyHash.length = 32)
    (hbody : measurementBody X input.measurement = .ok body) :
    ∃ b, buildEngineChallengeReportData X input = .ok b := by
  simp only [buildEngineChallengeReportData, buildEngineChallengePreimage, hn, hg, hp, hbody, failIf, ne_eq,
    not_true_eq_false, if_false, ok_bind]
  exact ⟨_, rfl⟩

lemma expectedReportData_exists {policyHash gpuHash : Octets 32}
    {usage mlkem x25519 body : Bytes} {measurement : EngineChallengeMeasurement}
    (hu : decodeB64 X doc.epoch.usageSigningPublic = .ok usage)
    (hm : decodeB64 X doc.epoch.mlkemEncapsulationKey = .ok mlkem)
    (hx : decodeB64 X doc.epoch.x25519Public = .ok x25519)
    (hp : decodeHex32 X doc.engine.policyHash "invalid_policy_hash" = .ok policyHash)
    (hg : gpuHashFromWire X doc.gpu = .ok gpuHash)
    (hw : measurementFromWire doc.engine.measurement = .ok measurement)
    (hbody : measurementBody X measurement = .ok body) : ∃ b, expectedReportData X nonce doc = .ok b := by
  simp only [expectedReportData, hu, hm, hx, hp, hg, hw, ok_bind]
  exact buildEngineChallengeReportData_exists X nonce.2 gpuHash.2 policyHash.2 hbody

/-- The 64 octets found in a quote, by what the quote is: a wrapper that declares them, a wrapper around a report, or
a report. -/
lemma extractReportDataFromQuote_eq_ok {quote b : Bytes} (hb : b.length = 64) :
    extractReportDataFromQuote X quote = .ok b ↔
      (∀ v, X.json.value quote = .ok v →
        ∀ b64, v.getStr? "report_data_b64" = some b64 → decodeB64 X b64 = .ok b) ∧
      (∀ v, X.json.value quote = .ok v → v.getStr? "report_data_b64" = none →
        ∀ rb64, v.getStr? "report_b64" = some rb64 →
          ∃ report, decodeB64 X rb64 = .ok report ∧ slice report 0x50 64 = some b) ∧
      ((∀ v, X.json.value quote = .ok v → v.getStr? "report_data_b64" = none ∧ v.getStr? "report_b64" = none) →
        slice quote 0x50 64 = some b) := by
  unfold extractReportDataFromQuote
  rcases hv : X.json.value quote with e | v
  · simp only [reportDataFromRawSnp, okOr_eq_ok, reduceCtorEq, false_implies, implies_true, true_and, forall_const]
  · simp only [Except.ok.injEq, forall_eq', reportDataFromRawSnp]
    rcases hd : v.getStr? "report_data_b64" with _ | b64
    · rcases hr : v.getStr? "report_b64" with _ | rb64
      · simp only [okOr_eq_ok, reduceCtorEq, false_implies, implies_true, true_and, forall_const, and_self]
      · simp only [bind_eq_ok, okOr_eq_ok, reduceCtorEq, Option.some.injEq, forall_eq', false_implies, implies_true,
          true_and, forall_const, and_false, and_true]
    · simp only [bind_eq_ok, failIf_eq_ok, pure_eq_ok, exists_const, not_not, reduceCtorEq, Option.some.injEq,
        forall_eq', false_implies, false_and, and_true]
      constructor
      · rintro ⟨_, hdec, -, rfl⟩
        exact hdec
      · intro hdec
        exact ⟨b, hdec, hb, rfl⟩

lemma verifyEngineChallengeResponse_eq_ok :
    verifyEngineChallengeResponse X nonce doc = .ok () ↔
    (doc.schemaVersion = 1 ∧ doc.reportDataVersion = 1) ∧ decodeNonceB64Url X doc.challengeNonceB64 = .ok nonce ∧
      ∃ expected quote, expectedReportData X nonce doc = .ok expected ∧ decodeB64 X doc.cpu.quoteB64 = .ok quote ∧
        extractReportDataFromQuote X quote = .ok expected := by
  simp only [verifyEngineChallengeResponse, bind_eq_ok, failIf_eq_ok, exists_const, not_or, not_not]
  constructor
  · rintro ⟨hs, echoed, hn, rfl, expected, hexp, quote, hq, actual, hext, rfl⟩
    exact ⟨hs, hn, actual, quote, hexp, hq, hext⟩
  · rintro ⟨hs, hn, expected, quote, hexp, hq, hext⟩
    exact ⟨hs, nonce, hn, rfl, expected, hexp, quote, hq, expected, hext, rfl⟩

/-- **What a verified answer shows.**  The report data computed from the nonce and the fields of the answer is
the wrapper's `report_data_b64` when it declares one, and then no report is looked at; otherwise it stands at 0x50 in
the wrapped report, or in the quote itself. -/
theorem verifyEngineChallengeResponse_iff (expectedNonce : Octets 32) (doc : EngineChallengeWireResponse) :
    verifyEngineChallengeResponse X expectedNonce doc = .ok () ↔
    (doc.schemaVersion = 1 ∧ doc.reportDataVersion = 1) ∧
    decodeNonceB64Url X doc.challengeNonceB64 = .ok expectedNonce ∧
    ∃ expected quote, expectedReportData X expectedNonce doc = .ok expected ∧
      decodeB64 X doc.cpu.quoteB64 = .ok quote ∧
      (∀ v, X.json.value quote = .ok v →
        ∀ b64, v.getStr? "report_data_b64" = some b64 → decodeB64 X b64 = .ok expected) ∧
      (∀ v, X.json.value quote = .ok v → v.getStr? "report_data_b64" = none →
        ∀ rb64, v.getStr? "report_b64" = some rb64 →
          ∃ report, decodeB64 X rb64 = .ok report ∧ slice report 0x50 64 = some expected) ∧
      ((∀ v, X.json.value quote = .ok v → v.getStr? "report_data_b64" = none ∧ v.getStr? "report_b64" = none) →
        slice quote 0x50 64 = some expected) := by
  rw [verifyEngineChallengeResponse_eq_ok]
  constructor
  · rintro ⟨hs, hn, expected, quote, hexp, hq, hext⟩
    exact ⟨hs, hn, expected, quote, hexp, hq,
      (extractReportDataFromQuote_eq_ok X (length_expectedReportData X hexp)).mp hext⟩
  · rintro ⟨hs, hn, expected, quote, hexp, hq, hcmp⟩
    exact ⟨hs, hn, expected, quote, hexp, hq,
      (extractReportDataFromQuote_eq_ok X (length_expectedReportData X hexp)).mpr hcmp⟩

/-- An answer with a raw quote around the report data that it needs for a nonce. -/
def EngineChallengeWireResponse.withRawQuote (doc : EngineChallengeWireResponse) (reportData : Bytes) :
    EngineChallengeWireResponse :=
  { doc with cpu := { doc.cpu with quoteB64 := X.base64.encodeUrlSafeNoPad (List.replicate 0x50 0 ++ reportData) } }

/-- **Anyone can answer.**  Whoever writes the fields of an answer can write a quote with which it
verifies: the challenge checks no signature. -/
theorem verifyEngineChallengeResponse_withRawQuote (hb : X.base64.Lawful) (hj : X.json.RejectsNul)
    {reportData : Bytes}
    (hs : doc.schemaVersion = 1 ∧ doc.reportDataVersion = 1)
    (hn : decodeNonceB64Url X doc.challengeNonceB64 = .ok nonce)
    (hexp : expectedReportData X nonce doc = .ok reportData) :
    verifyEngineChallengeResponse X nonce (doc.withRawQuote X reportData) = .ok () := by
  have hlen := length_expectedReportData X hexp
  have hslice : slice (List.replicate 0x50 0 ++ reportData) 0x50 64 = some reportData := by
    refine slice_eq_some.mpr ⟨?_, ?_⟩
    · rw [List.length_append, List.length_replicate, hlen]
    · rw [List.drop_left' List.length_replicate, List.take_of_length_le (le_of_eq hlen)]
  refine (verifyEngineChallengeResponse_eq_ok X).mpr ⟨hs, hn, reportData, _, hexp, decodeB64_encode X hb _, ?_⟩
  obtain ⟨e, he⟩ := hj (List.replicate 0x4f 0 ++ reportData)
  change X.json.value (List.replicate 0x50 0 ++ reportData) = .error e at he
  rw [extractReportDataFromQuote, he]
  exact okOr_eq_ok.mpr hslice

end Challenge

namespace Sample

/-! SHA-256 values of the fields of an answer of engine `e2`, and of its preimage. -/

def engineIdHash : Bytes :=
  [172, 15, 9, 192, 248, 191, 94, 122, 75, 6, 61, 134, 50, 85, 241, 109, 140, 233, 171, 230, 0, 226, 136, 217, 52, 207,
   49, 59, 203, 255, 99, 235]

def epochIdHash : Bytes :=
  [57, 70, 202, 100, 255, 120, 217, 60, 166, 16, 144, 164, 55, 203, 182, 179, 210, 202, 13, 72, 143, 95, 156, 207, 48,
   89, 96, 131, 104, 178, 118, 147]

def windowHash : Bytes :=
  [139, 91, 168, 85, 105, 172, 210, 92, 190, 107, 240, 25, 96, 79, 90, 177, 242, 110, 152, 61, 123, 220, 10, 198, 60,
   15, 45, 211, 172, 192, 185, 160]

def usageHash : Bytes :=
  [125, 221, 17, 59, 136, 23, 47, 238, 191, 121, 224, 16, 12, 236, 252, 213, 171, 117, 11, 232, 185, 45, 162, 164, 72,
   111, 231, 137, 160, 86, 114, 154]

def mlkemHash : Bytes :=
  [44, 33, 16, 150, 68, 1, 237, 109, 231, 14, 98, 38, 45, 209, 6, 188, 70, 173, 126, 188, 247, 83, 88, 39, 5, 99, 248,
   66, 6, 187, 47, 41]

def x25519Hash : Bytes :=
  [156, 77, 107, 30, 162, 30, 172, 11, 241, 23, 93, 169, 45, 39, 5, 123, 140, 180, 164, 234, 209, 247, 237, 37, 47,
   117, 241, 36, 154, 253, 213, 217]

def preimageHash : Bytes :=
  [238, 127, 244, 176, 190, 111, 97, 255, 137, 143, 238, 251, 162, 16, 13, 100, 53, 102, 41, 154, 54, 159, 122, 63,
   150, 48, 168, 227, 69, 92, 82, 140]

def nonce : Octets 32 := ⟨List.replicate 32 1, List.length_replicate⟩

def preimage : Bytes :=
  utf8 "teechat-engine-challenge-v1" ++ nonce.val ++ engineIdHash ++ epochIdHash ++ windowHash ++ usageHash ++
    mlkemHash ++ x25519Hash ++ List.replicate 32 0 ++ List.replicate 32 0 ++
    0x02 :: (List.replicate 32 0xaa ++ List.replicate 32 0xbb)

def blankReport : Bytes := List.replicate 1184 0

def challengeTree : Json := .object [("v", .number (.posInt 2)), ("kind", .string "sev-snp"),
  ("report_b64", .string (encodePadded false blankReport)),
  ("report_data_b64", .string (encodePadded false (preimageHash ++ List.replicate 32 0)))]

def challengeBytes : Bytes := utf8 (renderText challengeTree)

def answer : EngineChallengeWireResponse where
  schemaVersion := 1
  reportDataVersion := 1
  engine :=
    { engineId := "e2"
      policyHash := List.replicate 64 '0'
      measurement := ⟨"launch_digest", some (List.replicate 64 'a'), some (List.replicate 64 'b'), none⟩ }
  epoch :=
    { epochId := "p2"
      notBefore := "2026-07-31T00:00:00Z"
      notAfter := "2026-08-30T00:00:00Z"
      mlkemEncapsulationKey := "bWxrZW0y"
      x25519Public := "eDI1NTE5Mg"
      usageSigningPublic := "dXNhZ2Uy" }
  challengeNonceB64 := encodeRaw true nonce.val
  cpu := ⟨encodeRaw true challengeBytes, none⟩
  gpu := none

def challengeTables : CrateTables where
  sha256 := [(utf8 "e2", engineIdHash), (utf8 "p2", epochIdHash),
    (utf8 "2026-07-31T00:00:00Z" ++ 0 :: utf8 "2026-08-30T00:00:00Z", windowHash), (utf8 "usage2", usageHash),
    (utf8 "mlkem2", mlkemHash), (utf8 "x255192", x25519Hash), (preimage, preimageHash)] ++ tables.sha256
  sha512 := tables.sha512
  trees := (challengeBytes, challengeTree) :: tables.trees

lemma decode_quote : decodeB64 challengeTables.crates answer.cpu.quoteB64 = .ok challengeBytes :=
  decodeB64_encode _ Base64.rfc4648_lawful challengeBytes

lemma value_quote : challengeTables.crates.json.value challengeBytes = .ok challengeTree :=
  CrateTables.value_of_lookup List.lookup_cons_self

lemma expected_answer :
    expectedReportData challengeTables.crates nonce answer = .ok (preimageHash ++ List.replicate 32 0) := by
  decide +kernel

lemma extract_quote :
    extractReportDataFromQuote challengeTables.crates challengeBytes = .ok (preimageHash ++ List.replicate 32 0) := by
  have hdec : decodeB64 challengeTables.crates (encodePadded false (preimageHash ++ List.replicate 32 0)) =
      .ok (preimageHash ++ List.replicate 32 0) := by decide
  refine (extractReportDataFromQuote_eq_ok _ (by decide)).mpr ⟨?_, ?_, ?_⟩
  · rintro v hv b64 hb64
    obtain rfl := Except.ok.inj (value_quote.symm.trans hv)
    obtain rfl := Option.some.inj hb64
    exact hdec
  · rintro v hv hnone
    obtain rfl := Except.ok.inj (value_quote.symm.trans hv)
    cases hnone
  · intro h
    cases (h _ value_quote).1

lemma verify_answer : verifyEngineChallengeResponse challengeTables.crates nonce answer = .ok () :=
  (verifyEngineChallengeResponse_eq_ok _).mpr
    ⟨⟨rfl, rfl⟩, by decide, _, _, expected_answer, decode_quote, extract_quote⟩

end Sample

/-- An answer verifies whose wrapped report has zeros at 0x50, which are not the report data of the challenge. -/
theorem verifyEngineChallengeResponse_declared_over_report :
    ∃ quote v rb64 report expected,
      verifyEngineChallengeResponse Sample.challengeTables.crates Sample.nonce Sample.answer = .ok () ∧
      decodeB64 Sample.challengeTables.crates Sample.answer.cpu.quoteB64 = .ok quote ∧
      Sample.challengeTables.crates.json.value quote = .ok v ∧ v.getStr? "report_b64" = some rb64 ∧
      decodeB64 Sample.challengeTables.crates rb64 = .ok report ∧
      expectedReportData Sample.challengeTables.crates Sample.nonce Sample.answer = .ok expected ∧
      slice report 0x50 64 ≠ some expected :=
  ⟨Sample.challengeBytes, Sample.challengeTree, encodePadded false Sample.blankReport, Sample.blankReport,
    Sample.preimageHash ++ List.replicate 32 0, Sample.verify_answer, Sample.decode_quote, Sample.value_quote, rfl,
    by decide +kernel, Sample.expected_answer, by decide +kernel⟩

end TeechatOpenapi.Platform
