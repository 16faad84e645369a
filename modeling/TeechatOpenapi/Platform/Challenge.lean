import Mathlib.Data.Set.Function
import TeechatOpenapi.CrateTables
import TeechatOpenapi.Lib.Layout

/-!
# Edge attestation challenge (`openapi-platform/src/challenge.rs`)

A client sends a nonce; the edge answers with its identity and a quote whose REPORT_DATA hashes the nonce and the
identity in canonical form.

SHA-256 is taken to be injective on the inputs at hand (`Set.InjOn`).
-/

namespace TeechatOpenapi.Platform

open Lib

/-- What a TEE measures: an enclave, or a guest's launch and image. -/
inductive Measurement where
  | mrenclave (value : Str)
  | launchDigest (launchDigest imageDigest : Str)
  deriving DecidableEq

/-- The derived `Serialize` of `Measurement`, tagged by `kind`. -/
def measurementTree : Measurement → Json
  | .mrenclave value => .object [("kind", .string "mrenclave"), ("value", .string value)]
  | .launchDigest launchDigest imageDigest => .object [("kind", .string "launch_digest"),
      ("launch_digest", .string launchDigest), ("image_digest", .string imageDigest)]

/-- What an edge says of itself. -/
structure EdgeIdentity where
  buildVersion : Str
  codeHash : Str
  measurement : Measurement
  tlsCertSpkiSha256 : Str
  policyHash : Option Str
  deriving DecidableEq

/-- The errors of the platform layer. -/
inductive PlatformError where
  | attestation (text : Str)
  | seal (text : Str)
  | io (text : Str)
  deriving DecidableEq

def PlatformError.display : PlatformError → Str
  | .attestation text => "attestation failed: ".toList ++ text
  | .seal text => "seal failed: ".toList ++ text
  | .io text => "io: ".toList ++ text

/-- The formats of a quote. -/
inductive QuoteFormat where
  | sgxDcapEcdsa
  | sgxReport
  | snpReport
  deriving DecidableEq

def QuoteFormat.asStr : QuoteFormat → Str
  | .sgxDcapEcdsa => "sgx_dcap_ecdsa"
  | .sgxReport => "sgx_report"
  | .snpReport => "snp_report"

/-- The edge's answer to a challenge. -/
structure AttestationChallengeResponse where
  schemaVersion : Nat
  reportDataVersion : Nat
  edge : EdgeIdentity
  challengeNonceB64 : Str
  quoteFormat : QuoteFormat
  quoteB64 : Str
  deriving DecidableEq

/-- Why no report data can be built. -/
inductive ChallengeBindError where
  | badNonceLen (len : Nat)
  | badHex (field detail : Str)
  | badHexLen (field : Str)
  deriving DecidableEq

def ChallengeBindError.display : ChallengeBindError → Str
  | .badNonceLen len => "nonce must be exactly 32 bytes, got ".toList ++ decimal len
  | .badHex field detail => "invalid hex field ".toList ++ field ++ ": ".toList ++ detail
  | .badHexLen field => "hex field ".toList ++ field ++ " must decode to 32 bytes".toList

/-- `From<ChallengeBindError> for PlatformError`. -/
def ChallengeBindError.toPlatformError (e : ChallengeBindError) : PlatformError := .attestation e.display

namespace Challenge

def challengeMagic : Str := "teechat-openapi-challenge-v1"

def sgxReportDataOffset : Nat := 320

def sgxDcapQuote3HeaderLen : Nat := 48

def sgxDcapReportDataOffset : Nat := sgxDcapQuote3HeaderLen + sgxReportDataOffset

def snpReportDataOffset : Nat := 0x50

def reportDataLen : Nat := 64

/-! ## The report data of a challenge -/

section Build

variable (X : Crates)

def canonicalizeDigestField (value : Str) : Str :=
  let trimmed := trim value
  if (utf8 trimmed).length = 64 ∧ trimmed.all isAsciiHexdigit then toAsciiLowercase trimmed
  else X.hex.encode (X.sha2.sha256 (utf8 trimmed))

/-- The measurement in canonical form. -/
def canonicalizeMeasurement : Measurement → Measurement
  | .mrenclave value => .mrenclave (canonicalizeDigestField X value)
  | .launchDigest launchDigest imageDigest =>
    .launchDigest (canonicalizeDigestField X launchDigest) (canonicalizeDigestField X imageDigest)

def canonicalizeEdgeIdentity (edge : EdgeIdentity) : Except ChallengeBindError EdgeIdentity := do
  failIf (trim edge.tlsCertSpkiSha256 = []) (.badHex "tls_cert_spki_sha256" "empty")
  return {
    buildVersion := edge.buildVersion
    codeHash := canonicalizeDigestField X edge.codeHash
    measurement := canonicalizeMeasurement X edge.measurement
    tlsCertSpkiSha256 := canonicalizeDigestField X edge.tlsCertSpkiSha256
    policyHash := edge.policyHash.map (canonicalizeDigestField X) }

def decodeHex32 (hexStr field : Str) : Except ChallengeBindError (Octets 32) :=
  match X.hex.decode (trim hexStr) with
  | .error e => .error (.badHex field e)
  | .ok bytes => if h : bytes.length = 32 then .ok ⟨bytes, h⟩ else .error (.badHexLen field)

/-- What `append_measurement_body` appends: a tag and the digests. -/
def measurementBody : Measurement → Except ChallengeBindError Bytes
  | .mrenclave value => do
    return 0x01 :: (← decodeHex32 X value "measurement.value").val
  | .launchDigest launchDigest imageDigest => do
    let l ← decodeHex32 X launchDigest "measurement.launch_digest"
    let i ← decodeHex32 X imageDigest "measurement.image_digest"
    return 0x02 :: (l.val ++ i.val)

def buildPreimageV1 (nonce : Bytes) (edge : EdgeIdentity) : Except ChallengeBindError Bytes := do
  failIf (nonce.length ≠ 32) (.badNonceLen nonce.length)
  let spki ← decodeHex32 X edge.tlsCertSpkiSha256 "tls_cert_spki_sha256"
  let codeHash ← decodeHex32 X edge.codeHash "code_hash"
  let body ← measurementBody X edge.measurement
  return utf8 challengeMagic ++ nonce ++ spki.val ++ X.sha2.sha256 (utf8 edge.buildVersion) ++ codeHash.val ++ body

/-- The preimage that `build_report_data_v1` hashes: that of the canonical identity. -/
def canonicalPreimage (nonce : Bytes) (edge : EdgeIdentity) : Except ChallengeBindError Bytes := do
  buildPreimageV1 X nonce (← canonicalizeEdgeIdentity X edge)

/-- `build_report_data_v1`: the hash of the preimage and 32 zeros. -/
def buildReportDataV1 (nonce : Bytes) (edge : EdgeIdentity) : Except ChallengeBindError Bytes := do
  return X.sha2.sha256 (← canonicalPreimage X nonce edge) ++ List.replicate 32 0

def reportDataMatchesV1 (nonce : Bytes) (edge : EdgeIdentity) (actual : Bytes) : Except ChallengeBindError Bool := do
  let expected ← buildReportDataV1 X nonce edge
  return actual.length = reportDataLen ∧ expected = actual

def newResponse (edge : EdgeIdentity) (nonce : Bytes) (quoteFormat : QuoteFormat) (quoteBytes : Bytes) :
    Except ChallengeBindError AttestationChallengeResponse := do
  failIf (nonce.length ≠ 32) (.badNonceLen nonce.length)
  let edge ← canonicalizeEdgeIdentity X edge
  return {
    schemaVersion := 1
    reportDataVersion := 1
    edge
    challengeNonceB64 := X.base64.encodeUrlSafeNoPad nonce
    quoteFormat
    quoteB64 := X.base64.encodeStandard quoteBytes }

/-! ## Reading a quote -/

def decodeQuote (quoteB64 : Str) : Except PlatformError Bytes :=
  mapErr (fun e => .attestation ("quote_b64 decode: ".toList ++ e)) (X.base64.standard (trim quoteB64))

/-- The report data at an offset of the octets of a quote. -/
def reportdataAt (offset : Nat) (short : Str) (raw : Bytes) : Except PlatformError Bytes :=
  okOr (slice raw offset reportDataLen)
    (.attestation (short ++ ": ".toList ++ decimal raw.length ++ " bytes".toList))

def sgxReportReportdata (quoteB64 : Str) : Except PlatformError Bytes := do
  let raw ← decodeQuote X quoteB64
  reportdataAt sgxReportDataOffset "SGX REPORT too short" raw

/-- `u16::from_le_bytes` of the first two octets. -/
def dcapVersion : Bytes → Option Nat
  | a :: b :: _ => some (a.toNat + 256 * b.toNat)
  | _ => none

def sgxDcapQuoteReportdata (quoteB64 : Str) : Except PlatformError Bytes := do
  let raw ← decodeQuote X quoteB64
  let version ← okOr (dcapVersion raw) (.attestation "DCAP quote too short")
  failIf (version ≠ 3)
    (.attestation ("unsupported DCAP quote version ".toList ++ decimal version ++ " (want 3)".toList))
  reportdataAt sgxDcapReportDataOffset "DCAP quote too short for report_data" raw

def snpReportReportdata (quoteB64 : Str) : Except PlatformError Bytes := do
  let raw ← decodeQuote X quoteB64
  reportdataAt snpReportDataOffset "SNP report too short" raw

/-- The report data of a quote of a format. -/
def quoteReportdata : QuoteFormat → Str → Except PlatformError Bytes
  | .sgxReport => sgxReportReportdata X
  | .sgxDcapEcdsa => sgxDcapQuoteReportdata X
  | .snpReport => snpReportReportdata X

def verifyChallengeReportData (nonce : Bytes) (response : AttestationChallengeResponse) :
    Except PlatformError Unit := do
  failIf (response.schemaVersion ≠ 1)
    (.attestation ("unsupported schema_version ".toList ++ decimal response.schemaVersion))
  failIf (response.reportDataVersion ≠ 1)
    (.attestation ("unsupported report_data_version ".toList ++ decimal response.reportDataVersion))
  let echoed ← mapErr (fun e => .attestation ("challenge_nonce_b64: ".toList ++ e))
    (X.base64.urlSafeNoPad response.challengeNonceB64)
  failIf (echoed ≠ nonce) (.attestation "challenge_nonce_b64 does not match client nonce")
  let actual ← quoteReportdata X response.quoteFormat response.quoteB64
  let matched ← mapErr ChallengeBindError.toPlatformError (reportDataMatchesV1 X nonce response.edge actual)
  failIf (¬ matched) (.attestation "report_data does not match recomputed binding")

end Build

/-! ## Canonical digests -/

/-- A digest in canonical form: 64 lowercase hexadecimal digits. -/
def Canonical (s : Str) : Prop := s.length = 64 ∧ ∀ c ∈ s, isAsciiHexdigit c = true ∧ lowerChar c = c

namespace Canonical

variable {s : Str}

lemma trim_eq (h : Canonical s) : trim s = s :=
  Encoding.trim_eq_self fun c hc => (Encoding.isAsciiHexdigit_spec (h.2 c hc).1).1

lemma lower_eq (h : Canonical s) : toAsciiLowercase s = s :=
  (List.map_congr_left fun c hc => (h.2 c hc).2).trans (List.map_id' s)

lemma ne_nil (h : Canonical s) : s ≠ [] := by
  rintro rfl
  exact absurd h.1 (by decide)

lemma utf8_length (h : Canonical s) : (utf8 s).length = 64 := by
  rw [utf8_length_of_ascii fun c hc => Encoding.isAsciiHexdigit_lt (h.2 c hc).1, h.1]

end Canonical

section Canonicalize

variable {X : Crates}

lemma canonical_canonicalizeDigestField (hh : X.hex.Lawful) (value : Str) :
    Canonical (canonicalizeDigestField X value) := by
  unfold canonicalizeDigestField
  dsimp only
  split
  · next h =>
    have hall : ∀ c ∈ trim value, isAsciiHexdigit c = true := List.all_eq_true.mp h.2
    have hlen : (trim value).length = 64 := by
      rw [← utf8_length_of_ascii fun c hc => Encoding.isAsciiHexdigit_lt (hall c hc)]
      exact h.1
    refine ⟨by rw [toAsciiLowercase, List.length_map, hlen], ?_⟩
    intro c hc
    obtain ⟨d, hd, rfl⟩ := List.mem_map.mp hc
    exact ⟨(Encoding.isAsciiHexdigit_spec (hall d hd)).2.1, lowerChar_lowerChar d⟩
  · refine ⟨by rw [hh.length_encode, X.sha2.sha256_length], ?_⟩
    intro c hc
    obtain ⟨hdigit, hlower, -⟩ := hh.digit_encode _ c hc
    exact ⟨hdigit, hlower⟩

lemma canonicalizeDigestField_of_canonical {s : Str} (h : Canonical s) : canonicalizeDigestField X s = s := by
  have hall : s.all isAsciiHexdigit = true := List.all_eq_true.mpr fun c hc => (h.2 c hc).1
  rw [canonicalizeDigestField, h.trim_eq, if_pos ⟨h.utf8_length, hall⟩, h.lower_eq]

lemma canonicalizeDigestField_idem (hh : X.hex.Lawful) (value : Str) :
    canonicalizeDigestField X (canonicalizeDigestField X value) = canonicalizeDigestField X value :=
  canonicalizeDigestField_of_canonical (canonical_canonicalizeDigestField hh value)

lemma canonicalizeMeasurement_idem (hh : X.hex.Lawful) (m : Measurement) :
    canonicalizeMeasurement X (canonicalizeMeasurement X m) = canonicalizeMeasurement X m := by
  cases m with
  | mrenclave value => simp only [canonicalizeMeasurement, canonicalizeDigestField_idem hh]
  | launchDigest l i => simp only [canonicalizeMeasurement, canonicalizeDigestField_idem hh]

variable {edge c : EdgeIdentity}

/-- **Canonicalizing twice is canonicalizing once.** -/
theorem canonicalizeEdgeIdentity_idem (hh : X.hex.Lawful)
    (h : canonicalizeEdgeIdentity X edge = .ok c) : canonicalizeEdgeIdentity X c = .ok c := by
  obtain ⟨_, -, hc⟩ := bind_eq_ok.mp h
  obtain rfl := pure_eq_ok.mp hc
  have hspki := canonical_canonicalizeDigestField hh edge.tlsCertSpkiSha256
  refine bind_eq_ok.mpr ⟨(), failIf_eq_ok.mpr ?_, ?_⟩
  · rw [hspki.trim_eq]
    exact hspki.ne_nil
  · have hpolicy : (edge.policyHash.map (canonicalizeDigestField X)).map (canonicalizeDigestField X) =
        edge.policyHash.map (canonicalizeDigestField X) := by
      rcases edge.policyHash with _ | p
      · rfl
      · exact congrArg some (canonicalizeDigestField_idem hh p)
    rw [hpolicy, canonicalizeDigestField_idem hh, canonicalizeMeasurement_idem hh, canonicalizeDigestField_idem hh]
    rfl

/-- The digests that go into a preimage are canonical. -/
structure CanonicalEdge (c : EdgeIdentity) : Prop where
  spki : Canonical c.tlsCertSpkiSha256
  codeHash : Canonical c.codeHash
  measurement : match c.measurement with
    | .mrenclave value => Canonical value
    | .launchDigest launchDigest imageDigest => Canonical launchDigest ∧ Canonical imageDigest

lemma canonicalEdge_of_canonicalize (hh : X.hex.Lawful)
    (h : canonicalizeEdgeIdentity X edge = .ok c) : CanonicalEdge c := by
  obtain ⟨_, -, hc⟩ := bind_eq_ok.mp h
  obtain rfl := pure_eq_ok.mp hc
  refine ⟨canonical_canonicalizeDigestField hh _, canonical_canonicalizeDigestField hh _, ?_⟩
  rcases edge.measurement with value | ⟨l, i⟩
  · exact canonical_canonicalizeDigestField hh value
  · exact ⟨canonical_canonicalizeDigestField hh l, canonical_canonicalizeDigestField hh i⟩

/-! ## The preimage -/

lemma decodeHex32_eq_ok {s field : Str} {d : Octets 32} :
    decodeHex32 X s field = .ok d ↔ X.hex.decode (trim s) = .ok d.val := by
  unfold decodeHex32
  rcases X.hex.decode (trim s) with e | bytes
  · simp
  · dsimp only
    split
    · next h =>
      rw [Except.ok.injEq, Except.ok.injEq]
      exact Subtype.ext_iff
    · next h =>
      constructor
      · rintro ⟨⟩
      · intro heq
        exact absurd ((congrArg List.length (Except.ok.inj heq)).trans d.2) h

lemma decodeHex32_of_canonical (hh : X.hex.Lawful) (hr : X.hex.DecodesDigits) {s : Str} (h : Canonical s)
    (field : Str) : ∃ d, decodeHex32 X s field = .ok d := by
  obtain ⟨x, hx⟩ := hr.decode_digits s (by rw [h.1]) fun c hc => (h.2 c hc).1
  have hlen : x.length = 32 := by
    have henc := congrArg List.length (hr.encode_decoded s x hx)
    rw [hh.length_encode, toAsciiLowercase, List.length_map, h.1] at henc
    omega
  exact ⟨⟨x, hlen⟩, decodeHex32_eq_ok.mpr (by rw [h.trim_eq, hx])⟩

lemma canonical_eq_of_decode (hr : X.hex.DecodesDigits) {s t : Str} (hs : Canonical s) (ht : Canonical t) {x : Bytes}
    (hsx : X.hex.decode (trim s) = .ok x) (htx : X.hex.decode (trim t) = .ok x) : s = t := by
  rw [hs.trim_eq] at hsx
  rw [ht.trim_eq] at htx
  rw [← hs.lower_eq, ← ht.lower_eq, ← hr.encode_decoded s x hsx, ← hr.encode_decoded t x htx]

/-- **The layout of a preimage**: five fields of fixed length, and the tagged measurement. -/
theorem buildPreimageV1_eq_ok {nonce p : Bytes} :
    buildPreimageV1 X nonce edge = .ok p ↔
      nonce.length = 32 ∧ ∃ spki codeHash : Octets 32, ∃ body,
        X.hex.decode (trim edge.tlsCertSpkiSha256) = .ok spki.val ∧
        X.hex.decode (trim edge.codeHash) = .ok codeHash.val ∧ measurementBody X edge.measurement = .ok body ∧
        p = [utf8 challengeMagic, nonce, spki.val, X.sha2.sha256 (utf8 edge.buildVersion), codeHash.val].flatten ++
          body := by
  simp only [buildPreimageV1, bind_eq_ok, failIf_eq_ok, pure_eq_ok, exists_const, not_not, decodeHex32_eq_ok,
    List.flatten_cons, List.flatten_nil, List.append_nil, List.append_assoc]
  constructor
  · rintro ⟨hn, spki, hs, codeHash, hc, body, hb, rfl⟩
    exact ⟨hn, spki, codeHash, body, hs, hc, hb, rfl⟩
  · rintro ⟨hn, spki, codeHash, body, hs, hc, hb, rfl⟩
    exact ⟨hn, spki, hs, codeHash, hc, body, hb, rfl⟩

lemma measurementBody_eq_ok {m : Measurement} {body : Bytes} :
    measurementBody X m = .ok body ↔
      (∃ value, ∃ d : Octets 32, m = .mrenclave value ∧ X.hex.decode (trim value) = .ok d.val ∧ body = 0x01 :: d.val) ∨
      (∃ launch image, ∃ l i : Octets 32, m = .launchDigest launch image ∧
        X.hex.decode (trim launch) = .ok l.val ∧ X.hex.decode (trim image) = .ok i.val ∧
        body = 0x02 :: (l.val ++ i.val)) := by
  cases m with
  | mrenclave value =>
    simp only [measurementBody, bind_eq_ok, pure_eq_ok, decodeHex32_eq_ok]
    constructor
    · rintro ⟨d, hd, rfl⟩
      exact Or.inl ⟨value, d, rfl, hd, rfl⟩
    · rintro (⟨_, d, hm, hd, rfl⟩ | ⟨_, _, _, _, hm, -⟩)
      · obtain rfl := Measurement.mrenclave.inj hm
        exact ⟨d, hd, rfl⟩
      · cases hm
  | launchDigest launch image =>
    simp only [measurementBody, bind_eq_ok, pure_eq_ok, decodeHex32_eq_ok]
    constructor
    · rintro ⟨l, hl, i, hi, rfl⟩
      exact Or.inr ⟨launch, image, l, i, rfl, hl, hi, rfl⟩
    · rintro (⟨_, _, hm, -⟩ | ⟨_, _, l, i, hm, hl, hi, rfl⟩)
      · cases hm
      · obtain ⟨rfl, rfl⟩ := Measurement.launchDigest.inj hm
        exact ⟨l, hl, i, hi, rfl⟩

lemma measurement_eq_of_body (hr : X.hex.DecodesDigits) {c' : EdgeIdentity} (hc : CanonicalEdge c)
    (hc' : CanonicalEdge c') {body : Bytes} (h : measurementBody X c.measurement = .ok body)
    (h' : measurementBody X c'.measurement = .ok body) : c.measurement = c'.measurement := by
  have hcan := hc.measurement
  have hcan' := hc'.measurement
  obtain ⟨v, d, hm, hd, rfl⟩ | ⟨l, i, dl, di, hm, hl, hi, rfl⟩ := measurementBody_eq_ok.mp h
  · obtain ⟨v', d', hm', hd', hbody⟩ | ⟨_, _, _, _, -, -, -, hbody⟩ := measurementBody_eq_ok.mp h'
    · rw [hm] at hcan ⊢
      rw [hm'] at hcan' ⊢
      rw [← (List.cons.inj hbody).2] at hd'
      rw [canonical_eq_of_decode hr hcan hcan' hd hd']
    · cases (List.cons.inj hbody).1
  · obtain ⟨_, _, -, -, hbody⟩ | ⟨l', i', dl', di', hm', hl', hi', hbody⟩ := measurementBody_eq_ok.mp h'
    · cases (List.cons.inj hbody).1
    · rw [hm] at hcan ⊢
      rw [hm'] at hcan' ⊢
      obtain ⟨hlaunch, himage⟩ := List.append_inj (List.cons.inj hbody).2 (by rw [dl.2, dl'.2])
      rw [← hlaunch] at hl'
      rw [← himage] at hi'
      rw [canonical_eq_of_decode hr hcan.1 hcan'.1 hl hl', canonical_eq_of_decode hr hcan.2 hcan'.2 hi hi']

/-- What two canonical identities with one preimage share. -/
structure SameBinding (c c' : EdgeIdentity) : Prop where
  spki : c.tlsCertSpkiSha256 = c'.tlsCertSpkiSha256
  buildVersion : c.buildVersion = c'.buildVersion
  codeHash : c.codeHash = c'.codeHash
  measurement : c.measurement = c'.measurement

lemma sameBinding_of_preimage (hr : X.hex.DecodesDigits) {nonce nonce' p : Bytes} {c' : EdgeIdentity}
    (hc : CanonicalEdge c) (hc' : CanonicalEdge c')
    (hversion : X.sha2.sha256 (utf8 c.buildVersion) = X.sha2.sha256 (utf8 c'.buildVersion) →
      c.buildVersion = c'.buildVersion)
    (h : buildPreimageV1 X nonce c = .ok p) (h' : buildPreimageV1 X nonce' c' = .ok p) :
    nonce = nonce' ∧ SameBinding c c' := by
  obtain ⟨hn, spki, code, body, hspki, hcode, hbody, rfl⟩ := buildPreimageV1_eq_ok.mp h
  obtain ⟨hn', spki', code', body', hspki', hcode', hbody', hp⟩ := buildPreimageV1_eq_ok.mp h'
  have hlens : [utf8 challengeMagic, nonce, spki.val, X.sha2.sha256 (utf8 c.buildVersion), code.val].map List.length =
      [utf8 challengeMagic, nonce', spki'.val, X.sha2.sha256 (utf8 c'.buildVersion), code'.val].map List.length := by
    simp only [List.map_cons, List.map_nil, hn, hn', spki.2, spki'.2, code.2, code'.2, X.sha2.sha256_length]
  have hflat := congrArg List.sum hlens
  rw [← List.length_flatten, ← List.length_flatten] at hflat
  obtain ⟨hfixed, rfl⟩ := List.append_inj hp hflat
  have hfields := flatten_injective hlens hfixed
  simp only [List.cons.injEq, and_true, true_and] at hfields
  obtain ⟨hnonce, hs, hv, hcd⟩ := hfields
  rw [← hs] at hspki'
  rw [← hcd] at hcode'
  exact ⟨hnonce, canonical_eq_of_decode hr hc.spki hc'.spki hspki hspki', hversion hv,
    canonical_eq_of_decode hr hc.codeHash hc'.codeHash hcode hcode', measurement_eq_of_body hr hc hc' hbody hbody'⟩

lemma measurementBody_of_canonical (hh : X.hex.Lawful) (hr : X.hex.DecodesDigits) (hc : CanonicalEdge c) :
    ∃ body, measurementBody X c.measurement = .ok body := by
  have hcan := hc.measurement
  rcases hm : c.measurement with value | ⟨l, i⟩
  · rw [hm] at hcan
    obtain ⟨d, hd⟩ := decodeHex32_of_canonical hh hr hcan "measurement.value"
    exact ⟨_, bind_eq_ok.mpr ⟨d, hd, rfl⟩⟩
  · rw [hm] at hcan
    obtain ⟨dl, hl⟩ := decodeHex32_of_canonical hh hr hcan.1 "measurement.launch_digest"
    obtain ⟨di, hi⟩ := decodeHex32_of_canonical hh hr hcan.2 "measurement.image_digest"
    exact ⟨_, bind_eq_ok.mpr ⟨dl, hl, bind_eq_ok.mpr ⟨di, hi, rfl⟩⟩⟩

lemma buildPreimageV1_of_canonical (hh : X.hex.Lawful) (hr : X.hex.DecodesDigits) (nonce : Octets 32)
    (hc : CanonicalEdge c) : ∃ p, buildPreimageV1 X nonce.val c = .ok p := by
  obtain ⟨spki, hspki⟩ := decodeHex32_of_canonical hh hr hc.spki []
  obtain ⟨code, hcode⟩ := decodeHex32_of_canonical hh hr hc.codeHash []
  obtain ⟨body, hbody⟩ := measurementBody_of_canonical hh hr hc
  exact ⟨_, buildPreimageV1_eq_ok.mpr ⟨nonce.2, spki, code, body, decodeHex32_eq_ok.mp hspki,
    decodeHex32_eq_ok.mp hcode, hbody, rfl⟩⟩

lemma canonicalPreimage_eq_ok {nonce p : Bytes} :
    canonicalPreimage X nonce edge = .ok p ↔
      ∃ c, canonicalizeEdgeIdentity X edge = .ok c ∧ buildPreimageV1 X nonce c = .ok p := bind_eq_ok

lemma buildReportDataV1_eq_ok {nonce b : Bytes} :
    buildReportDataV1 X nonce edge = .ok b ↔
      ∃ p, canonicalPreimage X nonce edge = .ok p ∧ b = X.sha2.sha256 p ++ List.replicate 32 0 := by
  simp only [buildReportDataV1, bind_eq_ok, pure_eq_ok]
  exact exists_congr fun p => and_congr_right fun _ => eq_comm

lemma length_buildReportDataV1 {nonce b : Bytes} (h : buildReportDataV1 X nonce edge = .ok b) :
    b.length = reportDataLen := by
  obtain ⟨p, -, rfl⟩ := buildReportDataV1_eq_ok.mp h
  rw [List.length_append, X.sha2.sha256_length, List.length_replicate]
  rfl

end Canonicalize

/-! ## Quotes -/

/-- Where a format keeps its report data. -/
def offset : QuoteFormat → Nat
  | .sgxReport => sgxReportDataOffset
  | .sgxDcapEcdsa => sgxDcapReportDataOffset
  | .snpReport => snpReportDataOffset

/-- The octets of a quote carry report data: at the offset of the format, and a DCAP quote has version 3. -/
def CarriesReportData (format : QuoteFormat) (raw reportData : Bytes) : Prop :=
  slice raw (offset format) reportDataLen = some reportData ∧ (format = .sgxDcapEcdsa → dcapVersion raw = some 3)

section Accepted

variable {X : Crates}

lemma decodeQuote_eq_ok {quoteB64 : Str} {raw : Bytes} :
    decodeQuote X quoteB64 = .ok raw ↔ X.base64.standard (trim quoteB64) = .ok raw := mapErr_eq_ok

lemma quoteReportdata_eq_ok {format : QuoteFormat} {quoteB64 : Str} {b : Bytes} :
    quoteReportdata X format quoteB64 = .ok b ↔
      ∃ raw, X.base64.standard (trim quoteB64) = .ok raw ∧ CarriesReportData format raw b := by
  cases format with
  | sgxReport =>
    simp only [quoteReportdata, sgxReportReportdata, bind_eq_ok, decodeQuote_eq_ok, reportdataAt, okOr_eq_ok,
      CarriesReportData, offset, reduceCtorEq, false_implies, and_true]
  | snpReport =>
    simp only [quoteReportdata, snpReportReportdata, bind_eq_ok, decodeQuote_eq_ok, reportdataAt, okOr_eq_ok,
      CarriesReportData, offset, reduceCtorEq, false_implies, and_true]
  | sgxDcapEcdsa =>
    simp only [quoteReportdata, sgxDcapQuoteReportdata, bind_eq_ok, decodeQuote_eq_ok, reportdataAt, okOr_eq_ok,
      CarriesReportData, offset, failIf_eq_ok, exists_const, not_not, true_implies]
    constructor
    · rintro ⟨raw, hraw, version, hversion, rfl, hslice⟩
      exact ⟨raw, hraw, hslice, hversion⟩
    · rintro ⟨raw, hraw, hslice, hversion⟩
      exact ⟨raw, hraw, 3, hversion, rfl, hslice⟩

/-- **What an accepted response is.** -/
theorem verifyChallengeReportData_eq_ok {nonce : Bytes} {r : AttestationChallengeResponse} :
    verifyChallengeReportData X nonce r = .ok () ↔
      r.schemaVersion = 1 ∧ r.reportDataVersion = 1 ∧ X.base64.urlSafeNoPad r.challengeNonceB64 = .ok nonce ∧
      ∃ raw b, X.base64.standard (trim r.quoteB64) = .ok raw ∧ CarriesReportData r.quoteFormat raw b ∧
        buildReportDataV1 X nonce r.edge = .ok b := by
  simp only [verifyChallengeReportData, reportDataMatchesV1, bind_eq_ok, failIf_eq_ok, mapErr_eq_ok, pure_eq_ok,
    exists_const, not_not, quoteReportdata_eq_ok]
  constructor
  · rintro ⟨hs, hv, echoed, hecho, rfl, actual, ⟨raw, hraw, hcarries⟩, matched, ⟨expected, hexp, rfl⟩, hmatch⟩
    obtain ⟨-, rfl⟩ := of_decide_eq_true hmatch
    exact ⟨hs, hv, hecho, raw, expected, hraw, hcarries, hexp⟩
  · rintro ⟨hs, hv, hecho, raw, b, hraw, hcarries, hexp⟩
    exact ⟨hs, hv, nonce, hecho, rfl, b, ⟨raw, hraw, hcarries⟩, _, ⟨b, hexp, rfl⟩,
      decide_eq_true ⟨length_buildReportDataV1 hexp, rfl⟩⟩

lemma newResponse_accepted (hb : X.base64.Lawful) (hh : X.hex.Lawful) {edge : EdgeIdentity} {nonce : Octets 32}
    {format : QuoteFormat} {quote b : Bytes} (hbuild : buildReportDataV1 X nonce.val edge = .ok b)
    (hquote : CarriesReportData format quote b) :
    ∃ r, newResponse X edge nonce.val format quote = .ok r ∧ verifyChallengeReportData X nonce.val r = .ok () := by
  obtain ⟨p, hp, rfl⟩ := buildReportDataV1_eq_ok.mp hbuild
  obtain ⟨c, hc, hpre⟩ := canonicalPreimage_eq_ok.mp hp
  -- the published identity is canonical already, so the verifier rebuilds the same preimage
  have hagain : buildReportDataV1 X nonce.val c = .ok (X.sha2.sha256 p ++ List.replicate 32 0) :=
    buildReportDataV1_eq_ok.mpr ⟨p, canonicalPreimage_eq_ok.mpr ⟨c, canonicalizeEdgeIdentity_idem hh hc, hpre⟩, rfl⟩
  refine ⟨_, bind_eq_ok.mpr ⟨(), failIf_eq_ok.mpr (not_not.mpr nonce.2), bind_eq_ok.mpr ⟨c, hc, rfl⟩⟩, ?_⟩
  refine verifyChallengeReportData_eq_ok.mpr ⟨rfl, rfl, hb.urlSafeNoPad_encode _, quote, _, ?_, hquote, hagain⟩
  rw [hb.trim_encodeStandard, hb.standard_encode]

lemma buildReportDataV1_exists (hh : X.hex.Lawful) (hr : X.hex.DecodesDigits) {edge : EdgeIdentity} (nonce : Octets 32)
    (hspki : trim edge.tlsCertSpkiSha256 ≠ []) : ∃ b, buildReportDataV1 X nonce.val edge = .ok b := by
  have hc : canonicalizeEdgeIdentity X edge = .ok _ := bind_eq_ok.mpr ⟨(), failIf_eq_ok.mpr hspki, rfl⟩
  obtain ⟨p, hp⟩ := buildPreimageV1_of_canonical hh hr nonce (canonicalEdge_of_canonicalize hh hc)
  exact ⟨_, buildReportDataV1_eq_ok.mpr ⟨p, canonicalPreimage_eq_ok.mpr ⟨_, hc, hp⟩, rfl⟩⟩

end Accepted

/-! ## Completeness and soundness -/

/-- The inputs of SHA-256 whose images stand in a report data: the preimage and the build version. -/
def hashed (X : Crates) (nonce : Bytes) (edge : EdgeIdentity) : Set Bytes :=
  {m | m = utf8 edge.buildVersion ∨ canonicalPreimage X nonce edge = .ok m}

lemma canonicalize_buildVersion {X : Crates} {edge c : EdgeIdentity}
    (h : canonicalizeEdgeIdentity X edge = .ok c) : c.buildVersion = edge.buildVersion := by
  obtain ⟨_, -, hc⟩ := bind_eq_ok.mp h
  obtain rfl := pure_eq_ok.mp hc
  rfl

lemma sameBinding_of_reportData {X : Crates} (hh : X.hex.Lawful) (hr : X.hex.DecodesDigits) {nonce nonce' b : Bytes}
    {edge edge' : EdgeIdentity} (hinj : Set.InjOn X.sha2.sha256 (hashed X nonce edge ∪ hashed X nonce' edge'))
    (h : buildReportDataV1 X nonce edge = .ok b) (h' : buildReportDataV1 X nonce' edge' = .ok b) :
    nonce = nonce' ∧ ∃ c c', canonicalizeEdgeIdentity X edge = .ok c ∧ canonicalizeEdgeIdentity X edge' = .ok c' ∧
      SameBinding c c' := by
  obtain ⟨p, hp, rfl⟩ := buildReportDataV1_eq_ok.mp h
  obtain ⟨p', hp', hb⟩ := buildReportDataV1_eq_ok.mp h'
  have hhash : X.sha2.sha256 p = X.sha2.sha256 p' :=
    (List.append_inj hb (by rw [X.sha2.sha256_length, X.sha2.sha256_length])).1
  obtain rfl : p = p' := hinj (Or.inl (Or.inr hp)) (Or.inr (Or.inr hp')) hhash
  obtain ⟨c, hc, hpre⟩ := canonicalPreimage_eq_ok.mp hp
  obtain ⟨c', hc', hpre'⟩ := canonicalPreimage_eq_ok.mp hp'
  have hversion : X.sha2.sha256 (utf8 c.buildVersion) = X.sha2.sha256 (utf8 c'.buildVersion) →
      c.buildVersion = c'.buildVersion := by
    rw [canonicalize_buildVersion hc, canonicalize_buildVersion hc']
    intro heq
    exact utf8_injective (hinj (Or.inl (Or.inl rfl)) (Or.inr (Or.inl rfl)) heq)
  obtain ⟨hnonce, hsame⟩ := sameBinding_of_preimage hr (canonicalEdge_of_canonicalize hh hc)
    (canonicalEdge_of_canonicalize hh hc') hversion hpre hpre'
  exact ⟨hnonce, c, c', hc, hc', hsame⟩

/-- **The challenge is complete and sound.**  An identity with a SPKI has report data for every nonce, and a quote of
any format that carries it makes a response that is accepted.  A response that is accepted under a nonce and carries
report data built for another nonce and identity was built for this nonce and, in canonical form, this identity. -/
theorem challenge_complete_and_sound (X : Crates) (hb : X.base64.Lawful) (hh : X.hex.Lawful)
    (hr : X.hex.DecodesDigits) :
    (∀ (edge : EdgeIdentity) (nonce : Octets 32), trim edge.tlsCertSpkiSha256 ≠ [] →
      ∃ b, buildReportDataV1 X nonce.val edge = .ok b ∧ ∀ (format : QuoteFormat) (quote : Bytes),
        CarriesReportData format quote b → ∃ r, newResponse X edge nonce.val format quote = .ok r ∧
          verifyChallengeReportData X nonce.val r = .ok ()) ∧
    (∀ (nonce nonce' raw b : Bytes) (r : AttestationChallengeResponse) (edge' : EdgeIdentity),
      Set.InjOn X.sha2.sha256 (hashed X nonce r.edge ∪ hashed X nonce' edge') →
      verifyChallengeReportData X nonce r = .ok () → X.base64.standard (trim r.quoteB64) = .ok raw →
      buildReportDataV1 X nonce' edge' = .ok b → CarriesReportData r.quoteFormat raw b →
      nonce = nonce' ∧ ∃ c c', canonicalizeEdgeIdentity X r.edge = .ok c ∧
        canonicalizeEdgeIdentity X edge' = .ok c' ∧ SameBinding c c') := by
  constructor
  · intro edge nonce hspki
    obtain ⟨b, hbuild⟩ := buildReportDataV1_exists hh hr nonce hspki
    exact ⟨b, hbuild, fun format quote hquote => newResponse_accepted hb hh hbuild hquote⟩
  · intro nonce nonce' raw b r edge' hinj hok hraw hbuild hcarries
    obtain ⟨-, -, -, raw', b', hraw', hcarries', hexp⟩ := verifyChallengeReportData_eq_ok.mp hok
    obtain rfl : raw = raw' := Except.ok.inj (hraw.symm.trans hraw')
    obtain rfl : b = b' := Option.some.inj (hcarries.1.symm.trans hcarries'.1)
    exact sameBinding_of_reportData hh hr hinj hexp hbuild

namespace Sample

def versionHash : Bytes :=
  [116, 184, 96, 179, 39, 6, 102, 19, 122, 77, 84, 60, 62, 61, 30, 78, 71, 61, 84, 99, 111, 117, 147, 209, 193, 123,
   246, 147, 230, 84, 11, 190]

def preimageHash : Bytes :=
  [196, 121, 154, 13, 25, 54, 239, 105, 123, 110, 19, 71, 114, 238, 1, 227, 44, 51, 196, 22, 224, 248, 222, 79, 119,
   243, 157, 128, 123, 67, 168, 161]

def nonce : Octets 32 := ⟨List.replicate 32 7, List.length_replicate⟩

def edge : EdgeIdentity where
  buildVersion := "1.4.0"
  codeHash := Encoding.hexEncode (List.replicate 32 0xcd)
  measurement := .launchDigest (Encoding.hexEncode (List.replicate 32 0x5a))
    (Encoding.hexEncode (List.replicate 32 0x5b))
  tlsCertSpkiSha256 := (List.replicate 32 ['A', 'B']).flatten
  policyHash := none

def canonicalEdge : EdgeIdentity := { edge with tlsCertSpkiSha256 := Encoding.hexEncode (List.replicate 32 0xab) }

def preimage : Bytes :=
  utf8 challengeMagic ++ nonce.val ++ List.replicate 32 0xab ++ versionHash ++ List.replicate 32 0xcd ++
    0x02 :: (List.replicate 32 0x5a ++ List.replicate 32 0x5b)

def tables : CrateTables where
  sha256 := [(utf8 "1.4.0", versionHash), (preimage, preimageHash)]

def reportData : Bytes := preimageHash ++ List.replicate 32 0

def quote : Bytes := List.replicate 0x50 0 ++ (reportData ++ [])

lemma canonicalize_edge : canonicalizeEdgeIdentity tables.crates edge = .ok canonicalEdge := by decide

lemma decode_hexEncode (x : Bytes) :
    tables.crates.hex.decode (trim (Encoding.hexEncode x)) = .ok x := by
  rw [Encoding.trim_eq_self fun c hc => (Encoding.mem_hexEncode hc).2.2]
  exact Hex.lowercase_lawful.decode_encode x

lemma preimage_edge : canonicalPreimage tables.crates nonce.val edge = .ok preimage := by
  have hbody : measurementBody tables.crates canonicalEdge.measurement =
      .ok (0x02 :: (List.replicate 32 0x5a ++ List.replicate 32 0x5b)) :=
    measurementBody_eq_ok.mpr (Or.inr ⟨_, _, ⟨_, List.length_replicate⟩, ⟨_, List.length_replicate⟩, rfl,
      decode_hexEncode _, decode_hexEncode _, rfl⟩)
  have hversion : tables.crates.sha2.sha256 (utf8 canonicalEdge.buildVersion) = versionHash :=
    CrateTables.sha256_of_lookup List.lookup_cons_self (by decide)
  refine canonicalPreimage_eq_ok.mpr ⟨canonicalEdge, canonicalize_edge, ?_⟩
  refine buildPreimageV1_eq_ok.mpr ⟨nonce.2, ⟨_, List.length_replicate⟩, ⟨_, List.length_replicate⟩, _,
    decode_hexEncode _, decode_hexEncode _, hbody, ?_⟩
  rw [hversion, preimage]
  simp only [List.flatten_cons, List.flatten_nil, List.append_nil, List.append_assoc]

lemma sha256_preimage : tables.crates.sha2.sha256 preimage = preimageHash :=
  CrateTables.sha256_of_lookup (by rw [tables, List.lookup_cons]; decide) (by decide)

lemma reportData_edge : buildReportDataV1 tables.crates nonce.val edge = .ok reportData :=
  buildReportDataV1_eq_ok.mpr ⟨preimage, preimage_edge, by rw [sha256_preimage]; rfl⟩

lemma carries_quote : CarriesReportData .snpReport quote reportData := by
  refine ⟨slice_append List.length_replicate (by decide), ?_⟩
  rintro ⟨⟩

lemma injOn_hashed : Set.InjOn tables.crates.sha2.sha256
    (hashed tables.crates nonce.val canonicalEdge ∪ hashed tables.crates nonce.val edge) := by
  have hcanon : canonicalPreimage tables.crates nonce.val canonicalEdge = .ok preimage := by
    obtain ⟨c, hc, hp⟩ := canonicalPreimage_eq_ok.mp preimage_edge
    obtain rfl : canonicalEdge = c := Except.ok.inj (canonicalize_edge.symm.trans hc)
    exact canonicalPreimage_eq_ok.mpr ⟨_, canonicalizeEdgeIdentity_idem Hex.lowercase_lawful hc, hp⟩
  have hversion : tables.crates.sha2.sha256 (utf8 "1.4.0") = versionHash :=
    CrateTables.sha256_of_lookup List.lookup_cons_self (by decide)
  have hmem : ∀ m ∈ hashed tables.crates nonce.val canonicalEdge ∪ hashed tables.crates nonce.val edge,
      m = utf8 "1.4.0" ∨ m = preimage := by
    rintro m ((rfl | hm) | (rfl | hm))
    · exact Or.inl rfl
    · exact Or.inr (Except.ok.inj (hm.symm.trans hcanon))
    · exact Or.inl rfl
    · exact Or.inr (Except.ok.inj (hm.symm.trans preimage_edge))
  intro m hm m' hm' heq
  rcases hmem m hm with rfl | rfl <;> rcases hmem m' hm' with rfl | rfl
  · rfl
  · rw [hversion, sha256_preimage] at heq
    exact absurd heq (by decide)
  · rw [hversion, sha256_preimage] at heq
    exact absurd heq (by decide)
  · rfl

def response : AttestationChallengeResponse where
  schemaVersion := 1
  reportDataVersion := 1
  edge := canonicalEdge
  challengeNonceB64 := Encoding.encodeRaw true nonce.val
  quoteFormat := .snpReport
  quoteB64 := Encoding.encodePadded false quote

end Sample

open Sample in
theorem challenge_complete_and_sound_sample :
    newResponse tables.crates edge nonce.val .snpReport quote = .ok response ∧
    verifyChallengeReportData tables.crates nonce.val response = .ok () ∧
    ∃ c c', canonicalizeEdgeIdentity tables.crates response.edge = .ok c ∧
      canonicalizeEdgeIdentity tables.crates edge = .ok c' ∧ SameBinding c c' := by
  obtain ⟨hcomplete, hsound⟩ := challenge_complete_and_sound tables.crates Base64.rfc4648_lawful
    Hex.lowercase_lawful Hex.lowercase_reads
  obtain ⟨b, hb, hquotes⟩ := hcomplete edge nonce (by decide)
  obtain rfl : reportData = b := Except.ok.inj (reportData_edge.symm.trans hb)
  obtain ⟨r, hr, hok⟩ := hquotes .snpReport quote carries_quote
  have hnew : newResponse tables.crates edge nonce.val .snpReport quote = .ok response :=
    bind_eq_ok.mpr ⟨(), failIf_eq_ok.mpr (not_not.mpr nonce.2), bind_eq_ok.mpr ⟨_, canonicalize_edge, rfl⟩⟩
  obtain rfl : response = r := Except.ok.inj (hnew.symm.trans hr)
  have hraw : tables.crates.base64.standard (trim response.quoteB64) = .ok quote := by
    change Base64.rfc4648.standard (trim (Encoding.encodePadded false quote)) = .ok quote
    rw [Encoding.trim_encodePadded]
    exact Base64.rfc4648_lawful.standard_encode quote
  exact ⟨hnew, hok, (hsound nonce.val nonce.val quote reportData response edge injOn_hashed hok hraw reportData_edge
    carries_quote).2⟩

end Challenge

end TeechatOpenapi.Platform
