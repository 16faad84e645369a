import TeechatOpenapi.Attest.Verify
import TeechatOpenapi.Platform.EngineRecipient

/-!
# What a verdict vouches for

The client reads REPORT_DATA out of the octets of the quote, while the vendor's signature is checked by code that also
looks through a JSON wrapper.  `verdict_sound` says that both look at the same report: REPORT_DATA ends in 32 zeros, a
JSON text has no NUL, so the octets are no wrapper.
-/

namespace TeechatOpenapi.Attest

open Lib Platform

/-- What the hardware measured: `MEASUREMENT` or `MRENCLAVE`. -/
inductive Measured where
  | snp (measurement : Bytes)
  | sgx (mrEnclave : Bytes)

/-- The measurement of an allowlist row is that of the hardware, composed for SNP. -/
def Measured.Is (X : Crates) : Measured → Measurement → Prop
  | .snp measurement, .launchDigest launchDigest _ =>
    eqIgnoreAsciiCase launchDigest (challengeCanonicalLaunchDigest X (X.hex.encode measurement)) = true
  | .sgx mrEnclave, .mrenclave value => eqIgnoreAsciiCase value (X.hex.encode mrEnclave) = true
  | _, _ => False

/-- A hardware report: octets whose vendor signature was verified, with the REPORT_DATA and the measurement they
carry. -/
structure HardwareReport (X : Crates) (D : Dcap) (now : Nat) where
  raw : Bytes
  reportData : Bytes
  measured : Measured
  verified : match measured with
    | .snp measurement => (∃ vcekDer rejectDebug report, verifyChain X raw vcekDer rejectDebug = .ok report) ∧
        slice raw 0x50 64 = some reportData ∧ slice raw 0x90 48 = some measurement
    | .sgx mrEnclave => (∃ collateral report r, D.verify raw collateral now = .ok report ∧
        report.report = .sgxEnclave r) ∧ slice raw 368 64 = some reportData ∧ slice raw 112 32 = some mrEnclave

/-- A row of the allowlist says what a response says of its build. -/
structure EdgeRelease.SaysOf (rel : EdgeRelease) (response : AttestationChallengeResponse) : Prop where
  buildVersion : rel.buildVersion = response.edge.buildVersion
  codeHash : eqIgnoreAsciiCase rel.codeHash response.edge.codeHash = true
  measurement : measurementEq rel.measurement response.edge.measurement = true
  quoteFormat : response.quoteFormat.asStr ∈ rel.quoteFormats
  policyHash : ∃ want got, rel.policyHash = some want ∧ response.edge.policyHash = some got ∧
    eqIgnoreAsciiCase want got = true

lemma EdgeRelease.saysOf_of_isAbout {rel : EdgeRelease} {response : AttestationChallengeResponse}
    (h : rel.isAbout (buildOf response) = true) : rel.SaysOf response := by
  simp only [EdgeRelease.isAbout, buildOf, Bool.and_eq_true] at h
  obtain ⟨⟨⟨⟨hversion, hcode⟩, hmeasurement⟩, hformat⟩, hpolicy⟩ := h
  refine ⟨of_decide_eq_true hversion, hcode, hmeasurement, of_decide_eq_true hformat, ?_⟩
  rcases hwant : rel.policyHash with _ | want
  · rw [hwant] at hpolicy
    cases hpolicy
  · rcases hgot : response.edge.policyHash with _ | got
    · rw [hwant, hgot] at hpolicy
      cases hpolicy
    · rw [hwant, hgot] at hpolicy
      exact ⟨want, got, rfl, rfl, hpolicy⟩

section Hardware

variable {X : Crates} {D : Dcap} {E : Outside} {response : AttestationChallengeResponse} {rejectDebug : Bool}
  {matched : Measurement} {out : Json} {raw reportData : Bytes}

lemma checkSnp_eq_ok (hb : X.base64.Lawful) (hsev : X.sev.ReadsFields)
    (hraw : X.base64.standard (trim response.quoteB64) = .ok raw) (hwrap : engineWrapper X raw = none)
    (hdata : slice raw 0x50 64 = some reportData) (h : checkSnp X E response rejectDebug matched = .ok out) :
    ∃ report : HardwareReport X D E.nowUnix, report.raw = raw ∧ report.reportData = reportData ∧
      report.measured.Is X matched := by
  obtain ⟨v, hv, h⟩ := bind_eq_ok.mp h
  obtain ⟨b64, raw', vcekDer, report, hb64, hraw', hchain, hlaunch, -⟩ := verifySnpReport_eq_ok hv
  rw [rawSnpReportB64_plain hraw hwrap] at hb64
  rw [← Except.ok.inj hb64, hb.trim_encodeStandard, hb.standard_encode] at hraw'
  obtain rfl := Except.ok.inj hraw'
  obtain ⟨-, hmeasurement⟩ := hsev _ _ (verifyChain_parsed hchain)
  refine ⟨⟨raw, reportData, .snp report.measurement, ⟨vcekDer, rejectDebug, report, hchain⟩, hdata, hmeasurement⟩, rfl,
    rfl, ?_⟩
  rcases matched with value | ⟨launchDigest, imageDigest⟩
  · cases h
  · obtain ⟨_, hsame, -⟩ := bind_eq_ok.mp h
    rw [failIf_eq_ok, not_not, hlaunch] at hsame
    exact hsame

lemma checkSgx_eq_ok (hdcap : D.ReadsFields) (hraw : X.base64.standard (trim response.quoteB64) = .ok raw)
    (hdata : slice raw 368 64 = some reportData) (h : checkSgx X D E response rejectDebug matched = .ok out) :
    ∃ report : HardwareReport X D E.nowUnix, report.raw = raw ∧ report.reportData = reportData ∧
      report.measured.Is X matched := by
  obtain ⟨v, hv, h⟩ := bind_eq_ok.mp h
  obtain ⟨quote, collateral, report, r, hquote, hverify, hr, hmr, -⟩ := verifySgxDcapQuote_eq_ok hv
  obtain rfl := Except.ok.inj (hraw.symm.trans hquote)
  obtain ⟨hmeasurement, -⟩ := hdcap _ _ _ _ _ hverify hr
  refine ⟨⟨raw, reportData, .sgx r.mrEnclave, ⟨collateral, report, r, hverify, hr⟩, hdata, hmeasurement⟩, rfl, rfl, ?_⟩
  rcases matched with value | ⟨launchDigest, imageDigest⟩
  · obtain ⟨_, hsame, -⟩ := bind_eq_ok.mp h
    rw [failIf_eq_ok, not_not, hmr] at hsame
    exact hsame
  · cases h

lemma checkHardware_eq_ok (hb : X.base64.Lawful) (hj : X.json.NoRawNul) (hsev : X.sev.ReadsFields)
    (hdcap : D.ReadsFields) (hraw : X.base64.standard (trim response.quoteB64) = .ok raw)
    (hcarries : Challenge.CarriesReportData response.quoteFormat raw reportData) (hnul : 0 ∈ reportData)
    (h : checkHardware X D E response rejectDebug matched = .ok out) :
    ∃ report : HardwareReport X D E.nowUnix, report.raw = raw ∧ report.reportData = reportData ∧
      report.measured.Is X matched := by
  unfold checkHardware at h
  have hdata := hcarries.1
  rcases hformat : response.quoteFormat with _ | _ | _
  · rw [hformat] at h hdata
    exact checkSgx_eq_ok hdcap hraw hdata h
  · rw [hformat] at h
    cases h
  · rw [hformat] at h hdata
    exact checkSnp_eq_ok hb hsev hraw (engineWrapper_of_nul hj (mem_of_slice hdata hnul)) hdata h

end Hardware

/-! ## The session -/

lemma canonicalizeDigestField_of_ignoreCase {X : Crates} (hh : X.hex.Lawful) {digest : Str} {d : Bytes}
    (hd : d.length = 32) (h : eqIgnoreAsciiCase digest (X.hex.encode d) = true) :
    Challenge.canonicalizeDigestField X digest = X.hex.encode d := by
  have hlower : toAsciiLowercase digest = X.hex.encode d := by
    rw [← hh.toAsciiLowercase_encode d]
    exact beq_iff_eq.mp h
  have hdigit : ∀ c ∈ digest, isAsciiHexdigit c = true := by
    intro c hc
    have hmem : lowerChar c ∈ X.hex.encode d := by
      rw [← hlower]
      exact List.mem_map_of_mem hc
    exact Encoding.isAsciiHexdigit_of_lowerChar (hh.digit_encode d _ hmem).1
  have htrim : trim digest = digest :=
    Encoding.trim_eq_self fun c hc => (Encoding.isAsciiHexdigit_spec (hdigit c hc)).1
  have hlen : (utf8 digest).length = 64 := by
    rw [utf8_length_of_ascii fun c hc => Encoding.isAsciiHexdigit_lt (hdigit c hc)]
    have := congrArg List.length hlower
    rw [toAsciiLowercase, List.length_map, hh.length_encode, hd] at this
    exact this
  rw [Challenge.canonicalizeDigestField, htrim, if_pos ⟨hlen, List.all_eq_true.mpr hdigit⟩, hlower]

lemma sessionBind_eq_ok {X : Crates} (hh : X.hex.Lawful) {digest mode : Str} {spkiDer certDer : Bytes}
    (h : sessionBind true false digest (identityFromCert X spkiDer certDer) = .ok mode) :
    ∃ der, (der = spkiDer ∨ der = certDer) ∧
      X.hex.decode (Challenge.canonicalizeDigestField X digest) = .ok (X.sha2.sha256 der) := by
  have hbound (der : Bytes) (hsame : eqIgnoreAsciiCase digest (X.hex.encode (X.sha2.sha256 der)) = true) :
      X.hex.decode (Challenge.canonicalizeDigestField X digest) = .ok (X.sha2.sha256 der) := by
    rw [canonicalizeDigestField_of_ignoreCase hh (X.sha2.sha256_length der) hsame, hh.decode_encode]
  by_cases hspki : eqIgnoreAsciiCase digest (X.hex.encode (X.sha2.sha256 spkiDer)) = true
  · exact ⟨spkiDer, Or.inl rfl, hbound spkiDer hspki⟩
  · by_cases hcert : eqIgnoreAsciiCase digest (X.hex.encode (X.sha2.sha256 certDer)) = true
    · exact ⟨certDer, Or.inr rfl, hbound certDer hcert⟩
    · simp [sessionBind, identityFromCert, hspki, hcert] at h

/-- **What a verdict vouches for.**  There is one hardware report, whose octets the vendor's verifier has passed: its
REPORT_DATA is that of the client's nonce and the response's identity, its measurement is that of a row of the allowlist
for the hostname that says what the response says, and the TLS digest that is bound is that of the peer. -/
theorem verdict_sound (X : Crates) (D : Dcap) (E : Outside) (hb : X.base64.Lawful) (hh : X.hex.Lawful)
    (hj : X.json.NoRawNul) (hsev : X.sev.ReadsFields) (hdcap : D.ReadsFields) (opts : VerifyOptions)
    (outcome : ChallengeOutcome) (trust : TrustBundle) (spkiDer certDer : Bytes) (hostname : Str)
    (hskip : opts.skipSessionSpki = false)
    (hrequire : trust.manifest.manifest.policy.requireSessionSpkiBind = true) (s s' : AttestState)
    (v : AttestationVerdict)
    (h : finishVerify X D E opts outcome trust (identityFromCert X spkiDer certDer) hostname s = (.ok v, s')) :
    ∃ report : HardwareReport X D E.nowUnix,
      X.base64.standard (trim outcome.response.quoteB64) = .ok report.raw ∧
      Challenge.buildReportDataV1 X outcome.nonce.val outcome.response.edge = .ok report.reportData ∧
      (∃ region, trust.manifest.manifest.regionOf hostname = some region ∧ ∃ row ∈ region.rows,
        row.row.SaysOf outcome.response ∧ report.measured.Is X row.row.measurement) ∧
      ∃ der, (der = spkiDer ∨ der = certDer) ∧
        X.hex.decode (Challenge.canonicalizeDigestField X outcome.response.edge.tlsCertSpkiSha256) =
          .ok (X.sha2.sha256 der) := by
  obtain ⟨docs, hrun⟩ := finishVerify_eq_ok.mp h
  obtain ⟨mode, candidates, chosen, pin, hardware, _, _, _, -, hdata, hmode, hcandidates, hchosen, -, -, hhardware,
    -⟩ := finishVerifyRelying_eq_ok hrun
  obtain ⟨-, -, -, raw, reportData, hraw, hcarries, hbuild⟩ := Challenge.verifyChallengeReportData_eq_ok.mp hdata
  have hnul : 0 ∈ reportData := by
    obtain ⟨p, -, rfl⟩ := Challenge.buildReportDataV1_eq_ok.mp hbuild
    exact List.mem_append_right _ (List.mem_replicate.mpr ⟨by decide, rfl⟩)
  obtain ⟨report, rfl, rfl, hmeasured⟩ := checkHardware_eq_ok hb hj hsev hdcap hraw hcarries hnul hhardware
  obtain ⟨region, hregion, -, hrows⟩ := findMatchingReleases_eq_ok hcandidates
  obtain ⟨hin, hkept⟩ := ((filterE_eq_ok hrows).2 _).mp (chooseRelease_mem hchosen)
  rw [hrequire, hskip] at hmode
  refine ⟨report, hraw, hbuild, ⟨region, hregion, chosen.release, hin, ?_, hmeasured⟩, sessionBind_eq_ok hh hmode⟩
  exact EdgeRelease.saysOf_of_isAbout (keepRelease_isAbout hkept)

/-! ## A run with a verdict -/

namespace Sample

open Encoding
open Platform.Sample (measurement measurementHash launchDigest)

def spkiDer : Bytes := [0x30, 0x03, 0x02, 0x01, 0x2a]

def spkiHash : Bytes :=
  [72, 223, 61, 161, 191, 242, 91, 171, 63, 46, 137, 147, 241, 97, 29, 148, 138, 129, 238, 247, 18, 166, 215, 116, 248,
   119, 15, 175, 85, 197, 206, 75]

def certDer : Bytes := [0x30, 0x00]

def certHash : Bytes :=
  [228, 246, 13, 10, 166, 215, 243, 211, 182, 166, 73, 75, 28, 134, 27, 153, 246, 73, 198, 249, 236, 81, 171, 175, 32,
   27, 32, 242, 151, 50, 124, 149]

def imageDigest : Str := hexEncode (List.replicate 32 0x5b)

def edge : EdgeIdentity where
  buildVersion := "1.4.0"
  codeHash := hexEncode (List.replicate 32 0xcd)
  measurement := .launchDigest launchDigest imageDigest
  tlsCertSpkiSha256 := hexEncode spkiHash
  policyHash := some (hexEncode (List.replicate 32 0xee))

def preimage : Bytes :=
  utf8 Challenge.challengeMagic ++ Challenge.Sample.nonce.val ++ spkiHash ++ Challenge.Sample.versionHash ++
    List.replicate 32 0xcd ++ 0x02 :: (measurementHash ++ List.replicate 32 0x5b)

def preimageHash : Bytes :=
  [237, 140, 179, 226, 116, 18, 12, 82, 53, 235, 230, 118, 100, 85, 121, 5, 140, 110, 249, 18, 9, 246, 124, 176, 242,
   249, 155, 247, 198, 175, 27, 13]

def reportData : Bytes := preimageHash ++ List.replicate 32 0

def quote : Bytes := 0x02 :: List.replicate 0x4f 0 ++ reportData ++ measurement ++ List.replicate 992 0

def parsed : AttestationReport := .sample measurement reportData

def vcek : Bytes := [0x30, 0x00]

def outcome : ChallengeOutcome where
  nonce := Challenge.Sample.nonce
  response := {
    schemaVersion := 1
    reportDataVersion := 1
    edge := edge
    challengeNonceB64 := encodeRaw true Challenge.Sample.nonce.val
    quoteFormat := .snpReport
    quoteB64 := encodePadded false quote }
  endpoint := "https://h"

def row : EdgeRelease where
  buildVersion := "1.4.0"
  codeHash := edge.codeHash
  quoteFormats := ["snp_report"]
  goldenVersion := some "g1"
  policyHash := edge.policyHash
  measurement := edge.measurement
  retiredAt := none

def manifest : OpenApiEdgeManifest where
  schema := "teechat-openapi-edge-manifest/v1"
  keyId := pinnedKeyId
  epoch := 7
  notAfter := "2027-01-01T00:00:00Z"
  retiredGracePeriodDays := 30
  policy := ⟨true, true, true⟩
  regions := [⟨"g", ["h"], [row], []⟩]

def golden (notAfter : Str) : GoldenDigestsManifest where
  schema := "teechat-golden-digests-manifest/v1"
  keyId := "golden-digests-v1"
  epoch := 76
  notAfter := notAfter
  retiredGracePeriodDays := 0
  roles := ⟨some ⟨[("sev-snp-cvm", ⟨[⟨"g1", none, none, some imageDigest, none, none⟩], []⟩)]⟩, none, none⟩

def goldenTree (notAfter : Str) : Json :=
  .object [("schema", .string "teechat-golden-digests-manifest/v1"), ("key_id", .string "golden-digests-v1"),
    ("published_at", .string "2026-07-01T00:00:00Z"), ("epoch", .number (.posInt 76)), ("not_after", .string notAfter),
    ("roles", .object [("openapi", .object [("backends", .object [("sev-snp-cvm", .object [("active", .array [
      .object [("golden_version", .string "g1"), ("image_digest", .string imageDigest)]])])])])])]

def goldenText (notAfter : Str) : Bytes := utf8 (renderText (goldenTree notAfter))

def edgeTree : Json :=
  .object [("schema", .string "teechat-openapi-edge-manifest/v1"), ("key_id", .string pinnedKeyId),
    ("published_at", .string "2026-07-01T00:00:00Z"), ("epoch", .number (.posInt 7)),
    ("not_after", .string "2027-01-01T00:00:00Z"),
    ("policy", .object [("reject_debug", .bool true), ("max_quote_age_ms", .number (.posInt 60000))]),
    ("regions", .array [.object [("region", .string "g"), ("hostnames", .array [.string "h"]), ("active", .array [
      .object [("build_version", .string "1.4.0"), ("code_hash", .string edge.codeHash),
        ("quote_formats", .array [.string "snp_report"]), ("golden_version", .string "g1"),
        ("policy_hash", .string (hexEncode (List.replicate 32 0xee))), ("measurement", .object [
          ("kind", .string "launch_digest"), ("launch_digest", .string launchDigest),
          ("image_digest", .string imageDigest)])]])]])]

def edgeText : Bytes := utf8 (renderText edgeTree)

def releaseTree : Json :=
  .object [("tag_name", .string "v1.4.0"), ("html_url", .string "https://github.com/r"), ("assets", .array [
    .object [("name", .string "openapi-edge-attest.json"), ("browser_download_url", .string "https://github.com/a")]])]

def releaseText : Bytes := utf8 (renderText releaseTree)

def tables (notAfter : Str) : CrateTables where
  sha256 := [(preimage, preimageHash), (utf8 "1.4.0", Challenge.Sample.versionHash), (spkiDer, spkiHash),
    (certDer, certHash), (utf8 (hexEncode measurement), measurementHash)]
  trees := [(releaseText, releaseTree), (edgeText, edgeTree), (goldenText notAfter, goldenTree notAfter)]
  reports := [(quote, parsed)]
  chains := [(vcek, parsed)]

def dcap : Dcap where
  Collateral := Unit
  collateralFromPcs := fun _ => .error "not an SGX quote"
  verify := fun _ _ _ => .error "not an SGX quote"

def outside (notAfter : Str) : Outside where
  host := Platform.Sample.host
  nowUnix := 1785542400
  readFile := fun _ => .error "No such file or directory (os error 2)"
  ureqGet := fun asked _ =>
    match asked.length with
    | 0 => .ok (200, .ok releaseText)
    | 1 => .ok (200, .ok edgeText)
    | 2 => .ok (200, .ok (goldenText notAfter))
    | _ => .error "timed out"
  kdsGet := fun _ => .ok vcek
  tokioRuntime := .ok ()
  floorWrite := fun _ => .stored
  keyError := fun _ => "signature error"
  verifyError := "signature error"

def opts : VerifyOptions := { githubTag := some "v1.4.0", requireCeremonySpki := false }

def trust : TrustBundle where
  manifest := ⟨manifest, "github:teechat-openapi:v1.4.0"⟩
  trustSource := "github"
  githubReleaseUrl := "https://github.com/r"
  trustFallbackTip := []
  sha256sums := none

section Run

variable (notAfter : Str)

lemma sha256_spkiDer : (tables notAfter).crates.sha2.sha256 spkiDer = spkiHash :=
  CrateTables.sha256_of_lookup rfl (by decide)

lemma decode_hexEncode (x : Bytes) : (tables notAfter).crates.hex.decode (trim (hexEncode x)) = .ok x := by
  rw [trim_eq_self fun c hc => (mem_hexEncode hc).2.2]
  exact Hex.lowercase_lawful.decode_encode x

lemma canonicalize_edge : Challenge.canonicalizeEdgeIdentity (tables notAfter).crates edge = .ok edge := by
  have hfield (d : Bytes) (hd : d.length = 32) :
      Challenge.canonicalizeDigestField (tables notAfter).crates (hexEncode d) = hexEncode d :=
    canonicalizeDigestField_of_ignoreCase (X := (tables notAfter).crates) Hex.lowercase_lawful hd (beq_iff_eq.mpr rfl)
  have hcode := hfield (List.replicate 32 0xcd) List.length_replicate
  have hlaunch := hfield measurementHash (by decide)
  have himage := hfield (List.replicate 32 0x5b) List.length_replicate
  have hspki := hfield spkiHash (by decide)
  have hpolicy := hfield (List.replicate 32 0xee) List.length_replicate
  refine bind_eq_ok.mpr ⟨(), failIf_eq_ok.mpr (by decide), ?_⟩
  simp only [edge, launchDigest, imageDigest, Challenge.canonicalizeMeasurement, Option.map_some, hcode, hlaunch,
    himage, hspki, hpolicy]
  rfl

lemma reportData_edge :
    Challenge.buildReportDataV1 (tables notAfter).crates outcome.nonce.val edge = .ok reportData := by
  have hbody : Challenge.measurementBody (tables notAfter).crates edge.measurement =
      .ok (0x02 :: (measurementHash ++ List.replicate 32 0x5b)) :=
    Challenge.measurementBody_eq_ok.mpr (Or.inr ⟨_, _, ⟨_, by decide⟩, ⟨_, List.length_replicate⟩, rfl,
      decode_hexEncode _ _, decode_hexEncode _ _, rfl⟩)
  have hversion : (tables notAfter).crates.sha2.sha256 (utf8 edge.buildVersion) = Challenge.Sample.versionHash :=
    CrateTables.sha256_of_lookup rfl (by decide)
  have hpreimage : Challenge.canonicalPreimage (tables notAfter).crates outcome.nonce.val edge = .ok preimage := by
    refine Challenge.canonicalPreimage_eq_ok.mpr ⟨edge, canonicalize_edge notAfter, ?_⟩
    refine Challenge.buildPreimageV1_eq_ok.mpr ⟨outcome.nonce.2, ⟨spkiHash, by decide⟩, ⟨_, List.length_replicate⟩, _,
      decode_hexEncode _ _, decode_hexEncode _ _, hbody, ?_⟩
    rw [hversion, preimage]
    simp only [List.flatten_cons, List.flatten_nil, List.append_nil, List.append_assoc]
    rfl
  refine Challenge.buildReportDataV1_eq_ok.mpr ⟨preimage, hpreimage, ?_⟩
  rw [CrateTables.sha256_of_lookup (d := preimageHash) List.lookup_cons_self (by decide), reportData]

lemma slice_quote : slice quote 0x50 64 = some reportData := by
  rw [quote, List.append_assoc, List.append_assoc (_ :: _)]
  exact slice_append (by rw [List.length_cons, List.length_replicate]) rfl

lemma standard_quote : (tables notAfter).crates.base64.standard (trim outcome.response.quoteB64) = .ok quote := by
  change Base64.rfc4648.standard (trim (encodePadded false quote)) = .ok quote
  rw [trim_encodePadded]
  exact Base64.rfc4648_lawful.standard_encode quote

lemma accepts_outcome :
    Challenge.verifyChallengeReportData (tables notAfter).crates outcome.nonce.val outcome.response = .ok () := by
  have hnonce := Base64.rfc4648_lawful.urlSafeNoPad_encode outcome.nonce.val
  refine Challenge.verifyChallengeReportData_eq_ok.mpr ⟨rfl, rfl, hnonce, quote, reportData, standard_quote notAfter,
    ⟨slice_quote, ?_⟩, reportData_edge notAfter⟩
  rintro ⟨⟩

lemma noRawNul_tables : (tables notAfter).crates.json.NoRawNul := by
  refine CrateTables.noRawNul fun p hp => ?_
  simp only [tables, List.mem_cons, List.not_mem_nil, or_false] at hp
  rcases hp with rfl | rfl | rfl <;> exact zero_notMem_renderText _

lemma readsFields_tables : (tables notAfter).crates.sev.ReadsFields := by
  refine CrateTables.readsFields fun p hp => ?_
  obtain rfl := List.mem_singleton.mp hp
  refine ⟨slice_quote, ?_⟩
  change slice quote 0x90 48 = some measurement
  rw [quote, List.append_assoc]
  exact slice_append (by rw [List.length_append, List.length_cons, List.length_replicate]; rfl) List.length_replicate

lemma check_quote : ∃ hardware,
    checkHardware (tables notAfter).crates dcap (outside notAfter) outcome.response true row.measurement =
      .ok hardware := by
  have hparse : (tables notAfter).crates.sev.reportFromBytes quote = .ok parsed :=
    CrateTables.report_of_lookup List.lookup_cons_self
  have hnul : 0 ∈ quote := mem_of_slice slice_quote (List.mem_append_right _ (List.mem_replicate.mpr ⟨by decide, rfl⟩))
  have hb64 := rawSnpReportB64_plain (X := (tables notAfter).crates) (standard_quote notAfter)
    (engineWrapper_of_nul (noRawNul_tables notAfter) hnul)
  obtain ⟨v, hv, hm, -⟩ := verifySnpReport_of_chain (X := (tables notAfter).crates) Base64.rfc4648_lawful
    (outside notAfter).kdsGet hb64 hparse rfl rfl
    (verifyChain_of_verify hparse rfl rfl rfl (CrateTables.verify_of_mem List.mem_cons_self)) slice_quote
  have htrim : trim ((tables notAfter).crates.hex.encode parsed.measurement) = hexEncode measurement :=
    trim_eq_self fun c hc => (mem_hexEncode hc).2.2
  have hlower : toAsciiLowercase (hexEncode measurement) = hexEncode measurement :=
    Hex.lowercase_lawful.toAsciiLowercase_encode measurement
  have hhash : (tables notAfter).crates.sha2.sha256 (utf8 (hexEncode measurement)) = measurementHash :=
    CrateTables.sha256_of_lookup rfl (by decide)
  have hsame : eqIgnoreAsciiCase launchDigest (challengeCanonicalLaunchDigest (tables notAfter).crates
      v.launchMeasurementHex) = true := by
    rw [challengeCanonicalLaunchDigest, hm, htrim, hlower, hhash]
    exact beq_self_eq_true _
  have hcheck : ∃ hardware, checkSnp (tables notAfter).crates (outside notAfter) outcome.response true row.measurement =
      .ok hardware :=
    ⟨_, bind_eq_ok.mpr ⟨v, hv, bind_eq_ok.mpr ⟨(), failIf_eq_ok.mpr (not_not.mpr hsame), rfl⟩⟩⟩
  exact hcheck

lemma matches_row : findMatchingReleases (outside notAfter).nowUnix manifest "h" (buildOf outcome.response) =
    .ok [⟨.active, row⟩] := by
  have habout : row.isAbout (buildOf outcome.response) = true := by
    simp only [EdgeRelease.isAbout, row, buildOf, outcome, edge, measurementEq, eqIgnoreAsciiCase, beq_self_eq_true,
      Bool.and_true]
    decide
  have hkeep : keepRelease (outside notAfter).nowUnix manifest.retiredGracePeriodDays (buildOf outcome.response) row =
      .ok true := keepRelease_undated habout rfl
  have hregion : manifest.regionOf "h" = some ⟨"g", ["h"], [row], []⟩ := rfl
  rw [findMatchingReleases, hregion]
  simp only [okOr, ok_bind, ManifestRegion.rows, listed, List.map_cons, List.map_nil, List.append_nil, filterE, hkeep]
  rfl

lemma golden_tree : (tables notAfter).crates.json.tree (goldenText notAfter) = .ok (goldenTree notAfter) := by
  -- the texts differ at their third and at their twentieth octet
  have hrelease : (goldenText notAfter == releaseText) = false := by
    refine beq_eq_false_iff_ne.mpr fun heq => ?_
    have hoctet : some (0x73 : UInt8) = some 0x74 := congrArg (fun b : Bytes => b[2]?) heq
    exact absurd hoctet (by decide)
  have hedge : (goldenText notAfter == edgeText) = false := by
    refine beq_eq_false_iff_ne.mpr fun heq => ?_
    have hoctet : some (0x67 : UInt8) = some 0x6f := congrArg (fun b : Bytes => b[19]?) heq
    exact absurd hoctet (by decide)
  refine CrateTables.tree_of_lookup ?_
  rw [tables, List.lookup_cons, hrelease, List.lookup_cons, hedge]
  exact List.lookup_cons_self

lemma parse_golden : parseGoldenManifest (tables notAfter).crates (goldenText notAfter) = .ok (golden notAfter) := by
  have hread : (tables notAfter).crates.fromSlice GoldenDigestsManifest.read (goldenText notAfter) =
      .ok (golden notAfter) := bind_eq_ok.mpr ⟨goldenTree notAfter, golden_tree notAfter, rfl⟩
  simp only [parseGoldenManifest, bind_eq_ok, mapErr_eq_ok, failIf_eq_ok, pure_eq_ok]
  exact ⟨golden notAfter, hread, (), not_not.mpr rfl, (), not_not.mpr rfl, rfl⟩

variable {s : AttestState}

lemma load_golden (hs : s.asked.length = 2) : ∃ s',
    loadGoldenDigests (tables notAfter).crates (outside notAfter) opts.golden s =
      (.ok ⟨golden notAfter, "github"⟩, s') ∧ s'.floor = s.floor := by
  have hanswer (url : Str) : (outside notAfter).ureqGet s.asked url = .ok (200, .ok (goldenText notAfter)) := by
    simp only [outside, hs]
  have hfetch (url : Str) := httpGetBytes_of_answer (hanswer url)
  have hgithub : fetchGithubGoldenDigests (tables notAfter).crates (outside notAfter) opts.golden.githubOwner
      opts.golden.githubRepo none s = (.ok ⟨golden notAfter, "github"⟩, { s with asked := s.asked ++ [format
        ["https://github.com/", opts.golden.githubOwner, "/", opts.golden.githubRepo, "/releases/download/",
          defaultGoldenReleaseTag, "/golden-digests.json"]] }) := by
    refine Op.lift_bind_eq_ok.mpr ⟨_, rfl, Op.bind_eq_ok.mpr ⟨_, _, hfetch _, ?_⟩⟩
    exact Op.lift_bind_eq_ok.mpr ⟨_, parse_golden notAfter, rfl⟩
  exact ⟨_, Op.bind_eq_ok.mpr ⟨_, _, Op.attempt_eq_ok.mpr hgithub, rfl⟩, rfl⟩

lemma choose_row (hs : s.asked.length = 2) (hfloor : s.floor = fun _ => .missing) :
    ∃ chosen s', chosen.release = ⟨.active, row⟩ ∧ chosen.golden = some (golden notAfter) ∧
      s'.floor .openapiEdge = .missing ∧
      chooseRelease (tables notAfter).crates (outside notAfter) opts [⟨.active, row⟩] edge.measurement s =
        (.ok chosen, s') := by
  obtain ⟨s₁, hload, hkept⟩ := load_golden notAfter hs
  have hmissing : s₁.floor .goldenDigests = .missing := by rw [hkept, hfloor]
  have hfind : [(⟨.active, row⟩ : Listed EdgeRelease)].find?
      (fun rel => goldenConfirms (golden notAfter) edge.measurement rel.row) = some ⟨.active, row⟩ := by
    have hconfirms : goldenConfirms (golden notAfter) edge.measurement row = true := by
      have hpin : goldenOsPinMatches ⟨"g1", none, none, some imageDigest, none, none⟩ edge.measurement = true :=
        beq_self_eq_true _
      exact hpin
    rw [List.find?_cons, hconfirms]
  have hassert := assertEpochMonotonic_missing (outside notAfter) .goldenDigests 76 (by decide) hmissing
  have hremember := rememberEpoch_missing (outside notAfter) .goldenDigests 76 (by decide) hmissing rfl
  have hmatch : matchGoldenIn (tables notAfter).crates (outside notAfter) [⟨.active, row⟩] edge.measurement
      [opts.golden, { opts.golden with preferWww := true }] s =
        (.ok ⟨⟨.active, row⟩, some "g1", "github", golden notAfter⟩,
          { s₁ with floor := Function.update s₁.floor .goldenDigests (.content (decimal 76 ++ ['\n'])) }) := by
    refine Op.bind_eq_ok.mpr ⟨_, s₁, hload, ?_⟩
    rw [hfind]
    exact Op.bind_eq_ok.mpr ⟨(), s₁, hassert, Op.bind_eq_ok.mpr ⟨(), _, hremember, rfl⟩⟩
  refine ⟨_, _, ?_, ?_, ?_, Op.bind_eq_ok.mpr ⟨_, _, hmatch, rfl⟩⟩
  · rfl
  · rfl
  · dsimp only
    rw [Function.update_of_ne (by decide), hkept, hfloor]

lemma finish_outcome (hs : s.asked.length = 2) (hfloor : s.floor = fun _ => .missing) :
    ∃ v s', finishVerifyRelying (tables notAfter).crates dcap (outside notAfter) opts outcome trust
      (identityFromCert (tables notAfter).crates spkiDer certDer) "h" s =
        (.ok (v, ⟨manifest, some (golden notAfter), none⟩), s') := by
  obtain ⟨chosen, s₁, hrow, hgolden, hmissing, hchosen⟩ := choose_row notAfter hs hfloor
  obtain ⟨hardware, hhardware⟩ := check_quote notAfter
  rw [← show chosen.release.row = row by rw [hrow]] at hhardware
  have hassert := assertEpochMonotonic_missing (outside notAfter) .openapiEdge manifest.epoch (by decide)
    (show s.floor .openapiEdge = .missing by rw [hfloor])
  have hremember := rememberEpoch_missing (outside notAfter) .openapiEdge manifest.epoch (by decide) hmissing rfl
  have hmode : sessionBind true false edge.tlsCertSpkiSha256
      (identityFromCert (tables notAfter).crates spkiDer certDer) = .ok "spki" := by
    rw [identityFromCert, sha256_spkiDer]
    have hsame : eqIgnoreAsciiCase (hexEncode spkiHash) (hexEncode spkiHash) = true := beq_self_eq_true _
    exact if_pos hsame
  obtain ⟨v, hrun⟩ := finishVerifyRelying_of opts outcome trust hassert (accepts_outcome notAfter) hmode
    (matches_row notAfter) hchosen rfl rfl hhardware hremember
  rw [hgolden] at hrun
  exact ⟨v, _, hrun⟩

end Run

end Sample

open Attest.Sample in
theorem verdict_sound_sample :
    ∃ s s' v, finishVerify (tables "2027-01-01T00:00:00Z").crates dcap (outside "2027-01-01T00:00:00Z") opts outcome
        trust (identityFromCert (tables "2027-01-01T00:00:00Z").crates spkiDer certDer) "h" s = (.ok v, s') ∧
      ∃ report : HardwareReport (tables "2027-01-01T00:00:00Z").crates dcap 1785542400, report.raw = quote ∧
        ∃ region, trust.manifest.manifest.regionOf "h" = some region ∧ ∃ row ∈ region.rows,
          row.row.SaysOf outcome.response := by
  obtain ⟨v, s', hrun⟩ := finish_outcome "2027-01-01T00:00:00Z" (s := ⟨["", ""], fun _ => .missing⟩) rfl rfl
  have hfinish := finishVerify_eq_ok.mpr ⟨_, hrun⟩
  obtain ⟨report, hraw, -, ⟨region, hregion, r, hr, hsays, -⟩, -⟩ := verdict_sound
    (tables "2027-01-01T00:00:00Z").crates dcap (outside "2027-01-01T00:00:00Z") Base64.rfc4648_lawful
    Hex.lowercase_lawful (noRawNul_tables _) (readsFields_tables _) (fun _ _ _ _ _ h => nomatch h) opts outcome trust
    spkiDer certDer "h" rfl rfl _ s' v hfinish
  rw [standard_quote] at hraw
  exact ⟨_, s', v, hfinish, report, (Except.ok.inj hraw).symm, region, hregion, r, hr, hsays⟩

end TeechatOpenapi.Attest
