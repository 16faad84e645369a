import TeechatOpenapi.Attest.Snp
import TeechatOpenapi.Platform.Challenge
import TeechatOpenapi.Platform.EngineRecipient

/-!
# The channel attestor of seal-sync (`openapi-platform-cvm/src/seal_sync.rs`, `src/snp_report.rs`)

A peer proves with an SNP report that it holds the channel it speaks on: REPORT_DATA is derived from the channel's SPKI.
Three inputs come from the peer: the measurement it claims, the channel it claims and the report.

`snpguest` (the program that asks the firmware for a report) and the fetch of a VCEK are inputs.  SHA-256 is taken to be
injective on the two texts at hand.
-/

namespace TeechatOpenapi.Cvm

open Lib Attest Platform

/-- `attested_mtls_seal_sync::Error`, the variant the attestor returns. -/
inductive SealSyncError where
  | attestation (text : Str)
  deriving DecidableEq

/-- What a peer sends to prove its channel. -/
structure AttestationEvidence where
  measurement : Str
  channelSpkiSha256 : Str
  evidenceB64 : Str

/-- An attestor, with the measurements it allows. -/
structure SnpChannelAttestor where
  measurement : Str
  allowlist : List Str

/-- `SealSyncConfig`, the fields `build_attestor` reads. -/
structure SealSyncConfig where
  allowlist : List Str
  mockPsk : Option Str

/-- `EdgeSealSyncAttestor`; the mock is given by what it is built from. -/
inductive EdgeSealSyncAttestor where
  | mock (measurement psk : Str) (allowed : List Str)
  | snp (attestor : SnpChannelAttestor)

section Attestor

variable (X : Crates)

/-- What `report_data_for_channel` hashes. -/
def channelText (channelSpkiSha256 : Str) : Bytes := utf8 ("teechat-seal-sync-v3".toList ++ channelSpkiSha256)

def reportDataForChannel (channelSpkiSha256 : Str) : Bytes :=
  X.sha2.sha256 (channelText channelSpkiSha256) ++ List.replicate 32 0

/-- `snp_report_with_data`; `snpguest` is the run of that program up to the octets it leaves. -/
def snpReportWithData (snpguest : Bytes → Except PlatformError Bytes) (reportData : Bytes) :
    Except PlatformError Bytes := do
  let bytes ← snpguest reportData
  failIf (bytes.length < 0x50 + 64)
    (.attestation ("snpguest report too short: ".toList ++ decimal bytes.length ++ " bytes".toList))
  failIf (slice bytes 0x50 64 ≠ some reportData)
    (.attestation "snpguest report REPORT_DATA does not match request")
  return bytes

def SnpChannelAttestor.produce (A : SnpChannelAttestor) (snpguest : Bytes → Except PlatformError Bytes)
    (channelSpkiSha256 : Str) : Except SealSyncError AttestationEvidence := do
  let report ← mapErr (fun e => .attestation e.display)
    (snpReportWithData snpguest (reportDataForChannel X channelSpkiSha256))
  return {
    measurement := A.measurement
    channelSpkiSha256 := toAsciiLowercase channelSpkiSha256
    evidenceB64 := X.base64.encodeUrlSafeNoPad report }

def SnpChannelAttestor.allowlisted (A : SnpChannelAttestor) (measurement : Str) : Bool :=
  let m := toAsciiLowercase measurement
  m ∈ A.allowlist || eqIgnoreAsciiCase A.measurement m

def SnpChannelAttestor.verify (A : SnpChannelAttestor) (httpGet : Str → Except AttestError Bytes)
    (evidence : AttestationEvidence) (expectedChannelSpki : Str) : Except SealSyncError Unit := do
  failIf (¬ eqIgnoreAsciiCase evidence.channelSpkiSha256 expectedChannelSpki)
    (.attestation "channel_spki_sha256 mismatch")
  failIf (¬ A.allowlisted evidence.measurement)
    (.attestation ("measurement not allowlisted: ".toList ++ evidence.measurement))
  let verified ← mapErr (fun e => .attestation ("SNP VCEK/chain verification failed: ".toList ++ e.display))
    (verifySnpReport X httpGet evidence.evidenceB64 true)
  failIf (¬ eqIgnoreAsciiCase verified.reportDataHex (X.hex.encode (reportDataForChannel X expectedChannelSpki)))
    (.attestation "verified SNP report_data does not bind the seal-sync transcript")
  failIf (¬ eqIgnoreAsciiCase (challengeCanonicalLaunchDigest X verified.launchMeasurementHex) evidence.measurement ∧
      ¬ eqIgnoreAsciiCase verified.launchMeasurementHex evidence.measurement)
    (.attestation "verified SNP launch measurement does not match evidence claim")

def buildAttestor (cfg : SealSyncConfig) (localMeasurement : Str) : EdgeSealSyncAttestor :=
  let allow := if cfg.allowlist.any (eqIgnoreAsciiCase · localMeasurement) then cfg.allowlist
    else cfg.allowlist ++ [toAsciiLowercase localMeasurement]
  match cfg.mockPsk with
  | some psk => .mock localMeasurement psk allow
  | none => .snp ⟨toAsciiLowercase localMeasurement, allow⟩

end Attestor

/-- A measurement is allowed, ignoring case: it is on the list or the attestor's own. -/
def SnpChannelAttestor.Allows (A : SnpChannelAttestor) (measurement : Str) : Prop :=
  ∃ a ∈ A.measurement :: A.allowlist, eqIgnoreAsciiCase measurement a = true

section Accepted

variable {X : Crates} {A : SnpChannelAttestor}

lemma allows_of_allowlisted {m claimed : Str} (h : A.allowlisted claimed = true)
    (hm : eqIgnoreAsciiCase m claimed = true) : A.Allows m := by
  have hlower := beq_iff_eq.mp hm
  rw [SnpChannelAttestor.allowlisted, Bool.or_eq_true, decide_eq_true_eq] at h
  rcases h with h | h
  · refine ⟨toAsciiLowercase claimed, List.mem_cons_of_mem _ h, beq_iff_eq.mpr ?_⟩
    rw [toAsciiLowercase_idem, hlower]
  · refine ⟨A.measurement, List.mem_cons_self, beq_iff_eq.mpr ?_⟩
    have hown := beq_iff_eq.mp h
    rw [toAsciiLowercase_idem] at hown
    rw [hown, hlower]

/-- The report in an accepted evidence. -/
structure AcceptedReport (X : Crates) (A : SnpChannelAttestor) (evidenceB64 expectedChannelSpki : Str) where
  b64 : Str
  raw : Bytes
  vcekDer : Bytes
  report : AttestationReport
  b64_eq : rawSnpReportB64 X evidenceB64 = .ok b64
  raw_eq : X.base64.standard (trim b64) = .ok raw
  chain : verifyChain X raw vcekDer true = .ok report
  reportData : report.reportData = reportDataForChannel X expectedChannelSpki
  measurement : A.Allows (X.hex.encode report.measurement) ∨
    A.Allows (challengeCanonicalLaunchDigest X (X.hex.encode report.measurement))

lemma verify_eq_ok (hh : X.hex.Lawful) {httpGet : Str → Except AttestError Bytes} {evidence : AttestationEvidence}
    {expected : Str} (h : A.verify X httpGet evidence expected = .ok ()) :
    Nonempty (AcceptedReport X A evidence.evidenceB64 expected) := by
  simp only [SnpChannelAttestor.verify, bind_eq_ok, failIf_eq_ok, mapErr_eq_ok, not_not, not_and_or] at h
  obtain ⟨-, -, -, hallow, v, hverify, -, hdata, hmeas⟩ := h
  obtain ⟨b64, raw, vcekDer, report, hb64, hraw, hchain, hm, hd⟩ := verifySnpReport_eq_ok hverify
  rw [hd] at hdata
  rw [hm] at hmeas
  refine ⟨b64, raw, vcekDer, report, hb64, hraw, hchain, hh.eq_of_encode_ignoreCase hdata, ?_⟩
  rcases hmeas with hmeas | hmeas
  · exact Or.inr (allows_of_allowlisted hallow hmeas)
  · exact Or.inl (allows_of_allowlisted hallow hmeas)

lemma snpReportWithData_eq_ok {snpguest : Bytes → Except PlatformError Bytes} {reportData report : Bytes}
    (h : snpReportWithData snpguest reportData = .ok report) : slice report 0x50 64 = some reportData := by
  simp only [snpReportWithData, bind_eq_ok, failIf_eq_ok, pure_eq_ok, not_not] at h
  obtain ⟨bytes, -, -, -, -, hslice, rfl⟩ := h
  exact hslice

lemma produce_eq_ok {snpguest : Bytes → Except PlatformError Bytes} {channel : Str} {evidence : AttestationEvidence}
    (h : A.produce X snpguest channel = .ok evidence) :
    ∃ report, evidence.evidenceB64 = X.base64.encodeUrlSafeNoPad report ∧
      slice report 0x50 64 = some (reportDataForChannel X channel) := by
  simp only [SnpChannelAttestor.produce, bind_eq_ok, mapErr_eq_ok, pure_eq_ok] at h
  obtain ⟨report, hreport, rfl⟩ := h
  exact ⟨report, rfl, snpReportWithData_eq_ok hreport⟩

lemma zero_mem_reportDataForChannel (channel : Str) : 0 ∈ reportDataForChannel X channel :=
  List.mem_append_right _ (List.mem_replicate.mpr ⟨by decide, rfl⟩)

lemma decodeB64Flexible_urlSafeNoPad (hb : X.base64.Lawful) (hc : X.base64.Compatible) (x : Bytes) :
    decodeB64Flexible X (X.base64.encodeUrlSafeNoPad x) = .ok x := by
  unfold decodeB64Flexible
  rw [hb.trim_encodeUrlSafeNoPad]
  rcases hstd : X.base64.standard (X.base64.encodeUrlSafeNoPad x) with e | y
  · simp only [hc.no_padding, hb.urlSafeNoPad_encode]
  · rw [hc.standard_urlSafe x y hstd]

/-- A report with a NUL octet is read from its encoding as itself. -/
lemma rawSnpReportB64_urlSafeNoPad (hb : X.base64.Lawful) (hc : X.base64.Compatible) (hj : X.json.NoRawNul)
    {report : Bytes} (hnul : 0 ∈ report) :
    rawSnpReportB64 X (X.base64.encodeUrlSafeNoPad report) = .ok (X.base64.encodeStandard report) := by
  have hflex := decodeB64Flexible_urlSafeNoPad hb hc report
  simp only [rawSnpReportB64, hb.trim_encodeUrlSafeNoPad, hflex, quoteErr, mapErr, ok_bind,
    engineWrapper_of_nul hj hnul]
  rfl

lemma reportDataForChannel_injective {channel expected : Str}
    (hinj : Set.InjOn X.sha2.sha256 {channelText channel, channelText expected})
    (h : reportDataForChannel X channel = reportDataForChannel X expected) : channel = expected := by
  have hhash := (List.append_inj h (by rw [X.sha2.sha256_length, X.sha2.sha256_length])).1
  have htext := hinj (Set.mem_insert _ _) (Set.mem_insert_of_mem _ rfl) hhash
  exact List.append_cancel_left (utf8_injective htext)

end Accepted

/-- **Seal-sync evidence is bound to its channel**: an accepted evidence holds a chain-verified report whose REPORT_DATA
is derived from exactly the expected string and whose measurement is allowed, and evidence that any attestor produced
for a channel is accepted for no other string, whatever the peer claims beside it. -/
theorem seal_sync_channel_binding (X : Crates) (hh : X.hex.Lawful) (A : SnpChannelAttestor)
    (httpGet : Str → Except AttestError Bytes) (evidence : AttestationEvidence) (expectedChannelSpki : Str)
    (h : A.verify X httpGet evidence expectedChannelSpki = .ok ()) :
    Nonempty (AcceptedReport X A evidence.evidenceB64 expectedChannelSpki) ∧
      (X.base64.Lawful → X.base64.Compatible → X.json.NoRawNul → X.sev.ReadsFields →
        ∀ (B : SnpChannelAttestor) snpguest channel produced, B.produce X snpguest channel = .ok produced →
          evidence.evidenceB64 = produced.evidenceB64 →
          Set.InjOn X.sha2.sha256 {channelText channel, channelText expectedChannelSpki} →
          channel = expectedChannelSpki) := by
  refine ⟨verify_eq_ok hh h, ?_⟩
  intro hb hc hj hsev B snpguest channel produced hproduce hsame hinj
  obtain ⟨⟨b64, raw, vcekDer, parsed, hb64, hraw, hchain, hdata, -⟩⟩ := verify_eq_ok hh h
  obtain ⟨report, henc, hslice⟩ := produce_eq_ok hproduce
  have hnul : 0 ∈ report := mem_of_slice hslice (zero_mem_reportDataForChannel channel)
  -- the report that was verified is the one that was produced
  rw [hsame, henc, rawSnpReportB64_urlSafeNoPad hb hc hj hnul] at hb64
  rw [← Except.ok.inj hb64, hb.trim_encodeStandard, hb.standard_encode] at hraw
  have hfields := (hsev _ _ (verifyChain_parsed hchain)).1
  rw [← Except.ok.inj hraw, hslice, hdata] at hfields
  exact reportDataForChannel_injective hinj (Option.some.inj hfields)

namespace Sample

open Platform.Sample Encoding

def channel : Str := hexEncode (List.replicate 32 0xab)

def channelHash : Bytes :=
  [94, 34, 0, 168, 229, 59, 15, 109, 147, 61, 236, 240, 106, 141, 182, 253, 144, 22, 248, 36, 20, 74, 47, 59, 104, 177,
   150, 80, 151, 38, 29, 29]

def channelReport : Bytes :=
  0x02 :: List.replicate 0x4f 0 ++ (channelHash ++ List.replicate 32 0) ++ measurement ++ List.replicate 992 0

def channelParsed : AttestationReport := .sample measurement (channelHash ++ List.replicate 32 0)

def channelVcek : Bytes := [0x30, 0x00]

def channelTables : CrateTables where
  sha256 := [(channelText channel, channelHash), (utf8 (hexEncode measurement), measurementHash)]
  reports := [(channelReport, channelParsed)]
  chains := [(channelVcek, channelParsed)]

def channelAttestor : SnpChannelAttestor := ⟨[], [hexEncode measurement]⟩

def channelEvidence : AttestationEvidence where
  measurement := hexEncode measurement
  channelSpkiSha256 := channel
  evidenceB64 := encodeRaw true channelReport

lemma reportData_channel :
    reportDataForChannel channelTables.crates channel = channelHash ++ List.replicate 32 0 := by
  rw [reportDataForChannel, CrateTables.sha256_of_lookup (d := channelHash) List.lookup_cons_self (by decide)]

lemma slice_channelReport : slice channelReport 0x50 64 = some (channelHash ++ List.replicate 32 0) := by
  rw [channelReport, List.append_assoc, List.append_assoc (_ :: _)]
  exact slice_append (by rw [List.length_cons, List.length_replicate]) rfl

lemma readsFields_channel : channelTables.crates.sev.ReadsFields := by
  refine CrateTables.readsFields fun p hp => ?_
  obtain rfl := List.mem_singleton.mp hp
  refine ⟨slice_channelReport, ?_⟩
  change slice channelReport 0x90 48 = some measurement
  rw [channelReport, List.append_assoc]
  exact slice_append (by rw [List.length_append, List.length_cons, List.length_replicate]; rfl) List.length_replicate

lemma noRawNul_channel : channelTables.crates.json.NoRawNul :=
  CrateTables.noRawNul fun _ hp => absurd hp List.not_mem_nil

lemma verify_channel :
    channelAttestor.verify channelTables.crates (fun _ => .ok channelVcek) channelEvidence channel = .ok () := by
  have hnul : 0 ∈ channelReport :=
    List.mem_cons_of_mem _ (List.mem_append_right _ (List.mem_replicate.mpr ⟨by decide, rfl⟩))
  have hparse : channelTables.crates.sev.reportFromBytes channelReport = .ok channelParsed :=
    CrateTables.report_of_lookup List.lookup_cons_self
  have hb64 := rawSnpReportB64_urlSafeNoPad (X := channelTables.crates) Base64.rfc4648_lawful
    Base64.rfc4648_compatible noRawNul_channel hnul
  obtain ⟨v, hv, hm, hd⟩ := verifySnpReport_of_chain (X := channelTables.crates) Base64.rfc4648_lawful
    (fun _ => .ok channelVcek) hb64 hparse rfl rfl
    (verifyChain_of_verify hparse rfl rfl rfl (CrateTables.verify_of_mem List.mem_cons_self)) slice_channelReport
  have hchannel : eqIgnoreAsciiCase channelEvidence.channelSpkiSha256 channel = true := beq_iff_eq.mpr rfl
  have hallow : channelAttestor.allowlisted channelEvidence.measurement = true := by decide
  simp only [SnpChannelAttestor.verify, bind_eq_ok, failIf_eq_ok, mapErr_eq_ok, not_not, not_and_or]
  refine ⟨(), hchannel, (), hallow, v, hv, (), ?_, Or.inr ?_⟩
  · rw [hd, reportData_channel]
    exact beq_iff_eq.mpr rfl
  · rw [hm]
    exact beq_iff_eq.mpr rfl

lemma produce_channel : ∃ produced,
    channelAttestor.produce channelTables.crates (fun _ => .ok channelReport) channel = .ok produced ∧
      produced.evidenceB64 = channelEvidence.evidenceB64 := by
  have hlong : ¬ channelReport.length < 0x50 + 64 := Nat.not_lt.mpr (slice_eq_some.mp slice_channelReport).1
  simp only [SnpChannelAttestor.produce, bind_eq_ok, mapErr_eq_ok, pure_eq_ok, snpReportWithData, failIf_eq_ok, not_not]
  refine ⟨_, ⟨channelReport, ⟨channelReport, rfl, (), hlong, (), ?_, rfl⟩, rfl⟩, rfl⟩
  rw [reportData_channel]
  exact slice_channelReport

end Sample

theorem seal_sync_channel_binding_sample :
    Nonempty (AcceptedReport Sample.channelTables.crates Sample.channelAttestor Sample.channelEvidence.evidenceB64
      Sample.channel) ∧ ∃ channel produced,
      Sample.channelAttestor.produce Sample.channelTables.crates (fun _ => .ok Sample.channelReport) channel =
        .ok produced ∧ produced.evidenceB64 = Sample.channelEvidence.evidenceB64 ∧ channel = Sample.channel := by
  obtain ⟨haccepted, hbound⟩ := seal_sync_channel_binding Sample.channelTables.crates Hex.lowercase_lawful
    Sample.channelAttestor _ Sample.channelEvidence Sample.channel Sample.verify_channel
  obtain ⟨produced, hproduce, henc⟩ := Sample.produce_channel
  refine ⟨haccepted, Sample.channel, produced, hproduce, henc, ?_⟩
  refine hbound Base64.rfc4648_lawful Base64.rfc4648_compatible Sample.noRawNul_channel Sample.readsFields_channel
    Sample.channelAttestor _ Sample.channel produced hproduce henc.symm ?_
  rw [Set.pair_eq_singleton]
  exact Set.injOn_singleton _ _

end TeechatOpenapi.Cvm
