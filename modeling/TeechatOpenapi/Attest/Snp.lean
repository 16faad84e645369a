import TeechatOpenapi.Crates

/-!
# SEV-SNP report verification (`openapi-attest/src/snp.rs`)

The AMD certificate chain over a report.  The chain check itself is the `sev` crate's; the fetch of a VCEK from the
AMD key server is an input (`httpGet`).
-/

namespace TeechatOpenapi.Attest

open Lib

/-- The errors of the client verifier. -/
inductive AttestError where
  | http (text : Str)
  | tls (text : Str)
  | manifest (text : Str)
  | challenge (text : Str)
  | quote (text : Str)
  | policy (text : Str)
  | io (text : Str)
  deriving DecidableEq

def AttestError.display : AttestError → Str
  | .http text => "http: ".toList ++ text
  | .tls text => "tls: ".toList ++ text
  | .manifest text => "manifest: ".toList ++ text
  | .challenge text => "challenge: ".toList ++ text
  | .quote text => "quote: ".toList ++ text
  | .policy text => "policy: ".toList ++ text
  | .io text => "io: ".toList ++ text

/-- What is returned of a verified SEV-SNP report. -/
structure SnpVerifyReport where
  productName : Str
  launchMeasurementHex : Str
  reportDataHex : Str
  chipIdHex : Str
  policyDebug : Bool
  guestSvn : Nat

variable {quoteB64 : Str} {report : AttestationReport} {raw : Bytes} {v : SnpVerifyReport}

section Verify

variable (X : Crates)

/-- `map_err(|e| AttestError::Quote(format!("{what}: {e}")))`. -/
def quoteErr {α : Type} (what : Str) (x : Except Str α) : Except AttestError α :=
  mapErr (fun e => .quote (what ++ ": ".toList ++ e)) x

def challengeCanonicalLaunchDigest (rawMeasurementHex : Str) : Str :=
  X.hex.encode (X.sha2.sha256 (utf8 (toAsciiLowercase (trim rawMeasurementHex))))

def snpReportReportdataLocal (quoteB64 : Str) : Except AttestError Bytes := do
  let raw ← quoteErr "quote_b64 decode" (X.base64.standard (trim quoteB64))
  okOr (slice raw 0x50 64)
    (.quote ("SNP report too short: ".toList ++ decimal raw.length ++ " bytes".toList))

def applySnpPolicy (report : AttestationReport) (rejectDebug : Bool) : Except AttestError Unit := do
  failIf (rejectDebug ∧ report.debugAllowed) (.policy "SNP report has debug policy bit set")
  failIf report.migrateMaAllowed (.policy "SNP report allows migration agent (policy MIGRATE_MA)")

def snpProductName (report : AttestationReport) : Str :=
  match report.cpuidFamId with
  | some 0x19 => if report.cpuidModId.any (· < 0x10) then "Milan" else "Genoa"
  | some 0x1A => "Turin"
  | _ => "Genoa"

def builtinCa (product : Str) : Except AttestError (X.sev.Cert × X.sev.Cert) :=
  if product = ("Milan" : Str) ∨ product = ("Genoa" : Str) ∨ product = ("Turin" : Str) then do
    let ark ← quoteErr (product ++ " ARK".toList) (X.sev.builtinArk product)
    let ask ← quoteErr (product ++ " ASK".toList) (X.sev.builtinAsk product)
    return (ark, ask)
  else .error (.quote ("unsupported SNP product ".toList ++ product))

/-- The chain check of `verify_snp_report_with_collateral` on the octets of a report. -/
def verifyChain (raw vcekDer : Bytes) (rejectDebug : Bool) : Except AttestError AttestationReport := do
  let report ← quoteErr "parse SNP report" (X.sev.reportFromBytes raw)
  applySnpPolicy report rejectDebug
  let vcek ← quoteErr "VCEK parse" (X.sev.certFromDer vcekDer)
  let (ark, ask) ← builtinCa X (snpProductName report)
  quoteErr "SNP VCEK/chain verify" (X.sev.verify ark ask vcek report)
  return report

def verifySnpReportWithCollateral (quoteB64 : Str) (vcekDer : Bytes) (rejectDebug : Bool) :
    Except AttestError SnpVerifyReport := do
  let raw ← quoteErr "quote_b64" (X.base64.standard (trim quoteB64))
  let report ← verifyChain X raw vcekDer rejectDebug
  let _ ← snpReportReportdataLocal X quoteB64
  return {
    productName := snpProductName report
    launchMeasurementHex := X.hex.encode report.measurement
    reportDataHex := X.hex.encode report.reportData
    chipIdHex := X.hex.encode report.chipId
    policyDebug := report.debugAllowed
    guestSvn := report.guestSvn }

def decodeB64Flexible (s : Str) : Except Str Bytes :=
  match X.base64.standard (trim s) with
  | .ok b => .ok b
  | .error _ =>
    match X.base64.urlSafeNoPad ((trim s).rdropWhile (· = '=')) with
    | .ok b => .ok b
    | .error _ => X.base64.urlSafe (trim s)

/-- The wrapper that `raw_snp_report_b64` looks through: UTF-8 JSON with version 2 and kind `sev-snp`. -/
def engineWrapper (raw : Bytes) : Option Json :=
  match fromUtf8 raw, X.json.value raw with
  | .ok _, .ok v => if (v.get? "v").bind Json.asU64? = some 2 ∧ v.getStr? "kind" = some "sev-snp" then some v else none
  | _, _ => none

def rawSnpReportB64 (quoteOrWrapperB64 : Str) : Except AttestError Str := do
  let raw ← quoteErr "quote_b64" (decodeB64Flexible X (trim quoteOrWrapperB64))
  match engineWrapper X raw with
  | some v =>
    let reportB64 ← okOr (v.getStr? "report_b64") (.quote "wrapper missing report_b64")
    let report ← quoteErr "report_b64" (decodeB64Flexible X reportB64)
    return X.base64.encodeStandard report
  | none => return X.base64.encodeStandard raw

/-- A number in at least two digits (`{:02}`). -/
def twoDigits (n : Nat) : Str := if n < 10 then '0' :: decimal n else decimal n

/-- The address of a VCEK at the AMD key server. -/
def vcekUrl (report : AttestationReport) : Str :=
  "https://kdsintf.amd.com/vcek/v1/".toList ++ snpProductName report ++ "/".toList ++ X.hex.encode report.chipId ++
    "?blSPL=".toList ++ twoDigits report.tcbBootloader ++ "&teeSPL=".toList ++ twoDigits report.tcbTee ++
    "&snpSPL=".toList ++ twoDigits report.tcbSnp ++ "&ucodeSPL=".toList ++ twoDigits report.tcbMicrocode

def verifySnpReport (httpGet : Str → Except AttestError Bytes) (quoteB64 : Str) (rejectDebug : Bool) :
    Except AttestError SnpVerifyReport := do
  let reportB64 ← rawSnpReportB64 X quoteB64
  let raw ← quoteErr "quote_b64" (X.base64.standard (trim reportB64))
  let report ← quoteErr "parse SNP report" (X.sev.reportFromBytes raw)
  applySnpPolicy report rejectDebug
  let vcekDer ← httpGet (vcekUrl X report)
  verifySnpReportWithCollateral X reportB64 vcekDer rejectDebug

/-- The octets of a report passed the chain check under some VCEK. -/
def ChainVerified (raw : Bytes) : Prop := ∃ vcekDer report, verifyChain X raw vcekDer true = .ok report

variable {X}

lemma not_chainVerified (h : ∀ ark ask vcek report, X.sev.verify ark ask vcek report ≠ .ok ()) (raw : Bytes) :
    ¬ ChainVerified X raw := by
  rintro ⟨der, report, hchain⟩
  simp only [verifyChain, bind_eq_ok, quoteErr, mapErr_eq_ok] at hchain
  obtain ⟨rep, -, -, -, vcek, -, ⟨ark, ask⟩, -, u, hverify, -⟩ := hchain
  exact h ark ask vcek rep hverify

lemma verifyChain_parsed {vcekDer : Bytes} {rejectDebug : Bool}
    (h : verifyChain X raw vcekDer rejectDebug = .ok report) : X.sev.reportFromBytes raw = .ok report := by
  simp only [verifyChain, bind_eq_ok, quoteErr, mapErr_eq_ok] at h
  obtain ⟨rep, hparse, -, -, vcek, -, ⟨ark, ask⟩, -, u, -, hret⟩ := h
  obtain rfl := pure_eq_ok.mp hret
  exact hparse

lemma verifySnpReport_eq_ok {httpGet : Str → Except AttestError Bytes} {rejectDebug : Bool}
    (h : verifySnpReport X httpGet quoteB64 rejectDebug = .ok v) :
    ∃ b64 raw vcekDer report, rawSnpReportB64 X quoteB64 = .ok b64 ∧ X.base64.standard (trim b64) = .ok raw ∧
      verifyChain X raw vcekDer rejectDebug = .ok report ∧
      v.launchMeasurementHex = X.hex.encode report.measurement ∧ v.reportDataHex = X.hex.encode report.reportData := by
  simp only [verifySnpReport, verifySnpReportWithCollateral, bind_eq_ok, quoteErr, mapErr_eq_ok] at h
  obtain ⟨b64, hb64, _, -, _, -, _, -, vcekDer, -, raw, hraw, report, hchain, _, -, hret⟩ := h
  obtain rfl := pure_eq_ok.mp hret
  exact ⟨b64, raw, vcekDer, report, hb64, hraw, hchain, rfl, rfl⟩

lemma verifySnpReportWithCollateral_ok {vcekDer : Bytes} (hraw : X.base64.standard (trim quoteB64) = .ok raw)
    (h : verifySnpReportWithCollateral X quoteB64 vcekDer true = .ok v) : ChainVerified X raw := by
  simp only [verifySnpReportWithCollateral, bind_eq_ok, quoteErr, mapErr_eq_ok] at h
  obtain ⟨raw', hraw', report, hchain, -⟩ := h
  obtain rfl := Except.ok.inj (hraw.symm.trans hraw')
  exact ⟨vcekDer, report, hchain⟩

lemma verifySnpReport_ok {httpGet : Str → Except AttestError Bytes} {b64 : Str}
    (hb64 : rawSnpReportB64 X quoteB64 = .ok b64)
    (hraw : X.base64.standard (trim b64) = .ok raw) (h : verifySnpReport X httpGet quoteB64 true = .ok v) :
    ChainVerified X raw := by
  simp only [verifySnpReport, bind_eq_ok] at h
  obtain ⟨b64', hb64', _, -, _, -, _, -, vcekDer, -, h⟩ := h
  obtain rfl := Except.ok.inj (hb64.symm.trans hb64')
  exact verifySnpReportWithCollateral_ok hraw h

lemma engineWrapper_of_nul (hj : X.json.NoRawNul) (h : 0 ∈ raw) : engineWrapper X raw = none := by
  obtain ⟨e, he⟩ := hj raw h
  rcases hu : fromUtf8 raw with e' | text
  · simp only [engineWrapper, hu]
  · simp only [engineWrapper, hu, he]

/-- A report that is no wrapper itself is normalised to its own encoding. -/
lemma rawSnpReportB64_plain (hraw : X.base64.standard (trim quoteB64) = .ok raw)
    (hwrap : engineWrapper X raw = none) : rawSnpReportB64 X quoteB64 = .ok (X.base64.encodeStandard raw) := by
  have hflex : decodeB64Flexible X (trim quoteB64) = .ok raw := by rw [decodeB64Flexible, trim_trim, hraw]
  simp only [rawSnpReportB64, hflex, quoteErr, mapErr, ok_bind, hwrap]
  rfl

lemma rawSnpReportB64_wrapper {reportB64 : Str} {report : Bytes} {v : Json}
    (hraw : X.base64.standard (trim quoteB64) = .ok raw) (hwrap : engineWrapper X raw = some v)
    (hfield : v.getStr? "report_b64" = some reportB64) (hreport : X.base64.standard (trim reportB64) = .ok report) :
    rawSnpReportB64 X quoteB64 = .ok (X.base64.encodeStandard report) := by
  have hflex : decodeB64Flexible X (trim quoteB64) = .ok raw := by rw [decodeB64Flexible, trim_trim, hraw]
  have hinner : decodeB64Flexible X reportB64 = .ok report := by rw [decodeB64Flexible, hreport]
  simp only [rawSnpReportB64, hflex, quoteErr, mapErr, ok_bind, hwrap, hfield, okOr, hinner]
  rfl

lemma verifyChain_of_verify {der : Bytes} {vcek ark ask : X.sev.Cert}
    (hparse : X.sev.reportFromBytes raw = .ok report) (hpolicy : applySnpPolicy report true = .ok ())
    (hcert : X.sev.certFromDer der = .ok vcek) (hca : builtinCa X (snpProductName report) = .ok (ark, ask))
    (hverify : X.sev.verify ark ask vcek report = .ok ()) : verifyChain X raw der true = .ok report := by
  simp only [verifyChain, hparse, quoteErr, mapErr, ok_bind, hpolicy, hcert, hca, hverify]
  rfl

lemma verifySnpReport_of_chain (hb : X.base64.Lawful) (httpGet : Str → Except AttestError Bytes)
    {der reportData : Bytes} (hb64 : rawSnpReportB64 X quoteB64 = .ok (X.base64.encodeStandard raw))
    (hparse : X.sev.reportFromBytes raw = .ok report) (hpolicy : applySnpPolicy report true = .ok ())
    (hget : httpGet (vcekUrl X report) = .ok der) (hchain : verifyChain X raw der true = .ok report)
    (hdata : slice raw 0x50 64 = some reportData) :
    ∃ v, verifySnpReport X httpGet quoteB64 true = .ok v ∧
      v.launchMeasurementHex = X.hex.encode report.measurement ∧ v.reportDataHex = X.hex.encode report.reportData := by
  have hstd : X.base64.standard (trim (X.base64.encodeStandard raw)) = .ok raw := by
    rw [hb.trim_encodeStandard, hb.standard_encode]
  simp only [verifySnpReport, hb64, ok_bind, hstd, quoteErr, mapErr, hparse, hpolicy,
    hget, verifySnpReportWithCollateral, hchain, snpReportReportdataLocal, hdata, okOr]
  exact ⟨_, rfl, rfl, rfl⟩

end Verify

end TeechatOpenapi.Attest
