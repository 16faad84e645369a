import TeechatOpenapi.Attest.Snp

/-!
# SGX quote verification (`openapi-attest/src/sgx.rs`)

The verification of a quote is `dcap-qvl`'s, and so is the fetch of its collateral.
-/

namespace TeechatOpenapi.Attest

open Lib

/-- `dcap_qvl::quote::EnclaveReport`, the fields the client reads. -/
structure EnclaveReport where
  attributes : Octets 16
  mrEnclave : Bytes
  mrSigner : Bytes
  reportData : Bytes
  isvProdId : Nat
  isvSvn : Nat

/-- `dcap_qvl::quote::Report`; of a TD report only its `{:?}` text is used. -/
inductive DcapReport where
  | sgxEnclave (r : EnclaveReport)
  | other (debug : Str)

/-- `dcap_qvl::verify::VerifiedReport`. -/
structure VerifiedReport where
  status : Str
  report : DcapReport

/-- `dcap-qvl`: collateral from Intel's service, and the verification of a quote at a time. -/
structure Dcap where
  Collateral : Type
  collateralFromPcs : Bytes → Except Str Collateral
  verify : Bytes → Collateral → Nat → Except Str VerifiedReport

/-- A verified SGX report has the fields of the octets of the quote: a header of 48 octets and the report body. -/
def Dcap.ReadsFields (D : Dcap) : Prop := ∀ quote collateral now v r,
  D.verify quote collateral now = .ok v → v.report = .sgxEnclave r →
    slice quote 112 32 = some r.mrEnclave ∧ slice quote 368 64 = some r.reportData

/-- What is returned of a verified SGX quote. -/
structure SgxVerifyReport where
  mrenclaveHex : Str
  mrsignerHex : Str
  reportDataHex : Str
  isvProdId : Nat
  isvSvn : Nat
  debug : Bool
  tcbStatus : Str

section Verify

variable (X : Crates) (D : Dcap)

def decodeQuote (quoteB64 : Str) : Except AttestError Bytes := quoteErr "quote_b64" (X.base64.standard (trim quoteB64))

def verifyQuoteWithCollateral (now : Nat) (quote : Bytes) (collateral : D.Collateral) (rejectDebug : Bool) :
    Except AttestError SgxVerifyReport := do
  let report ← quoteErr "DCAP verify" (D.verify quote collateral now)
  let status := report.status
  failIf (containsStr (toAsciiLowercase status) "revoked") (.policy (format ["TCB revoked: ", status]))
  match report.report with
  | .other debug => .error (.quote (format ["expected SGX enclave report, got ", debug]))
  | .sgxEnclave enclave =>
    let debug : Bool := enclave.attributes.val.headD 0 &&& 0x02 ≠ 0
    failIf (rejectDebug ∧ debug) (.policy "SGX quote indicates debug enclave")
    return {
      mrenclaveHex := X.hex.encode enclave.mrEnclave
      mrsignerHex := X.hex.encode enclave.mrSigner
      reportDataHex := X.hex.encode enclave.reportData
      isvProdId := enclave.isvProdId
      isvSvn := enclave.isvSvn
      debug
      tcbStatus := status }

/-- `verify_sgx_dcap_quote`; `runtime` is whether a runtime could be built. -/
def verifySgxDcapQuote (runtime : Except Str Unit) (now : Nat) (quoteB64 : Str) (rejectDebug : Bool) :
    Except AttestError SgxVerifyReport := do
  let quote ← decodeQuote X quoteB64
  quoteErr "tokio" runtime
  let collateral ← quoteErr "PCS collateral" (D.collateralFromPcs quote)
  verifyQuoteWithCollateral X D now quote collateral rejectDebug

variable {X D}

lemma verifyQuoteWithCollateral_eq_ok {now : Nat} {quote : Bytes} {collateral : D.Collateral} {rejectDebug : Bool}
    {v : SgxVerifyReport} (h : verifyQuoteWithCollateral X D now quote collateral rejectDebug = .ok v) :
    ∃ report r, D.verify quote collateral now = .ok report ∧ report.report = .sgxEnclave r ∧
      v.mrenclaveHex = X.hex.encode r.mrEnclave ∧ v.reportDataHex = X.hex.encode r.reportData := by
  simp only [verifyQuoteWithCollateral, bind_eq_ok, quoteErr, mapErr_eq_ok] at h
  obtain ⟨report, hverify, _, -, h⟩ := h
  rcases hr : report.report with r | debug
  · rw [hr] at h
    obtain ⟨_, -, h⟩ := bind_eq_ok.mp h
    obtain rfl := pure_eq_ok.mp h
    exact ⟨report, r, hverify, hr, rfl, rfl⟩
  · rw [hr] at h
    cases h

lemma verifySgxDcapQuote_eq_ok {runtime : Except Str Unit} {now : Nat} {quoteB64 : Str} {rejectDebug : Bool}
    {v : SgxVerifyReport} (h : verifySgxDcapQuote X D runtime now quoteB64 rejectDebug = .ok v) :
    ∃ quote collateral report r, X.base64.standard (trim quoteB64) = .ok quote ∧
      D.verify quote collateral now = .ok report ∧ report.report = .sgxEnclave r ∧
      v.mrenclaveHex = X.hex.encode r.mrEnclave ∧ v.reportDataHex = X.hex.encode r.reportData := by
  simp only [verifySgxDcapQuote, decodeQuote, bind_eq_ok, quoteErr, mapErr_eq_ok] at h
  obtain ⟨quote, hquote, _, -, collateral, -, h⟩ := h
  obtain ⟨report, r, hverify, hr, hfields⟩ := verifyQuoteWithCollateral_eq_ok h
  exact ⟨quote, collateral, report, r, hquote, hverify, hr, hfields⟩

end Verify

end TeechatOpenapi.Attest
