import TeechatOpenapi.Platform.EpochEvidence

/-!
# Composed launch digest (`openapi-platform/src/launch_digest.rs`)

The digest of an engine image, recomputed from the MEASUREMENT field of the report in a quote.  This module reads
the wrapper with a struct of its own (`QuoteWrapperHead`); `read_reportB64` says that it sees the report
that the evidence check sees.
-/

namespace TeechatOpenapi.Platform

open Lib

def measurementOffset : Nat := 0x90

def measurementLen : Nat := 48

/-- What this module reads of a wrapper. -/
structure QuoteWrapperHead where
  v : Nat
  kind : Str
  reportB64 : Str

def QuoteWrapperHead.read (j : Json) : Option QuoteWrapperHead := do
  return {
    v := ← Json.required (Json.asUnsigned? 255) (j.slot 3 0 "v")
    kind := ← Json.required Json.asStr? (j.slot 3 1 "kind")
    reportB64 := ← Json.defaulted [] Json.asStr? (j.slot 3 2 "report_b64") }

section Digest

variable (X : Crates)

def snpReportFromQuote (quote : Str) : Option Bytes := do
  let raw ← decodeTrimmedBase64url X quote
  let j ← toOption (X.json.tree raw)
  let head ← QuoteWrapperHead.read j
  if head.v ≠ 2 ∨ head.kind ≠ ("sev-snp" : Str) ∨ head.reportB64 = [] then none
  else toOption (X.base64.standard (trim head.reportB64))

def measurementFromSnpReport (report : Bytes) : Option Bytes := slice report measurementOffset measurementLen

def composeLaunchDigest (rawMeasurementHex : Str) : Str :=
  X.hex.encode (X.sha2.sha256 (utf8 (toAsciiLowercase (trim rawMeasurementHex))))

def launchDigestFromSnpQuote (quote : Str) : Option Str := do
  let report ← snpReportFromQuote X quote
  let measurement ← measurementFromSnpReport report
  return composeLaunchDigest X (X.hex.encode measurement)

/-- The two structs read the same `report_b64` from a tree that both accept.  An array is none: the head allows at
most three elements, the wrapper needs a fifth. -/
lemma QuoteWrapperHead.read_reportB64 {j : Json} {head : QuoteWrapperHead} {wrapper : QuoteWrapper}
    (hh : QuoteWrapperHead.read j = some head) (hw : QuoteWrapper.read j = some wrapper) :
    head.reportB64 = wrapper.reportB64 := by
  simp only [QuoteWrapperHead.read, Option.bind_eq_bind, Option.bind_eq_some_iff, Option.pure_def,
    Option.some.injEq] at hh
  simp only [QuoteWrapper.read, Option.bind_eq_bind, Option.bind_eq_some_iff, Option.pure_def,
    Option.some.injEq] at hw
  obtain ⟨_, hv, _, -, r, hr, rfl⟩ := hh
  obtain ⟨_, -, _, -, r', hr', _, -, _, hc, rfl⟩ := hw
  cases j with
  | object ms => exact Option.some.inj (hr.symm.trans hr')
  | array xs =>
    exfalso
    have hlen : xs.length ≤ 3 := by
      by_contra hlt
      simp [Json.slot, hlt, Json.required] at hv
    have hnone : xs[4]? = none := List.getElem?_eq_none (by omega)
    simp [Json.slot, hnone, Json.required] at hc
  | _ => simp [Json.slot, Json.required] at hv

/-- The report that the digest is taken from is the one in the wrapper that the evidence check parses. -/
lemma snpReportFromQuote_parseWrapper {quote : Str} {report : Bytes} {wrapper : QuoteWrapper}
    (hr : snpReportFromQuote X quote = some report) (hw : parseWrapper X quote = some wrapper) :
    X.base64.standard (trim wrapper.reportB64) = .ok report := by
  simp only [snpReportFromQuote, Option.bind_eq_bind, Option.bind_eq_some_iff] at hr
  simp only [parseWrapper, Option.bind_eq_bind, Option.bind_eq_some_iff] at hw
  obtain ⟨raw, hraw, j, hj, head, hhead, hr⟩ := hr
  obtain ⟨raw', hraw', j', hj', w, hwr, hw⟩ := hw
  obtain rfl : raw = raw' := Option.some.inj (hraw.symm.trans hraw')
  obtain rfl : j = j' := Option.some.inj (hj.symm.trans hj')
  split_ifs at hr hw
  obtain rfl := Option.some.inj hw
  rw [← QuoteWrapperHead.read_reportB64 hhead hwr]
  exact toOption_eq_some.mp hr

lemma launchDigestFromSnpQuote_eq_some {quote digest : Str} :
    launchDigestFromSnpQuote X quote = some digest ↔
      ∃ report measurement, snpReportFromQuote X quote = some report ∧
        measurementFromSnpReport report = some measurement ∧
        digest = composeLaunchDigest X (X.hex.encode measurement) := by
  simp only [launchDigestFromSnpQuote, Option.bind_eq_bind, Option.bind_eq_some_iff, Option.pure_def,
    Option.some.injEq]
  constructor
  · rintro ⟨report, hr, m, hm, rfl⟩
    exact ⟨report, m, hr, hm, rfl⟩
  · rintro ⟨report, m, hr, hm, rfl⟩
    exact ⟨report, hr, m, hm, rfl⟩

lemma snpReportFromQuote_quoteOf (hb : X.base64.Lawful) {j : Json} {head : QuoteWrapperHead} {report : Bytes}
    (hj : X.json.tree (utf8 (X.json.structText j)) = .ok j) (hh : QuoteWrapperHead.read j = some head)
    (hv : head.v = 2) (hk : head.kind = ("sev-snp" : Str)) (hne : head.reportB64 ≠ [])
    (hr : X.base64.standard (trim head.reportB64) = .ok report) :
    snpReportFromQuote X (quoteOf X j) = some report := by
  simp only [snpReportFromQuote, quoteOf, decodeTrimmedBase64url_encode X hb, hj, toOption, hh, hv, hk, hne, hr,
    Option.bind_eq_bind, Option.bind_some, ne_eq, not_true_eq_false, or_self, if_false]

end Digest

end TeechatOpenapi.Platform
