import TeechatOpenapi.Cvm.ReportChain

/-!
# The octets whose chain is verified

`verify_report_chain` is given the text of a report.  With a VCEK from the challenge it decodes the text and verifies
the chain of what it decoded.  Without one it goes through `raw_snp_report_b64`, which accepts more encodings and looks
through a JSON wrapper, so that the octets it verifies may be others than those the text encodes.
-/

namespace TeechatOpenapi.Cvm

open Lib Encoding Platform Attest TeechatOpenapi.Core

/-- One call of `verify_report_chain`. -/
structure ChainCall where
  call : CallInputs
  reportB64 : Str
  vcek : Option Bytes

section Calls

variable (X : Crates) (edge : OpeDispatchUpstream)

def verifyCall (s : EdgeState) (c : ChainCall) : EdgeState :=
  (verifyReportChain X edge c.call c.reportB64 c.vcek s).2

/-- The chain of the report was verified in this call. -/
def ChainCall.Verifies (c : ChainCall) : Prop := ∃ v, verifyReport X c.call c.reportB64 c.vcek = .ok v

/-- The call has a VCEK, or its text is standard Base64 of octets that are no wrapper. -/
def ChainCall.Plain (c : ChainCall) : Prop :=
  c.vcek.isSome ∨ ∃ raw, X.base64.standard (trim c.reportB64) = .ok raw ∧ engineWrapper X raw = none

/-- Every verdict in the cache is of one of these calls. -/
def Recorded (calls : List ChainCall) (s : EdgeState) : Prop :=
  ∀ key ∈ s.verifiedReports, ∃ c ∈ calls, reportKey X c.reportB64 = key ∧ c.Verifies X

end Calls

variable {X : Crates} {edge : OpeDispatchUpstream} {calls : List ChainCall} {s s' : EdgeState}

lemma Recorded.fresh (calls : List ChainCall) (floor : FloorFile) : Recorded X calls (.fresh floor) :=
  fun _ hkey => absurd hkey (Finset.notMem_empty _)

lemma Recorded.step {c : ChainCall} (hc : c ∈ calls) (h : Recorded X calls s) :
    Recorded X calls (verifyCall X edge s c) := by
  unfold verifyCall
  rcases verifyReportChain_cases (X := X) edge c.call s c.reportB64 c.vcek with
    ⟨-, hrun⟩ | ⟨-, hrun⟩ | ⟨e, hrun⟩ | ⟨v, hv, hrun⟩
  · rw [hrun]
    exact h
  · rw [hrun]
    exact h
  · rw [hrun]
    exact h
  · rw [hrun]
    intro key hkey
    rcases Finset.mem_insert.mp hkey with rfl | hkey
    · exact ⟨c, hc, rfl, v, hv⟩
    · exact h key hkey

lemma Recorded.run (calls : List ChainCall) (floor : FloorFile) :
    Recorded X calls (runAll (verifyCall X edge) (.fresh floor) calls) :=
  runAll_inv (fun _ _ hc h => h.step hc) (fun _ hc => hc) (.fresh calls floor)

lemma verifyReportChain_key {c : ChainCall} (hon : edge.verifyEngineSnpChain = true)
    (h : verifyReportChain X edge c.call c.reportB64 c.vcek s = (.ok (), s')) :
    reportKey X c.reportB64 ∈ s'.verifiedReports := by
  rcases verifyReportChain_cases (X := X) edge c.call s c.reportB64 c.vcek with
    ⟨hoff, -⟩ | ⟨hmem, hrun⟩ | ⟨e, hrun⟩ | ⟨v, -, hrun⟩
  · exact absurd (hoff.symm.trans hon) Bool.false_ne_true
  · obtain rfl := congrArg Prod.snd (hrun.symm.trans h)
    exact hmem
  · cases congrArg Prod.fst (hrun.symm.trans h)
  · obtain rfl := congrArg Prod.snd (hrun.symm.trans h)
    exact Finset.mem_insert_self _ _

lemma length_checkedReport_le (reportB64 : Str) (vcek : Option Bytes) :
    (checkedReport X reportB64 vcek).length ≤ 1 := by
  have hone : ∀ o : Option Bytes, o.toList.length ≤ 1 := by
    intro o
    cases o with
    | none => exact Nat.zero_le 1
    | some b => exact le_rfl
  unfold checkedReport
  split
  · exact hone _
  · split
    · exact hone _
    · exact Nat.zero_le 1

lemma checkedReport_eq {reportB64 : Str} {vcek : Option Bytes} {raw : Bytes}
    (h : raw ∈ checkedReport X reportB64 vcek) : checkedReport X reportB64 vcek = [raw] := by
  have hlen := length_checkedReport_le (X := X) reportB64 vcek
  rcases hl : checkedReport X reportB64 vcek with _ | ⟨a, _ | ⟨b, l⟩⟩
  · rw [hl] at h
    cases h
  · rw [hl] at h
    rw [List.mem_singleton.mp h]
  · rw [hl, List.length_cons, List.length_cons] at hlen
    omega

lemma ChainCall.Plain.checks (hb : X.base64.Lawful) {c : ChainCall} (hplain : c.Plain X) (hv : c.Verifies X) :
    ∃ raw, X.base64.standard (trim c.reportB64) = .ok raw ∧ checkedReport X c.reportB64 c.vcek = [raw] ∧
      ChainVerified X raw := by
  obtain ⟨v, hv⟩ := hv
  obtain ⟨raw, hraw, hwrap⟩ : ∃ raw, X.base64.standard (trim c.reportB64) = .ok raw ∧
      (c.vcek.isSome ∨ engineWrapper X raw = none) := by
    rcases hplain with hsome | ⟨raw, hraw, hwrap⟩
    · -- with a VCEK the text was decoded before its chain was verified
      obtain ⟨der, hder⟩ := Option.isSome_iff_exists.mp hsome
      rw [hder] at hv
      simp only [verifyReport, verifySnpReportWithCollateral, bind_eq_ok, quoteErr, mapErr_eq_ok] at hv
      obtain ⟨raw, hraw, -⟩ := hv
      exact ⟨raw, hraw, Or.inl hsome⟩
    · exact ⟨raw, hraw, Or.inr hwrap⟩
  have hmem := mem_checkedReport (X := X) hb hraw hwrap
  exact ⟨raw, hraw, checkedReport_eq hmem, chainVerified_of_mem hv hmem⟩

/-- The epoch's hash stands in these octets, in every accepted evidence that names the text. -/
def EvidenceIn (X : Crates) (reportB64 : Str) (raw : Bytes) : Prop :=
  ∀ quote subject nonce verified, verifyEpochEvidence X quote subject nonce = .ok verified →
    verified.reportB64 = reportB64 → ∃ wrapper, parseWrapper X quote = some wrapper ∧
      slice raw snpReportDataOffset reportDataLen = some (wrapper.claims.bind X verified.epoch nonce)

lemma evidenceIn_of_standard {reportB64 : Str} {raw : Bytes} (hraw : X.base64.standard (trim reportB64) = .ok raw) :
    EvidenceIn X reportB64 raw := by
  intro quote subject nonce verified hverified htext
  obtain ⟨wrapper, report, hw, -, -, hrep, -, hreport, hslice⟩ := (verifyEpochEvidence_eq_ok X).mp hverified
  rw [← hrep, htext, hraw] at hreport
  rw [← Except.ok.inj hreport] at hslice
  exact ⟨wrapper, hw, hslice⟩

/-- **The verified octets are the decoded ones.**  On an edge that verifies the chain, after any run of calls that are
plain: an accepted text is standard Base64, a call of the run with that text verified the chain of exactly the octets
it encodes, and accepted evidence with that text has its hash in these octets. -/
theorem verified_bytes_are_decoded (X : Crates) (hb : X.base64.Lawful) (edge : OpeDispatchUpstream)
    (hon : edge.verifyEngineSnpChain = true) (floor : FloorFile) (past : List ChainCall) (c : ChainCall)
    (hinj : Set.InjOn (reportKey X) {t | ∃ q ∈ past ++ [c], q.reportB64 = t})
    (hplain : ∀ q ∈ past ++ [c], q.Plain X) (s' : EdgeState)
    (hok : verifyReportChain X edge c.call c.reportB64 c.vcek (runAll (verifyCall X edge) (.fresh floor) past) =
      (.ok (), s')) :
    ∃ q ∈ past ++ [c], q.reportB64 = c.reportB64 ∧ q.Verifies X ∧
      ∃ raw, X.base64.standard (trim c.reportB64) = .ok raw ∧ checkedReport X q.reportB64 q.vcek = [raw] ∧
        ChainVerified X raw ∧ EvidenceIn X c.reportB64 raw := by
  have hs' : runAll (verifyCall X edge) (.fresh floor) (past ++ [c]) = s' := by
    rw [runAll_append]
    exact congrArg Prod.snd hok
  have hrecorded : Recorded X (past ++ [c]) s' := by
    rw [← hs']
    exact Recorded.run _ floor
  obtain ⟨q, hq, hkey, hverifies⟩ := hrecorded _ (verifyReportChain_key hon hok)
  -- the key of the verdict names one text of the run
  have htext : q.reportB64 = c.reportB64 :=
    hinj ⟨q, hq, rfl⟩ ⟨c, List.mem_append_right _ List.mem_cons_self, rfl⟩ hkey
  obtain ⟨raw, hraw, hchecked, hchain⟩ := (hplain q hq).checks hb hverifies
  rw [htext] at hraw
  exact ⟨q, hq, htext, hverifies, raw, hraw, hchecked, hchain, evidenceIn_of_standard hraw⟩

def Sample.plainCall : ChainCall := ⟨request.call, encodePadded false Platform.Sample.report, none⟩

theorem verified_bytes_are_decoded_fresh :
    ∃ q ∈ [Sample.plainCall], q.reportB64 = Sample.plainCall.reportB64 ∧ q.Verifies Sample.chainTables.crates ∧
      ∃ raw, Base64.rfc4648.standard (trim Sample.plainCall.reportB64) = .ok raw ∧
        checkedReport Sample.chainTables.crates q.reportB64 q.vcek = [raw] ∧
        ChainVerified Sample.chainTables.crates raw ∧
        EvidenceIn Sample.chainTables.crates Sample.plainCall.reportB64 raw := by
  obtain ⟨v, hv⟩ := Sample.verifyReport_request
  refine verified_bytes_are_decoded Sample.chainTables.crates Base64.rfc4648_lawful Sample.chainEdge rfl .missing []
    Sample.plainCall ?_ ?_ _
    (verifyReportChain_of_verified rfl (Finset.notMem_empty _) hv)
  · rintro t ⟨q, hq, rfl⟩ t' ⟨q', hq', rfl⟩ -
    rw [List.mem_singleton.mp hq, List.mem_singleton.mp hq']
  · intro q hq
    rw [List.mem_singleton.mp hq]
    exact Or.inr ⟨_, Platform.Sample.standard_report, Sample.engineWrapper_report⟩

namespace Sample

open Platform.Sample

def wrappedTables : CrateTables := { chainTables with trees := [(legacyBytes, legacyTree)] }

def wrappedText : Str := encodePadded false legacyBytes

lemma standard_wrappedText : wrappedTables.crates.base64.standard (trim wrappedText) = .ok legacyBytes := by
  rw [wrappedText, trim_encodePadded]
  exact Base64.rfc4648_lawful.standard_encode legacyBytes

lemma engineWrapper_legacyBytes : engineWrapper wrappedTables.crates legacyBytes = some legacyTree := by
  have htext : fromUtf8 legacyBytes = .ok (renderText legacyTree) := fromUtf8_utf8 _
  have hvalue : wrappedTables.crates.json.value legacyBytes = .ok legacyTree :=
    CrateTables.value_of_lookup List.lookup_cons_self
  simp only [engineWrapper, htext, hvalue]
  exact if_pos ⟨rfl, rfl⟩

lemma raw_wrappedText : rawSnpReportB64 wrappedTables.crates wrappedText = .ok (encodePadded false report) :=
  rawSnpReportB64_wrapper standard_wrappedText engineWrapper_legacyBytes rfl standard_report

lemma legacyBytes_ne_report : legacyBytes ≠ report := by
  intro h
  have hhead : some (0x7b : UInt8) = some 0x02 := congrArg List.head? h
  exact absurd hhead (by decide)

lemma parse_wrapped : wrappedTables.crates.sev.reportFromBytes report = .ok parsedReport :=
  CrateTables.report_of_lookup List.lookup_cons_self

lemma verifyReport_wrappedText : ∃ v, verifyReport wrappedTables.crates request.call wrappedText none = .ok v := by
  have hchain : verifyChain wrappedTables.crates report vcekDer true = .ok parsedReport :=
    verifyChain_of_verify parse_wrapped rfl rfl rfl (CrateTables.verify_of_mem List.mem_cons_self)
  obtain ⟨v, hv, -⟩ := verifySnpReport_of_chain Base64.rfc4648_lawful request.call.httpGet raw_wrappedText parse_wrapped
    rfl rfl hchain slice_report
  exact ⟨v, hv⟩

lemma not_chainVerified_legacyBytes : ¬ ChainVerified wrappedTables.crates legacyBytes := by
  rintro ⟨der, parsed, hchain⟩
  have hlookup : List.lookup legacyBytes [(report, parsedReport)] = some parsed :=
    okOr_eq_ok.mp (verifyChain_parsed hchain)
  obtain ⟨before, after, hsplit, -⟩ := List.lookup_eq_some_iff.mp hlookup
  have hmem : (legacyBytes, parsed) ∈ [(report, parsedReport)] := by
    rw [hsplit]
    exact List.mem_append_right before List.mem_cons_self
  exact legacyBytes_ne_report (congrArg Prod.fst (List.mem_singleton.mp hmem))

end Sample

/-- **A wrapper hides the report.**  Without a VCEK the text of a wrapper is accepted: the chain that was verified is
that of the report inside, and not of the octets that the text encodes, which pass no chain. -/
theorem wrapper_hides_report :
    Sample.chainEdge.verifyEngineSnpChain = true ∧
      (verifyReportChain Sample.wrappedTables.crates Sample.chainEdge Sample.request.call Sample.wrappedText none
        (.fresh .missing)).1 = .ok () ∧
      Sample.wrappedTables.crates.base64.standard (trim Sample.wrappedText) = .ok Sample.legacyBytes ∧
      checkedReport Sample.wrappedTables.crates Sample.wrappedText none = [Platform.Sample.report] ∧
      Sample.legacyBytes ≠ Platform.Sample.report ∧ ¬ ChainVerified Sample.wrappedTables.crates Sample.legacyBytes := by
  obtain ⟨v, hv⟩ := Sample.verifyReport_wrappedText
  refine ⟨rfl, ?_, Sample.standard_wrappedText, ?_, Sample.legacyBytes_ne_report,
    Sample.not_chainVerified_legacyBytes⟩
  · rw [verifyReportChain_of_verified rfl (Finset.notMem_empty _) hv]
  · rw [checkedReport, Sample.raw_wrappedText]
    change (toOption (Base64.rfc4648.standard (trim (encodePadded false Platform.Sample.report)))).toList = _
    rw [Platform.Sample.standard_report]
    rfl

end TeechatOpenapi.Cvm
