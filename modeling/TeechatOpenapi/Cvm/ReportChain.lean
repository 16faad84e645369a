import TeechatOpenapi.Cvm.Preassign
import TeechatOpenapi.Lib.Runs

/-!
# The launch digest pin and the AMD chain, over runs

`verifyPreassign` pins the launch digest of the report in the relayed quote, and verifies the AMD chain of the report
that the recipient check returns; a verdict is cached by the hash of the report's text.  This module follows a whole
run of preassignments.
-/

namespace TeechatOpenapi.Cvm

open Lib Encoding Platform Attest TeechatOpenapi.Core

/-! ## Runs -/

/-- One preassignment: what the relay handed over, for whom, and what the host and the relay do in the call. -/
structure Request where
  call : CallInputs
  pre : PreassignResponse
  engine : InventoryEngine
  ctx : UpstreamRequestContext

section Steps

variable (X : Crates) (edge : OpeDispatchUpstream)

def handle (s : EdgeState) (r : Request) : EdgeState :=
  (verifyPreassign X edge r.call r.pre r.engine r.ctx s).2

/-- The report text of a request's quote. -/
def Request.ReportText (r : Request) (reportB64 : Str) : Prop :=
  ∃ q wrapper, r.pre.trust.cpuQuote = some q ∧ parseWrapper X q = some wrapper ∧ reportB64 = wrapper.reportB64

def reportTexts (run : List Request) : Set Str := {t | ∃ r ∈ run, r.ReportText X t}

/-- What a call does to the verdicts: nothing, or it adds one for a report that it verified. -/
inductive ChainStep (r : Request) (s s' : EdgeState) : Prop where
  | same (hcache : s'.verifiedReports = s.verifiedReports) (hpassed : s'.chainPassed = s.chainPassed)
  | verified {reportB64 : Str} {vcek : Option Bytes} {v : SnpVerifyReport} (htext : r.ReportText X reportB64)
      (hvcek : challengeVcek X edge r.call r.pre.trust = .ok vcek)
      (hverify : verifyReport X r.call reportB64 vcek = .ok v)
      (hcache : s'.verifiedReports = insert (reportKey X reportB64) s.verifiedReports)
      (hpassed : s'.chainPassed = checkedReport X reportB64 vcek ++ s.chainPassed)

end Steps

variable {X : Crates} {edge : OpeDispatchUpstream} {r : Request} {s s' : EdgeState}

/-! ## One call -/

/-- The part of the state that verdicts live in. -/
def EdgeState.verdicts (s : EdgeState) : Finset Str × List Bytes := (s.verifiedReports, s.chainPassed)

lemma checkAssignment_fixes (edge : OpeDispatchUpstream) (call : CallInputs) (pre : PreassignResponse)
    (engine : InventoryEngine) (ctx : UpstreamRequestContext) :
    Op.Fixes EdgeState.verdicts (checkAssignment edge call pre engine ctx) := by
  refine Op.Fixes.lift_bind fun _ => ?_
  -- the observation of the host's time writes the floor file only
  refine Op.Fixes.bind (fun _ => rfl) fun nowMs => ?_
  refine Op.Fixes.lift_bind fun _ => ?_
  exact Op.Fixes.pure _ nowMs

lemma ChainStep.of_verdicts (h : s'.verdicts = s.verdicts) : ChainStep X edge r s s' :=
  .same (congrArg Prod.fst h) (congrArg Prod.snd h)

/-- The report that an accepted recipient comes with is the one in its quote. -/
lemma AcceptedBy.reportText {accepted : AcceptedRecipient} {nowMs : Nat} {reportB64 : Str}
    (hby : AcceptedBy X edge.recipientPolicy r.pre.trust.ephemeral r.pre.trust.cpuQuote none nowMs accepted)
    (hreport : accepted.reportB64 = some reportB64) : r.ReportText X reportB64 := by
  cases hby with
  | identity => cases hreport
  | @evidence q verified digest hq hv =>
    obtain ⟨wrapper, _, hw, -, -, hrep, -⟩ := (verifyEpochEvidence_eq_ok X).mp hv
    obtain rfl := Option.some.inj hreport
    exact ⟨q, wrapper, hq, hw, hrep⟩

lemma verifyReportChain_of_cached {call : CallInputs} {reportB64 : Str} {vcek : Option Bytes}
    (h : reportKey X reportB64 ∈ s.verifiedReports) :
    verifyReportChain X edge call reportB64 vcek s = (.ok (), s) := by
  unfold verifyReportChain
  split_ifs with hoff
  · rfl
  · simp only [Op.bind_run, Op.get_run, if_pos h]
    rfl

lemma verifyReportChain_of_verified {call : CallInputs} {reportB64 : Str} {vcek : Option Bytes}
    {v : SnpVerifyReport} (hon : edge.verifyEngineSnpChain = true) (h : reportKey X reportB64 ∉ s.verifiedReports)
    (hv : verifyReport X call reportB64 vcek = .ok v) : verifyReportChain X edge call reportB64 vcek s =
      (.ok (), { s with
        verifiedReports := insert (reportKey X reportB64) s.verifiedReports
        chainPassed := checkedReport X reportB64 vcek ++ s.chainPassed }) := by
  simp only [verifyReportChain, hon, Bool.true_eq_false, if_false, Op.bind_run, Op.get_run, if_neg h, Op.lift_run, hv,
    mapErr, Op.modify_run]

lemma verifyReportChain_cases (edge : OpeDispatchUpstream) (call : CallInputs) (s : EdgeState) (reportB64 : Str)
    (vcek : Option Bytes) :
    (edge.verifyEngineSnpChain = false ∧ verifyReportChain X edge call reportB64 vcek s = (.ok (), s)) ∨
    (reportKey X reportB64 ∈ s.verifiedReports ∧ verifyReportChain X edge call reportB64 vcek s = (.ok (), s)) ∨
    (∃ e, verifyReportChain X edge call reportB64 vcek s = (.error e, s)) ∨
    ∃ v, verifyReport X call reportB64 vcek = .ok v ∧ verifyReportChain X edge call reportB64 vcek s =
      (.ok (), { s with
        verifiedReports := insert (reportKey X reportB64) s.verifiedReports
        chainPassed := checkedReport X reportB64 vcek ++ s.chainPassed }) := by
  rcases hon : edge.verifyEngineSnpChain with _ | _
  · exact .inl ⟨rfl, by rw [verifyReportChain, if_pos hon]; rfl⟩
  refine .inr ?_
  by_cases hcached : reportKey X reportB64 ∈ s.verifiedReports
  · exact .inl ⟨hcached, verifyReportChain_of_cached hcached⟩
  refine .inr ?_
  rcases hv : verifyReport X call reportB64 vcek with e | v
  · refine .inl ⟨chainRefused e, ?_⟩
    simp only [verifyReportChain, hon, Bool.true_eq_false, if_false, Op.bind_run, Op.get_run, if_neg hcached,
      Op.lift_run, hv, mapErr]
  · exact .inr ⟨v, rfl, verifyReportChain_of_verified hon hcached hv⟩

lemma handle_step (s : EdgeState) (r : Request) : ChainStep X edge r s (handle X edge s r) := by
  have hfix := checkAssignment_fixes edge r.call r.pre r.engine r.ctx s
  simp only [handle, verifyPreassign, Op.bind_run]
  rcases hcheck : checkAssignment edge r.call r.pre r.engine r.ctx s with ⟨e | nowMs, s₁⟩
  · rw [hcheck] at hfix
    exact .of_verdicts hfix
  rw [hcheck] at hfix
  simp only [Op.lift_run]
  rcases hvcek : challengeVcek X edge r.call r.pre.trust with e | vcek
  · exact .of_verdicts hfix
  simp only [acceptRecipient, Op.bind_run, Op.get_run, Op.lift_run]
  rcases hacc : acceptEngineRecipient X edge.host s₁.floor edge.recipientPolicy r.pre.trust.ephemeral
    r.pre.trust.cpuQuote none nowMs with e | accepted
  · exact .of_verdicts hfix
  simp only [mapErr]
  rcases hreport : accepted.reportB64 with _ | reportB64
  · exact .of_verdicts hfix
  have htext := AcceptedBy.reportText (acceptEngineRecipient_ok hacc).2.2 hreport
  rcases verifyReportChain_cases (X := X) edge r.call s₁ reportB64 vcek with
    ⟨-, h⟩ | ⟨-, h⟩ | ⟨e, h⟩ | ⟨v, hv, h⟩
  · simp only [h]
    exact .of_verdicts hfix
  · simp only [h]
    exact .of_verdicts hfix
  · simp only [h]
    exact .of_verdicts hfix
  · simp only [h]
    have hcache : s₁.verifiedReports = s.verifiedReports := congrArg Prod.fst hfix
    have hpassed : s₁.chainPassed = s.chainPassed := congrArg Prod.snd hfix
    exact .verified htext hvcek hv (by rw [hcache]) (by rw [hpassed])

/-- A call that succeeds with the chain switched on leaves a verdict for the report that it accepted. -/
lemma verifyPreassign_ok_key (hon : edge.verifyEngineSnpChain = true)
    (h : verifyPreassign X edge r.call r.pre r.engine r.ctx s = (.ok (), s')) :
    ∃ nowMs floor accepted, acceptEngineRecipient X edge.host floor edge.recipientPolicy r.pre.trust.ephemeral
        r.pre.trust.cpuQuote none nowMs = .ok accepted ∧
      ∀ reportB64, accepted.reportB64 = some reportB64 → reportKey X reportB64 ∈ s'.verifiedReports := by
  obtain ⟨nowMs, s₁, vcek, -, -, hacc⟩ := verifyPreassign_eq_ok.mp h
  simp only [acceptRecipient, Op.bind_eq_ok, Op.get_run, Op.lift_run, Prod.mk.injEq, mapErr_eq_ok] at hacc
  obtain ⟨_, _, ⟨hget, rfl⟩, accepted, _, ⟨hok, rfl⟩, hchain⟩ := hacc
  obtain rfl := Except.ok.inj hget
  refine ⟨nowMs, _, accepted, hok, fun reportB64 hreport => ?_⟩
  rw [hreport] at hchain
  dsimp only at hchain
  rcases verifyReportChain_cases (X := X) edge r.call _ reportB64 vcek with ⟨hoff, -⟩ | ⟨hmem, h⟩ | ⟨e, h⟩ | ⟨v, -, h⟩
  · exact absurd (hoff.symm.trans hon) Bool.false_ne_true
  · obtain rfl := congrArg Prod.snd (h.symm.trans hchain)
    exact hmem
  · cases congrArg Prod.fst (h.symm.trans hchain)
  · obtain rfl := congrArg Prod.snd (h.symm.trans hchain)
    exact Finset.mem_insert_self _ _

/-! ## The octets behind a verdict -/

lemma mem_checkedReport (hb : X.base64.Lawful) {reportB64 : Str} {raw : Bytes} {vcek : Option Bytes}
    (hraw : X.base64.standard (trim reportB64) = .ok raw)
    (hplain : vcek.isSome ∨ engineWrapper X raw = none) : raw ∈ checkedReport X reportB64 vcek := by
  rcases vcek with _ | der
  · obtain hwrap : engineWrapper X raw = none := hplain.resolve_left Bool.false_ne_true
    simp only [checkedReport, rawSnpReportB64_plain hraw hwrap, hb.trim_encodeStandard, hb.standard_encode, toOption,
      Option.toList_some, List.mem_singleton]
  · simp only [checkedReport, hraw, toOption, Option.toList_some, List.mem_singleton]

lemma chainVerified_of_mem {call : CallInputs} {reportB64 : Str} {raw : Bytes} {vcek : Option Bytes}
    {v : SnpVerifyReport} (hv : verifyReport X call reportB64 vcek = .ok v)
    (hmem : raw ∈ checkedReport X reportB64 vcek) : ChainVerified X raw := by
  rcases vcek with _ | der
  · rcases hb64 : rawSnpReportB64 X reportB64 with e | b64
    · simp [checkedReport, hb64] at hmem
    · simp only [checkedReport, hb64, Option.mem_toList, toOption_eq_some] at hmem
      exact verifySnpReport_ok hb64 hmem hv
  · simp only [checkedReport, Option.mem_toList, toOption_eq_some] at hmem
    exact verifySnpReportWithCollateral_ok hmem hv

/-! ## Runs -/

/-- The cache of verdicts is about reports that passed: a cached text among `texts` decodes to such a report, and a
report that passed is under an AMD chain. -/
structure CacheSound (X : Crates) (texts : Set Str) (s : EdgeState) : Prop where
  cached : ∀ t ∈ texts, reportKey X t ∈ s.verifiedReports →
    ∀ raw, X.base64.standard (trim t) = .ok raw → raw ∈ s.chainPassed
  passed : ∀ raw ∈ s.chainPassed, ChainVerified X raw

lemma CacheSound.fresh (texts : Set Str) (floor : FloorFile) : CacheSound X texts (.fresh floor) where
  cached _ _ hkey := absurd hkey (Finset.notMem_empty _)
  passed _ hraw := absurd hraw List.not_mem_nil

/-- The chain is checked over the report itself: the challenge carried a VCEK, or the report is no wrapper. -/
def Request.PlainReport (X : Crates) (edge : OpeDispatchUpstream) (r : Request) : Prop :=
  (∃ der, challengeVcek X edge r.call r.pre.trust = .ok (some der)) ∨
    ∀ t raw, r.ReportText X t → X.base64.standard (trim t) = .ok raw → engineWrapper X raw = none

/-- No recipient of the request is accepted on its identity alone: the policy refuses that, or the quote carries an
epoch block. -/
def Request.EvidenceOnly (X : Crates) (edge : OpeDispatchUpstream) (r : Request) : Prop :=
  edge.recipientPolicy.requireEpochEvidence = true ∨ edge.recipientPolicy.stage5IdentityDeleted = true ∨
    ∃ q, r.pre.trust.cpuQuote = some q ∧ quoteHasEpochEvidence X q = true

lemma CacheSound.step (hb : X.base64.Lawful) {texts : Set Str} (hinj : Set.InjOn (reportKey X) texts)
    (htexts : ∀ t, r.ReportText X t → t ∈ texts) (hplain : r.PlainReport X edge) (h : CacheSound X texts s)
    (hstep : ChainStep X edge r s s') : CacheSound X texts s' := by
  cases hstep with
  | same hcache hpassed =>
    refine ⟨fun t ht hkey raw hraw => ?_, ?_⟩
    · rw [hpassed]
      exact h.cached t ht (hcache ▸ hkey) raw hraw
    · rw [hpassed]
      exact h.passed
  | @verified reportB64 vcek v htext hvcek hverify hcache hpassed =>
    refine ⟨fun t ht hkey raw hraw => ?_, fun raw hraw => ?_⟩
    · rw [hpassed, List.mem_append]
      rw [hcache, Finset.mem_insert] at hkey
      rcases hkey with hkey | hkey
      · -- the new verdict: its key names no other text of the run
        obtain rfl : t = reportB64 := hinj ht (htexts _ htext) hkey
        refine .inl (mem_checkedReport hb hraw ?_)
        rcases hplain with ⟨der, hder⟩ | hwrap
        · obtain rfl := Except.ok.inj (hvcek.symm.trans hder)
          exact .inl rfl
        · exact .inr (hwrap t raw htext hraw)
      · exact .inr (h.cached t ht hkey raw hraw)
    · rw [hpassed, List.mem_append] at hraw
      rcases hraw with hraw | hraw
      · exact chainVerified_of_mem hverify hraw
      · exact h.passed raw hraw

/-- **The pin and the chain.**  On an edge that verifies the chain and requires the launch digest, in every run whose
requests cannot be accepted on an identity alone and whose chain is checked over the report itself: when a
preassignment is accepted, the report whose measurement was pinned has passed the chain check, in this call or in an
earlier one. -/
theorem pinned_report_chain_verified (X : Crates) (hb : X.base64.Lawful) (edge : OpeDispatchUpstream)
    (hon : edge.verifyEngineSnpChain = true) (hdigest : edge.recipientPolicy.requireLaunchDigest = true)
    (floor : FloorFile) (past : List Request) (r : Request)
    (hinj : Set.InjOn (reportKey X) (reportTexts X (past ++ [r])))
    (hplain : ∀ q ∈ past ++ [r], q.PlainReport X edge) (hroute : r.EvidenceOnly X edge) (s' : EdgeState)
    (hok : verifyPreassign X edge r.call r.pre r.engine r.ctx (runAll (handle X edge) (.fresh floor) past) =
      (.ok (), s')) :
    ∃ q raw, r.pre.trust.cpuQuote = some q ∧ snpReportFromQuote X q = some raw ∧
      ReportMeasures X raw edge.recipientPolicy.launchDigestAllowlist ∧ raw ∈ s'.chainPassed ∧
      ChainVerified X raw := by
  -- the cache is sound after the whole run
  have hs' : runAll (handle X edge) (.fresh floor) (past ++ [r]) = s' := by
    rw [runAll_append]
    exact congrArg Prod.snd hok
  have hsound : CacheSound X (reportTexts X (past ++ [r])) s' := by
    rw [← hs']
    refine runAll_inv (P := fun q => q ∈ past ++ [r]) (fun s q hq h => ?_) (fun q hq => hq) (.fresh _ floor)
    exact h.step hb hinj (fun t ht => ⟨q, hq, ht⟩) (hplain q hq) (handle_step s q)
  obtain ⟨nowMs, fl, accepted, hacc, hkey⟩ := verifyPreassign_ok_key hon hok
  obtain ⟨-, hdig, hby⟩ := acceptEngineRecipient_ok hacc
  obtain ⟨q, d, hq, hd, -, hmem⟩ := checkLaunchDigest_ok hdigest hdig
  obtain ⟨raw, m, hraw, hm, rfl⟩ := (launchDigestFromSnpQuote_eq_some X).mp hd
  have hpassed : raw ∈ s'.chainPassed := by
    cases hby with
    | @evidence q' verified digest hq' hv =>
      obtain ⟨wrapper, -, hw, -, -, hrep, -⟩ := (verifyEpochEvidence_eq_ok X).mp hv
      obtain rfl : q = q' := Option.some.inj (hq.symm.trans hq')
      have htext : wrapper.reportB64 ∈ reportTexts X (past ++ [r]) :=
        ⟨r, List.mem_append_right _ List.mem_cons_self, q, wrapper, hq, hw, rfl⟩
      exact hsound.cached _ htext (hkey _ (congrArg some hrep)) raw (snpReportFromQuote_parseWrapper X hraw hw)
    | identity hquote hpolicy hv =>
      -- the route without a report is closed
      exfalso
      rcases hroute with he | he | ⟨q', hq', he⟩
      · exact Bool.false_ne_true (hpolicy.1.symm.trans he)
      · exact Bool.false_ne_true (hpolicy.2.symm.trans he)
      · exact Bool.false_ne_true ((verifyEpochEvidence_absent X (hquote q' hq')).symm.trans he)
  exact ⟨q, raw, hq, hraw, ⟨m, hm, hmem⟩, hpassed, hsound.passed raw hpassed⟩

/-! ## A run, and an identity without a verified report -/

namespace Sample

open Platform.Sample

def quietHost : Host :=
  { host with env := fun name => if name = ("OPENAPI_OPE_REQUIRE_ENGINE_CHALLENGE" : Str) then some "0" else none }

def chainEdge : OpeDispatchUpstream := ⟨policy, true, quietHost⟩

def parsedReport : AttestationReport := .sample measurement bound

def vcekDer : Bytes := [0x30, 0x00]

def chainTables : CrateTables :=
  { tables with reports := [(report, parsedReport)], chains := [(vcekDer, parsedReport)] }

def request : Request := ⟨{ call with httpGet := fun _ => .ok vcekDer }, pre, engine, ctx⟩

def afterFirst : EdgeState where
  verifiedReports := {reportKey chainTables.crates (encodePadded false report)}
  floor := .missing
  chainPassed := [report]

lemma engineWrapper_report : engineWrapper chainTables.crates report = none := by
  have hbad : toOption (fromUtf8 report) = none := by decide
  rcases hu : fromUtf8 report with e | text
  · simp only [engineWrapper, hu]
  · rw [hu] at hbad
    cases hbad

lemma accept_request : acceptEngineRecipient chainTables.crates chainEdge.host .missing chainEdge.recipientPolicy
    request.pre.trust.ephemeral request.pre.trust.cpuQuote none 1785542400000 =
      .ok ⟨.epochEvidence, some epoch, some (encodePadded false report), some launchDigest⟩ := by
  have hwin : checkWindow quietHost .missing trust 1785542400000 policy.epochClockSkewMs = .ok () := by decide
  rw [show request.pre.trust.cpuQuote = some quote from cpuQuote_pre]
  exact accept_quote (t := chainTables) hwin List.lookup_cons_self List.lookup_cons_self List.lookup_cons_self

lemma parse_report : chainTables.crates.sev.reportFromBytes report = .ok parsedReport :=
  CrateTables.report_of_lookup List.lookup_cons_self

lemma chain_report : verifyChain chainTables.crates report vcekDer true = .ok parsedReport :=
  verifyChain_of_verify parse_report rfl rfl rfl (CrateTables.verify_of_mem List.mem_cons_self)

lemma verifyReport_request :
    ∃ v, verifyReport chainTables.crates request.call (encodePadded false report) none = .ok v := by
  have hb64 : rawSnpReportB64 chainTables.crates (encodePadded false report) = .ok (encodePadded false report) :=
    rawSnpReportB64_plain standard_report engineWrapper_report
  obtain ⟨v, hv, -⟩ := verifySnpReport_of_chain Base64.rfc4648_lawful request.call.httpGet hb64 parse_report rfl rfl
    chain_report slice_report
  exact ⟨v, hv⟩

lemma check_request (s : EdgeState) :
    checkAssignment chainEdge request.call request.pre request.engine request.ctx s = (.ok 1785542400000, s) :=
  checkAssignment_of_unsealed (by decide) (by decide) (by decide)

lemma vcek_quiet (X : Crates) (edge : OpeDispatchUpstream) (hhost : edge.host = quietHost) (call : CallInputs)
    (trust : PreassignTrust) : challengeVcek X edge call trust = .ok none := by
  have hoff : requireEngineChallengeFromEnv quietHost = false := by decide
  simp only [challengeVcek, hhost, hoff, Bool.false_eq_true, if_false]

lemma text_request {t : Str} (ht : request.ReportText chainTables.crates t) : t = encodePadded false report := by
  obtain ⟨q, wrapper, hq, hw, rfl⟩ := ht
  obtain rfl := Option.some.inj (cpuQuote_pre.symm.trans hq)
  have hw' := parseWrapper_quoteOf chainTables.crates Base64.rfc4648_lawful
    (tree_wrapper (t := chainTables) List.lookup_cons_self) rfl rfl rfl
  obtain rfl := Option.some.inj (hw'.symm.trans hw)
  rfl

lemma checked_request : checkedReport chainTables.crates (encodePadded false report) none = [report] := by
  have hb64 := rawSnpReportB64_plain (X := chainTables.crates) standard_report engineWrapper_report
  rw [checkedReport, hb64]
  change (toOption (Base64.rfc4648.standard (trim (encodePadded false report)))).toList = [report]
  rw [standard_report]
  rfl

lemma accept_step (s : EdgeState) (hfloor : s.floor = .missing) :
    acceptRecipient chainTables.crates chainEdge request.call request.pre 1785542400000 none s =
      verifyReportChain chainTables.crates chainEdge request.call (encodePadded false report) none s := by
  have hacc := accept_request
  rw [← hfloor] at hacc
  exact acceptRecipient_of_report hacc rfl

lemma first_request :
    verifyPreassign chainTables.crates chainEdge request.call request.pre request.engine request.ctx
      (.fresh .missing) = (.ok (), afterFirst) := by
  obtain ⟨v, hv⟩ := verifyReport_request
  refine verifyPreassign_eq_ok.mpr ⟨_, _, none, check_request _, vcek_quiet _ _ rfl _ _, ?_⟩
  rw [accept_step _ rfl, verifyReportChain_of_verified rfl (Finset.notMem_empty _) hv, checked_request]
  rfl

lemma run_request : runAll (handle chainTables.crates chainEdge) (.fresh .missing) [request] = afterFirst := by
  rw [runAll_singleton, handle, first_request]

lemma second_request :
    verifyPreassign chainTables.crates chainEdge request.call request.pre request.engine request.ctx afterFirst =
      (.ok (), afterFirst) := by
  refine verifyPreassign_eq_ok.mpr ⟨_, _, none, check_request _, vcek_quiet _ _ rfl _ _, ?_⟩
  rw [accept_step _ rfl]
  exact verifyReportChain_of_cached (Finset.mem_singleton_self _)

/-! The legacy route: a quote without an epoch block, around the same report. -/

def legacyTree : Json := .object [("v", .number (.posInt 2)), ("kind", .string "sev-snp"),
  ("report_b64", .string (encodePadded false report)), ("claims", .object [])]

def legacyBytes : Bytes := utf8 (renderText legacyTree)

def legacyQuote : Str := encodeRaw true legacyBytes

def legacyTables : CrateTables where
  sha256 := tables.sha256
  reports := [(report, parsedReport)]
  trees := [(legacyBytes, legacyTree)]
  signatures := [(identityKey, ephemeralSigningBytes trust, identitySignature)]

def legacyEdge : OpeDispatchUpstream where
  recipientPolicy :=
    { identityPins := ⟨[("e1", encodeRaw true identityKey)], List.pairwise_singleton _ _⟩
      launchDigestAllowlist := {launchDigest}
      requireEpochEvidence := false
      stage5IdentityDeleted := false
      requireLaunchDigest := true
      epochClockSkewMs := 300000 }
  verifyEngineSnpChain := true
  host := quietHost

def legacyPre : PreassignResponse :=
  { pre with trust := { pre.trust with attestation := some (some ⟨"sev-snp", legacyQuote⟩) } }

lemma cpuQuote_legacyPre : legacyPre.trust.cpuQuote = some legacyQuote :=
  cpuQuote_of_encode legacyBytes (by decide) rfl

lemma tree_legacy : legacyTables.crates.json.tree (utf8 (legacyTables.crates.json.structText legacyTree)) =
    .ok legacyTree := CrateTables.tree_of_lookup List.lookup_cons_self

lemma report_legacyQuote : snpReportFromQuote legacyTables.crates legacyQuote = some report := by
  have hr := snpReportFromQuote_quoteOf legacyTables.crates Base64.rfc4648_lawful tree_legacy rfl rfl rfl
    (by decide) standard_report
  exact hr

lemma digest_legacyQuote : launchDigestFromSnpQuote legacyTables.crates legacyQuote = some launchDigest :=
  (launchDigestFromSnpQuote_eq_some legacyTables.crates).mpr ⟨report, measurement, report_legacyQuote,
    measurement_report, (compose_measurement List.lookup_cons_self).symm⟩

lemma accept_legacyPre : acceptEngineRecipient legacyTables.crates quietHost .missing legacyEdge.recipientPolicy
    legacyPre.trust.ephemeral legacyPre.trust.cpuQuote none 1785542400000 =
      .ok ⟨.identitySignature, none, none, some launchDigest⟩ := by
  have hw := parseWrapper_quoteOf legacyTables.crates Base64.rfc4648_lawful tree_legacy rfl rfl rfl
  have hmem : launchDigest ∈ legacyEdge.recipientPolicy.launchDigestAllowlist := Finset.mem_singleton_self _
  have hwin : checkWindow quietHost .missing legacyPre.trust.ephemeral 1785542400000
      legacyEdge.recipientPolicy.epochClockSkewMs = .ok () := by decide
  have hid : verifyEphemeralEngineTrust legacyTables.crates legacyEdge.recipientPolicy.identityPins
      legacyPre.trust.ephemeral 1785542400000 legacyEdge.recipientPolicy.epochClockSkewMs = .ok () := by
    decide
  rw [cpuQuote_legacyPre]
  refine acceptEngineRecipient_of_identity hwin (checkLaunchDigest_of_mem digest_legacyQuote hmem) ?_ ⟨rfl, rfl⟩ hid
  rintro _ ⟨⟩
  exact verifyEpochEvidence_of_no_epoch legacyTables.crates hw rfl

end Sample

/-- An identity is accepted with an allowlisted launch digest from a report that no chain was checked for. -/
theorem verifyPreassign_unverified_pin :
    Sample.legacyEdge.verifyEngineSnpChain = true ∧
    Sample.legacyEdge.recipientPolicy.requireLaunchDigest = true ∧
    ∃ s' q raw, verifyPreassign Sample.legacyTables.crates Sample.legacyEdge Sample.call Sample.legacyPre Sample.engine
        Sample.ctx (.fresh .missing) = (.ok (), s') ∧
      Sample.legacyPre.trust.cpuQuote = some q ∧ snpReportFromQuote Sample.legacyTables.crates q = some raw ∧
      ReportMeasures Sample.legacyTables.crates raw Sample.legacyEdge.recipientPolicy.launchDigestAllowlist ∧
      raw ∉ s'.chainPassed ∧ ¬ ChainVerified Sample.legacyTables.crates raw := by
  have hcheck : checkAssignment Sample.legacyEdge Sample.call Sample.legacyPre Sample.engine Sample.ctx
      (.fresh .missing) = (.ok 1785542400000, .fresh .missing) :=
    checkAssignment_of_unsealed (by decide) (by decide) (by decide)
  have hvcek : challengeVcek Sample.legacyTables.crates Sample.legacyEdge Sample.call Sample.legacyPre.trust =
      .ok none := Sample.vcek_quiet _ _ rfl _ _
  have hacc : acceptRecipient Sample.legacyTables.crates Sample.legacyEdge Sample.call Sample.legacyPre 1785542400000
      none (.fresh .missing) = (.ok (), .fresh .missing) :=
    acceptRecipient_of_no_report Sample.accept_legacyPre rfl
  have hmeas : ReportMeasures Sample.legacyTables.crates Platform.Sample.report
      Sample.legacyEdge.recipientPolicy.launchDigestAllowlist :=
    ⟨Platform.Sample.measurement, Sample.measurement_report, Finset.mem_singleton.mpr
      (Platform.Sample.compose_measurement List.lookup_cons_self)⟩
  refine ⟨rfl, rfl, _, _, _, verifyPreassign_eq_ok.mpr ⟨_, _, none, hcheck, hvcek, hacc⟩, Sample.cpuQuote_legacyPre,
    Sample.report_legacyQuote, hmeas, List.not_mem_nil, not_chainVerified (fun _ _ _ _ h => ?_) _⟩
  cases h

theorem pinned_report_chain_verified_sample :
    ∃ q raw, Sample.request.pre.trust.cpuQuote = some q ∧
      snpReportFromQuote Sample.chainTables.crates q = some raw ∧
      ReportMeasures Sample.chainTables.crates raw Sample.chainEdge.recipientPolicy.launchDigestAllowlist ∧
      raw ∈ Sample.afterFirst.chainPassed ∧ ChainVerified Sample.chainTables.crates raw := by
  have hrun : runAll (handle Sample.chainTables.crates Sample.chainEdge) (.fresh .missing) [Sample.request] =
      Sample.afterFirst := Sample.run_request
  have htext (t : Str) (ht : Sample.request.ReportText Sample.chainTables.crates t) :
      t = encodePadded false Platform.Sample.report := Sample.text_request ht
  have hmem (q : Request) (hq : q ∈ [Sample.request] ++ [Sample.request]) : q = Sample.request := by simpa using hq
  refine pinned_report_chain_verified Sample.chainTables.crates Base64.rfc4648_lawful Sample.chainEdge rfl rfl .missing
    [Sample.request] Sample.request ?_ ?_ (Or.inl rfl) Sample.afterFirst ?_
  · rintro t ⟨q, hq, ht⟩ t' ⟨q', hq', ht'⟩ -
    rw [hmem q hq] at ht
    rw [hmem q' hq'] at ht'
    rw [htext t ht, htext t' ht']
  · intro q hq
    rw [hmem q hq]
    refine .inr fun t raw ht hraw => ?_
    rw [htext t ht] at hraw
    obtain rfl := Except.ok.inj (Platform.Sample.standard_report.symm.trans hraw)
    exact Sample.engineWrapper_report
  · rw [hrun]
    exact Sample.second_request

end TeechatOpenapi.Cvm
