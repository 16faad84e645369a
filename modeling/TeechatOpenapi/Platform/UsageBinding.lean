import TeechatOpenapi.CrateTables
import TeechatOpenapi.Platform.EngineUsage

/-!
# What a usage signature binds (`openapi-platform/src/engine_usage.rs`)

The signature of a usage report covers every member of the report but `epoch_id`, and `epoch_id` is only compared when
it is there.
-/

namespace TeechatOpenapi.Platform

open Lib Encoding

/-- What the signature covers of a report. -/
def UsageReport.covered (report : UsageReport) : UsageReport := { report with epochId := none }

/-- The members of a report that `usage_report_signing_bytes` writes, with their positions. -/
def coveredMembers : List (Nat × Str) :=
  [(0, "request_id"), (1, "conversation_id"), (2, "engine_id"), (3, "prompt_tokens"), (4, "completion_tokens"),
    (5, "cached_tokens"), (6, "ts")]

/-- An edit of a header that leaves the signature and the covered members of the report as they are; any other member,
inside the report or beside it, may be added, removed or changed. -/
structure HeaderEdit (header edited : Json) : Prop where
  sig : edited.slot 2 1 "sig" = header.slot 2 1 "sig"
  report : ∀ report report', header.slot 2 0 "report" = some (.given report) →
    edited.slot 2 0 "report" = some (.given report') →
    ∀ m ∈ coveredMembers, report'.slot 8 m.1 m.2 = report.slot 8 m.1 m.2

section Edits

variable {X : Crates}

lemma required_eq_some {α : Type} {read : Json → Option α} {slot : Option Json.Slot} {a : α}
    (h : Json.required read slot = some a) : ∃ j, slot = some (.given j) ∧ read j = some a := by
  rcases slot with _ | j | _ | _
  · cases h
  · exact ⟨j, rfl, h⟩
  · cases h
  · cases h

/-- Reports that agree on the covered members are read alike, up to the epoch. -/
lemma UsageReport.read_covered {j j' : Json} {report report' : UsageReport}
    (hedit : ∀ m ∈ coveredMembers, j'.slot 8 m.1 m.2 = j.slot 8 m.1 m.2) (h : UsageReport.read j = some report)
    (h' : UsageReport.read j' = some report') : report'.covered = report.covered := by
  simp only [coveredMembers, List.forall_mem_cons, List.not_mem_nil, false_imp_iff, implies_true, and_true] at hedit
  obtain ⟨hrequest, hconversation, hengine, hprompt, hcompletion, hcached, hts⟩ := hedit
  simp only [UsageReport.read, hrequest, hconversation, hengine, hprompt, hcompletion, hcached, hts,
    Option.bind_eq_bind, Option.bind_eq_some_iff, Option.pure_def, Option.some.injEq] at h h'
  obtain ⟨_, h1, _, h2, _, h3, _, h4, _, h5, _, h6, _, h7, _, -, rfl⟩ := h
  obtain ⟨_, h1', _, h2', _, h3', _, h4', _, h5', _, h6', _, h7', _, -, rfl⟩ := h'
  obtain rfl := Option.some.inj (h1.symm.trans h1')
  obtain rfl := Option.some.inj (h2.symm.trans h2')
  obtain rfl := Option.some.inj (h3.symm.trans h3')
  obtain rfl := Option.some.inj (h4.symm.trans h4')
  obtain rfl := Option.some.inj (h5.symm.trans h5')
  obtain rfl := Option.some.inj (h6.symm.trans h6')
  obtain rfl := Option.some.inj (h7.symm.trans h7')
  rfl

lemma HeaderEdit.covered {header edited : Json} {signed signed' : SignedUsageReport}
    (hedit : HeaderEdit header edited) (h : SignedUsageReport.read header = some signed)
    (h' : SignedUsageReport.read edited = some signed') :
    signed'.report.covered = signed.report.covered ∧ signed'.sig = signed.sig := by
  simp only [SignedUsageReport.read, Option.bind_eq_bind, Option.bind_eq_some_iff, Option.pure_def,
    Option.some.injEq] at h h'
  obtain ⟨report, hreport, sig, hsig, rfl⟩ := h
  obtain ⟨report', hreport', sig', hsig', rfl⟩ := h'
  obtain ⟨j, hslot, hread⟩ := required_eq_some hreport
  obtain ⟨j', hslot', hread'⟩ := required_eq_some hreport'
  refine ⟨UsageReport.read_covered (hedit.report j j' hslot hslot') hread hread', ?_⟩
  rw [hedit.sig, hsig] at hsig'
  exact (Option.some.inj hsig').symm

lemma verifySignedUsageReport_of_covered {signed signed' : SignedUsageReport} {ctx : UsageVerifyContext} (e : Str)
    (hok : verifySignedUsageReport X signed ctx = .ok ())
    (hcovered : signed'.report.covered = signed.report.covered ∧ signed'.sig = signed.sig) :
    verifySignedUsageReport X signed' { ctx with expectedEpochId := e } = .ok () ↔
      ∀ epoch, signed'.report.epochId = some epoch → epoch = e := by
  obtain ⟨report, sig⟩ := signed
  obtain ⟨report', sig'⟩ := signed'
  obtain ⟨requestId, conversationId, engineId, prompt, completion, cached, ts, epochId⟩ := report
  obtain ⟨requestId', conversationId', engineId', prompt', completion', cached', ts', epochId'⟩ := report'
  obtain ⟨hreport, rfl⟩ := hcovered
  simp only [UsageReport.covered, UsageReport.mk.injEq] at hreport
  obtain ⟨rfl, rfl, rfl, rfl, rfl, rfl, rfl, -⟩ := hreport
  simp only [verifySignedUsageReport, bind_eq_ok, failIf_eq_ok, exists_const, not_not, not_exists, not_and,
    Option.mem_def] at hok ⊢
  obtain ⟨hengine, -, hhash, hbound, hsig⟩ := hok
  constructor
  · rintro ⟨-, hepoch, -⟩
    exact hepoch
  · intro hepoch
    exact ⟨hengine, hepoch, hhash, hbound, hsig⟩

end Edits

/-- **What binds a usage report to its epoch.**  A report that verified under the epoch it names, after any edit of
what its signature does not cover, verifies under no other epoch exactly when it still names that epoch. -/
theorem usage_epoch_bound_iff (X : Crates) (header edited : Json) (signed signed' : SignedUsageReport)
    (ctx : UsageVerifyContext) (hread : SignedUsageReport.read header = some signed)
    (hread' : SignedUsageReport.read edited = some signed') (hedit : HeaderEdit header edited)
    (hissued : signed.report.epochId = some ctx.expectedEpochId) (hok : verifySignedUsageReport X signed ctx = .ok ()) :
    (∀ ctx', verifySignedUsageReport X signed' ctx' = .ok () → ctx'.expectedEpochId = ctx.expectedEpochId) ↔
      signed'.report.epochId = signed.report.epochId := by
  have hunder := fun e => verifySignedUsageReport_of_covered e hok (hedit.covered hread hread')
  rw [hissued]
  constructor
  · intro hbound
    cases hepoch : signed'.report.epochId with
    | none =>
      -- without the member every epoch will do, a longer name too
      have hlong := hbound _ ((hunder ('x' :: ctx.expectedEpochId)).mpr fun epoch he => by rw [hepoch] at he; cases he)
      exact absurd (congrArg List.length hlong) (by simp)
    | some epoch =>
      have hnamed := hbound _ ((hunder epoch).mpr fun epoch' he => (Option.some.inj (hepoch.symm.trans he)).symm)
      exact congrArg some hnamed
  · intro hepoch ctx' hok'
    simp only [verifySignedUsageReport, bind_eq_ok, failIf_eq_ok, exists_const, not_not, not_exists, not_and,
      Option.mem_def] at hok'
    exact (hok'.2.1 _ hepoch).symm

namespace Sample

def usageKey : Bytes :=
  [3, 161, 7, 191, 243, 206, 16, 190, 29, 112, 221, 24, 231, 75, 192, 153, 103, 228, 214, 48, 155, 165, 13, 95, 29,
   220, 134, 100, 18, 85, 49, 184]

def epochReport : UsageReport :=
  ⟨"44136fa355b3678a1146ad16f7e8649e94fb4fc21fe77e8310c060f61caaff8a", "c", "e1", 3, 2, 0, "t", some "p1"⟩

def epochSig : Bytes :=
  [62, 94, 2, 228, 54, 63, 52, 142, 179, 231, 244, 148, 95, 251, 192, 192, 63, 83, 32, 21, 86, 166, 186, 95, 8, 86,
   122, 108, 133, 229, 181, 34, 204, 150, 143, 175, 27, 226, 201, 93, 241, 39, 229, 102, 90, 209, 9, 54, 227, 138, 140,
   1, 156, 212, 150, 119, 18, 238, 88, 162, 225, 237, 128, 1]

def epochMembers : List (Str × Json) :=
  [("request_id", .string epochReport.requestId), ("conversation_id", .string "c"), ("engine_id", .string "e1"),
    ("prompt_tokens", .number (.posInt 3)), ("completion_tokens", .number (.posInt 2)),
    ("cached_tokens", .number (.posInt 0)), ("ts", .string "t")]

def epochHeader (others : List (Str × Json)) : Json :=
  .object [("report", .object (epochMembers ++ others)), ("sig", .string (encodeRaw true epochSig))]

def epochTables : CrateTables where
  signatures := [(usageKey, usageReportSigningBytes (CrateTables.crates {}) epochReport, epochSig)]

def expects (epoch : Str) : UsageVerifyContext :=
  ⟨"e1", epoch, encodeRaw true usageKey, epochReport.requestId, 40⟩

lemma read_named : SignedUsageReport.read (epochHeader [("epoch_id", .string "p1")]) =
    some ⟨epochReport, encodeRaw true epochSig⟩ := rfl

lemma read_removed : SignedUsageReport.read (epochHeader []) =
    some ⟨epochReport.covered, encodeRaw true epochSig⟩ := rfl

lemma edit_removed : HeaderEdit (epochHeader [("epoch_id", .string "p1")]) (epochHeader []) where
  sig := rfl
  report := by
    intro report report' hreport hreport' m hm
    obtain rfl := Json.Slot.given.inj (Option.some.inj hreport)
    obtain rfl := Json.Slot.given.inj (Option.some.inj hreport')
    simp only [coveredMembers, List.mem_cons, List.not_mem_nil, or_false] at hm
    rcases hm with rfl | rfl | rfl | rfl | rfl | rfl | rfl <;> rfl

lemma verify_named : verifySignedUsageReport epochTables.crates ⟨epochReport, encodeRaw true epochSig⟩
    (expects "p1") = .ok () := by decide +kernel

end Sample

open Sample in
/-- Without its `epoch_id` the report of epoch `p1` verifies under epoch `p2`. -/
theorem usage_epoch_removed_verifies : ∃ header edited signed signed',
    SignedUsageReport.read header = some signed ∧ SignedUsageReport.read edited = some signed' ∧
    HeaderEdit header edited ∧ signed.report.epochId = some "p1".toList ∧
    verifySignedUsageReport epochTables.crates signed (expects "p1") = .ok () ∧
    verifySignedUsageReport epochTables.crates signed' (expects "p2") = .ok () := by
  have hother : expects "p2" = { expects "p1" with expectedEpochId := "p2" } := rfl
  have hcovered := edit_removed.covered read_named read_removed
  have hunder := verifySignedUsageReport_of_covered "p2" verify_named hcovered
  refine ⟨_, _, _, _, read_named, read_removed, edit_removed, rfl, verify_named, ?_⟩
  rw [hother, hunder]
  intro epoch h
  cases h

open Sample in
theorem usage_epoch_bound_iff_sample :
    (∀ ctx', verifySignedUsageReport epochTables.crates ⟨epochReport.covered, encodeRaw true epochSig⟩ ctx' = .ok () →
      ctx'.expectedEpochId = "p1".toList) ↔ epochReport.covered.epochId = epochReport.epochId :=
  usage_epoch_bound_iff epochTables.crates _ _ ⟨epochReport, encodeRaw true epochSig⟩
    ⟨epochReport.covered, encodeRaw true epochSig⟩ (expects "p1") read_named read_removed edit_removed rfl verify_named

end TeechatOpenapi.Platform
