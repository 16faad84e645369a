import Mathlib.Data.Finset.Basic
import TeechatOpenapi.CrateTables
import TeechatOpenapi.Platform.LaunchDigest
import TeechatOpenapi.Platform.SealedTime

/-!
# Recipient selection (`openapi-platform/src/engine_recipient.rs`)

Which engine keys customer plaintext may be encrypted to.  The relay chooses every input of
`acceptEngineRecipient` but the policy, the clock and the floor.
-/

namespace TeechatOpenapi.Platform

open Lib Encoding

/-- What a recipient was accepted on. -/
inductive RecipientTrustVia where
  | epochEvidence
  | identitySignature
  deriving DecidableEq

/-- A recipient that was accepted, with its evidence. -/
structure AcceptedRecipient where
  via : RecipientTrustVia
  epoch : Option QuoteEpochClaims
  reportB64 : Option Str
  launchDigest : Option Str

/-- Why a recipient is refused. -/
inductive RecipientError where
  | epochNotActive
  | invalidTimestamp
  | epochEvidenceRequired
  | epochEvidence (e : EpochEvidenceError)
  | launchDigestAllowlistMissing
  | launchDigestUnreadable
  | launchDigestNotAllowed (digest : Str)
  | identity (e : EngineTrustError)
  deriving DecidableEq

def RecipientError.display (X : Crates) : RecipientError → Str
  | .epochNotActive => "engine epoch is not active"
  | .invalidTimestamp => "invalid engine epoch timestamp"
  | .epochEvidenceRequired => "engine presented no per-epoch attestation evidence"
  | .epochEvidence e => "engine epoch evidence rejected: ".toList ++ e.display
  | .launchDigestAllowlistMissing => "engine launch digest allowlist is required but empty"
  | .launchDigestUnreadable => "engine attestation carries no readable launch measurement"
  | .launchDigestNotAllowed digest => "engine launch digest ".toList ++ digest ++ " is not allowlisted".toList
  | .identity e => "engine identity trust rejected: ".toList ++ e.display X

/-- What the edge asks of a recipient. -/
structure EngineRecipientPolicy where
  identityPins : EngineIdentityPins
  launchDigestAllowlist : Finset Str
  requireEpochEvidence : Bool
  stage5IdentityDeleted : Bool
  requireLaunchDigest : Bool
  epochClockSkewMs : Nat

def EngineRecipientPolicy.parseLaunchDigestAllowlist (raw : Str) : Finset Str :=
  (((raw.splitOnP (· ∈ [',', ' ', '\n', '\t'])).map fun s => toAsciiLowercase (trim s)).filter (· ≠ [])).toFinset

/-- The subject of the evidence for a trust document. -/
def EphemeralEngineTrust.subject (trust : EphemeralEngineTrust) : EpochEvidenceSubject where
  engineId := trust.engineId
  epochId := trust.epochId
  notBefore := trust.notBefore
  notAfter := trust.notAfter
  mlkemEncapsulationKey := trust.mlkemEncapsulationKey
  x25519Public := trust.x25519Public

/-! ## The decision -/

section Decision

variable (X : Crates) (host : Host)

/-- The sealed floor a decision sees: an unreadable floor counts as none. -/
def sealedFloor (floor : FloorFile) : Option Nat :=
  if sealedTimeEnabledFromEnv host then
    (toOption (readFloorAt (SealedTimeStore.fromEnv host).path floor)).join
  else none

def checkWindow (floor : FloorFile) (trust : EphemeralEngineTrust) (nowMs skewMs : Nat) :
    Except RecipientError Unit := do
  let notBefore ← mapErr (fun _ => .invalidTimestamp) (parseRfc3339Ms trust.notBefore)
  let notAfter ← mapErr (fun _ => .invalidTimestamp) (parseRfc3339Ms trust.notAfter)
  failIf (¬ epochWindowActive nowMs notBefore notAfter skewMs (sealedFloor host floor)) .epochNotActive

def checkLaunchDigest (policy : EngineRecipientPolicy) (quote : Option Str) :
    Except RecipientError (Option Str) :=
  if policy.requireLaunchDigest = false ∧ policy.launchDigestAllowlist = ∅ then
    -- measurement pin disabled: the digest is still surfaced when readable
    .ok (quote.bind (launchDigestFromSnpQuote X))
  else do
    failIf (policy.launchDigestAllowlist = ∅) .launchDigestAllowlistMissing
    let digest ← okOr (quote.bind (launchDigestFromSnpQuote X)) .launchDigestUnreadable
    failIf (digest ∉ policy.launchDigestAllowlist) (.launchDigestNotAllowed digest)
    return some digest

/-- The legacy route of `accept_engine_recipient`: no epoch evidence, a pinned identity. -/
def acceptIdentity (policy : EngineRecipientPolicy) (trust : EphemeralEngineTrust) (launchDigest : Option Str)
    (nowMs : Nat) : Except RecipientError AcceptedRecipient := do
  failIf (policy.requireEpochEvidence ∨ policy.stage5IdentityDeleted) .epochEvidenceRequired
  mapErr .identity (verifyEphemeralEngineTrust X policy.identityPins trust nowMs policy.epochClockSkewMs)
  return { via := .identitySignature, epoch := none, reportB64 := none, launchDigest }

def acceptEngineRecipient (floor : FloorFile) (policy : EngineRecipientPolicy) (trust : EphemeralEngineTrust)
    (attestationQuote nonce : Option Str) (nowMs : Nat) : Except RecipientError AcceptedRecipient := do
  checkWindow host floor trust nowMs policy.epochClockSkewMs
  let launchDigest ← checkLaunchDigest X policy attestationQuote
  match attestationQuote.map fun q => verifyEpochEvidence X q trust.subject nonce with
  | some (.ok verified) =>
    return { via := .epochEvidence, epoch := some verified.epoch, reportB64 := some verified.reportB64, launchDigest }
  | some (.error .absent) => acceptIdentity X policy trust launchDigest nowMs
  -- evidence for another epoch is never a reason to fall back
  | some (.error e) => .error (.epochEvidence e)
  | none => acceptIdentity X policy trust launchDigest nowMs

end Decision

/-! ## What was checked -/

section Checked

variable {X : Crates} {host : Host} {floor : FloorFile} {policy : EngineRecipientPolicy}
  {trust : EphemeralEngineTrust} {quote nonce : Option Str} {nowMs : Nat} {accepted : AcceptedRecipient}

lemma checkWindow_eq_ok {skewMs : Nat} : checkWindow host floor trust nowMs skewMs = .ok () ↔
    trust.WindowOpen nowMs skewMs (sealedFloor host floor) := by
  simp only [checkWindow, bind_eq_ok, mapErr_eq_ok, failIf_eq_ok, not_not, epochWindowActive_iff]
  constructor
  · rintro ⟨nb, hnb, na, hna, hactive⟩
    exact ⟨nb, na, hnb, hna, hactive⟩
  · rintro ⟨nb, na, hnb, hna, hactive⟩
    exact ⟨nb, hnb, na, hna, hactive⟩

variable {digest : Option Str}

lemma checkLaunchDigest_ok (hreq : policy.requireLaunchDigest = true)
    (h : checkLaunchDigest X policy quote = .ok digest) :
    ∃ q d, quote = some q ∧ launchDigestFromSnpQuote X q = some d ∧ digest = some d ∧
      d ∈ policy.launchDigestAllowlist := by
  simp only [checkLaunchDigest, hreq, Bool.true_eq_false, false_and, if_false, bind_eq_ok, failIf_eq_ok,
    okOr_eq_ok, pure_eq_ok, not_not, Option.bind_eq_some_iff] at h
  obtain ⟨-, -, d, ⟨q, hq, hd⟩, -, hmem, rfl⟩ := h
  exact ⟨q, d, hq, hd, rfl, hmem⟩

/-- What the two routes of an acceptance have checked beyond the window and the digest. -/
inductive AcceptedBy (X : Crates) (policy : EngineRecipientPolicy) (trust : EphemeralEngineTrust)
    (quote nonce : Option Str) (nowMs : Nat) : AcceptedRecipient → Prop where
  | evidence {q : Str} {verified : VerifiedEpochEvidence} {digest : Option Str} (hq : quote = some q)
      (hv : verifyEpochEvidence X q trust.subject nonce = .ok verified) :
      AcceptedBy X policy trust quote nonce nowMs
        ⟨.epochEvidence, some verified.epoch, some verified.reportB64, digest⟩
  | identity {digest : Option Str}
      (hquote : ∀ q, quote = some q → verifyEpochEvidence X q trust.subject nonce = .error .absent)
      (hpolicy : policy.requireEpochEvidence = false ∧ policy.stage5IdentityDeleted = false)
      (hv : verifyEphemeralEngineTrust X policy.identityPins trust nowMs policy.epochClockSkewMs = .ok ()) :
      AcceptedBy X policy trust quote nonce nowMs ⟨.identitySignature, none, none, digest⟩

lemma acceptIdentity_ok
    (hquote : ∀ q, quote = some q → verifyEpochEvidence X q trust.subject nonce = .error .absent)
    (h : acceptIdentity X policy trust digest nowMs = .ok accepted) :
    AcceptedBy X policy trust quote nonce nowMs accepted ∧ accepted.launchDigest = digest := by
  simp only [acceptIdentity, bind_eq_ok, failIf_eq_ok, mapErr_eq_ok, pure_eq_ok] at h
  obtain ⟨-, hp, _, hv, rfl⟩ := h
  simp only [not_or, Bool.not_eq_true] at hp
  exact ⟨.identity hquote hp hv, rfl⟩

/-- **An acceptance** passed the window check and the digest check, and came by one of the two routes. -/
theorem acceptEngineRecipient_ok
    (h : acceptEngineRecipient X host floor policy trust quote nonce nowMs = .ok accepted) :
    checkWindow host floor trust nowMs policy.epochClockSkewMs = .ok () ∧
      checkLaunchDigest X policy quote = .ok accepted.launchDigest ∧
      AcceptedBy X policy trust quote nonce nowMs accepted := by
  simp only [acceptEngineRecipient, bind_eq_ok] at h
  obtain ⟨_, hwin, digest, hdig, h⟩ := h
  refine ⟨hwin, ?_⟩
  rcases quote with _ | q
  · have hnone : ∀ q, (none : Option Str) = some q →
        verifyEpochEvidence X q trust.subject nonce = .error .absent := by rintro _ ⟨⟩
    obtain ⟨hby, rfl⟩ := acceptIdentity_ok hnone h
    exact ⟨hdig, hby⟩
  · rcases hv : verifyEpochEvidence X q trust.subject nonce with e | verified
    · rw [Option.map_some, hv] at h
      cases e with
      | absent =>
        have habsent : ∀ q', some q = some q' →
            verifyEpochEvidence X q' trust.subject nonce = .error .absent := by
          rintro _ ⟨⟩
          exact hv
        obtain ⟨hby, rfl⟩ := acceptIdentity_ok habsent h
        exact ⟨hdig, hby⟩
      | _ => cases h
    · rw [Option.map_some, hv] at h
      obtain rfl := pure_eq_ok.mp h
      exact ⟨hdig, .evidence rfl hv⟩

lemma acceptEngineRecipient_of_evidence {q : Str} {verified : VerifiedEpochEvidence}
    (hwin : checkWindow host floor trust nowMs policy.epochClockSkewMs = .ok ())
    (hdig : checkLaunchDigest X policy (some q) = .ok digest)
    (hv : verifyEpochEvidence X q trust.subject nonce = .ok verified) :
    acceptEngineRecipient X host floor policy trust (some q) nonce nowMs =
      .ok ⟨.epochEvidence, some verified.epoch, some verified.reportB64, digest⟩ := by
  simp only [acceptEngineRecipient, hwin, hdig, hv, Option.map_some]
  rfl

lemma acceptEngineRecipient_of_identity
    (hwin : checkWindow host floor trust nowMs policy.epochClockSkewMs = .ok ())
    (hdig : checkLaunchDigest X policy quote = .ok digest)
    (habsent : ∀ q, quote = some q → verifyEpochEvidence X q trust.subject nonce = .error .absent)
    (hpolicy : policy.requireEpochEvidence = false ∧ policy.stage5IdentityDeleted = false)
    (hv : verifyEphemeralEngineTrust X policy.identityPins trust nowMs policy.epochClockSkewMs = .ok ()) :
    acceptEngineRecipient X host floor policy trust quote nonce nowMs =
      .ok ⟨.identitySignature, none, none, digest⟩ := by
  have hnot : ¬ (policy.requireEpochEvidence = true ∨ policy.stage5IdentityDeleted = true) := by simp [hpolicy]
  have hroute : acceptIdentity X policy trust digest nowMs = .ok ⟨.identitySignature, none, none, digest⟩ := by
    simp only [acceptIdentity, failIf, hnot, if_false, ok_bind, hv, mapErr]
    rfl
  simp only [acceptEngineRecipient, hwin, hdig, ok_bind]
  rcases quote with _ | q
  · exact hroute
  · rw [Option.map_some, habsent q rfl]
    exact hroute

lemma checkLaunchDigest_of_mem {q d : Str} (hd : launchDigestFromSnpQuote X q = some d)
    (hmem : d ∈ policy.launchDigestAllowlist) : checkLaunchDigest X policy (some q) = .ok (some d) := by
  have hne : policy.launchDigestAllowlist ≠ ∅ := Finset.ne_empty_of_mem hmem
  simp [checkLaunchDigest, hd, hne, hmem, okOr, failIf]

end Checked

/-! ## When a recipient is accepted -/

/-- The allowlist names the launch digest of the quote, or nothing asks for one. -/
def EngineRecipientPolicy.AllowsDigest (X : Crates) (policy : EngineRecipientPolicy) (quote : Option Str) : Prop :=
  (policy.requireLaunchDigest = false ∧ policy.launchDigestAllowlist = ∅) ∨
    ∃ q d, quote = some q ∧ launchDigestFromSnpQuote X q = some d ∧ d ∈ policy.launchDigestAllowlist

/-- The quote has evidence for the epoch of a document. -/
def HasEvidence (X : Crates) (trust : EphemeralEngineTrust) (quote nonce : Option Str) : Prop :=
  ∃ q verified, quote = some q ∧ verifyEpochEvidence X q trust.subject nonce = .ok verified

/-- What a decision asks besides the pins: the window with the skew and the floor, the allowlist, and whether an
identity alone is enough. -/
structure PassesSettings (X : Crates) (floor : Option Nat) (policy : EngineRecipientPolicy)
    (trust : EphemeralEngineTrust) (quote nonce : Option Str) (nowMs : Nat) : Prop where
  window : trust.WindowOpen nowMs policy.epochClockSkewMs floor
  digest : policy.AllowsDigest X quote
  route : HasEvidence X trust quote nonce ∨
    policy.requireEpochEvidence = false ∧ policy.stage5IdentityDeleted = false

/-- Who vouches for a document: evidence, or without any the pinned identity. -/
def VouchedFor (X : Crates) (pins : EngineIdentityPins) (trust : EphemeralEngineTrust) (quote nonce : Option Str) :
    Prop :=
  HasEvidence X trust quote nonce ∨
    (∀ q, quote = some q → verifyEpochEvidence X q trust.subject nonce = .error .absent) ∧ PinnedIdentity X pins trust

section Exact

variable {X : Crates} {host : Host} {floor : FloorFile} {policy : EngineRecipientPolicy}
  {trust : EphemeralEngineTrust} {quote nonce : Option Str} {nowMs : Nat}

lemma checkLaunchDigest_passes :
    (∃ digest, checkLaunchDigest X policy quote = .ok digest) ↔ policy.AllowsDigest X quote := by
  unfold checkLaunchDigest EngineRecipientPolicy.AllowsDigest
  by_cases hoff : policy.requireLaunchDigest = false ∧ policy.launchDigestAllowlist = ∅
  · rw [if_pos hoff]
    exact ⟨fun _ => Or.inl hoff, fun _ => ⟨_, rfl⟩⟩
  · simp only [if_neg hoff, bind_eq_ok, failIf_eq_ok, okOr_eq_ok, pure_eq_ok, not_not, exists_const,
      Option.bind_eq_some_iff]
    constructor
    · rintro ⟨_, -, d, ⟨q, hq, hd⟩, hmem, -⟩
      exact Or.inr ⟨q, d, hq, hd, hmem⟩
    · rintro (hpass | ⟨q, d, hq, hd, hmem⟩)
      · exact absurd hpass hoff
      · exact ⟨some d, Finset.ne_empty_of_mem hmem, d, ⟨q, hq, hd⟩, hmem, rfl⟩

/-- **When a recipient is accepted**: exactly when it passes the settings and is vouched for. -/
theorem acceptEngineRecipient_iff :
    (∃ accepted, acceptEngineRecipient X host floor policy trust quote nonce nowMs = .ok accepted) ↔
      PassesSettings X (sealedFloor host floor) policy trust quote nonce nowMs ∧
        VouchedFor X policy.identityPins trust quote nonce := by
  constructor
  · rintro ⟨accepted, hok⟩
    obtain ⟨hwin, hdig, hby⟩ := acceptEngineRecipient_ok hok
    have hopen := checkWindow_eq_ok.mp hwin
    have hallowed := checkLaunchDigest_passes.mp ⟨_, hdig⟩
    cases hby with
    | evidence hq hv => exact ⟨⟨hopen, hallowed, Or.inl ⟨_, _, hq, hv⟩⟩, Or.inl ⟨_, _, hq, hv⟩⟩
    | identity hquote hpolicy hv =>
      obtain ⟨-, hpinned⟩ := (verifyEphemeralEngineTrust_eq_ok X).mp hv
      exact ⟨⟨hopen, hallowed, Or.inr hpolicy⟩, Or.inr ⟨hquote, hpinned⟩⟩
  · rintro ⟨⟨hopen, hallowed, hroute⟩, hvouched⟩
    have hwin := checkWindow_eq_ok.mpr hopen
    obtain ⟨digest, hdig⟩ := checkLaunchDigest_passes.mpr hallowed
    rcases hvouched with ⟨q, verified, rfl, hv⟩ | ⟨hquote, hpinned⟩
    · exact ⟨_, acceptEngineRecipient_of_evidence hwin hdig hv⟩
    · rcases hroute with ⟨q, verified, hq, hv⟩ | hpolicy
      · rw [hquote q hq] at hv
        cases hv
      · -- the window without the floor is open when the one with it is
        obtain ⟨nb, na, hnb, hna, hle, -, hin⟩ := hopen
        have hidentity := (verifyEphemeralEngineTrust_eq_ok X).mpr ⟨⟨nb, na, hnb, hna, hle, nofun, hin⟩, hpinned⟩
        exact ⟨_, acceptEngineRecipient_of_identity hwin hdig hquote hpolicy hidentity⟩

end Exact

/-! ## Soundness under a strict policy -/

/-- A report names the epoch of a trust document: its REPORT_DATA is the bind v2 hash of an epoch block with that
engine, epoch, window and those keys, which are not empty. -/
def ReportNamesEpoch (X : Crates) (report : Bytes) (trust : EphemeralEngineTrust) (nonce : Option Str) : Prop :=
  ∃ (epoch : QuoteEpochClaims) (tls engine vllm issuedAt : Str), epoch.Describes trust.subject ∧
    slice report 0x50 64 = some (bindEpochReportData64 X epoch tls engine vllm issuedAt nonce)

/-- The composed digest of a report's MEASUREMENT is on an allowlist. -/
def ReportMeasures (X : Crates) (report : Bytes) (allowlist : Finset Str) : Prop :=
  ∃ measurement, slice report 0x90 48 = some measurement ∧
    composeLaunchDigest X (X.hex.encode measurement) ∈ allowlist

/-- **Recipient soundness.**  Under a policy that requires the launch digest and refuses identity-only
recipients, whatever the relay supplies: an accepted epoch is active, it was accepted on evidence, and the one report
in its wrapper both names it and has an allowlisted measurement. -/
theorem acceptEngineRecipient_strict_sound (X : Crates) (host : Host) (floor : FloorFile)
    (policy : EngineRecipientPolicy) (trust : EphemeralEngineTrust) (quote nonce : Option Str) (nowMs : Nat)
    (accepted : AcceptedRecipient) (hdigest : policy.requireLaunchDigest = true)
    (hevidence : policy.requireEpochEvidence = true ∨ policy.stage5IdentityDeleted = true)
    (hok : acceptEngineRecipient X host floor policy trust quote nonce nowMs = .ok accepted) :
    (∃ notBefore notAfter, parseRfc3339Ms trust.notBefore = .ok notBefore ∧
      parseRfc3339Ms trust.notAfter = .ok notAfter ∧ notBefore ≤ notAfter ∧
      notBefore ≤ nowMs + policy.epochClockSkewMs ∧ nowMs ≤ notAfter + policy.epochClockSkewMs) ∧
    accepted.via = .epochEvidence ∧
    ∃ q wrapper report, quote = some q ∧ parseWrapper X q = some wrapper ∧
      accepted.reportB64 = some wrapper.reportB64 ∧ X.base64.standard (trim wrapper.reportB64) = .ok report ∧
      ReportNamesEpoch X report trust nonce ∧ ReportMeasures X report policy.launchDigestAllowlist := by
  obtain ⟨hwin, hdig, hby⟩ := acceptEngineRecipient_ok hok
  obtain ⟨nb, na, hnb, hna, hle, -, hlo, hhi⟩ := checkWindow_eq_ok.mp hwin
  refine ⟨⟨nb, na, hnb, hna, hle, hlo, le_trans hhi (min_le_left _ _)⟩, ?_⟩
  cases hby with
  | identity _ hpolicy _ =>
    -- the strict policy closes the fallback
    rcases hevidence with he | he
    · exact absurd (hpolicy.1.symm.trans he) Bool.false_ne_true
    · exact absurd (hpolicy.2.symm.trans he) Bool.false_ne_true
  | @evidence q verified digest hq hv =>
    refine ⟨rfl, ?_⟩
    obtain ⟨wrapper, report, hw, -, hdesc, hrep, -, hdec, hslice⟩ := (verifyEpochEvidence_eq_ok X).mp hv
    obtain ⟨q', d, hq', hd, -, hmem⟩ := checkLaunchDigest_ok hdigest hdig
    obtain rfl : q = q' := Option.some.inj (hq.symm.trans hq')
    obtain ⟨report', m, hr', hm, rfl⟩ := (launchDigestFromSnpQuote_eq_some X).mp hd
    -- both readers decode one report
    have hdec' := snpReportFromQuote_parseWrapper X hr' hw
    obtain rfl : report = report' := Except.ok.inj (hdec.symm.trans hdec')
    exact ⟨q, wrapper, report, hq, hw, congrArg some hrep, hdec, ⟨verified.epoch, _, _, _, _, hdesc, hslice⟩,
      ⟨m, hm, hmem⟩⟩

/-! ## An attested epoch -/

namespace Sample

def epoch : QuoteEpochClaims where
  engineId := "e1"
  epochId := "p1"
  notBefore := "2026-07-31T00:00:00Z"
  notAfter := "2026-08-30T00:00:00Z"
  mlkemEncapsulationKey := "bWxrZW0"
  x25519Public := "eDI1NTE5"
  usageSigningPublic := "dXNhZ2U"

def bindText : Bytes :=
  utf8 (joinNul ["teechat-sev-snp-bind-v2", epoch.engineId, epoch.epochId, epoch.notBefore, epoch.notAfter,
    epoch.mlkemEncapsulationKey, epoch.x25519Public, epoch.usageSigningPublic, [], [], [], epoch.notBefore, []])

def bound : Bytes :=
  [100, 250, 64, 12, 48, 101, 31, 102, 9, 39, 162, 181, 201, 168, 13, 240, 143, 2, 67, 202, 176, 107, 225, 209, 89,
   177, 69, 194, 187, 160, 109, 198, 43, 14, 45, 73, 193, 95, 19, 39, 35, 21, 155, 103, 47, 52, 188, 73, 221, 214, 190,
   167, 81, 78, 252, 86, 16, 97, 34, 200, 194, 72, 54, 66]

def measurement : Bytes := List.replicate 48 0x5a

def measurementHash : Bytes :=
  [117, 214, 99, 13, 28, 34, 157, 34, 205, 252, 249, 54, 16, 79, 240, 119, 39, 75, 124, 91, 81, 239, 248, 159, 43, 74,
   179, 50, 203, 142, 19, 211]

def launchDigest : Str := hexEncode measurementHash

def report : Bytes := 0x02 :: List.replicate 0x4f 0 ++ bound ++ measurement ++ List.replicate 992 0

def epochTree : Json := .object [("engine_id", .string epoch.engineId), ("epoch_id", .string epoch.epochId),
  ("not_before", .string epoch.notBefore), ("not_after", .string epoch.notAfter),
  ("mlkem_encapsulation_key", .string epoch.mlkemEncapsulationKey), ("x25519_public", .string epoch.x25519Public),
  ("usage_signing_public", .string epoch.usageSigningPublic)]

def wrapperTree : Json := .object [("v", .number (.posInt 2)), ("kind", .string "sev-snp"),
  ("report_b64", .string (encodePadded false report)), ("report_data_b64", .string (encodePadded false bound)),
  ("claims", .object [("epoch", epochTree), ("issued_at", .string epoch.notBefore)])]

def wrapperBytes : Bytes := utf8 (renderText wrapperTree)

def quote : Str := encodeRaw true wrapperBytes

def identityKey : Bytes :=
  [234, 74, 108, 99, 226, 156, 82, 10, 190, 245, 80, 123, 19, 46, 197, 249, 149, 71, 118, 174, 190, 190, 123, 146, 66,
   30, 234, 105, 20, 70, 210, 44]

def identitySignature : Bytes :=
  [50, 212, 113, 102, 131, 60, 109, 129, 24, 71, 28, 152, 155, 130, 109, 246, 236, 123, 149, 151, 171, 23, 56, 163, 45,
   143, 146, 41, 211, 42, 110, 46, 90, 18, 61, 68, 138, 99, 154, 111, 169, 33, 144, 16, 100, 148, 103, 154, 247, 154,
   150, 244, 18, 93, 57, 24, 175, 121, 28, 89, 75, 130, 137, 13]

def trust : EphemeralEngineTrust where
  engineId := epoch.engineId
  epochId := epoch.epochId
  notBefore := epoch.notBefore
  notAfter := epoch.notAfter
  mlkemEncapsulationKey := epoch.mlkemEncapsulationKey
  x25519Public := epoch.x25519Public
  ed25519Public := encodeRaw true identityKey
  identitySignature := encodeRaw true identitySignature

def tables : CrateTables where
  sha512 := [(bindText, bound)]
  sha256 := [(utf8 (hexEncode measurement), measurementHash)]
  trees := [(wrapperBytes, wrapperTree)]

def host : Host := ⟨fun _ => none, true, "/tmp", false⟩

def policy : EngineRecipientPolicy where
  identityPins := .empty
  launchDigestAllowlist := {launchDigest}
  requireEpochEvidence := true
  stage5IdentityDeleted := false
  requireLaunchDigest := true
  epochClockSkewMs := 300000

lemma window_host : checkWindow host .missing trust 1785542400000 policy.epochClockSkewMs = .ok () := by decide

lemma slice_report : slice report 0x50 64 = some bound := by
  rw [report, List.append_assoc, List.append_assoc]
  exact slice_append (by rw [List.length_cons, List.length_replicate]) rfl

lemma measurement_report : measurementFromSnpReport report = some measurement := by
  rw [report, List.append_assoc]
  exact slice_append (by rw [List.length_append, List.length_cons, List.length_replicate]; rfl) List.length_replicate

section Tables

variable {t : CrateTables}

lemma bind_epoch (h512 : t.sha512.lookup bindText = some bound) :
    bindEpochReportData64 t.crates epoch [] [] [] epoch.notBefore none = bound :=
  CrateTables.sha512_of_lookup h512 (by decide)

lemma compose_measurement (h256 : t.sha256.lookup (utf8 (hexEncode measurement)) = some measurementHash) :
    composeLaunchDigest t.crates (hexEncode measurement) = launchDigest := by
  change hexEncode (t.crates.sha2.sha256 (utf8 (hexEncode measurement))) = launchDigest
  rw [CrateTables.sha256_of_lookup h256 (by decide)]
  rfl

lemma tree_wrapper (htree : t.trees.lookup wrapperBytes = some wrapperTree) :
    t.crates.json.tree (utf8 (t.crates.json.structText wrapperTree)) = .ok wrapperTree :=
  CrateTables.tree_of_lookup htree

lemma standard_report : Base64.rfc4648.standard (trim (encodePadded false report)) = .ok report := by
  rw [trim_encodePadded]
  exact Base64.rfc4648_lawful.standard_encode report

lemma verify_quote (h512 : t.sha512.lookup bindText = some bound)
    (htree : t.trees.lookup wrapperBytes = some wrapperTree) :
    verifyEpochEvidence t.crates quote trust.subject none = .ok ⟨epoch, encodePadded false report⟩ := by
  have hw := parseWrapper_quoteOf t.crates Base64.rfc4648_lawful (tree_wrapper htree) rfl rfl rfl
  have hbound : Base64.rfc4648.standard (trim (encodePadded false bound)) = .ok bound := by
    rw [trim_encodePadded]
    exact Base64.rfc4648_lawful.standard_encode bound
  have hdesc : epoch.Describes trust.subject := by
    refine ⟨rfl, rfl, rfl, rfl, rfl, rfl, ?_, ?_, ?_⟩ <;> decide
  refine (verifyEpochEvidence_eq_ok t.crates).mpr ⟨_, report, hw, rfl, hdesc, rfl, ?_, standard_report, ?_⟩
  · exact hbound.trans (congrArg Except.ok (bind_epoch h512).symm)
  · exact slice_report.trans (congrArg some (bind_epoch h512).symm)

lemma digest_quote (h256 : t.sha256.lookup (utf8 (hexEncode measurement)) = some measurementHash)
    (htree : t.trees.lookup wrapperBytes = some wrapperTree) :
    launchDigestFromSnpQuote t.crates quote = some launchDigest := by
  have hr := snpReportFromQuote_quoteOf t.crates Base64.rfc4648_lawful (tree_wrapper htree) rfl rfl rfl
    (by decide) standard_report
  exact (launchDigestFromSnpQuote_eq_some t.crates).mpr
    ⟨report, measurement, hr, measurement_report, (compose_measurement h256).symm⟩

lemma accept_quote {h : Host} (hwin : checkWindow h .missing trust 1785542400000 policy.epochClockSkewMs = .ok ())
    (h512 : t.sha512.lookup bindText = some bound)
    (h256 : t.sha256.lookup (utf8 (hexEncode measurement)) = some measurementHash)
    (htree : t.trees.lookup wrapperBytes = some wrapperTree) :
    acceptEngineRecipient t.crates h .missing policy trust (some quote) none 1785542400000 =
      .ok ⟨.epochEvidence, some epoch, some (encodePadded false report), some launchDigest⟩ := by
  have hmem : launchDigest ∈ policy.launchDigestAllowlist := Finset.mem_singleton_self _
  have hdig := checkLaunchDigest_of_mem (digest_quote h256 htree) hmem
  exact acceptEngineRecipient_of_evidence hwin hdig (verify_quote h512 htree)

end Tables

end Sample

theorem acceptEngineRecipient_strict_sound_sample :
    ∃ q wrapper report, some Sample.quote = some q ∧ parseWrapper Sample.tables.crates q = some wrapper ∧
      some (encodePadded false Sample.report) = some wrapper.reportB64 ∧
      Sample.tables.crates.base64.standard (trim wrapper.reportB64) = .ok report ∧
      ReportNamesEpoch Sample.tables.crates report Sample.trust none ∧
      ReportMeasures Sample.tables.crates report {Sample.launchDigest} :=
  (acceptEngineRecipient_strict_sound Sample.tables.crates Sample.host .missing Sample.policy Sample.trust
    (some Sample.quote) none 1785542400000 _ rfl (Or.inl rfl)
    (Sample.accept_quote Sample.window_host List.lookup_cons_self List.lookup_cons_self List.lookup_cons_self)).2.2


end TeechatOpenapi.Platform
