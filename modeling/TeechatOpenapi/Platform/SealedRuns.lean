import TeechatOpenapi.Lib.Runs
import TeechatOpenapi.Platform.EngineRecipient

/-!
# Runs under sealed time

One process, one floor file, no two operations at a time: observations of the host's clock and decisions on recipients,
in any order.  The host may fail to read the file, and a write that fails may leave anything behind.
-/

namespace TeechatOpenapi.Platform

open Lib Encoding

/-- The floor that a file holds. -/
def FloorFile.floor? : FloorFile → Option Nat
  | .content s => parseUnsigned u64Max (trim s)
  | _ => none

lemma readFloorAt_eq_ok {path : Str} {f : FloorFile} {o : Option Nat} (h : readFloorAt path f = .ok o) :
    f.floor? = o := by
  cases f with
  | missing => exact Except.ok.inj h
  | unreadable e => cases h
  | content s =>
    rw [readFloorAt] at h
    rw [FloorFile.floor?]
    split at h
    · next n hn =>
      rw [hn]
      exact Except.ok.inj h
    · cases h

lemma readFloorAt_eq_error {path : Str} {f : FloorFile} {e : SealedTimeError} (h : readFloorAt path f = .error e) :
    f.floor? = none := by
  cases f with
  | missing => cases h
  | unreadable e => rfl
  | content s =>
    rw [readFloorAt] at h
    rw [FloorFile.floor?]
    split at h
    · cases h
    · next hn => exact hn

lemma floor?_written {n : Nat} (h : n ≤ u64Max) : (FloorFile.content (decimal n ++ ['\n'])).floor? = some n := by
  rw [FloorFile.floor?, trim_concat _ (by decide), trim_decimal, parseUnsigned_decimal, Option.filter_some,
    if_pos (decide_eq_true h)]

lemma sealedFloor_eq {host : Host} (hon : sealedTimeEnabledFromEnv host = true) (f : FloorFile) :
    sealedFloor host f = f.floor? := by
  rw [sealedFloor, if_pos hon]
  rcases h : readFloorAt (SealedTimeStore.fromEnv host).path f with e | o
  · rw [readFloorAt_eq_error h]
    rfl
  · rw [readFloorAt_eq_ok h]
    rfl

/-- **When a floor that cannot be read is refused**: exactly when the recipient is not vouched for, or does not pass the
settings with no floor at all. -/
theorem unreadable_floor_refused_iff (X : Crates) (host : Host) (hon : sealedTimeEnabledFromEnv host = true)
    (policy : EngineRecipientPolicy) (trust : EphemeralEngineTrust) (quote nonce : Option Str) (nowMs : Nat) :
    (∀ floor e, readFloorAt (SealedTimeStore.fromEnv host).path floor = .error e →
      ¬ ∃ accepted, acceptEngineRecipient X host floor policy trust quote nonce nowMs = .ok accepted) ↔
    ¬ (PassesSettings X none policy trust quote nonce nowMs ∧ VouchedFor X policy.identityPins trust quote nonce) := by
  have hnone : ∀ floor e, readFloorAt (SealedTimeStore.fromEnv host).path floor = .error e →
      sealedFloor host floor = none := by
    intro floor e hread
    rw [sealedFloor_eq hon, readFloorAt_eq_error hread]
  constructor
  · intro hclosed hpasses
    have hread : readFloorAt (SealedTimeStore.fromEnv host).path (.unreadable []) = .error (.io _) := rfl
    refine hclosed _ _ hread (acceptEngineRecipient_iff.mpr ?_)
    rwa [hnone _ _ hread]
  · intro hrefused floor e hread hok
    have hpasses := acceptEngineRecipient_iff.mp hok
    rw [hnone floor e hread] at hpasses
    exact hrefused hpasses

namespace Sample

def sealedHost : Host :=
  ⟨fun name => if name = "OPENAPI_SEALED_TIME".toList then some "1" else none, true, "/tmp", false⟩

lemma accept_late {floor : FloorFile} (hfloor : floor.floor? = none) :
    acceptEngineRecipient tables.crates sealedHost floor policy trust (some quote) none 1788048001000 =
      .ok ⟨.epochEvidence, some epoch, some (encodePadded false report), some launchDigest⟩ := by
  have hwin : checkWindow sealedHost floor trust 1788048001000 policy.epochClockSkewMs = .ok () := by
    rw [checkWindow, sealedFloor_eq (by decide), hfloor]
    decide
  have hmem : launchDigest ∈ policy.launchDigestAllowlist := Finset.mem_singleton_self _
  have hdig := checkLaunchDigest_of_mem (digest_quote (t := tables) List.lookup_cons_self List.lookup_cons_self) hmem
  exact acceptEngineRecipient_of_evidence hwin hdig (verify_quote List.lookup_cons_self List.lookup_cons_self)

end Sample

/-- Before the epoch starts, a recipient with a floor that does not parse is refused. -/
theorem unreadable_floor_refused_early :
    (∃ e, readFloorAt (SealedTimeStore.fromEnv Sample.sealedHost).path (.content []) = .error e) ∧
      ¬ ∃ accepted, acceptEngineRecipient Sample.tables.crates Sample.sealedHost (.content []) Sample.policy
        Sample.trust (some Sample.quote) none 0 = .ok accepted := by
  refine ⟨⟨_, rfl⟩, (unreadable_floor_refused_iff Sample.tables.crates Sample.sealedHost (by decide) Sample.policy
    Sample.trust (some Sample.quote) none 0).mpr ?_ _ _ rfl⟩
  rintro ⟨⟨hopen, -, -⟩, -⟩
  have hclosed : checkWindow Sample.sealedHost .missing Sample.trust 0 Sample.policy.epochClockSkewMs ≠ .ok () := by
    decide
  exact hclosed (checkWindow_eq_ok.mpr hopen)

/-- A floor file truncated by a write: its content does not parse, and an epoch that has ended is accepted; the floor
that was in it would have refused that epoch. -/
theorem truncated_floor_accepted :
    (∃ e, readFloorAt (SealedTimeStore.fromEnv Sample.sealedHost).path (.content []) = .error e) ∧
    (∃ accepted, acceptEngineRecipient Sample.tables.crates Sample.sealedHost (.content []) Sample.policy Sample.trust
      (some Sample.quote) none 1788048001000 = .ok accepted) ∧
    checkWindow Sample.sealedHost (.content "1788048060000\n") Sample.trust 1788048001000
      Sample.policy.epochClockSkewMs = .error .epochNotActive := by
  refine ⟨⟨_, rfl⟩, ⟨_, Sample.accept_late rfl⟩, ?_⟩
  decide

section Observe

variable {path : Str} {w : HostWrite} {now : Nat} {f f' : FloorFile}

/-- `observe_at` up to its write: read the floor, reject a rewind, and say whether the floor has to be written. -/
def compareAt (path : Str) (hostNowMs : Nat) (f : FloorFile) : Except SealedTimeError Bool := do
  match ← readFloorAt path f with
  | none => return true
  | some floor =>
    if hostNowMs < floor then .error (.rewind hostNowMs floor)
    else return floor < hostNowMs

lemma compareAt_eq_ok {b : Bool} (h : compareAt path now f = .ok b) :
    (∀ n ∈ f.floor?, n ≤ now) ∧ (b = false → f.floor? = some now) := by
  simp only [compareAt, bind_eq_ok] at h
  obtain ⟨o, hread, h⟩ := h
  rw [readFloorAt_eq_ok hread]
  rcases o with _ | floor
  · obtain rfl := pure_eq_ok.mp h
    refine ⟨?_, ?_⟩
    · intro n hn
      cases hn
    · intro hwritten
      cases hwritten
  · dsimp only at h
    split_ifs at h with hrewind
    obtain rfl := pure_eq_ok.mp h
    refine ⟨?_, ?_⟩
    · intro n hn
      have hfloor : floor = n := Option.some.inj hn
      omega
    · intro hwritten
      have hle := of_decide_eq_false hwritten
      exact congrArg some (by omega)

/-- **An observation** compares, and then possibly writes. -/
theorem observeAt_eq (path : Str) (w : HostWrite) (now : Nat) (f : FloorFile) :
    observeAt path w now f =
      match compareAt path now f with
      | .error e => (.error e, f)
      | .ok false => (.ok now, f)
      | .ok true => (writeFloorAt path w now >>= fun _ => pure now) f := by
  rw [observeAt, compareAt, Op.get_bind, Op.bind_run, Op.lift_run]
  rcases readFloorAt path f with e | o
  · rfl
  · rcases o with _ | floor
    · rfl
    · rw [ok_bind]
      by_cases hrewind : now < floor
      · simp only [if_pos hrewind]
        rfl
      · by_cases hbehind : floor < now
        · simp only [if_neg hrewind, if_pos hbehind, decide_eq_true hbehind]
          rfl
        · simp only [if_neg hrewind, if_neg hbehind, decide_eq_false hbehind]
          rfl

/-- What an observation can do: pass, with the host's time as the floor after it and no later floor before; fail
and leave the file; or fail in a write that leaves another file. -/
lemma observeAt_cases {r : Except SealedTimeError Nat} (hnow : now ≤ u64Max) (h : observeAt path w now f = (r, f')) :
    (r = .ok now ∧ f'.floor? = some now ∧ ∀ n ∈ f.floor?, n ≤ now) ∨
    (∃ e, r = .error e) ∧ (f' = f ∨ ∃ e, w = .failed e f') := by
  rw [observeAt_eq] at h
  rcases hcompare : compareAt path now f with e | b
  · rw [hcompare] at h
    obtain ⟨rfl, rfl⟩ := Prod.mk.inj h
    exact Or.inr ⟨⟨e, rfl⟩, Or.inl rfl⟩
  · rw [hcompare] at h
    obtain ⟨hle, heq⟩ := compareAt_eq_ok hcompare
    cases b with
    | false =>
      obtain ⟨rfl, rfl⟩ := Prod.mk.inj h
      exact Or.inl ⟨rfl, heq rfl, hle⟩
    | true =>
      cases w with
      | stored =>
        obtain ⟨rfl, rfl⟩ := Prod.mk.inj h
        exact Or.inl ⟨rfl, floor?_written hnow, hle⟩
      | mkdirFailed e =>
        obtain ⟨rfl, rfl⟩ := Prod.mk.inj h
        exact Or.inr ⟨⟨_, rfl⟩, Or.inl rfl⟩
      | failed e left =>
        obtain ⟨rfl, rfl⟩ := Prod.mk.inj h
        exact Or.inr ⟨⟨_, rfl⟩, Or.inr ⟨e, rfl⟩⟩

end Observe

/-- The arguments of a recipient decision. -/
structure Decision where
  policy : EngineRecipientPolicy
  trust : EphemeralEngineTrust
  quote : Option Str
  nonce : Option Str
  nowMs : Nat

/-- One operation, with what the host does meanwhile: whether it fails the read of the floor, and what becomes of a
write. -/
inductive FloorEvent where
  | observe (readFault : Option Str) (w : HostWrite) (hostNowMs : UInt64)
  | decide (readFault : Option Str) (d : Decision)

/-- The floor file, and the times accepted so far. -/
structure Sealed where
  file : FloorFile
  accepted : List Nat
  deriving DecidableEq

namespace Sealed

/-- The file as an operation finds it. -/
def seen (s : Sealed) : Option Str → FloorFile
  | some e => .unreadable e
  | none => s.file

/-- `observe_host_time_from_env` on the shared file: a read that fails leaves it as it is. -/
def observe (host : Host) (s : Sealed) (readFault : Option Str) (w : HostWrite) (hostNowMs : UInt64) :
    Except SealedTimeError Nat × FloorFile :=
  match readFault with
  | some e => ((observeHostTimeFromEnv host w hostNowMs.toNat (.unreadable e)).1, s.file)
  | none => observeHostTimeFromEnv host w hostNowMs.toNat s.file

/-- `accept_engine_recipient` on the shared file. -/
def decide (X : Crates) (host : Host) (s : Sealed) (readFault : Option Str) (d : Decision) :
    Except RecipientError AcceptedRecipient :=
  acceptEngineRecipient X host (s.seen readFault) d.policy d.trust d.quote d.nonce d.nowMs

/-- One operation: an observation may change the file, and a decision does not. -/
def step (host : Host) (s : Sealed) : FloorEvent → Option Sealed
  | .observe readFault w hostNowMs =>
    match s.observe host readFault w hostNowMs with
    | (.ok t, file) => some ⟨file, t :: s.accepted⟩
    | (.error _, file) => some ⟨file, s.accepted⟩
  | .decide _ _ => some s

/-- What sealed time is for: accepted times do not go back, a rejected observation leaves the floor, and an epoch that
ended before an accepted time is not accepted any more. -/
def Guarantee (X : Crates) (host : Host) (s : Sealed) : FloorEvent → Prop
  | .observe readFault w hostNowMs =>
    (∀ t file, s.observe host readFault w hostNowMs = (.ok t, file) → ∀ u ∈ s.accepted, u ≤ t) ∧
    ∀ e file, s.observe host readFault w hostNowMs = (.error e, file) → file = s.file
  | .decide readFault d =>
    ∀ notAfter, parseRfc3339Ms d.trust.notAfter = .ok notAfter → (∃ t ∈ s.accepted, notAfter < t) →
      ∀ accepted, s.decide X host readFault d ≠ .ok accepted

/-- The host leaves the file whole: a failed write leaves what was there, and decisions can read it. -/
def Whole (s : Sealed) : FloorEvent → Prop
  | .observe _ w _ => ∀ e left, w = .failed e left → left = s.file
  | .decide readFault _ => readFault = none

/-- No accepted time is past the floor in the file. -/
def Floored (s : Sealed) : Prop := ∀ t ∈ s.accepted, ∃ floor, s.file.floor? = some floor ∧ t ≤ floor

variable {X : Crates} {host : Host} {s s' : Sealed}

lemma observe_cases (hon : sealedTimeEnabledFromEnv host = true) {readFault : Option Str} {w : HostWrite}
    {now : UInt64} {r : Except SealedTimeError Nat} {file : FloorFile}
    (hwhole : s.Whole (.observe readFault w now)) (h : s.observe host readFault w now = (r, file)) :
    (r = .ok now.toNat ∧ file.floor? = some now.toNat ∧ ∀ n ∈ s.file.floor?, n ≤ now.toNat) ∨
    (∃ e, r = .error e) ∧ file = s.file := by
  have hstore : observeHostTimeFromEnv host w now.toNat =
      observeAt (sealedTimePathFromEnv host) w now.toNat := by
    unfold observeHostTimeFromEnv SealedTimeStore.fromEnv SealedTimeStore.observe
    rw [if_pos hon, if_pos rfl]
  have hnow : now.toNat ≤ u64Max := Nat.le_sub_one_of_lt now.toNat_lt
  cases readFault with
  | some e =>
    rw [observe, hstore] at h
    obtain ⟨rfl, rfl⟩ := Prod.mk.inj h
    exact Or.inr ⟨⟨_, rfl⟩, rfl⟩
  | none =>
    rw [observe, hstore] at h
    obtain hok | ⟨herror, rfl | ⟨e, rfl⟩⟩ := observeAt_cases hnow h
    · exact Or.inl hok
    · exact Or.inr ⟨herror, rfl⟩
    · exact Or.inr ⟨herror, hwhole e file rfl⟩

lemma Floored.step (hon : sealedTimeEnabledFromEnv host = true) {e : FloorEvent} (hwhole : s.Whole e)
    (hs : s.step host e = some s') (h : s.Floored) : s'.Floored := by
  cases e with
  | decide readFault d =>
    obtain rfl := Option.some.inj hs
    exact h
  | observe readFault w now =>
    rcases hobs : s.observe host readFault w now with ⟨r, file⟩
    rw [Sealed.step, hobs] at hs
    obtain ⟨rfl, hfloor, hle⟩ | ⟨⟨e, rfl⟩, rfl⟩ := observe_cases hon hwhole hobs
    · obtain rfl := Option.some.inj hs
      intro t ht
      refine ⟨now.toNat, hfloor, ?_⟩
      rcases List.mem_cons.mp ht with rfl | hearlier
      · exact le_rfl
      · obtain ⟨floor, hold, htle⟩ := h t hearlier
        exact le_trans htle (hle floor hold)
    · obtain rfl := Option.some.inj hs
      exact h

lemma Floored.guarantee (hon : sealedTimeEnabledFromEnv host = true) {e : FloorEvent} (hwhole : s.Whole e)
    (h : s.Floored) : s.Guarantee X host e := by
  cases e with
  | observe readFault w now =>
    constructor
    · intro t file hobs u hu
      obtain ⟨hr, -, hle⟩ | ⟨⟨e, hr⟩, -⟩ := observe_cases hon hwhole hobs
      · obtain rfl := Except.ok.inj hr
        obtain ⟨floor, hfloor, hule⟩ := h u hu
        exact le_trans hule (hle floor hfloor)
      · cases hr
    · intro e file hobs
      obtain ⟨hr, -⟩ | ⟨-, hfile⟩ := observe_cases hon hwhole hobs
      · cases hr
      · exact hfile
  | decide readFault d =>
    obtain rfl : readFault = none := hwhole
    rintro notAfter hparse ⟨t, ht, hended⟩ accepted hok
    obtain ⟨floor, hfloor, hle⟩ := h t ht
    obtain ⟨hwin, -⟩ := acceptEngineRecipient_ok hok
    obtain ⟨nb, na, -, hna, -, hkept, -⟩ := checkWindow_eq_ok.mp hwin
    obtain rfl : notAfter = na := Except.ok.inj (hparse.symm.trans hna)
    -- the window check saw the floor, and the floor is past the end
    have hpast := hkept floor ((sealedFloor_eq hon _).trans hfloor)
    omega

end Sealed

/-- **Sealed time over a whole run.**  With enforcement on and a file that the host leaves whole, from any file, every
operation of every run keeps the guarantee, whatever the host's times, the policies and the skews. -/
theorem sealed_time_monotonic (X : Crates) (host : Host) (hon : sealedTimeEnabledFromEnv host = true)
    (file : FloorFile) (events : List FloorEvent) (hwhole : Along (Sealed.step host) Sealed.Whole ⟨file, []⟩ events) :
    Along (Sealed.step host) (Sealed.Guarantee X host) ⟨file, []⟩ events := by
  have hstart : Sealed.Floored ⟨file, []⟩ := nofun
  refine along_imp (I := Sealed.Floored) ?_ ?_ hwhole hstart
  · intro s e s' hw hs h
    exact h.step hon hw hs
  · intro s e hw h
    exact h.guarantee hon hw

namespace Sample

def decision : Decision := ⟨policy, trust, some quote, none, 1788048001000⟩

def wholeRun : List FloorEvent :=
  [.observe none .stored 1785542400000, .observe none .stored 1785542399000, .observe none .stored 1788048060000,
    .decide none decision]

def tornRun : List FloorEvent :=
  [.observe none .stored 1788048060000, .observe none (.failed "No space left on device" (.content [])) 1788048070000,
    .decide none decision]

end Sample

theorem sealed_time_monotonic_sample :
    Along (Sealed.step Sample.sealedHost) (Sealed.Guarantee Sample.tables.crates Sample.sealedHost) ⟨.missing, []⟩
      Sample.wholeRun := by
  refine sealed_time_monotonic Sample.tables.crates Sample.sealedHost (by decide) .missing Sample.wholeRun ?_
  refine Along.of_forall ?_
  simp [Sample.wholeRun, Sealed.Whole]

/-- **A torn write**: the second observation is rejected, the file it leaves is empty, and the epoch that ended before
an accepted time is accepted. -/
theorem torn_write_revives_epoch :
    ¬ Along (Sealed.step Sample.sealedHost) (Sealed.Guarantee Sample.tables.crates Sample.sealedHost) ⟨.missing, []⟩
      Sample.tornRun := by
  intro hall
  have hseeded : Sealed.step Sample.sealedHost ⟨.missing, []⟩ (.observe none .stored 1788048060000) =
      some ⟨.content "1788048060000\n", [1788048060000]⟩ := by decide +kernel
  have htorn : Sealed.step Sample.sealedHost ⟨.content "1788048060000\n", [1788048060000]⟩
      (.observe none (.failed "No space left on device" (.content [])) 1788048070000) =
      some ⟨.content [], [1788048060000]⟩ := by decide +kernel
  obtain ⟨hdecide, -⟩ := (hall.2 _ hseeded).2 _ htorn
  have hended : parseRfc3339Ms Sample.trust.notAfter = .ok 1788048000000 := by decide
  exact hdecide _ hended ⟨1788048060000, List.mem_cons_self, by decide⟩ _ (Sample.accept_late rfl)

end TeechatOpenapi.Platform
