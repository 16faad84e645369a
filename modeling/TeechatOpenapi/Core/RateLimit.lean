import TeechatOpenapi.Core.Limits
import TeechatOpenapi.Lib.Runs
import TeechatOpenapi.Lib.Windows

/-!
# Runs of the rate limiter

A limiter serves calls for any keys.  The log says of each call what it was answered and which window its key's bucket
was in afterwards.
-/

namespace TeechatOpenapi.Core

open Lib

/-- One minute, in nanoseconds. -/
def minute : Nat := 60 * 1000000000

/-- A call of `check_with_rpm`, at the instant it reads under the lock. -/
structure LimiterCall where
  instant : Nat
  keyId : Str
  rpm : UInt32

/-- A call that was answered.  `window` is the start of the window that the key's bucket is in afterwards; a call
without a limit makes no bucket. -/
structure ServedCall where
  call : LimiterCall
  verdict : Except ApiError Unit
  window : Nat

/-- A limiter and its log. -/
structure Limiter where
  buckets : Buckets
  served : List ServedCall

namespace Limiter

def new : Limiter := ⟨fun _ => none, []⟩

def serve (s : Limiter) (c : LimiterCall) : Limiter :=
  let (verdict, buckets) := checkWithRpm c.instant c.keyId c.rpm.toNat s.buckets
  ⟨buckets, s.served ++ [⟨c, verdict, ((buckets c.keyId).map Bucket.windowStart).getD c.instant⟩]⟩

/-- A run of a new limiter. -/
def run (calls : List LimiterCall) : Limiter := runAll serve new calls

/-- The calls for a key that were admitted. -/
def admittedFor (s : Limiter) (keyId : Str) : List ServedCall :=
  s.served.filter fun e => e.call.keyId = keyId ∧ e.verdict.isOk

/-- The answers that a key was given. -/
def verdictsFor (s : Limiter) (keyId : Str) : List (Except ApiError Unit) :=
  (s.served.filter fun e => e.call.keyId = keyId).map ServedCall.verdict

end Limiter

/-- The bucket that a call looks at. -/
def bucketAt (buckets : Buckets) (keyId : Str) (now : Nat) : Bucket := ((buckets keyId).getD ⟨now, 0⟩).rolled now

variable {rpm : Nat}

lemma checkWithRpm_eq (now : Nat) (keyId : Str) (hrpm : rpm ≠ 0) (buckets : Buckets) :
    checkWithRpm now keyId rpm buckets =
      if (bucketAt buckets keyId now).count < rpm then
        (.ok (), Function.update buckets keyId
          (some { bucketAt buckets keyId now with count := (bucketAt buckets keyId now).count + 1 }))
      else (.error .rateLimited, Function.update buckets keyId (some (bucketAt buckets keyId now))) := by
  unfold checkWithRpm
  rw [if_neg hrpm, Op.get_bind]
  by_cases hroom : (bucketAt buckets keyId now).count < rpm
  · rw [if_pos hroom, Op.bind_eq_ok]
    refine ⟨(), _, rfl, Op.lift_bind_eq_ok.mpr ⟨(), failIf_eq_ok.mpr (Nat.not_le.mpr hroom), ?_⟩⟩
    rw [Op.modify_run, Function.update_idem]
    rfl
  · rw [if_neg hroom, Op.bind_eq_error]
    refine Or.inr ⟨(), _, rfl, Op.bind_eq_error.mpr (Or.inl ?_)⟩
    rw [Op.lift_run, Prod.mk.injEq]
    exact ⟨failIf_eq_error.mpr ⟨Nat.not_lt.mp hroom, rfl⟩, rfl⟩

lemma checkWithRpm_other (now rpm : Nat) {keyId other : Str} (hne : other ≠ keyId) (buckets : Buckets) :
    (checkWithRpm now keyId rpm buckets).2 other = buckets other := by
  by_cases hrpm : rpm = 0
  · rw [checkWithRpm, if_pos hrpm]
    rfl
  · rw [checkWithRpm_eq _ _ hrpm]
    split
    · exact Function.update_of_ne hne _ _
    · exact Function.update_of_ne hne _ _

/-- A call depends on the bucket of its own key only. -/
lemma checkWithRpm_congr (now rpm : Nat) {keyId : Str} {buckets buckets' : Buckets}
    (h : buckets keyId = buckets' keyId) :
    (checkWithRpm now keyId rpm buckets).1 = (checkWithRpm now keyId rpm buckets').1 ∧
      (checkWithRpm now keyId rpm buckets).2 keyId = (checkWithRpm now keyId rpm buckets').2 keyId := by
  by_cases hrpm : rpm = 0
  · rw [checkWithRpm, if_pos hrpm]
    exact ⟨rfl, h⟩
  · have hat : bucketAt buckets keyId now = bucketAt buckets' keyId now := by rw [bucketAt, bucketAt, h]
    rw [checkWithRpm_eq _ _ hrpm, checkWithRpm_eq _ _ hrpm, hat]
    split
    · refine ⟨rfl, ?_⟩
      dsimp only
      rw [Function.update_self, Function.update_self]
    · refine ⟨rfl, ?_⟩
      dsimp only
      rw [Function.update_self, Function.update_self]

namespace Limiter

variable {s : Limiter} {c : LimiterCall} {keyId : Str}

lemma serve_other (h : c.keyId ≠ keyId) :
    (s.serve c).buckets keyId = s.buckets keyId ∧ (s.serve c).admittedFor keyId = s.admittedFor keyId ∧
      (s.serve c).verdictsFor keyId = s.verdictsFor keyId := by
  refine ⟨checkWithRpm_other _ _ (Ne.symm h) _, ?_, ?_⟩
  · simp [serve, admittedFor, h]
  · simp [serve, verdictsFor, h]

lemma serve_admitted (h : c.keyId = keyId) (hrpm : c.rpm.toNat ≠ 0)
    (hroom : (bucketAt s.buckets keyId c.instant).count < c.rpm.toNat) :
    (s.serve c).buckets keyId = some { bucketAt s.buckets keyId c.instant with
        count := (bucketAt s.buckets keyId c.instant).count + 1 } ∧
      (s.serve c).admittedFor keyId =
        s.admittedFor keyId ++ [⟨c, .ok (), (bucketAt s.buckets keyId c.instant).windowStart⟩] := by
  subst h
  have heq := checkWithRpm_eq c.instant c.keyId hrpm s.buckets
  rw [if_pos hroom] at heq
  simp [serve, admittedFor, heq, Except.isOk, Except.toBool]

lemma serve_refused (h : c.keyId = keyId) (hrpm : c.rpm.toNat ≠ 0)
    (hfull : ¬ (bucketAt s.buckets keyId c.instant).count < c.rpm.toNat) :
    (s.serve c).buckets keyId = some (bucketAt s.buckets keyId c.instant) ∧
      (s.serve c).admittedFor keyId = s.admittedFor keyId := by
  subst h
  have heq := checkWithRpm_eq c.instant c.keyId hrpm s.buckets
  rw [if_neg hfull] at heq
  simp [serve, admittedFor, heq, Except.isOk, Except.toBool]

/-- A bucket of a key counts the calls admitted in its window, and all other windows ended before that one started. -/
structure Counts (log : List ServedCall) (rpm : Nat) (b : Bucket) : Prop where
  count : (inWindow ServedCall.window log b.windowStart).length = b.count
  bound : b.count ≤ rpm
  latest : ∀ e ∈ log, e.window ≠ b.windowStart → e.window + minute ≤ b.windowStart

/-- What holds of a key that is always called with one rate. -/
structure Kept (keyId : Str) (rpm : Nat) (s : Limiter) : Prop where
  windowed : Windowed (fun e : ServedCall => e.call.instant) ServedCall.window minute rpm (s.admittedFor keyId)
  unused : s.buckets keyId = none → s.admittedFor keyId = []
  bucket : ∀ b, s.buckets keyId = some b → Counts (s.admittedFor keyId) rpm b

lemma Kept.new (keyId : Str) (rpm : Nat) : Kept keyId rpm new := ⟨Windowed.nil, fun _ => rfl, nofun⟩

/-- The bucket that a call looks at counts what was admitted in its window, and the call is in that window. -/
lemma Kept.bucketAt {now : Nat} (h : Kept keyId rpm s) (hdue : ∀ b, s.buckets keyId = some b → b.windowStart ≤ now) :
    Counts (s.admittedFor keyId) rpm (Core.bucketAt s.buckets keyId now) ∧
      (Core.bucketAt s.buckets keyId now).windowStart ≤ now ∧
      now < (Core.bucketAt s.buckets keyId now).windowStart + minute := by
  unfold Core.bucketAt
  rcases hb : s.buckets keyId with _ | b
  · rw [Option.getD_none, Bucket.rolled, if_neg (by rw [Nat.sub_self]; decide), h.unused hb]
    exact ⟨⟨rfl, Nat.zero_le rpm, nofun⟩, le_refl now, Nat.lt_add_of_pos_right (by decide)⟩
  · rw [Option.getD_some, Bucket.rolled]
    have hcounts := h.bucket b hb
    have hstart := hdue b hb
    by_cases hroll : 60 * 1000000000 ≤ now - b.windowStart
    · -- a new window: the last one started a minute ago or more
      rw [if_pos hroll]
      have hpast : ∀ e ∈ s.admittedFor keyId, e.window + minute ≤ now := by
        intro e he
        unfold minute
        by_cases hwin : e.window = b.windowStart
        · omega
        · have := hcounts.latest e he hwin
          unfold minute at this
          omega
      have hnone : ∀ e ∈ s.admittedFor keyId, e.window ≠ now := by
        intro e he
        have := hpast e he
        unfold minute at this
        omega
      refine ⟨⟨?_, Nat.zero_le rpm, fun e he _ => hpast e he⟩, le_refl now, Nat.lt_add_of_pos_right (by decide)⟩
      rw [inWindow_eq_nil hnone, List.length_nil]
    · rw [if_neg hroll]
      refine ⟨hcounts, hstart, ?_⟩
      unfold minute
      omega

lemma Kept.of_bucket {b : Bucket} (hb : s.buckets keyId = some b)
    (hlog : Windowed (fun e : ServedCall => e.call.instant) ServedCall.window minute rpm (s.admittedFor keyId))
    (hcounts : Counts (s.admittedFor keyId) rpm b) : Kept keyId rpm s := by
  refine ⟨hlog, fun hnone => ?_, fun b' hb' => ?_⟩
  · rw [hb] at hnone
    cases hnone
  · obtain rfl := Option.some.inj (hb.symm.trans hb')
    exact hcounts

lemma Counts.push {log : List ServedCall} {b : Bucket} {e : ServedCall} (h : Counts log rpm b)
    (hroom : b.count < rpm) (he : e.window = b.windowStart) :
    Counts (log ++ [e]) rpm { b with count := b.count + 1 } := by
  refine ⟨?_, hroom, fun e' he' hne => ?_⟩
  · rw [inWindow_concat, if_pos he, List.length_append, h.count]
    rfl
  · rcases List.mem_append.mp he' with he' | he'
    · exact h.latest e' he' hne
    · rw [List.mem_singleton.mp he'] at hne
      exact absurd he hne

/-- **One call** keeps what holds of a key: a call for the key is in time and at its rate. -/
theorem Kept.serve (hrpm : rpm ≠ 0) (h : Kept keyId rpm s)
    (hdue : ∀ b, s.buckets keyId = some b → b.windowStart ≤ c.instant) (hsame : c.keyId = keyId → c.rpm.toNat = rpm) :
    Kept keyId rpm (s.serve c) ∧ ∀ b, (s.serve c).buckets keyId = some b → b.windowStart ≤ c.instant := by
  by_cases hkey : c.keyId = keyId
  · obtain ⟨hcounts, hstart, hend⟩ := h.bucketAt hdue
    have hrate := hsame hkey
    by_cases hroom : (Core.bucketAt s.buckets keyId c.instant).count < c.rpm.toNat
    · obtain ⟨hbucket, hlog⟩ := serve_admitted hkey (by rwa [hrate]) hroom
      rw [hrate] at hroom
      refine ⟨Kept.of_bucket hbucket ?_ ?_, fun b hb => ?_⟩
      · rw [hlog]
        refine h.windowed.push ⟨hstart, hend⟩ hcounts.latest ?_
        rw [hcounts.count]
        exact hroom
      · rw [hlog]
        exact hcounts.push hroom rfl
      · obtain rfl := Option.some.inj (hbucket.symm.trans hb)
        exact hstart
    · obtain ⟨hbucket, hlog⟩ := serve_refused hkey (by rwa [hrate]) hroom
      refine ⟨Kept.of_bucket hbucket ?_ ?_, fun b hb => ?_⟩
      · rw [hlog]
        exact h.windowed
      · rw [hlog]
        exact hcounts
      · obtain rfl := Option.some.inj (hbucket.symm.trans hb)
        exact hstart
  · obtain ⟨hbucket, hlog, -⟩ := serve_other (s := s) hkey
    refine ⟨⟨?_, ?_, ?_⟩, ?_⟩
    · rw [hlog]
      exact h.windowed
    · rw [hbucket, hlog]
      exact h.unused
    · rw [hbucket, hlog]
      exact h.bucket
    · rw [hbucket]
      exact hdue

/-- **A run** keeps it, when the clock does not go back. -/
theorem Kept.runAll (hrpm : rpm ≠ 0) {calls : List LimiterCall} (h : Kept keyId rpm s)
    (hdue : ∀ c ∈ calls, ∀ b, s.buckets keyId = some b → b.windowStart ≤ c.instant)
    (hclock : calls.Pairwise fun c d => c.instant ≤ d.instant)
    (hsame : ∀ c ∈ calls, c.keyId = keyId → c.rpm.toNat = rpm) : Kept keyId rpm (Lib.runAll Limiter.serve s calls) := by
  induction calls generalizing s with
  | nil => exact h
  | cons c calls ih =>
    obtain ⟨hfirst, hrest⟩ := List.pairwise_cons.mp hclock
    obtain ⟨hkept, hstart⟩ := h.serve hrpm (hdue c List.mem_cons_self) (hsame c List.mem_cons_self)
    refine ih hkept ?_ hrest fun d hd => hsame d (List.mem_cons_of_mem c hd)
    intro d hd b hb
    exact le_trans (hstart b hb) (hfirst d hd)

/-- Two limiters agree on a key: its bucket, and the answers it was given. -/
def Agree (keyId : Str) (s s' : Limiter) : Prop :=
  s.buckets keyId = s'.buckets keyId ∧ s.verdictsFor keyId = s'.verdictsFor keyId

lemma Agree.serve_other {s' : Limiter} (h : Agree keyId s s') (hne : c.keyId ≠ keyId) :
    Agree keyId (s.serve c) s' := by
  obtain ⟨hbucket, -, hverdicts⟩ := Limiter.serve_other (s := s) hne
  exact ⟨hbucket.trans h.1, hverdicts.trans h.2⟩

lemma Agree.serve {s' : Limiter} (h : Agree keyId s s') (hkey : c.keyId = keyId) :
    Agree keyId (s.serve c) (s'.serve c) := by
  subst hkey
  obtain ⟨hverdict, hbucket⟩ := checkWithRpm_congr c.instant c.rpm.toNat h.1
  refine ⟨hbucket, ?_⟩
  have hold := h.2
  simp only [verdictsFor] at hold
  simp [Limiter.serve, verdictsFor, hverdict, hold]

/-- A run leaves a key as the calls for it alone would. -/
lemma agree_filter (keyId : Str) (calls : List LimiterCall) {s s' : Limiter} (h : Agree keyId s s') :
    Agree keyId (runAll serve s calls) (runAll serve s' (calls.filter fun c => c.keyId = keyId)) := by
  induction calls generalizing s s' with
  | nil => exact h
  | cons c calls ih =>
    by_cases hkey : c.keyId = keyId
    · rw [List.filter_cons_of_pos (by simpa using hkey)]
      exact ih (h.serve hkey)
    · rw [List.filter_cons_of_neg (by simpa using hkey)]
      exact ih (h.serve_other hkey)

end Limiter

/-- **The bound of the rate limiter.**  A key is always called with one positive rate and the clock does not go back;
the calls for other keys are any.  In every minute at most twice the rate is admitted, and in every window of the
limiter at most the rate; the counter stays below what a `u32` holds; and the answers are those of any other run with
the same calls for the key. -/
theorem rate_limit_bound (keyId : Str) (rpm : UInt32) (hrpm : 0 < rpm) (calls : List LimiterCall)
    (hclock : calls.Pairwise fun c d => c.instant ≤ d.instant) (hsame : ∀ c ∈ calls, c.keyId = keyId → c.rpm = rpm) :
    (∀ t, (((Limiter.run calls).admittedFor keyId).filter fun e =>
        t ≤ e.call.instant ∧ e.call.instant < t + minute).length ≤ 2 * rpm.toNat) ∧
      (∀ start, (((Limiter.run calls).admittedFor keyId).filter fun e => e.window = start).length ≤ rpm.toNat) ∧
      (∀ b, (Limiter.run calls).buckets keyId = some b → b.count ≤ rpm.toNat ∧ b.count ≤ u32Max) ∧
      ∀ calls', calls'.filter (fun c => c.keyId = keyId) = calls.filter (fun c => c.keyId = keyId) →
        (Limiter.run calls').verdictsFor keyId = (Limiter.run calls).verdictsFor keyId := by
  have hpos : rpm.toNat ≠ 0 := Nat.ne_of_gt hrpm
  have hrate : ∀ c ∈ calls, c.keyId = keyId → c.rpm.toNat = rpm.toNat := by
    intro c hc hkey
    rw [hsame c hc hkey]
  have hkept : Limiter.Kept keyId rpm.toNat (Limiter.run calls) :=
    (Limiter.Kept.new keyId rpm.toNat).runAll hpos nofun hclock hrate
  refine ⟨hkept.windowed.length_interval_le, hkept.windowed.bounded, ?_, ?_⟩
  · intro b hb
    have hbound := (hkept.bucket b hb).bound
    exact ⟨hbound, le_trans hbound (Nat.le_of_lt_succ rpm.toNat_lt)⟩
  · intro calls' heq
    have h := (Limiter.agree_filter keyId calls (s := .new) ⟨rfl, rfl⟩).2
    have h' := (Limiter.agree_filter keyId calls' (s := .new) ⟨rfl, rfl⟩).2
    rw [heq] at h'
    exact h'.trans h.symm

def sampleCalls : List LimiterCall :=
  [⟨0, "a", 1⟩, ⟨5, "b", 3⟩, ⟨minute - 1, "a", 1⟩, ⟨minute, "a", 1⟩, ⟨minute + 1, "a", 1⟩]

theorem rate_limit_bound_sample :
    (Limiter.run sampleCalls).verdictsFor "a" = [.ok (), .error .rateLimited, .ok (), .error .rateLimited] ∧
      (((Limiter.run sampleCalls).admittedFor "a").filter fun e =>
        1 ≤ e.call.instant ∧ e.call.instant < 1 + minute).length ≤ 2 * (1 : UInt32).toNat := by
  refine ⟨rfl, (rate_limit_bound "a" 1 (by decide) sampleCalls (by decide) ?_).1 1⟩
  decide

end TeechatOpenapi.Core
