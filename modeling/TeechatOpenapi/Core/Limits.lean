import Mathlib.Algebra.Ring.Nat
import Mathlib.Logic.Function.Basic
import TeechatOpenapi.Core.Authz

/-!
# Limits and quotas (`openapi-core/src/limits.rs`, `quota.rs`)

The limiters are operations on what stands behind their locks: a bucket for each key, or a count of permits.  An instant
of the monotonic clock is a number of nanoseconds.  What is only logged is left out.
-/

namespace TeechatOpenapi.Core

open Lib

/-- The configured limits. -/
structure Limits where
  requestsPerMinute : Nat
  maxBodyBytes : Nat
  challengeRequestsPerMinute : Nat
  challengeMaxInflight : Nat
  challengeBenchToken : Option Str
  ipMaxConnections : Nat
  ipRequestsPerMinute : Nat

def Limits.default : Limits where
  requestsPerMinute := 120
  maxBodyBytes := 4 * 1024 * 1024
  challengeRequestsPerMinute := 10
  challengeMaxInflight := 4
  challengeBenchToken := none
  ipMaxConnections := 16
  ipRequestsPerMinute := 180

def Limits.validateBodySize (limits : Limits) (len : Nat) : Except ApiError Unit :=
  failIf (limits.maxBodyBytes < len) ApiError.payloadTooLarge

/-- The calls of a key in its window. -/
structure Bucket where
  windowStart : Nat
  count : Nat

/-- The buckets of a `RateLimiter`. -/
abbrev Buckets := Str → Option Bucket

/-- The bucket at an instant: it starts anew 60 seconds after its window did. -/
def Bucket.rolled (b : Bucket) (now : Nat) : Bucket :=
  if 60 * 1000000000 ≤ now - b.windowStart then ⟨now, 0⟩ else b

/-- `RateLimiter::check_with_rpm`; a refused call leaves its bucket in the map. -/
def checkWithRpm (now : Nat) (keyId : Str) (rpm : Nat) : Op Buckets ApiError Unit :=
  if rpm = 0 then pure () else do
    let buckets ← Op.get
    let bucket := ((buckets keyId).getD ⟨now, 0⟩).rolled now
    Op.modify fun b => Function.update b keyId (some bucket)
    Op.lift (failIf (rpm ≤ bucket.count) ApiError.rateLimited)
    Op.modify fun b => Function.update b keyId (some { bucket with count := bucket.count + 1 })

/-- `InflightGate::try_acquire`; the result says whether the permit counts. -/
def tryAcquire (max : Nat) : Op Nat ApiError Bool :=
  if max = 0 then pure false else do
    let current ← Op.get
    Op.lift (failIf (max ≤ current) ApiError.rateLimited)
    Op.modify (· + 1)
    return true

/-- The `Drop` of an `InflightPermit`. -/
def dropPermit (active : Bool) (current : Nat) : Nat := if active then current - 1 else current

def tightRemainingTokens : Nat := 32000

def largePromptTokens : Nat := 8000

section Quota

variable (X : Crates)

def partChars : Json → Nat
  | .string s => (utf8 s).length
  | .object ms => ((Json.object ms).getStr? "text").elim 0 fun s => (utf8 s).length
  | _ => 0

def contentChars : Option Json → Nat
  | none => 0
  | some (.string s) => (utf8 s).length
  | some (.array parts) => (parts.map partChars).sum
  | some other => (utf8 (X.json.valueText other)).length

/-- The octets that `estimate_prompt_tokens` counts in a parsed body. -/
def promptChars (v : Json) (body : Bytes) : Nat :=
  match (v.get? "messages").bind Json.asArray? with
  | some msgs => (msgs.map fun m => contentChars X (m.get? "content")).sum
  | none =>
    match v.get? "input" with
    | some input => contentChars X (some input)
    | none =>
      match v.get? "prompt" with
      | some prompt => contentChars X (some prompt)
      | none => body.length

def estimatePromptTokens (body : Bytes) : Nat :=
  match X.json.value body with
  | .error _ => max (body.length / 4) 1
  | .ok v => max (promptChars X v body / 4) 1

def enforceTokenQuotaForKey (policy : OpenApiKeyPolicy) (body : Bytes) : Except ApiError Unit :=
  match policy.remainingTokens with
  | none => .ok ()
  | some remaining => do
    let est := estimatePromptTokens X body
    failIf (remaining = 0) (ApiError.insufficientQuota "token quota exhausted")
    failIf (remaining < est) (ApiError.insufficientQuota (format ["estimated prompt tokens (", decimal est,
      ") exceed remaining quota (", decimal remaining, ")"]))
    failIf (remaining < tightRemainingTokens ∧ largePromptTokens ≤ est) (ApiError.insufficientQuota (format
      ["remaining quota (", decimal remaining, ") is near exhaust; refuse large prompt (~", decimal est, " tokens)"]))

def enforceMaxContext (policy : OpenApiKeyPolicy) (body : Bytes) : Except ApiError Unit :=
  match policy.maxContextTokens with
  | none => .ok ()
  | some max =>
    let est := estimatePromptTokens X body
    failIf (max < est) (ApiError.badRequest (format ["context_length_exceeded: estimated prompt tokens (", decimal est,
      ") exceed tier max (", decimal max, ")"]))

end Quota

end TeechatOpenapi.Core
