import TeechatOpenapi.Crates

/-!
# Engine identities (`openapi-platform/src/engine_trust.rs`)

The legacy recipient check: a pinned Ed25519 identity signs the engine's ephemeral keys
(`verifyEphemeralEngineTrust`), and the timestamps of an epoch are RFC 3339 texts (`parseRfc3339Ms`).  Signed 64-bit
arithmetic wraps, as in the release build.
-/

namespace TeechatOpenapi.Platform

open Lib

/-- `EngineIdentityPins`: a `BTreeMap` from engine id to identity key, as its entries in key order. -/
structure EngineIdentityPins where
  entries : List (Str × Str)
  sorted : entries.Pairwise fun a b => a.1 < b.1

def EngineIdentityPins.empty : EngineIdentityPins := ⟨[], List.Pairwise.nil⟩

def EngineIdentityPins.pinnedPublicKey (pins : EngineIdentityPins) (engineId : Str) : Option Str :=
  pins.entries.lookup engineId

/-- `EphemeralEngineTrust`: what the gateway relays about an engine's epoch. -/
structure EphemeralEngineTrust where
  engineId : Str
  epochId : Str
  notBefore : Str
  notAfter : Str
  mlkemEncapsulationKey : Str
  x25519Public : Str
  ed25519Public : Str
  identitySignature : Str

/-- `EngineTrustError`, the variants the verification returns. -/
inductive EngineTrustError where
  | missingPins
  | unpinnedEngine (engineId : Str)
  | identityPinMismatch
  | invalidPublicKey
  | invalidIdentitySignature
  | invalidTimestamp
  | epochNotActive
  deriving DecidableEq

def EngineTrustError.display (X : Crates) : EngineTrustError → Str
  | .missingPins => "engine identity pins are required"
  | .unpinnedEngine id => "engine ".toList ++ X.debugStr id ++ " has no pinned identity".toList
  | .identityPinMismatch => "engine identity key does not match the signed runtime-policy pin"
  | .invalidPublicKey => "invalid Ed25519 public key"
  | .invalidIdentitySignature => "invalid engine identity signature"
  | .invalidTimestamp => "invalid engine epoch timestamp"
  | .epochNotActive => "engine epoch is not active"

/-- Two's complement wraparound of an `i64` operation. -/
def i64Wrap (x : Int) : Int := x.bmod (2 ^ 64)

def daysInMonth (year : Int) (month : Nat) : Nat :=
  if month = 4 ∨ month = 6 ∨ month = 9 ∨ month = 11 then 30
  else if month = 2 then
    if year.tmod 4 = 0 ∧ (year.tmod 100 ≠ 0 ∨ year.tmod 400 = 0) then 29 else 28
  else 31

/-- `days_from_civil`: days since 1970-01-01; `none` when they are negative. -/
def daysFromCivil (year : Int) (month day : Nat) : Option Nat :=
  let year := if month ≤ 2 then i64Wrap (year - 1) else year
  let era := (if 0 ≤ year then year else i64Wrap (year - 399)).tdiv 400
  let yearOfEra := i64Wrap (year - i64Wrap (era * 400))
  let shiftedMonth : Nat := if 2 < month then month - 3 else month + 9
  let dayOfYear : Int := (153 * (shiftedMonth : Int) + 2) / 5 + day - 1
  let dayOfEra := i64Wrap (i64Wrap (yearOfEra * 365) + yearOfEra.tdiv 4 - yearOfEra.tdiv 100 + dayOfYear)
  let days := i64Wrap (i64Wrap (i64Wrap (era * 146097) + dayOfEra) - 719468)
  if 0 ≤ days then some days.toNat else none

/-- The body of a timestamp: the text before `Z`, `+00:00` or `-00:00`. -/
def timestampBody (trimmed : Str) : Option Str :=
  match stripSuffix trimmed "Z" with
  | some v => some v
  | none =>
    match stripSuffix trimmed "+00:00" with
    | some v => some v
    | none => stripSuffix trimmed "-00:00"

/-- The first three digits of a fraction, as milliseconds. -/
def fractionMillis (fraction : Str) : Nat :=
  ((fraction.take 3).zip [100, 10, 1]).foldl (fun acc p => acc + (p.1.toNat - 48) * p.2) 0

/-- `checked_mul` / `checked_add` on `u64`: the exact result, when it fits. -/
def checkedU64 (n : Nat) : Option Nat := if n ≤ u64Max then some n else none

/-- The date part `YYYY-MM-DD`: year, month, day. -/
def parseDate (date : Str) : Option (Int × Nat × Nat) :=
  match date.splitOn '-' with
  | [y, m, d] => do
    let year ← parseI64 y
    let month ← parseUnsigned u32Max m
    let day ← parseUnsigned u32Max d
    if 1 ≤ month ∧ month ≤ 12 ∧ day ≠ 0 ∧ day ≤ daysInMonth year month then some (year, month, day) else none
  | _ => none

/-- The time part `HH:MM:SS[.fraction]`: hour, minute, second, milliseconds. -/
def parseTime (time : Str) : Option (Nat × Nat × Nat × Nat) :=
  match time.splitOn ':' with
  | [h, m, sf] => do
    let hour ← parseUnsigned u32Max h
    let minute ← parseUnsigned u32Max m
    let (secondRaw, fraction) := (splitOnce sf '.').getD (sf, [])
    let second ← parseUnsigned u32Max secondRaw
    if hour ≤ 23 ∧ minute ≤ 59 ∧ second ≤ 59 ∧ fraction.all isAsciiDigit then
      some (hour, minute, second, fractionMillis fraction)
    else none
  | _ => none

/-- `parse_rfc3339_ms`: milliseconds since the Unix epoch.  Every error of the source is
`InvalidTimestamp`. -/
def parseRfc3339Ms (value : Str) : Except EngineTrustError Nat :=
  okOr (ε := EngineTrustError) (do
    let body ← timestampBody (trim value)
    let (date, time) ← splitOnce body 'T'
    let (year, month, day) ← parseDate date
    let (hour, minute, second, millis) ← parseTime time
    let days ← daysFromCivil year month day
    let v ← checkedU64 (days * 86400)
    let v ← checkedU64 (v + hour * 3600)
    let v ← checkedU64 (v + minute * 60)
    let seconds ← checkedU64 (v + second)
    let v ← checkedU64 (seconds * 1000)
    checkedU64 (v + millis)) .invalidTimestamp

section Identity

variable (X : Crates)

/-- `decode_base64url` of this module: no trimming. -/
def decodeBase64url (value : Str) : Except Str Bytes :=
  match X.base64.urlSafeNoPad value with
  | .ok b => .ok b
  | .error _ => X.base64.urlSafe value

/-- `decode_public_key`: 32 octets. -/
def decodePublicKey (value : Str) : Except EngineTrustError Bytes := do
  let bytes ← mapErr (fun _ => .invalidPublicKey) (decodeBase64url X value)
  failIf (bytes.length ≠ 32) .invalidPublicKey
  return bytes

def ephemeralSigningBytes (trust : EphemeralEngineTrust) : Bytes :=
  utf8 (joinNul ["OPE-ENGINE-EPHEMERAL-v1", trust.engineId, trust.epochId, trust.notAfter,
    trust.mlkemEncapsulationKey, trust.x25519Public])

def verifyEphemeralEngineTrust (pins : EngineIdentityPins) (trust : EphemeralEngineTrust) (nowMs clockSkewMs : Nat) :
    Except EngineTrustError Unit := do
  failIf (pins.entries = []) .missingPins
  let pinned ← okOr (pins.pinnedPublicKey trust.engineId) (.unpinnedEngine trust.engineId)
  let pinnedBytes ← decodePublicKey X pinned
  let presentedBytes ← decodePublicKey X trust.ed25519Public
  failIf (pinnedBytes ≠ presentedBytes) .identityPinMismatch
  let notBefore ← parseRfc3339Ms trust.notBefore
  let notAfter ← parseRfc3339Ms trust.notAfter
  failIf (notAfter < notBefore ∨ nowMs < notBefore - clockSkewMs ∨ saturatingAdd notAfter clockSkewMs < nowMs)
    .epochNotActive
  failIf (¬ X.ed25519.keyFromBytes pinnedBytes) .invalidPublicKey
  let signatureBytes ← mapErr (fun _ => .invalidIdentitySignature) (decodeBase64url X trust.identitySignature)
  let signature ← mapErr (fun _ => .invalidIdentitySignature) (X.ed25519.signatureFromSlice signatureBytes)
  failIf (¬ X.ed25519.verify pinnedBytes (ephemeralSigningBytes trust) signature) .invalidIdentitySignature

/-- The identity key of a document is the one that is pinned for its engine, and it signed the document. -/
def PinnedIdentity (pins : EngineIdentityPins) (trust : EphemeralEngineTrust) : Prop :=
  ∃ pinned key raw signature, pins.pinnedPublicKey trust.engineId = some pinned ∧ decodePublicKey X pinned = .ok key ∧
    decodePublicKey X trust.ed25519Public = .ok key ∧ X.ed25519.keyFromBytes key = true ∧
    decodeBase64url X trust.identitySignature = .ok raw ∧ X.ed25519.signatureFromSlice raw = .ok signature ∧
    X.ed25519.verify key (ephemeralSigningBytes trust) signature = true

/-- The window of a document holds a time up to the skew, and a floor has not passed its end. -/
def EphemeralEngineTrust.WindowOpen (trust : EphemeralEngineTrust) (nowMs skewMs : Nat) (floor : Option Nat) : Prop :=
  ∃ notBefore notAfter, parseRfc3339Ms trust.notBefore = .ok notBefore ∧ parseRfc3339Ms trust.notAfter = .ok notAfter ∧
    notBefore ≤ notAfter ∧ (∀ f, floor = some f → f ≤ notAfter) ∧ notBefore ≤ nowMs + skewMs ∧
    nowMs ≤ saturatingAdd notAfter skewMs

lemma verifyEphemeralEngineTrust_eq_ok {pins : EngineIdentityPins} {trust : EphemeralEngineTrust}
    {nowMs clockSkewMs : Nat} : verifyEphemeralEngineTrust X pins trust nowMs clockSkewMs = .ok () ↔
      trust.WindowOpen nowMs clockSkewMs none ∧ PinnedIdentity X pins trust := by
  simp only [verifyEphemeralEngineTrust, bind_eq_ok, okOr_eq_ok, failIf_eq_ok, mapErr_eq_ok, not_not, exists_const]
  constructor
  · rintro ⟨-, pinned, hpin, key, hkey, _, hpresented, rfl, nb, hnb, na, hna, hactive, husable, raw, hraw, sig, hsig,
      hverified⟩
    rw [not_or, not_or, not_lt, not_lt, not_lt] at hactive
    refine ⟨⟨nb, na, hnb, hna, hactive.1, ?_, by omega, hactive.2.2⟩,
      pinned, key, raw, sig, hpin, hkey, hpresented, husable, hraw, hsig, hverified⟩
    intro floor h
    cases h
  · rintro ⟨⟨nb, na, hnb, hna, hle, -, hbegin, hend⟩, pinned, key, raw, sig, hpin, hkey, hpresented, husable, hraw,
      hsig, hverified⟩
    refine ⟨?_, pinned, hpin, key, hkey, key, hpresented, rfl, nb, hnb, na, hna, ?_, husable, raw, hraw, sig, hsig,
      hverified⟩
    · intro hempty
      rw [EngineIdentityPins.pinnedPublicKey, hempty] at hpin
      cases hpin
    · omega

end Identity

end TeechatOpenapi.Platform
