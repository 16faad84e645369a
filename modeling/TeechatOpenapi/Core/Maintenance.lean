import TeechatOpenapi.Core.Api

/-!
# Maintenance windows (`openapi-core/src/maintenance.rs`)

The state holds the last manifest that was accepted; `active` picks the window that counts at a given time.

The parser of times can panic: it cuts a text of four octets in two wherever the cut falls.
-/

namespace TeechatOpenapi.Core

open Lib

/-- What a window is about: the fleet, or one engine. -/
inductive MaintenanceScope where
  | fleet
  | engine
  deriving DecidableEq

/-- The serialized `MaintenanceScope`. -/
def MaintenanceScope.text : MaintenanceScope → Str
  | .fleet => "fleet"
  | .engine => "engine"

/-- Why there is a window. -/
inductive MaintenanceReason where
  | gpuHandover
  | gatewayCutover
  | securityKeyRotation
  | other
  deriving DecidableEq

/-- The serialized `MaintenanceReason`. -/
def MaintenanceReason.text : MaintenanceReason → Str
  | .gpuHandover => "gpu_handover"
  | .gatewayCutover => "gateway_cutover"
  | .securityKeyRotation => "security_key_rotation"
  | .other => "other"

/-- The two phases of a window. -/
inductive MaintenancePhase where
  | hard
  | soft
  deriving DecidableEq

/-- The serialized `MaintenancePhase`. -/
def MaintenancePhase.text : MaintenancePhase → Str
  | .hard => "hard"
  | .soft => "soft"

/-- A window as the manifest has it, its times as texts. -/
structure MaintenanceWindow where
  id : Str
  scope : MaintenanceScope
  engineId : Option Str
  notBefore : Str
  hardNotAfter : Option Str
  softNotAfter : Option Str
  notAfter : Option Str
  reason : MaintenanceReason
  message : Option Str
  deriving DecidableEq

/-- `MaintenanceWindowsManifest`: what `select_active` reads. -/
structure MaintenanceWindowsManifest where
  version : Nat
  windows : List MaintenanceWindow

/-- A window that counts now, its times in milliseconds. -/
structure ActiveMaintenance where
  window : MaintenanceWindow
  phase : MaintenancePhase
  manifestVersion : Nat
  notBeforeMs : Nat
  hardNotAfterMs : Nat
  softNotAfterMs : Option Nat
  retryAfterSecs : Nat

/-- An accepted manifest. -/
structure VerifiedMaintenance where
  manifest : MaintenanceWindowsManifest
  signatureVerified : Bool

/-- `MaintenanceState`: the manifest behind its lock. -/
structure MaintenanceState where
  inner : Option VerifiedMaintenance

namespace Maintenance

/-- The value of an offset; arithmetic wraps. -/
def offsetMs (h m : Int) : Int := wrapI64 (wrapI64 (h * 3600000) + wrapI64 (m * 60000))

def parseOffset (text : Str) : Except (Fault Str) Int :=
  let s := text.dropWhile (· = '+')
  let read (a b : Str) : Except (Fault Str) Int := do
    let h ← okOr (parseI64 a) (.returned "offset_h")
    let m ← okOr (parseI64 b) (.returned "offset_m")
    return offsetMs h m
  match splitOnce s ':' with
  | some (a, b) => read a b
  | none =>
    if (utf8 s).length = 4 then
      match splitAtByte s 2 with
      | some (a, b) => read a b
      | none => .error .panicked
    else .error (.returned "offset_fmt")

/-- `&s[..i]` for the last position `i` of a sign, when it stands behind the date. -/
def beforeSign (s : Str) (sign : Char) : Option Str :=
  (beforeLast s sign).filter fun before => 10 < (utf8 before).length

def splitOffset (s : Str) : Except (Fault Str) (Str × Int) :=
  match beforeSign s '+' with
  | some before => do
    let off ← parseOffset (s.drop before.length)
    return (before, off)
  | none =>
    match beforeSign s '-' with
    | some before => do
      let off ← parseOffset ('+' :: s.drop (before.length + 1))
      return (before, wrapI64 (-off))
    | none => .error (.returned "rfc3339_missing_offset")

/-- `days_from_civil`; only the year can make it wrap. -/
def daysFromCivil (year : Int) (month day : Nat) : Except (Fault Str) Int := do
  failIf (¬ (1 ≤ month ∧ month ≤ 12) ∨ ¬ (1 ≤ day ∧ day ≤ 31)) (Fault.returned "bad_ymd")
  let y := if month ≤ 2 then wrapI64 (year - 1) else year
  let era := y / 400
  let yoe := y % 400
  let mp := if 2 < month then month - 3 else month + 9
  let doy : Nat := (153 * mp + 2) / 5 + day - 1
  let doe := yoe * 365 + yoe / 4 - yoe / 100 + doy
  return wrapI64 (wrapI64 (wrapI64 (era * 146097) + doe) - 719468)

/-- The first three characters of a fraction, filled up with zeros, as milliseconds. -/
def fractionMs (fraction : Str) : Nat :=
  let digits := fraction.take 3
  (parseUnsigned u32Max (digits ++ List.replicate (3 - digits.length) '0')).getD 0

/-- `parse_rfc3339_ms`.  What follows the third part of the date or of the time is not looked at. -/
def parseRfc3339Ms (text : Str) : Except (Fault Str) Nat := do
  let s := trim text
  let normalized := match stripSuffix s ['Z'] with
    | some rest => rest ++ "+00:00".toList
    | none => s
  let (datetime, offset) ← splitOffset normalized
  let (date, time) ← okOr (splitOnce datetime 'T') (.returned "rfc3339_missing_T")
  let d := date.splitOn '-'
  let year ← okOr (d[0]?.bind parseI64) (.returned "year")
  let month ← okOr (d[1]?.bind (parseUnsigned u32Max)) (.returned "month")
  let day ← okOr (d[2]?.bind (parseUnsigned u32Max)) (.returned "day")
  let (timeMain, frac) := match splitOnce time '.' with
    | some (a, b) => (a, some b)
    | none => (time, none)
  let t := timeMain.splitOn ':'
  let hour ← okOr (t[0]?.bind (parseUnsigned u32Max)) (.returned "hour")
  let minute ← okOr (t[1]?.bind (parseUnsigned u32Max)) (.returned "minute")
  let second ← okOr (t[2]?.bind (parseUnsigned u32Max)) (.returned "second")
  let millis := frac.elim 0 fractionMs
  let days ← daysFromCivil year month day
  let dayMs := wrapI64 (days * 86400000)
  let todMs : Nat := hour * 3600000 + minute * 60000 + second * 1000 + millis
  let utcMs := wrapI64 (wrapI64 (dayMs + todMs) - offset)
  failIf (utcMs < 0) (Fault.returned "before_epoch")
  return utcMs.toNat

/-- The times of a window in milliseconds. -/
structure WindowBounds where
  notBeforeMs : Nat
  hardNotAfterMs : Nat
  softNotAfterMs : Option Nat
  hasSoftPhase : Bool

/-- `.as_deref().map(str::trim).filter(|s| !s.is_empty())`. -/
def nonBlank (text : Option Str) : Option Str := (text.map trim).filter (· ≠ [])

def resolveBounds (w : MaintenanceWindow) : Except (Fault Str) WindowBounds := do
  let notBeforeMs ← parseRfc3339Ms w.notBefore
  let hardRaw ← okOr ((nonBlank w.hardNotAfter).or (nonBlank w.notAfter))
    (.returned ("missing_hard_end_".toList ++ w.id))
  let hardNotAfterMs ← parseRfc3339Ms hardRaw
  failIf (hardNotAfterMs ≤ notBeforeMs) (Fault.returned ("bad_hard_interval_".toList ++ w.id))
  let legacyHardOnly := (nonBlank w.hardNotAfter).isNone && (nonBlank w.notAfter).isSome
  if legacyHardOnly then return ⟨notBeforeMs, hardNotAfterMs, some hardNotAfterMs, false⟩
  else
    match nonBlank w.softNotAfter with
    | none => return ⟨notBeforeMs, hardNotAfterMs, none, true⟩
    | some soft => do
      let softMs ← parseRfc3339Ms soft
      failIf (softMs ≤ hardNotAfterMs) (Fault.returned ("bad_soft_interval_".toList ++ w.id))
      return ⟨notBeforeMs, hardNotAfterMs, some softMs, true⟩

/-- The scope test of `select_active`. -/
def applies (engineId : Option Str) (w : MaintenanceWindow) : Bool :=
  match w.scope with
  | .fleet => true
  | .engine =>
    match nonBlank engineId with
    | none => false
    | some want => want = (w.engineId.map trim).getD []

/-- The phase of a window at a time. -/
def phaseAt (bounds : WindowBounds) (nowMs : Nat) : Option MaintenancePhase :=
  if nowMs < bounds.notBeforeMs then none
  else if nowMs ≤ bounds.hardNotAfterMs then some .hard
  else if ¬ bounds.hasSoftPhase then none
  else if bounds.softNotAfterMs.elim true (nowMs ≤ ·) then some .soft
  else none

/-- The seconds left in a phase. -/
def retryAfter (bounds : WindowBounds) (nowMs : Nat) : MaintenancePhase → Nat
  | .hard => max ((bounds.hardNotAfterMs - nowMs + 999) / 1000) 1
  | .soft =>
    match bounds.softNotAfterMs with
    | some softEnd => max ((softEnd - nowMs + 999) / 1000) 1
    | none => 180

section Select

variable {ε : Type} (version nowMs : Nat) (engineId : Option Str)

def inPhase (w : MaintenanceWindow) (bounds : WindowBounds) (phase : MaintenancePhase) : ActiveMaintenance where
  window := w
  phase := phase
  manifestVersion := version
  notBeforeMs := bounds.notBeforeMs
  hardNotAfterMs := bounds.hardNotAfterMs
  softNotAfterMs := bounds.softNotAfterMs
  retryAfterSecs := retryAfter bounds nowMs phase

/-- What a window offers to `select_active`. -/
def candidate (w : MaintenanceWindow) : Except (Fault ε) (Option ActiveMaintenance) :=
  if applies engineId w then do
    let resolved ← okOrPanic (resolveBounds w)
    return resolved.bind fun bounds => (phaseAt bounds nowMs).map (inPhase version nowMs w bounds)
  else return none

/-- Whether a candidate is better than the best so far. -/
def better (c : ActiveMaintenance) : Option ActiveMaintenance → Bool
  | none => true
  | some b =>
    match c.phase, b.phase with
    | .hard, .soft => true
    | .soft, .hard => false
    | .hard, .hard => b.hardNotAfterMs < c.hardNotAfterMs
    | .soft, .soft => b.softNotAfterMs.getD u64Max < c.softNotAfterMs.getD u64Max

/-- The best so far after a candidate. -/
def keepBest (best found : Option ActiveMaintenance) : Option ActiveMaintenance :=
  match found with
  | none => best
  | some c => if better c best then some c else best

/-- The loop of `select_active`. -/
def selectFrom (best : Option ActiveMaintenance) :
    List MaintenanceWindow → Except (Fault ε) (Option ActiveMaintenance)
  | [] => return best
  | w :: rest => do
    let found ← candidate version nowMs engineId w
    selectFrom (keepBest best found) rest

end Select

def selectActive {ε : Type} (manifest : MaintenanceWindowsManifest) (nowMs : Nat) (engineId : Option Str) :
    Except (Fault ε) (Option ActiveMaintenance) :=
  selectFrom manifest.version nowMs engineId none manifest.windows

end Maintenance

open Maintenance

def MaintenanceState.active {ε : Type} (state : MaintenanceState) (nowMs : Nat) (engineId : Option Str) :
    Except (Fault ε) (Option ActiveMaintenance) :=
  match state.inner with
  | none => return none
  | some verified => if verified.signatureVerified then selectActive verified.manifest nowMs engineId else return none

/-- The `window` of a status. -/
def MaintenanceWindow.statusTree (w : MaintenanceWindow) : Json :=
  .object [("id", .string w.id), ("scope", .string w.scope.text), ("engine_id", textOrNull w.engineId),
    ("not_before", .string w.notBefore), ("hard_not_after", textOrNull w.hardNotAfter),
    ("soft_not_after", textOrNull w.softNotAfter), ("not_after", textOrNull w.notAfter),
    ("reason", .string w.reason.text), ("message", textOrNull w.message)]

def MaintenanceState.statusJson {ε : Type} (state : MaintenanceState) (nowMs : Nat) (region : Str) :
    Except (Fault ε) Json := do
  let active ← state.active nowMs none
  return match active with
    | some a =>
      let mode : Str := match a.phase with
        | .hard => "hard_maintenance"
        | .soft => "soft_maintenance"
      .object [("mode", .string mode), ("phase", .string a.phase.text), ("region", .string region),
        ("retry_after", .number (.posInt a.retryAfterSecs)), ("window", a.window.statusTree),
        ("manifest_version", .number (.posInt a.manifestVersion))]
    | none =>
      .object [("mode", .string "ok"), ("phase", .null), ("region", .string region), ("retry_after", .null),
        ("window", .null)]

def ApiError.maintenance (active : ActiveMaintenance) : ApiError :=
  .serviceUnavailable ((active.window.message.filter fun s => trim s ≠ []).getD
    "Planned maintenance is in progress. Retry after the announced window.") "maintenance" active.retryAfterSecs

/-- A window is in its hard phase for an engine, or for the edge itself when none is named: then the windows of single
engines do not count. -/
def MaintenanceWindow.HardAt (w : MaintenanceWindow) (engineId : Option Str) (nowMs : Nat) : Prop :=
  applies engineId w = true ∧ ∃ bounds, resolveBounds w = .ok bounds ∧ bounds.notBeforeMs ≤ nowMs ∧
    nowMs ≤ bounds.hardNotAfterMs

namespace Maintenance

/-- The best so far is in its hard phase. -/
def IsHard (best : Option ActiveMaintenance) : Prop := ∃ a, best = some a ∧ a.phase = .hard

lemma keepBest_hard_of_best {best : Option ActiveMaintenance} (h : IsHard best) (found : Option ActiveMaintenance) :
    IsHard (keepBest best found) := by
  obtain ⟨b, rfl, hb⟩ := h
  rcases found with _ | c
  · exact ⟨b, rfl, hb⟩
  · unfold keepBest
    dsimp only
    split
    · -- only another window in its hard phase is better
      rename_i hbetter
      refine ⟨c, rfl, ?_⟩
      rcases hc : c.phase with _ | _
      · rfl
      · simp [better, hc, hb] at hbetter
    · exact ⟨b, rfl, hb⟩

lemma keepBest_hard_of_found (best : Option ActiveMaintenance) {found : Option ActiveMaintenance}
    (h : IsHard found) : IsHard (keepBest best found) := by
  obtain ⟨c, rfl, hc⟩ := h
  unfold keepBest
  dsimp only
  split
  · exact ⟨c, rfl, hc⟩
  · rename_i hworse
    rcases best with _ | b
    · exact absurd rfl hworse
    · refine ⟨b, rfl, ?_⟩
      rcases hb : b.phase with _ | _
      · rfl
      · simp [better, hc, hb] at hworse

variable {ε : Type} {version nowMs : Nat} {engineId : Option Str}

variable (ε version) in
lemma candidate_hard {w : MaintenanceWindow} (h : w.HardAt engineId nowMs) :
    ∃ c, candidate version nowMs engineId w = (.ok (some c) : Except (Fault ε) _) ∧ c.phase = .hard := by
  obtain ⟨happlies, bounds, hbounds, hstart, hend⟩ := h
  have hphase : phaseAt bounds nowMs = some .hard := by
    rw [phaseAt, if_neg (by omega), if_pos hend]
  refine ⟨inPhase version nowMs w bounds .hard, ?_, rfl⟩
  rw [candidate, if_pos happlies, hbounds, okOrPanic, ok_bind, Option.bind_some, hphase]
  rfl

lemma selectFrom_hard {windows : List MaintenanceWindow} {best r : Option ActiveMaintenance}
    (hrun : selectFrom (ε := ε) version nowMs engineId best windows = .ok r)
    (h : IsHard best ∨ ∃ w ∈ windows, w.HardAt engineId nowMs) : IsHard r := by
  induction windows generalizing best with
  | nil =>
    obtain rfl := pure_eq_ok.mp hrun
    rcases h with h | ⟨w, hw, -⟩
    · exact h
    · exact absurd hw List.not_mem_nil
  | cons w rest ih =>
    obtain ⟨found, hfound, hrest⟩ := bind_eq_ok.mp hrun
    apply ih hrest
    rcases h with h | ⟨w', hw', hhard⟩
    · exact Or.inl (keepBest_hard_of_best h found)
    · rcases List.mem_cons.mp hw' with rfl | hw'
      · obtain ⟨c, hc, hphase⟩ := candidate_hard ε version hhard
        rw [hfound] at hc
        exact Or.inl (keepBest_hard_of_found best ⟨c, Except.ok.inj hc, hphase⟩)
      · exact Or.inr ⟨w', hw', hhard⟩

lemma selectActive_hard {manifest : MaintenanceWindowsManifest} {r : Option ActiveMaintenance}
    (hrun : selectActive (ε := ε) manifest nowMs engineId = .ok r) {w : MaintenanceWindow} (hw : w ∈ manifest.windows)
    (hhard : w.HardAt engineId nowMs) : IsHard r := selectFrom_hard hrun (Or.inr ⟨w, hw, hhard⟩)

end Maintenance

end TeechatOpenapi.Core
