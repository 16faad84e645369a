import TeechatOpenapi.Lib.Text
import TeechatOpenapi.Lib.Outcome

/-!
# Sealed time (`openapi-platform/src/sealed_time.rs`)

A persisted high-water mark of the host clock.  The state is the floor file, as the process finds it
(`FloorFile`); what the host does with a write is an input (`HostWrite`).  `epochWindowActive` is the window check
of an engine epoch against the clock and the floor.
-/

namespace TeechatOpenapi.Platform

open Lib

/-- What a process reads of its host: `env::var(..).ok()`, whether `/data` is a directory, `env::temp_dir()`, and
whether it is the SGX build. -/
structure Host where
  env : Str → Option Str
  dataIsDir : Bool
  tempDir : Str
  sgx : Bool

/-- A switch that is on when its variable is `1`, `true`, `yes` or `on`. -/
def Host.flagOn (host : Host) (name : Str) : Bool :=
  match host.env name with
  | some v => toAsciiLowercase (trim v) ∈ [("1" : Str), "true", "yes", "on"]
  | none => false

/-- The floor file: absent, not readable (with the text of the error), or a text. -/
inductive FloorFile where
  | missing
  | unreadable (error : Str)
  | content (text : Str)
  deriving DecidableEq

/-- What the host does with a write of the floor: it stores it, it fails to create the directory, or it fails in the
write and leaves some file behind. -/
inductive HostWrite where
  | stored
  | mkdirFailed (error : Str)
  | failed (error : Str) (left : FloorFile)

/-- Why an observation is refused. -/
inductive SealedTimeError where
  | rewind (hostMs floorMs : Nat)
  | io (text : Str)
  | corrupt (text : Str)
  deriving DecidableEq

def SealedTimeError.display : SealedTimeError → Str
  | .rewind hostMs floorMs =>
    "host clock ".toList ++ decimal hostMs ++ " is behind sealed floor ".toList ++ decimal floorMs ++
      " (RB-49)".toList
  | .io text => "sealed time io: ".toList ++ text
  | .corrupt text => "corrupt sealed time floor: ".toList ++ text

/-- The floor file, and whether it is enforced. -/
structure SealedTimeStore where
  path : Str
  enforce : Bool

def sealedTimeEnabledFromEnv (host : Host) : Bool := host.flagOn "OPENAPI_SEALED_TIME"

def sealedTimePathFromEnv (host : Host) : Str :=
  match (host.env "OPENAPI_SEALED_TIME_PATH").map trim with
  | some (c :: p) => c :: p
  | _ =>
    if host.sgx || host.dataIsDir then "/data/openapi-sealed-time.floor"
    else if host.tempDir.getLast? = some '/' then host.tempDir ++ "openapi-sealed-time.floor".toList
    else host.tempDir ++ "/openapi-sealed-time.floor".toList

def SealedTimeStore.fromEnv (host : Host) : SealedTimeStore :=
  if sealedTimeEnabledFromEnv host then ⟨sealedTimePathFromEnv host, true⟩ else ⟨[], false⟩

def readFloorAt (path : Str) : FloorFile → Except SealedTimeError (Option Nat)
  | .missing => .ok none
  | .unreadable e => .error (.io ("read ".toList ++ path ++ ": ".toList ++ e))
  | .content s =>
    match parseUnsigned u64Max (trim s) with
    | some n => .ok (some n)
    | none => .error (.corrupt (path ++ ": ".toList ++ trim s))

def writeFloorAt (path : Str) (w : HostWrite) (floorMs : Nat) : Op FloorFile SealedTimeError Unit := fun f =>
  match w with
  | .stored => (.ok (), .content (decimal floorMs ++ ['\n']))
  | .mkdirFailed e => (.error (.io ("mkdir ".toList ++ e)), f)
  | .failed e left => (.error (.io ("write ".toList ++ path ++ ": ".toList ++ e)), left)

/-- `observe_at`: seed the floor on the first observation, reject a rewind below it, advance it. -/
def observeAt (path : Str) (w : HostWrite) (hostNowMs : Nat) : Op FloorFile SealedTimeError Nat := do
  match ← Op.lift (readFloorAt path (← Op.get)) with
  | none =>
    writeFloorAt path w hostNowMs
    return hostNowMs
  | some floor =>
    if hostNowMs < floor then Op.lift (.error (.rewind hostNowMs floor))
    else
      if floor < hostNowMs then writeFloorAt path w hostNowMs
      return hostNowMs

def SealedTimeStore.observe (store : SealedTimeStore) (w : HostWrite) (hostNowMs : Nat) :
    Op FloorFile SealedTimeError Nat :=
  if store.enforce then observeAt store.path w hostNowMs else pure hostNowMs

def observeHostTimeFromEnv (host : Host) (w : HostWrite) (hostNowMs : Nat) : Op FloorFile SealedTimeError Nat :=
  (SealedTimeStore.fromEnv host).observe w hostNowMs

def floorPastNotAfter (floorMs notAfterMs : Nat) : Bool := notAfterMs < floorMs

def epochWindowActive (nowMs notBeforeMs notAfterMs skewMs : Nat) (sealedFloorMs : Option Nat) : Bool :=
  if notAfterMs < notBeforeMs then false
  else if sealedFloorMs.any (floorPastNotAfter · notAfterMs) then false
  else notBeforeMs - skewMs ≤ nowMs && nowMs ≤ saturatingAdd notAfterMs skewMs

/-- An active epoch is one whose window is ordered, whose end the floor has not passed, and that holds the time up
to the skew. -/
lemma epochWindowActive_iff {now nb na skew : Nat} {floor : Option Nat} :
    epochWindowActive now nb na skew floor = true ↔
      nb ≤ na ∧ (∀ f, floor = some f → f ≤ na) ∧ nb ≤ now + skew ∧ now ≤ saturatingAdd na skew := by
  have hfloor : floor.any (floorPastNotAfter · na) = true ↔ ¬ ∀ f, floor = some f → f ≤ na := by
    simp only [Option.any_eq_true, floorPastNotAfter, decide_eq_true_eq, not_forall, not_le, exists_prop]
  unfold epochWindowActive
  by_cases hordered : na < nb
  · rw [if_pos hordered]
    constructor
    · intro h
      cases h
    · rintro ⟨hle, -⟩
      omega
  · rw [if_neg hordered]
    by_cases hpast : floor.any (floorPastNotAfter · na) = true
    · rw [if_pos hpast]
      constructor
      · intro h
        cases h
      · rintro ⟨-, hkept, -⟩
        exact absurd hkept (hfloor.mp hpast)
    · rw [if_neg hpast, Bool.and_eq_true, decide_eq_true_eq, decide_eq_true_eq]
      have hkept := not_not.mp (mt hfloor.mpr hpast)
      constructor
      · rintro ⟨hbegin, hend⟩
        exact ⟨by omega, hkept, by omega, hend⟩
      · rintro ⟨-, -, hbegin, hend⟩
        exact ⟨by omega, hend⟩

end TeechatOpenapi.Platform
