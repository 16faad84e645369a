import TeechatOpenapi.Attest.Snp
import TeechatOpenapi.Platform.SealedTime
import Mathlib.Logic.Function.Basic

/-!
# What a verification run meets (`openapi-attest`: the HTTP helpers, `src/epoch_floor.rs`)

A run of the client verifier reads a clock, files, the network and two persisted epoch floors.  `Outside` is what it
finds there.  The network may answer the same request differently each time: an answer depends on the requests that
were made before.  The clock stands still during a run.
-/

namespace TeechatOpenapi.Attest

open Lib Platform

/-- The documents whose epochs are persisted. -/
inductive EpochKind where
  | openapiEdge
  | goldenDigests
  deriving DecidableEq

/-- `OPENAPI_EPOCH_KIND`, `GOLDEN_EPOCH_KIND`. -/
def EpochKind.name : EpochKind → Str
  | .openapiEdge => "openapi-edge"
  | .goldenDigests => "golden-digests"

/-- What a run finds outside.  `ureqGet` is the answer to a request after those that were made before: the text of an
error, or a status and the body (whose reading may fail).  `kdsGet` is the fetch of a VCEK with its cache and its
retries.  `keyError` and `verifyError` are texts of `ed25519-dalek`. -/
structure Outside where
  host : Host
  nowUnix : Nat
  readFile : Str → Except Str Bytes
  ureqGet : (asked : List Str) → Str → Except Str (Nat × Except Str Bytes)
  kdsGet : Str → Except AttestError Bytes
  tokioRuntime : Except Str Unit
  floorWrite : EpochKind → HostWrite
  keyError : Bytes → Str
  verifyError : Str

/-- The requests made so far, and the floor files. -/
structure AttestState where
  asked : List Str
  floor : EpochKind → FloorFile

abbrev Run : Type → Type := Op AttestState AttestError

variable {s : AttestState}

section Requests

variable (E : Outside)

def ureqCall (url : Str) : Run (Except Str (Nat × Except Str Bytes)) := do
  let s ← Op.get
  Op.modify fun s => { s with asked := s.asked ++ [url] }
  return E.ureqGet s.asked url

def httpGetBytes (url : Str) : Run Bytes := do
  match ← ureqCall E url with
  | .error e => Op.lift (.error (.http (format ["GET ", url, ": ", e])))
  | .ok (status, body) =>
    Op.lift (failIf (¬ (200 ≤ status ∧ status < 300)) (.http (format ["GET ", url, ": HTTP ", decimal status])))
    Op.lift (mapErr .http body)

/-- `http_get_github`: `http_get_bytes` with other request headers. -/
def httpGetGithub (url : Str) : Run Bytes := httpGetBytes E url

/-- `fetch_url` of the ceremony module: the status is not looked at. -/
def fetchUrl (url : Str) : Run Bytes := do
  match ← ureqCall E url with
  | .error e => Op.lift (.error (.http e))
  | .ok (_, body) => Op.lift (mapErr .http body)

def fsRead (path : Str) : Run Bytes := Op.lift (mapErr .io (E.readFile path))

def fsReadToString (path : Str) : Run Str := do
  let bytes ← fsRead E path
  Op.lift (mapErr (fun _ => .io "stream did not contain valid UTF-8") (fromUtf8 bytes))

lemma httpGetBytes_of_answer {E : Outside} {url : Str} {body : Bytes}
    (h : E.ureqGet s.asked url = .ok (200, .ok body)) :
    httpGetBytes E url s = (.ok body, { s with asked := s.asked ++ [url] }) := by
  have hcall : ureqCall E url s = (.ok (.ok (200, .ok body)), { s with asked := s.asked ++ [url] }) := by
    rw [← h]
    rfl
  exact Op.bind_eq_ok.mpr ⟨_, _, hcall, rfl⟩

lemma ureqCall_floor (url : Str) : Op.Fixes AttestState.floor (ureqCall E url) := fun _ => rfl

lemma httpGetBytes_floor (url : Str) : Op.Fixes AttestState.floor (httpGetBytes E url) := by
  refine Op.Fixes.bind (ureqCall_floor E url) fun answer => ?_
  rcases answer with e | ⟨status, body⟩
  · exact Op.Fixes.lift _ _
  · exact Op.Fixes.lift_bind fun _ => Op.Fixes.lift _ _

lemma fetchUrl_floor (url : Str) : Op.Fixes AttestState.floor (fetchUrl E url) := by
  refine Op.Fixes.bind (ureqCall_floor E url) fun answer => ?_
  rcases answer with e | ⟨status, body⟩
  · exact Op.Fixes.lift _ _
  · exact Op.Fixes.lift _ _

lemma fsRead_floor (path : Str) : Op.Fixes AttestState.floor (fsRead E path) := Op.Fixes.lift _ _

lemma fsReadToString_floor (path : Str) : Op.Fixes AttestState.floor (fsReadToString E path) :=
  Op.Fixes.bind (fsRead_floor E path) fun _ => Op.Fixes.lift _ _

end Requests

/-- `PathBuf::join` of a relative path. -/
def joinPath (base rel : Str) : Str :=
  if base = [] ∨ base.getLast? = some '/' then base ++ rel else base ++ '/' :: rel

def epochFloorDir (host : Host) : Str :=
  match (host.env "TEECHAT_OPENAPI_ATTEST_EPOCH_FLOOR_DIR").filter fun p => trim p ≠ [] with
  | some p => p
  | none =>
    match (host.env "XDG_STATE_HOME").filter fun p => trim p ≠ [] with
    | some p => joinPath p "teechat-openapi-attest"
    | none =>
      match host.env "HOME" with
      | some home => joinPath (joinPath (joinPath home ".local") "state") "teechat-openapi-attest"
      | none => joinPath host.tempDir "teechat-openapi-attest"

def floorPath (host : Host) (kind : EpochKind) : Str :=
  joinPath (epochFloorDir host) (kind.name ++ ".epoch".toList)

def readEpochFloorAt (path : Str) : FloorFile → Except AttestError (Option Nat)
  | .missing => .ok none
  | .unreadable e => .error (.io (format ["read epoch floor ", path, ": ", e]))
  | .content s =>
    match parseUnsigned u64Max (trim s) with
    | some n => .ok (some n)
    | none => .error (.policy (format ["corrupt epoch floor ", path, ": ", trim s]))

/-- The floor that a floor file holds. -/
def floorEpoch : FloorFile → Option Nat
  | .content s => parseUnsigned u64Max (trim s)
  | _ => none

section Floors

variable (E : Outside) (kind : EpochKind) (epoch : Nat)

def assertEpochMonotonic : Run Unit := do
  Op.lift (failIf (epoch < 1) (.policy (format [kind.name, " epoch ", decimal epoch, " is invalid"])))
  let s ← Op.get
  match ← Op.lift (readEpochFloorAt (floorPath E.host kind) (s.floor kind)) with
  | some floor =>
    Op.lift (failIf (epoch < floor) (.policy (format [kind.name, " epoch ", decimal epoch,
      " is below persisted floor ", decimal floor, " (RB-04)"])))
  | none => return ()

def rememberEpoch : Run Unit := do
  Op.lift (failIf (epoch < 1) (.policy (format ["invalid epoch ", decimal epoch])))
  let s ← Op.get
  let current ← Op.lift (readEpochFloorAt (floorPath E.host kind) (s.floor kind))
  if epoch ≤ current.getD 0 then return ()
  else
    match E.floorWrite kind with
    | .stored =>
      Op.modify fun s => { s with floor := Function.update s.floor kind (.content (decimal epoch ++ ['\n'])) }
    | .mkdirFailed e => Op.lift (.error (.io (format ["epoch floor dir: ", e])))
    | .failed e left => do
      Op.modify fun s => { s with floor := Function.update s.floor kind left }
      Op.lift (.error (.io (format ["write epoch floor ", floorPath E.host kind, ": ", e])))

/-- An epoch is not below the floor that a file holds. -/
def NotBelow (epoch : Nat) (f : FloorFile) : Prop := ∀ floor ∈ floorEpoch f, floor ≤ epoch

variable {E kind epoch}

lemma readEpochFloorAt_eq_ok {path : Str} {f : FloorFile} {o : Option Nat} (h : readEpochFloorAt path f = .ok o) :
    floorEpoch f = o := by
  rcases f with _ | e | s
  · exact Except.ok.inj h
  · cases h
  · rcases hn : parseUnsigned u64Max (trim s) with _ | n
    · simp [readEpochFloorAt, hn] at h
    · simp only [readEpochFloorAt, hn] at h
      rw [floorEpoch, hn, Except.ok.inj h]

lemma assertEpochMonotonic_eq_ok {s' : AttestState} (h : assertEpochMonotonic E kind epoch s = (.ok (), s')) :
    s' = s ∧ NotBelow epoch (s.floor kind) := by
  obtain ⟨-, -, h⟩ := Op.lift_bind_eq_ok.mp h
  rw [Op.get_bind] at h
  obtain ⟨o, hread, h⟩ := Op.lift_bind_eq_ok.mp h
  rw [NotBelow, readEpochFloorAt_eq_ok hread]
  rcases o with _ | floor
  · obtain ⟨-, rfl⟩ := Prod.mk.inj h
    exact ⟨rfl, fun _ hf => absurd hf (Option.not_mem_none _)⟩
  · simp only [Op.lift_run, Prod.mk.injEq, failIf_eq_ok] at h
    refine ⟨h.2.symm, fun f hf => ?_⟩
    rw [← Option.some.inj hf]
    exact Nat.not_lt.mp h.1

lemma floorEpoch_written (n : Nat) : floorEpoch (.content (decimal n ++ ['\n'])) = (some n).filter (· ≤ u64Max) := by
  rw [floorEpoch, trim_concat _ (by decide), trim_decimal, parseUnsigned_decimal]

lemma rememberEpoch_cases {s' : AttestState} (h : rememberEpoch E kind epoch s = (.ok (), s')) :
    1 ≤ epoch ∧ (epoch ≤ (floorEpoch (s.floor kind)).getD 0 ∧ s' = s ∨
      s' = { s with floor := Function.update s.floor kind (.content (decimal epoch ++ ['\n'])) }) := by
  obtain ⟨_, hepoch, h⟩ := Op.lift_bind_eq_ok.mp h
  rw [Op.get_bind] at h
  obtain ⟨o, hread, h⟩ := Op.lift_bind_eq_ok.mp h
  refine ⟨Nat.not_lt.mp (failIf_eq_ok.mp hepoch), ?_⟩
  rw [readEpochFloorAt_eq_ok hread]
  split at h
  · next hle =>
    obtain ⟨-, rfl⟩ := Prod.mk.inj h
    exact Or.inl ⟨hle, rfl⟩
  · rcases hw : E.floorWrite kind with _ | e | ⟨e, left⟩
    · rw [hw] at h
      obtain ⟨-, rfl⟩ := Prod.mk.inj h
      exact Or.inr rfl
    · rw [hw] at h
      cases (Prod.mk.inj h).1
    · rw [hw] at h
      obtain ⟨_, _, -, h⟩ := Op.bind_eq_ok.mp h
      cases (Prod.mk.inj h).1

lemma rememberEpoch_eq_ok {s' : AttestState} (h : rememberEpoch E kind epoch s = (.ok (), s')) :
    s'.asked = s.asked ∧ (∀ k, k ≠ kind → s'.floor k = s.floor k) ∧
      (NotBelow epoch (s.floor kind) → NotBelow epoch (s'.floor kind)) := by
  rcases (rememberEpoch_cases h).2 with ⟨-, rfl⟩ | rfl
  · exact ⟨rfl, fun _ _ => rfl, id⟩
  · refine ⟨rfl, fun k hk => Function.update_of_ne hk _ _, fun _ => ?_⟩
    intro floor hfloor
    simp only [Function.update_self, floorEpoch_written, Option.mem_def, Option.filter_eq_some_iff] at hfloor
    exact le_of_eq (Option.some.inj hfloor.1).symm

lemma rememberEpoch_floor {s' : AttestState} (hbound : epoch ≤ u64Max) (hbelow : NotBelow epoch (s.floor kind))
    (h : rememberEpoch E kind epoch s = (.ok (), s')) : floorEpoch (s'.floor kind) = some epoch := by
  obtain ⟨hepoch, ⟨hle, rfl⟩ | rfl⟩ := rememberEpoch_cases h
  · rcases hfloor : floorEpoch (s'.floor kind) with _ | floor
    · rw [hfloor, Option.getD_none] at hle
      omega
    · have hge := hbelow floor hfloor
      rw [hfloor, Option.getD_some] at hle
      rw [Nat.le_antisymm hge hle]
  · simp [floorEpoch_written, Option.filter, hbound]

variable (E kind epoch) in
lemma assertEpochMonotonic_missing (hepoch : 1 ≤ epoch) (hmissing : s.floor kind = .missing) :
    assertEpochMonotonic E kind epoch s = (.ok (), s) := by
  refine Op.lift_bind_eq_ok.mpr ⟨(), failIf_eq_ok.mpr (Nat.not_lt.mpr hepoch), ?_⟩
  rw [Op.get_bind, hmissing]
  rfl

variable (E kind epoch) in
lemma rememberEpoch_missing (hepoch : 1 ≤ epoch) (hmissing : s.floor kind = .missing)
    (hstored : E.floorWrite kind = .stored) : rememberEpoch E kind epoch s =
      (.ok (), { s with floor := Function.update s.floor kind (.content (decimal epoch ++ ['\n'])) }) := by
  refine Op.lift_bind_eq_ok.mpr ⟨(), failIf_eq_ok.mpr (Nat.not_lt.mpr hepoch), ?_⟩
  rw [Op.get_bind, hmissing]
  refine Op.lift_bind_eq_ok.mpr ⟨none, rfl, ?_⟩
  rw [if_neg (by simpa using Nat.ne_of_gt hepoch), hstored]
  rfl

end Floors

end TeechatOpenapi.Attest
