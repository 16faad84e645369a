import Mathlib.Data.Finset.Dedup
import Mathlib.Data.Finset.Lattice.Lemmas
import TeechatOpenapi.Core.Authz
import TeechatOpenapi.CrateTables
import TeechatOpenapi.Lib.Runs

/-!
# The remote authenticator (`openapi-core/src/remote_auth.rs`), one call after another

The poll clock only times the background poll and is left out, as are lock errors: nothing panics under a lock.
-/

namespace TeechatOpenapi.Core

open Lib

/-- L0's answer to a fetch: its epoch, and the revocations since the one asked from. -/
structure RevocationDelta where
  epoch : Nat
  revocations : List SignedRevocation

/-- A key that was let in, with its policy. -/
structure AuthContext where
  keyId : Str
  policy : OpenApiKeyPolicy
  deriving DecidableEq

/-- The shared fields of a `RemoteAuthenticator`. -/
structure Shared where
  revocations : Finset Str
  cache : Str → Option SignedAuthz
  localEpoch : Nat

def Shared.fresh : Shared := ⟨∅, fun _ => none, 0⟩

/-- `HashSet::insert` under the revocation lock. -/
def Shared.insertRevoked (s : Shared) (keyId : Str) : Shared := { s with revocations := insert keyId s.revocations }

/-- `HashMap::remove` under the cache lock. -/
def Shared.removeCached (s : Shared) (keyId : Str) : Shared :=
  { s with cache := Function.update s.cache keyId none }

/-- `HashMap::insert` under the cache lock. -/
def Shared.storeCached (s : Shared) (authz : SignedAuthz) : Shared :=
  { s with cache := Function.update s.cache authz.keyId (some authz) }

/-- `AtomicU64::store`. -/
def Shared.storeEpoch (s : Shared) (epoch : Nat) : Shared := { s with localEpoch := epoch }

/-- An authenticator: the crates it links and L0's verify key. -/
structure RemoteAuthenticator where
  crates : Crates
  verifyKey : Bytes

/-- What L0 answers in one call, and the time. -/
structure L0Answers where
  authorize : (keyId keyHashHex : Str) → Except ApiError SignedAuthz
  fetchRevocations : (sinceEpoch : Nat) → Except ApiError RevocationDelta
  nowMs : Nat

section Operations

variable (A : RemoteAuthenticator) (l0 : L0Answers)

def applyRevocation (r : SignedRevocation) : Op Shared ApiError Unit := do
  Op.lift (r.verifySignature A.crates A.verifyKey)
  Op.modify fun s => s.insertRevoked r.keyId
  Op.modify fun s => s.removeCached r.keyId

/-- The frames of a delta, up to the first that does not verify. -/
def applyFrames : List SignedRevocation → Op Shared ApiError Unit
  | [] => pure ()
  | r :: rest => do
    applyRevocation A r
    applyFrames rest

def syncRevocationsFromL0 : Op Shared ApiError Nat := do
  let s ← Op.get
  let since := s.localEpoch
  let delta ← Op.lift (l0.fetchRevocations since)
  applyFrames A delta.revocations
  Op.modify fun s => if since < delta.epoch then s.storeEpoch delta.epoch else s
  return delta.revocations.length

def convoyAfterAuthorize (authzEpoch : Nat) : Op Shared ApiError Unit := do
  let s ← Op.get
  if s.localEpoch < authzEpoch then
    let _ ← syncRevocationsFromL0 A l0
    pure ()
  else pure ()

/-- The entry that `cache_hit` finds: not expired, for the same key. -/
def cachedEntry (s : Shared) (parsed : ParsedApiKey) (nowMs : Nat) : Option SignedAuthz :=
  (s.cache parsed.keyId).filter fun e =>
    nowMs < e.expMs ∧ utf8 e.keyHashHex = utf8 (hashApiKey A.crates parsed.fullKey)

def cacheHit (s : Shared) (parsed : ParsedApiKey) (nowMs : Nat) : Except ApiError (Option AuthContext) :=
  match cachedEntry A s parsed nowMs with
  | none => .ok none
  | some e => do
    e.verifySignature A.crates A.verifyKey
    return some ⟨parsed.keyId, e.policy⟩

/-- The checks on an authorization from L0. -/
def checkAuthz (parsed : ParsedApiKey) (authz : SignedAuthz) (nowMs : Nat) : Except ApiError Unit := do
  authz.verifySignature A.crates A.verifyKey
  failIf (authz.expMs ≤ nowMs) ApiError.unauthorized
  failIf (utf8 authz.keyHashHex ≠ utf8 (hashApiKey A.crates parsed.fullKey)) ApiError.unauthorized

def storeCache (authz : SignedAuthz) : Op Shared ApiError Unit := do
  Op.lift (authz.verifySignature A.crates A.verifyKey)
  Op.modify fun s => s.storeCached authz

/-- `authenticate_parsed` after a cache miss. -/
def authorizeRemote (parsed : ParsedApiKey) : Op Shared ApiError AuthContext := do
  let authz ← Op.lift (l0.authorize parsed.keyId (hashApiKey A.crates parsed.fullKey))
  Op.lift (checkAuthz A parsed authz l0.nowMs)
  storeCache A authz
  Op.discard (convoyAfterAuthorize A l0 authz.epoch)
  return ⟨parsed.keyId, authz.policy⟩

def authenticateParsed (parsed : ParsedApiKey) : Op Shared ApiError AuthContext := do
  let s ← Op.get
  Op.lift (failIf (parsed.keyId ∈ s.revocations) ApiError.unauthorized)
  let hit ← Op.lift (cacheHit A s parsed l0.nowMs)
  match hit with
  | some ctx => return ctx
  | none => authorizeRemote A l0 parsed

def authenticateBearer (authorization : Option Str) : Op Shared ApiError AuthContext := do
  let header ← Op.lift (okOr authorization ApiError.unauthorized)
  let token ← Op.lift (okOr (afterStart header "Bearer ") ApiError.unauthorized)
  Op.lift (failIf (token = []) ApiError.unauthorized)
  let parsed ← Op.lift (okOr (parseApiKey token) ApiError.unauthorized)
  authenticateParsed A l0 parsed

end Operations

/-- A call, with what L0 answers in it. -/
inductive Call where
  | revoke (r : SignedRevocation)
  | sync (l0 : L0Answers)
  | authenticate (l0 : L0Answers) (parsed : ParsedApiKey)

/-- The shared fields after a call, whatever it returns. -/
def perform (A : RemoteAuthenticator) (s : Shared) : Call → Shared
  | .revoke r => (applyRevocation A r s).2
  | .sync l0 => (syncRevocationsFromL0 A l0 s).2
  | .authenticate l0 parsed => (authenticateParsed A l0 parsed s).2

section Sync

variable (A : RemoteAuthenticator) (l0 : L0Answers)

def verifies (r : SignedRevocation) : Bool := (toOption (r.verifySignature A.crates A.verifyKey)).isSome

/-- The keys that the frames of a delta revoke: a sync stops at the first frame that does not verify. -/
def appliedKeys (frames : List SignedRevocation) : Finset Str :=
  ((frames.takeWhile (verifies A)).map SignedRevocation.keyId).toFinset

variable {A l0}

lemma applyRevocation_of_verifies {r : SignedRevocation} (h : verifies A r = true) (s : Shared) :
    applyRevocation A r s = (.ok (), (s.insertRevoked r.keyId).removeCached r.keyId) := by
  obtain ⟨u, hu⟩ := Option.isSome_iff_exists.mp h
  simp only [applyRevocation, Op.bind_run, Op.lift_run, toOption_eq_some.mp hu, Op.modify_run]

lemma applyRevocation_of_not_verifies {r : SignedRevocation} (h : verifies A r = false) (s : Shared) :
    (applyRevocation A r s).2 = s ∧ ∃ e, (applyRevocation A r s).1 = .error e := by
  rcases hv : r.verifySignature A.crates A.verifyKey with e | u
  · have hrun : applyRevocation A r s = (.error e, s) := by
      simp only [applyRevocation, Op.bind_run, Op.lift_run, hv]
    rw [hrun]
    exact ⟨rfl, e, rfl⟩
  · simp [verifies, hv, toOption] at h

lemma applyFrames_revocations (frames : List SignedRevocation) (s : Shared) :
    (applyFrames A frames s).2.revocations = s.revocations ∪ appliedKeys A frames := by
  induction frames generalizing s with
  | nil => simp [applyFrames, appliedKeys, Op.pure_run]
  | cons r rest ih =>
    rcases hv : verifies A r with _ | _
    · -- the frame is refused and the rest is not looked at
      obtain ⟨hs, e, he⟩ := applyRevocation_of_not_verifies hv s
      have hrun : applyRevocation A r s = (.error e, s) := Prod.ext he hs
      simp [applyFrames, Op.bind_run, hrun, appliedKeys, hv]
    · have hrun := applyRevocation_of_verifies hv s
      simp only [applyFrames, Op.bind_run, hrun, ih]
      ext k
      simp [Shared.insertRevoked, Shared.removeCached, appliedKeys, hv]

lemma sync_revocations {s : Shared} {delta : RevocationDelta} (h : l0.fetchRevocations s.localEpoch = .ok delta) :
    (syncRevocationsFromL0 A l0 s).2.revocations = s.revocations ∪ appliedKeys A delta.revocations := by
  have hframes := applyFrames_revocations (A := A) delta.revocations s
  simp only [syncRevocationsFromL0, Op.bind_run, Op.get_run, Op.lift_run, h]
  rcases hrun : applyFrames A delta.revocations s with ⟨e | u, s₁⟩
  · rw [hrun] at hframes
    exact hframes
  · rw [hrun] at hframes
    simp only [Op.modify_run, Op.pure_run]
    split
    · exact hframes
    · exact hframes

lemma sync_of_no_delta {s : Shared} {e : ApiError} (h : l0.fetchRevocations s.localEpoch = .error e) :
    (syncRevocationsFromL0 A l0 s).2 = s := by
  simp only [syncRevocationsFromL0, Op.bind_run, Op.get_run, Op.lift_run, h]

/-- The keys that the convoy of a call revokes. -/
def convoyKeys (A : RemoteAuthenticator) (l0 : L0Answers) (s : Shared) (authzEpoch : Nat) : Finset Str :=
  if s.localEpoch < authzEpoch then
    match l0.fetchRevocations s.localEpoch with
    | .ok delta => appliedKeys A delta.revocations
    | .error _ => ∅
  else ∅

lemma convoy_revocations (s : Shared) (authzEpoch : Nat) :
    (convoyAfterAuthorize A l0 authzEpoch s).2.revocations = s.revocations ∪ convoyKeys A l0 s authzEpoch := by
  simp only [convoyAfterAuthorize, convoyKeys, Op.bind_run, Op.get_run]
  by_cases hlt : s.localEpoch < authzEpoch
  · rw [if_pos hlt, if_pos hlt]
    have hstate : (((do let _ ← syncRevocationsFromL0 A l0; pure ()) : Op Shared ApiError Unit) s).2 =
        (syncRevocationsFromL0 A l0 s).2 := by
      rw [Op.bind_run]
      rcases syncRevocationsFromL0 A l0 s with ⟨e | n, s₁⟩ <;> rfl
    rw [hstate]
    rcases hf : l0.fetchRevocations s.localEpoch with e | delta
    · rw [sync_of_no_delta hf]
      simp
    · exact sync_revocations hf
  · rw [if_neg hlt, if_neg hlt]
    simp [Op.pure_run]

end Sync

/-- The convoy of the call revokes the key: the call is not served from the cache, L0's authorization is ahead of the
local epoch, and the delta it then fetches revokes the key before any frame that does not verify. -/
def ConvoyRevokes (A : RemoteAuthenticator) (l0 : L0Answers) (s : Shared) (parsed : ParsedApiKey) : Prop :=
  cachedEntry A s parsed l0.nowMs = none ∧
    ∃ authz, l0.authorize parsed.keyId (hashApiKey A.crates parsed.fullKey) = .ok authz ∧
      parsed.keyId ∈ convoyKeys A l0 s authz.epoch

section LetIn

variable {A : RemoteAuthenticator} {l0 : L0Answers} {s s' : Shared} {parsed : ParsedApiKey} {ctx : AuthContext}

/-- **How a call lets a key in**: on a cache entry that still verifies, which leaves the shared fields alone, or on an
authorization from L0 that passes the checks, which is cached before the convoy. -/
theorem authenticateParsed_eq_ok (h : authenticateParsed A l0 parsed s = (.ok ctx, s')) :
    parsed.keyId ∉ s.revocations ∧
      ((∃ e, cachedEntry A s parsed l0.nowMs = some e ∧ e.verifySignature A.crates A.verifyKey = .ok () ∧
        ctx = ⟨parsed.keyId, e.policy⟩ ∧ s' = s) ∨
      (cachedEntry A s parsed l0.nowMs = none ∧ ∃ authz,
        l0.authorize parsed.keyId (hashApiKey A.crates parsed.fullKey) = .ok authz ∧
        checkAuthz A parsed authz l0.nowMs = .ok () ∧ ctx = ⟨parsed.keyId, authz.policy⟩ ∧
        s' = (convoyAfterAuthorize A l0 authz.epoch (s.storeCached authz)).2)) := by
  obtain ⟨_, s₁, hget, h⟩ := Op.bind_eq_ok.mp h
  cases hget
  obtain ⟨_, s₂, hrevoked, h⟩ := Op.bind_eq_ok.mp h
  obtain ⟨hnot, rfl⟩ := Prod.mk.inj hrevoked
  obtain ⟨hit, s₃, hlookup, h⟩ := Op.bind_eq_ok.mp h
  obtain ⟨hhit, rfl⟩ := Prod.mk.inj hlookup
  refine ⟨failIf_eq_ok.mp hnot, ?_⟩
  unfold cacheHit at hhit
  rcases hent : cachedEntry A s parsed l0.nowMs with _ | e
  · rw [hent] at hhit
    cases hhit
    obtain ⟨authz, s₄, hremote, h⟩ := Op.bind_eq_ok.mp h
    obtain ⟨hauth, rfl⟩ := Prod.mk.inj hremote
    obtain ⟨_, s₅, hcheck, h⟩ := Op.bind_eq_ok.mp h
    obtain ⟨hchecked, rfl⟩ := Prod.mk.inj hcheck
    obtain ⟨_, s₆, hstore, h⟩ := Op.bind_eq_ok.mp h
    obtain ⟨_, s₇, hver, hstore⟩ := Op.bind_eq_ok.mp hstore
    obtain ⟨-, rfl⟩ := Prod.mk.inj hver
    cases hstore
    obtain ⟨_, s₈, hconvoy, h⟩ := Op.bind_eq_ok.mp h
    cases hconvoy
    cases h
    exact Or.inr ⟨rfl, authz, hauth, hchecked, rfl, rfl⟩
  · rw [hent] at hhit
    obtain ⟨_, hver, hctx⟩ := bind_eq_ok.mp hhit
    cases hctx
    cases h
    exact Or.inl ⟨e, rfl, hver, rfl, rfl⟩

lemma authenticateParsed_ok (h : authenticateParsed A l0 parsed s = (.ok ctx, s')) :
    parsed.keyId ∉ s.revocations ∧
      ((cachedEntry A s parsed l0.nowMs ≠ none ∧ s' = s) ∨
      (cachedEntry A s parsed l0.nowMs = none ∧ ∃ authz,
        l0.authorize parsed.keyId (hashApiKey A.crates parsed.fullKey) = .ok authz ∧
        s'.revocations = s.revocations ∪ convoyKeys A l0 s authz.epoch)) := by
  obtain ⟨hnot, ⟨e, hent, -, -, rfl⟩ | ⟨hent, authz, hauth, -, -, rfl⟩⟩ := authenticateParsed_eq_ok h
  · refine ⟨hnot, Or.inl ⟨?_, rfl⟩⟩
    rw [hent]
    exact Option.some_ne_none e
  · -- the cache entry changes neither the revocations nor the epoch
    exact ⟨hnot, Or.inr ⟨hent, authz, hauth, convoy_revocations (s.storeCached authz) authz.epoch⟩⟩

lemma authenticateParsed_of_remote {authz : SignedAuthz} (hnot : parsed.keyId ∉ s.revocations)
    (hent : cachedEntry A s parsed l0.nowMs = none)
    (hauth : l0.authorize parsed.keyId (hashApiKey A.crates parsed.fullKey) = .ok authz)
    (hcheck : checkAuthz A parsed authz l0.nowMs = .ok ()) :
    authenticateParsed A l0 parsed s = (.ok ⟨parsed.keyId, authz.policy⟩,
      (convoyAfterAuthorize A l0 authz.epoch (s.storeCached authz)).2) := by
  obtain ⟨_, hver, -⟩ := bind_eq_ok.mp hcheck
  have hhit : cacheHit A s parsed l0.nowMs = .ok none := by rw [cacheHit, hent]
  simp only [authenticateParsed, Op.bind_run, Op.get_run, Op.lift_run, failIf, hnot, if_false, hhit, authorizeRemote,
    hauth, hcheck, storeCache, hver, Op.modify_run, Op.discard_run]
  rfl

end LetIn

/-- **When a key that is let in is not revoked.**  After any calls whatever, a call that lets a key in leaves it out of
the revocation set exactly when its own convoy did not revoke it: nothing looks at the set again after the convoy. -/
theorem authenticate_ok_not_revoked_iff (A : RemoteAuthenticator) (calls : List Call) (l0 : L0Answers)
    (parsed : ParsedApiKey) (ctx : AuthContext) (s' : Shared)
    (h : authenticateParsed A l0 parsed (runAll (perform A) .fresh calls) = (.ok ctx, s')) :
    parsed.keyId ∉ s'.revocations ↔ ¬ ConvoyRevokes A l0 (runAll (perform A) .fresh calls) parsed := by
  obtain ⟨hnot, ⟨hent, rfl⟩ | ⟨hent, authz, hauth, hrev⟩⟩ := authenticateParsed_ok h
  · constructor
    · rintro - ⟨hnone, -⟩
      exact hent hnone
    · intro _
      exact hnot
  · rw [hrev, Finset.mem_union]
    constructor
    · rintro hin ⟨-, authz', hauth', hmem⟩
      obtain rfl : authz = authz' := Except.ok.inj (hauth.symm.trans hauth')
      exact hin (Or.inr hmem)
    · rintro hno (hin | hmem)
      · exact hnot hin
      · exact hno ⟨hent, authz, hauth, hmem⟩

namespace Sample

open Encoding

def l0Key : Bytes :=
  [102, 190, 126, 51, 44, 122, 69, 51, 50, 189, 157, 10, 127, 125, 176, 85, 245, 197, 239, 26, 6, 173, 166, 109, 152,
   179, 159, 182, 129, 12, 71, 58]

def keyHash : Bytes :=
  [167, 124, 244, 184, 67, 215, 40, 212, 84, 98, 25, 71, 126, 113, 130, 115, 155, 145, 188, 230, 203, 11, 60, 202, 188,
   155, 99, 23, 176, 88, 45, 7]

def authzSig : Bytes :=
  [169, 129, 16, 65, 198, 223, 83, 9, 68, 134, 232, 112, 58, 44, 243, 196, 99, 67, 204, 47, 92, 26, 232, 87, 243, 219,
   198, 43, 109, 23, 103, 119, 160, 115, 32, 137, 247, 95, 108, 101, 208, 71, 83, 218, 29, 114, 124, 84, 67, 91, 224,
   160, 179, 194, 171, 67, 198, 94, 253, 172, 104, 228, 90, 1]

def revokeSig : Bytes :=
  [19, 167, 173, 217, 218, 78, 61, 164, 188, 133, 114, 158, 241, 171, 131, 205, 111, 115, 169, 203, 3, 206, 242, 206,
   35, 38, 223, 180, 252, 243, 197, 185, 33, 206, 187, 105, 219, 83, 9, 145, 88, 97, 230, 154, 87, 230, 75, 131, 196,
   100, 108, 7, 24, 26, 195, 74, 72, 223, 122, 225, 34, 179, 184, 8]

def parsedKey : ParsedApiKey where
  keyId := "tcak_ab12CD34"
  secret := List.replicate 32 'A'
  fullKey := "sk-teechat-tcak_ab12CD34.".toList ++ List.replicate 32 'A'

def authz : SignedAuthz where
  authzVersion := 1
  keyId := parsedKey.keyId
  keyHashHex := hexEncode keyHash
  accountId := "usr"
  policy := ⟨["*"], 120, "api", none, none, none⟩
  expMs := 2000
  epoch := 5
  signatureHex := hexEncode authzSig

def revocation : SignedRevocation := ⟨1, parsedKey.keyId, 900, 5, hexEncode revokeSig⟩

def bareTables : CrateTables where
  sha256 := [(utf8 parsedKey.fullKey, keyHash)]

def authTables : CrateTables :=
  { bareTables with
    signatures := [(l0Key, authz.unsignedBytes bareTables.crates, authzSig),
      (l0Key, revocation.unsignedBytes bareTables.crates, revokeSig)] }

def authenticator : RemoteAuthenticator := ⟨authTables.crates, l0Key⟩

def answers (delta : RevocationDelta) : L0Answers where
  authorize _ _ := .ok authz
  fetchRevocations _ := .ok delta
  nowMs := 1000

lemma let_in (delta : RevocationDelta) : authenticateParsed authenticator (answers delta) parsedKey .fresh =
    (.ok ⟨parsedKey.keyId, authz.policy⟩,
      (convoyAfterAuthorize authenticator (answers delta) 5 (Shared.fresh.storeCached authz)).2) := by
  have hcheck : checkAuthz authenticator parsedKey authz (answers delta).nowMs = .ok () :=
    toOption_eq_some.mp (show toOption (checkAuthz authenticator parsedKey authz 1000) = some () by decide +kernel)
  exact authenticateParsed_of_remote (Finset.notMem_empty _) rfl rfl hcheck

lemma applied_revocation : appliedKeys authenticator [revocation] = {parsedKey.keyId} := by decide +kernel

def revoking : L0Answers := answers ⟨5, [revocation]⟩

def quiet : L0Answers := answers ⟨5, []⟩

end Sample

open Sample in
/-- The convoy of a call revokes its key, and the call lets the key in. -/
theorem authenticate_ok_revoked_by_convoy : ∃ ctx s',
    authenticateParsed authenticator revoking parsedKey .fresh = (.ok ctx, s') ∧ parsedKey.keyId ∈ s'.revocations := by
  refine ⟨_, _, let_in ⟨5, [revocation]⟩, ?_⟩
  rw [convoy_revocations]
  have hkeys : convoyKeys authenticator (answers ⟨5, [revocation]⟩) (Shared.fresh.storeCached authz) 5 =
      appliedKeys authenticator [revocation] := rfl
  rw [hkeys, applied_revocation]
  exact Finset.mem_union_right _ (Finset.mem_singleton_self _)

open Sample in
theorem authenticate_ok_not_revoked_iff_sample : ∃ s',
    authenticateParsed authenticator quiet parsedKey (runAll (perform authenticator) .fresh []) =
      (.ok ⟨parsedKey.keyId, authz.policy⟩, s') ∧
    (parsedKey.keyId ∉ s'.revocations ↔
      ¬ ConvoyRevokes authenticator quiet (runAll (perform authenticator) .fresh []) parsedKey) :=
  ⟨_, let_in ⟨5, []⟩, authenticate_ok_not_revoked_iff authenticator [] quiet parsedKey _ _ (let_in ⟨5, []⟩)⟩

end TeechatOpenapi.Core
