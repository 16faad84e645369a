import TeechatOpenapi.Core.RemoteAuth

/-!
# Every key that is let in was authorized by L0

A run is watched from outside: next to the shared fields stands the list of the authorizations that L0 has returned so
far (`Observed`).  A cache entry is one of these and is filed under its own key id (`Observed.CacheReturned`).
-/

namespace TeechatOpenapi.Core

open Lib

/-- What L0 returns in a call: it is asked when the key is neither revoked nor in the cache. -/
def returnedIn (A : RemoteAuthenticator) (s : Shared) : Call → List SignedAuthz
  | .authenticate l0 parsed =>
    if parsed.keyId ∈ s.revocations then []
    else match cacheHit A s parsed l0.nowMs with
      | .ok none => (toOption (l0.authorize parsed.keyId (hashApiKey A.crates parsed.fullKey))).toList
      | _ => []
  | .revoke _ => []
  | .sync _ => []

/-- The shared fields, and the authorizations that L0 has returned so far. -/
structure Observed where
  shared : Shared
  returned : List SignedAuthz

def Observed.start : Observed := ⟨.fresh, []⟩

def observe (A : RemoteAuthenticator) (o : Observed) (c : Call) : Observed :=
  ⟨perform A o.shared c, o.returned ++ returnedIn A o.shared c⟩

/-- Every entry of the cache after was there before. -/
def Shared.Forgets (s s' : Shared) : Prop := ∀ k a, s'.cache k = some a → s.cache k = some a

lemma Shared.Forgets.refl (s : Shared) : s.Forgets s := fun _ _ h => h

lemma Shared.Forgets.trans (s₁ s₂ s₃ : Shared) (h₁ : s₁.Forgets s₂) (h₂ : s₂.Forgets s₃) : s₁.Forgets s₃ :=
  fun k a h => h₁ k a (h₂ k a h)

lemma Shared.forgets_removeCached (s : Shared) (keyId : Str) : s.Forgets (s.removeCached keyId) := by
  intro k a h
  by_cases hk : k = keyId
  · subst hk
    simp [Shared.removeCached] at h
  · simpa [Shared.removeCached, Function.update_of_ne hk] using h

section Steps

variable (A : RemoteAuthenticator) (l0 : L0Answers)

lemma applyRevocation_forgets (r : SignedRevocation) : Op.Within Shared.Forgets (applyRevocation A r) := by
  refine Op.Within.bind Shared.Forgets.trans (Op.Within.lift Shared.Forgets.refl _) fun _ => ?_
  refine Op.Within.bind Shared.Forgets.trans (fun s => ?_) fun _ s => s.forgets_removeCached r.keyId
  exact Shared.Forgets.refl s

lemma applyFrames_forgets (frames : List SignedRevocation) : Op.Within Shared.Forgets (applyFrames A frames) := by
  induction frames with
  | nil => exact Op.Within.pure Shared.Forgets.refl ()
  | cons r rest ih => exact Op.Within.bind Shared.Forgets.trans (applyRevocation_forgets A r) fun _ => ih

lemma sync_forgets : Op.Within Shared.Forgets (syncRevocationsFromL0 A l0) := by
  refine Op.Within.bind Shared.Forgets.trans (Op.Within.get Shared.Forgets.refl) fun s => ?_
  refine Op.Within.bind Shared.Forgets.trans (Op.Within.lift Shared.Forgets.refl _) fun delta => ?_
  refine Op.Within.bind Shared.Forgets.trans (applyFrames_forgets A delta.revocations) fun _ => ?_
  refine Op.Within.bind Shared.Forgets.trans (fun s₁ => ?_) fun _ => Op.Within.pure Shared.Forgets.refl _
  -- the epoch is stored beside the cache
  show s₁.Forgets (if s.localEpoch < delta.epoch then s₁.storeEpoch delta.epoch else s₁)
  split
  · exact Shared.Forgets.refl s₁
  · exact Shared.Forgets.refl s₁

lemma convoy_forgets (authzEpoch : Nat) : Op.Within Shared.Forgets (convoyAfterAuthorize A l0 authzEpoch) := by
  refine Op.Within.bind Shared.Forgets.trans (Op.Within.get Shared.Forgets.refl) fun s => ?_
  by_cases h : s.localEpoch < authzEpoch
  · rw [if_pos h]
    exact Op.Within.bind Shared.Forgets.trans (sync_forgets A l0) fun _ => Op.Within.pure Shared.Forgets.refl ()
  · rw [if_neg h]
    exact Op.Within.pure Shared.Forgets.refl ()

/-- What a remote authorization does to the shared fields: nothing, or it stores the answer and follows it. -/
lemma authorizeRemote_state (parsed : ParsedApiKey) (s : Shared) :
    (authorizeRemote A l0 parsed s).2 = s ∨
      ∃ authz, l0.authorize parsed.keyId (hashApiKey A.crates parsed.fullKey) = .ok authz ∧
        (authorizeRemote A l0 parsed s).2 = (convoyAfterAuthorize A l0 authz.epoch (s.storeCached authz)).2 := by
  simp only [authorizeRemote, storeCache, Op.bind_run, Op.lift_run]
  rcases hauth : l0.authorize parsed.keyId (hashApiKey A.crates parsed.fullKey) with e | authz
  · exact Or.inl rfl
  · dsimp only
    rcases hcheck : checkAuthz A parsed authz l0.nowMs with e | u
    · exact Or.inl rfl
    · dsimp only
      rcases hver : authz.verifySignature A.crates A.verifyKey with e | v
      · exact Or.inl rfl
      · exact Or.inr ⟨authz, rfl, rfl⟩

variable {A l0}

/-- An entry of the cache after a call was there before, or is what L0 returned in the call, under its own id. -/
lemma perform_cache {s : Shared} {c : Call} {k : Str} {a : SignedAuthz} (h : (perform A s c).cache k = some a) :
    s.cache k = some a ∨ (a.keyId = k ∧ a ∈ returnedIn A s c) := by
  cases c with
  | revoke r => exact Or.inl (applyRevocation_forgets A r s k a h)
  | sync l0 => exact Or.inl (sync_forgets A l0 s k a h)
  | authenticate l0 parsed =>
    simp only [perform, authenticateParsed, Op.bind_run, Op.get_run, Op.lift_run] at h
    by_cases hrev : parsed.keyId ∈ s.revocations
    · rw [failIf, if_pos hrev] at h
      exact Or.inl h
    · rw [failIf, if_neg hrev] at h
      rcases hhit : cacheHit A s parsed l0.nowMs with e | _ | ctx
      · rw [hhit] at h
        exact Or.inl h
      · rw [hhit] at h
        obtain hs | ⟨authz, hauth, hs⟩ := authorizeRemote_state A l0 parsed s
        · have hsame : (authorizeRemote A l0 parsed s).2.cache k = some a := h
          rw [hs] at hsame
          exact Or.inl hsame
        · have hstored : (authorizeRemote A l0 parsed s).2.cache k = some a := h
          rw [hs] at hstored
          -- the convoy only removes entries, so the entry is in the cache that holds the answer
          have hin : (s.storeCached authz).cache k = some a := convoy_forgets A l0 authz.epoch _ k a hstored
          by_cases hk : k = authz.keyId
          · subst hk
            obtain rfl : authz = a := by simpa [Shared.storeCached] using hin
            refine Or.inr ⟨rfl, ?_⟩
            simp [returnedIn, hrev, hhit, hauth, toOption]
          · refine Or.inl ?_
            simpa [Shared.storeCached, Function.update_of_ne hk] using hin
      · rw [hhit] at h
        exact Or.inl h

end Steps

/-- Every entry of the cache is filed under its own key id and is an authorization that L0 has returned. -/
def Observed.CacheReturned (o : Observed) : Prop :=
  ∀ k a, o.shared.cache k = some a → a.keyId = k ∧ a ∈ o.returned

lemma observe_cacheReturned {A : RemoteAuthenticator} {o : Observed} (c : Call) (h : o.CacheReturned) :
    (observe A o c).CacheReturned := by
  intro k a ha
  obtain hold | ⟨hk, hnew⟩ := perform_cache ha
  · obtain ⟨hk, hmem⟩ := h k a hold
    exact ⟨hk, List.mem_append_left _ hmem⟩
  · exact ⟨hk, List.mem_append_right _ hnew⟩

lemma runAll_cacheReturned (A : RemoteAuthenticator) (calls : List Call) :
    (runAll (observe A) .start calls).CacheReturned := by
  refine runAll_inv (P := fun _ => True) (fun o c _ h => observe_cacheReturned c h) (fun _ _ => trivial) ?_
  intro k a h
  simp [Observed.start, Shared.fresh] at h

/-- An authorization vouches for a key at a time: it verifies, it is for the full key and for the key's id, it has not
expired, and it carries the policy of the context. -/
structure SignedAuthz.Vouches (a : SignedAuthz) (A : RemoteAuthenticator) (parsed : ParsedApiKey) (ctx : AuthContext)
    (nowMs : Nat) : Prop where
  signature : a.verifySignature A.crates A.verifyKey = .ok ()
  keyHash : a.keyHashHex = hashApiKey A.crates parsed.fullKey
  expires : nowMs < a.expMs
  policy : a.policy = ctx.policy
  keyId : a.keyId = parsed.keyId

/-- When L0 is asked about a key in a call, the authorization it returns names that key. -/
def AnswerNamesKey (A : RemoteAuthenticator) (l0 : L0Answers) (s : Shared) (parsed : ParsedApiKey) : Prop :=
  cachedEntry A s parsed l0.nowMs = none →
    ∀ authz, l0.authorize parsed.keyId (hashApiKey A.crates parsed.fullKey) = .ok authz → authz.keyId = parsed.keyId

section LetIn

variable {A : RemoteAuthenticator} {l0 : L0Answers} {s : Shared} {parsed : ParsedApiKey} {ctx : AuthContext}

lemma cachedEntry_eq_some {nowMs : Nat} {e : SignedAuthz} (h : cachedEntry A s parsed nowMs = some e) :
    s.cache parsed.keyId = some e ∧ nowMs < e.expMs ∧ e.keyHashHex = hashApiKey A.crates parsed.fullKey := by
  obtain ⟨hcache, hfilter⟩ := Option.filter_eq_some_iff.mp h
  obtain ⟨hexp, hhash⟩ := of_decide_eq_true hfilter
  exact ⟨hcache, hexp, utf8_injective hhash⟩

lemma checkAuthz_eq_ok {authz : SignedAuthz} {nowMs : Nat} (h : checkAuthz A parsed authz nowMs = .ok ()) :
    authz.verifySignature A.crates A.verifyKey = .ok () ∧ nowMs < authz.expMs ∧
      authz.keyHashHex = hashApiKey A.crates parsed.fullKey := by
  obtain ⟨_, hver, h⟩ := bind_eq_ok.mp h
  obtain ⟨_, hexp, hhash⟩ := bind_eq_ok.mp h
  exact ⟨hver, not_le.mp (failIf_eq_ok.mp hexp), utf8_injective (not_not.mp (failIf_eq_ok.mp hhash))⟩

lemma mem_returnedIn {authz : SignedAuthz} (hnot : parsed.keyId ∉ s.revocations)
    (hent : cachedEntry A s parsed l0.nowMs = none)
    (hauth : l0.authorize parsed.keyId (hashApiKey A.crates parsed.fullKey) = .ok authz) :
    authz ∈ returnedIn A s (.authenticate l0 parsed) := by
  have hhit : cacheHit A s parsed l0.nowMs = .ok none := by rw [cacheHit, hent]
  simp [returnedIn, hnot, hhit, hauth, toOption]

end LetIn

/-- **Authorization over runs.**  Whatever was called before and whatever L0 answered, a key that is let in has an
authorization that L0 returned earlier or in this call and that vouches for it, if the answer to this call, when there
is one, names the key. -/
theorem authenticate_ok_authorized (A : RemoteAuthenticator) (calls : List Call) (l0 : L0Answers)
    (parsed : ParsedApiKey) (ctx : AuthContext) (s' : Shared)
    (hnames : AnswerNamesKey A l0 (runAll (observe A) .start calls).shared parsed)
    (h : authenticateParsed A l0 parsed (runAll (observe A) .start calls).shared = (.ok ctx, s')) :
    ∃ a ∈ (runAll (observe A) .start (calls ++ [.authenticate l0 parsed])).returned,
      a.Vouches A parsed ctx l0.nowMs := by
  rw [runAll_append, runAll_singleton]
  obtain ⟨hnot, ⟨e, hent, hver, rfl, -⟩ | ⟨hent, authz, hauth, hcheck, rfl, -⟩⟩ := authenticateParsed_eq_ok h
  · -- a hit: the entry is filed under the id it was looked up by
    obtain ⟨hcache, hexp, hhash⟩ := cachedEntry_eq_some hent
    obtain ⟨hid, hmem⟩ := runAll_cacheReturned A calls _ _ hcache
    exact ⟨e, List.mem_append_left _ hmem, hver, hhash, hexp, rfl, hid⟩
  · obtain ⟨hver, hexp, hhash⟩ := checkAuthz_eq_ok hcheck
    exact ⟨authz, List.mem_append_right _ (mem_returnedIn hnot hent hauth), hver, hhash, hexp, rfl,
      hnames hent authz hauth⟩

namespace Sample

def misnamedSig : Bytes :=
  [197, 159, 28, 237, 233, 206, 110, 154, 43, 60, 195, 16, 34, 237, 147, 2, 208, 153, 199, 200, 119, 18, 90, 68, 12,
   28, 81, 187, 39, 210, 41, 250, 30, 239, 105, 111, 159, 232, 2, 139, 80, 174, 217, 27, 149, 58, 174, 186, 166, 173,
   187, 80, 111, 76, 114, 245, 49, 228, 190, 254, 110, 92, 205, 5]

def misnamed : SignedAuthz :=
  { authz with keyId := "tcak_zz99YY88", signatureHex := Encoding.hexEncode misnamedSig }

def misnamedTables : CrateTables :=
  { bareTables with signatures := [(l0Key, misnamed.unsignedBytes bareTables.crates, misnamedSig)] }

def misnamedAuthenticator : RemoteAuthenticator := ⟨misnamedTables.crates, l0Key⟩

def misnaming : L0Answers where
  authorize _ _ := .ok misnamed
  fetchRevocations _ := .ok ⟨5, []⟩
  nowMs := 1000

lemma checkAuthz_misnamed : checkAuthz misnamedAuthenticator parsedKey misnamed 1000 = .ok () :=
  toOption_eq_some.mp (show toOption (checkAuthz misnamedAuthenticator parsedKey misnamed 1000) = some () by
    decide +kernel)

end Sample

open Sample in
/-- The first call of a run lets a key in, and no authorization that L0 returned is for that key. -/
theorem authenticate_ok_misnamed : ∃ ctx s',
    authenticateParsed misnamedAuthenticator misnaming parsedKey
      (runAll (observe misnamedAuthenticator) .start []).shared = (.ok ctx, s') ∧
    ∀ a ∈ (runAll (observe misnamedAuthenticator) .start [.authenticate misnaming parsedKey]).returned,
      a.keyId ≠ parsedKey.keyId := by
  refine ⟨_, _, authenticateParsed_of_remote (Finset.notMem_empty _) rfl rfl checkAuthz_misnamed, ?_⟩
  intro a ha
  have hreturned : (runAll (observe misnamedAuthenticator) .start [.authenticate misnaming parsedKey]).returned =
      [misnamed] := rfl
  rw [hreturned, List.mem_singleton] at ha
  subst ha
  decide

open Sample in
theorem authenticate_ok_authorized_sample : ∃ s',
    authenticateParsed authenticator quiet parsedKey (runAll (observe authenticator) .start []).shared =
      (.ok ⟨parsedKey.keyId, authz.policy⟩, s') ∧
    ∃ a ∈ (runAll (observe authenticator) .start [.authenticate quiet parsedKey]).returned,
      a.Vouches authenticator parsedKey ⟨parsedKey.keyId, authz.policy⟩ 1000 := by
  refine ⟨_, let_in ⟨5, []⟩, authenticate_ok_authorized authenticator [] quiet parsedKey _ _ ?_ (let_in ⟨5, []⟩)⟩
  intro _ a ha
  obtain rfl : authz = a := Except.ok.inj ha
  rfl

end TeechatOpenapi.Core
