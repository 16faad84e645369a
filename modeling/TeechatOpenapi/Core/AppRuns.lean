import TeechatOpenapi.Core.Admission
import TeechatOpenapi.Core.RateLimit
import TeechatOpenapi.Core.ThreadOutcomes

/-!
# Runs of the request handler (`openapi-core/src/handler.rs`)

Requests are served one after another, from whatever state the ones before have left.
-/

namespace TeechatOpenapi.Core

open Lib

section Within

variable {X : Crates} {A : App X} {E : Answers} {req : EdgeRequest}

/-- The parts of the state that admission rests on. -/
def AppState.guards (s : AppState) : Buckets × Shared × Buckets := (s.ipRateLimiter, s.authenticator, s.rateLimiter)

lemma Sends.fixes_guards (target : HttpMethod × Str) (keyId : Str) {x : Op AppState (Fault ApiError) AppResponse}
    (h : Sends target keyId True x) : Op.Fixes AppState.guards x := by
  intro s
  obtain ⟨made, hstate, -⟩ := h s
  rw [hstate]
  rfl

lemma handleAttestation_fixes_guards : Op.Fixes AppState.guards (handleAttestation A E req) := by
  unfold handleAttestation
  split
  · exact Op.Fixes.lift _ _
  · refine Op.Fixes.bind (Op.Fixes.returning (Op.Fixes.on ?_ _)) fun _ =>
      Op.Fixes.bind (Op.Fixes.returning (Op.Fixes.on ?_ _)) fun _ => Op.Fixes.bind ?_ fun _ => Op.Fixes.lift _ _
    · exact fun _ _ => rfl
    · exact fun _ _ => rfl
    · exact fun _ => rfl

/-- **What every request respects**: a relation that looks at the guards only, that can be chained, and that asking the
limiters and the authenticator respects. -/
theorem handleFromEx_within {R : AppState → AppState → Prop} (hsame : ∀ s s', s'.guards = s.guards → R s s')
    (htrans : ∀ s₁ s₂ s₃, R s₁ s₂ → R s₂ s₃ → R s₁ s₃)
    (hip : ∀ s, R s { s with ipRateLimiter := (enforceIpApiLimit A E req.clientIp s.ipRateLimiter).2 })
    (hauth : ∀ s, R s
      { s with authenticator := (A.authenticator.authenticateBearer E.l0 req.authorization s.authenticator).2 })
    (hkey : ∀ auth s, R s { s with rateLimiter := (enforceRateLimit A E auth s.rateLimiter).2 }) :
    Op.Within R (handleFromEx A E req) := by
  have hfixes {α : Type} {x : Op AppState (Fault ApiError) α} (h : Op.Fixes AppState.guards x) : Op.Within R x :=
    fun s => hsame _ _ (h s)
  have hidentify : Op.Within R (identify A E req) := Op.Within.bind htrans hip fun _ => hauth
  have hpass : Op.Within R (passChecks A E req) := by
    refine Op.Within.bind htrans (hfixes (Op.Fixes.get _)) fun _ => Op.Within.bind htrans (hfixes (Op.Fixes.lift _ _))
      fun _ => Op.Within.bind htrans hidentify fun auth => ?_
    exact Op.Within.bind htrans (hkey auth) fun _ => hfixes (Op.Fixes.pure _ _)
  unfold handleFromEx
  rcases normalizePath req.path with action | path
  · exact hfixes (Op.Fixes.lift _ _)
  · dsimp only
    unfold handleRoute
    cases classify req.method path A.config.proxyMode with
    | attestation => exact hfixes handleAttestation_fixes_guards
    | modelsList =>
      exact Op.Within.bind htrans hpass fun _ => hfixes (Sends.fixes_guards _ _ (Sends.call nofun rfl rfl trivial))
    | inferencePost =>
      refine Op.Within.bind htrans hpass fun auth => hfixes (Sends.fixes_guards (.post, path) auth.keyId
        (Sends.check_bind fun _ _ => Sends.check_bind fun _ _ => ?_))
      split
      · next hchat =>
        rw [hchat]
        exact handleChatCompletions_sends E req.body trivial
      · exact handleInferencePost_sends E path req.body trivial
    | proxyGet | proxyPost =>
      exact Op.Within.bind htrans hpass fun _ =>
        hfixes (Sends.fixes_guards _ _ (Sends.check_bind fun _ _ => sendProxied_sends E path trivial))
    | notImplemented reason => exact Op.Within.bind htrans hidentify fun _ => hfixes (Op.Fixes.lift _ _)
    | status => exact hfixes ((Op.Fixes.get _).bind fun _ => Op.Fixes.lift_bind fun _ => Op.Fixes.pure _ _)
    | health => exact hfixes (Op.Fixes.pure _ _)
    | methodNotAllowed | notFound => exact hfixes (Op.Fixes.lift _ _)

end Within

/-- The keys that a request has something sent to upstream for: in a call, or in a passthrough. -/
def sentFor {X : Crates} (A : App X) (E : Answers) (req : EdgeRequest) (s : AppState) : List Str :=
  ((handleFromEx A E req s).2.upstreamCalls.drop s.upstreamCalls.length).map (fun c => c.ctx.keyId) ++
    match (handleFromEx A E req s).1 with
    | .ok (.ssePassthrough p) => [p.keyId]
    | _ => []

lemma admitted_of_sent {X : Crates} {A : App X} {E : Answers} {req : EdgeRequest} {s : AppState} {keyId : Str}
    (h : keyId ∈ sentFor A E req s) :
    ∃ auth, Admitted A E req s (handleFromEx A E req s).2 auth ∧ auth.keyId = keyId := by
  have hgated : ∃ path P, Gated A E req path P (handleFromEx A E req) := by
    unfold handleFromEx
    rcases hpath : normalizePath req.path with action | path
    · exact ⟨[], fun _ => True, check_error_quiet A _ _ _ _ _⟩
    · exact ⟨path, _, handleRoute_gated A _ _ (normalizePath_spec hpath)⟩
  obtain ⟨path, P, hgated⟩ := hgated
  obtain ⟨made, hcalls, hgate⟩ := hgated s
  rcases List.mem_append.mp h with hcall | hpass
  · obtain ⟨c, hc, rfl⟩ := List.mem_map.mp hcall
    rw [hcalls, List.drop_left] at hc
    obtain ⟨auth, hadmitted, hcarries, -⟩ := hgate (Or.inl (List.ne_nil_of_mem hc))
    exact ⟨auth, hadmitted, (hcarries.calls c hc).2.symm⟩
  · split at hpass
    · rename_i p hp
      obtain ⟨auth, hadmitted, hcarries, -⟩ := hgate (Or.inr ⟨p, hp⟩)
      rw [List.mem_singleton.mp hpass]
      exact ⟨auth, hadmitted, (hcarries.passthrough p hp).2.symm⟩
    · cases hpass

section Revoked

variable {R : RemoteAuthenticator}

/-- A call is what a thread does on its own, and no step of a thread forgets a revocation. -/
lemma sequential_revocations (l0 : L0Answers) (task : Task) (s : Shared) :
    s.revocations ⊆ (task.sequential R l0 s).2.revocations := by
  obtain ⟨w, halone, -, hshared⟩ := alone_rest R l0 task (t := 0) (w := { World.fresh with shared := s }) rfl
  have hgrows := halone.revocations
  rw [hshared] at hgrows
  exact hgrows

lemma perform_revocations (s : Shared) (c : Call) : s.revocations ⊆ (perform R s c).revocations := by
  have hstate {α β : Type} (x : Op Shared ApiError α) (f : α → β) : ((x >>= fun a => pure (f a)) s).2 = (x s).2 := by
    rw [Op.bind_run]
    rcases x s with ⟨e | a, s₁⟩ <;> rfl
  cases c with
  | revoke r =>
    rcases hv : verifies R r
    · rw [perform, (applyRevocation_of_not_verifies hv s).1]
    · rw [perform, applyRevocation_of_verifies hv]
      exact Finset.subset_insert _ _
  | sync l0 =>
    rw [perform, ← hstate _ fun _ => ()]
    exact sequential_revocations l0 .sync s
  | authenticate l0 parsed =>
    rw [perform, ← hstate _ some]
    exact sequential_revocations l0 (.authenticate parsed) s

lemma authenticateBearer_revocations (l0 : L0Answers) (authorization : Option Str) :
    Op.Within (fun s s' => s.revocations ⊆ s'.revocations) (authenticateBearer R l0 authorization) := by
  have hcheck {α β : Type} {y : Except ApiError α} {f : α → Op Shared ApiError β}
      (h : ∀ a, Op.Within (fun s s' => s.revocations ⊆ s'.revocations) (f a)) :
      Op.Within (fun s s' => s.revocations ⊆ s'.revocations) (Op.lift y >>= f) :=
    Op.Within.bind (fun _ _ _ => subset_trans) (fun _ => subset_rfl) h
  exact hcheck fun _ => hcheck fun _ => hcheck fun _ => hcheck fun parsed s =>
    perform_revocations s (.authenticate l0 parsed)

variable {X : Crates} {A : App X}

lemma handleFromEx_revocations (hA : A.authenticator = .remote R) (E : Answers) (req : EdgeRequest) (s : AppState) :
    s.authenticator.revocations ⊆ (handleFromEx A E req s).2.authenticator.revocations := by
  refine handleFromEx_within (R := fun s s' => s.authenticator.revocations ⊆ s'.authenticator.revocations) ?_
    (fun _ _ _ => subset_trans) (fun _ => subset_rfl) (fun s => ?_) (fun _ _ => subset_rfl) s
  · intro s s' h
    rw [(Prod.mk.inj (Prod.mk.inj h).2).1]
  · rw [hA]
    exact authenticateBearer_revocations _ _ _

lemma authenticateBearer_not_revoked {l0 : L0Answers} {authorization : Option Str} {s s' : Shared}
    {auth : AuthContext} (h : authenticateBearer R l0 authorization s = (.ok auth, s')) :
    auth.keyId ∉ s.revocations := by
  obtain ⟨_, -, h⟩ := Op.lift_bind_eq_ok.mp h
  obtain ⟨_, -, h⟩ := Op.lift_bind_eq_ok.mp h
  obtain ⟨_, -, h⟩ := Op.lift_bind_eq_ok.mp h
  obtain ⟨_, -, h⟩ := Op.lift_bind_eq_ok.mp h
  obtain ⟨hnot, ⟨_, -, -, rfl, -⟩ | ⟨-, _, -, -, rfl, -⟩⟩ := authenticateParsed_eq_ok h <;> exact hnot

end Revoked

/-- What happens to an edge: a request is served, or a call of the authenticator is made beside the requests. -/
def AppState.next {X : Crates} (A : App X) (R : RemoteAuthenticator) (s : AppState) :
    (Answers × EdgeRequest) ⊕ Call → AppState
  | .inl (E, req) => (handleFromEx A E req s).2
  | .inr c => { s with authenticator := perform R s.authenticator c }

/-- **A revoked key reaches upstream no more.**  From any state in which a key is revoked, after any requests with any
answers of L0 and of upstream, and any revocations and syncs between them, nothing is sent to upstream for that key. -/
theorem revoked_never_sent {X : Crates} (A : App X) (R : RemoteAuthenticator) (hA : A.authenticator = .remote R)
    (events : List ((Answers × EdgeRequest) ⊕ Call)) (s : AppState) (keyId : Str)
    (hrev : keyId ∈ s.authenticator.revocations) (E : Answers) (req : EdgeRequest) :
    keyId ∉ sentFor A E req (runAll (AppState.next A R) s events) := by
  have hkept : keyId ∈ (runAll (AppState.next A R) s events).authenticator.revocations := by
    refine runAll_inv (P := fun _ => True) (I := fun s : AppState => keyId ∈ s.authenticator.revocations) ?_
      (fun _ _ => trivial) hrev
    rintro s (⟨E, req⟩ | c) - h
    · exact handleFromEx_revocations hA E req s h
    · exact perform_revocations s.authenticator c h
  intro hsent
  obtain ⟨auth, hadmitted, rfl⟩ := admitted_of_sent hsent
  have hauth := hadmitted.authenticated
  rw [hA] at hauth
  exact authenticateBearer_not_revoked hauth hkept

open Sample in
theorem revoked_never_sent_sample : parsedKey.keyId ∉ sentFor embedApp embedAnswers embedRequest
    (runAll (AppState.next embedApp authenticator)
      { embedState with authenticator := Shared.fresh.insertRevoked parsedKey.keyId }
      [.inl (embedAnswers, embedRequest), .inr (.sync quiet)]) :=
  revoked_never_sent embedApp authenticator rfl _ _ _ (Finset.mem_insert_self _ _) _ _

/-- A run of requests, with the instants at which something was sent to upstream for one client address. -/
structure Load where
  state : AppState
  sent : List Nat

def Load.next {X : Crates} (A : App X) (ip : Str) (l : Load) : Answers × EdgeRequest → Load
  | (E, req) =>
    ⟨(handleFromEx A E req l.state).2, if req.clientIp.getD "unknown" = ip ∧ sentFor A E req l.state ≠ [] then
      l.sent ++ [E.ipInstant] else l.sent⟩

section Load

variable {X : Crates} {A : App X} {ip : Str} {rpm : UInt32}

/-- The limiter has counted every instant of a log, and none of its windows starts after `now`. -/
def Logged (ip : Str) (rpm : UInt32) (now : Nat) (b : Buckets) (log : List Nat) : Prop :=
  ∃ s : Limiter, s.buckets = b ∧ s.Kept ip rpm.toNat ∧ (∀ bucket, b ip = some bucket → bucket.windowStart ≤ now) ∧
    log.Sublist ((s.admittedFor ip).map fun e => e.call.instant)

variable (hpos : rpm.toNat ≠ 0) (hA : A.limits.ipRequestsPerMinute = rpm.toNat)

include hpos hA

lemma Logged.ask {E : Answers} (clientIp : Option Str) {b : Buckets} {log : List Nat}
    (h : Logged ip rpm E.ipInstant b log) :
    Logged ip rpm E.ipInstant (enforceIpApiLimit A E clientIp b).2
      (if clientIp.getD "unknown" = ip ∧ (enforceIpApiLimit A E clientIp b).1.isOk then log ++ [E.ipInstant]
        else log) := by
  obtain ⟨s, rfl, hkept, hdue, hsub⟩ := h
  rw [enforceIpApiLimit, hA, if_neg hpos]
  obtain ⟨hkept, hdue⟩ := hkept.serve (c := ⟨E.ipInstant, clientIp.getD "unknown", rpm⟩) hpos hdue fun _ => rfl
  refine ⟨_, rfl, hkept, hdue, ?_⟩
  simp only [Limiter.serve, Limiter.admittedFor, List.filter_append, List.map_append] at hsub ⊢
  split
  · next hok =>
    rw [List.filter_cons_of_pos (by exact decide_eq_true hok)]
    exact hsub.append (List.Sublist.refl _)
  · exact hsub.trans (List.sublist_append_left _ _)

lemma Logged.next {l : Load} {E : Answers} {req : EdgeRequest}
    (h : Logged ip rpm E.ipInstant l.state.ipRateLimiter l.sent) :
    Logged ip rpm E.ipInstant (l.next A ip (E, req)).state.ipRateLimiter (l.next A ip (E, req)).sent := by
  simp only [Load.next]
  split
  · next hsent =>
    obtain ⟨keyId, hkey⟩ := List.exists_mem_of_ne_nil _ hsent.2
    obtain ⟨auth, hadmitted, -⟩ := admitted_of_sent hkey
    have hask := h.ask hpos hA req.clientIp
    rwa [hadmitted.ipLimit, if_pos ⟨hsent.1, rfl⟩] at hask
  · refine handleFromEx_within (R := fun s s' => ∀ log, Logged ip rpm E.ipInstant s.ipRateLimiter log →
      Logged ip rpm E.ipInstant s'.ipRateLimiter log) ?_ (fun _ _ _ h₁ h₂ log h => h₂ log (h₁ log h)) ?_
      (fun _ _ h => h) (fun _ _ _ h => h) l.state l.sent h
    · intro s s' hsame log h
      rwa [(Prod.mk.inj hsame).1]
    · intro s log h
      obtain ⟨s, hs, hkept, hdue, hsub⟩ := h.ask hpos hA req.clientIp
      refine ⟨s, hs, hkept, hdue, List.Sublist.trans ?_ hsub⟩
      split
      · exact List.sublist_append_left _ _
      · exact List.Sublist.refl _

lemma Logged.run {visits : List (Answers × EdgeRequest)}
    (hclock : visits.Pairwise fun v w => v.1.ipInstant ≤ w.1.ipInstant)
    {now : Nat} (hnow : ∀ v ∈ visits, now ≤ v.1.ipInstant) {l : Load}
    (h : Logged ip rpm now l.state.ipRateLimiter l.sent) :
    ∃ now', Logged ip rpm now' (runAll (Load.next A ip) l visits).state.ipRateLimiter
      (runAll (Load.next A ip) l visits).sent := by
  induction visits generalizing l now with
  | nil => exact ⟨now, h⟩
  | cons v visits ih =>
    obtain ⟨hfirst, hrest⟩ := List.pairwise_cons.mp hclock
    obtain ⟨s, hs, hkept, hdue, hsub⟩ := h
    have hat : Logged ip rpm v.1.ipInstant l.state.ipRateLimiter l.sent :=
      ⟨s, hs, hkept, fun b hb => (hdue b hb).trans (hnow v List.mem_cons_self), hsub⟩
    exact ih hrest hfirst (hat.next hpos hA)

end Load

/-- **The load of one client is bounded.**  From a fresh limiter, over any requests of any clients with any answers, as
long as the clock does not go back: in every minute at most twice the rate of an address is sent to upstream for it. -/
theorem client_load_bounded {X : Crates} (A : App X) (rpm : UInt32) (hrpm : 0 < rpm)
    (hA : A.limits.ipRequestsPerMinute = rpm.toNat) (ip : Str) (visits : List (Answers × EdgeRequest))
    (hclock : visits.Pairwise fun v w => v.1.ipInstant ≤ w.1.ipInstant) (s : AppState)
    (hs : s.ipRateLimiter = fun _ => none) (t : Nat) :
    ((runAll (Load.next A ip) ⟨s, []⟩ visits).sent.filter fun i => t ≤ i ∧ i < t + minute).length ≤ 2 * rpm.toNat := by
  have hstart : Logged ip rpm 0 s.ipRateLimiter [] := by
    rw [hs]
    exact ⟨.new, rfl, .new _ _, nofun, .slnil⟩
  obtain ⟨now, lim, -, hkept, -, hsub⟩ :=
    Logged.run (Nat.ne_of_gt hrpm) hA hclock (fun _ _ => Nat.zero_le _) (l := ⟨s, []⟩) hstart
  have hlen := (hsub.filter fun i => t ≤ i ∧ i < t + minute).length_le
  rw [List.filter_map, List.length_map] at hlen
  exact hlen.trans (hkept.windowed.length_interval_le t)

open Sample in
theorem client_load_bounded_sample : ((runAll (Load.next embedApp "unknown") ⟨embedState, []⟩
    [(embedAnswers, embedRequest), (embedAnswers, embedRequest)]).sent.filter fun i => 0 ≤ i ∧ i < 0 + minute).length ≤
      2 * (180 : UInt32).toNat :=
  client_load_bounded embedApp 180 (by decide) rfl "unknown" _ (List.pairwise_pair.mpr le_rfl) embedState rfl 0

end TeechatOpenapi.Core
