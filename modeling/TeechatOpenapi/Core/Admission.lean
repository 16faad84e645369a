import TeechatOpenapi.Core.Handler

/-!
# What reaches upstream

A request reaches upstream when the handler calls upstream for it or hands it on as a passthrough.
-/

namespace TeechatOpenapi.Core

open Lib Maintenance

/-- The gates have accepted a body. -/
structure BodyAccepted (X : Crates) (limits : Limits) (auth : AuthContext) (body : Bytes) : Prop where
  size : body.length ≤ limits.maxBodyBytes
  model : auth.policy.allowsModel (modelFromBody X body) = true
  quota : enforceTokenQuotaForKey X auth.policy body = .ok ()
  context : enforceMaxContext X auth.policy body = .ok ()

/-- The checks that a request has passed in a call from `s` to `s'`: the limiters and the authenticator were asked in
this call, and are left in `s'` as they were left by the checks. -/
structure Admitted {X : Crates} (A : App X) (E : Answers) (req : EdgeRequest) (s s' : AppState) (auth : AuthContext) :
    Prop where
  notHard : ∃ best, (s.maintenance.active req.nowMs none : Except (Fault ApiError) _) = .ok best ∧ ¬ IsHard best
  noHardWindow : ∀ verified, s.maintenance.inner = some verified → verified.signatureVerified = true →
    ∀ w ∈ verified.manifest.windows, ¬ w.HardAt none req.nowMs
  ipLimit : enforceIpApiLimit A E req.clientIp s.ipRateLimiter = (.ok (), s'.ipRateLimiter)
  authenticated : A.authenticator.authenticateBearer E.l0 req.authorization s.authenticator =
    (.ok auth, s'.authenticator)
  rateLimit : enforceRateLimit A E auth s.rateLimiter = (.ok (), s'.rateLimiter)

lemma refuseIfMaintenance_eq_ok {state : MaintenanceState} {nowMs : Nat}
    (h : refuseIfMaintenance state nowMs = .ok ()) :
    ∃ best, (state.active nowMs none : Except (Fault ApiError) _) = .ok best ∧ ¬ IsHard best := by
  obtain ⟨best, hbest, h⟩ := bind_eq_ok.mp h
  refine ⟨best, hbest, ?_⟩
  rintro ⟨a, rfl, ha⟩
  exact failIf_eq_ok.mp h ha

lemma active_noHardWindow {state : MaintenanceState} {nowMs : Nat} {best : Option ActiveMaintenance}
    (hactive : (state.active nowMs none : Except (Fault ApiError) _) = .ok best) (hbest : ¬ IsHard best)
    {verified : VerifiedMaintenance} (hinner : state.inner = some verified) (hsig : verified.signatureVerified = true)
    {w : MaintenanceWindow} (hw : w ∈ verified.manifest.windows) : ¬ w.HardAt none nowMs := by
  intro hhard
  rw [MaintenanceState.active, hinner] at hactive
  dsimp only at hactive
  rw [if_pos hsig] at hactive
  exact hbest (selectActive_hard hactive hw hhard)

lemma on_eq_ok {τ α : Type} {part : AppState → τ} {put : τ → AppState → AppState} {x : Op τ ApiError α}
    {s s' : AppState} {a : α} :
    AppState.on part put x s = (.ok a, s') ↔ ∃ t, x (part s) = (.ok a, t) ∧ put t s = s' :=
  Op.returning_eq_ok.trans Op.on_eq_ok

section Admit

variable {X : Crates} {A : App X} {E : Answers} {req : EdgeRequest}

/-- **What the checks have found when they pass.** -/
theorem passChecks_eq_ok {s s' : AppState} {auth : AuthContext} (h : passChecks A E req s = (.ok auth, s')) :
    Admitted A E req s s' auth := by
  rw [passChecks, Op.get_bind] at h
  obtain ⟨_, hmaintenance, h⟩ := Op.lift_bind_eq_ok.mp h
  obtain ⟨auth', s₁, hidentify, h⟩ := Op.bind_eq_ok.mp h
  obtain ⟨_, s₂, honIp, honAuth⟩ := Op.bind_eq_ok.mp hidentify
  obtain ⟨_, s₃, honRate, h⟩ := Op.bind_eq_ok.mp h
  cases h
  obtain ⟨ips, hip, rfl⟩ := on_eq_ok.mp honIp
  obtain ⟨shared, hauth, rfl⟩ := on_eq_ok.mp honAuth
  obtain ⟨keys, hrate, rfl⟩ := on_eq_ok.mp honRate
  obtain ⟨best, hbest, hnot⟩ := refuseIfMaintenance_eq_ok hmaintenance
  refine ⟨⟨best, hbest, hnot⟩, ?_, hip, hauth, hrate⟩
  intro verified hinner hsig w hw
  exact active_noHardWindow hbest hnot hinner hsig hw

lemma passChecks_of {s : AppState} {ips keys : Buckets} {shared : Shared} {auth : AuthContext}
    (hmaintenance : refuseIfMaintenance s.maintenance req.nowMs = .ok ())
    (hip : enforceIpApiLimit A E req.clientIp s.ipRateLimiter = (.ok (), ips))
    (hauth : A.authenticator.authenticateBearer E.l0 req.authorization s.authenticator = (.ok auth, shared))
    (hrate : enforceRateLimit A E auth s.rateLimiter = (.ok (), keys)) :
    passChecks A E req s =
      (.ok auth, { s with ipRateLimiter := ips, authenticator := shared, rateLimiter := keys }) := by
  simp only [passChecks, identify, AppState.on, Op.returning, Op.on, Op.bind_run, Op.get_run, Op.lift_run, Op.pure_run,
    hmaintenance, hip, hauth, hrate, mapErr]

lemma on_fixes_calls {τ α : Type} {part : AppState → τ} {put : τ → AppState → AppState}
    (hput : ∀ t s, (put t s).upstreamCalls = s.upstreamCalls) (x : Op τ ApiError α) :
    Op.Fixes AppState.upstreamCalls (AppState.on part put x) := Op.Fixes.returning (Op.Fixes.on hput x)

lemma identify_fixes_calls : Op.Fixes AppState.upstreamCalls (identify A E req) := by
  refine Op.Fixes.bind (on_fixes_calls ?_ _) fun _ => on_fixes_calls ?_ _
  · exact fun _ _ => rfl
  · exact fun _ _ => rfl

variable (A E req) in
lemma passChecks_fixes_calls : Op.Fixes AppState.upstreamCalls (passChecks A E req) := by
  have hget : Op.Fixes AppState.upstreamCalls (Op.get : Op AppState (Fault ApiError) AppState) := fun _ => rfl
  refine hget.bind fun s => (Op.Fixes.lift _ _).bind fun _ => identify_fixes_calls.bind fun auth => ?_
  refine Op.Fixes.bind (on_fixes_calls ?_ _) fun _ => Op.Fixes.pure _ _
  exact fun _ _ => rfl

end Admit

/-- The method and the path that a call is made with: models are listed by `GET /v1/models`. -/
def UpstreamCall.target : UpstreamCall → HttpMethod × Str
  | .listModelsForKey _ _ => (.get, "/v1/models")
  | .forwardV1Ctx method path _ _ => (method, path)

/-- Something reaches upstream: a call was made, or a passthrough is returned. -/
def ReachesUpstream (made : List UpstreamCall) (r : Except (Fault ApiError) AppResponse) : Prop :=
  made ≠ [] ∨ ∃ p, r = .ok (.ssePassthrough p)

lemma not_reachesUpstream_nil {r : Except (Fault ApiError) AppResponse} (h : ∀ p, r ≠ .ok (.ssePassthrough p)) :
    ¬ ReachesUpstream [] r := by
  rintro (hne | ⟨p, hp⟩)
  · exact hne rfl
  · exact h p hp

/-- What reaches upstream is for this method and path, and carries this key. -/
structure OnlyReaches (target : HttpMethod × Str) (keyId : Str) (made : List UpstreamCall)
    (r : Except (Fault ApiError) AppResponse) : Prop where
  calls : ∀ c ∈ made, c.target = target ∧ c.ctx.keyId = keyId
  passthrough : ∀ p, r = .ok (.ssePassthrough p) → (p.method, p.path) = target ∧ p.keyId = keyId

/-- An operation sends to upstream at most what carries the key, and only if `accepted`; it changes nothing else. -/
def Sends (target : HttpMethod × Str) (keyId : Str) (accepted : Prop) (x : Op AppState (Fault ApiError) AppResponse) :
    Prop :=
  ∀ s, ∃ made, (x s).2 = { s with upstreamCalls := s.upstreamCalls ++ made } ∧ OnlyReaches target keyId made (x s).1 ∧
    (ReachesUpstream made (x s).1 → accepted)

namespace Sends

variable {target : HttpMethod × Str} {keyId : Str} {accepted : Prop}

lemma check_bind {α : Type} {y : Except ApiError α} {k : α → Op AppState (Fault ApiError) AppResponse}
    (h : ∀ a, y = .ok a → Sends target keyId accepted (k a)) :
    Sends target keyId accepted (AppState.check y >>= k) := by
  intro s
  rcases y with e | a
  · refine ⟨[], ?_, ⟨nofun, nofun⟩, fun hreaches => ?_⟩
    · rw [List.append_nil]
      rfl
    · exact absurd hreaches (not_reachesUpstream_nil nofun)
  · exact h a rfl s

lemma passthrough {p : SsePassthrough} (htarget : (p.method, p.path) = target) (hkey : p.keyId = keyId)
    (h : accepted) : Sends target keyId accepted (pure (.ssePassthrough p)) := by
  intro s
  refine ⟨[], ?_, ⟨nofun, ?_⟩, fun _ => h⟩
  · rw [List.append_nil]
    rfl
  · intro p' hp'
    cases hp'
    exact ⟨htarget, hkey⟩

lemma call {α : Type} {c : UpstreamCall} {answer : Except ApiError α} {f : α → AppResponse}
    (hf : ∀ a p, f a ≠ .ssePassthrough p) (htarget : c.target = target) (hkey : c.ctx.keyId = keyId) (h : accepted) :
    Sends target keyId accepted (callUpstream c answer >>= fun a => pure (f a)) := by
  intro s
  refine ⟨[c], ?_, ⟨?_, ?_⟩, fun _ => h⟩
  · rcases answer with e | a <;> rfl
  · intro c' hc'
    rw [List.mem_singleton.mp hc']
    exact ⟨htarget, hkey⟩
  · intro p hp
    rcases answer with e | a
    · cases hp
    · exact absurd (Except.ok.inj hp) (hf a p)

end Sends

lemma upstreamToJsonResponse_ne (X : Crates) (u : UpstreamResponse) (p : SsePassthrough) :
    upstreamToJsonResponse X u ≠ .ssePassthrough p := by
  cases u <;> exact nofun

lemma upstreamToInferenceResponse_ne (X : Crates) (u : UpstreamResponse) (p : SsePassthrough) :
    upstreamToInferenceResponse X false u ≠ .ssePassthrough p := by
  cases u <;> exact nofun

section Routes

variable {X : Crates} {A : App X} (E : Answers) {req : EdgeRequest} {auth : AuthContext} {accepted : Prop}

lemma handleInferencePost_sends (path : Str) (body : Bytes) (h : accepted) :
    Sends (.post, path) auth.keyId accepted (handleInferencePost E X auth path body) := by
  unfold handleInferencePost
  dsimp only
  split
  · exact Sends.passthrough rfl rfl h
  · exact Sends.call (upstreamToInferenceResponse_ne X) rfl rfl h

lemma handleChatCompletions_sends (body : Bytes) (h : accepted) :
    Sends (.post, "/v1/chat/completions") auth.keyId accepted (handleChatCompletions E X auth body) :=
  Sends.check_bind fun _ _ => handleInferencePost_sends E _ body h

lemma sendProxied_sends (path : Str) (h : accepted) :
    Sends (req.method, path) auth.keyId accepted (sendProxied E X req path auth) := by
  unfold sendProxied
  dsimp only
  split
  · exact Sends.passthrough rfl rfl h
  · exact Sends.call (upstreamToJsonResponse_ne X) rfl rfl h

lemma bodyAccepted_of_ok {body : Bytes} (hsize : A.limits.validateBodySize body.length = .ok ())
    (hcontent : enforceContent X auth body = .ok ()) : BodyAccepted X A.limits auth body := by
  obtain ⟨_, hmodel, hcontent⟩ := bind_eq_ok.mp hcontent
  obtain ⟨_, hquota, hcontext⟩ := bind_eq_ok.mp hcontent
  exact ⟨Nat.le_of_not_lt (failIf_eq_ok.mp hsize), not_not.mp (failIf_eq_ok.mp hmodel), hquota, hcontext⟩

lemma checkProxied_eq_ok (h : checkProxied A req auth = .ok ()) (hpost : req.method = .post) (hbody : req.body ≠ []) :
    BodyAccepted X A.limits auth req.body := by
  rw [checkProxied, if_pos hbody, if_pos ⟨hpost, hbody⟩] at h
  obtain ⟨_, hsize, hcontent⟩ := bind_eq_ok.mp h
  exact bodyAccepted_of_ok hsize hcontent

end Routes

variable {path : Str}

section Gate

variable {X : Crates} {A : App X} {E : Answers} {req : EdgeRequest}

/-- What reaches upstream was admitted, for some key, and `P` holds of that key. -/
def Gated (A : App X) (E : Answers) (req : EdgeRequest) (path : Str) (P : AuthContext → Prop)
    (x : Op AppState (Fault ApiError) AppResponse) : Prop :=
  ∀ s, ∃ made, (x s).2.upstreamCalls = s.upstreamCalls ++ made ∧
    (ReachesUpstream made (x s).1 → ∃ auth, Admitted A E req s (x s).2 auth ∧
      OnlyReaches (req.method, path) auth.keyId made (x s).1 ∧ P auth)

lemma gated_of_passChecks {P : AuthContext → Prop} {k : AuthContext → Op AppState (Fault ApiError) AppResponse}
    (hk : ∀ auth, Sends (req.method, path) auth.keyId (P auth) (k auth)) :
    Gated A E req path P (passChecks A E req >>= k) := by
  intro s
  have hcalls := passChecks_fixes_calls A E req s
  rw [Op.bind_run]
  rcases hpass : passChecks A E req s with ⟨e | auth, s₁⟩
  · -- refused: nothing is sent
    rw [hpass] at hcalls
    refine ⟨[], ?_, fun hreaches => ?_⟩
    · rw [List.append_nil]
      exact hcalls
    · exact absurd hreaches (not_reachesUpstream_nil nofun)
  · rw [hpass] at hcalls
    have hpassed := passChecks_eq_ok hpass
    obtain ⟨made, hstate, hcarries, haccepted⟩ := hk auth s₁
    dsimp only
    refine ⟨made, ?_, fun hreaches => ⟨auth, ?_, hcarries, haccepted hreaches⟩⟩
    · rw [hstate]
      exact congrArg (· ++ made) hcalls
    · -- what follows the checks leaves the limiters and the authenticator alone
      rw [hstate]
      exact ⟨hpassed.notHard, hpassed.noHardWindow, hpassed.ipLimit, hpassed.authenticated, hpassed.rateLimit⟩

lemma Gated.quiet {P : AuthContext → Prop} {x : Op AppState (Fault ApiError) AppResponse}
    (hcalls : Op.Fixes AppState.upstreamCalls x) (hyields : Op.Yields (fun r => ∀ p, r ≠ .ssePassthrough p) x) :
    Gated A E req path P x := by
  intro s
  refine ⟨[], ?_, fun hreaches => ?_⟩
  · rw [List.append_nil]
    exact hcalls s
  · have hreturned (p : SsePassthrough) : (x s).1 ≠ .ok (.ssePassthrough p) := by
      intro hp
      exact hyields s _ _ (Prod.ext hp rfl) p rfl
    exact absurd hreaches (not_reachesUpstream_nil hreturned)

end Gate

section Requests

variable {X : Crates} (A : App X) (E : Answers) (req : EdgeRequest)

/-- The requests that an edge in allowlist mode lets through. -/
def allowlisted : List (HttpMethod × Str) :=
  [(.get, "/v1/models"), (.post, "/v1/chat/completions"), (.post, "/v1/completions"), (.post, "/v1/embeddings"),
   (.post, "/v1/responses"), (.post, "/v1/moderations")]

/-- What holds of a key under which a request reaches upstream. -/
def MayReach (path : Str) (auth : AuthContext) : Prop :=
  (req.method = .post → req.body ≠ [] → BodyAccepted X A.limits auth req.body) ∧
    (A.config.proxyMode = .allowlist → (req.method, path) ∈ allowlisted)

lemma check_error_quiet (path : Str) (P : AuthContext → Prop) (e : ApiError) :
    Gated A E req path P (AppState.check (.error e)) := Gated.quiet (Op.Fixes.lift _ _) (Op.Yields.lift nofun)

lemma answerChallenge_json {body : Bytes} {r : AppResponse} (h : answerChallenge A E body = .ok r) :
    ∃ value, r = .json value := by
  simp only [answerChallenge, bind_eq_ok, pure_eq_ok] at h
  obtain ⟨_, -, _, -, _, -, _, -, _, -, attestation, -, rfl⟩ := h
  exact ⟨_, rfl⟩

lemma answerChallenge_ne {body : Bytes} {r : AppResponse} (h : answerChallenge A E body = .ok r)
    (p : SsePassthrough) : r ≠ .ssePassthrough p := by
  obtain ⟨value, rfl⟩ := answerChallenge_json A E h
  exact nofun

lemma handleAttestation_quiet (path : Str) (P : AuthContext → Prop) :
    Gated A E req path P (handleAttestation A E req) := by
  have hanswer : Op.Yields (fun r => ∀ p, r ≠ .ssePassthrough p) (AppState.check (answerChallenge A E req.body)) :=
    Op.Yields.lift fun r hr => answerChallenge_ne A E (mapErr_eq_ok.mp hr)
  unfold handleAttestation
  split
  · exact Gated.quiet (Op.Fixes.lift _ _) hanswer
  · have hdrop (permit : Bool) : Op.Fixes AppState.upstreamCalls
        (Op.modify (AppState.dropPermit permit) : Op AppState (Fault ApiError) Unit) := fun _ => rfl
    refine Gated.quiet ?_ (Op.Yields.bind_any fun _ => Op.Yields.bind_any fun _ => Op.Yields.bind_any fun _ => hanswer)
    refine Op.Fixes.bind (on_fixes_calls ?_ _) fun _ => Op.Fixes.bind (on_fixes_calls ?_ _) fun permit => ?_
    · exact fun _ _ => rfl
    · exact fun _ _ => rfl
    · exact (hdrop permit).bind fun _ => Op.Fixes.lift _ _

lemma handleModelsList_gated (hmethod : req.method = .get) :
    Gated A E req "/v1/models" (MayReach A req "/v1/models") (handleModelsList A E req) := by
  refine gated_of_passChecks fun auth => ?_
  have hmay : MayReach A req "/v1/models" auth := by
    refine ⟨fun hpost => ?_, fun _ => ?_⟩
    · rw [hmethod] at hpost
      cases hpost
    · rw [hmethod]
      exact List.mem_cons_self
  rw [hmethod]
  exact Sends.call nofun rfl rfl hmay

lemma handleInference_gated (hmethod : req.method = .post)
    (hpath : path = "/v1/chat/completions" ∨ path ∈ plainInferencePaths) :
    Gated A E req path (MayReach A req path) (handleInference A E req path) := by
  refine gated_of_passChecks fun auth => Sends.check_bind fun _ hsize => Sends.check_bind fun _ hcontent => ?_
  have hmay : MayReach A req path auth := by
    refine ⟨fun _ _ => bodyAccepted_of_ok hsize hcontent, fun _ => ?_⟩
    rw [hmethod]
    rcases hpath with rfl | hpath
    · exact List.mem_cons_of_mem _ List.mem_cons_self
    · -- the rest of the allowlist are the other inference routes
      exact List.mem_cons_of_mem _ (List.mem_cons_of_mem _ (List.mem_map_of_mem (f := Prod.mk HttpMethod.post) hpath))
  rw [hmethod]
  split
  · next hchat =>
    rw [hchat] at hmay ⊢
    exact handleChatCompletions_sends E req.body hmay
  · exact handleInferencePost_sends E path req.body hmay

lemma handleInference_forwards {A : App X} {E : Answers} {req : EdgeRequest} {auth : AuthContext}
    {s s₁ : AppState} (hpass : passChecks A E req s = (.ok auth, s₁))
    (hsize : A.limits.validateBodySize req.body.length = .ok ()) (hcontent : enforceContent X auth req.body = .ok ())
    (hchat : path ≠ "/v1/chat/completions") (hstream : bodyWantsStream X req.body = false) :
    (handleInference A E req path s).2.upstreamCalls = s₁.upstreamCalls ++
      [.forwardV1Ctx .post path (some req.body) (.fromAuth auth.keyId auth.policy.keySet)] := by
  simp only [handleInference, AppState.check, handleInferencePost, forwardV1Ctx, callUpstream, Op.bind_run, Op.lift_run,
    Op.modify_run, hpass, hsize, hcontent, mapErr, if_neg hchat, hstream, Bool.false_eq_true, if_false]
  rcases E.forwardV1Ctx .post path (some req.body) (.fromAuth auth.keyId auth.policy.keySet) with e | u
  · rfl
  · rfl

lemma handleProxy_gated (path : Str) (hmode : A.config.proxyMode = .transparent) :
    Gated A E req path (MayReach A req path) (handleProxy A E req path) := by
  refine gated_of_passChecks fun auth => Sends.check_bind fun _ hchecked => sendProxied_sends E path ?_
  refine ⟨checkProxied_eq_ok hchecked, fun hallow => ?_⟩
  rw [hmode] at hallow
  cases hallow

lemma handleRoute_gated (hpath : NormalPath path) :
    Gated A E req path (MayReach A req path) (handleRoute A E req path) := by
  have hrouted := classify_routed hpath req.method A.config.proxyMode
  unfold handleRoute
  generalize classify req.method path A.config.proxyMode = action at hrouted ⊢
  cases action with
  | health => exact Gated.quiet (Op.Fixes.pure _ _) (Op.Yields.pure nofun)
  | status =>
    have hget : Op.Fixes AppState.upstreamCalls (Op.get : Op AppState (Fault ApiError) AppState) := fun _ => rfl
    refine Gated.quiet ?_ (Op.Yields.bind_any fun _ => Op.Yields.bind_any fun _ => Op.Yields.pure nofun)
    exact hget.bind fun _ => (Op.Fixes.lift _ _).bind fun _ => Op.Fixes.pure _ _
  | attestation => exact handleAttestation_quiet A E req path _
  | modelsList =>
    obtain ⟨hmethod, rfl⟩ := hrouted.of_modelsList
    exact handleModelsList_gated A E req hmethod
  | inferencePost =>
    obtain ⟨hmethod, hinference⟩ := hrouted.of_inferencePost
    exact handleInference_gated A E req hmethod hinference
  | proxyGet => exact handleProxy_gated A E req path hrouted.of_proxyGet
  | proxyPost => exact handleProxy_gated A E req path hrouted.of_proxyPost
  | notImplemented reason =>
    refine Gated.quiet ?_ (Op.Yields.bind_any fun _ => Op.Yields.lift nofun)
    exact identify_fixes_calls.bind fun _ => Op.Fixes.lift _ _
  | methodNotAllowed => exact check_error_quiet A E req path _ _
  | notFound => exact check_error_quiet A E req path _ _

/-- **The admission gate.** `made` are the calls that the request makes to upstream.  When there are any, or a
passthrough is returned, then in this very call no window of the verified manifest was in its hard phase, the IP limit,
the authentication and the key's rate limit passed, and what is sent carries the authenticated key; a body that is
posted was accepted by every gate.  In allowlist mode six pairs of a method and a path are all that can be sent. -/
theorem admission_gate (s : AppState) :
    ∃ made, (handleFromEx A E req s).2.upstreamCalls = s.upstreamCalls ++ made ∧
      (ReachesUpstream made (handleFromEx A E req s).1 → ∃ path auth, normalizePath req.path = .ok path ∧
        Admitted A E req s (handleFromEx A E req s).2 auth ∧
        OnlyReaches (req.method, path) auth.keyId made (handleFromEx A E req s).1 ∧
        (req.method = .post → req.body ≠ [] → BodyAccepted X A.limits auth req.body) ∧
        (A.config.proxyMode = .allowlist → (req.method, path) ∈ allowlisted)) := by
  unfold handleFromEx
  rcases hpath : normalizePath req.path with action | path
  · obtain ⟨made, hcalls, hgate⟩ := check_error_quiet A E req [] (fun _ => False) .notFound s
    refine ⟨made, hcalls, fun hreaches => ?_⟩
    obtain ⟨auth, -, -, hfalse⟩ := hgate hreaches
    exact hfalse.elim
  · obtain ⟨made, hcalls, hgate⟩ := handleRoute_gated A E req (normalizePath_spec hpath) s
    refine ⟨made, hcalls, fun hreaches => ?_⟩
    obtain ⟨auth, hadmitted, hcarries, hbody, hallow⟩ := hgate hreaches
    exact ⟨path, auth, rfl, hadmitted, hcarries, hbody, hallow⟩

end Requests

namespace Sample

/-- `{"model":"m","input":"hi"}`. -/
def embedTree : Json := .object [("model", .string "m"), ("input", .string "hi")]

def embedBody : Bytes := utf8 (renderText embedTree)

def embedTables : CrateTables := { authTables with trees := [(embedBody, embedTree)] }

def embedApp : App embedTables.crates where
  config := ⟨"global", .allowlist⟩
  limits := .default
  authenticator := .remote authenticator

def embedAnswers : Answers where
  l0 := quiet
  ipInstant := 0
  keyInstant := 1
  challengeInstant := 0
  listModelsForKey _ _ := .error (.upstream "no models")
  forwardV1Ctx _ _ _ _ := .ok (.json (.object []))
  challenge _ := .error (.io "no device")
  openapiProfile := some "prod"

def softWindow : MaintenanceWindow where
  id := "w"
  scope := .fleet
  engineId := none
  notBefore := "1970-01-01T00:00:00Z"
  hardNotAfter := some "1970-01-01T00:00:01.000Z"
  softNotAfter := none
  notAfter := none
  reason := .other
  message := none

def embedState : AppState where
  rateLimiter _ := none
  challengeRateLimiter _ := none
  challengeInflight := 0
  ipRateLimiter _ := none
  authenticator := .fresh
  maintenance := ⟨some ⟨⟨1, [softWindow]⟩, true⟩⟩
  upstreamCalls := []

def embedRequest : EdgeRequest where
  method := .post
  path := "/v1/embeddings/?v=1"
  authorization := some ("Bearer ".toList ++ parsedKey.fullKey)
  body := embedBody
  nowMs := 1785542400000
  clientIp := none
  challengeBenchHeader := none

lemma normalize_embed : normalizePath embedRequest.path = .ok "/v1/embeddings" := rfl

lemma classify_embed : classify .post "/v1/embeddings" .allowlist = .inferencePost := by decide

lemma refuse_embed : refuseIfMaintenance embedState.maintenance embedRequest.nowMs = .ok () := rfl

lemma parse_embed : parseApiKey parsedKey.fullKey = some parsedKey := by decide

lemma value_embed : embedTables.crates.json.value embedBody = .ok embedTree :=
  CrateTables.value_of_lookup List.lookup_cons_self

lemma authenticate_embed : authenticateBearer authenticator quiet embedRequest.authorization .fresh =
    (.ok ⟨parsedKey.keyId, authz.policy⟩,
      (convoyAfterAuthorize authenticator quiet 5 (Shared.fresh.storeCached authz)).2) := by
  have hbearer : authenticateBearer authenticator quiet embedRequest.authorization =
      authenticateParsed authenticator quiet parsedKey := authenticateBearer_of_parsed (by decide) parse_embed
  rw [hbearer]
  exact let_in ⟨5, []⟩

lemma run_embed : (handleFromEx embedApp embedAnswers embedRequest embedState).2.upstreamCalls =
    [.forwardV1Ctx .post "/v1/embeddings" (some embedBody) (.fromAuth parsedKey.keyId "api")] := by
  have hpass := passChecks_of (A := embedApp) (E := embedAnswers) refuse_embed rfl authenticate_embed rfl
  have hclass : classify embedRequest.method "/v1/embeddings" embedApp.config.proxyMode = .inferencePost :=
    classify_embed
  have hroute : handleFromEx embedApp embedAnswers embedRequest =
      handleInference embedApp embedAnswers embedRequest "/v1/embeddings" := by
    rw [handleFromEx, normalize_embed]
    dsimp only
    rw [handleRoute, hclass]
  have hstream : bodyWantsStream embedTables.crates embedRequest.body = false := by
    rw [bodyWantsStream, show embedTables.crates.json.value embedRequest.body = .ok embedTree from value_embed]
    rfl
  rw [hroute]
  exact handleInference_forwards hpass rfl rfl (by decide) hstream

end Sample

open Sample in
theorem admission_gate_sample : ∃ made auth, made ≠ [] ∧
    (handleFromEx embedApp embedAnswers embedRequest embedState).2.upstreamCalls = made ∧
    OnlyReaches (.post, "/v1/embeddings") auth.keyId made
      (handleFromEx embedApp embedAnswers embedRequest embedState).1 ∧
    Admitted embedApp embedAnswers embedRequest embedState
      (handleFromEx embedApp embedAnswers embedRequest embedState).2 auth ∧
    BodyAccepted embedTables.crates embedApp.limits auth embedBody := by
  obtain ⟨made, hmade, hgate⟩ := admission_gate embedApp embedAnswers embedRequest embedState
  have hne : made ≠ [] := by
    rintro rfl
    rw [run_embed] at hmade
    cases hmade
  obtain ⟨path, auth, hpath, hadmitted, hcarries, hbody, -⟩ := hgate (Or.inl hne)
  obtain rfl := Except.ok.inj (normalize_embed.symm.trans hpath)
  exact ⟨made, auth, hne, hmade, hcarries, hadmitted, hbody rfl (by decide)⟩

end TeechatOpenapi.Core
