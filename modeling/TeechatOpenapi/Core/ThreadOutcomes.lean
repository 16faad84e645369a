import Mathlib.Data.Prod.Lex
import TeechatOpenapi.Core.Authorized
import TeechatOpenapi.Core.RemoteAuthThreads

/-!
# What the threads of the authenticator return (`openapi-core/src/remote_auth.rs`)

The steps of `Core.RemoteAuthThreads` next to the operations of `Core.RemoteAuth`, and what they come to together.
-/

namespace TeechatOpenapi.Core

open Lib

/-- What is left of a sync once it has its answer. -/
@[simp] def finishSync (A : RemoteAuthenticator) (since epoch : Nat) (frames : List SignedRevocation) :
    Op Shared ApiError Unit := do
  applyFrames A frames
  Op.modify fun s => if since < epoch then s.storeEpoch epoch else s

@[simp] def After.result (after : After) (r : Except ApiError Unit) : Except ApiError (Option AuthContext) :=
  match after with
  | .standalone => r.map fun _ => none
  | .letIn ctx => .ok (some ctx)

@[simp] def After.behind (after : After) (sync : Op Shared ApiError Unit) : Op Shared ApiError (Option AuthContext) :=
  fun s => (after.result (sync s).1, (sync s).2)

section Alone

variable (A : RemoteAuthenticator) (l0 : L0Answers) (task : Task)

/-- The operation of `Core.RemoteAuth` that a task is. -/
@[simp] def Task.sequential : Task → Op Shared ApiError (Option AuthContext)
  | .revoke r => do
    applyRevocation A r
    return none
  | .sync => After.standalone.behind (do let _ ← syncRevocationsFromL0 A l0)
  | .authenticate parsed => do return some (← authenticateParsed A l0 parsed)

/-- `authenticate_parsed` behind the checks of an authorization. -/
@[simp] def letInOn (parsed : ParsedApiKey) (authz : SignedAuthz) : Op Shared ApiError (Option AuthContext) := do
  storeCache A authz
  Op.discard (convoyAfterAuthorize A l0 authz.epoch)
  return some ⟨parsed.keyId, authz.policy⟩

/-- What is left to do for a thread that stands at `pc`. -/
@[simp] def Pc.rest : Pc → Op Shared ApiError (Option AuthContext)
  | .idle => task.sequential A l0
  | .check parsed => (Task.authenticate parsed).sequential A l0
  | .lookup parsed => do
    let s ← Op.get
    let hit ← Op.lift (cacheHit A s parsed l0.nowMs)
    match hit with
    | some ctx => return some ctx
    | none => return some (← authorizeRemote A l0 parsed)
  | .remote parsed nowMs => do
    let authz ← Op.lift (l0.authorize parsed.keyId (hashApiKey A.crates parsed.fullKey))
    Op.lift (checkAuthz A parsed authz nowMs)
    letInOn A l0 parsed authz
  | .store parsed authz => letInOn A l0 parsed authz
  | .convoy ctx authzEpoch => do
    Op.discard (convoyAfterAuthorize A l0 authzEpoch)
    return some ctx
  | .load after => after.behind (do let _ ← syncRevocationsFromL0 A l0)
  | .fetch after since => after.behind (do
      let delta ← Op.lift (l0.fetchRevocations since)
      finishSync A since delta.epoch delta.revocations)
  | .frames after since epoch _ todo => after.behind (finishSync A since epoch todo)
  | .remove after keyId since epoch _ todo => after.behind (do
      Op.modify fun s => s.removeCached keyId
      finishSync A since epoch todo)
  | .revoke r => (Task.revoke r).sequential A l0
  | .unCache keyId => do
    Op.modify fun s => s.removeCached keyId
    return none
  | .finished result => Op.lift result

/-- What a thread that stands at `pc` is given next. -/
@[simp] def Pc.input : Pc → Input
  | .idle => .start task
  | .lookup _ => .clock l0.nowMs
  | .remote parsed _ => .authorized (l0.authorize parsed.keyId (hashApiKey A.crates parsed.fullKey))
  | .fetch _ since => .fetched (l0.fetchRevocations since)
  | _ => .go

@[simp] def Pc.rank : Pc → Nat ×ₗ Nat
  | .finished _ => toLex (0, 0)
  | .unCache _ => toLex (1, 0)
  | .frames _ _ _ _ todo => toLex (1, 2 * todo.length + 1)
  | .remove _ _ _ _ _ todo => toLex (1, 2 * todo.length + 2)
  | .fetch _ _ | .revoke _ => toLex (2, 0)
  | .load _ => toLex (3, 0)
  | .convoy _ _ => toLex (4, 0)
  | .store _ _ => toLex (5, 0)
  | .remote _ _ => toLex (6, 0)
  | .lookup _ => toLex (7, 0)
  | .check _ => toLex (8, 0)
  | .idle => toLex (9, 0)

lemma advance_isSome {pc : Pc} (hfin : ∀ r, pc ≠ .finished r) (w : World) :
    ∃ pc₁ w₁, advance A w pc (pc.input A l0 task) = some (pc₁, w₁) := by
  rw [← Prod.exists', ← Option.isSome_iff_exists]
  cases pc with
  | finished r => exact absurd rfl (hfin r)
  | frames after since epoch rank todo => cases todo <;> simp only [Pc.input, advance] <;> split <;> rfl
  | idle | load | remove | unCache => rfl
  | _ => simp only [Pc.input, advance]; split <;> rfl

variable {A l0 task}

attribute [local simp] Prod.Lex.toLex_lt_toLex

lemma finish_eq (after : After) (r : Except ApiError Unit) : after.finish r = .finished (after.result r) := by
  cases after <;> rfl

/-- `authorizeRemote` is what is left once the cache was missed. -/
lemma authorizeRemote_rest (parsed : ParsedApiKey) (s : Shared) :
    (authorizeRemote A l0 parsed >>= fun ctx => pure (some ctx)) s = (Pc.remote parsed l0.nowMs).rest A l0 task s := by
  simp only [authorizeRemote, Pc.rest, letInOn, storeCache, Op.bind_run, Op.lift_run]
  rcases l0.authorize parsed.keyId (hashApiKey A.crates parsed.fullKey) with e | authz
  · rfl
  · dsimp only
    rcases checkAuthz A parsed authz l0.nowMs with e | u
    · rfl
    · dsimp only
      rcases authz.verifySignature A.crates A.verifyKey with e | u <;> rfl

/-- **A step of a thread on its own**: what is left of the operation comes to the same, and less is left. -/
theorem advance_rest {pc pc₁ : Pc} {w w₁ : World} (h : advance A w pc (pc.input A l0 task) = some (pc₁, w₁)) :
    pc₁.rest A l0 task w₁.shared = pc.rest A l0 task w.shared ∧ pc₁.rank < pc.rank := by
  cases pc with
  | idle =>
    cases h
    cases task <;> exact ⟨rfl, by simp [Task.begin]⟩
  | check parsed =>
    simp only [Pc.input, advance] at h
    split at h <;> cases h
    · simp [authenticateParsed, Op.bind_run, failIf, *]
    · refine ⟨?_, by simp⟩
      simp only [Pc.rest, Task.sequential, authenticateParsed, Op.bind_run, Op.get_run, Op.lift_run, failIf, ↓reduceIte,
        *]
      rcases cacheHit A w.shared parsed l0.nowMs with e | _ | ctx <;> rfl
  | lookup parsed =>
    simp only [Pc.input, advance] at h
    split at h <;> cases h
    · simp [Op.bind_run, Op.pure_run, *]
    · rw [← authorizeRemote_rest]
      simp [Op.bind_run, *]
    · simp [Op.bind_run, *]
  | remote parsed nowMs =>
    rcases hauth : l0.authorize parsed.keyId (hashApiKey A.crates parsed.fullKey) with e | authz
    · simp only [Pc.input, hauth] at h
      cases h
      simp [Op.bind_run, hauth]
    · rcases hcheck : checkAuthz A parsed authz nowMs with e | u <;>
        simp only [Pc.input, advance, hauth, ok_bind, hcheck, Except.map] at h <;> cases h <;>
        simp [Op.bind_run, hauth, hcheck]
  | store parsed authz =>
    simp only [Pc.input, advance] at h
    split at h <;> cases h <;> simp [storeCache, Op.bind_run, *]
  | convoy ctx authzEpoch =>
    simp only [Pc.input, advance] at h
    split at h <;> cases h <;> simp [convoyAfterAuthorize, Op.bind_run, Op.pure_run, *]
  | load after =>
    cases h
    refine ⟨?_, by simp⟩
    simp only [Pc.rest, After.behind, syncRevocationsFromL0, finishSync, Op.bind_run, Op.get_run, Op.lift_run]
    rcases l0.fetchRevocations w.shared.localEpoch with e | delta
    · rfl
    · dsimp only
      rcases applyFrames A delta.revocations w.shared with ⟨e | u, s₁⟩ <;> rfl
  | fetch after since =>
    simp only [Pc.input, advance] at h
    split at h <;> cases h <;> simp [Op.bind_run, finish_eq, *]
  | frames after since epoch rank todo =>
    cases todo with
    | nil =>
      simp only [Pc.input, advance] at h
      split at h <;> cases h <;> simp [applyFrames, Op.bind_run, Op.pure_run, finish_eq, *]
    | cons r todo =>
      simp only [Pc.input, advance] at h
      split at h <;> cases h <;> simp [applyFrames, applyRevocation, Op.bind_run, finish_eq, Nat.mul_add_one, *]
  | remove after keyId since epoch rank todo =>
    cases h
    exact ⟨rfl, by simp⟩
  | revoke r =>
    simp only [Pc.input, advance] at h
    split at h <;> cases h <;> simp [applyRevocation, Op.bind_run, *]
  | unCache keyId =>
    cases h
    exact ⟨rfl, by simp⟩
  | finished r => cases h

/-- Thread `t` goes on alone, and is given what L0 and the clock answer. -/
inductive Alone (A : RemoteAuthenticator) (l0 : L0Answers) (task : Task) (t : Nat) : World → World → Prop where
  | done (w : World) : Alone A l0 task t w w
  | step {w w₁ w' : World} (h : step A w (.thread t ((w.threads t).input A l0 task)) = some w₁)
      (h' : Alone A l0 task t w₁ w') : Alone A l0 task t w w'

lemma Alone.revocations {t : Nat} {w w' : World} (h : Alone A l0 task t w w') :
    w.shared.revocations ⊆ w'.shared.revocations := by
  induction h with
  | done => exact subset_rfl
  | step hstep _ ih => exact subset_trans (step_revocations hstep) ih

variable (A l0 task) in
lemma alone_rest {t : Nat} {pc : Pc} {w : World} (hpc : w.threads t = pc) :
    ∃ w', Alone A l0 task t w w' ∧ w'.threads t = .finished (pc.rest A l0 task w.shared).1 ∧
      w'.shared = (pc.rest A l0 task w.shared).2 := by
  induction hr : pc.rank using WellFoundedLT.induction generalizing pc w with
  | ind r ih =>
    subst hr
    by_cases hfin : ∃ r, pc = .finished r
    · obtain ⟨r, rfl⟩ := hfin
      exact ⟨w, .done w, hpc, rfl⟩
    · obtain ⟨pc₁, w₁, hadv⟩ := advance_isSome A l0 task (fun r h => hfin ⟨r, h⟩) w
      obtain ⟨hrest, hrank⟩ := advance_rest hadv
      have hstep : step A w (.thread t ((w.threads t).input A l0 task)) =
          some { w₁ with threads := Function.update w₁.threads t pc₁ } := by
        rw [hpc, step, hpc, hadv]
        rfl
      obtain ⟨w', halone, hend, hshared⟩ := ih _ hrank (w := { w₁ with threads := Function.update w₁.threads t pc₁ })
        (Function.update_self _ _ _) rfl
      rw [hrest] at hend hshared
      exact ⟨w', .step hstep halone, hend, hshared⟩

end Alone

/-- **A thread on its own is sequential.**  Whatever the other threads have left behind, a thread that is idle and then
runs a task with no other in between comes to its end, returns what the operation returns, and leaves the shared fields
as the operation does. -/
theorem alone_is_sequential (A : RemoteAuthenticator) (l0 : L0Answers) (task : Task) (t : Nat) (w : World)
    (hidle : w.threads t = .idle) :
    ∃ w', Alone A l0 task t w w' ∧ w'.threads t = .finished (task.sequential A l0 w.shared).1 ∧
      w'.shared = (task.sequential A l0 w.shared).2 := alone_rest A l0 task hidle

open Sample in
theorem alone_is_sequential_sample : ∃ w', Alone authenticator quiet (.authenticate parsedKey) 0 .fresh w' ∧
    w'.threads 0 = .finished (.ok (some ⟨parsedKey.keyId, authz.policy⟩)) := by
  obtain ⟨w', halone, hend, -⟩ := alone_is_sequential authenticator quiet (.authenticate parsedKey) 0 .fresh rfl
  refine ⟨w', halone, hend.trans ?_⟩
  have hrun := let_in ⟨5, []⟩
  simp [Op.bind_run, World.fresh, quiet, hrun]
  rfl

section Backed

variable (A : RemoteAuthenticator) (es : List Event) (t : Nat)

/-- The task that the thread was last handed in a run, and what has happened since. -/
def Called (task : Task) (since : List Event) : Prop :=
  (∃ before, es = before ++ .thread t (.start task) :: since) ∧ ∀ task', Event.thread t (.start task') ∉ since

/-- In a run the thread was last handed a key and has read the clock since, and L0 returned an authorization, signed,
for that very key and not expired by that time, with the policy of the context. -/
def Backed (ctx : AuthContext) : Prop := ∃ parsed since a nowMs u, Called es t (.authenticate parsed) since ∧
  Event.thread t (.clock nowMs) ∈ since ∧ Event.thread u (.authorized (.ok a)) ∈ es ∧
  a.verifySignature A.crates A.verifyKey = .ok () ∧ a.keyHashHex = hashApiKey A.crates parsed.fullKey ∧
  nowMs < a.expMs ∧ ctx = ⟨parsed.keyId, a.policy⟩

/-- A context that the thread still has to return is backed. -/
def After.Backed : After → Prop
  | .standalone => True
  | .letIn ctx => Core.Backed A es t ctx

/-- What the run has given a thread that stands at `pc`. -/
def Pc.Backed : Pc → Prop
  | .check parsed | .lookup parsed => ∃ since, Called es t (.authenticate parsed) since
  | .remote parsed nowMs => ∃ since, Called es t (.authenticate parsed) since ∧ Event.thread t (.clock nowMs) ∈ since
  | .store parsed a => Core.Backed A es t ⟨parsed.keyId, a.policy⟩ ∧ ∃ u, Event.thread u (.authorized (.ok a)) ∈ es
  | .convoy ctx _ | .finished (.ok (some ctx)) => Core.Backed A es t ctx
  | .load after | .fetch after _ | .frames after _ _ _ _ | .remove after _ _ _ _ _ => after.Backed A es t
  | _ => True

/-- Every entry of the cache is an authorization that L0 returned in the run. -/
def CacheBacked (s : Shared) : Prop := ∀ k a, s.cache k = some a → ∃ u, Event.thread u (.authorized (.ok a)) ∈ es

variable {A es t}

lemma mem_snoc {e e' : Event} (h : e ∈ es) : e ∈ es ++ [e'] := List.mem_append_left _ h

section Later

variable {e : Event} (he : ∀ task, e ≠ .thread t (.start task))
include he

lemma Called.snoc {task : Task} {since : List Event} (h : Called es t task since) :
    Called (es ++ [e]) t task (since ++ [e]) := by
  obtain ⟨⟨before, rfl⟩, hlast⟩ := h
  refine ⟨⟨before, by simp⟩, ?_⟩
  intro task' hmem
  rcases List.mem_append.mp hmem with hmem | hmem
  · exact hlast task' hmem
  · exact he task' (List.mem_singleton.mp hmem).symm

lemma Backed.snoc {ctx : AuthContext} (h : Backed A es t ctx) : Backed A (es ++ [e]) t ctx := by
  obtain ⟨parsed, since, a, nowMs, u, hcalled, hclock, hanswer, hrest⟩ := h
  exact ⟨parsed, _, a, nowMs, u, hcalled.snoc he, mem_snoc hclock, mem_snoc hanswer, hrest⟩

lemma After.Backed.snoc {after : After} (h : after.Backed A es t) : after.Backed A (es ++ [e]) t := by
  cases after with
  | standalone => exact trivial
  | letIn ctx => exact Core.Backed.snoc he h

/-- What a thread was given it still has, until it is handed another task. -/
lemma Pc.Backed.snoc {pc : Pc} (h : pc.Backed A es t) : pc.Backed A (es ++ [e]) t := by
  unfold Pc.Backed at h ⊢
  split at h
  · obtain ⟨since, hcalled⟩ := h
    exact ⟨_, hcalled.snoc he⟩
  · obtain ⟨since, hcalled⟩ := h
    exact ⟨_, hcalled.snoc he⟩
  · obtain ⟨since, hcalled, hclock⟩ := h
    exact ⟨_, hcalled.snoc he, mem_snoc hclock⟩
  · obtain ⟨hbacked, u, hanswer⟩ := h
    exact ⟨Core.Backed.snoc he hbacked, u, mem_snoc hanswer⟩
  all_goals first | exact Core.Backed.snoc he h | exact After.Backed.snoc he h | exact trivial

end Later

lemma After.Backed.finish {after : After} (h : after.Backed A es t) (r : Except ApiError Unit) :
    (after.finish r).Backed A es t := by
  cases after with
  | standalone => cases r <;> exact trivial
  | letIn ctx => exact h

lemma cacheBacked_removeCached {s : Shared} (h : CacheBacked es s) (keyId : Str) :
    CacheBacked es (s.removeCached keyId) := fun k a ha => h k a (s.forgets_removeCached keyId k a ha)

lemma CacheBacked.snoc {s : Shared} (h : CacheBacked es s) (e : Event) : CacheBacked (es ++ [e]) s := by
  intro k a hk
  obtain ⟨u, hu⟩ := h k a hk
  exact ⟨u, mem_snoc hu⟩

lemma cacheBacked_storeCached {s : Shared} {a : SignedAuthz} (h : CacheBacked es s)
    (ha : ∃ u, Event.thread u (.authorized (.ok a)) ∈ es) : CacheBacked es (s.storeCached a) := by
  intro k a' hk
  by_cases hkey : k = a.keyId
  · subst hkey
    obtain rfl : a = a' := by simpa [Shared.storeCached] using hk
    exact ha
  · exact h k a' (by simpa [Shared.storeCached, Function.update_of_ne hkey] using hk)

lemma backed_of_cacheHit {s : Shared} {parsed : ParsedApiKey} {since : List Event} {nowMs : Nat} {ctx : AuthContext}
    (h : CacheBacked es s) (hcalled : Called es t (.authenticate parsed) since)
    (hclock : Event.thread t (.clock nowMs) ∈ since) (hhit : cacheHit A s parsed nowMs = .ok (some ctx)) :
    Backed A es t ctx := by
  unfold cacheHit at hhit
  split at hhit
  · cases hhit
  · rename_i e hent
    obtain ⟨_, hver, hctx⟩ := bind_eq_ok.mp hhit
    obtain ⟨hcache, hexp, hhash⟩ := cachedEntry_eq_some hent
    obtain ⟨u, hu⟩ := h _ _ hcache
    exact ⟨parsed, since, e, nowMs, u, hcalled, hclock, hu, hver, hhash, hexp,
      (Option.some.inj (Except.ok.inj hctx)).symm⟩

lemma advance_backed {w w' : World} {pc pc' : Pc} {input : Input} (hc : CacheBacked es w.shared)
    (hpc : pc.Backed A es t) (h : advance A w pc input = some (pc', w')) :
    pc'.Backed A (es ++ [.thread t input]) t ∧ CacheBacked (es ++ [.thread t input]) w'.shared := by
  have he : Event.thread t input ∈ es ++ [.thread t input] := List.mem_append_right _ List.mem_cons_self
  have hlater : (∀ task, input ≠ .start task) → pc.Backed A (es ++ [.thread t input]) t := by
    intro hne
    exact hpc.snoc fun task heq => hne task (Event.thread.inj heq).2
  replace hc := hc.snoc (.thread t input)
  unfold advance at h
  split at h
  case h_1 task | h_2 task =>
    cases h
    cases task with
    | authenticate parsed => exact ⟨⟨[], ⟨es, rfl⟩, fun _ h => nomatch h⟩, hc⟩
    | _ => exact ⟨trivial, hc⟩
  case h_15 => cases h
  -- in the other cases the thread goes on with its task
  all_goals replace hlater := hlater nofun
  case h_4 parsed nowMs =>
    obtain ⟨since, hcalled⟩ := hpc
    replace hcalled := hcalled.snoc (e := .thread t (.clock nowMs)) nofun
    have hclock : Event.thread t (.clock nowMs) ∈ since ++ [.thread t (.clock nowMs)] :=
      List.mem_append_right _ List.mem_cons_self
    split at h <;> rename_i hhit <;> cases h
    · exact ⟨backed_of_cacheHit hc hcalled hclock hhit, hc⟩
    · exact ⟨⟨_, hcalled, hclock⟩, hc⟩
    · exact ⟨trivial, hc⟩
  case h_5 parsed nowMs answer =>
    split at h <;> rename_i authz hanswer <;> cases h
    · obtain ⟨a, rfl, hmap⟩ := bind_eq_ok.mp hanswer
      obtain ⟨_, hcheck, rfl⟩ := toOption_map_eq_some.mp (toOption_eq_some.mpr hmap)
      obtain ⟨hver, hexp, hhash⟩ := checkAuthz_eq_ok hcheck
      obtain ⟨since, hcalled, hclock⟩ := hlater
      exact ⟨⟨⟨parsed, since, _, nowMs, t, hcalled, hclock, he, hver, hhash, hexp, rfl⟩, t, he⟩, hc⟩
    · exact ⟨trivial, hc⟩
  case h_6 parsed a =>
    split at h <;> cases h
    · exact ⟨hlater.1, cacheBacked_storeCached hc hlater.2⟩
    · exact ⟨trivial, hc⟩
  case h_9 | h_10 => split at h <;> cases h <;> first | exact ⟨hlater, hc⟩ | exact ⟨After.Backed.finish hlater _, hc⟩
  case h_11 | h_14 =>
    cases h
    exact ⟨hlater, cacheBacked_removeCached hc _⟩
  case h_12 => split at h <;> cases h <;> exact ⟨After.Backed.finish hlater _, hc⟩
  case h_3 | h_7 | h_13 => split at h <;> cases h <;> first | exact ⟨hlater, hc⟩ | exact ⟨trivial, hc⟩
  case h_8 =>
    cases h
    exact ⟨hlater, hc⟩

lemma step_backed {w w' : World} {e : Event} (h : step A w e = some w')
    (hw : CacheBacked es w.shared ∧ ∀ t, (w.threads t).Backed A es t) :
    CacheBacked (es ++ [e]) w'.shared ∧ ∀ t, (w'.threads t).Backed A (es ++ [e]) t := by
  cases e with
  | append frame =>
    cases h
    refine ⟨hw.1.snoc _, fun t => (hw.2 t).snoc ?_⟩
    intro task heq
    cases heq
  | thread t input =>
    obtain ⟨⟨pc, w₁⟩, hadv, rfl⟩ := Option.map_eq_some_iff.mp h
    obtain ⟨hpc, hcache⟩ := advance_backed hw.1 (hw.2 t) hadv
    refine ⟨hcache, fun u => ?_⟩
    change (Function.update w₁.threads t pc u).Backed A _ u
    by_cases hu : u = t
    · subst hu
      rwa [Function.update_self]
    · rw [Function.update_of_ne hu, (move_of_advance hadv).effect.threads]
      refine (hw.2 u).snoc ?_
      intro task heq
      exact hu (Event.thread.inj heq).1.symm

end Backed

/-- **No interleaving lets a key in unbacked.**  Whatever the threads do and L0 answers, a thread that returns a context
was handed a key of that id in that call, and L0 returned in the run a signed authorization for that very key, not
expired when the call read the clock, from which the policy is taken. -/
theorem let_in_backed (A : RemoteAuthenticator) (es : List Event) (w : World) (t : Nat) (ctx : AuthContext)
    (h : exec (step A) .fresh es = some w) (hfin : w.threads t = .finished (.ok (some ctx))) : Backed A es t ctx := by
  have hw : CacheBacked es w.shared ∧ ∀ t, (w.threads t).Backed A es t := by
    refine exec_inv_past (I := fun es w => CacheBacked es w.shared ∧ ∀ t, (w.threads t).Backed A es t)
      (fun _ _ _ _ hs hv => step_backed hs hv) [] h ⟨?_, fun _ => trivial⟩
    intro k a hk
    cases hk
  have hpc := hw.2 t
  rw [hfin] at hpc
  exact hpc

namespace Sample

def letIn : List Event := inFlight ++ [.thread 1 .go, .thread 1 .go, .thread 1 .go,
  .thread 1 (.fetched (.ok ⟨5, []⟩)), .thread 1 .go]

def letInCtx : Pc → Option AuthContext
  | .finished (.ok ctx) => ctx
  | _ => none

end Sample

open Sample in
theorem let_in_backed_sample : ∃ w, exec (step authenticator) .fresh letIn = some w ∧
    Backed authenticator letIn 1 ⟨parsedKey.keyId, authz.policy⟩ := by
  have hrun : (exec (step authenticator) .fresh letIn).map (fun w => letInCtx (w.threads 1)) =
      some (some ⟨parsedKey.keyId, authz.policy⟩) := by decide +kernel
  obtain ⟨w, hexec, hctx⟩ := Option.map_eq_some_iff.mp hrun
  refine ⟨w, hexec, let_in_backed authenticator letIn w 1 _ hexec ?_⟩
  unfold letInCtx at hctx
  split at hctx
  · rename_i ctx hpc
    rw [hpc, hctx]
  · cases hctx

end TeechatOpenapi.Core
