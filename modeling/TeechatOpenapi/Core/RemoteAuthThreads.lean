import TeechatOpenapi.Core.RemoteAuth

/-!
# The remote authenticator under threads (`openapi-core/src/remote_auth.rs`)

Any number of threads run the operations of a `RemoteAuthenticator`.  A step is one access to a shared field or one
call of L0; between two steps of a thread the others may do anything.

A thread that applies an answer carries the rank of its fetch, and `stored` is the rank of the answer that `local_epoch`
was last set from.  Ranks are history; no step looks at them.
-/

namespace TeechatOpenapi.Core

open Lib

/-- What a thread does after a sync: return its result, or let the key in whatever the result is. -/
inductive After where
  | standalone
  | letIn (ctx : AuthContext)

/-- Where a thread stands: what it does next. -/
inductive Pc where
  | idle
  /-- the revocation check -/
  | check (parsed : ParsedApiKey)
  /-- the clock and the cache lookup -/
  | lookup (parsed : ParsedApiKey)
  /-- `authorize` -/
  | remote (parsed : ParsedApiKey) (nowMs : Nat)
  /-- `store_cache` -/
  | store (parsed : ParsedApiKey) (authz : SignedAuthz)
  /-- the load of `local_epoch` in the convoy -/
  | convoy (ctx : AuthContext) (authzEpoch : Nat)
  /-- the load of `local_epoch` in a sync -/
  | load (after : After)
  /-- `fetch_revocations` -/
  | fetch (after : After) (since : Nat)
  /-- the next frame, or the store of the epoch -/
  | frames (after : After) (since epoch rank : Nat) (rest : List SignedRevocation)
  /-- the cache removal of the frame just applied -/
  | remove (after : After) (keyId : Str) (since epoch rank : Nat) (rest : List SignedRevocation)
  /-- `apply_revocation` on its own: the insert -/
  | revoke (r : SignedRevocation)
  /-- `apply_revocation` on its own: the cache removal -/
  | unCache (keyId : Str)
  | finished (result : Except ApiError (Option AuthContext))

/-- What a thread is handed to do. -/
inductive Task where
  | revoke (r : SignedRevocation)
  | sync
  | authenticate (parsed : ParsedApiKey)

def Task.begin : Task → Pc
  | .revoke r => .revoke r
  | .sync => .load .standalone
  | .authenticate parsed => .check parsed

/-- What a thread is given for a step. -/
inductive Input where
  | start (task : Task)
  | go
  | clock (nowMs : Nat)
  | authorized (answer : Except ApiError SignedAuthz)
  | fetched (answer : Except ApiError RevocationDelta)

def After.finish (after : After) (result : Except ApiError Unit) : Pc :=
  match after with
  | .standalone => .finished (result.map fun _ => none)
  | .letIn ctx => .finished (.ok (some ctx))

/-- The shared fields, the threads, L0's log, and the epochs it has reported in the order of the fetches. -/
structure World where
  shared : Shared
  threads : Nat → Pc
  log : List SignedRevocation
  reports : List Nat
  stored : Option Nat

def World.fresh : World := ⟨.fresh, fun _ => .idle, [], [], none⟩

section Steps

variable (A : RemoteAuthenticator)

/-- One step of a thread that stands at `pc`. -/
def advance (w : World) : Pc → Input → Option (Pc × World)
  | .idle, .start task => some (task.begin, w)
  | .finished _, .start task => some (task.begin, w)
  | .check parsed, .go =>
    if parsed.keyId ∈ w.shared.revocations then some (.finished (.error .unauthorized), w)
    else some (.lookup parsed, w)
  | .lookup parsed, .clock nowMs =>
    match cacheHit A w.shared parsed nowMs with
    | .ok (some ctx) => some (.finished (.ok (some ctx)), w)
    | .ok none => some (.remote parsed nowMs, w)
    | .error e => some (.finished (.error e), w)
  | .remote parsed nowMs, .authorized answer =>
    match answer >>= fun authz => (checkAuthz A parsed authz nowMs).map fun _ => authz with
    | .ok authz => some (.store parsed authz, w)
    | .error e => some (.finished (.error e), w)
  | .store parsed authz, .go =>
    match authz.verifySignature A.crates A.verifyKey with
    | .ok () => some (.convoy ⟨parsed.keyId, authz.policy⟩ authz.epoch, { w with shared := w.shared.storeCached authz })
    | .error e => some (.finished (.error e), w)
  | .convoy ctx authzEpoch, .go =>
    if w.shared.localEpoch < authzEpoch then some (.load (.letIn ctx), w) else some (.finished (.ok (some ctx)), w)
  | .load after, .go => some (.fetch after w.shared.localEpoch, w)
  | .fetch after since, .fetched answer =>
    match answer with
    | .ok delta =>
      some (.frames after since delta.epoch w.reports.length delta.revocations,
        { w with reports := w.reports ++ [delta.epoch] })
    | .error e => some (after.finish (.error e), w)
  | .frames after since epoch rank (r :: rest), .go =>
    match r.verifySignature A.crates A.verifyKey with
    | .ok () => some (.remove after r.keyId since epoch rank rest, { w with shared := w.shared.insertRevoked r.keyId })
    | .error e => some (after.finish (.error e), w)
  | .remove after keyId since epoch rank rest, .go =>
    some (.frames after since epoch rank rest, { w with shared := w.shared.removeCached keyId })
  | .frames after since epoch rank [], .go =>
    if since < epoch then
      some (after.finish (.ok ()), { w with shared := w.shared.storeEpoch epoch, stored := some rank })
    else some (after.finish (.ok ()), w)
  | .revoke r, .go =>
    match r.verifySignature A.crates A.verifyKey with
    | .ok () => some (.unCache r.keyId, { w with shared := w.shared.insertRevoked r.keyId })
    | .error e => some (.finished (.error e), w)
  | .unCache keyId, .go => some (.finished (.ok none), { w with shared := w.shared.removeCached keyId })
  | _, _ => none

/-- What happens next: a step of a thread, or a frame that L0 adds to its log. -/
inductive Event where
  | thread (t : Nat) (input : Input)
  | append (frame : SignedRevocation)

def step (w : World) : Event → Option World
  | .thread t input =>
    (advance A w (w.threads t) input).map fun p => { p.2 with threads := Function.update p.2.threads t p.1 }
  | .append frame => some { w with log := w.log ++ [frame] }

end Steps

/-! ## What a step can do -/

variable {input : Input} {pc pc' : Pc}

variable {e : Event}

section Effects

variable {A : RemoteAuthenticator} {w w' : World}

/-- A thread that is not between its fetch and its store. -/
def Pc.Outside : Pc → Prop
  | .fetch .. | .frames .. | .remove .. => False
  | _ => True

/-- What a step of a thread does.  The steps of a sync are told apart; of the others it matters that they leave the
epoch alone and revoke no less. -/
inductive Move (A : RemoteAuthenticator) (w : World) : Pc → Input → Pc → World → Prop where
  | load {after : After} : Move A w (.load after) .go (.fetch after w.shared.localEpoch) w
  | answer {after : After} {since : Nat} {delta : RevocationDelta} :
      Move A w (.fetch after since) (.fetched (.ok delta))
        (.frames after since delta.epoch w.reports.length delta.revocations)
        { w with reports := w.reports ++ [delta.epoch] }
  | insert {after : After} {since epoch rank : Nat} {r : SignedRevocation} {rest : List SignedRevocation}
      (hsig : r.verifySignature A.crates A.verifyKey = .ok ()) :
      Move A w (.frames after since epoch rank (r :: rest)) .go (.remove after r.keyId since epoch rank rest)
        { w with shared := w.shared.insertRevoked r.keyId }
  | remove {after : After} {keyId : Str} {since epoch rank : Nat} {rest : List SignedRevocation} :
      Move A w (.remove after keyId since epoch rank rest) .go (.frames after since epoch rank rest)
        { w with shared := w.shared.removeCached keyId }
  | store {after : After} {since epoch rank : Nat} {pc' : Pc} (hlt : since < epoch) (hout : pc'.Outside) :
      Move A w (.frames after since epoch rank []) .go pc'
        { w with shared := w.shared.storeEpoch epoch, stored := some rank }
  | other {pc pc' : Pc} {input : Input} {shared : Shared} (hout : pc'.Outside)
      (hepoch : shared.localEpoch = w.shared.localEpoch) (hgrows : w.shared.revocations ⊆ shared.revocations) :
      Move A w pc input pc' { w with shared := shared }

lemma outside_finish (after : After) (result : Except ApiError Unit) : (after.finish result).Outside := by
  cases after <;> exact trivial

lemma outside_begin (task : Task) : task.begin.Outside := by
  cases task <;> exact trivial

lemma Move.quiet (hout : pc'.Outside) : Move A w pc input pc' w :=
  .other hout rfl subset_rfl

lemma move_of_advance (h : advance A w pc input = some (pc', w')) :
    Move A w pc input pc' w' := by
  unfold advance at h
  split at h
  case h_1 task =>
    cases h
    exact .quiet (outside_begin task)
  case h_2 task =>
    cases h
    exact .quiet (outside_begin task)
  case h_8 =>
    cases h
    exact .load
  case h_9 after since answer =>
    split at h <;> cases h
    · exact .answer
    · exact .quiet (outside_finish after _)
  case h_10 after since epoch rank r rest =>
    split at h <;> rename_i hsig <;> cases h
    · exact .insert hsig
    · exact .quiet (outside_finish after _)
  case h_11 =>
    cases h
    exact .remove
  case h_12 after since epoch rank =>
    split at h <;> rename_i hlt <;> cases h
    · exact .store hlt (outside_finish after _)
    · exact .quiet (outside_finish after _)
  -- the rest of `authenticate_parsed` and `apply_revocation` on its own
  all_goals first
    | (cases h; exact .other trivial rfl subset_rfl)
    | (split at h <;> cases h <;>
        first | exact .quiet trivial | exact .other trivial rfl subset_rfl |
          exact .other trivial rfl (Finset.subset_insert _ _))
    | cases h

/-- What a thread step does to the world besides moving the thread. -/
structure Effect (w w' : World) : Prop where
  threads : w'.threads = w.threads
  log : w'.log = w.log
  grows : w.shared.revocations ⊆ w'.shared.revocations
  reports : w.reports <+: w'.reports

/-- No step takes a key out of the revocation set or a report back, and none touches the log or another thread. -/
lemma Move.effect (h : Move A w pc input pc' w') : Effect w w' := by
  cases h with
  | answer => exact ⟨rfl, rfl, subset_rfl, List.prefix_append _ _⟩
  | insert => exact ⟨rfl, rfl, Finset.subset_insert _ _, List.prefix_refl _⟩
  | other hout hepoch hgrows => exact ⟨rfl, rfl, hgrows, List.prefix_refl _⟩
  | _ => exact ⟨rfl, rfl, subset_rfl, List.prefix_refl _⟩

/-- What a step leaves the local epoch at: what it was, or the epoch of an answer all of whose frames were applied. -/
lemma Move.localEpoch (h : Move A w pc input pc' w') :
    (w'.shared.localEpoch = w.shared.localEpoch ∧ w'.stored = w.stored) ∨
    ∃ after since epoch rank, pc = .frames after since epoch rank [] ∧ since < epoch ∧ input = .go ∧
      w' = { w with shared := w.shared.storeEpoch epoch, stored := some rank } := by
  cases h with
  | store hlt hout => exact Or.inr ⟨_, _, _, _, rfl, hlt, rfl, rfl⟩
  | other hout hepoch hgrows => exact Or.inl ⟨hepoch, rfl⟩
  | _ => exact Or.inl ⟨rfl, rfl⟩

lemma step_cases (h : step A w e = some w') :
    (∃ frame, e = .append frame ∧ w' = { w with log := w.log ++ [frame] }) ∨
    ∃ t input pc w₁, e = .thread t input ∧ Move A w (w.threads t) input pc w₁ ∧
      w' = { w₁ with threads := Function.update w.threads t pc } := by
  cases e with
  | append frame => exact Or.inl ⟨frame, rfl, (Option.some.inj h).symm⟩
  | thread t input =>
    obtain ⟨⟨pc, w₁⟩, hadv, rfl⟩ := Option.map_eq_some_iff.mp h
    have hmove := move_of_advance hadv
    exact Or.inr ⟨t, input, pc, w₁, rfl, hmove, by rw [hmove.effect.threads]⟩

lemma step_revocations (h : step A w e = some w') : w.shared.revocations ⊆ w'.shared.revocations := by
  obtain ⟨frame, -, rfl⟩ | ⟨t, input, pc, w₁, -, hmove, rfl⟩ := step_cases h
  · exact subset_rfl
  · exact hmove.effect.grows

lemma exec_revocations {es : List Event} (h : exec (step A) w es = some w') :
    w.shared.revocations ⊆ w'.shared.revocations := by
  refine exec_rel (R := fun v v' => v.shared.revocations ⊆ v'.shared.revocations) ?_ ?_ ?_ h
  · intro v
    exact subset_rfl
  · intro v₁ v₂ v₃ h₁₂ h₂₃
    exact subset_trans h₁₂ h₂₃
  · intro v e v' hs
    exact step_revocations hs

end Effects

/-! ## Revocation is permanent -/

/-- The thread is about to insert the key of a frame. -/
inductive AboutToInsert (r : SignedRevocation) : Pc → Prop where
  | alone : AboutToInsert r (.revoke r)
  | inSync {after : After} {since epoch rank : Nat} {rest : List SignedRevocation} :
      AboutToInsert r (.frames after since epoch rank (r :: rest))

variable {t : Nat}

lemma insert_revokes {A : RemoteAuthenticator} {w w' : World} {r : SignedRevocation}
    (hpc : AboutToInsert r (w.threads t)) (hsig : r.verifySignature A.crates A.verifyKey = .ok ())
    (h : step A w (.thread t .go) = some w') : r.keyId ∈ w'.shared.revocations := by
  obtain ⟨⟨pc, w₁⟩, hadv, rfl⟩ := Option.map_eq_some_iff.mp h
  generalize w.threads t = pc₀ at hpc hadv
  cases hpc with
  | alone =>
    simp only [advance, hsig] at hadv
    cases hadv
    exact Finset.mem_insert_self _ _
  | inSync =>
    simp only [advance, hsig] at hadv
    cases hadv
    exact Finset.mem_insert_self _ _

/-- **Revocation is permanent.**  From any state of any threads and against any L0, once a thread has inserted the key
of a revocation whose signature verifies, whatever happens next, a thread that then makes the revocation check for that
key returns `Unauthorized`. -/
theorem revoked_key_unauthorized (A : RemoteAuthenticator) (later : List Event) (t u : Nat)
    (r : SignedRevocation) (parsed : ParsedApiKey) (input : Input) (w₁ w₂ w₃ w₄ : World)
    (hpc : AboutToInsert r (w₁.threads t))
    (hsig : r.verifySignature A.crates A.verifyKey = .ok ()) (hinsert : step A w₁ (.thread t .go) = some w₂)
    (hlater : exec (step A) w₂ later = some w₃) (hcheck : w₃.threads u = .check parsed) (hkey : parsed.keyId = r.keyId)
    (hstep : step A w₃ (.thread u input) = some w₄) :
    w₄.threads u = .finished (.error .unauthorized) := by
  have hin : parsed.keyId ∈ w₃.shared.revocations := by
    rw [hkey]
    exact exec_revocations hlater (insert_revokes hpc hsig hinsert)
  obtain ⟨⟨pc, w'⟩, hadv, rfl⟩ := Option.map_eq_some_iff.mp hstep
  rw [hcheck] at hadv
  cases input with
  | go =>
    simp only [advance, hin, if_true] at hadv
    cases hadv
    exact Function.update_self _ _ _
  | start task => simp [advance] at hadv
  | clock nowMs => simp [advance] at hadv
  | authorized answer => simp [advance] at hadv
  | fetched answer => simp [advance] at hadv

/-! ## Epoch completeness -/

/-- L0 keeps its log: a new frame is numbered after every epoch reported so far, and a fetch is answered with an epoch
not before the one asked from and with every frame in between. -/
def KeepsLog (w : World) : Event → Prop
  | .append frame => 0 < frame.epoch ∧ ∀ e ∈ w.reports, e < frame.epoch
  | .thread t (.fetched (.ok delta)) => ∀ after since, w.threads t = .fetch after since →
      since ≤ delta.epoch ∧ ∀ f ∈ w.log, since < f.epoch → f.epoch ≤ delta.epoch → f ∈ delta.revocations
  | _ => True

/-- Every frame up to an epoch is revoked, or still among the frames to come. -/
def Covered (w : World) (epoch : Nat) (rest : List SignedRevocation) : Prop :=
  ∀ f ∈ w.log, f.epoch ≤ epoch → f.keyId ∈ w.shared.revocations ∨ f ∈ rest

/-- L0 has reported the epoch, or it is the first. -/
def Reported (w : World) (epoch : Nat) : Prop := epoch = 0 ∨ epoch ∈ w.reports

/-- What a thread knows of the log. -/
def Knows (w : World) : Pc → Prop
  | .fetch _ since => Reported w since ∧ Covered w since []
  | .frames _ _ epoch _ rest => Reported w epoch ∧ Covered w epoch rest
  | .remove _ _ _ epoch _ rest => Reported w epoch ∧ Covered w epoch rest
  | _ => True

/-- The local epoch and every thread know the log up to their epoch. -/
structure Complete (w : World) : Prop where
  reported : Reported w w.shared.localEpoch
  covered : Covered w w.shared.localEpoch []
  knows : ∀ t, Knows w (w.threads t)

variable {rest : List SignedRevocation}

variable {epoch : Nat}

section Completeness

variable {A : RemoteAuthenticator} {w w' : World}

/-- What an event leaves true of the log: reports and revocations grow, and new frames come after every report. -/
structure Later (w w' : World) : Prop where
  reports : w.reports ⊆ w'.reports
  grows : w.shared.revocations ⊆ w'.shared.revocations
  log : ∀ f ∈ w'.log, f ∈ w.log ∨ (0 < f.epoch ∧ ∀ e ∈ w.reports, e < f.epoch)

lemma Reported.later (h : Reported w epoch) (hl : Later w w') : Reported w' epoch :=
  h.imp_right fun hmem => hl.reports hmem

lemma Covered.later (h : Covered w epoch rest) (hr : Reported w epoch)
    (hl : Later w w') : Covered w' epoch rest := by
  intro f hf hle
  rcases hl.log f hf with hold | ⟨hpos, hnew⟩
  · exact (h f hold hle).imp_left fun hin => hl.grows hin
  · -- a new frame is numbered after the epoch
    rcases hr with rfl | hmem
    · omega
    · have := hnew epoch hmem
      omega

lemma Knows.later (h : Knows w pc) (hl : Later w w') : Knows w' pc := by
  cases pc with
  | fetch after since => exact ⟨h.1.later hl, h.2.later h.1 hl⟩
  | frames after since epoch rank rest => exact ⟨h.1.later hl, h.2.later h.1 hl⟩
  | remove after keyId since epoch rank rest => exact ⟨h.1.later hl, h.2.later h.1 hl⟩
  | _ => exact trivial

/-- Where the threads stand is no part of what one of them knows. -/
lemma knows_threads {threads : Nat → Pc} : Knows { w with threads := threads } pc ↔ Knows w pc := by
  cases pc <;> exact Iff.rfl

lemma later_of_append {frame : SignedRevocation} (h : 0 < frame.epoch ∧ ∀ e ∈ w.reports, e < frame.epoch) :
    Later w { w with log := w.log ++ [frame] } := by
  refine ⟨List.Subset.refl _, subset_rfl, ?_⟩
  intro f hf
  rcases List.mem_append.mp hf with hold | hnew
  · exact Or.inl hold
  · obtain rfl := List.mem_singleton.mp hnew
    exact Or.inr h

lemma Effect.later (h : Effect w w') : Later w w' := by
  refine ⟨h.reports.subset, h.grows, fun f hf => ?_⟩
  rw [h.log] at hf
  exact Or.inl hf

lemma knows_of_outside (h : pc.Outside) : Knows w pc := by
  cases pc with
  | fetch | frames | remove => exact h.elim
  | _ => exact trivial

lemma Complete.localEpoch (hc : Complete w) (h : Move A w (w.threads t) input pc' w') :
    Reported w' w'.shared.localEpoch ∧ Covered w' w'.shared.localEpoch [] := by
  have hl := h.effect.later
  rcases h.localEpoch with ⟨heq, -⟩ | ⟨after, since, epoch, rank, hpc, -, -, rfl⟩
  · rw [heq]
    exact ⟨hc.reported.later hl, hc.covered.later hc.reported hl⟩
  · have hk := hc.knows t
    rw [hpc] at hk
    exact ⟨hk.1.later hl, hk.2.later hk.1 hl⟩

lemma covered_of_answer {since : Nat} {delta : RevocationDelta} {reports : List Nat} (hsince : Covered w since [])
    (hall : ∀ f ∈ w.log, since < f.epoch → f.epoch ≤ delta.epoch → f ∈ delta.revocations) :
    Covered { w with reports := reports } delta.epoch delta.revocations := by
  intro f hf hle
  rcases Nat.lt_or_ge since f.epoch with hlt | hge
  · exact Or.inr (hall f hf hlt hle)
  · exact Or.inl ((hsince f hf hge).resolve_right (List.not_mem_nil))

lemma covered_insert {r : SignedRevocation} (h : Covered w epoch (r :: rest)) :
    Covered { w with shared := w.shared.insertRevoked r.keyId } epoch rest := by
  intro f hf hle
  rcases h f hf hle with hin | hmem
  · exact Or.inl (Finset.mem_insert_of_mem hin)
  · rcases List.mem_cons.mp hmem with rfl | hrest
    · exact Or.inl (Finset.mem_insert_self _ _)
    · exact Or.inr hrest

lemma Complete.moved (hkeeps : KeepsLog w (.thread t input)) (hc : Complete w)
    (h : Move A w (w.threads t) input pc' w') : Knows w' pc' := by
  have hk := hc.knows t
  generalize hpc : w.threads t = pc at hk h
  cases h with
  | load => exact ⟨hc.reported, hc.covered⟩
  | answer =>
    obtain ⟨-, hall⟩ := hkeeps _ _ hpc
    exact ⟨Or.inr (List.mem_append_right _ (List.mem_singleton_self _)), covered_of_answer hk.2 hall⟩
  | insert => exact ⟨hk.1, covered_insert hk.2⟩
  | remove => exact ⟨hk.1, hk.2⟩
  | store hlt hout => exact knows_of_outside hout
  | other hout => exact knows_of_outside hout

lemma Complete.fresh : Complete .fresh :=
  ⟨Or.inl rfl, fun _ hf _ => absurd hf List.not_mem_nil, fun _ => trivial⟩

lemma Complete.step (hkeeps : KeepsLog w e) (h : step A w e = some w') (hc : Complete w) :
    Complete w' := by
  obtain ⟨frame, rfl, rfl⟩ | ⟨t, input, pc, w₁, rfl, hmove, rfl⟩ := step_cases h
  · have hl := later_of_append hkeeps
    exact ⟨hc.reported.later hl, hc.covered.later hc.reported hl, fun t => (hc.knows t).later hl⟩
  · have hl := hmove.effect.later
    obtain ⟨hrep, hcov⟩ := hc.localEpoch hmove
    refine ⟨hrep, hcov, fun u => ?_⟩
    by_cases hu : u = t
    · subst hu
      change Knows _ (Function.update w.threads u pc u)
      rw [Function.update_self]
      exact knows_threads.mpr (hc.moved hkeeps hmove)
    · change Knows _ (Function.update w.threads t pc u)
      rw [Function.update_of_ne hu]
      exact knows_threads.mpr ((hc.knows u).later hl)

end Completeness

/-- **Epoch completeness.**  In every run of any threads against an L0 that keeps its log, and at every moment of it,
each frame numbered up to the local epoch has its key in the revocation set. -/
theorem frames_up_to_epoch_revoked (A : RemoteAuthenticator) (es : List Event) (w : World)
    (hkeeps : Along (step A) KeepsLog .fresh es) (h : exec (step A) .fresh es = some w) :
    ∀ f ∈ w.log, f.epoch ≤ w.shared.localEpoch → f.keyId ∈ w.shared.revocations := by
  have hstep : ∀ v e v', KeepsLog v e → step A v e = some v' → Complete v → Complete v' := by
    intro v e v' hk hs hc
    exact hc.step hk hs
  have hc : Complete w := exec_inv_along hstep hkeeps h Complete.fresh
  intro f hf hle
  exact (hc.covered f hf hle).resolve_right List.not_mem_nil

/-! ## The epoch under overtaking -/

/-- L0's reported epoch does not decrease. -/
def ReportsRise (w : World) : Event → Prop
  | .thread t (.fetched (.ok delta)) => (∃ after since, w.threads t = .fetch after since) →
      ∀ e ∈ w.reports, e ≤ delta.epoch
  | _ => True

/-- The event does not take the local epoch back. -/
def EpochKept (A : RemoteAuthenticator) (w : World) (e : Event) : Prop :=
  ∀ w', step A w e = some w' → w.shared.localEpoch ≤ w'.shared.localEpoch

/-- An answer that is stored was not overtaken: the epoch was last set from an answer to an earlier fetch (or the same),
or from one that reported the same epoch. -/
def NotOvertaken (w : World) : Event → Prop
  | .thread t .go => ∀ after since epoch rank, w.threads t = .frames after since epoch rank [] → since < epoch →
      ∀ last, w.stored = some last → last ≤ rank ∨ w.reports[last]? = some epoch
  | _ => True

/-- The rank a thread carries is that of its answer. -/
def Ranked (w : World) : Pc → Prop
  | .frames _ _ epoch rank _ => w.reports[rank]? = some epoch
  | .remove _ _ _ epoch rank _ => w.reports[rank]? = some epoch
  | _ => True

/-- Reports rise, ranks are those of the answers, and the local epoch is that of the answer last stored. -/
structure RanksKept (w : World) : Prop where
  rise : w.reports.Pairwise (· ≤ ·)
  ranked : ∀ t, Ranked w (w.threads t)
  stored : ∀ last, w.stored = some last → w.reports[last]? = some w.shared.localEpoch
  unset : w.stored = none → w.shared.localEpoch = 0

section Overtaking

variable {A : RemoteAuthenticator} {w w' : World}

lemma getElem?_of_prefix {l l' : List Nat} (h : l <+: l') {i e : Nat} (hi : l[i]? = some e) : l'[i]? = some e := by
  obtain ⟨rest, rfl⟩ := h
  rw [List.getElem?_append_left (List.getElem?_eq_some_iff.mp hi).1]
  exact hi

lemma le_of_rank_le {l : List Nat} (hl : l.Pairwise (· ≤ ·)) {i j a b : Nat} (hij : i ≤ j) (hi : l[i]? = some a)
    (hj : l[j]? = some b) : a ≤ b := by
  obtain ⟨hilt, rfl⟩ := List.getElem?_eq_some_iff.mp hi
  obtain ⟨hjlt, rfl⟩ := List.getElem?_eq_some_iff.mp hj
  rcases Nat.lt_or_eq_of_le hij with hlt | rfl
  · exact List.pairwise_iff_getElem.mp hl i j hilt hjlt hlt
  · exact Nat.le_refl _

lemma Ranked.later (h : Ranked w pc) (hp : w.reports <+: w'.reports) : Ranked w' pc := by
  cases pc with
  | frames after since epoch rank rest => exact getElem?_of_prefix hp h
  | remove after keyId since epoch rank rest => exact getElem?_of_prefix hp h
  | _ => exact trivial

lemma ranked_threads {threads : Nat → Pc} : Ranked { w with threads := threads } pc ↔ Ranked w pc := by
  cases pc <;> exact Iff.rfl

lemma Move.ranked (hk : Ranked w pc) (h : Move A w pc input pc' w') :
    Ranked w' pc' := by
  have houtside {v : World} {pc : Pc} (hout : pc.Outside) : Ranked v pc := by
    cases pc with
    | fetch | frames | remove => exact hout.elim
    | _ => exact trivial
  cases h with
  | load => exact trivial
  | answer => exact List.getElem?_concat_length
  | insert => exact hk
  | remove => exact hk
  | store hlt hout => exact houtside hout
  | other hout => exact houtside hout

lemma RanksKept.rises (hrise : ReportsRise w (.thread t input))
    (hk : RanksKept w) (h : Move A w (w.threads t) input pc' w') : w'.reports.Pairwise (· ≤ ·) := by
  generalize hpc : w.threads t = pc at h
  cases h with
  | answer =>
    refine List.pairwise_append.mpr ⟨hk.rise, List.pairwise_singleton _ _, ?_⟩
    intro a ha b hb
    obtain rfl := List.mem_singleton.mp hb
    exact hrise ⟨_, _, hpc⟩ a ha
  | _ => exact hk.rise

lemma RanksKept.reported {after : After} {since rank : Nat}
    (hk : RanksKept w) (hpc : w.threads t = .frames after since epoch rank rest) : w.reports[rank]? = some epoch := by
  have hr := hk.ranked t
  rw [hpc] at hr
  exact hr

lemma RanksKept.fresh : RanksKept .fresh :=
  ⟨List.Pairwise.nil, fun _ => trivial, fun _ h => (nomatch h), fun _ => rfl⟩

lemma RanksKept.step (hrise : ReportsRise w e) (h : step A w e = some w') (hk : RanksKept w) :
    RanksKept w' := by
  obtain ⟨frame, rfl, rfl⟩ | ⟨t, input, pc, w₁, rfl, hmove, rfl⟩ := step_cases h
  · refine ⟨hk.rise, fun t => ?_, hk.stored, hk.unset⟩
    exact (hk.ranked t).later (List.prefix_refl _)
  · have hp := hmove.effect.reports
    have hrise₁ := hk.rises hrise hmove
    refine ⟨hrise₁, fun u => ?_, fun last hlast => ?_, fun hnone => ?_⟩
    · by_cases hu : u = t
      · subst hu
        change Ranked _ (Function.update w.threads u pc u)
        rw [Function.update_self]
        exact ranked_threads.mpr (hmove.ranked (hk.ranked u))
      · change Ranked _ (Function.update w.threads t pc u)
        rw [Function.update_of_ne hu]
        exact ranked_threads.mpr ((hk.ranked u).later hp)
    · rcases hmove.localEpoch with ⟨heq, hst⟩ | ⟨after, since, epoch, rank, hpc, -, -, rfl⟩
      · change w₁.reports[last]? = some w₁.shared.localEpoch
        rw [heq]
        exact getElem?_of_prefix hp (hk.stored last (hst ▸ hlast))
      · obtain rfl : rank = last := Option.some.inj hlast
        exact hk.reported hpc
    · rcases hmove.localEpoch with ⟨heq, hst⟩ | ⟨after, since, epoch, rank, -, -, -, rfl⟩
      · exact heq.trans (hk.unset (hst ▸ hnone))
      · cases hnone

/-- A store takes the epoch back exactly when its answer was overtaken. -/
lemma epochKept_iff_notOvertaken (hk : RanksKept w) (e : Event) : EpochKept A w e ↔ NotOvertaken w e := by
  constructor
  · intro hkept
    cases e with
    | append frame => exact trivial
    | thread t input =>
      cases input with
      | go =>
        intro after since epoch rank hpc hlt last hlast
        have hle : w.shared.localEpoch ≤ epoch := by
          refine hkept { w with
            shared := w.shared.storeEpoch epoch
            threads := Function.update w.threads t (after.finish (.ok ()))
            stored := some rank } ?_
          simp only [Core.step, hpc, advance, hlt, if_true, Option.map_some]
        have hrank := hk.reported hpc
        rcases Nat.lt_or_ge rank last with hgt | hle'
        · -- the later report is at least the earlier one, and not above it
          have hge := le_of_rank_le hk.rise (Nat.le_of_lt hgt) hrank (hk.stored last hlast)
          have heq : w.shared.localEpoch = epoch := Nat.le_antisymm hle hge
          exact Or.inr (heq ▸ hk.stored last hlast)
        · exact Or.inl hle'
      | _ => exact trivial
  · intro hnot w' h
    obtain ⟨frame, rfl, rfl⟩ | ⟨t, input, pc, w₁, rfl, hmove, rfl⟩ := step_cases h
    · exact Nat.le_refl _
    · rcases hmove.localEpoch with ⟨heq, -⟩ | ⟨after, since, epoch, rank, hpc, hlt, rfl, rfl⟩
      · exact Nat.le_of_eq heq.symm
      · change w.shared.localEpoch ≤ epoch
        have hrank := hk.reported hpc
        rcases hst : w.stored with _ | last
        · rw [hk.unset hst]
          exact Nat.zero_le _
        · rcases hnot after since epoch rank hpc hlt last hst with hle | hsame
          · exact le_of_rank_le hk.rise hle (hk.stored last hst) hrank
          · have := (hk.stored last hst).symm.trans hsame
            exact Nat.le_of_eq (Option.some.inj this)

end Overtaking

/-- **When the epoch only advances.**  In every run of any threads against an L0 whose reported epoch does not decrease,
the local epoch never decreases exactly when no thread stores an answer after one to a later fetch, with another epoch,
was stored: the store does not compare with what is there. -/
theorem epoch_never_decreases_iff (A : RemoteAuthenticator) (es : List Event)
    (hrise : Along (step A) ReportsRise .fresh es) :
    Along (step A) (EpochKept A) .fresh es ↔ Along (step A) NotOvertaken .fresh es := by
  have hstep : ∀ v e v', ReportsRise v e → step A v e = some v' → RanksKept v → RanksKept v' := by
    intro v e v' hr hs hk
    exact hk.step hr hs
  have hiff : ∀ v e, ReportsRise v e → RanksKept v → (EpochKept A v e ↔ NotOvertaken v e) := by
    intro v e _ hk
    exact epochKept_iff_notOvertaken hk e
  exact along_congr hstep hiff hrise RanksKept.fresh

/-! ## Schedules -/

lemma threads_of_start {A : RemoteAuthenticator} {w w' : World} {task : Task}
    (h : step A w (.thread t (.start task)) = some w') : w'.threads t = task.begin := by
  obtain ⟨⟨pc, w₁⟩, hadv, rfl⟩ := Option.map_eq_some_iff.mp h
  change Function.update w₁.threads t pc t = task.begin
  rw [Function.update_self]
  generalize w.threads t = pc₀ at hadv
  cases pc₀ with
  | idle =>
    cases hadv
    rfl
  | finished result =>
    cases hadv
    rfl
  | frames after since epoch rank rest => cases rest <;> simp [advance] at hadv
  | _ => simp [advance] at hadv

namespace Sample

def inFlight : List Event := [.thread 1 (.start (.authenticate parsedKey)), .thread 1 .go, .thread 1 (.clock 1000),
  .thread 1 (.authorized (.ok authz))]

def overtaking : List Event := [.thread 0 .go, .thread 1 .go]

lemma verify_revocation : revocation.verifySignature authTables.crates l0Key = .ok () :=
  toOption_eq_some.mp (by decide +kernel)

def synced : List Event := [.append revocation, .thread 0 (.start .sync), .thread 0 .go,
  .thread 0 (.fetched (.ok ⟨5, [revocation]⟩)), .thread 0 .go, .thread 0 .go, .thread 0 .go]

def crossed : List Event := [.thread 0 (.start .sync), .thread 0 .go, .thread 0 (.fetched (.ok ⟨5, []⟩)),
  .thread 1 (.start .sync), .thread 1 .go, .thread 1 (.fetched (.ok ⟨10, []⟩)), .thread 1 .go]

lemma keepsLog_synced : Along (step authenticator) KeepsLog .fresh synced := by
  refine .cons ⟨by decide, fun _ he => absurd he List.not_mem_nil⟩ rfl (.cons trivial rfl (.cons trivial rfl ⟨?_, ?_⟩))
  · rintro after since hpc
    obtain ⟨-, rfl⟩ := Pc.fetch.inj hpc
    exact ⟨Nat.zero_le _, fun f hf _ _ => hf⟩
  · intro w _
    exact .of_forall (by simp [KeepsLog])

lemma reportsRise_crossed (last : List Event) (hlast : ∀ e ∈ last, ∀ w, ReportsRise w e) :
    Along (step authenticator) ReportsRise .fresh (crossed ++ last) := by
  refine .cons trivial rfl (.cons trivial rfl (.cons ?_ rfl (.cons trivial rfl (.cons trivial rfl
    (.cons ?_ rfl (.cons trivial rfl (.of_forall hlast)))))))
  · rintro - e he
    exact absurd he List.not_mem_nil
  · rintro - e he
    obtain rfl := List.mem_singleton.mp he
    decide

lemma crossed_epochs : ∃ w₁, exec (step authenticator) .fresh crossed = some w₁ ∧ w₁.shared.localEpoch = 10 ∧
    ∃ w₂, step authenticator w₁ (.thread 0 .go) = some w₂ ∧ w₂.shared.localEpoch = 5 :=
  ⟨_, rfl, rfl, _, rfl, rfl⟩

end Sample

open Sample in
/-- The race: thread 1 puts the authorization back into the cache after thread 0 has revoked the key, and thread 2 is
refused all the same. -/
theorem revoked_key_unauthorized_sample : ∃ w₁ w₂ w₃ w₄,
    exec (step authenticator) .fresh (inFlight ++ [.thread 0 (.start (.revoke revocation))]) = some w₁ ∧
    step authenticator w₁ (.thread 0 .go) = some w₂ ∧
    exec (step authenticator) w₂ (overtaking ++ [.thread 2 (.start (.authenticate parsedKey))]) = some w₃ ∧
    (w₃.shared.cache parsedKey.keyId).isSome ∧ step authenticator w₃ (.thread 2 .go) = some w₄ ∧
    w₄.threads 2 = .finished (.error .unauthorized) := by
  have hrun : ((exec (step authenticator) .fresh ((inFlight ++ [.thread 0 (.start (.revoke revocation))]) ++
      (.thread 0 .go :: ((overtaking ++ [.thread 2 (.start (.authenticate parsedKey))]) ++ [.thread 2 .go])))).map
        fun w => (w.shared.cache parsedKey.keyId).isSome) = some true := by decide +kernel
  obtain ⟨w₄, hexec, hcache⟩ := Option.map_eq_some_iff.mp hrun
  obtain ⟨w₁, h₁, hrest⟩ := exec_append.mp hexec
  obtain ⟨w₂, h₂, hrest⟩ := exec_cons.mp hrest
  obtain ⟨w₃, h₃, hrest⟩ := exec_append.mp hrest
  obtain ⟨w₄', h₄, hend⟩ := exec_cons.mp hrest
  obtain rfl : w₄' = w₄ := Option.some.inj hend
  have hpc : w₁.threads 0 = .revoke revocation := by
    obtain ⟨w, -, hlast⟩ := exec_append.mp h₁
    obtain ⟨w', hstart, hw⟩ := exec_cons.mp hlast
    obtain rfl : w' = w₁ := Option.some.inj hw
    exact threads_of_start hstart
  have hcheck : w₃.threads 2 = .check parsedKey := by
    obtain ⟨w, -, hlast⟩ := exec_append.mp h₃
    obtain ⟨w', hstart, hw⟩ := exec_cons.mp hlast
    obtain rfl : w' = w₃ := Option.some.inj hw
    exact threads_of_start hstart
  have hinsert : AboutToInsert revocation (w₁.threads 0) := by
    rw [hpc]
    exact .alone
  have hout := revoked_key_unauthorized authenticator _ 0 2 revocation parsedKey .go w₁ w₂ w₃ w₄' hinsert
    verify_revocation h₂ h₃ hcheck rfl h₄
  refine ⟨w₁, w₂, w₃, w₄', h₁, h₂, h₃, ?_, h₄, hout⟩
  -- the check leaves the cache as it is
  obtain ⟨⟨pc, w⟩, hadv, rfl⟩ := Option.map_eq_some_iff.mp h₄
  rw [hcheck] at hadv
  simp only [advance] at hadv
  split at hadv
  · cases hadv
    exact hcache
  · cases hadv
    exact hcache

open Sample in
theorem frames_up_to_epoch_revoked_sample : ∃ w, exec (step authenticator) .fresh synced = some w ∧
    w.shared.localEpoch = 5 ∧ ∀ f ∈ w.log, f.epoch ≤ w.shared.localEpoch → f.keyId ∈ w.shared.revocations := by
  have hrun : (exec (step authenticator) .fresh synced).map (fun w => w.shared.localEpoch) = some 5 := by decide +kernel
  obtain ⟨w, hexec, hepoch⟩ := Option.map_eq_some_iff.mp hrun
  exact ⟨w, hexec, hepoch, frames_up_to_epoch_revoked authenticator synced w keepsLog_synced hexec⟩

open Sample in
/-- The answer of thread 0 was overtaken, and its store takes the epoch back from 10 to 5. -/
theorem epoch_taken_back : ∃ w₁ w₂,
    Along (step authenticator) ReportsRise .fresh (crossed ++ [.thread 0 .go]) ∧
    exec (step authenticator) .fresh crossed = some w₁ ∧ step authenticator w₁ (.thread 0 .go) = some w₂ ∧
    w₁.shared.localEpoch = 10 ∧ w₂.shared.localEpoch = 5 := by
  obtain ⟨w₁, h₁, he₁, w₂, h₂, he₂⟩ := crossed_epochs
  exact ⟨w₁, w₂, reportsRise_crossed _ (by simp [ReportsRise]), h₁, h₂, he₁, he₂⟩

open Sample in
theorem epoch_never_decreases_iff_sample :
    Along (step authenticator) (EpochKept authenticator) .fresh (crossed ++ [.thread 0 .go]) ↔
      Along (step authenticator) NotOvertaken .fresh (crossed ++ [.thread 0 .go]) :=
  epoch_never_decreases_iff authenticator _ (reportsRise_crossed _ (by simp [ReportsRise]))

end TeechatOpenapi.Core
