import TeechatOpenapi.Attest.Freshness

/-!
# Rollback protection over many runs

Runs of the client verifier that do not overlap and share one directory of floor files.  A run checks the epoch of the
edge manifest against its floor at its start and raises the floor at its end; in between it does the same with the
golden digests that confirmed the build.  Every way out of a run leaves the floors as they are or higher.
-/

namespace TeechatOpenapi.Attest

open Lib Platform

/-- The floor of a file is still in the other one, or a higher one. -/
def Rises (f f' : FloorFile) : Prop := ∀ n, floorEpoch f = some n → ∃ m, floorEpoch f' = some m ∧ n ≤ m

/-- A floor file that is there and holds no floor: it cannot be read, or what it holds is no number. -/
def Unusable : FloorFile → Prop
  | .missing => False
  | .unreadable _ => True
  | .content s => parseUnsigned u64Max (trim s) = none

lemma Rises.refl (f : FloorFile) : Rises f f := fun n hn => ⟨n, hn, le_refl n⟩

lemma Rises.trans {f f' f'' : FloorFile} (h : Rises f f') (h' : Rises f' f'') : Rises f f'' := by
  intro n hn
  obtain ⟨m, hm, hnm⟩ := h n hn
  obtain ⟨k, hk, hmk⟩ := h' m hm
  exact ⟨k, hk, hnm.trans hmk⟩

/-- An epoch that is not below a floor is not below the floors it rose from. -/
lemma Rises.le {f f' : FloorFile} {n epoch : Nat} (h : Rises f f') (hn : floorEpoch f = some n)
    (hbelow : NotBelow epoch f') : n ≤ epoch := by
  obtain ⟨m, hm, hnm⟩ := h n hn
  exact hnm.trans (hbelow m hm)

lemma not_unusable {path : Str} {f : FloorFile} {o : Option Nat} (h : readEpochFloorAt path f = .ok o) :
    ¬ Unusable f := by
  intro hf
  cases f with
  | missing => exact hf
  | unreadable e => cases h
  | content s =>
    rw [readEpochFloorAt, show parseUnsigned u64Max (trim s) = none from hf] at h
    cases h

section Run

variable {X : Crates} {D : Dcap} {E : Outside} {kind : EpochKind} {epoch : Nat} {s s' : AttestState}

lemma assertEpochMonotonic_usable (h : assertEpochMonotonic E kind epoch s = (.ok (), s')) :
    ¬ Unusable (s.floor kind) := by
  obtain ⟨_, _, h⟩ := Op.lift_bind_eq_ok.mp h
  rw [Op.get_bind] at h
  obtain ⟨o, hread, -⟩ := Op.lift_bind_eq_ok.mp h
  exact not_unusable hread

lemma assertEpochMonotonic_fixes (E : Outside) (kind : EpochKind) (epoch : Nat) :
    Op.Fixes AttestState.floor (assertEpochMonotonic E kind epoch) := by
  refine Op.Fixes.lift_bind fun _ => Op.Fixes.bind (fun _ => rfl) fun s => ?_
  refine Op.Fixes.lift_bind fun o => ?_
  cases o with
  | none => exact Op.Fixes.pure _ _
  | some floor => exact Op.Fixes.lift _ _

/-- What `remember_epoch` does to the floor files, whatever it returns: nothing, the write of an epoch above the floor,
or what a failed write leaves. -/
lemma rememberEpoch_state (E : Outside) (kind : EpochKind) (epoch : Nat) (s : AttestState) :
    (rememberEpoch E kind epoch s).2 = s ∨
    ((floorEpoch (s.floor kind)).getD 0 < epoch ∧ (rememberEpoch E kind epoch s).2 =
      { s with floor := Function.update s.floor kind (.content (decimal epoch ++ ['\n'])) }) ∨
    ∃ e left, E.floorWrite kind = .failed e left ∧ (rememberEpoch E kind epoch s).2 =
      { s with floor := Function.update s.floor kind left } := by
  unfold rememberEpoch
  simp only [Op.bind_run, Op.get_run, Op.lift_run]
  by_cases hvalid : epoch < 1
  · left
    rw [failIf, if_pos hvalid]
  rw [failIf, if_neg hvalid]
  dsimp only
  rcases hread : readEpochFloorAt (floorPath E.host kind) (s.floor kind) with e | o
  · exact Or.inl rfl
  dsimp only
  split_ifs with hle
  · exact Or.inl rfl
  · rcases E.floorWrite kind with _ | e | ⟨e, left⟩
    · right
      left
      rw [readEpochFloorAt_eq_ok hread]
      exact ⟨Nat.not_le.mp hle, rfl⟩
    · exact Or.inl rfl
    · exact Or.inr (Or.inr ⟨e, left, rfl, rfl⟩)

/-- A write of the floor of one kind that fails leaves the file as it was. -/
def AtomicWrite (E : Outside) (kind : EpochKind) (f : FloorFile) : Prop :=
  ∀ e left, E.floorWrite kind = .failed e left → left = f

/-- Remembering an epoch lets the floor of its kind rise and leaves the other one alone. -/
lemma rememberEpoch_rises {floor : EpochKind → FloorFile} (hatomic : AtomicWrite E kind (floor kind))
    (hepoch : epoch ≤ u64Max) (hfloor : s.floor kind = floor kind) :
    Rises (floor kind) ((rememberEpoch E kind epoch s).2.floor kind) ∧
      ∀ k, k ≠ kind → (rememberEpoch E kind epoch s).2.floor k = s.floor k := by
  rcases rememberEpoch_state E kind epoch s with hs | ⟨habove, hs⟩ | ⟨e, left, hwrite, hs⟩
  · rw [hs, hfloor]
    exact ⟨Rises.refl _, fun _ _ => rfl⟩
  · rw [hs]
    refine ⟨fun n hn => ⟨epoch, ?_, ?_⟩, fun k hk => Function.update_of_ne hk _ _⟩
    · simp [floorEpoch_written, Option.filter, hepoch]
    · rw [hfloor, hn] at habove
      exact le_of_lt habove
  · rw [hs]
    refine ⟨?_, fun k hk => Function.update_of_ne hk _ _⟩
    rw [hatomic e left hwrite]
    simp only [Function.update_self]
    exact Rises.refl _

/-- The golden floor may have risen. -/
def GoldenRises (floor floor' : EpochKind → FloorFile) : Prop :=
  floor' .openapiEdge = floor .openapiEdge ∧ Rises (floor .goldenDigests) (floor' .goldenDigests)

variable {floor : EpochKind → FloorFile}

lemma GoldenRises.refl (floor : EpochKind → FloorFile) : GoldenRises floor floor := ⟨rfl, Rises.refl _⟩

lemma matchGoldenIn_rises (hatomic : AtomicWrite E .goldenDigests (floor .goldenDigests))
    (candidates : List (Listed EdgeRelease)) (measurement : Measurement) (sources : List GoldenLoadOptions) :
    Op.Meets (fun s => s.floor = floor) (matchGoldenIn X E candidates measurement sources)
      (fun _ s => GoldenRises floor s.floor) (fun s => GoldenRises floor s.floor) := by
  have hstart : ∀ s : AttestState, s.floor = floor → GoldenRises floor s.floor := by
    intro s hs
    rw [hs]
    exact GoldenRises.refl floor
  induction sources with
  | nil => exact Op.Meets.lift (fun _ _ h => nomatch h) hstart
  | cons opts rest ih =>
    have hload : Op.Meets (fun s => s.floor = floor) (loadGoldenDigests X E opts)
        (fun golden s => s.floor = floor ∧ golden.manifest.epoch ≤ u64Max) (fun s => GoldenRises floor s.floor) := by
      intro s hs
      refine ⟨fun golden s' hrun => ⟨?_, loadGoldenDigests_epoch X E opts s golden s' hrun⟩, fun e s' hrun => ?_⟩
      · exact ((loadGoldenDigests_floor X E opts).run hrun).trans hs
      · exact hstart s' (((loadGoldenDigests_floor X E opts).run hrun).trans hs)
    refine hload.bind fun golden => Op.Meets.knowing fun hepoch => ?_
    split
    · rename_i rel _
      refine (((assertEpochMonotonic_fixes E _ _).meets (· = floor)).error hstart).bind fun _ => ?_
      refine Op.Meets.bind (Q := fun _ s => GoldenRises floor s.floor) ?_ fun _ => Op.Meets.pure fun _ h => h
      intro s hs
      obtain ⟨hrises, hother⟩ := rememberEpoch_rises (E := E) (s := s) hatomic hepoch (congrFun hs _)
      have hafter : GoldenRises floor (rememberEpoch E .goldenDigests golden.manifest.epoch s).2.floor := by
        refine ⟨?_, hrises⟩
        rw [hother .openapiEdge (by decide), hs]
      constructor
      · intro _ s' hrun
        rw [hrun] at hafter
        exact hafter
      · intro _ s' hrun
        rw [hrun] at hafter
        exact hafter
    · exact ih

lemma chooseRelease_rises (hatomic : AtomicWrite E .goldenDigests (floor .goldenDigests)) (opts : VerifyOptions)
    (candidates : List (Listed EdgeRelease)) (measurement : Measurement) :
    Op.Meets (fun s => s.floor = floor) (chooseRelease X E opts candidates measurement)
      (fun _ s => GoldenRises floor s.floor) (fun s => GoldenRises floor s.floor) := by
  unfold chooseRelease
  split_ifs
  · exact (matchGoldenIn_rises hatomic _ _ _).bind fun _ => Op.Meets.pure fun _ h => h
  · refine (Op.Meets.lift (Q := fun _ s => s.floor = floor) (fun _ _ _ h => h) ?_).bind fun _ => Op.Meets.pure ?_
    · intro s hs
      rw [hs]
      exact GoldenRises.refl floor
    · intro s hs
      rw [hs]
      exact GoldenRises.refl floor

/-- **What one run does to the floors**, whatever it returns: each rises. -/
theorem finishVerifyRelying_rises (hatomic : ∀ kind, AtomicWrite E kind (floor kind)) (opts : VerifyOptions)
    (outcome : ChallengeOutcome) (trust : TrustBundle) (peer : PeerTlsIdentity) (hostname : Str)
    (hepoch : trust.manifest.manifest.epoch ≤ u64Max) :
    Op.Meets (fun s => s.floor = floor) (finishVerifyRelying X D E opts outcome trust peer hostname)
      (fun _ s => ∀ kind, Rises (floor kind) (s.floor kind)) (fun s => ∀ kind, Rises (floor kind) (s.floor kind)) := by
  have hgolden : ∀ s : AttestState, GoldenRises floor s.floor → ∀ kind, Rises (floor kind) (s.floor kind) := by
    intro s hs kind
    cases kind with
    | openapiEdge =>
      rw [hs.1]
      exact Rises.refl _
    | goldenDigests => exact hs.2
  have hstart : ∀ s : AttestState, s.floor = floor → ∀ kind, Rises (floor kind) (s.floor kind) := by
    intro s hs kind
    rw [hs]
    exact Rises.refl _
  unfold finishVerifyRelying
  refine (((assertEpochMonotonic_fixes E _ _).meets (· = floor)).error hstart).bind fun _ => ?_
  refine (Op.Meets.lift (fun _ _ _ h => h) hstart).bind fun _ => ?_
  refine (Op.Meets.lift (fun _ _ _ h => h) hstart).bind fun _ => ?_
  refine (Op.Meets.lift (fun _ _ _ h => h) hstart).bind fun candidates => ?_
  refine ((chooseRelease_rises (hatomic _) opts candidates _).error hgolden).bind fun chosen => ?_
  refine (((ceremonyPin_floor hostname _).meets (GoldenRises floor)).error hgolden).bind fun pin => ?_
  refine (((crossCheckCodeHashForEdge_floor E _ _ _ _ _).meets (GoldenRises floor)).error hgolden).bind fun _ => ?_
  refine (Op.Meets.lift (fun _ _ _ h => h) hgolden).bind fun _ => ?_
  refine Op.Meets.bind (Q := fun _ s => ∀ kind, Rises (floor kind) (s.floor kind)) ?_ fun _ => ?_
  swap
  · exact Op.Meets.pure fun _ h => h
  -- the floor of the edge is still the one from the start of the run
  intro s hs
  obtain ⟨hrises, hother⟩ := rememberEpoch_rises (E := E) (s := s) (hatomic .openapiEdge) hepoch hs.1
  have hafter : ∀ kind, Rises (floor kind)
      ((rememberEpoch E .openapiEdge trust.manifest.manifest.epoch s).2.floor kind) := by
    intro kind
    cases kind with
    | openapiEdge => exact hrises
    | goldenDigests =>
      rw [hother .goldenDigests (by decide)]
      exact hs.2
  constructor
  · intro _ s' hrun
    rw [hrun] at hafter
    exact hafter
  · intro _ s' hrun
    rw [hrun] at hafter
    exact hafter

lemma finishVerifyRelying_manifestEpoch (opts : VerifyOptions) (outcome : ChallengeOutcome) (trust : TrustBundle)
    (peer : PeerTlsIdentity) (hostname : Str) :
    Op.Meets (fun _ => True) (finishVerifyRelying X D E opts outcome trust peer hostname)
      (fun r _ => r.1.manifestEpoch = trust.manifest.manifest.epoch) (fun _ => True) := by
  have hany : ∀ {α : Type} (x : Run α), Op.Meets (fun _ => True) x (fun _ _ => True) (fun _ => True) :=
    fun _ _ _ => ⟨fun _ _ _ => trivial, fun _ _ _ => trivial⟩
  unfold finishVerifyRelying
  refine (hany _).bind fun _ => (hany _).bind fun _ => (hany _).bind fun _ => (hany _).bind fun _ => ?_
  refine (hany _).bind fun _ => (hany _).bind fun _ => (hany _).bind fun _ => (hany _).bind fun _ => ?_
  exact (hany _).bind fun _ => Op.Meets.pure fun _ _ => rfl

lemma matchGoldenIn_usable {candidates : List (Listed EdgeRelease)} {measurement : Measurement}
    {sources : List GoldenLoadOptions} {gm : GoldenMatch}
    (h : matchGoldenIn X E candidates measurement sources s = (.ok gm, s')) :
    ¬ Unusable (s.floor .goldenDigests) := by
  induction sources generalizing s with
  | nil => cases (Prod.mk.inj h).1
  | cons source rest ih =>
    obtain ⟨golden, s₁, hload, hrun⟩ := Op.bind_eq_ok.mp h
    rw [← show s₁.floor = s.floor from (loadGoldenDigests_floor X E source).run hload]
    rcases hfind : candidates.find? fun rel => goldenConfirms golden.manifest measurement rel.row with _ | rel
    · rw [hfind] at hrun
      exact ih hrun
    · rw [hfind] at hrun
      obtain ⟨_, s₂, hassert, -⟩ := Op.bind_eq_ok.mp hrun
      exact assertEpochMonotonic_usable hassert

/-- What a verdict says about the floors its run found and left: none was unusable, neither epoch was below its floor,
and both are the floors now. -/
structure Passed (v : AttestationVerdict) (docs : Relied) (before after : EpochKind → FloorFile) : Prop where
  usable : ∀ kind, ¬ Unusable (before kind)
  edge : NotBelow v.manifestEpoch (before .openapiEdge) ∧ floorEpoch (after .openapiEdge) = some v.manifestEpoch
  golden : ∃ g, docs.golden = some g ∧ NotBelow g.epoch (before .goldenDigests) ∧
    floorEpoch (after .goldenDigests) = some g.epoch

lemma finishVerifyRelying_passed {opts : VerifyOptions} {outcome : ChallengeOutcome} {trust : TrustBundle}
    {peer : PeerTlsIdentity} {hostname : Str} {v : AttestationVerdict} {docs : Relied}
    (hgolden : opts.requireGoldenDigests = true) (hepoch : trust.manifest.manifest.epoch ≤ u64Max)
    (h : finishVerifyRelying X D E opts outcome trust peer hostname s = (.ok (v, docs), s')) :
    Passed v docs s.floor s'.floor := by
  have hmanifest : v.manifestEpoch = trust.manifest.manifest.epoch :=
    (finishVerifyRelying_manifestEpoch opts outcome trust peer hostname s trivial).1 _ _ h
  obtain ⟨_, s₀, hassert, -⟩ := Op.bind_eq_ok.mp h
  obtain ⟨_, candidates, chosen, pin, _, s₁, s₂, s₃, hbelow, -, -, -, hchosen, hpin, hcross, -, hremember, rfl⟩ :=
    finishVerifyRelying_eq_ok h
  have hfloors := chooseRelease_floors hchosen
  have hbefore : s₃.floor = s₁.floor := hcross.trans ((ceremonyPin_floor _ _).run hpin)
  rw [chooseRelease, if_pos hgolden] at hchosen
  obtain ⟨gm, _, hmatch, hret⟩ := Op.bind_eq_ok.mp hchosen
  obtain ⟨hval, rfl⟩ := Prod.mk.inj hret
  have hconfirmed : chosen.golden = some gm.golden := by rw [← Except.ok.inj hval]
  obtain ⟨hnotBelow, hraised⟩ := hfloors.raised gm.golden hconfirmed
  obtain ⟨-, hother, -⟩ := rememberEpoch_eq_ok hremember
  refine ⟨fun kind => ?_, ⟨?_, ?_⟩, gm.golden, hconfirmed, hnotBelow, ?_⟩
  · cases kind with
    | openapiEdge => exact assertEpochMonotonic_usable hassert
    | goldenDigests => exact matchGoldenIn_usable hmatch
  · rw [hmanifest]
    exact hbelow
  · rw [hmanifest]
    refine rememberEpoch_floor hepoch ?_ hremember
    rw [hbefore, hfloors.edge]
    exact hbelow
  · rw [hother .goldenDigests (by decide), hbefore]
    exact hraised

end Run

/-- One run of `finish_verify` with golden digests required, and what it finds outside.  A floor file in `blocked`
cannot be read during the run, with that error.  `asked` is what was requested before. -/
structure FinishRun where
  dcap : Dcap
  outside : Outside
  opts : VerifyOptions
  outcome : ChallengeOutcome
  trust : TrustBundle
  peer : PeerTlsIdentity
  hostname : Str
  asked : List Str
  blocked : EpochKind → Option Str
  golden : opts.requireGoldenDigests = true
  range : trust.manifest.manifest.epoch ≤ u64Max

/-- The floor file that a run finds. -/
def FinishRun.seen (run : FinishRun) (floor : EpochKind → FloorFile) (kind : EpochKind) : FloorFile :=
  match run.blocked kind with
  | some e => .unreadable e
  | none => floor kind

/-- A run that is over: the floor files before it and after it, and what it returned. -/
structure Finished where
  run : FinishRun
  before : EpochKind → FloorFile
  after : EpochKind → FloorFile
  result : Except AttestError (AttestationVerdict × Relied)

/-- A run over the files of the shared directory.  A file that cannot be read is never written: `remember_epoch` reads
before it writes. -/
def FinishRun.finish (X : Crates) (run : FinishRun) (floor : EpochKind → FloorFile) : Finished :=
  let ended := finishVerifyRelying X run.dcap run.outside run.opts run.outcome run.trust run.peer run.hostname
    ⟨run.asked, run.seen floor⟩
  { run, before := floor, result := ended.1
    after := fun kind => if (run.blocked kind).isSome then floor kind else ended.2.floor kind }

/-- Runs one after the other. -/
def finishAll (X : Crates) : (EpochKind → FloorFile) → List FinishRun → List Finished
  | _, [] => []
  | floor, run :: runs => run.finish X floor :: finishAll X (run.finish X floor).after runs

/-- The run's writes of the floor files were atomic. -/
def Finished.Atomic (f : Finished) : Prop :=
  ∀ kind, AtomicWrite f.run.outside kind (f.run.seen f.before kind)

section History

variable {X : Crates} {floor : EpochKind → FloorFile}

lemma FinishRun.seen_of_free (run : FinishRun) (floor : EpochKind → FloorFile) {kind : EpochKind}
    (h : run.blocked kind = none) : run.seen floor kind = floor kind := by
  rw [FinishRun.seen, h]

lemma FinishRun.free_of_usable {run : FinishRun} {kind : EpochKind} (h : ¬ Unusable (run.seen floor kind)) :
    run.blocked kind = none := by
  rcases hblocked : run.blocked kind with _ | e
  · rfl
  · rw [FinishRun.seen, hblocked] at h
    exact absurd trivial h

lemma FinishRun.finish_result (run : FinishRun) (floor : EpochKind → FloorFile) :
    (run.finish X floor).result = (finishVerifyRelying X run.dcap run.outside run.opts run.outcome run.trust run.peer
      run.hostname ⟨run.asked, run.seen floor⟩).1 := rfl

lemma FinishRun.finish_rises (run : FinishRun) (floor : EpochKind → FloorFile)
    (hatomic : (run.finish X floor).Atomic) (kind : EpochKind) :
    Rises (floor kind) ((run.finish X floor).after kind) := by
  have hrises : ∀ kind, Rises (run.seen floor kind) ((finishVerifyRelying X run.dcap run.outside run.opts run.outcome
      run.trust run.peer run.hostname ⟨run.asked, run.seen floor⟩).2.floor kind) := by
    have hmeets := finishVerifyRelying_rises (X := X) (D := run.dcap) hatomic run.opts run.outcome run.trust run.peer
      run.hostname run.range ⟨run.asked, run.seen floor⟩ rfl
    rcases hrun : finishVerifyRelying X run.dcap run.outside run.opts run.outcome run.trust run.peer run.hostname
      ⟨run.asked, run.seen floor⟩ with ⟨e | r, s⟩
    · exact hmeets.2 e s hrun
    · exact hmeets.1 r s hrun
  show Rises (floor kind) (if (run.blocked kind).isSome then floor kind else _)
  rcases hblocked : run.blocked kind with _ | e
  · rw [← run.seen_of_free floor hblocked]
    exact hrises kind
  · exact Rises.refl _

/-- A run that returned a verdict passed both floors of the directory. -/
lemma FinishRun.finish_passed (run : FinishRun) {v : AttestationVerdict} {docs : Relied}
    (h : (run.finish X floor).result = .ok (v, docs)) :
    (∀ kind, ¬ Unusable (run.seen floor kind)) ∧ Passed v docs floor (run.finish X floor).after := by
  have hrun : finishVerifyRelying X run.dcap run.outside run.opts run.outcome run.trust run.peer run.hostname
      ⟨run.asked, run.seen floor⟩ = (.ok (v, docs), (finishVerifyRelying X run.dcap run.outside run.opts run.outcome
        run.trust run.peer run.hostname ⟨run.asked, run.seen floor⟩).2) := Prod.ext h rfl
  have hpassed := finishVerifyRelying_passed run.golden run.range hrun
  have hfree : ∀ kind, run.blocked kind = none := fun kind => FinishRun.free_of_usable (hpassed.usable kind)
  have hseen : (⟨run.asked, run.seen floor⟩ : AttestState).floor = floor := by
    funext kind
    exact run.seen_of_free floor (hfree kind)
  have hafter : (run.finish X floor).after = (finishVerifyRelying X run.dcap run.outside run.opts run.outcome
      run.trust run.peer run.hostname ⟨run.asked, run.seen floor⟩).2.floor := by
    funext kind
    show (if (run.blocked kind).isSome then floor kind else _) = _
    rw [hfree kind]
    rfl
  refine ⟨hpassed.usable, ?_⟩
  rw [hafter]
  rw [hseen] at hpassed
  exact hpassed

lemma finishAll_pair (run run' : FinishRun) : finishAll X floor [run, run'] =
    [run.finish X floor, run'.finish X (run.finish X floor).after] := rfl

variable {runs : List FinishRun}

lemma finishAll_mem {f : Finished} (h : f ∈ finishAll X floor runs) :
    f = f.run.finish X f.before := by
  induction runs generalizing floor with
  | nil => cases h
  | cons run runs ih =>
    rcases List.mem_cons.mp h with rfl | h
    · rfl
    · exact ih h

lemma finishAll_rises (hatomic : ∀ f ∈ finishAll X floor runs, f.Atomic) {f : Finished}
    (hf : f ∈ finishAll X floor runs) (kind : EpochKind) : Rises (floor kind) (f.before kind) := by
  induction runs generalizing floor with
  | nil => cases hf
  | cons run runs ih =>
    rcases List.mem_cons.mp hf with rfl | hf
    · exact Rises.refl _
    · have hfirst := run.finish_rises floor (hatomic _ List.mem_cons_self) kind
      exact hfirst.trans (ih (fun g hg => hatomic g (List.mem_cons_of_mem _ hg)) hf)

lemma finishAll_pairwise (hatomic : ∀ f ∈ finishAll X floor runs, f.Atomic) :
    (finishAll X floor runs).Pairwise fun f g => ∀ kind, Rises (f.after kind) (g.before kind) := by
  induction runs generalizing floor with
  | nil => exact List.Pairwise.nil
  | cons run runs ih =>
    have hrest : ∀ g ∈ finishAll X (run.finish X floor).after runs, g.Atomic :=
      fun g hg => hatomic g (List.mem_cons_of_mem _ hg)
    exact List.pairwise_cons.mpr ⟨fun g hg kind => finishAll_rises hrest hg kind, ih hrest⟩

end History

/-- A later verdict is not about older documents. -/
def NotOlder (earlier later : AttestationVerdict × Relied) : Prop :=
  earlier.1.manifestEpoch ≤ later.1.manifestEpoch ∧
    ∃ g g', earlier.2.golden = some g ∧ later.2.golden = some g' ∧ g.epoch ≤ g'.epoch

/-- What passed the floors of a run that came after is not older. -/
lemma Passed.notOlder {v v' : AttestationVerdict} {docs docs' : Relied}
    {before after before' after' : EpochKind → FloorFile} (h : Passed v docs before after)
    (h' : Passed v' docs' before' after') (hrises : ∀ kind, Rises (after kind) (before' kind)) :
    NotOlder (v, docs) (v', docs') := by
  obtain ⟨g, hg, -, hfloor⟩ := h.golden
  obtain ⟨g', hg', hbelow, -⟩ := h'.golden
  exact ⟨(hrises .openapiEdge).le h.edge.2 h'.edge.1, g, g', hg, hg', (hrises .goldenDigests).le hfloor hbelow⟩

/-- **Rollback is refused**: over every sequence of runs with golden digests required that share one directory of floor
files, written atomically, no floor falls within a run nor between runs; of two verdicts the later one is about a
manifest and golden digests that are not older; and a run that finds a floor file it cannot read, or one that is no
number, returns no verdict. -/
theorem rollback_refused (X : Crates) (floor : EpochKind → FloorFile) (runs : List FinishRun)
    (hatomic : ∀ f ∈ finishAll X floor runs, f.Atomic) :
    (∀ f ∈ finishAll X floor runs, ∀ kind, Rises (floor kind) (f.before kind) ∧
      Rises (f.before kind) (f.after kind)) ∧
    (finishAll X floor runs).Pairwise (fun f g => (∀ kind, Rises (f.after kind) (g.before kind)) ∧
      ∀ earlier later, f.result = .ok earlier → g.result = .ok later → NotOlder earlier later) ∧
    ∀ f ∈ finishAll X floor runs, ∀ kind, Unusable (f.run.seen f.before kind) → ∀ r, f.result ≠ .ok r := by
  refine ⟨fun f hf kind => ⟨finishAll_rises hatomic hf kind, ?_⟩, ?_, ?_⟩
  · have hfinish : (f.run.finish X f.before).Atomic := by
      rw [← finishAll_mem hf]
      exact hatomic f hf
    have hrises := f.run.finish_rises f.before hfinish kind
    rw [← finishAll_mem hf] at hrises
    exact hrises
  · refine (finishAll_pairwise hatomic).imp_of_mem fun {f g} hf hg hrises => ⟨hrises, ?_⟩
    rintro ⟨v, docs⟩ ⟨v', docs'⟩ hv hv'
    rw [finishAll_mem hf] at hv hrises
    rw [finishAll_mem hg] at hv'
    exact (f.run.finish_passed hv).2.notOlder (g.run.finish_passed hv').2 hrises
  · rintro f hf kind hunusable ⟨v, docs⟩ hv
    rw [finishAll_mem hf] at hv
    exact (f.run.finish_passed hv).1 kind hunusable

namespace Sample

def finishRun (blocked : EpochKind → Option Str) : FinishRun where
  dcap := dcap
  outside := outside "2027-01-01T00:00:00Z"
  opts := opts
  outcome := outcome
  trust := trust
  peer := identityFromCert (tables "2027-01-01T00:00:00Z").crates spkiDer certDer
  hostname := "h"
  asked := ["", ""]
  blocked := blocked
  golden := rfl
  range := by decide

end Sample

open Attest.Sample in
/-- A first run returns its verdict; a second one, which cannot read the golden floor, does not. -/
theorem rollback_refused_blocked :
    ∃ f g, finishAll (tables "2027-01-01T00:00:00Z").crates (fun _ => .missing)
        [finishRun fun _ => none, finishRun fun _ => some "Permission denied"] = [f, g] ∧
      (∃ v, f.result = .ok v) ∧ ∀ r, g.result ≠ .ok r := by
  have hseen : (finishRun fun _ => none).seen (fun _ => .missing) = fun _ => .missing :=
    funext fun kind => FinishRun.seen_of_free _ _ (show (finishRun fun _ => none).blocked kind = none from rfl)
  obtain ⟨v, s', hrun⟩ := finish_outcome "2027-01-01T00:00:00Z"
    (s := ⟨["", ""], (finishRun fun _ => none).seen fun _ => .missing⟩) rfl hseen
  have hfirst : ((finishRun fun _ => none).finish (tables "2027-01-01T00:00:00Z").crates fun _ => .missing).result =
      .ok (v, ⟨manifest, some (golden "2027-01-01T00:00:00Z"), none⟩) :=
    (FinishRun.finish_result _ _).trans (congrArg Prod.fst hrun)
  have hrefused := rollback_refused (tables "2027-01-01T00:00:00Z").crates (fun _ => .missing)
    [finishRun fun _ => none, finishRun fun _ => some "Permission denied"] ?_
  · rw [finishAll_pair] at hrefused ⊢
    refine ⟨_, _, rfl, ⟨_, hfirst⟩, ?_⟩
    exact hrefused.2.2 _ (List.mem_cons_of_mem _ List.mem_cons_self) .goldenDigests trivial
  · intro f hf kind e left hwrite
    rw [finishAll_pair] at hf
    rcases List.mem_pair.mp hf with rfl | rfl
    · cases hwrite
    · cases hwrite

end TeechatOpenapi.Attest
