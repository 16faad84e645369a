import TeechatOpenapi.Attest.Verdict

/-!
# Freshness of the trust documents

A run relies on up to four documents.  They should be unexpired, and no epoch should be below the persisted floor of its
kind.  The edge manifest is checked for both.  Golden digests and the ceremony manifest are never checked for expiry,
and the golden manifest that is loaded a second time, for the ceremony, is not compared with the floor.  A
ceremony manifest has no persisted floor.
-/

namespace TeechatOpenapi.Attest

open Lib Platform

/-- The documents are unexpired, and no epoch is below the floor of its kind. -/
def Relied.Fresh (now : Nat) (floor : EpochKind → FloorFile) (docs : Relied) : Prop :=
  (Unexpired now docs.edge.notAfter ∧ NotBelow docs.edge.epoch (floor .openapiEdge)) ∧
  (∀ g ∈ docs.golden, Unexpired now g.notAfter ∧ NotBelow g.epoch (floor .goldenDigests)) ∧
  ∀ c ∈ docs.ceremony, Unexpired now c.1.notAfter ∧ Unexpired now c.2.notAfter ∧
    NotBelow c.2.epoch (floor .goldenDigests)

/-- The golden and the ceremony documents were handed over unexpired, and the golden manifest for the ceremony is not
older than the floor before the run nor than the golden manifest that confirmed the build. -/
def Relied.Served (now : Nat) (floor : EpochKind → FloorFile) (docs : Relied) : Prop :=
  (∀ g ∈ docs.golden, Unexpired now g.notAfter) ∧
  ∀ c ∈ docs.ceremony, Unexpired now c.1.notAfter ∧ Unexpired now c.2.notAfter ∧
    NotBelow c.2.epoch (floor .goldenDigests) ∧ ∀ g ∈ docs.golden, g.epoch ≤ c.2.epoch

section Floors

variable {X : Crates} {D : Dcap} {E : Outside} {opts : VerifyOptions}

/-- What a choice has done to the floors: without golden digests nothing; otherwise the epoch of the manifest was not
below the golden floor, and is the golden floor now. -/
structure Chosen.Floors (chosen : Chosen) (before after : EpochKind → FloorFile) : Prop where
  edge : after .openapiEdge = before .openapiEdge
  kept : chosen.golden = none → after = before
  raised : ∀ g ∈ chosen.golden, NotBelow g.epoch (before .goldenDigests) ∧
    floorEpoch (after .goldenDigests) = some g.epoch

lemma matchGoldenIn_floors {candidates : List (Listed EdgeRelease)} {measurement : Measurement}
    {sources : List GoldenLoadOptions} {s s' : AttestState} {gm : GoldenMatch}
    (h : matchGoldenIn X E candidates measurement sources s = (.ok gm, s')) :
    s'.floor .openapiEdge = s.floor .openapiEdge ∧ NotBelow gm.golden.epoch (s.floor .goldenDigests) ∧
      floorEpoch (s'.floor .goldenDigests) = some gm.golden.epoch := by
  induction sources generalizing s with
  | nil => cases (Prod.mk.inj h).1
  | cons source rest ih =>
    obtain ⟨golden, s₁, hload, hrun⟩ := Op.bind_eq_ok.mp h
    have hbound := loadGoldenDigests_epoch X E source s golden s₁ hload
    have hkept : s₁.floor = s.floor := (loadGoldenDigests_floor X E source).run hload
    rcases hfind : candidates.find? fun rel => goldenConfirms golden.manifest measurement rel.row with _ | rel
    · rw [hfind] at hrun
      rw [← hkept]
      exact ih hrun
    · rw [hfind] at hrun
      obtain ⟨_, s₂, hassert, hrun⟩ := Op.bind_eq_ok.mp hrun
      obtain ⟨hsame, hbelow⟩ := assertEpochMonotonic_eq_ok hassert
      rw [hsame] at hrun
      obtain ⟨_, s₃, hremember, hret⟩ := Op.bind_eq_ok.mp hrun
      obtain ⟨-, hother, -⟩ := rememberEpoch_eq_ok hremember
      have hraised := rememberEpoch_floor hbound hbelow hremember
      obtain ⟨hgm, rfl⟩ := Prod.mk.inj hret
      rw [← Except.ok.inj hgm, ← hkept]
      exact ⟨hother .openapiEdge (by decide), hbelow, hraised⟩

lemma chooseRelease_floors {candidates : List (Listed EdgeRelease)} {measurement : Measurement}
    {s s' : AttestState} {chosen : Chosen} (h : chooseRelease X E opts candidates measurement s = (.ok chosen, s')) :
    chosen.Floors s.floor s'.floor := by
  unfold chooseRelease at h
  split at h
  · obtain ⟨gm, s₁, hgm, hret⟩ := Op.bind_eq_ok.mp h
    obtain ⟨hedge, hbelow, hraised⟩ := matchGoldenIn_floors hgm
    obtain ⟨hchosen, rfl⟩ := Prod.mk.inj hret
    rw [← Except.ok.inj hchosen]
    refine ⟨hedge, nofun, fun g hg => ?_⟩
    obtain rfl := Option.some.inj hg
    exact ⟨hbelow, hraised⟩
  · obtain ⟨release, -, hret⟩ := Op.lift_bind_eq_ok.mp h
    obtain ⟨hchosen, rfl⟩ := Prod.mk.inj hret
    rw [← Except.ok.inj hchosen]
    exact ⟨rfl, fun _ => rfl, fun _ hg => absurd hg (Option.not_mem_none _)⟩

lemma ceremonyPin_floor (hostname spkiSha256 : Str) :
    Op.Fixes AttestState.floor (ceremonyPin X E opts hostname spkiSha256) := by
  unfold ceremonyPin
  split
  · exact Op.Fixes.pure _ _
  · refine Op.Fixes.bind (loadCeremonyAllowlist_floor X E _) fun ceremony => ?_
    split
    · exact Op.Fixes.pure _ _
    · refine Op.Fixes.lift_bind fun _ => Op.Fixes.lift_bind fun _ => ?_
      refine Op.Fixes.bind (loadGoldenDigests_floor X E _) fun _ => Op.Fixes.lift_bind fun _ => ?_
      exact Op.Fixes.lift_bind fun _ => Op.Fixes.pure _ _

/-- Of a later golden manifest: not being below the floor that a choice has left is not being below the floor it found
nor below the epoch it chose. -/
lemma Chosen.Floors.notBelow_iff {chosen : Chosen} {before after : EpochKind → FloorFile}
    (h : chosen.Floors before after) (epoch : Nat) :
    NotBelow epoch (after .goldenDigests) ↔
      NotBelow epoch (before .goldenDigests) ∧ ∀ g ∈ chosen.golden, g.epoch ≤ epoch := by
  rcases hgolden : chosen.golden with _ | g
  · rw [h.kept hgolden]
    exact ⟨fun hb => ⟨hb, fun _ hg => absurd hg (Option.not_mem_none _)⟩, And.left⟩
  · obtain ⟨hbefore, hafter⟩ := h.raised g hgolden
    have hfloor : NotBelow epoch (after .goldenDigests) ↔ g.epoch ≤ epoch := by
      rw [NotBelow, hafter]
      exact ⟨fun hb => hb g.epoch rfl, fun hle floor hf => Option.some.inj hf ▸ hle⟩
    rw [hfloor]
    constructor
    · intro hle
      refine ⟨fun floor hf => le_trans (hbefore floor hf) hle, fun g' hg' => ?_⟩
      rw [← Option.some.inj hg']
      exact hle
    · intro hboth
      exact hboth.2 g rfl

/-- The documents of a verdict are fresh exactly when those that are not checked were handed over fresh. -/
lemma finishVerifyRelying_fresh {outcome : ChallengeOutcome} {trust : TrustBundle} {peer : PeerTlsIdentity}
    {hostname : Str} {s s' : AttestState} {v : AttestationVerdict} {docs : Relied} (hloaded : trust.Unexpired E.nowUnix)
    (h : finishVerifyRelying X D E opts outcome trust peer hostname s = (.ok (v, docs), s')) :
    docs.Fresh E.nowUnix s'.floor ↔ docs.Served E.nowUnix s.floor := by
  obtain ⟨_, _, chosen, pin, _, s₁, s₂, s₃, hedge, -, -, -, hchosen, hpin, hcross, -, hremember, rfl⟩ :=
    finishVerifyRelying_eq_ok h
  have hfloors := chooseRelease_floors hchosen
  have hceremony : s₂.floor = s₁.floor := (ceremonyPin_floor _ _).run hpin
  have hbefore : s₃.floor = s₁.floor := hcross.trans hceremony
  obtain ⟨-, hother, hkeeps⟩ := rememberEpoch_eq_ok hremember
  have hgolden : s'.floor .goldenDigests = s₁.floor .goldenDigests := by
    rw [hother .goldenDigests (by decide), hbefore]
  have hedge' : NotBelow trust.manifest.manifest.epoch (s'.floor .openapiEdge) := by
    refine hkeeps ?_
    rw [hbefore, hfloors.edge]
    exact hedge
  -- what is left of freshness is about the golden floor that the choice has left
  unfold Relied.Fresh Relied.Served
  dsimp only
  rw [hgolden]
  constructor
  · rintro ⟨-, hconfirmed, hpinned⟩
    refine ⟨fun g hg => (hconfirmed g hg).1, fun c hc => ?_⟩
    obtain ⟨hexpC, hexpG, hbelow⟩ := hpinned c hc
    exact ⟨hexpC, hexpG, (hfloors.notBelow_iff _).mp hbelow⟩
  · rintro ⟨hconfirmed, hpinned⟩
    refine ⟨⟨hloaded, hedge'⟩, fun g hg => ⟨hconfirmed g hg, ?_⟩, fun c hc => ?_⟩
    · refine (hfloors.notBelow_iff _).mpr ⟨(hfloors.raised g hg).1, fun g' hg' => ?_⟩
      obtain rfl := Option.some.inj (hg.symm.trans hg')
      exact le_refl _
    · obtain ⟨hexpC, hexpG, hbelow⟩ := hpinned c hc
      exact ⟨hexpC, hexpG, (hfloors.notBelow_iff _).mpr hbelow⟩

end Floors

/-- **When the documents of a run are fresh**: in every run that returns a verdict, every document it relied on is
unexpired and not below the persisted floor of its kind, exactly if the golden and the ceremony documents were handed
over unexpired and the golden manifest for the ceremony was not rolled back. -/
theorem trust_documents_fresh_iff (X : Crates) (D : Dcap) (E : Outside) (opts : VerifyOptions)
    (outcome : ChallengeOutcome) (peer : PeerTlsIdentity) (hostname : Str) (s : AttestState) :
    (∀ v docs s', verifyOutcome X D E opts outcome peer hostname s = (.ok (v, docs), s') →
      docs.Fresh E.nowUnix s'.floor) ↔
    ∀ v docs s', verifyOutcome X D E opts outcome peer hostname s = (.ok (v, docs), s') →
      docs.Served E.nowUnix s.floor := by
  refine forall_congr' fun v => forall_congr' fun docs => forall_congr' fun s' => ?_
  refine forall_congr' fun h => ?_
  obtain ⟨trust, s₁, hload, hfinish⟩ := Op.bind_eq_ok.mp h
  have hloaded : trust.Unexpired E.nowUnix := loadTrustBundleForEdge_unexpired X E _ _ _ _ s trust s₁ hload
  have hkept : s₁.floor = s.floor := (loadTrustBundleForEdge_floor X E _ _ _ _).run hload
  rw [finishVerifyRelying_fresh hloaded hfinish, hkept]

namespace Sample

def start : AttestState := ⟨[], fun _ => .missing⟩

variable (notAfter : Str)

lemma edge_tree : (tables notAfter).crates.json.tree edgeText = .ok edgeTree := by
  -- the texts differ at their third octet
  have hrelease : (edgeText == releaseText) = false := by
    refine beq_eq_false_iff_ne.mpr fun heq => ?_
    have hoctet : some (0x73 : UInt8) = some 0x74 := congrArg (fun b : Bytes => b[2]?) heq
    exact absurd hoctet (by decide)
  refine CrateTables.tree_of_lookup ?_
  rw [tables, List.lookup_cons, hrelease]
  exact List.lookup_cons_self

lemma parse_manifest :
    parseAndValidateManifest (tables notAfter).crates (outside notAfter) edgeText = .ok manifest := by
  have hread : (tables notAfter).crates.fromSlice OpenApiEdgeManifest.read edgeText = .ok manifest :=
    bind_eq_ok.mpr ⟨edgeTree, edge_tree notAfter, rfl⟩
  have hdate : parseRfc3339Secs manifest.notAfter = .ok 1798761600 := rfl
  have hnow : ¬ 1798761600 < (outside notAfter).nowUnix := show ¬ 1798761600 < 1785542400 by decide
  have hpolicy : validatePolicyHash row.policyHash = .ok () := failIf_eq_ok.mpr (by decide)
  simp only [parseAndValidateManifest, bind_eq_ok, mapErr_eq_ok, failIf_eq_ok, pure_eq_ok]
  refine ⟨manifest, hread, (), not_not.mpr rfl, _, hdate, (), hnow, (), not_not.mpr rfl, (), ?_, rfl⟩
  refine forM_eq_ok.mpr fun region hregion => forM_eq_ok.mpr fun rel hrel => mapErr_eq_ok.mpr ?_
  obtain rfl := List.mem_singleton.mp hregion
  obtain rfl := List.mem_singleton.mp hrel
  exact hpolicy

lemma verify_outcome : ∃ v s', verifyOutcome (tables notAfter).crates dcap (outside notAfter) opts outcome
    (identityFromCert (tables notAfter).crates spkiDer certDer) "h" start =
      (.ok (v, ⟨manifest, some (golden notAfter), none⟩), s') := by
  have hrelease : (tables notAfter).crates.fromSlice GhRelease.read releaseText =
      .ok ⟨"v1.4.0", "https://github.com/r", [⟨"openapi-edge-attest.json", "https://github.com/a"⟩]⟩ :=
    bind_eq_ok.mpr ⟨releaseTree, CrateTables.tree_of_lookup List.lookup_cons_self, rfl⟩
  have hfirst (url : Str) :
      httpGetGithub (outside notAfter) url start = (.ok releaseText, ⟨[url], fun _ => .missing⟩) :=
    httpGetBytes_of_answer rfl
  have hsecond (url url' : Str) : httpGetGithub (outside notAfter) url' ⟨[url], fun _ => .missing⟩ =
      (.ok edgeText, ⟨[url, url'], fun _ => .missing⟩) := httpGetBytes_of_answer rfl
  have htag : resolveOpenapiReleaseTag opts.githubTag opts.allowLatest = .ok "v1.4.0" := rfl
  have hgithub := fetchGithubReleaseTrustResolved_of opts.githubOwner opts.githubRepo htag (hfirst _) hrelease rfl
    (hsecond _ _) (parse_manifest notAfter) rfl
  obtain ⟨v, s', hfinish⟩ := finish_outcome notAfter (s := ⟨[_, _], fun _ => .missing⟩) rfl rfl
  exact ⟨v, s', verifyOutcome_of_github (by decide) rfl rfl hgithub hfinish⟩

end Sample

open Attest.Sample in
/-- Golden digests that expired in 2020 confirm a build in 2026. -/
theorem expired_golden_accepted : ∃ v docs s',
    verifyOutcome (tables "2020-01-01T00:00:00Z").crates dcap (outside "2020-01-01T00:00:00Z") opts outcome
      (identityFromCert (tables "2020-01-01T00:00:00Z").crates spkiDer certDer) "h" start = (.ok (v, docs), s') ∧
        ¬ docs.Fresh 1785542400 s'.floor := by
  obtain ⟨v, s', hrun⟩ := verify_outcome "2020-01-01T00:00:00Z"
  refine ⟨v, _, s', hrun, ?_⟩
  rintro ⟨-, hgolden, -⟩
  obtain ⟨⟨secs, hsecs, hnow⟩, -⟩ := hgolden _ rfl
  have hparse : parseRfc3339Secs "2020-01-01T00:00:00Z" = .ok 1577836800 := rfl
  obtain rfl := Except.ok.inj (hsecs.symm.trans hparse)
  exact absurd hnow (by decide)

open Attest.Sample in
/-- Golden digests that are still valid. -/
theorem trust_documents_fresh_iff_sample : ∃ v docs s',
    verifyOutcome (tables "2027-01-01T00:00:00Z").crates dcap (outside "2027-01-01T00:00:00Z") opts outcome
      (identityFromCert (tables "2027-01-01T00:00:00Z").crates spkiDer certDer) "h" start = (.ok (v, docs), s') ∧
        docs.Fresh 1785542400 s'.floor := by
  obtain ⟨v, s', hrun⟩ := verify_outcome "2027-01-01T00:00:00Z"
  refine ⟨v, _, s', hrun, ?_⟩
  refine (trust_documents_fresh_iff _ _ _ _ _ _ _ _).mpr ?_ _ _ _ hrun
  intro v' docs s'' hrun'
  obtain ⟨hval, -⟩ := Prod.mk.inj (hrun.symm.trans hrun')
  obtain ⟨-, rfl⟩ := Prod.mk.inj (Except.ok.inj hval)
  refine ⟨fun g hg => ?_, fun c hc => absurd hc (Option.not_mem_none c)⟩
  rw [← Option.some.inj hg]
  exact ⟨1798761600, rfl, by decide⟩

end TeechatOpenapi.Attest
