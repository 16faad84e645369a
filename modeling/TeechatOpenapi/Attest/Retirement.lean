import TeechatOpenapi.Attest.Ceremony
import TeechatOpenapi.Attest.Golden

/-!
# Retired rows

Each of the three documents has a list of retired rows and a grace period.  A retired row should match only while it
carries a time of retirement and the grace period after it has not passed (`InGrace`).  The three searches treat the
rule differently:

* `find_matching_releases` drops a row past its grace period, and keeps one without a time;
* `find_golden_release` does not look at the time;
* `find_ceremony_release_by_spki` does as the first, and skips a row whose time it cannot read.
-/

namespace TeechatOpenapi.Attest

open Lib Platform

/-- A row carries a time of retirement, and the grace period after it has not passed. -/
def InGrace (now graceDays : Nat) (retiredAt : Option Str) : Prop :=
  ∃ text secs, retiredAt = some text ∧ parseRfc3339Secs text = .ok secs ∧ now ≤ secs + graceDays * 86400

lemma InGrace.dated {now graceDays : Nat} {retiredAt : Option Str} (h : InGrace now graceDays retiredAt) :
    retiredAt ≠ none := by
  obtain ⟨text, secs, hat, -⟩ := h
  rw [hat]
  exact Option.some_ne_none text

/-- The time of retirement of a row is there and cannot be read. -/
def Unreadable (retiredAt : Option Str) : Prop := ∃ text e, retiredAt = some text ∧ parseRfc3339Secs text = .error e

lemma le_of_withinGrace {now graceDays retired : Nat} (h : withinGrace now graceDays retired = true) :
    now ≤ retired + graceDays * 86400 := by
  unfold withinGrace saturatingAdd saturatingMul at h
  have hle := of_decide_eq_true h
  omega

section Edge

variable {now graceDays : Nat} {b : EdgeBuild} {rel : EdgeRelease}

lemma keepRelease_eq_true (h : keepRelease now graceDays b rel = .ok true) :
    rel.retiredAt = none ∨ InGrace now graceDays rel.retiredAt := by
  unfold keepRelease at h
  split at h
  · cases Except.ok.inj h
  · rcases hat : rel.retiredAt with _ | text
    · exact Or.inl rfl
    · rw [hat] at h
      obtain ⟨secs, hsecs, h⟩ := bind_eq_ok.mp h
      exact Or.inr ⟨text, secs, rfl, hsecs, le_of_withinGrace (pure_eq_ok.mp h)⟩

lemma keepRelease_stops_iff :
    (∀ kept, keepRelease now graceDays b rel ≠ .ok kept) ↔ rel.isAbout b = true ∧ Unreadable rel.retiredAt := by
  unfold keepRelease Unreadable
  by_cases habout : rel.isAbout b = true
  · rcases hat : rel.retiredAt with _ | text
    · simp [habout]
    · rcases hparse : parseRfc3339Secs text with e | secs <;>
        simp [habout, hparse, bind, Except.bind, pure, Except.pure]
  · simp [habout]

/-- Every retired row that is about a build is dated, or some row about it has a time that cannot be read. -/
def EdgeRowsDated (manifest : OpenApiEdgeManifest) (hostname : Str) (b : EdgeBuild) : Prop :=
  ∀ region ∈ manifest.regionOf hostname,
    (∃ r ∈ region.rows, r.row.isAbout b = true ∧ Unreadable r.row.retiredAt) ∨
      ∀ rel ∈ region.retired, rel.isAbout b = true → rel.retiredAt ≠ none

lemma edge_rows_expire_iff (now : Nat) (manifest : OpenApiEdgeManifest) (hostname : Str) (b : EdgeBuild) :
    (∀ rows, findMatchingReleases now manifest hostname b = .ok rows → ∀ r ∈ rows, r.list = .retired →
      InGrace now manifest.retiredGracePeriodDays r.row.retiredAt) ↔ EdgeRowsDated manifest hostname b := by
  constructor
  · intro hexpire region hregion
    by_cases hstop : ∃ r ∈ region.rows, r.row.isAbout b = true ∧ Unreadable r.row.retiredAt
    · exact Or.inl hstop
    · right
      intro rel hrel habout hundated
      -- the search does not stop, and returns the row without a time
      have hkeep : ∀ r ∈ region.rows, ∃ kept, keepRelease now manifest.retiredGracePeriodDays b r.row = .ok kept := by
        intro r hr
        by_contra hnone
        exact hstop ⟨r, hr, keepRelease_stops_iff.mp fun kept hk => hnone ⟨kept, hk⟩⟩
      obtain ⟨rows, hrows⟩ := filterE_exists hkeep
      have hmem : (⟨.retired, rel⟩ : Listed EdgeRelease) ∈ rows :=
        ((filterE_eq_ok hrows).2 _).mpr ⟨mem_listed.mpr (Or.inr ⟨rfl, hrel⟩), keepRelease_undated habout hundated⟩
      have hfind : findMatchingReleases now manifest hostname b = .ok rows := by
        simp only [findMatchingReleases, bind_eq_ok, okOr_eq_ok, failIf_eq_ok, pure_eq_ok]
        exact ⟨region, hregion, rows, hrows, (), List.ne_nil_of_mem hmem, rfl⟩
      exact (hexpire rows hfind _ hmem rfl).dated hundated
  · intro hdated rows hfind r hr hretired
    obtain ⟨region, hregion, -, hrows⟩ := findMatchingReleases_eq_ok hfind
    obtain ⟨hkeep, hmem⟩ := filterE_eq_ok hrows
    obtain ⟨hin, hkept⟩ := (hmem r).mp hr
    rcases keepRelease_eq_true hkept with hundated | hgrace
    · rcases hdated region hregion with ⟨r', hr', hstop⟩ | hall
      · obtain ⟨kept, hk⟩ := hkeep r' hr'
        exact absurd hk (keepRelease_stops_iff.mpr hstop kept)
      · rcases mem_listed.mp hin with ⟨hactive, -⟩ | ⟨-, hrel⟩
        · rw [hretired] at hactive
          cases hactive
        · exact absurd hundated (hall _ hrel (keepRelease_isAbout hkept))
    · exact hgrace

end Edge

section Golden

lemma find?_listed {α : Type} (active retired : List α) (p : α → Bool) :
    (listed active retired).find? (fun r => p r.row) =
      ((active.find? p).map (⟨.active, ·⟩)).or ((retired.find? p).map (⟨.retired, ·⟩)) := by
  rw [listed, List.find?_append, List.find?_map, List.find?_map]
  rfl

/-- The backend a search looks at. -/
def GoldenDigestsManifest.backend (manifest : GoldenDigestsManifest) (role backend : Str) : Option GoldenBackend :=
  (toOption (manifest.roles.role role)).bind (·.backend backend)

lemma findGoldenRelease_eq_ok {manifest : GoldenDigestsManifest} {role backend goldenVersion : Str}
    {r : Listed GoldenRelease} :
    findGoldenRelease manifest role backend goldenVersion = .ok r ↔
      ∃ obj, manifest.backend role backend = some obj ∧
        obj.rows.find? (fun rel => rel.row.goldenVersion = goldenVersion) = some r := by
  simp only [findGoldenRelease, GoldenDigestsManifest.backend, bind_eq_ok, okOr_eq_ok, Option.bind_eq_some_iff,
    toOption_eq_some]
  constructor
  · rintro ⟨roleObj, hrole, obj, hobj, hfind⟩
    exact ⟨obj, ⟨roleObj, hrole, hobj⟩, hfind⟩
  · rintro ⟨obj, ⟨roleObj, hrole, hobj⟩, hfind⟩
    exact ⟨roleObj, hrole, obj, hobj, hfind⟩

/-- A version has an active row, or its first retired row is in its grace period. -/
def GoldenRowInGrace (now : Nat) (manifest : GoldenDigestsManifest) (role backend goldenVersion : Str) : Prop :=
  ∀ obj ∈ manifest.backend role backend,
    (∃ rel ∈ obj.active, rel.goldenVersion = goldenVersion) ∨
      ∀ rel ∈ obj.retired.find? (·.goldenVersion = goldenVersion),
        InGrace now manifest.retiredGracePeriodDays rel.retiredAt

lemma golden_rows_expire_iff (now : Nat) (manifest : GoldenDigestsManifest) (role backend goldenVersion : Str) :
    (∀ r, findGoldenRelease manifest role backend goldenVersion = .ok r → r.list = .retired →
      InGrace now manifest.retiredGracePeriodDays r.row.retiredAt) ↔
        GoldenRowInGrace now manifest role backend goldenVersion := by
  have hfind (obj : GoldenBackend) :=
    find?_listed obj.active obj.retired (fun rel : GoldenRelease => decide (rel.goldenVersion = goldenVersion))
  constructor
  · intro hexpire obj hobj
    by_cases hactive : ∃ rel ∈ obj.active, rel.goldenVersion = goldenVersion
    · exact Or.inl hactive
    · right
      intro rel hrel
      refine hexpire ⟨.retired, rel⟩ (findGoldenRelease_eq_ok.mpr ⟨obj, hobj, ?_⟩) rfl
      have hnone : obj.active.find? (fun rel => decide (rel.goldenVersion = goldenVersion)) = none := by
        rw [List.find?_eq_none]
        intro x hx hversion
        exact hactive ⟨x, hx, of_decide_eq_true hversion⟩
      rw [GoldenBackend.rows, hfind, hnone, Option.mem_def.mp hrel]
      rfl
  · intro hgrace r hr hretired
    obtain ⟨obj, hobj, hrow⟩ := findGoldenRelease_eq_ok.mp hr
    rw [GoldenBackend.rows, hfind] at hrow
    rcases hact : obj.active.find? (fun rel => decide (rel.goldenVersion = goldenVersion)) with _ | rel
    · rw [hact] at hrow
      obtain ⟨rel, hrel, rfl⟩ := Option.map_eq_some_iff.mp hrow
      rcases hgrace obj hobj with ⟨x, hx, hversion⟩ | hgrace
      · exact absurd (decide_eq_true hversion) (List.find?_eq_none.mp hact x hx)
      · exact hgrace rel hrel
    · -- an active row comes first
      rw [hact] at hrow
      obtain rfl := Option.some.inj hrow
      cases hretired

end Golden

section Ceremony

/-- A key has an active row, or the first retired row of it that would be returned is dated. -/
def CeremonyRowDated (now : Nat) (manifest : CeremonyManifest) (spkiSha256 : Str) : Prop :=
  (∃ rel ∈ manifest.active, rel.pins spkiSha256 = true) ∨
    ∀ rel ∈ manifest.retired.find? (fun r => r.pins spkiSha256 && r.retiredOk now manifest.retiredGracePeriodDays),
      rel.retiredAt ≠ none

lemma retiredOk_eq_true {now graceDays : Nat} {rel : CeremonyRelease} (h : rel.retiredOk now graceDays = true) :
    rel.retiredAt = none ∨ InGrace now graceDays rel.retiredAt := by
  unfold CeremonyRelease.retiredOk at h
  rcases hat : rel.retiredAt with _ | text
  · exact Or.inl rfl
  · rw [hat] at h
    dsimp only at h
    rcases hparse : parseRfc3339Secs text with e | secs
    · rw [hparse] at h
      cases h
    · rw [hparse] at h
      exact Or.inr ⟨text, secs, rfl, hparse, le_of_withinGrace h⟩

lemma ceremony_rows_expire_iff (now : Nat) (manifest : CeremonyManifest) (spkiSha256 : Str) :
    (∀ r, findCeremonyReleaseBySpki now manifest spkiSha256 = some r → r.list = .retired →
      InGrace now manifest.retiredGracePeriodDays r.row.retiredAt) ↔ CeremonyRowDated now manifest spkiSha256 := by
  rcases hact : manifest.active.find? (fun rel => rel.pins spkiSha256) with _ | rel
  · have hfind : findCeremonyReleaseBySpki now manifest spkiSha256 =
        (manifest.retired.find? fun r => r.pins spkiSha256 && r.retiredOk now manifest.retiredGracePeriodDays).map
          (⟨.retired, ·⟩) := by
      rw [findCeremonyReleaseBySpki, hact]
    have hnone : ¬ ∃ rel ∈ manifest.active, rel.pins spkiSha256 = true := by
      rintro ⟨rel, hrel, hpins⟩
      exact List.find?_eq_none.mp hact rel hrel hpins
    rw [hfind]
    constructor
    · intro hexpire
      right
      intro rel hrel
      exact (hexpire ⟨.retired, rel⟩ (by rw [Option.mem_def.mp hrel]; rfl) rfl).dated
    · intro hdated r hr hretired
      obtain ⟨rel, hrel, rfl⟩ := Option.map_eq_some_iff.mp hr
      have hreturned := List.find?_some hrel
      rw [Bool.and_eq_true] at hreturned
      rcases retiredOk_eq_true hreturned.2 with hundated | hgrace
      · rcases hdated with hactive | hdated
        · exact absurd hactive hnone
        · exact absurd hundated (hdated rel hrel)
      · exact hgrace
  · have hfind : findCeremonyReleaseBySpki now manifest spkiSha256 = some ⟨.active, rel⟩ := by
      rw [findCeremonyReleaseBySpki, hact]
    have hpins := List.find?_some hact
    rw [hfind]
    constructor
    · intro _
      exact Or.inl ⟨rel, List.mem_of_find?_eq_some hact, hpins⟩
    · intro _ r hr hretired
      obtain rfl := Option.some.inj hr
      cases hretired

end Ceremony

/-- **When retired rows expire**, for each of the three searches. -/
theorem retired_rows_expire_iff (now : Nat) :
    (∀ manifest hostname b,
      (∀ rows, findMatchingReleases now manifest hostname b = .ok rows → ∀ r ∈ rows, r.list = .retired →
        InGrace now manifest.retiredGracePeriodDays r.row.retiredAt) ↔ EdgeRowsDated manifest hostname b) ∧
    (∀ manifest role backend goldenVersion,
      (∀ r, findGoldenRelease manifest role backend goldenVersion = .ok r → r.list = .retired →
        InGrace now manifest.retiredGracePeriodDays r.row.retiredAt) ↔
          GoldenRowInGrace now manifest role backend goldenVersion) ∧
    ∀ manifest spkiSha256,
      (∀ r, findCeremonyReleaseBySpki now manifest spkiSha256 = some r → r.list = .retired →
        InGrace now manifest.retiredGracePeriodDays r.row.retiredAt) ↔ CeremonyRowDated now manifest spkiSha256 :=
  ⟨edge_rows_expire_iff now, golden_rows_expire_iff now, ceremony_rows_expire_iff now⟩

/-! ### Rows that do not expire -/

def sampleEdgeRow (retiredAt : Option Str) : EdgeRelease where
  buildVersion := "0.4.5"
  codeHash := "c0de"
  quoteFormats := ["snp_report"]
  goldenVersion := none
  policyHash := some "b0"
  measurement := .launchDigest "1a" "1d"
  retiredAt := retiredAt

def sampleEdgeBuild : EdgeBuild where
  buildVersion := "0.4.5"
  codeHash := "c0de"
  measurement := .launchDigest "1a" "1d"
  quoteFormat := .snpReport
  policyHash := some "b0"

def sampleEdgeManifest (retiredAt : Option Str) : OpenApiEdgeManifest where
  schema := "teechat-openapi-edge-manifest/v1"
  keyId := pinnedKeyId
  epoch := 1
  notAfter := "2027-01-01T00:00:00Z"
  retiredGracePeriodDays := 30
  policy := ⟨true, true, true⟩
  regions := [⟨"g", ["h"], [], [sampleEdgeRow retiredAt]⟩]

def sampleGoldenRow (retiredAt : Option Str) : GoldenRelease where
  goldenVersion := "g1"
  tlsKeyPolicy := none
  launchDigest := none
  imageDigest := some "1d"
  mrEnclave := none
  retiredAt := retiredAt

def sampleGoldenManifest (retiredAt : Option Str) : GoldenDigestsManifest where
  schema := "teechat-golden-digests-manifest/v1"
  keyId := "golden-digests-v1"
  epoch := 1
  notAfter := "2027-01-01T00:00:00Z"
  retiredGracePeriodDays := 30
  roles := ⟨some ⟨[("sev-snp-cvm", ⟨[], [sampleGoldenRow retiredAt]⟩)]⟩, none, none⟩

def sampleCeremonyRow (retiredAt : Option Str) : CeremonyRelease := ⟨"c1", "5a", "g1", retiredAt⟩

def sampleCeremonyManifest (retiredAt : Option Str) : CeremonyManifest where
  schema := "teechat-openapi-tls-ceremony/v1"
  keyId := pinnedKeyId
  epoch := 1
  notAfter := "2027-01-01T00:00:00Z"
  retiredGracePeriodDays := 0
  hostnames := ["h"]
  active := []
  retired := [sampleCeremonyRow retiredAt]

def sampleNow : Nat := 1785320409

lemma findGoldenRelease_sample (retiredAt : Option Str) :
    findGoldenRelease (sampleGoldenManifest retiredAt) "openapi" "sev-snp-cvm" "g1" =
      .ok ⟨.retired, sampleGoldenRow retiredAt⟩ := rfl

/-- Each search returns a row that should not match: two rows without a time, and a golden row that was retired in
2020. -/
theorem retired_rows_do_not_expire :
    (findMatchingReleases sampleNow (sampleEdgeManifest none) "h" sampleEdgeBuild =
        .ok [⟨.retired, sampleEdgeRow none⟩] ∧
      ¬ InGrace sampleNow (sampleEdgeManifest none).retiredGracePeriodDays (sampleEdgeRow none).retiredAt) ∧
    (findGoldenRelease (sampleGoldenManifest (some "2020-01-01T00:00:00Z")) "openapi" "sev-snp-cvm" "g1" =
        .ok ⟨.retired, sampleGoldenRow (some "2020-01-01T00:00:00Z")⟩ ∧
      ¬ InGrace sampleNow (sampleGoldenManifest (some "2020-01-01T00:00:00Z")).retiredGracePeriodDays
        (sampleGoldenRow (some "2020-01-01T00:00:00Z")).retiredAt) ∧
    findCeremonyReleaseBySpki sampleNow (sampleCeremonyManifest none) "5a" =
        some ⟨.retired, sampleCeremonyRow none⟩ ∧
      ¬ InGrace sampleNow (sampleCeremonyManifest none).retiredGracePeriodDays (sampleCeremonyRow none).retiredAt := by
  have hundated (now days : Nat) : ¬ InGrace now days none := fun h => h.dated rfl
  refine ⟨⟨rfl, hundated _ _⟩, ⟨findGoldenRelease_sample _, ?_⟩, rfl, hundated _ _⟩
  rintro ⟨text, secs, hat, hsecs, hle⟩
  obtain rfl := Option.some.inj hat
  have hparse : parseRfc3339Secs "2020-01-01T00:00:00Z" = .ok 1577836800 := rfl
  obtain rfl := Except.ok.inj (hsecs.symm.trans hparse)
  have hdays : (sampleGoldenManifest (some "2020-01-01T00:00:00Z")).retiredGracePeriodDays = 30 := rfl
  rw [hdays] at hle
  unfold sampleNow at hle
  omega

/-- A golden row that was retired on the day itself is returned, and is in its grace period. -/
theorem retired_rows_expire_iff_sample :
    findGoldenRelease (sampleGoldenManifest (some "2026-07-29T10:20:09Z")) "openapi" "sev-snp-cvm" "g1" =
        .ok ⟨.retired, sampleGoldenRow (some "2026-07-29T10:20:09Z")⟩ ∧
      InGrace sampleNow (sampleGoldenManifest (some "2026-07-29T10:20:09Z")).retiredGracePeriodDays
        (sampleGoldenRow (some "2026-07-29T10:20:09Z")).retiredAt := by
  have hday : InGrace sampleNow 30 (some "2026-07-29T10:20:09Z") := ⟨_, 1785320409, rfl, rfl, by decide⟩
  refine ⟨findGoldenRelease_sample _, ?_⟩
  refine ((retired_rows_expire_iff sampleNow).2.1 (sampleGoldenManifest (some "2026-07-29T10:20:09Z")) "openapi"
    "sev-snp-cvm" "g1").mpr ?_ _ (findGoldenRelease_sample _) rfl
  intro obj hobj
  right
  intro rel hrel
  obtain rfl : _ = obj := Option.some.inj hobj
  obtain rfl : sampleGoldenRow _ = rel := Option.some.inj hrel
  exact hday

end TeechatOpenapi.Attest
