import TeechatOpenapi.Lib.Paths
import TeechatOpenapi.Platform.EdgePolicy

/-!
# Keys and helpers in prod (`openapi-platform/src/profile.rs`)

A prod edge starts only when nothing in its environment replaces what is measured.  Its helper `snpguest` may not stand
on a data mount, which `isUnmeasuredGuestPath` tells from the beginning of the path as it is spelled.
-/

namespace TeechatOpenapi.Platform

open Lib

def isUnmeasuredGuestPath (path : Str) : Bool :=
  let lower := toAsciiLowercase (trim path)
  if lower = [] then false
  else if lower = "/data" ∨ ("/data/" : Str).isPrefixOf lower then true
  else if ("/var/mnt/teechat-openapi/app/" : Str).isPrefixOf lower ∨ ("/usr/local/teechat/" : Str).isPrefixOf lower then
    false
  else ("/var/mnt/teechat-openapi/" : Str).isPrefixOf lower

/-- A variable is set to a text. -/
def Host.isSet (host : Host) (name : Str) : Bool := (nonEmpty (host.env name)).isSome

/-- `validate_tls_key_policy` in prod, up to its last check. -/
def earlierChecks (host : Host) : Except ProfileError Unit := do
  failIf (host.isSet "OPENAPI_TLS_KEY_PATH") .prodPlaintextTlsKey
  -- a ceremony helper serves the sealed key and the certificate itself
  if host.isSet "OPENAPI_CEREMONY_HELPER_URL" then pure ()
  else do
    failIf (¬ host.isSet "OPENAPI_TLS_SEALED_KEY_PATH") .prodMissingSealedTlsKey
    failIf (¬ host.isSet "OPENAPI_TLS_CERT_PATH") .prodMissingTlsCert
  failIf (host.isSet "OPENAPI_SEAL_ROOT_HEX") .prodHostSealRoot
  failIf ((host.env "OPENAPI_ATTESTED_LAUNCH_DIGEST").any fun s => s ≠ [] ∧ s ≠ "unknown") .prodAttestedLaunchOverride
  failIf (host.isSet "OPENAPI_AMD_SP_DERIVED_KEY_HEX") .prodAmdSpDerivedKeyOverride
  failIf (host.isSet "OPENAPI_CHALLENGE_BENCH_TOKEN") .prodChallengeBenchToken
  failIf ((host.env "OPENAPI_PROXY_MODE").any fun mode =>
    eqIgnoreAsciiCase (trim mode) "transparent" ∨ eqIgnoreAsciiCase (trim mode) "proxy") .prodTransparentProxy
  failIf (host.isSet "OPENAPI_TLS_KEY_POLICY_PATH") .prodTlsKeyPolicyPathOverride

def validateTlsKeyPolicy (host : Host) (profile : EdgeProfile) : Except ProfileError Unit :=
  match profile with
  | .dev => .ok ()
  | .prod => do
    earlierChecks host
    failIf ((host.env "OPENAPI_SNPGUEST_BIN").any fun bin => isUnmeasuredGuestPath (trim bin))
      .prodUnmeasuredSnpguestBin

/-- The names that lead to the data disk of the guest. -/
def dataDisk : List Str := ["var", "mnt", "teechat-openapi"]

/-- The names that lead to the measured volume on it. -/
def appVolume : List Str := ["var", "mnt", "teechat-openapi", "app"]

/-- Names that go on behind those of a directory. -/
def Below (dir names : List Str) : Prop := ∃ name rest, names = dir ++ name :: rest

/-- Names that lead to `/data` or below it, or below the data disk and not below the measured volume. -/
def OnDataMount (names : List Str) : Prop :=
  ["data".toList] <+: names ∨ (Below dataDisk names ∧ ¬ Below appVolume names)

/-- A path that leads to a data mount. -/
def Unmeasured (path : Str) : Prop := ∃ names, lexical path = some names ∧ OnDataMount names

/-- The first segments of a path spell a data mount, but for case and for white space around the path. -/
def SpelledOut (path : Str) : Prop :=
  [[], "data".toList] <+: segments (toAsciiLowercase (trim path)) ∨
    ∃ (next : Str) (rest : List Str), segments (toAsciiLowercase (trim path)) = [] :: dataDisk ++ next :: rest ∧
      (next = "app" → rest = [])

variable {s : Str}

lemma starts_data :
    (s = "/data" ∨ ("/data/" : Str).isPrefixOf s = true) ↔ [[], "data".toList] <+: segments s := by
  have hdir : segments "/data" = [[], "data".toList] := by decide
  rw [ List.isPrefixOf_iff_prefix, ← hdir]
  exact at_or_under_iff

variable {names : List Str}

/-- A text starts with a directory and a slash exactly when its segments go on behind those of the directory. -/
lemma starts_below {dir start : Str} (hdir : segments dir = [] :: names)
    (hstart : start = dir ++ ['/']) :
    start.isPrefixOf s = true ↔ ∃ next rest, segments s = [] :: names ++ next :: rest := by
  rw [ List.isPrefixOf_iff_prefix, hstart, ← hdir]
  exact slash_prefix_iff

lemma starts_dataDisk : ("/var/mnt/teechat-openapi/" : Str).isPrefixOf s = true ↔
    ∃ next rest, segments s = [] :: dataDisk ++ next :: rest := by
  have hdir : segments "/var/mnt/teechat-openapi" = [] :: dataDisk := by decide
  exact starts_below hdir (by decide)

lemma starts_appVolume : ("/var/mnt/teechat-openapi/app/" : Str).isPrefixOf s = true ↔
    ∃ next rest, segments s = [] :: appVolume ++ next :: rest := by
  have hdir : segments "/var/mnt/teechat-openapi/app" = [] :: appVolume := by decide
  exact starts_below hdir (by decide)

lemma not_usr_of_dataDisk (h : ("/var/mnt/teechat-openapi/" : Str).isPrefixOf s = true) :
    ¬ ("/usr/local/teechat/" : Str).isPrefixOf s = true := by
  intro husr
  have hboth := List.prefix_of_prefix_length_le ( List.isPrefixOf_iff_prefix.mp husr)
    ( List.isPrefixOf_iff_prefix.mp h) (by decide)
  revert hboth
  decide

/-- The last test of a path: on the data disk, and not below the measured volume. -/
lemma starts_unmeasured :
    (if ("/var/mnt/teechat-openapi/app/" : Str).isPrefixOf s = true ∨ ("/usr/local/teechat/" : Str).isPrefixOf s = true
      then false else ("/var/mnt/teechat-openapi/" : Str).isPrefixOf s) = true ↔
    ∃ (next : Str) (rest : List Str), segments s = [] :: dataDisk ++ next :: rest ∧ (next = "app" → rest = []) := by
  by_cases hdisk : ("/var/mnt/teechat-openapi/" : Str).isPrefixOf s = true
  · have husr := not_usr_of_dataDisk hdisk
    by_cases happ : ("/var/mnt/teechat-openapi/app/" : Str).isPrefixOf s = true
    · rw [if_pos (Or.inl happ)]
      obtain ⟨next, rest, hsegs⟩ := starts_appVolume.mp happ
      refine iff_of_false Bool.false_ne_true ?_
      rintro ⟨next', rest', hsegs', hlast⟩
      rw [hsegs] at hsegs'
      cases hsegs'
      cases hlast rfl
    · rw [if_neg (not_or.mpr ⟨happ, husr⟩)]
      obtain ⟨next, rest, hsegs⟩ := starts_dataDisk.mp hdisk
      refine iff_of_true hdisk ⟨next, rest, hsegs, ?_⟩
      rintro rfl
      cases rest with
      | nil => rfl
      | cons next' rest' => exact absurd (starts_appVolume.mpr ⟨next', rest', hsegs⟩) happ
  · refine iff_of_false ?_ ?_
    · split_ifs
      · exact not_false
      · exact hdisk
    · rintro ⟨next, rest, hsegs, -⟩
      exact hdisk (starts_dataDisk.mpr ⟨next, rest, hsegs⟩)

variable {path : Str}

lemma isUnmeasuredGuestPath_iff : isUnmeasuredGuestPath path = true ↔ SpelledOut path := by
  unfold isUnmeasuredGuestPath SpelledOut
  generalize toAsciiLowercase (trim path) = s
  dsimp only
  by_cases hnil : s = []
  · rw [if_pos hnil, hnil]
    refine iff_of_false Bool.false_ne_true ?_
    rintro (hdata | ⟨next, rest, hsegs, -⟩)
    · revert hdata
      decide
    · cases hsegs
  rw [if_neg hnil]
  by_cases hdata : s = "/data" ∨ ("/data/" : Str).isPrefixOf s = true
  · rw [if_pos hdata]
    exact iff_of_true rfl (Or.inl (starts_data.mp hdata))
  · rw [if_neg hdata, ← starts_data, or_iff_right hdata]
    exact starts_unmeasured

/-- A path that is spelled by the names it leads through, in lower case and without white space around it. -/
structure Plain (path : Str) (names : List Str) : Prop where
  spelled : path = absolute names
  names : ∀ name ∈ names, IsName name
  trimmed : trim path = path
  lower : toAsciiLowercase path = path

lemma Plain.spelledOut (h : Plain path names) (hmount : OnDataMount names) :
    SpelledOut path := by
  have hne : names ≠ [] := by
    rintro rfl
    rcases hmount with hdata | ⟨⟨name, rest, hbelow⟩, -⟩
    · cases List.prefix_nil.mp hdata
    · cases hbelow
  have hsegs : segments (toAsciiLowercase (trim path)) = [] :: names := by
    rw [h.trimmed, h.lower, h.spelled]
    exact segments_absolute (fun name hname => (h.names name hname).noSlash) hne
  unfold SpelledOut
  rw [hsegs]
  rcases hmount with hdata | ⟨⟨name, rest, rfl⟩, happ⟩
  · exact Or.inl (List.cons_prefix_cons.mpr ⟨rfl, hdata⟩)
  · refine Or.inr ⟨name, rest, rfl, ?_⟩
    rintro rfl
    cases rest with
    | nil => rfl
    | cons name' rest' => exact absurd ⟨name', rest', rfl⟩ happ

lemma validateTlsKeyPolicy_prod {host : Host} {bin : Str} (hbin : host.env "OPENAPI_SNPGUEST_BIN" = some bin)
    (hearlier : earlierChecks host = .ok ()) :
    validateTlsKeyPolicy host .prod =
      if isUnmeasuredGuestPath bin = true then .error .prodUnmeasuredSnpguestBin else .ok () := by
  have htrim : isUnmeasuredGuestPath (trim bin) = isUnmeasuredGuestPath bin := by
    rw [isUnmeasuredGuestPath, isUnmeasuredGuestPath, trim_trim]
  rw [validateTlsKeyPolicy, hearlier, ok_bind, hbin, Option.any_some, htrim]
  rfl

/-- **Which paths to a data mount are flagged.**  A path that leads to a data mount is flagged, and refused as the
helper of a prod edge, exactly when its first segments spell the mount out; those of a path that is spelled by the
names it leads through do. -/
theorem unmeasured_flagged_iff (path : Str) (h : Unmeasured path) :
    (isUnmeasuredGuestPath path = true ↔ SpelledOut path) ∧
    (∀ names, Plain path names → SpelledOut path) ∧
    ∀ host : Host, host.env "OPENAPI_SNPGUEST_BIN" = some path → earlierChecks host = .ok () →
      (validateTlsKeyPolicy host .prod = .error .prodUnmeasuredSnpguestBin ↔ SpelledOut path) ∧
      (validateTlsKeyPolicy host .prod = .ok () ↔ ¬ SpelledOut path) := by
  refine ⟨isUnmeasuredGuestPath_iff, fun names hplain => ?_, fun host hbin hearlier => ?_⟩
  · obtain ⟨names', hlexical, hmount⟩ := h
    have hne : names ≠ [] := by
      rintro rfl
      rw [hplain.spelled] at hlexical
      cases hlexical
    rw [hplain.spelled, lexical_absolute hplain.names hne] at hlexical
    cases hlexical
    exact hplain.spelledOut hmount
  · rw [validateTlsKeyPolicy_prod hbin hearlier, ← isUnmeasuredGuestPath_iff]
    split_ifs with hflagged
    · exact ⟨iff_of_true rfl hflagged, iff_of_false nofun (not_not.mpr hflagged)⟩
    · exact ⟨iff_of_false nofun hflagged, iff_of_true rfl hflagged⟩

namespace Sample

def helperHost (bin : Str) : Host where
  env name :=
    if name = "OPENAPI_TLS_SEALED_KEY_PATH" then some "/etc/key"
    else if name = "OPENAPI_TLS_CERT_PATH" then some "/etc/crt"
    else if name = "OPENAPI_SNPGUEST_BIN" then some bin
    else none
  dataIsDir := true
  tempDir := "/tmp"
  sgx := false

lemma earlierChecks_helper (bin : Str) : earlierChecks (helperHost bin) = .ok () := by
  rw [earlierChecks]
  rfl

lemma env_helper (bin : Str) : (helperHost bin).env "OPENAPI_SNPGUEST_BIN" = some bin := by
  rw [helperHost]
  rfl

structure Unseen (path : Str) : Prop where
  unmeasured : Unmeasured path
  notFlagged : isUnmeasuredGuestPath path = false
  taken : validateTlsKeyPolicy (helperHost path) .prod = .ok ()

lemma Unseen.of (hpath : Unmeasured path) (hflag : isUnmeasuredGuestPath path = false) :
    Unseen path := by
  refine ⟨hpath, hflag, ?_⟩
  rw [validateTlsKeyPolicy_prod (env_helper path) (earlierChecks_helper path), hflag]
  rfl

lemma not_below_appVolume (h : ¬ appVolume <+: names) : ¬ Below appVolume names := by
  rintro ⟨name, rest, rfl⟩
  exact h (List.prefix_append _ _)

end Sample

open Sample in
/-- **Other spellings**: a doubled slash, a way back, a way out of the measured volume, and its name in capitals.  All
lead to a data mount, none is flagged, and the prod edge takes each for its helper. -/
theorem unmeasured_not_flagged :
    Unseen "//data/snpguest" ∧ Unseen "/x/../data/snpguest" ∧
    Unseen "/var/mnt/teechat-openapi/app/../bin/snpguest" ∧ Unseen "/var/mnt/teechat-openapi/APP/snpguest" := by
  refine ⟨.of ⟨["data", "snpguest"], by decide, Or.inl (by decide)⟩ (by decide),
    .of ⟨["data", "snpguest"], by decide, Or.inl (by decide)⟩ (by decide),
    .of ⟨dataDisk ++ ["bin".toList, "snpguest".toList], by decide, Or.inr ⟨⟨_, _, rfl⟩, ?_⟩⟩ (by decide),
    .of ⟨dataDisk ++ ["APP".toList, "snpguest".toList], by decide, Or.inr ⟨⟨_, _, rfl⟩, ?_⟩⟩ (by decide)⟩
  · exact not_below_appVolume (by decide)
  · exact not_below_appVolume (by decide)

open Sample in
theorem unmeasured_flagged_iff_sample :
    validateTlsKeyPolicy (helperHost "/data/snpguest") .prod = .error .prodUnmeasuredSnpguestBin := by
  have hflagged := unmeasured_flagged_iff "/data/snpguest" ⟨["data", "snpguest"], by decide, Or.inl (by decide)⟩
  exact ((hflagged.2.2 _ (env_helper _) (earlierChecks_helper _)).1).mpr (hflagged.1.mp (by decide))

end TeechatOpenapi.Platform
