import TeechatOpenapi.Cvm.TlsCeremony

/-!
# The check behind the ceremony (`openapi-platform-cvm/src/tls_ceremony.rs`, `bins/openapi-tls-ceremony`)

`assert_no_plaintext_privkey_on_disk` lists the keys as the ceremony does and wants each of them gone.  The list starts
with the live link, which is listed only if it leads somewhere, and a failed listing counts as an empty one.  So the
check passes whenever the live link leads nowhere or the archive cannot be read, whatever the archive still holds.
-/

namespace TeechatOpenapi.Cvm

open Lib Platform FileTree

def assertNoPlaintextPrivkeyOnDisk (w : CeremonyWorld) (letsencryptRoot : Path) (certName : Str)
    (extraPlainPaths : List Path) (t : FileTree) : Except CeremonyError Unit := do
  extraPlainPaths.forM fun path =>
    failIf (t.pathExists w.cwd path) (.policy ("plaintext key still present: ".toList ++ path.display))
  if t.pathExists w.cwd letsencryptRoot then
    ((toOption (discoverAcmePrivkeyPaths w letsencryptRoot certName t)).getD []).forM fun path =>
      failIf (t.pathExists w.cwd path) (CeremonyError.policy ("ACME privkey still present: ".toList ++ path.display))

/-- No key is left: neither in the archive nor behind the live link. -/
def NoPlaintext (cwd : Location) (root : Path) (certName : Str) (t : FileTree) : Prop :=
  (∀ name, isPrivkeyName name = true → t.isFile cwd ((archiveDir root certName).join name) = false) ∧
    t.isFile cwd (privkeyLink root certName) = false

/-- Nothing is listed: the live link leads nowhere, or the archive is a directory that cannot be read. -/
def Unlisted (w : CeremonyWorld) (root : Path) (certName : Str) (t : FileTree) : Prop :=
  t.canonicalize w.cwd (privkeyLink root certName) = none ∨ w.readDir ≠ .ok () ∧
    ∃ dir, t.canonicalize w.cwd (archiveDir root certName) = some dir ∧ t.node dir = some .dir

section Check

variable {w : CeremonyWorld} {t : FileTree} {root : Path} {certName : Str}

lemma isFile_eq_false (h : t.canonicalize w.cwd root = none) : t.isFile w.cwd root = false := by
  rw [isFile, FileTree.read, h]
  rfl

lemma discover_fails_iff :
    toOption (discoverAcmePrivkeyPaths w root certName t) = none ↔ Unlisted w root certName t := by
  unfold discoverAcmePrivkeyPaths archivedKeys Unlisted
  dsimp only
  rcases t.canonicalize w.cwd (privkeyLink root certName) with _ | l
  · exact iff_of_true rfl (Or.inl rfl)
  rcases t.canonicalize w.cwd (archiveDir root certName) with _ | dir
  · simp [okOr, ok_bind, toOption]
  by_cases hdir : t.node dir = some .dir
  · rcases w.readDir with e | u <;> simp [hdir, okOr, ok_bind, mapErr, toOption]
  · simp [hdir, okOr, ok_bind, toOption]

lemma link_listed {paths : List Path} (h : discoverAcmePrivkeyPaths w root certName t = .ok paths) :
    privkeyLink root certName ∈ paths ∧ ∃ l, t.canonicalize w.cwd (privkeyLink root certName) = some l := by
  obtain ⟨l, hl, h⟩ := bind_eq_ok.mp h
  obtain ⟨archived, -, h⟩ := bind_eq_ok.mp h
  obtain rfl := pure_eq_ok.mp h
  exact ⟨mem_ascending.mpr List.mem_cons_self, l, okOr_eq_ok.mp hl⟩

lemma root_exists {l : Location} (h : t.canonicalize w.cwd (privkeyLink root certName) = some l) :
    t.pathExists w.cwd root = true := by
  obtain ⟨dir, hdir, -⟩ := walk_of_join h
  obtain ⟨live, hlive, -⟩ := walk_of_join hdir
  obtain ⟨d, hroot, -⟩ := walk_of_join hlive
  rw [pathExists, canonicalize, hroot]
  rfl

/-- **When the check passes**: the extra paths lead nowhere, and nothing is listed. -/
theorem check_eq_ok_iff {extra : List Path} : assertNoPlaintextPrivkeyOnDisk w root certName extra t = .ok () ↔
    (∀ p ∈ extra, t.canonicalize w.cwd p = none) ∧ Unlisted w root certName t := by
  rw [assertNoPlaintextPrivkeyOnDisk, ← discover_fails_iff]
  constructor
  · intro h
    obtain ⟨_, hextra, hacme⟩ := bind_eq_ok.mp h
    refine ⟨fun p hp => ?_, ?_⟩
    · have hnot := failIf_eq_ok.mp (forM_eq_ok.mp hextra p hp)
      exact Option.not_isSome_iff_eq_none.mp hnot
    · rcases hpaths : discoverAcmePrivkeyPaths w root certName t with e | paths
      · rfl
      · -- the link is in the list, leads somewhere, and fails the check
        obtain ⟨hmem, l, hlink⟩ := link_listed hpaths
        rw [if_pos (root_exists hlink), hpaths] at hacme
        have hnot := failIf_eq_ok.mp (forM_eq_ok.mp hacme _ hmem)
        rw [pathExists, hlink] at hnot
        exact absurd rfl hnot
  · rintro ⟨hextra, hnone⟩
    rw [hnone]
    refine bind_eq_ok.mpr ⟨(), forM_eq_ok.mpr fun p hp => failIf_eq_ok.mpr ?_, ?_⟩
    · rw [pathExists, hextra p hp]
      exact Bool.false_ne_true
    · split_ifs
      · rfl
      · rfl

end Check

/-- **When a check that passes means that no key is left**: exactly if, whenever the extra paths lead nowhere, no key is
left in the archive while the live link leads nowhere, and none in the archive or behind the link while the archive
cannot be read. -/
theorem no_plaintext_check_sound_iff (w : CeremonyWorld) (t : FileTree) (root : Path) (certName : Str)
    (extra : List Path) :
    (assertNoPlaintextPrivkeyOnDisk w root certName extra t = .ok () → NoPlaintext w.cwd root certName t) ↔
      ((∀ p ∈ extra, t.canonicalize w.cwd p = none) → Unlisted w root certName t →
        (∀ name, isPrivkeyName name = true → t.isFile w.cwd ((archiveDir root certName).join name) = false) ∧
        (t.canonicalize w.cwd (privkeyLink root certName) ≠ none →
          t.isFile w.cwd (privkeyLink root certName) = false)) := by
  rw [check_eq_ok_iff]
  constructor
  · intro h hextra hunlisted
    obtain ⟨harchive, hlink⟩ := h ⟨hextra, hunlisted⟩
    exact ⟨harchive, fun _ => hlink⟩
  · rintro h ⟨hextra, hunlisted⟩
    obtain ⟨harchive, hlink⟩ := h hextra hunlisted
    refine ⟨harchive, ?_⟩
    by_cases hdangles : t.canonicalize w.cwd (privkeyLink root certName) = none
    · exact isFile_eq_false hdangles
    · exact hlink hdangles

namespace Sample

def halfCleaned : FileTree :=
  ⟨[(["etc"], .dir), (["etc", "letsencrypt"], .dir), (["etc", "letsencrypt", "archive"], .dir), (acmeArchive, .dir),
    (acmeArchive ++ [acmeKey "1"], .file [1])]⟩

end Sample

open Sample in
/-- Without a live link the check passes with a key in the archive. -/
theorem archived_key_passes_check :
    assertNoPlaintextPrivkeyOnDisk ceremonyWorld acmeRoot "x" [] halfCleaned = .ok () ∧
      isPrivkeyName (acmeKey "1") = true ∧
      halfCleaned.isFile [] ((archiveDir acmeRoot "x").join (acmeKey "1")) = true := ⟨rfl, rfl, rfl⟩

namespace Sample

lemma provisioned_archive (name : Str) (hname : isPrivkeyName name = true) :
    provisioned.isFile [] ((archiveDir acmeRoot "x").join name) = false := by
  apply isFile_eq_false (w := ceremonyWorld)
  rcases hl : provisioned.canonicalize [] ((archiveDir acmeRoot "x").join name) with _ | l
  · exact hl
  · obtain ⟨d, hd, hnode⟩ := walk_of_join hl
    obtain rfl : acmeArchive = d := Option.some.inj hd
    have hmem : name ∈ [acmeChain "2"] := mem_names.mpr hnode
    rw [List.mem_singleton.mp hmem] at hname
    exact absurd hname (by decide)

end Sample

open Sample in
/-- Behind the ceremony of the renewed certificate the check passes, and no key is left. -/
theorem no_plaintext_check_sound_iff_provisioned :
    assertNoPlaintextPrivkeyOnDisk ceremonyWorld acmeRoot "x" [] provisioned = .ok () ∧
      NoPlaintext [] acmeRoot "x" provisioned :=
  ⟨rfl, (no_plaintext_check_sound_iff ceremonyWorld provisioned acmeRoot "x" []).mpr
    (fun _ _ => ⟨fun name hname => provisioned_archive name hname, fun hlink => absurd rfl hlink⟩) rfl⟩

end TeechatOpenapi.Cvm
