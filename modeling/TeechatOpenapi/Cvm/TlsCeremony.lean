import TeechatOpenapi.Cvm.SealImport
import TeechatOpenapi.Lib.FileTree
import TeechatOpenapi.Platform.EdgePolicy

/-!
# The issuance ceremony (`openapi-platform-cvm/src/tls_ceremony.rs`)

The ceremony finds the private keys of a certificate in an ACME tree, seals the first of them in the order of their
paths, installs the chain of the live certificate, and shreds all the keys.

A look at the tree (`exists`, `is_dir`, `is_file`, `canonicalize`) is answered as the tree is.
-/

namespace TeechatOpenapi.Cvm

open Lib Platform FileTree Encoding

/-! ## Policy -/

/-- Where the ceremony stores its outputs, and what it seals to. -/
structure TlsCeremonyPaths where
  certPath : Path
  sealedKeyPath : Path
  launchDigest : Str
  imageDigest : Str

/-- `CeremonyError`, the variants of the ceremony itself. -/
inductive CeremonyError where
  | io (text : Str)
  | platform (error : PlatformError)
  | profile (text : Str)
  | policy (text : Str)
  | acme (text : Str)

def mapTlsError : TlsError → CeremonyError
  | .seal error => .platform error
  | .io text => .io text
  | .rustls text => .policy text

def TlsKeyPolicy.asStr : TlsKeyPolicy → Str
  | .keyCeremony => "key_ceremony"
  | .sealSync => "seal_sync"

/-- A variable that the ceremony refuses. -/
def forbidVar (host : Host) (name text : Str) : Except CeremonyError Unit :=
  failIf (nonEmpty (host.env name)).isSome (.policy text)

/-- `assert_prod_ceremony_policy`; the key policy of the image is an input. -/
def assertProdCeremonyPolicy (X : Crates) (host : Host) (keyPolicy : Except Str TlsKeyPolicy) :
    Except CeremonyError Unit := do
  let profile ← mapErr (fun e => .profile (ProfileError.display X e)) (loadEdgeProfile host)
  failIf (profile ≠ .prod) (.policy "TLS ceremony requires OPENAPI_PROFILE=prod")
  let policy ← mapErr .policy keyPolicy
  failIf (policy ≠ .keyCeremony) (.policy ("TLS generate/ACME ceremony requires /etc/tls_key_policy=".toList ++
    "key_ceremony (got ".toList ++ policy.asStr ++ ")".toList))
  forbidVar host "OPENAPI_TLS_KEY_PATH" "OPENAPI_TLS_KEY_PATH must not be set during ceremony"
  forbidVar host "OPENAPI_SEAL_ROOT_HEX" "OPENAPI_SEAL_ROOT_HEX must not be set during ceremony"
  failIf ((nonEmpty (host.env "OPENAPI_ATTESTED_LAUNCH_DIGEST")).filter (· ≠ "unknown".toList)).isSome
    (.policy "OPENAPI_ATTESTED_LAUNCH_DIGEST is forbidden during prod ceremony (OPS-001)")
  forbidVar host "OPENAPI_AMD_SP_DERIVED_KEY_HEX"
    "OPENAPI_AMD_SP_DERIVED_KEY_HEX is forbidden during prod ceremony (OPS-003)"

/-! ## The ceremony -/

/-- How a file is overwritten with zeros. -/
inductive ZeroOutcome where
  | zeroed
  | refused (error : Str)
  | cut (octets : Nat) (error : Str)
  | unsynced (error : Str)

namespace ZeroOutcome

/-- What the file holds afterwards. -/
def left (content : Bytes) : ZeroOutcome → Bytes
  | zeroed => List.replicate content.length 0
  | refused _ => content
  | cut octets _ => (List.replicate octets 0).take content.length ++ content.drop octets
  | unsynced _ => List.replicate content.length 0

def result : ZeroOutcome → Except Str Unit
  | zeroed => .ok ()
  | refused error => .error error
  | cut _ error => .error error
  | unsynced error => .error error

end ZeroOutcome

/-- What the host does with the steps of one shredding. -/
structure ShredOutcome where
  zero : ZeroOutcome
  remove : Except Str Unit

/-- What is left of a file that is shredded: an empty one is not overwritten, and it is removed only after that. -/
def ShredOutcome.left (o : ShredOutcome) (content : Bytes) : Option Bytes :=
  if (content = [] ∨ o.zero.result = .ok ()) ∧ o.remove = .ok () then none else some (o.zero.left content)

/-- The process of the ceremony, and what the host does with its steps. -/
structure CeremonyWorld where
  host : Host
  keyPolicy : Except Str TlsKeyPolicy
  guest : Guest
  nonce : Octets 12
  cwd : Location
  readDir : Except Str Unit
  mkdirSealed : MkdirOutcome
  readKey : Except Str Unit
  writeSealed : WriteOutcome
  mkdirCert : MkdirOutcome
  copyCert : WriteOutcome
  chmodCert : Except Str Unit
  shred : Path → ShredOutcome

def acmeLiveDir (letsencryptRoot : Path) (certName : Str) : Path := (letsencryptRoot.join "live").join certName

def acmeFullchainPath (liveDir : Path) : Path := liveDir.join "fullchain.pem"

/-- The link to the live key. -/
def privkeyLink (letsencryptRoot : Path) (certName : Str) : Path :=
  (acmeLiveDir letsencryptRoot certName).join "privkey.pem"

/-- The directory of the archived versions. -/
def archiveDir (letsencryptRoot : Path) (certName : Str) : Path := (letsencryptRoot.join "archive").join certName

/-- `name.starts_with("privkey") && name.ends_with(".pem")`. -/
def isPrivkeyName (name : Str) : Bool := "privkey".toList.isPrefixOf name && ".pem".toList.isSuffixOf name

section Ceremony

variable (X : Crates) (C : SealCrates) (w : CeremonyWorld)

/-- The keys in the archive. -/
def archivedKeys (letsencryptRoot : Path) (certName : Str) (t : FileTree) : Except CeremonyError (List Path) :=
  match t.canonicalize w.cwd (archiveDir letsencryptRoot certName) with
  | some dir =>
    if t.node dir = some .dir then do
      mapErr .io w.readDir
      return ((t.names dir).filter (isPrivkeyName ·)).map (archiveDir letsencryptRoot certName).join
    else .ok []
  | none => .ok []

def discoverAcmePrivkeyPaths (letsencryptRoot : Path) (certName : Str) (t : FileTree) :
    Except CeremonyError (List Path) := do
  let link := privkeyLink letsencryptRoot certName
  let resolved ← okOr (t.canonicalize w.cwd link) (.acme ("missing ".toList ++ link.display))
  let archived ← archivedKeys w letsencryptRoot certName t
  let target := if Path.ofLocation resolved ≠ link then [Path.ofLocation resolved] else []
  return ascending id (link :: (target ++ archived))

/-- `fs::create_dir_all` of the parent of a path that has one. -/
def createParent (p : Path) (o : MkdirOutcome) : Op FileTree CeremonyError Unit :=
  if p = [] ∨ p = [.rootDir] then pure () else Op.mapErr .io (createDirAll o)

def sealTlsKeyFile (S : CvmSealer) (plainKeyPath sealedOutPath : Path) : Op FileTree TlsError SealedTlsKeyBlob := do
  Op.lift (mapErr .io w.readKey)
  let keyPem ← Op.lift (mapErr .io ((← Op.get).read w.cwd plainKeyPath))
  let blob ← Op.lift (mapErr .seal (S.sealTlsKey X C w.guest keyPem none w.nonce))
  Op.mapErr .io (write w.cwd sealedOutPath (blobFile C blob) w.writeSealed)
  return blob

def installCertChain (sourceFullchain certPath : Path) : Op FileTree CeremonyError Unit := do
  Op.lift (failIf (¬ (← Op.get).isFile w.cwd sourceFullchain)
    (.acme ("missing fullchain ".toList ++ sourceFullchain.display)))
  createParent certPath w.mkdirCert
  let chain ← Op.lift (mapErr .io ((← Op.get).read w.cwd sourceFullchain))
  Op.mapErr .io (write w.cwd certPath chain w.copyCert)
  Op.lift (mapErr .io w.chmodCert)

/-- `shred_path`: a path that leads nowhere is left as it is. -/
def shredPath (path : Path) : Op FileTree CeremonyError Unit := fun t =>
  match t.canonicalize w.cwd path with
  | none => (.ok (), t)
  | some l =>
    match t.node l with
    | some (.file content) =>
      if content = [] then Op.mapErr .io (removeFile w.cwd path (w.shred path).remove) t
      else
        let overwritten := t.set l (.file ((w.shred path).zero.left content))
        match (w.shred path).zero.result with
        | .error e => (.error (.io e), overwritten)
        | .ok () => Op.mapErr .io (removeFile w.cwd path (w.shred path).remove) overwritten
    | _ => (.error (.io isADirectory), t)

/-- `seal_from_acme_live` up to the shredding: the paths of the keys. -/
def sealAndInstall (paths : TlsCeremonyPaths) (liveDir letsencryptRoot : Path) (certName : Str) :
    Op FileTree CeremonyError (List Path) := do
  Op.lift (assertProdCeremonyPolicy X w.host w.keyPolicy)
  Op.lift (mapErr .platform (verifyLaunchDigestAttested w.guest paths.launchDigest))
  let privkeyPaths ← Op.lift (discoverAcmePrivkeyPaths w letsencryptRoot certName (← Op.get))
  let primaryKey ← Op.lift (okOr privkeyPaths.head? (.acme "no privkey path"))
  createParent paths.sealedKeyPath w.mkdirSealed
  let _ ← Op.mapErr mapTlsError
    (sealTlsKeyFile X C w ⟨paths.launchDigest, paths.imageDigest, true⟩ primaryKey paths.sealedKeyPath)
  installCertChain w (acmeFullchainPath liveDir) paths.certPath
  return privkeyPaths

def sealFromAcmeLive (paths : TlsCeremonyPaths) (liveDir letsencryptRoot : Path) (certName : Str) :
    Op FileTree CeremonyError Unit := do
  let privkeyPaths ← sealAndInstall X C w paths liveDir letsencryptRoot certName
  privkeyPaths.forM (shredPath w)

end Ceremony

/-! ## The keys of a certificate -/

/-- A key in the archive: a file under such a name. -/
def IsKey (t : FileTree) (archive : Location) (name : Str) (content : Bytes) : Prop :=
  isPrivkeyName name = true ∧ t.node (archive ++ [name]) = some (.file content)

variable {name : Str}

lemma IsKey.content_eq {t : FileTree} {archive : Location} {content content' : Bytes}
    (h : IsKey t archive name content) (h' : IsKey t archive name content') : content = content' :=
  Node.file.inj (Option.some.inj (h.2.symm.trans h'.2))

/-- An ACME tree: the archive is a directory of key files, one of which is live with its chain. -/
structure AcmeTree (t : FileTree) (cwd : Location) (letsencryptRoot : Path) (certName : Str) (archive : Location)
    (live : Str) (chain : Location) : Prop where
  archived : t.canonicalize cwd (archiveDir letsencryptRoot certName) = some archive
  dir : t.node archive = some .dir
  files : ∀ name, isPrivkeyName name = true → t.node (archive ++ [name]) ≠ none →
    ∃ content, IsKey t archive name content
  liveKey : t.canonicalize cwd (privkeyLink letsencryptRoot certName) = some (archive ++ [live])
  liveFile : ∃ content, IsKey t archive live content
  liveChain : t.canonicalize cwd (acmeFullchainPath (acmeLiveDir letsencryptRoot certName)) = some chain
  chainFile : ∃ content, t.node chain = some (.file content)

/-- A path that leads to a file, and that is not a link. -/
structure LeadsToFile (t : FileTree) (cwd : Location) (p : Path) (l : Location) : Prop where
  leads : t.canonicalize cwd p = some l
  file : ∃ content, t.node l = some (.file content)
  placed : ∀ t', t.Keeps t' → t'.place cwd p = some l

section Keys

variable {t : FileTree} {cwd archive chain : Location} {root : Path} {certName live : Str}

lemma leadsToFile_join {d : Location} {p : Path} {content : Bytes} (hcwd : t.InDirs cwd)
    (hd : t.canonicalize cwd p = some d) (hdir : t.node d = some .dir)
    (hfile : t.node (d ++ [name]) = some (.file content)) : LeadsToFile t cwd (p.join name) (d ++ [name]) where
  leads := walk_join hdir hfile hd
  file := ⟨content, hfile⟩
  placed _ hkeeps := place_join ((walk_keeps hkeeps hcwd hd).dir hdir)

variable (hcwd : t.InDirs cwd) (htree : AcmeTree t cwd root certName archive live chain)
include hcwd htree

lemma archived_leads {content : Bytes} (hkey : IsKey t archive name content) :
    LeadsToFile t cwd ((archiveDir root certName).join name) (archive ++ [name]) :=
  leadsToFile_join hcwd htree.archived htree.dir hkey.2

lemma target_leads : LeadsToFile t cwd (Path.ofLocation (archive ++ [live])) (archive ++ [live]) := by
  obtain ⟨content, hkey⟩ := htree.liveFile
  have hin : t.InDirs archive := by
    rcases walk_reached hcwd htree.archived with hin | ⟨_, _, _, _, _, hfile⟩
    · exact hin
    · rw [htree.dir] at hfile
      cases hfile
  have hjoin : Path.ofLocation (archive ++ [live]) = (Path.ofLocation archive).join live := by
    rw [Path.ofLocation, List.map_append]
    rfl
  rw [hjoin]
  exact leadsToFile_join hcwd (walk_ofLocation hin) htree.dir hkey.2

end Keys

/-! ## Shredding -/

variable {r : Except CeremonyError Unit}

section Shred

variable {w : CeremonyWorld} {t s s' : FileTree} {p : Path} {l : Location}

/-- What shredding does: nothing elsewhere, and to a file what the host makes of it, without an error only when nothing
is left. -/
structure Shredded (o : ShredOutcome) (l : Location) (s s' : FileTree) (r : Except CeremonyError Unit) : Prop where
  other : ∀ l', l' ≠ l → s'.node l' = s.node l'
  absent : s.node l = none → s'.node l = none
  left : ∀ content, s.node l = some (.file content) →
    s'.node l = (o.left content).map .file ∧ (r = .ok () ↔ o.left content = none)

lemma Shredded.cases {o : ShredOutcome} (h : Shredded o l s s' r)
    (hnow : s.node l = none ∨ ∃ content, s.node l = some (.file content)) :
    (s'.node l = none ∨ ∃ content, s'.node l = some (.file content)) ∧ (r = .ok () → s'.node l = none) := by
  rcases hnow with hnone | ⟨content, hfile⟩
  · exact ⟨Or.inl (h.absent hnone), fun _ => h.absent hnone⟩
  · obtain ⟨hleft, hok⟩ := h.left content hfile
    rw [hleft]
    refine ⟨?_, fun hr => by rw [hok.mp hr]; rfl⟩
    rcases o.left content with _ | left
    · exact Or.inl rfl
    · exact Or.inr ⟨left, rfl⟩

lemma ZeroOutcome.left_nil (o : ZeroOutcome) : o.left [] = [] := by
  cases o <;> simp [ZeroOutcome.left]

lemma shredded_of_file {o : ShredOutcome} {content : Bytes} (hfile : s.node l = some (.file content))
    (hother : ∀ l', l' ≠ l → s'.node l' = s.node l') (hleft : s'.node l = (o.left content).map .file)
    (hok : r = .ok () ↔ o.left content = none) : Shredded o l s s' r := by
  refine ⟨hother, ?_, ?_⟩
  · intro hnone
    rw [hfile] at hnone
    cases hnone
  · intro content' hfile'
    rw [hfile] at hfile'
    cases hfile'
    exact ⟨hleft, hok⟩

/-- The removal that ends a shredding, of a file that was overwritten or empty. -/
lemma shredded_remove {o : ShredOutcome} {content : Bytes} {z : FileTree} (hplace : z.place w.cwd p = some l)
    (hz : z.node l = some (.file (o.zero.left content))) (hother : ∀ l', l' ≠ l → z.node l' = s.node l')
    (hfile : s.node l = some (.file content)) (hdone : content = [] ∨ o.zero.result = .ok ())
    (h : Op.mapErr CeremonyError.io (removeFile w.cwd p o.remove) z = (r, s')) : Shredded o l s s' r := by
  have hne : l ≠ [] := by
    rintro rfl
    cases hfile
  rw [Op.mapErr, removeFile_eq hplace hz] at h
  split_ifs at h with hremove
  · obtain ⟨rfl, rfl⟩ := Prod.mk.inj h
    refine shredded_of_file hfile ?_ ?_ ?_
    · intro l' hl'
      rw [node_remove_other hl', hother l' hl']
    · simp [ShredOutcome.left, hdone, hremove, node_remove_self hne]
    · simp [ShredOutcome.left, hdone, hremove, mapErr]
  · obtain ⟨rfl, rfl⟩ := Prod.mk.inj h
    refine shredded_of_file hfile hother ?_ ?_
    · simp [ShredOutcome.left, hremove, hz]
    · simp [ShredOutcome.left, hremove, mapErr_eq_ok]

/-- **What shredding a key leaves.**  The path led to a file in `t`; since then files may have come and gone. -/
theorem shredPath_run (hcwd : t.InDirs w.cwd) (hp : LeadsToFile t w.cwd p l) (hkeeps : t.Keeps s)
    (hnow : s.node l = none ∨ ∃ content, s.node l = some (.file content))
    (h : shredPath w p s = (r, s')) : Shredded (w.shred p) l s s' r := by
  obtain ⟨content₀, hfile₀⟩ := hp.file
  have hstill := walk_keeps hkeeps hcwd hp.leads
  have hne : l ≠ [] := by
    rintro rfl
    cases hfile₀
  unfold shredPath at h
  rcases hnow with hnone | ⟨content, hfile⟩
  · rw [show s.canonicalize w.cwd p = none from hstill.gone _ hfile₀ hnone] at h
    obtain ⟨-, rfl⟩ := Prod.mk.inj h
    refine ⟨fun _ _ => rfl, fun _ => hnone, ?_⟩
    intro content hfile
    rw [hnone] at hfile
    cases hfile
  · rw [show s.canonicalize w.cwd p = some l from hstill.file _ hfile₀ _ hfile] at h
    simp only [hfile] at h
    split_ifs at h with hempty
    · subst hempty
      exact shredded_remove (hp.placed s hkeeps) (by rw [hfile, ZeroOutcome.left_nil]) (fun _ _ => rfl) hfile
        (Or.inl rfl) h
    · have hset : (s.set l (.file ((w.shred p).zero.left content))).node l = some (.file _) := node_set_self hne
      have hother : ∀ l', l' ≠ l → (s.set l (.file ((w.shred p).zero.left content))).node l' = s.node l' :=
        fun l' h => node_set_other h
      have hgrown : s.Grown (s.set l (.file ((w.shred p).zero.left content))) :=
        Grown.of_set (Or.inr ⟨_, hfile⟩) (by simp)
      split at h
      next e herr =>
        obtain ⟨rfl, rfl⟩ := Prod.mk.inj h
        refine shredded_of_file hfile hother (hset.trans ?_) ?_ <;> simp [ShredOutcome.left, hempty, herr]
      next hok =>
        exact shredded_remove (hp.placed _ (hkeeps.trans hgrown.toKeeps)) hset hother hfile (Or.inr hok) h

end Shred

/-! ## Before the keys are shredded -/

/-- Something was added to `t`, and what stands at the kept locations was not touched. -/
structure Spares (kept : Set Location) (t s : FileTree) : Prop where
  grown : t.Grown s
  same : ∀ l ∈ kept, s.node l = t.node l

/-- A path leads to a file with this content, which is none of the kept ones. -/
def Stored (kept : Set Location) (cwd : Location) (s : FileTree) (p : Path) (content : Bytes) : Prop :=
  ∃ l, s.canonicalize cwd p = some l ∧ s.node l = some (.file content) ∧ l ∉ kept

section Provision

variable {t s s' : FileTree} {kept : Set Location} {cwd : Location} {p q : Path} {content : Bytes}

lemma Spares.refl : Spares kept t t := ⟨Grown.refl t, fun _ _ => rfl⟩

lemma Spares.makeDirs (hkept : ∀ l ∈ kept, t.node l ≠ none) (h : Spares kept t s) (made : List Location) :
    Spares kept t (s.makeDirs made) := by
  obtain ⟨hgrown, hsame⟩ := makeDirs_spec s made
  refine ⟨h.grown.trans hgrown, ?_⟩
  intro l hl
  rw [hsame l (by rw [h.same l hl]; exact hkept l hl), h.same l hl]

lemma Stored.keeps (hcwd : s.InDirs cwd) (hkeeps : s.Keeps s')
    (hnode : ∀ l, s.canonicalize cwd p = some l → l ∉ kept → s.node l ≠ none → s'.node l = s.node l)
    (h : Stored kept cwd s p content) : Stored kept cwd s' p content := by
  obtain ⟨l, hl, hfile, haway⟩ := h
  have hfile' : s'.node l = some (.file content) := by
    rw [hnode l hl haway (by rw [hfile]; exact Option.some_ne_none _), hfile]
  exact ⟨l, (walk_keeps hkeeps hcwd hl).file _ hfile _ hfile', hfile', haway⟩

lemma Stored.makeDirs (hcwd : s.InDirs cwd) (h : Stored kept cwd s p content) (made : List Location) :
    Stored kept cwd (s.makeDirs made) p content := by
  obtain ⟨hgrown, hsame⟩ := makeDirs_spec s made
  exact h.keeps hcwd hgrown.toKeeps fun l _ _ hl => hsame l hl

lemma Stored.read (h : Stored kept cwd s p content) : s.read cwd p = .ok content := by
  obtain ⟨l, hl, hfile, -⟩ := h
  exact read_eq_ok.mpr ⟨l, hl, hfile⟩

/-- **A write away from the kept files** spares them, and without an error its content is stored. -/
theorem write_spares (hspares : Spares kept t s) (haway : ∀ l, s.walk true maxLinks cwd p = some l → l ∉ kept)
    {o : WriteOutcome} {r : Except Str Unit} (h : write cwd p content o s = (r, s')) :
    Spares kept t s' ∧ (r = .ok () → Stored kept cwd s' p content) ∧
      (s' = s ∨ ∃ l left, s.walk true maxLinks cwd p = some l ∧ s.Grown s' ∧ s' = s.set l (.file left)) := by
  rcases write_run h with ⟨rfl, herr⟩ | ⟨l, left, hl, hnode, rfl, hleft⟩
  · exact ⟨hspares, fun hok => absurd hok herr, Or.inl rfl⟩
  · have hgrown : s.Grown (s.set l (.file left)) := Grown.of_set hnode (by simp)
    have hne : l ≠ [] := by
      rintro rfl
      rcases hnode with hnode | ⟨_, hnode⟩ <;> cases hnode
    have hset : (s.set l (.file left)).node l = some (.file left) := node_set_self hne
    refine ⟨⟨hspares.grown.trans hgrown, ?_⟩, ?_, Or.inr ⟨l, left, hl, hgrown, rfl⟩⟩
    · intro l' hl'
      have hother : l' ≠ l := by
        rintro rfl
        exact haway _ hl hl'
      rw [node_set_other hother, hspares.same l' hl']
    · intro hok
      rw [← hleft hok]
      exact ⟨l, walk_created hgrown.toKeeps hset hl, hset, haway l hl⟩

lemma createParent_meets {P : FileTree → Prop} (hP : ∀ s made, P s → P (s.makeDirs made)) {p : Path}
    {o : MkdirOutcome} : Op.Meets P (createParent p o) (fun _ => P) P := by
  unfold createParent
  split_ifs
  · exact Op.Meets.pure fun _ hs => hs
  · refine Op.Meets.mapErr ?_
    intro s hs
    constructor
    · intro _ s' hrun
      obtain ⟨-, rfl⟩ := Prod.mk.inj hrun
      exact hP s _ hs
    · intro e s' hrun
      obtain ⟨-, rfl⟩ := Prod.mk.inj hrun
      exact hP s _ hs

end Provision

/-- The files that the ceremony must not write to: the keys and the live chain. -/
def keptFiles (t : FileTree) (archive chain : Location) : Set Location :=
  {l | l = chain ∨ ∃ name content, IsKey t archive name content ∧ l = archive ++ [name]}

/-- The two outputs lead to files of their own, whatever directories and files are added: not to a key, not to the live
chain, and not to one another. -/
structure OutputsApart (t : FileTree) (cwd : Location) (paths : TlsCeremonyPaths) (kept : Set Location) : Prop where
  sealed : ∀ t' l, t.Grown t' → t'.walk true maxLinks cwd paths.sealedKeyPath = some l → l ∉ kept
  cert : ∀ t' l, t.Grown t' → t'.walk true maxLinks cwd paths.certPath = some l → l ∉ kept
  apart : ∀ t' l, t.Grown t' → t'.walk true maxLinks cwd paths.sealedKeyPath = some l →
    t'.walk true maxLinks cwd paths.certPath ≠ some l

section Stages

variable {X : Crates} {C : SealCrates} {w : CeremonyWorld} {t : FileTree} {kept : Set Location}
  {paths : TlsCeremonyPaths} (hcwd : t.InDirs w.cwd) (hkept : ∀ l ∈ kept, t.node l ≠ none)
  (houts : OutputsApart t w.cwd paths kept)

include hcwd in
lemma read_spared {s : FileTree} {p : Path} {l : Location} {content : Bytes} (hs : Spares kept t s)
    (hl : t.canonicalize w.cwd p = some l) (hfile : t.node l = some (.file content)) (hmem : l ∈ kept) :
    s.read w.cwd p = .ok content := by
  have hfile' : s.node l = some (.file content) := (hs.same l hmem).trans hfile
  exact read_eq_ok.mpr ⟨l, (walk_keeps hs.grown.toKeeps hcwd hl).file _ hfile _ hfile', hfile'⟩

include hcwd houts in
lemma sealTlsKeyFile_meets {S : CvmSealer} {p : Path} {l : Location} {key : Bytes}
    (hl : t.canonicalize w.cwd p = some l) (hfile : t.node l = some (.file key)) (hmem : l ∈ kept) :
    Op.Meets (Spares kept t) (sealTlsKeyFile X C w S p paths.sealedKeyPath)
      (fun blob s => (Spares kept t s ∧ Stored kept w.cwd s paths.sealedKeyPath (blobFile C blob)) ∧
        S.sealTlsKey X C w.guest key none w.nonce = .ok blob) (Spares kept t) := by
  unfold sealTlsKeyFile
  refine Op.Meets.lift_bind (fun _ hs => hs) fun _ _ => ?_
  refine Op.Meets.get.bind fun now => ?_
  refine Op.Meets.lift_bind (fun _ hs => hs.2) fun read hread => ?_
  refine Op.Meets.lift_bind (fun _ hs => hs.2) fun blob hseal => ?_
  refine (Op.Meets.mapErr (Q := fun _ s =>
    (Spares kept t s ∧ Stored kept w.cwd s paths.sealedKeyPath (blobFile C blob)) ∧
    S.sealTlsKey X C w.guest key none w.nonce = .ok blob) ?_).bind fun _ => Op.Meets.pure fun _ hs => hs
  rintro s ⟨rfl, hs⟩
  -- the octets that were read are the key
  have hkey := read_spared hcwd hs hl hfile hmem
  obtain rfl : read = key := Except.ok.inj ((mapErr_eq_ok.mp hread).symm.trans hkey)
  constructor
  · intro _ s' hrun
    obtain ⟨hs', hstored, -⟩ := write_spares hs (fun l => houts.sealed now l hs.grown) hrun
    exact ⟨⟨hs', hstored rfl⟩, mapErr_eq_ok.mp hseal⟩
  · intro e s' hrun
    exact (write_spares hs (fun l => houts.sealed now l hs.grown) hrun).1

include hcwd hkept houts in
lemma installCertChain_meets {source : Path} {l : Location} {chain blobOctets : Bytes}
    (hl : t.canonicalize w.cwd source = some l) (hfile : t.node l = some (.file chain)) (hmem : l ∈ kept) :
    Op.Meets (fun s => Spares kept t s ∧ Stored kept w.cwd s paths.sealedKeyPath blobOctets)
      (installCertChain w source paths.certPath)
      (fun _ s => Spares kept t s ∧ Stored kept w.cwd s paths.sealedKeyPath blobOctets ∧
        Stored kept w.cwd s paths.certPath chain) (Spares kept t) := by
  have hdirs : ∀ s, Spares kept t s → s.InDirs w.cwd := fun s hs => hs.grown.inDirs hcwd
  unfold installCertChain
  refine Op.Meets.get.bind fun now => ?_
  refine (Op.Meets.lift (Q := fun _ s => Spares kept t s ∧ Stored kept w.cwd s paths.sealedKeyPath blobOctets)
    (fun _ _ _ hs => hs.2) fun _ hs => hs.2.1).bind fun _ => ?_
  refine ((createParent_meets ?_).error fun _ hs => hs.1).bind fun _ => ?_
  · rintro s made ⟨hs, hstored⟩
    exact ⟨hs.makeDirs hkept made, hstored.makeDirs (hdirs s hs) made⟩
  refine Op.Meets.get.bind fun now => ?_
  refine (Op.Meets.lift (Q := fun read s => (Spares kept t s ∧ Stored kept w.cwd s paths.sealedKeyPath blobOctets) ∧
    read = chain) ?_ fun _ hs => hs.2.1).bind fun read => ?_
  · rintro read s hread ⟨rfl, hs, hstored⟩
    have hchain := read_spared hcwd hs hl hfile hmem
    exact ⟨⟨hs, hstored⟩, Except.ok.inj ((mapErr_eq_ok.mp hread).symm.trans hchain)⟩
  refine (Op.Meets.mapErr (Q := fun _ s => Spares kept t s ∧ Stored kept w.cwd s paths.sealedKeyPath blobOctets ∧
    Stored kept w.cwd s paths.certPath chain) ?_).bind fun _ => Op.Meets.lift (fun _ _ _ hs => hs) fun _ hs => hs.1
  rintro s ⟨⟨hs, hstored⟩, rfl⟩
  constructor
  · intro _ s' hrun
    obtain ⟨hs', hcert, hwhere⟩ := write_spares hs (fun l => houts.cert s l hs.grown) hrun
    refine ⟨hs', ?_, hcert rfl⟩
    rcases hwhere with rfl | ⟨l', left, hl', hgrown, rfl⟩
    · exact hstored
    · refine hstored.keeps (hdirs s hs) hgrown.toKeeps ?_
      intro l'' hl'' _ _
      refine node_set_other ?_
      rintro rfl
      exact houts.apart s _ hs.grown (walk_create hl'') hl'
  · intro e s' hrun
    exact (write_spares hs (fun l => houts.cert s l hs.grown) hrun).1

end Stages

/-! ## The loop over the keys -/

section Loop

variable {X : Crates} {C : SealCrates} {w : CeremonyWorld} {t : FileTree} {archive chain : Location} {root : Path}
  {certName live : Str}

/-- The paths that are discovered: the link, the file it leads to, and the keys in the archive. -/
inductive Discovered (t : FileTree) (root : Path) (certName : Str) (archive : Location) (live : Str) : Path → Prop where
  | link : Discovered t root certName archive live (privkeyLink root certName)
  | target : Discovered t root certName archive live (Path.ofLocation (archive ++ [live]))
  | archived {name : Str} {content : Bytes} (h : IsKey t archive name content) :
      Discovered t root certName archive live ((archiveDir root certName).join name)

lemma archived_lt_link (root : Path) (certName name : Str) :
    (archiveDir root certName).join name < privkeyLink root certName := by
  have harchive : (archiveDir root certName).join name =
      root ++ .normal "archive" :: [.normal certName, .normal name] := by
    simp only [archiveDir, Path.join, List.append_assoc, List.cons_append, List.nil_append]
  have hlink : privkeyLink root certName =
      root ++ .normal "live" :: [.normal certName, .normal "privkey.pem"] := by
    simp only [privkeyLink, acmeLiveDir, Path.join, List.append_assoc, List.cons_append, List.nil_append]
  rw [harchive, hlink]
  exact Path.branch_lt (by decide)

/-- Since `base` only kept files have changed, and none came back. -/
structure Shrunk (kept : Set Location) (base s : FileTree) : Prop where
  keeps : base.Keeps s
  other : ∀ l, l ∉ kept → s.node l = base.node l
  absent : ∀ l, base.node l = none → s.node l = none

lemma Shrunk.refl (kept : Set Location) (base : FileTree) : Shrunk kept base base :=
  ⟨Keeps.refl base, fun _ _ => rfl, fun _ h => h⟩

lemma Shrunk.shred {kept : Set Location} {base s s' : FileTree} {o : ShredOutcome} {l : Location}
    {r : Except CeremonyError Unit} (h : Shrunk kept base s) (hl : l ∈ kept)
    (hnow : s.node l = none ∨ ∃ content, s.node l = some (.file content)) (hshred : Shredded o l s s' r) :
    Shrunk kept base s' := by
  refine ⟨h.keeps.trans (Keeps.of_change hshred.other ?_ ?_), ?_, ?_⟩
  · rcases hnow with hnow | ⟨_, hnow⟩ <;> rw [hnow] <;> simp
  · rcases hnow with hnow | ⟨_, hnow⟩ <;> rw [hnow] <;> simp
  · intro l' hl'
    have hne : l' ≠ l := by
      rintro rfl
      exact hl' hl
    rw [hshred.other l' hne, h.other l' hl']
  · intro l' hl'
    have hnone := h.absent l' hl'
    by_cases hsame : l' = l
    · subst hsame
      exact hshred.absent hnone
    · rw [hshred.other l' hsame, hnone]

/-- What holds while the keys are shredded, from `base` on: `rest` is what is left of the list. -/
structure Shredding (t : FileTree) (root : Path) (certName : Str) (archive : Location) (live : Str)
    (kept : Set Location) (base : FileTree) (rest : List Path) (s : FileTree) : Prop where
  shrunk : Shrunk kept base s
  ascends : Ascends id rest
  discovered : ∀ p ∈ rest, Discovered t root certName archive live p
  keys : ∀ name content, IsKey t archive name content →
    s.node (archive ++ [name]) = none ∨ ∃ content', s.node (archive ++ [name]) = some (.file content')
  gone : ∀ name content, IsKey t archive name content →
    (archiveDir root certName).join name ∈ rest ∨ s.node (archive ++ [name]) = none

section Steps

variable {base s : FileTree} {kept : Set Location} {rest : List Path} {p : Path} (hcwd : t.InDirs w.cwd)
  (htree : AcmeTree t w.cwd root certName archive live chain) (hbase : t.Keeps base)
  (hkept : ∀ name content, IsKey t archive name content → archive ++ [name] ∈ kept)
include hcwd htree hbase

/-- By its turn the link leads nowhere, since the key it led to came before it. -/
lemma link_dangles (h : Shredding t root certName archive live kept base (privkeyLink root certName :: rest) s) :
    s.canonicalize w.cwd (privkeyLink root certName) = none := by
  obtain ⟨content, hkey⟩ := htree.liveFile
  have hgone : s.node (archive ++ [live]) = none := by
    rcases h.gone live content hkey with hmem | hgone
    · have hlt := archived_lt_link root certName live
      rcases List.mem_cons.mp hmem with heq | hmem
      · exact absurd heq hlt.ne
      · exact absurd hlt (not_lt.mpr (le_of_lt ((List.pairwise_cons.mp h.ascends).1 _ hmem)))
    · exact hgone
  exact (walk_keeps (hbase.trans h.shrunk.keeps) hcwd htree.liveKey).gone _ hkey.2 hgone

include hkept

lemma shredding_step {content : Bytes} (hkey : IsKey t archive name content)
    (hp : LeadsToFile t w.cwd p (archive ++ [name]))
    (h : Shredding t root certName archive live kept base (p :: rest) s)
    {s' : FileTree} (hrun : shredPath w p s = (r, s')) :
    Shrunk kept base s' ∧ (r = .ok () → Shredding t root certName archive live kept base rest s') := by
  have hnow := h.keys name content hkey
  have hshred := shredPath_run hcwd hp (hbase.trans h.shrunk.keeps) hnow hrun
  obtain ⟨hfile, hgone⟩ := hshred.cases hnow
  have hshrunk := h.shrunk.shred (hkept name content hkey) hnow hshred
  refine ⟨hshrunk, ?_⟩
  intro hok
  refine ⟨hshrunk, (List.pairwise_cons.mp h.ascends).2,
    fun q hq => h.discovered q (List.mem_cons_of_mem p hq), ?_, ?_⟩
  · intro name' content' hkey'
    by_cases hsame : archive ++ [name'] = archive ++ [name]
    · rw [hsame]
      exact hfile
    · rw [hshred.other _ hsame]
      exact h.keys name' content' hkey'
  · intro name' content' hkey'
    by_cases hsame : archive ++ [name'] = archive ++ [name]
    · rw [hsame]
      exact Or.inr (hgone hok)
    · rw [hshred.other _ hsame]
      rcases h.gone name' content' hkey' with hmem | hgone
      · rcases List.mem_cons.mp hmem with heq | hmem
        · -- this path would lead to both keys
          have hleads := (archived_leads hcwd htree hkey').leads
          rw [heq, hp.leads] at hleads
          exact absurd (Option.some.inj hleads).symm hsame
        · exact Or.inl hmem
      · exact Or.inr hgone

/-- **The loop**: each step leaves all but the keys as it was, and the keys that were reached are gone. -/
theorem shredding_meets : Op.Meets (Shredding t root certName archive live kept base (p :: rest)) (shredPath w p)
    (fun _ => Shredding t root certName archive live kept base rest) (Shrunk kept base) := by
  intro s hs
  have hstep : ∀ r s', shredPath w p s = (r, s') →
      Shrunk kept base s' ∧ (r = .ok () → Shredding t root certName archive live kept base rest s') := by
    intro r s' hrun
    cases hs.discovered p List.mem_cons_self with
    | link =>
      rw [shredPath, link_dangles hcwd htree hbase hs] at hrun
      obtain ⟨-, rfl⟩ := Prod.mk.inj hrun
      refine ⟨hs.shrunk, fun _ => ⟨hs.shrunk, (List.pairwise_cons.mp hs.ascends).2,
        fun q hq => hs.discovered q (List.mem_cons_of_mem _ hq), hs.keys, ?_⟩⟩
      intro name content hkey
      rcases hs.gone name content hkey with hmem | hgone
      · exact Or.inl ((List.mem_cons.mp hmem).resolve_left (archived_lt_link root certName name).ne)
      · exact Or.inr hgone
    | target =>
      obtain ⟨content, hkey⟩ := htree.liveFile
      exact shredding_step hcwd htree hbase hkept hkey (target_leads hcwd htree) hs hrun
    | archived hkey => exact shredding_step hcwd htree hbase hkept hkey (archived_leads hcwd htree hkey) hs hrun
  exact ⟨fun _ s' hrun => (hstep _ s' hrun).2 rfl, fun e s' hrun => (hstep _ s' hrun).1⟩

/-- **What the loop leaves**: nothing but keys has changed, and without an error no key is left. -/
theorem shred_all {found : List Path} : Op.Meets (Shredding t root certName archive live kept base found)
    (found.forM (shredPath w))
    (fun _ s => Shrunk kept base s ∧ ∀ name content, IsKey t archive name content → s.node (archive ++ [name]) = none)
    (Shrunk kept base) := by
  have hloop : Op.Meets (Shredding t root certName archive live kept base found) (found.forM (shredPath w))
      (fun _ => Shredding t root certName archive live kept base []) (Shrunk kept base) :=
    Op.Meets.forM (fun _ _ => shredding_meets hcwd htree hbase hkept) found
  intro s hs
  obtain ⟨hok, herr⟩ := hloop s hs
  refine ⟨fun u s' hrun => ?_, herr⟩
  have hdone := hok u s' hrun
  refine ⟨hdone.shrunk, ?_⟩
  intro name content hkey
  exact (hdone.gone name content hkey).resolve_left List.not_mem_nil

lemma shred_shrunk {found : List Path} {s' : FileTree}
    (h : Shredding t root certName archive live kept base found s) (hrun : found.forM (shredPath w) s = (r, s')) :
    Shrunk kept base s' := by
  obtain ⟨hok, herr⟩ := shred_all hcwd htree hbase hkept s h
  rcases r with e | u
  · exact herr e s' hrun
  · exact (hok u s' hrun).1

/-- **What becomes of the key that the first path leads to**: the loop leaves it alone only by stopping there. -/
theorem shred_first {first : Path} {key : Bytes} {s' : FileTree} (hkey : IsKey t archive name key)
    (hfirst : LeadsToFile t w.cwd first (archive ++ [name]))
    (h : Shredding t root certName archive live kept base (first :: rest) base)
    (hnode : base.node (archive ++ [name]) = some (.file key))
    (hrun : (first :: rest).forM (shredPath w) base = (r, s')) :
    if (w.shred first).left key = some key then r ≠ .ok () ∧ ∀ l, s'.node l = base.node l
    else s'.node (archive ++ [name]) ≠ some (.file key) := by
  rw [List.forM_eq_forM, List.forM_cons, Op.bind_run] at hrun
  rcases hstep : shredPath w first base with ⟨r₁, s₁⟩
  have hshred := shredPath_run hcwd hfirst hbase (Or.inr ⟨key, hnode⟩) hstep
  obtain ⟨hleft, hok⟩ := hshred.left key hnode
  rw [hstep] at hrun
  rcases r₁ with e | u
  · obtain ⟨rfl, rfl⟩ := Prod.mk.inj hrun
    split_ifs with hspared
    · refine ⟨nofun, ?_⟩
      intro l
      by_cases hsame : l = archive ++ [name]
      · rw [hsame, hleft, hspared, hnode]
        rfl
      · exact hshred.other l hsame
    · rw [hleft]
      intro heq
      obtain ⟨content, hcontent, hfile⟩ := Option.map_eq_some_iff.mp heq
      exact hspared (hcontent.trans (congrArg some (Node.file.inj hfile)))
  · have hnone : (w.shred first).left key = none := hok.mp rfl
    rw [if_neg (by simp [hnone])]
    -- it is gone, and the rest of the loop does not bring it back
    have hrest := ((shredding_step hcwd htree hbase hkept hkey hfirst h hstep).2 rfl)
    have hnow : Shredding t root certName archive live kept s₁ rest s₁ :=
      { hrest with shrunk := Shrunk.refl kept s₁ }
    have hshrunk := shred_shrunk hcwd htree (hbase.trans hrest.shrunk.keeps) hkept hnow hrun
    rw [hshrunk.absent _ (by rw [hleft, hnone]; rfl)]
    exact nofun

end Steps

/-! ## What is discovered -/

/-- The canonical path of the live key sorts before the archived key with the least name, or that one has the content of
the live key. -/
def LiveFirst (t : FileTree) (root : Path) (certName : Str) (archive : Location) (live : Str) (liveKey : Bytes) :
    Prop :=
  ∀ name key, IsKey t archive name key → (∀ name' key', IsKey t archive name' key' → name ≤ name') →
    key = liveKey ∨ Path.ofLocation (archive ++ [live]) < (archiveDir root certName).join name

section Discover

variable {paths : List Path} (htree : AcmeTree t w.cwd root certName archive live chain)
include htree

lemma discover_ok (h : discoverAcmePrivkeyPaths w root certName t = .ok paths) :
    Ascends id paths ∧ (∀ p ∈ paths, Discovered t root certName archive live p) ∧
      (∀ name content, IsKey t archive name content → (archiveDir root certName).join name ∈ paths) ∧
      Path.ofLocation (archive ++ [live]) ∈ paths := by
  simp only [discoverAcmePrivkeyPaths, archivedKeys, htree.liveKey, htree.archived, htree.dir, if_true, okOr, ok_bind,
    bind_eq_ok, mapErr_eq_ok, pure_eq_ok] at h
  obtain ⟨archived, ⟨_, -, rfl⟩, rfl⟩ := h
  refine ⟨ascends_ascending _, ?_, ?_, ?_⟩
  · intro p hp
    rcases List.mem_cons.mp (mem_ascending.mp hp) with rfl | hp
    · exact .link
    rcases List.mem_append.mp hp with hp | hp
    · split_ifs at hp
      · rw [List.mem_singleton.mp hp]
        exact .target
      · cases hp
    · obtain ⟨name, hname, rfl⟩ := List.mem_map.mp hp
      obtain ⟨hmem, hprivkey⟩ := List.mem_filter.mp hname
      obtain ⟨content, hkey⟩ := htree.files name hprivkey (mem_names.mp hmem)
      exact .archived hkey
  · intro name content hkey
    refine mem_ascending.mpr (List.mem_cons_of_mem _ (List.mem_append_right _ ?_))
    refine List.mem_map_of_mem (List.mem_filter.mpr ⟨mem_names.mpr ?_, hkey.1⟩)
    rw [hkey.2]
    exact Option.some_ne_none _
  · by_cases hlink : Path.ofLocation (archive ++ [live]) = privkeyLink root certName
    · rw [hlink]
      exact mem_ascending.mpr List.mem_cons_self
    · refine mem_ascending.mpr (List.mem_cons_of_mem _ (List.mem_append_left _ ?_))
      rw [if_pos hlink]
      exact List.mem_singleton_self _

/-- **The first path** leads to a key; it is the live key, or one with its content, just when `LiveFirst` holds. -/
theorem first_leads (hcwd : t.InDirs w.cwd) {liveKey : Bytes} (hlive : IsKey t archive live liveKey)
    (h : discoverAcmePrivkeyPaths w root certName t = .ok paths) {first : Path} (hfirst : paths.head? = some first) :
    ∃ name key, IsKey t archive name key ∧ LeadsToFile t w.cwd first (archive ++ [name]) ∧
      (key = liveKey ↔ LiveFirst t root certName archive live liveKey) := by
  obtain ⟨hascends, hdiscovered, hkeys, htarget⟩ := discover_ok htree h
  have hmem : first ∈ paths := List.mem_of_mem_head? hfirst
  have hleast : ∀ p ∈ paths, first ≤ p := by
    intro p hp
    obtain ⟨rest, rfl⟩ := List.head?_eq_some_iff.mp hfirst
    rcases List.mem_cons.mp hp with rfl | hp
    · exact le_refl _
    · exact le_of_lt ((List.pairwise_cons.mp hascends).1 p hp)
  cases hdiscovered first hmem with
  | link => exact absurd (archived_lt_link root certName live) (not_lt.mpr (hleast _ (hkeys live liveKey hlive)))
  | target =>
    refine ⟨live, liveKey, hlive, target_leads hcwd htree, iff_of_true rfl ?_⟩
    intro name key hkey _
    rcases eq_or_lt_of_le (hleast _ (hkeys name key hkey)) with heq | hlt
    · -- one path, so one key
      have hleads := (archived_leads hcwd htree hkey).leads
      rw [← heq, (target_leads hcwd htree).leads] at hleads
      obtain rfl : live = name := by simpa using hleads
      exact Or.inl (hkey.content_eq hlive)
    · exact Or.inr hlt
  | @archived name key hkey =>
    have hname : ∀ name' key', IsKey t archive name' key' → name ≤ name' := fun name' key' hkey' =>
      Path.name_le_of_join_le (hleast _ (hkeys name' key' hkey'))
    refine ⟨name, key, hkey, archived_leads hcwd htree hkey, ?_, ?_⟩
    · rintro rfl name' key' hkey' hleast'
      obtain rfl : name = name' := le_antisymm (hname name' key' hkey') (hleast' name _ hkey)
      exact Or.inl (hkey'.content_eq hkey)
    · intro hfirstLive
      exact (hfirstLive name key hkey hname).resolve_right (not_lt.mpr (hleast _ htarget))

end Discover

end Loop

/-! ## The whole ceremony -/

/-- The key is sealed and the chain is installed, at the paths of the configuration. -/
def Provisioned (X : Crates) (C : SealCrates) (w : CeremonyWorld) (paths : TlsCeremonyPaths) (key chainPem : Bytes)
    (s : FileTree) : Prop :=
  ∃ blob, CvmSealer.sealTlsKey X C w.guest ⟨paths.launchDigest, paths.imageDigest, true⟩ key none w.nonce = .ok blob ∧
    s.read w.cwd paths.sealedKeyPath = .ok (blobFile C blob) ∧ s.read w.cwd paths.certPath = .ok chainPem

section Whole

variable {X : Crates} {C : SealCrates} {w : CeremonyWorld} {t : FileTree} {archive chain : Location} {root : Path}
  {certName live : Str} {paths : TlsCeremonyPaths} {chainPem : Bytes}

lemma key_mem_kept {content : Bytes} (hkey : IsKey t archive name content) :
    archive ++ [name] ∈ keptFiles t archive chain := Or.inr ⟨name, content, hkey, rfl⟩

lemma kept_ne_none (hchain : t.node chain = some (.file chainPem)) :
    ∀ l ∈ keptFiles t archive chain, t.node l ≠ none := by
  rintro l (rfl | ⟨name, content, hkey, rfl⟩)
  · rw [hchain]
    exact Option.some_ne_none _
  · rw [hkey.2]
    exact Option.some_ne_none _

lemma Spares.isKey {s : FileTree} {content : Bytes} (h : Spares (keptFiles t archive chain) t s)
    (hkey : IsKey t archive name content) : IsKey s archive name content :=
  ⟨hkey.1, (h.same _ (key_mem_kept hkey)).trans hkey.2⟩

lemma shredding_init {found : List Path} {base : FileTree}
    (htree : AcmeTree t w.cwd root certName archive live chain)
    (hfound : discoverAcmePrivkeyPaths w root certName t = .ok found) (h : Spares (keptFiles t archive chain) t base) :
    Shredding t root certName archive live (keptFiles t archive chain) base found base := by
  obtain ⟨hascends, hdiscovered, hkeys, -⟩ := discover_ok htree hfound
  refine ⟨Shrunk.refl _ base, hascends, hdiscovered, ?_, fun name content hkey => Or.inl (hkeys name content hkey)⟩
  intro name content hkey
  exact Or.inr ⟨content, (h.isKey hkey).2⟩

/-- Before the shredding: the key that the first path leads to is sealed and the live chain is installed. -/
structure Installed (X : Crates) (C : SealCrates) (w : CeremonyWorld) (paths : TlsCeremonyPaths)
    (kept : Set Location) (t : FileTree) (key chainPem : Bytes) (base : FileTree) : Prop where
  spares : Spares kept t base
  stored : ∃ blob,
    CvmSealer.sealTlsKey X C w.guest ⟨paths.launchDigest, paths.imageDigest, true⟩ key none w.nonce = .ok blob ∧
      Stored kept w.cwd base paths.sealedKeyPath (blobFile C blob)
  cert : Stored kept w.cwd base paths.certPath chainPem

lemma Installed.provisioned {kept : Set Location} {key : Bytes} {base s : FileTree} (hcwd : t.InDirs w.cwd)
    (h : Installed X C w paths kept t key chainPem base) (hshrunk : Shrunk kept base s) :
    Provisioned X C w paths key chainPem s := by
  have hdirs := h.spares.grown.inDirs hcwd
  obtain ⟨blob, hseal, hsealed⟩ := h.stored
  exact ⟨blob, hseal, (hsealed.keeps hdirs hshrunk.keeps fun l _ hl _ => hshrunk.other l hl).read,
    (h.cert.keeps hdirs hshrunk.keeps fun l _ hl _ => hshrunk.other l hl).read⟩

variable (hcwd : t.InDirs w.cwd) (htree : AcmeTree t w.cwd root certName archive live chain) {liveKey : Bytes}
  (hlive : IsKey t archive live liveKey) (hchain : t.node chain = some (.file chainPem))
  (houts : OutputsApart t w.cwd paths (keptFiles t archive chain))
include hcwd htree hlive hchain houts

/-- The steps before the shredding: with an error every key is as it was. -/
lemma sealAndInstall_meets :
    Op.Meets (fun s => s = t) (sealAndInstall X C w paths (acmeLiveDir root certName) root certName)
      (fun found base => discoverAcmePrivkeyPaths w root certName t = .ok found ∧ ∃ first name key,
        found.head? = some first ∧ IsKey t archive name key ∧ LeadsToFile t w.cwd first (archive ++ [name]) ∧
          (key = liveKey ↔ LiveFirst t root certName archive live liveKey) ∧
          Installed X C w paths (keptFiles t archive chain) t key chainPem base)
      (Spares (keptFiles t archive chain) t) := by
  have hthere : ∀ l ∈ keptFiles t archive chain, t.node l ≠ none := kept_ne_none hchain
  have hstart : ∀ s, s = t → Spares (keptFiles t archive chain) t s := by
    rintro s rfl
    exact Spares.refl
  unfold sealAndInstall
  refine Op.Meets.lift_bind hstart fun _ _ => ?_
  refine Op.Meets.lift_bind hstart fun _ _ => ?_
  refine Op.Meets.read_bind (Op.Fixes.get id) hstart fun now s hs hget => ?_
  obtain rfl : s = now := Except.ok.inj (Prod.mk.inj hget).1
  obtain rfl : t = s := hs.symm
  refine Op.Meets.lift_bind hstart fun found hfound => ?_
  refine Op.Meets.lift_bind hstart fun first hprimary => ?_
  have hfirst : found.head? = some first := okOr_eq_ok.mp hprimary
  obtain ⟨name, key, hkey, hleads, hiff⟩ := first_leads htree hcwd hlive hfound hfirst
  refine Op.Meets.before ?_ hstart
  refine (createParent_meets fun s made hs => hs.makeDirs hthere made).bind fun _ => ?_
  refine (sealTlsKeyFile_meets hcwd houts hleads.leads hkey.2 (key_mem_kept hkey)).mapErr.bind
    fun blob => Op.Meets.knowing fun hseal => ?_
  refine (installCertChain_meets hcwd hthere houts htree.liveChain hchain (Or.inl rfl)).bind fun _ => ?_
  refine Op.Meets.pure ?_
  rintro base ⟨hbase, hsealed, hcert⟩
  exact ⟨hfound, first, name, key, hfirst, hkey, hleads, hiff, hbase, ⟨blob, hseal, hsealed⟩, hcert⟩

/-- **How the ceremony ends.**  It stops before the shredding and every key is as it was; or a key of the archive is
sealed with the live chain, and that key stands unchanged at the end only when its shredding left it so. -/
theorem ceremony_ends {s : FileTree}
    (hrun : sealFromAcmeLive X C w paths (acmeLiveDir root certName) root certName t = (r, s)) :
    (r ≠ .ok () ∧ (∀ found base, sealAndInstall X C w paths (acmeLiveDir root certName) root certName t ≠
      (.ok found, base)) ∧ ∀ name content, IsKey t archive name content → IsKey s archive name content) ∨
    ∃ found base first name key,
      sealAndInstall X C w paths (acmeLiveDir root certName) root certName t = (.ok found, base) ∧
      found.head? = some first ∧ IsKey t archive name key ∧ t.canonicalize w.cwd first = some (archive ++ [name]) ∧
      (key = liveKey ↔ LiveFirst t root certName archive live liveKey) ∧ Provisioned X C w paths key chainPem s ∧
      (r = .ok () → ∀ name content, IsKey t archive name content → s.node (archive ++ [name]) = none) ∧
      if (w.shred first).left key = some key then
        r ≠ .ok () ∧ ∀ name content, IsKey t archive name content → IsKey s archive name content
      else ¬ IsKey s archive name key := by
  have hmeets := sealAndInstall_meets (X := X) (C := C) hcwd htree hlive hchain houts t rfl
  rw [sealFromAcmeLive, Op.bind_run] at hrun
  rcases hstage : sealAndInstall X C w paths (acmeLiveDir root certName) root certName t with ⟨e | found, base⟩
  · rw [hstage] at hrun
    obtain ⟨rfl, rfl⟩ := Prod.mk.inj hrun
    exact Or.inl ⟨nofun, nofun, fun _ _ => (hmeets.2 e base hstage).isKey⟩
  · rw [hstage] at hrun
    obtain ⟨hfound, first, name, key, hfirst, hkey, hleads, hiff, hinstalled⟩ := hmeets.1 found base hstage
    have hbase := hinstalled.spares.grown.toKeeps
    have hinit := shredding_init htree hfound hinstalled.spares
    have hshrunk := shred_shrunk hcwd htree hbase (fun _ _ => key_mem_kept) hinit hrun
    refine Or.inr ⟨found, base, first, name, key, rfl, hfirst, hkey, hleads.leads, hiff,
      hinstalled.provisioned hcwd hshrunk, ?_, ?_⟩
    · rintro rfl
      exact ((shred_all hcwd htree hbase (fun _ _ => key_mem_kept) base hinit).1 () s hrun).2
    · obtain ⟨rest, rfl⟩ := List.head?_eq_some_iff.mp hfirst
      have hnode := (hinstalled.spares.isKey hkey).2
      have hloop := shred_first hcwd htree hbase (fun _ _ => key_mem_kept) hkey hleads hinit hnode hrun
      split_ifs at hloop ⊢ with hspared
      · refine ⟨hloop.1, ?_⟩
        intro name' content hkey'
        exact ⟨hkey'.1, (hloop.2 _).trans (hinstalled.spares.isKey hkey').2⟩
      · exact fun h => hloop h.2

end Whole

/-- Two keys are not sealed into one file. -/
def SealsApart (X : Crates) (C : SealCrates) (guest : Guest) (S : CvmSealer) (nonce : Octets 12) : Prop :=
  ∀ key key' blob blob', S.sealTlsKey X C guest key none nonce = .ok blob →
    S.sealTlsKey X C guest key' none nonce = .ok blob' → blobFile C blob = blobFile C blob' → key = key'

/-- **The ceremony seals the live key** just when the first key in the order of the paths has its content, or the
ceremony stops with an error before that key is changed.  Otherwise a run without an error seals another key, or a run
with one has changed a key without the live one sealed. -/
theorem ceremony_seals_live_iff {X : Crates} {C : SealCrates} {w : CeremonyWorld} {t : FileTree}
    {archive chain : Location} {root : Path} {certName live : Str} {paths : TlsCeremonyPaths} {liveKey chainPem : Bytes}
    (hcwd : t.InDirs w.cwd) (htree : AcmeTree t w.cwd root certName archive live chain)
    (hlive : IsKey t archive live liveKey) (hchain : t.node chain = some (.file chainPem))
    (houts : OutputsApart t w.cwd paths (keptFiles t archive chain))
    (hapart : SealsApart X C w.guest ⟨paths.launchDigest, paths.imageDigest, true⟩ w.nonce) :
    ((∀ s, sealFromAcmeLive X C w paths (acmeLiveDir root certName) root certName t = (.ok (), s) →
        Provisioned X C w paths liveKey chainPem s ∧
          ∀ name content, IsKey t archive name content → s.node (archive ++ [name]) = none) ∧
      ∀ e s, sealFromAcmeLive X C w paths (acmeLiveDir root certName) root certName t = (.error e, s) →
        (∀ name content, IsKey t archive name content → IsKey s archive name content) ∨
          Provisioned X C w paths liveKey chainPem s) ↔
    LiveFirst t root certName archive live liveKey ∨
      ∀ found base, sealAndInstall X C w paths (acmeLiveDir root certName) root certName t = (.ok found, base) →
        ∃ first name key, found.head? = some first ∧ t.canonicalize w.cwd first = some (archive ++ [name]) ∧
          IsKey t archive name key ∧ (w.shred first).left key = some key := by
  rcases hrun : sealFromAcmeLive X C w paths (acmeLiveDir root certName) root certName t with ⟨r, s⟩
  simp only [Prod.mk.injEq]
  rcases ceremony_ends hcwd htree hlive hchain houts hrun with ⟨hr, hstage, hkept⟩ |
    ⟨found, base, first, name, key, hstage, hfirst, hkey, hleads, hiff, hprov, hgone, hends⟩
  · refine iff_of_true ⟨fun s' h => absurd h.1 hr, ?_⟩ (Or.inr fun found base h => absurd h (hstage found base))
    rintro e s' ⟨-, rfl⟩
    exact Or.inl hkept
  constructor
  · rintro ⟨hok, herr⟩
    by_cases hspared : (w.shred first).left key = some key
    · refine Or.inr fun found' base' h => ?_
      obtain ⟨rfl, -⟩ : found = found' ∧ base = base' := by simpa using hstage.symm.trans h
      exact ⟨first, name, key, hfirst, hleads, hkey, hspared⟩
    · rw [if_neg hspared] at hends
      -- the first key was changed, so the live one is sealed, and so is the first
      have hsealed : Provisioned X C w paths liveKey chainPem s := by
        rcases r with e | u
        · exact (herr e s ⟨rfl, rfl⟩).resolve_left fun hkept => hends (hkept name key hkey)
        · exact (hok s ⟨rfl, rfl⟩).1
      obtain ⟨blob, hseal, hread, -⟩ := hprov
      obtain ⟨blob', hseal', hread', -⟩ := hsealed
      exact Or.inl (hiff.mp (hapart _ _ _ _ hseal hseal' (Except.ok.inj (hread.symm.trans hread'))))
  · intro hfits
    have hdone : (r ≠ .ok () ∧ ∀ name content, IsKey t archive name content → IsKey s archive name content) ∨
        key = liveKey := by
      rcases hfits with hlive | hspared
      · exact Or.inr (hiff.mpr hlive)
      · obtain ⟨first', name', key', hfirst', hleads', hkey', hspared⟩ := hspared found base hstage
        obtain rfl : first = first' := Option.some.inj (hfirst.symm.trans hfirst')
        obtain rfl : name = name' := by simpa using hleads.symm.trans hleads'
        obtain rfl : key = key' := hkey.content_eq hkey'
        rw [if_pos hspared] at hends
        exact Or.inl hends
    rcases hdone with ⟨hr, hkept⟩ | rfl
    · refine ⟨fun s' h => absurd h.1 hr, ?_⟩
      rintro e s' ⟨-, rfl⟩
      exact Or.inl hkept
    · refine ⟨?_, ?_⟩
      · rintro s' ⟨hr, rfl⟩
        exact ⟨hprov, hgone hr⟩
      · rintro e s' ⟨-, rfl⟩
        exact Or.inr hprov

/-! ## A certificate before and after its renewal -/

namespace Sample

def acmeRoot : Path := Path.ofLocation ["etc", "letsencrypt"]

def acmeArchive : Location := ["etc", "letsencrypt", "archive", "x"]

def acmeKey (number : Str) : Str := "privkey".toList ++ number ++ ".pem".toList

def acmeChain (number : Str) : Str := "fullchain".toList ++ number ++ ".pem".toList

def toArchive (name : Str) : Node := .link [.parentDir, .parentDir, .normal "archive", .normal "x", .normal name]

def acmeRest (number : Str) (chainPem : Bytes) : List (Location × Node) :=
  [(["etc"], .dir), (["etc", "letsencrypt"], .dir), (["etc", "letsencrypt", "archive"], .dir), (acmeArchive, .dir),
    (acmeArchive ++ [acmeChain number], .file chainPem), (["etc", "letsencrypt", "live"], .dir),
    (["etc", "letsencrypt", "live", "x"], .dir),
    (["etc", "letsencrypt", "live", "x", "privkey.pem"], toArchive (acmeKey number)),
    (["etc", "letsencrypt", "live", "x", "fullchain.pem"], toArchive (acmeChain number)), (["out"], .dir)]

def issued : FileTree := ⟨(acmeArchive ++ [acmeKey "1"], .file [1]) :: acmeRest "1" [4]⟩

def renewed : FileTree :=
  ⟨(acmeArchive ++ [acmeKey "1"], .file [1]) :: (acmeArchive ++ [acmeKey "2"], .file [2]) :: acmeRest "2" [3]⟩

lemma spKey_length : (List.replicate 32 (7 : UInt8)).length = 32 := rfl

def ceremonyWorld : CeremonyWorld where
  host := ⟨fun name => if name = "OPENAPI_PROFILE" then some "prod" else none, true, "/tmp", false⟩
  keyPolicy := .ok .keyCeremony
  guest := ⟨.ok "ld", fun _ => .ok ⟨List.replicate 32 7, spKey_length⟩⟩
  nonce := zeroNonce
  cwd := []
  readDir := .ok ()
  mkdirSealed := ⟨[], .ok ()⟩
  readKey := .ok ()
  writeSealed := .stored []
  mkdirCert := ⟨[], .ok ()⟩
  copyCert := .stored []
  chmodCert := .ok ()
  shred _ := ⟨.zeroed, .ok ()⟩

def firmware : SealCrates :=
  { SealCrates.clear with
    snpSeal := fun launchDigest imageDigest key _ amdSp _ =>
      .ok ⟨3, launchDigest, imageDigest, [], encodePadded false key, amdSp⟩
    snpUnseal := fun blob _ _ _ => okOr (decodePadded false blob.ciphertextB64) "bad ciphertext" }

def ceremonyPaths : TlsCeremonyPaths :=
  ⟨Path.ofLocation ["out", "tls.crt"], Path.ofLocation ["out", "key.json"], "ld", "id"⟩

def ceremonySealer : CvmSealer := ⟨"ld", "id", true⟩

def firmwareBlob (key : Bytes) : SealedTlsKeyBlob :=
  ⟨3, .launchDigest "ld" "id", [], encodePadded false key, none, some (.object [])⟩

def provisioned : FileTree :=
  ⟨(["out", "tls.crt"], .file [3]) :: (["out", "key.json"], .file (blobFile firmware (firmwareBlob [1]))) ::
    acmeRest "2" [3]⟩

end Sample

open Sample in
/-- After the renewal, the key of the first certificate is sealed and the chain of the second installed; both keys are
gone. -/
theorem oldest_key_sealed :
    renewed.read [] (privkeyLink acmeRoot "x") = .ok [2] ∧
    sealFromAcmeLive (CrateTables.crates {}) firmware ceremonyWorld ceremonyPaths (acmeLiveDir acmeRoot "x") acmeRoot
      "x" renewed = (.ok (), provisioned) ∧
    provisioned.read [] ceremonyPaths.sealedKeyPath = .ok (blobFile firmware (firmwareBlob [1])) ∧
    ceremonySealer.unsealTlsKey (CrateTables.crates {}) firmware ceremonyWorld.guest (firmwareBlob [1]) none = .ok [1] ∧
    provisioned.read [] ceremonyPaths.certPath = .ok [3] ∧
    provisioned.node (acmeArchive ++ [acmeKey "2"]) = none :=
  ⟨rfl, rfl, rfl, rfl, rfl, rfl⟩

namespace Sample

lemma issued_key (hname : isPrivkeyName name = true)
    (hnode : issued.node (acmeArchive ++ [name]) ≠ none) : name = acmeKey "1" := by
  have hmem : name ∈ [acmeKey "1", acmeChain "1"] := mem_names.mpr hnode
  simp only [List.mem_cons, List.not_mem_nil, or_false] at hmem
  rcases hmem with rfl | rfl
  · rfl
  · exact absurd hname (by decide)

lemma issued_acme : AcmeTree issued [] acmeRoot "x" acmeArchive (acmeKey "1") (acmeArchive ++ [acmeChain "1"]) where
  archived := rfl
  dir := rfl
  files := by
    intro name hname hnode
    rw [issued_key hname hnode]
    exact ⟨[1], rfl, rfl⟩
  liveKey := rfl
  liveFile := ⟨[1], rfl, rfl⟩
  liveChain := rfl
  chainFile := ⟨[4], rfl⟩

lemma issued_least (first : Str) (key : Bytes) (hkey : IsKey issued acmeArchive first key) : key = [1] := by
  have hnode : issued.node (acmeArchive ++ [first]) ≠ none := by
    rw [hkey.2]
    exact Option.some_ne_none _
  have hfirst := issued_key hkey.1 hnode
  subst hfirst
  exact hkey.content_eq ⟨rfl, rfl⟩

lemma firmware_apart :
    SealsApart (CrateTables.crates {}) firmware ceremonyWorld.guest ceremonySealer ceremonyWorld.nonce := by
  intro key key' blob blob' hblob hblob' hfile
  obtain rfl : firmwareBlob key = blob := Except.ok.inj hblob
  obtain rfl : firmwareBlob key' = blob' := Except.ok.inj hblob'
  have htree : blobTree (firmwareBlob key) = blobTree (firmwareBlob key') :=
    renderText_injective rfl rfl (utf8_injective hfile)
  have htext : encodePadded false key = encodePadded false key' := by
    simpa [blobTree, firmwareBlob, writtenMembers] using htree
  have hdecoded := congrArg (decodePadded false) htext
  rw [decodePadded_encodePadded, decodePadded_encodePadded] at hdecoded
  exact Option.some.inj hdecoded

lemma out_apart (name : Str) :
    ["out".toList] ++ [name] ∉ keptFiles issued acmeArchive (acmeArchive ++ [acmeChain "1"]) := by
  rintro (h | ⟨_, _, -, h⟩)
  · exact absurd (List.cons.inj h).1 (by decide)
  · exact absurd (List.cons.inj h).1 (by decide)

lemma out_leads {t' : FileTree} {l : Location} (hnew : issued.node (["out".toList] ++ [name]) = none)
    (hgrown : issued.Grown t') (h : t'.walk true maxLinks [] (Path.ofLocation (["out".toList] ++ [name])) = some l) :
    l = ["out".toList] ++ [name] := by
  have hin : issued.InDirs ["out".toList] := InDirs.concat InDirs.nil rfl
  refine walk_place hgrown hin ?_ h
  intro target hlink
  rw [hnew] at hlink
  cases hlink

lemma issued_outputs :
    OutputsApart issued [] ceremonyPaths (keptFiles issued acmeArchive (acmeArchive ++ [acmeChain "1"])) where
  sealed t' l hgrown h := by
    rw [out_leads rfl hgrown h]
    exact out_apart "key.json"
  cert t' l hgrown h := by
    rw [out_leads rfl hgrown h]
    exact out_apart "tls.crt"
  apart t' l hgrown h h' := by
    have heq := (out_leads rfl hgrown h).symm.trans (out_leads rfl hgrown h')
    exact absurd (List.cons.inj (List.cons.inj heq).2).1 (by decide)

end Sample

open Sample in
theorem ceremony_seals_live_iff_issued :
    (∀ s, sealFromAcmeLive (CrateTables.crates {}) firmware ceremonyWorld ceremonyPaths (acmeLiveDir acmeRoot "x")
        acmeRoot "x" issued = (.ok (), s) →
      Provisioned (CrateTables.crates {}) firmware ceremonyWorld ceremonyPaths [1] [4] s ∧
        ∀ name content, IsKey issued acmeArchive name content → s.node (acmeArchive ++ [name]) = none) ∧
    ∀ e s, sealFromAcmeLive (CrateTables.crates {}) firmware ceremonyWorld ceremonyPaths (acmeLiveDir acmeRoot "x")
        acmeRoot "x" issued = (.error e, s) →
      (∀ name content, IsKey issued acmeArchive name content → IsKey s acmeArchive name content) ∨
        Provisioned (CrateTables.crates {}) firmware ceremonyWorld ceremonyPaths [1] [4] s :=
  (ceremony_seals_live_iff InDirs.nil issued_acme ⟨rfl, rfl⟩ rfl issued_outputs firmware_apart).mpr
    (Or.inl fun first key hkey _ => Or.inl (issued_least first key hkey))

end TeechatOpenapi.Cvm
