import TeechatOpenapi.Cvm.SealSync
import TeechatOpenapi.Cvm.Tls

/-!
# Importing and exporting the TLS key (`openapi-platform-cvm/src/seal_sync.rs`)

An edge that starts asks a peer for the key and certificate the fleet serves with, seals the key and stores both.  An
edge that listens hands its own out.

The run of the seal-sync library against the peer, the creation of directories and the listening socket are inputs.
-/

namespace TeechatOpenapi.Cvm

open Lib Platform

/-! ## The import -/

/-- `attested_mtls_seal_sync::Error`, the variant the local sealer returns. -/
inductive LocalSealError where
  | seal (text : Str)

/-- The sealer, and where an import stores key and certificate. -/
structure CvmLocalSealer where
  sealer : CvmSealer
  sealedPath : Str
  certPath : Str

/-- How the calls of `seal_and_persist` to the file system go.  A path without a parent has no directory to create. -/
structure PersistOutcome where
  mkdirSealed : Except Str Unit
  writeSealed : WriteOutcome
  mkdirCert : Except Str Unit
  writeCert : WriteOutcome

section Import

variable (X : Crates) (C : SealCrates) (g : Guest)

/-- The second half of `seal_and_persist`: the certificate. -/
def CvmLocalSealer.persistCert (L : CvmLocalSealer) (o : PersistOutcome) : Option Bytes → Writes LocalSealError Unit
  | none => pure ()
  | some cert => do
    Writes.lift (mapErr (fun e => .seal ("mkdir cert: ".toList ++ e)) o.mkdirCert)
    Writes.mapErr (fun e => .seal ("write cert: ".toList ++ e)) (writeFile L.certPath cert o.writeCert)

def CvmLocalSealer.sealAndPersist (L : CvmLocalSealer) (nonce : Octets 12) (o : PersistOutcome) (keyPem : Bytes)
    (certPem : Option Bytes) : Writes LocalSealError Unit := do
  Writes.lift (mapErr (fun e => .seal ("mkdir sealed: ".toList ++ e)) o.mkdirSealed)
  Writes.mapErr (fun e => .seal e.display)
    (L.sealer.sealTlsKeyToFile X C g keyPem L.sealedPath none nonce o.writeSealed)
  L.persistCert o certPem

end Import

section ImportSpec

variable {X : Crates} {C : SealCrates} {g : Guest} {L : CvmLocalSealer} {o : PersistOutcome} {certPem : Option Bytes}

/-- The import stops before the sealed key is opened for writing. -/
def StopsBeforeWrite (o : PersistOutcome) (sealed : Except PlatformError SealedTlsKeyBlob) : Prop :=
  (∃ e, o.mkdirSealed = .error e) ∨ (∃ e, sealed = .error e) ∨ ∃ e, o.writeSealed = .refused e

/-- The calls that write the sealed key. -/
def sealedPuts (C : SealCrates) (L : CvmLocalSealer) (blob : SealedTlsKeyBlob) (o : PersistOutcome) :
    List (Str × Bytes) := (writeFile L.sealedPath (blobFile C blob) o.writeSealed).puts

/-- **How far an import comes**: it writes nothing; or it is cut short in the sealed key; or it goes on with the
certificate. -/
theorem sealAndPersist_cases (X : Crates) (C : SealCrates) (g : Guest) (L : CvmLocalSealer) (nonce : Octets 12)
    (o : PersistOutcome) (key : Bytes) (certPem : Option Bytes) :
    (StopsBeforeWrite o (L.sealer.sealTlsKey X C g key none nonce) ∧
        ∃ e, L.sealAndPersist X C g nonce o key certPem = ⟨[], .error e⟩) ∨
    ∃ blob, L.sealer.sealTlsKey X C g key none nonce = .ok blob ∧
      ¬ StopsBeforeWrite o (L.sealer.sealTlsKey X C g key none nonce) ∧ sealedPuts C L blob o ≠ [] ∧
      ((∃ seen e e', o.writeSealed = .cut seen e ∧
          L.sealAndPersist X C g nonce o key certPem = ⟨sealedPuts C L blob o, .error e'⟩) ∨
        ∃ seen, o.writeSealed = .stored seen ∧ L.sealAndPersist X C g nonce o key certPem =
          ⟨sealedPuts C L blob o ++ (L.persistCert o certPem).puts, (L.persistCert o certPem).result⟩) := by
  unfold CvmLocalSealer.sealAndPersist CvmSealer.sealTlsKeyToFile StopsBeforeWrite sealedPuts
  rcases hmk : o.mkdirSealed with e | u
  · exact Or.inl ⟨Or.inl ⟨e, rfl⟩, _, Writes.lift_bind⟩
  · rcases hseal : L.sealer.sealTlsKey X C g key none nonce with e | blob
    · exact Or.inl ⟨Or.inr (Or.inl ⟨e, rfl⟩), _, Writes.lift_bind⟩
    · rcases hw : o.writeSealed with seen | e | ⟨seen, e⟩
      · refine Or.inr ⟨blob, rfl, ?_, List.cons_ne_nil _ _, Or.inr ⟨seen, rfl, Writes.lift_bind⟩⟩
        rintro (⟨_, h⟩ | ⟨_, h⟩ | ⟨_, h⟩) <;> cases h
      · exact Or.inl ⟨Or.inr (Or.inr ⟨e, rfl⟩), _, Writes.lift_bind⟩
      · refine Or.inr ⟨blob, rfl, ?_, List.cons_ne_nil _ _, Or.inl ⟨seen, e, _, rfl, Writes.lift_bind⟩⟩
        rintro (⟨_, h⟩ | ⟨_, h⟩ | ⟨_, h⟩) <;> cases h

lemma mem_persistCert {p : Str × Bytes} (h : p ∈ (L.persistCert o certPem).puts) :
    p.1 = L.certPath ∧ ∃ cert, certPem = some cert ∧ p.2 <+: cert := by
  cases certPem with
  | none => cases h
  | some cert =>
    rcases hmk : o.mkdirCert with e | u
    · rw [CvmLocalSealer.persistCert, hmk] at h
      cases h
    · rw [CvmLocalSealer.persistCert, hmk] at h
      obtain ⟨hpath, hcontent⟩ := mem_writeFile h
      exact ⟨hpath, cert, rfl, hcontent⟩

lemma after_persistCert {d : Disk} {cert : Bytes} {u : Unit} (h : (L.persistCert o (some cert)).result = .ok u) :
    d.putAll (L.persistCert o (some cert)).puts L.certPath = some cert := by
  rcases hmk : o.mkdirCert with e | v
  · rw [CvmLocalSealer.persistCert, hmk] at h
    cases h
  · rw [CvmLocalSealer.persistCert, hmk] at h ⊢
    exact after_writeFile (mapErr_eq_ok.mp h)

/-- **What an import leaves.**  An import that returns without an error has stored the new pair.  One that returns an
error has left the disk as it was if it stopped before the sealed key was opened for writing; otherwise the old sealed
key is gone, and a beginning of the new one is in its place. -/
theorem import_pair (hpaths : L.sealedPath ≠ L.certPath) (d : Disk) (nonce : Octets 12) (o : PersistOutcome)
    (key : Bytes) (certPem : Option Bytes) :
    (∀ u cert, certPem = some cert → (L.sealAndPersist X C g nonce o key certPem).result = .ok u →
      ∃ blob, L.sealer.sealTlsKey X C g key none nonce = .ok blob ∧
        d.putAll (L.sealAndPersist X C g nonce o key certPem).puts L.sealedPath = some (blobFile C blob) ∧
        d.putAll (L.sealAndPersist X C g nonce o key certPem).puts L.certPath = some cert) ∧
    ∀ e, (L.sealAndPersist X C g nonce o key certPem).result = .error e →
      (StopsBeforeWrite o (L.sealer.sealTlsKey X C g key none nonce) →
        d.putAll (L.sealAndPersist X C g nonce o key certPem).puts = d) ∧
      (¬ StopsBeforeWrite o (L.sealer.sealTlsKey X C g key none nonce) →
        ∃ blob left, L.sealer.sealTlsKey X C g key none nonce = .ok blob ∧ left <+: blobFile C blob ∧
          d.putAll (L.sealAndPersist X C g nonce o key certPem).puts L.sealedPath = some left) := by
  have hcertOther : ∀ p ∈ (L.persistCert o certPem).puts, p.1 ≠ L.sealedPath := by
    intro p hp heq
    exact hpaths (heq.symm.trans (mem_persistCert hp).1)
  rcases sealAndPersist_cases X C g L nonce o key certPem with
    ⟨hstop, e, hrun⟩ | ⟨blob, hseal, hgo, hopen, ⟨seen, e, e', hw, hrun⟩ | ⟨seen, hw, hrun⟩⟩
  · rw [hrun]
    constructor
    · intro u cert _ h
      cases h
    · exact fun _ _ => ⟨fun _ => rfl, fun hgo => absurd hstop hgo⟩
  · rw [hrun]
    constructor
    · intro u cert _ h
      cases h
    · refine fun _ _ => ⟨fun hstop => absurd hstop hgo, fun _ => ?_⟩
      obtain ⟨left, hleft, hdisk⟩ := writeFile_leaves (d := d) hopen
      exact ⟨blob, left, hseal, hleft, hdisk⟩
  · have hstored : o.writeSealed.result = .ok () := by rw [hw]; rfl
    have hsealed : d.putAll (sealedPuts C L blob o ++ (L.persistCert o certPem).puts) L.sealedPath =
        some (blobFile C blob) := by
      rw [Disk.putAll_append, Disk.putAll_other hcertOther]
      exact after_writeFile hstored
    rw [hrun]
    refine ⟨?_, fun _ _ => ⟨fun hstop => absurd hstop hgo, fun _ => ⟨blob, _, hseal, List.prefix_rfl, hsealed⟩⟩⟩
    rintro u cert rfl hok
    refine ⟨blob, hseal, hsealed, ?_⟩
    rw [Disk.putAll_append]
    exact after_persistCert hok

end ImportSpec

/-! ### Two pairs -/

def labSealer : CvmSealer := ⟨"ld", "id", false⟩

def noFirmware : Guest where
  readAttestedLaunchDigest := .error (.attestation
    "no attested launch digest source (/dev/sev-guest or OPENAPI_ATTESTED_LAUNCH_DIGEST)")
  deriveAmdSpSealKey _ := .error (.seal "no /dev/sev-guest")

def labBlob (key : Bytes) : SealedTlsKeyBlob :=
  sealedBlob (CrateTables.crates {}) labSealer.sealingMeasurement zeroNonce
    (clearHeader (deriveSealKey SealCrates.clear (measurementBindingLabel labSealer.sealingMeasurement) none) zeroNonce
      (aadFor (measurementBindingLabel labSealer.sealingMeasurement)) ++ key)

def labFile (key : Bytes) : Bytes := blobFile SealCrates.clear (labBlob key)

def ownKey : Bytes := [1]

def peerKey : Bytes := [2]

def labTables : CrateTables where
  trees := [(labFile ownKey, blobTree (labBlob ownKey)), (labFile peerKey, blobTree (labBlob peerKey))]

lemma labSealer_seals (t : CrateTables) (key : Bytes) (hkey : key ≠ []) :
    labSealer.sealTlsKey t.crates SealCrates.clear noFirmware key none zeroNonce = .ok (labBlob key) :=
  sealTlsPrivateKey_of_encrypt (X := t.crates) hkey rfl

lemma labFile_ne : labFile ownKey ≠ labFile peerKey := by
  intro h
  have htree : blobTree (labBlob ownKey) = blobTree (labBlob peerKey) :=
    renderText_injective rfl rfl (utf8_injective h)
  have hcipher : (labBlob ownKey).ciphertextB64 = (labBlob peerKey).ciphertextB64 := by
    have hmembers := Json.object.inj htree
    simp only [writtenMembers, List.filterMap_cons, Option.map_some, List.cons.injEq, Prod.mk.injEq,
      Json.string.injEq, true_and] at hmembers
    exact hmembers.2.2.2.1
  have hdecoded := congrArg Base64.rfc4648.urlSafeNoPad hcipher
  rw [labBlob, labBlob] at hdecoded
  have hboth := (Base64.rfc4648_lawful.urlSafeNoPad_encode _).symm.trans
    (hdecoded.trans (Base64.rfc4648_lawful.urlSafeNoPad_encode _))
  have hkeys : ownKey = peerKey := List.append_cancel_left (Except.ok.inj hboth)
  exact absurd hkeys (by decide)

lemma labTables_own : labTables.crates.json.tree (labFile ownKey) = .ok (blobTree (labBlob ownKey)) :=
  CrateTables.tree_of_lookup List.lookup_cons_self

lemma labTables_peer : labTables.crates.json.tree (labFile peerKey) = .ok (blobTree (labBlob peerKey)) := by
  apply CrateTables.tree_of_lookup
  have hne : (labFile peerKey == labFile ownKey) = false := beq_eq_false_iff_ne.mpr labFile_ne.symm
  rw [labTables, List.lookup_cons, hne]
  exact List.lookup_cons_self

lemma lab_unseals {t : CrateTables} {key : Bytes} (hkey : key ≠ [])
    (htree : t.crates.json.tree (labFile key) = .ok (blobTree (labBlob key))) {d : Disk} {path : Str}
    (hfile : d path = some (labFile key)) :
    labSealer.unsealTlsKeyFromFile t.crates SealCrates.clear noFirmware d path none = .ok key :=
  unseal_sealed_file Base64.rfc4648_lawful SealCrates.clear_ideal.decrypt_encrypt rfl (labSealer_seals t key hkey) htree
    hfile

def labPaths : CvmLocalSealer := ⟨labSealer, "key.sealed.json", "tls.crt"⟩

def ownCert : Bytes := utf8 "certificate of the own key"

def renewedCert : Bytes := utf8 "another certificate of the own key"

def peerCert : Bytes := utf8 "certificate of the peer's key"

def ownDisk : Disk := Disk.putAll (fun _ => none) [("key.sealed.json", labFile ownKey), ("tls.crt", ownCert)]

def noRoomForCert : PersistOutcome where
  mkdirSealed := .ok ()
  writeSealed := .stored []
  mkdirCert := .ok ()
  writeCert := .refused "No space left on device (os error 28)"

def noDirectory : PersistOutcome := { noRoomForCert with mkdirSealed := .error "Permission denied (os error 13)" }

/-- An import that fails at the certificate leaves the peer's key with the edge's own certificate. -/
theorem failed_import_splits_pair :
    let run := labPaths.sealAndPersist labTables.crates SealCrates.clear noFirmware zeroNonce noRoomForCert peerKey
      (some peerCert)
    run.result = .error (.seal "write cert: No space left on device (os error 28)") ∧
    labSealer.unsealTlsKeyFromFile labTables.crates SealCrates.clear noFirmware ownDisk "key.sealed.json" none =
      .ok ownKey ∧ ownDisk "tls.crt" = some ownCert ∧
    labSealer.unsealTlsKeyFromFile labTables.crates SealCrates.clear noFirmware (ownDisk.putAll run.puts)
      "key.sealed.json" none = .ok peerKey ∧ ownDisk.putAll run.puts "tls.crt" = some ownCert := by
  have hseal := labSealer_seals labTables peerKey (List.cons_ne_nil _ _)
  have hrun : labPaths.sealAndPersist labTables.crates SealCrates.clear noFirmware zeroNonce noRoomForCert peerKey
      (some peerCert) = ⟨[("key.sealed.json", []), ("key.sealed.json", labFile peerKey)],
        .error (.seal "write cert: No space left on device (os error 28)")⟩ := by
    unfold CvmLocalSealer.sealAndPersist CvmSealer.sealTlsKeyToFile
    rw [show labPaths.sealer = labSealer from rfl, hseal]
    rfl
  rw [hrun]
  refine ⟨rfl, lab_unseals (List.cons_ne_nil _ _) labTables_own rfl, rfl,
    lab_unseals (List.cons_ne_nil _ _) labTables_peer rfl, rfl⟩

/-- An import that cannot create the directory leaves the own pair. -/
theorem import_pair_noDirectory :
    ∃ e, (labPaths.sealAndPersist labTables.crates SealCrates.clear noFirmware zeroNonce noDirectory peerKey
      (some peerCert)).result = .error e ∧
    ownDisk.putAll (labPaths.sealAndPersist labTables.crates SealCrates.clear noFirmware zeroNonce noDirectory peerKey
      (some peerCert)).puts = ownDisk := by
  have hpaths : labPaths.sealedPath ≠ labPaths.certPath := by decide
  refine ⟨_, rfl, ?_⟩
  refine ((import_pair hpaths ownDisk zeroNonce noDirectory peerKey (some peerCert)).2 _ rfl).1 ?_
  exact Or.inl ⟨_, rfl⟩

/-! ## Seal-sync at startup -/

/-- Where the TLS key of an image comes from. -/
inductive TlsKeyPolicy where
  | keyCeremony
  | sealSync
  deriving DecidableEq

/-- `SealSyncConfig` with what it says about the peer and the listener. -/
structure SealSyncSettings extends SealSyncConfig where
  listen : Option Str
  peer : Option Str
  challengeBaseUrl : Option Str

/-- The certificate that an edge serves with, and its measurement. -/
structure ServingIdentity where
  spkiSha256 : Str
  certSha256 : Str
  measurement : Str

/-- How the library's client ends: before anything is imported, because both sides serve with one key, or when the
pair of the peer is imported. -/
inductive PeerRun where
  | failed (error : Str)
  | alreadyAligned
  | migrated (keyPem : Bytes) (certPem : Option Bytes) (nonce : Octets 12) (persist : PersistOutcome)

/-- What one call of `maybe_start_seal_sync` finds outside: the profile (production or not), the measured key policy,
the identity the library reads off a certificate, the run against the peer, the listening socket, and the texts of the
library's errors. -/
structure SyncWorld where
  profile : Except Str Bool
  keyPolicy : Bool → Except Str TlsKeyPolicy
  identityFromCertPem : (pem measurement : Str) → Except Str ServingIdentity
  peerRun : PeerRun
  listener : Except Str Unit
  errorText : LocalSealError → Str

namespace SealSyncSettings

variable (cfg : SealSyncSettings)

def enabled : Bool := cfg.listen.isSome || cfg.peer.isSome

def validateForProfile (profile : Except Str Bool) : Except Str Unit :=
  if cfg.enabled then do
    if ← profile then
      failIf cfg.mockPsk.isSome ("OPENAPI_SEAL_SYNC_PSK is forbidden when OPENAPI_PROFILE=prod; ".toList ++
        "use hardware SNP attestation and OPENAPI_SEAL_SYNC_ALLOWLIST".toList)
      failIf (cfg.allowlist = []) ("OPENAPI_SEAL_SYNC_ALLOWLIST required when seal-sync enabled in prod" : Str)
  else .ok ()

def useSplitTrustGate : Bool := cfg.challengeBaseUrl.isSome && cfg.mockPsk.isNone

end SealSyncSettings

/-- What `maybe_start_seal_sync` knows before the import. -/
structure SyncSetup where
  measurement : Str
  certPem : Option Str
  identity : ServingIdentity

/-- What `spawn_seal_sync_server` serves with.  `key` is the one that `export_key` holds. -/
structure SealSyncServer where
  listen : Str
  servingCertPem : Str
  servingCertPath : Str
  identity : ServingIdentity
  attestor : EdgeSealSyncAttestor
  splitTrustGate : Bool
  challengeBaseUrl : Option Str
  key : Bytes

namespace SealSyncServer

def exportKey (server : SealSyncServer) : Except Str Bytes := .ok server.key

def exportCert (server : SealSyncServer) (d : Disk) : Except Str (Option Bytes) := do
  let pem ← d.read server.servingCertPath
  return some pem

end SealSyncServer

section Start

variable (X : Crates) (C : SealCrates) (g : Guest) (cfg : SealSyncSettings) (w : SyncWorld)

/-- The identity of an edge that has no certificate yet. -/
def placeholderIdentity (measurement : Str) : ServingIdentity :=
  ⟨List.replicate 64 '0', List.replicate 64 '0', measurement⟩

/-- `maybe_start_seal_sync` up to the import: the checks of the configuration, and the local identity. -/
def sealSyncSetup (launchDigest certPath : Str) (d : Disk) : Except Str SyncSetup := do
  cfg.validateForProfile w.profile
  let prod ← w.profile
  let keyPolicy ← w.keyPolicy prod
  failIf (keyPolicy = .keyCeremony ∧ cfg.peer.isSome)
    ("tls_key_policy=key_ceremony forbids OPENAPI_SEAL_SYNC_PEER (import); export listen only" : Str)
  let measurement := match g.readAttestedLaunchDigest with
    | .ok m => m
    | .error _ => toAsciiLowercase launchDigest
  let certPem := toOption (readToString d certPath)
  let identity ← match certPem with
    | some pem => w.identityFromCertPem pem measurement
    | none => .ok (placeholderIdentity measurement)
  return ⟨measurement, certPem, identity⟩

def runSealSyncClient (L : CvmLocalSealer) : PeerRun → Writes Str Unit
  | .failed error => Writes.lift (.error error)
  | .alreadyAligned => pure ()
  | .migrated keyPem certPem nonce persist =>
    Writes.mapErr w.errorText (L.sealAndPersist X C g nonce persist keyPem certPem)

/-- The import of `maybe_start_seal_sync`, when there is a peer. -/
def importFromPeer (L : CvmLocalSealer) : Writes Str Unit :=
  match cfg.peer with
  | some _ => runSealSyncClient X C g w L w.peerRun
  | none => pure ()

/-- The listener of `maybe_start_seal_sync`: only with a key in hand and a certificate. -/
def startListener (certPath : Str) (unsealedKeyPem : Option Bytes) (setup : SyncSetup) :
    Except Str (Option SealSyncServer) :=
  match cfg.listen, unsealedKeyPem, setup.certPem with
  | some listen, some keyPem, some certPem => do
    w.listener
    return some {
      listen := listen
      servingCertPem := certPem
      servingCertPath := certPath
      identity := setup.identity
      attestor := buildAttestor cfg.toSealSyncConfig setup.measurement
      splitTrustGate := cfg.useSplitTrustGate
      challengeBaseUrl := cfg.challengeBaseUrl
      key := keyPem }
  | _, _, _ => return none

def maybeStartSealSync (launchDigest certPath sealedPath : Str) (sealer : CvmSealer) (unsealedKeyPem : Option Bytes)
    (d : Disk) : Writes Str (Option SealSyncServer) :=
  if cfg.enabled then do
    let setup ← Writes.lift (sealSyncSetup g cfg w launchDigest certPath d)
    importFromPeer X C g cfg w ⟨sealer, sealedPath, certPath⟩
    Writes.lift (startListener cfg w certPath unsealedKeyPem setup)
  else pure none

end Start

section StartSpec

variable {X : Crates} {C : SealCrates} {g : Guest} {cfg : SealSyncSettings} {w : SyncWorld}
  {launchDigest certPath sealedPath : Str} {sealer : CvmSealer} {unsealedKeyPem : Option Bytes} {d : Disk}

lemma maybeStart_puts (X : Crates) (C : SealCrates) (g : Guest) (cfg : SealSyncSettings) (w : SyncWorld)
    (launchDigest certPath sealedPath : Str) (sealer : CvmSealer) (unsealedKeyPem : Option Bytes) (d : Disk) :
    (maybeStartSealSync X C g cfg w launchDigest certPath sealedPath sealer unsealedKeyPem d).puts = [] ∨
    (maybeStartSealSync X C g cfg w launchDigest certPath sealedPath sealer unsealedKeyPem d).puts =
      (importFromPeer X C g cfg w ⟨sealer, sealedPath, certPath⟩).puts := by
  unfold maybeStartSealSync
  by_cases hon : cfg.enabled
  · rw [if_pos hon, Writes.lift_bind]
    rcases sealSyncSetup g cfg w launchDigest certPath d with e | setup
    · exact Or.inl rfl
    · refine Or.inr ?_
      rcases himport : (importFromPeer X C g cfg w ⟨sealer, sealedPath, certPath⟩).result with e | u
      · dsimp only
        rw [Writes.bind_of_error himport]
      · dsimp only
        rw [Writes.bind_of_ok himport]
        exact List.append_nil _
  · rw [if_neg hon]
    exact Or.inl rfl

/-- What a call that starts a listener has done: it has imported, and the listener holds the key it was called with. -/
lemma maybeStart_server {server : SealSyncServer}
    (h : (maybeStartSealSync X C g cfg w launchDigest certPath sealedPath sealer unsealedKeyPem d).result =
      .ok (some server)) :
    unsealedKeyPem = some server.key ∧ server.servingCertPath = certPath ∧
    (maybeStartSealSync X C g cfg w launchDigest certPath sealedPath sealer unsealedKeyPem d).puts =
      (importFromPeer X C g cfg w ⟨sealer, sealedPath, certPath⟩).puts := by
  unfold maybeStartSealSync at h ⊢
  by_cases hon : cfg.enabled
  · rw [if_pos hon, Writes.lift_bind] at h ⊢
    generalize sealSyncSetup g cfg w launchDigest certPath d = found at h ⊢
    rcases found with e | setup
    · cases h
    · dsimp only at h ⊢
      obtain ⟨u, himport, hlisten⟩ := Writes.bind_result_eq_ok.mp h
      rw [Writes.bind_of_ok himport]
      refine and_assoc.mp ⟨?_, List.append_nil _⟩
      change startListener cfg w certPath unsealedKeyPem setup = .ok (some server) at hlisten
      unfold startListener at hlisten
      split at hlisten
      · obtain ⟨-, -, hserver⟩ := bind_eq_ok.mp hlisten
        obtain rfl := Option.some.inj (pure_eq_ok.mp hserver)
        exact ⟨rfl, rfl⟩
      · cases hlisten
  · rw [if_neg hon] at h
    cases h

end StartSpec

/-! ## Exports -/

/-- The public key of a private key, and the public key that a certificate is about; both are read off PEM texts. -/
structure KeyPairs where
  ofKey : Bytes → Option Bytes
  ofCert : Bytes → Option Bytes

/-- The certificate certifies the key. -/
def KeyPairs.Certifies (P : KeyPairs) (cert key : Bytes) : Prop := ∃ p, P.ofCert cert = some p ∧ P.ofKey key = some p

/-- A disk with a sealed key and the certificate of that key. -/
structure PairOnDisk (X : Crates) (C : SealCrates) (g : Guest) (P : KeyPairs) (L : CvmLocalSealer)
    (root : Option (Octets 32)) (d : Disk) (key cert : Bytes) : Prop where
  unsealed : L.sealer.unsealTlsKeyFromFile X C g d L.sealedPath root = .ok key
  stored : d L.certPath = some cert
  certified : P.Certifies cert key

lemma importFromPeer_kept {X : Crates} {C : SealCrates} {g : Guest} {cfg : SealSyncSettings} {w : SyncWorld}
    {L : CvmLocalSealer} (h : cfg.peer = none ∨ w.peerRun = .alreadyAligned) :
    (importFromPeer X C g cfg w L).puts = [] := by
  unfold importFromPeer
  rcases h with hpeer | haligned
  · rw [hpeer]
    rfl
  · rw [haligned]
    cases cfg.peer <;> rfl

/-- **What is exported.**  A listener that was started with the key on the disk, before an import that left another
matching pair: every later export hands out the key from before the import and the certificate from after it.  They
match exactly when both pairs have one public key, as they do when there is no peer and when both sides are aligned. -/
theorem export_pair_iff {X : Crates} {C : SealCrates} {g : Guest} (P : KeyPairs) {cfg : SealSyncSettings}
    {w : SyncWorld} {launchDigest : Str} {L : CvmLocalSealer} {root : Option (Octets 32)} {d after : Disk}
    {key cert key' cert' : Bytes} {server : SealSyncServer}
    (hbefore : PairOnDisk X C g P L root d key cert)
    (hstart : (maybeStartSealSync X C g cfg w launchDigest L.certPath L.sealedPath L.sealer (some key) d).result =
      .ok (some server))
    (hdisk : after =
      d.putAll (maybeStartSealSync X C g cfg w launchDigest L.certPath L.sealedPath L.sealer (some key) d).puts)
    (hafter : PairOnDisk X C g P L root after key' cert') :
    (∀ later : Disk, later L.certPath = after L.certPath →
      server.exportKey = .ok key ∧ server.exportCert later = .ok (some cert') ∧
      (P.Certifies cert' key ↔ P.ofKey key = P.ofKey key')) ∧
    (cfg.peer = none ∨ w.peerRun = .alreadyAligned → P.ofKey key = P.ofKey key') := by
  obtain ⟨hkey, hpath, hputs⟩ := maybeStart_server hstart
  constructor
  · intro later hlater
    refine ⟨?_, ?_, ?_⟩
    · rw [SealSyncServer.exportKey, ← Option.some.inj hkey]
    · rw [SealSyncServer.exportCert, hpath, Disk.read, hlater, hafter.stored]
      rfl
    · obtain ⟨p, hcert, hown⟩ := hafter.certified
      constructor
      · rintro ⟨q, hq, hkeyq⟩
        rw [hkeyq, ← hq, hcert, hown]
      · intro hsame
        exact ⟨p, hcert, hsame.trans hown⟩
  · intro hkept
    have hsame : after = d := by
      rw [hdisk, hputs, importFromPeer_kept hkept]
      rfl
    have hunsealed := hafter.unsealed
    rw [hsame, hbefore.unsealed] at hunsealed
    rw [Except.ok.inj hunsealed]

/-! ### A listener behind an import -/

def labPairs : KeyPairs where
  ofKey key := some key
  ofCert cert := if cert = peerCert then some peerKey else some ownKey

lemma labPairs_own : labPairs.ofCert ownCert = some ownKey := by
  have hne : ownCert ≠ peerCert := fun h => absurd (utf8_injective h) (by decide)
  simp only [labPairs, if_neg hne]

lemma labPairs_renewed : labPairs.ofCert renewedCert = some ownKey := by
  have hne : renewedCert ≠ peerCert := fun h => absurd (utf8_injective h) (by decide)
  simp only [labPairs, if_neg hne]

lemma labPairs_peer : labPairs.ofCert peerCert = some peerKey := by
  simp only [labPairs, if_pos]

def withPeer : SealSyncSettings where
  allowlist := []
  mockPsk := some "psk"
  listen := some "127.0.0.1:9443"
  peer := some "10.0.0.2:9443"
  challengeBaseUrl := none

def allStored : PersistOutcome := { noRoomForCert with writeCert := .stored [] }

/-- The peer hands over this key and certificate. -/
def migratingTo (key cert : Bytes) : SyncWorld where
  profile := .ok false
  keyPolicy _ := .ok .sealSync
  identityFromCertPem _ measurement := .ok (placeholderIdentity measurement)
  peerRun := .migrated key (some cert) zeroNonce allStored
  listener := .ok ()
  errorText e := match e with | .seal text => text

def migratingPuts (key cert : Bytes) : List (Str × Bytes) :=
  [("key.sealed.json", []), ("key.sealed.json", labFile key), ("tls.crt", []), ("tls.crt", cert)]

lemma labImport (t : CrateTables) {cfg : SealSyncSettings} {peer : Str} (hpeer : cfg.peer = some peer) {key : Bytes}
    (hkey : key ≠ []) (cert : Bytes) :
    importFromPeer t.crates SealCrates.clear noFirmware cfg (migratingTo key cert) labPaths =
      ⟨migratingPuts key cert, .ok ()⟩ := by
  have hseal := labSealer_seals t key hkey
  rw [importFromPeer, hpeer]
  change Writes.mapErr _ (CvmLocalSealer.sealAndPersist t.crates SealCrates.clear noFirmware
    ⟨labSealer, "key.sealed.json", "tls.crt"⟩ zeroNonce allStored key (some cert)) = _
  unfold CvmLocalSealer.sealAndPersist CvmSealer.sealTlsKeyToFile
  rw [hseal]
  rfl

def labSetup : SyncSetup := ⟨"ld", some "certificate of the own key".toList, placeholderIdentity "ld"⟩

def labServer : SealSyncServer where
  listen := "127.0.0.1:9443"
  servingCertPem := "certificate of the own key"
  servingCertPath := labPaths.certPath
  identity := placeholderIdentity "ld"
  attestor := buildAttestor withPeer.toSealSyncConfig "ld"
  splitTrustGate := false
  challengeBaseUrl := none
  key := ownKey

lemma ownDisk_cert : ownDisk labPaths.certPath = some (utf8 "certificate of the own key") := rfl

lemma ownDisk_certText : toOption (readToString ownDisk labPaths.certPath) =
    some "certificate of the own key".toList := toOption_eq_some.mpr (readToString_utf8 ownDisk_cert)

lemma labStart {key : Bytes} (hkey : key ≠ []) (cert : Bytes) :
    maybeStartSealSync labTables.crates SealCrates.clear noFirmware withPeer (migratingTo key cert) "ld"
      labPaths.certPath labPaths.sealedPath labPaths.sealer (some ownKey) ownDisk =
        ⟨migratingPuts key cert, .ok (some labServer)⟩ := by
  have hsetup : sealSyncSetup noFirmware withPeer (migratingTo key cert) "ld" labPaths.certPath ownDisk =
      .ok labSetup := by
    unfold sealSyncSetup
    dsimp only
    rw [ownDisk_certText]
    rfl
  have hlisten : startListener withPeer (migratingTo key cert) labPaths.certPath (some ownKey) labSetup =
      .ok (some labServer) := rfl
  have himport : importFromPeer labTables.crates SealCrates.clear noFirmware withPeer (migratingTo key cert)
      ⟨labPaths.sealer, labPaths.sealedPath, labPaths.certPath⟩ = _ := labImport labTables rfl hkey cert
  have hon : withPeer.enabled = true := rfl
  unfold maybeStartSealSync
  rw [if_pos hon, Writes.lift_bind, hsetup]
  dsimp only
  rw [himport, Writes.bind_of_ok rfl, hlisten]
  exact congrArg (Writes.mk · _) (List.append_nil _)

lemma ownDisk_pair : PairOnDisk labTables.crates SealCrates.clear noFirmware labPairs labPaths none ownDisk ownKey
    ownCert where
  unsealed := lab_unseals (List.cons_ne_nil _ _) labTables_own rfl
  stored := rfl
  certified := ⟨ownKey, labPairs_own, rfl⟩

lemma migratedDisk_pair : PairOnDisk labTables.crates SealCrates.clear noFirmware labPairs labPaths none
    (ownDisk.putAll (migratingPuts peerKey peerCert)) peerKey peerCert where
  unsealed := lab_unseals (List.cons_ne_nil _ _) labTables_peer rfl
  stored := rfl
  certified := ⟨peerKey, labPairs_peer, rfl⟩

/-- A listener that was started behind an import hands out the old key with the new certificate. -/
theorem export_splits_pair :
    (maybeStartSealSync labTables.crates SealCrates.clear noFirmware withPeer (migratingTo peerKey peerCert) "ld"
        labPaths.certPath labPaths.sealedPath labPaths.sealer (some ownKey) ownDisk) =
      ⟨migratingPuts peerKey peerCert, .ok (some labServer)⟩ ∧
    PairOnDisk labTables.crates SealCrates.clear noFirmware labPairs labPaths none ownDisk ownKey ownCert ∧
    PairOnDisk labTables.crates SealCrates.clear noFirmware labPairs labPaths none
      (ownDisk.putAll (migratingPuts peerKey peerCert)) peerKey peerCert ∧
    labServer.exportKey = .ok ownKey ∧
    labServer.exportCert (ownDisk.putAll (migratingPuts peerKey peerCert)) = .ok (some peerCert) ∧
    ¬ labPairs.Certifies peerCert ownKey := by
  refine ⟨labStart (List.cons_ne_nil _ _) peerCert, ownDisk_pair, migratedDisk_pair, rfl, ?_, ?_⟩
  · rw [SealSyncServer.exportCert, Disk.read, show labServer.servingCertPath = labPaths.certPath from rfl,
      migratedDisk_pair.stored]
    rfl
  · rintro ⟨p, hcert, hkey⟩
    obtain rfl : peerKey = p := Option.some.inj (labPairs_peer.symm.trans hcert)
    exact absurd (Option.some.inj hkey) (by decide)

lemma renewedDisk_pair : PairOnDisk labTables.crates SealCrates.clear noFirmware labPairs labPaths none
    (ownDisk.putAll (migratingPuts ownKey renewedCert)) ownKey renewedCert where
  unsealed := lab_unseals (List.cons_ne_nil _ _) labTables_own rfl
  stored := rfl
  certified := ⟨ownKey, labPairs_renewed, rfl⟩

/-- Behind an import of the own key with another certificate, a listener hands out a matching pair. -/
theorem export_pair_iff_renewed :
    labServer.exportKey = .ok ownKey ∧
    labServer.exportCert (ownDisk.putAll (migratingPuts ownKey renewedCert)) = .ok (some renewedCert) ∧
    labPairs.Certifies renewedCert ownKey := by
  have hown : ownKey ≠ [] := List.cons_ne_nil _ _
  have hstart := labStart hown renewedCert
  have hdisk : ownDisk.putAll (migratingPuts ownKey renewedCert) = ownDisk.putAll (maybeStartSealSync labTables.crates
      SealCrates.clear noFirmware withPeer (migratingTo ownKey renewedCert) "ld" labPaths.certPath labPaths.sealedPath
      labPaths.sealer (some ownKey) ownDisk).puts := by
    rw [hstart]
  obtain ⟨hexports, -⟩ := export_pair_iff labPairs ownDisk_pair (congrArg Writes.result hstart) hdisk renewedDisk_pair
  obtain ⟨hkey, hcert, hmatch⟩ := hexports (ownDisk.putAll (migratingPuts ownKey renewedCert)) rfl
  exact ⟨hkey, hcert, hmatch.mpr rfl⟩

end TeechatOpenapi.Cvm
