import TeechatOpenapi.Cvm.SealImport
import TeechatOpenapi.Lib.Runs

/-!
# The TLS identity at startup (`bins/openapi/src/main.rs`)

The edge computes the digest of its certificate for the attestation identity, may then import another key and
certificate, and at the end loads the files into the TLS acceptor.  With a peer and no listener the import runs in a
thread of its own, beside the rest of the startup.
-/

namespace TeechatOpenapi.Cvm

open Lib Platform Encoding

/-- `EdgeEnv`, what the TLS material and the identity are made of.  `sealRootHost` is the decoded
`OPENAPI_SEAL_ROOT_HEX`. -/
structure EdgeEnv where
  tlsCertPath : Option Str
  tlsSealedKeyPath : Option Str
  tlsKeyPath : Option Str
  prod : Bool
  launchDigest : Str
  imageDigest : Str
  buildVersion : Str
  codeHash : Str
  policyHashHex : Str
  sealRootHost : Option (Octets 32)

def EdgeEnv.cvmSealer (env : EdgeEnv) : CvmSealer := ⟨env.launchDigest, env.imageDigest, env.prod⟩

/-- What `main` finds outside: the key policy, the two calls of `maybe_start_seal_sync`, whether the thread can be
spawned, and how everything between the identity and the acceptor goes. -/
structure StartupWorld where
  keyPolicy : Except Str TlsKeyPolicy
  cold : SyncWorld
  warm : SyncWorld
  spawn : Except Str Unit
  rest : Except Str Unit

/-- `CvmAttestationPlatform::from_env`. -/
def EdgeEnv.identity (env : EdgeEnv) (tlsSpkiSha256 : Str) : EdgeIdentity where
  buildVersion := env.buildVersion
  codeHash := env.codeHash
  measurement := .launchDigest env.launchDigest env.imageDigest
  tlsCertSpkiSha256 := tlsSpkiSha256
  policyHash := some env.policyHashHex

def EdgeEnv.sealRoot (env : EdgeEnv) : Except PlatformError (Option (Octets 32)) :=
  env.cvmSealer.resolveSealRoot env.sealRootHost

/-- Where the startup is before the acceptor is loaded: the seal root, the identity, the disk, and what the import
thread still puts. -/
structure Started where
  root : Option (Octets 32)
  identity : EdgeIdentity
  disk : Disk
  warm : List (Str × Bytes)

section Main

variable (X : Crates) (C : SealCrates) (T : TlsCrates) (g : Guest) (env : EdgeEnv) (root : Option (Octets 32))

def tlsSpkiHex (d : Disk) : Except Str Str :=
  match env.tlsCertPath with
  | none => .ok "unknown"
  | some certPath =>
    match env.tlsSealedKeyPath, env.tlsKeyPath with
    | some sealedPath, _ => do
      let keyPem ← mapErr (fun _ => "unseal tls key".toList)
        (env.cvmSealer.unsealTlsKeyFromFile X C g d sealedPath root)
      let _ ← mapErr (fun _ => "unseal tls key".toList) (loadServerConfigFromPemPaths T d certPath keyPem)
      mapErr TlsError.display (spkiSha256HexFromCertPath X T d certPath)
    | none, some keyPath => do
      let keyPem ← mapErr (fun _ => "load plaintext tls key".toList) (d.read keyPath)
      let _ ← mapErr (fun _ => "load plaintext tls key".toList) (loadServerConfigFromPemPaths T d certPath keyPem)
      mapErr TlsError.display (spkiSha256HexFromCertPath X T d certPath)
    | none, none => .ok "unknown"

def loadTlsMaterialForSealSync (d : Disk) : Except Str (Str × Str × Bytes) := do
  let certPath ← okOr env.tlsCertPath ("OPENAPI_TLS_CERT_PATH required for seal-sync" : Str)
  let sealedPath ← okOr env.tlsSealedKeyPath ("OPENAPI_TLS_SEALED_KEY_PATH required for seal-sync" : Str)
  let keyPem ← mapErr (fun _ => "unseal key for seal-sync".toList)
    (env.cvmSealer.unsealTlsKeyFromFile X C g d sealedPath root)
  return (certPath, sealedPath, keyPem)

/-- `build_tls_acceptor` up to the private key: the path of the certificate and the key, if there is to be TLS. -/
def acceptorKey (d : Disk) : Except Str (Option (Str × Bytes)) :=
  match env.tlsCertPath with
  | none =>
    if env.prod then .error "prod requires OPENAPI_TLS_CERT_PATH and a working TLS acceptor (TLS-001)" else .ok none
  | some certPath =>
    match env.tlsSealedKeyPath, env.tlsKeyPath with
    | some sealedPath, _ => do
      let keyPem ← mapErr (fun _ => "unseal tls key".toList)
        (env.cvmSealer.unsealTlsKeyFromFile X C g d sealedPath root)
      return some (certPath, keyPem)
    | none, some keyPath =>
      if env.prod then .error "prod forbids plaintext TLS key path (use sealed key)" else do
        let keyPem ← mapErr (fun _ => "load plaintext tls key".toList) (d.read keyPath)
        return some (certPath, keyPem)
    | none, none => if env.prod then .error "prod requires sealed TLS key for acceptor (TLS-001)" else .ok none

/-- `build_tls_acceptor` from the certificate on. -/
def acceptorConfig (d : Disk) (certPath : Str) (keyPem : Bytes) : Except Str ServerConfig :=
  mapErr (fun _ => if env.tlsSealedKeyPath.isSome then "unseal tls key".toList else "load plaintext tls key".toList)
    (loadServerConfigFromPemPaths T d certPath keyPem)

/-- `build_tls_acceptor`, on a disk that nobody writes to. -/
def buildTlsAcceptor (d : Disk) : Except Str (Option ServerConfig) := do
  match ← acceptorKey X C g env root d with
  | none => return none
  | some (certPath, keyPem) => return some (← acceptorConfig T env d certPath keyPem)

variable (cfg : SealSyncSettings) (world : StartupWorld)

/-- The cold start: without a sealed key, the import comes before everything else. -/
def coldStart (keyPolicy : TlsKeyPolicy) (sealedMissing : Bool) (d : Disk) : Except Str Disk :=
  if sealedMissing ∧ cfg.peer.isSome ∧ keyPolicy = .sealSync then do
    let certPath ← okOr env.tlsCertPath ("OPENAPI_TLS_CERT_PATH required for seal-sync cold start" : Str)
    let sealedPath ← okOr env.tlsSealedKeyPath
      ("OPENAPI_TLS_SEALED_KEY_PATH required for seal-sync cold start" : Str)
    let call := maybeStartSealSync X C g cfg world.cold env.launchDigest certPath sealedPath env.cvmSealer none d
    let _ ← mapErr (fun _ => "seal-sync cold start".toList) call.result
    failIf (d.putAll call.puts sealedPath).isNone
      ("seal-sync cold start finished but sealed key still missing at ".toList ++ sealedPath)
    return d.putAll call.puts
  else return d

/-- Seal-sync behind the digest: in a thread of its own with a peer and no listener, at once otherwise.  The result is
the disk on which the startup goes on and what the thread puts. -/
def warmSync (sealedMissing : Bool) (d : Disk) : Except Str (Disk × List (Str × Bytes)) :=
  if cfg.enabled ∧ ¬ (sealedMissing ∧ cfg.peer.isSome) then do
    let (certPath, sealedPath, keyPem) ← mapErr (fun _ => "seal-sync tls material".toList)
      (loadTlsMaterialForSealSync X C g env root d)
    let call := maybeStartSealSync X C g cfg world.warm env.launchDigest certPath sealedPath env.cvmSealer
      (some keyPem) d
    if cfg.peer.isSome ∧ cfg.listen.isNone then do
      mapErr (fun _ => "spawn seal-sync warm thread".toList) world.spawn
      return (d, call.puts)
    else do
      let _ ← mapErr (fun _ => "seal-sync".toList) call.result
      return (d.putAll call.puts, [])
  else if cfg.listen.isSome then do
    let (certPath, sealedPath, keyPem) ← mapErr (fun _ => "seal-sync tls material after cold import".toList)
      (loadTlsMaterialForSealSync X C g env root d)
    let call := maybeStartSealSync X C g cfg world.warm env.launchDigest certPath sealedPath env.cvmSealer
      (some keyPem) d
    let _ ← mapErr (fun _ => "seal-sync listen after cold import".toList) call.result
    return (d.putAll call.puts, [])
  else return (d, [])

end Main

/-- `main` up to the acceptor. -/
def startUp (X : Crates) (C : SealCrates) (T : TlsCrates) (g : Guest) (env : EdgeEnv) (cfg : SealSyncSettings)
    (world : StartupWorld) (d : Disk) : Except Str Started := do
  let root ← mapErr (fun _ => "seal root".toList) env.sealRoot
  let sealedMissing := match env.tlsSealedKeyPath with
    | some sealedPath => (d sealedPath).isNone
    | none => false
  let keyPolicy ← mapErr (fun _ => "tls_key_policy".toList) world.keyPolicy
  let d ← coldStart X C g env cfg world keyPolicy sealedMissing d
  let tlsSpki ← tlsSpkiHex X C T g env root d
  let (disk, warm) ← warmSync X C g env root cfg world sealedMissing d
  world.rest
  return ⟨root, env.identity tlsSpki, disk, warm⟩

/-! ## The acceptor beside the import thread -/

/-- Where the main thread is: before the private key is read, before the certificate is read, serving (with TLS or
without), or stopped. -/
inductive MainState where
  | loading (identity : EdgeIdentity)
  | unsealed (identity : EdgeIdentity) (certPath : Str) (keyPem : Bytes)
  | serving (identity : EdgeIdentity) (tls : Option ServerConfig)
  | stopped (error : Str)

/-- The two threads of a startup. -/
inductive Thread where
  | main
  | sealSyncWarm

/-- A startup under way: the disk, the main thread, and what the import has still to put. -/
structure Starting where
  disk : Disk
  main : MainState
  warm : List (Str × Bytes)

def Started.begin (st : Started) : Starting := ⟨st.disk, .loading st.identity, st.warm⟩

section Steps

variable (X : Crates) (C : SealCrates) (T : TlsCrates) (g : Guest) (env : EdgeEnv) (root : Option (Octets 32))

/-- The next file that the main thread reads. -/
def mainStep (d : Disk) : MainState → MainState
  | .loading identity =>
    match acceptorKey X C g env root d with
    | .error e => .stopped e
    | .ok none => .serving identity none
    | .ok (some (certPath, keyPem)) => .unsealed identity certPath keyPem
  | .unsealed identity certPath keyPem =>
    match acceptorConfig T env d certPath keyPem with
    | .error e => .stopped e
    | .ok tls => .serving identity (some tls)
  | .serving identity tls => .serving identity tls
  | .stopped e => .stopped e

/-- One call of one of the two threads. -/
def step (s : Starting) : Thread → Starting
  | .main => { s with main := mainStep X C T g env root s.disk s.main }
  | .sealSyncWarm =>
    match s.warm with
    | [] => s
    | p :: warm => { s with disk := s.disk.put p, warm := warm }

end Steps

/-! ## What the import puts -/

def importedCert (w : SyncWorld) : Bytes :=
  match w.peerRun with
  | .migrated _ (some cert) _ _ => cert
  | _ => []

/-- What an import puts: parts of a sealed key, and parts of the certificate. -/
def ImportPuts (env : EdgeEnv) (w : SyncWorld) (puts : List (Str × Bytes)) : Prop :=
  ∀ p ∈ puts, env.tlsSealedKeyPath = some p.1 ∨ env.tlsCertPath = some p.1 ∧ p.2 <+: importedCert w

section Puts

variable {X : Crates} {C : SealCrates} {T : TlsCrates} {g : Guest} {env : EdgeEnv} {root : Option (Octets 32)}
  {cfg : SealSyncSettings} {world : StartupWorld} {w : SyncWorld} {d : Disk}

lemma mem_importFromPeer {L : CvmLocalSealer} {p : Str × Bytes} (h : p ∈ (importFromPeer X C g cfg w L).puts) :
    p.1 = L.sealedPath ∨ p.1 = L.certPath ∧ p.2 <+: importedCert w := by
  unfold importFromPeer at h
  cases hpeer : cfg.peer with
  | none =>
    rw [hpeer] at h
    cases h
  | some peer =>
    rw [hpeer] at h
    cases hrun : w.peerRun with
    | failed e =>
      rw [hrun] at h
      cases h
    | alreadyAligned =>
      rw [hrun] at h
      cases h
    | migrated key certPem nonce o =>
      rw [hrun] at h
      change p ∈ (L.sealAndPersist X C g nonce o key certPem).puts at h
      rcases sealAndPersist_cases X C g L nonce o key certPem with
        ⟨-, e, hcase⟩ | ⟨blob, -, -, -, ⟨seen, e, e', -, hcase⟩ | ⟨seen, -, hcase⟩⟩
      · rw [hcase] at h
        cases h
      · rw [hcase] at h
        exact Or.inl (mem_writeFile h).1
      · rw [hcase] at h
        rcases List.mem_append.mp h with h | h
        · exact Or.inl (mem_writeFile h).1
        · obtain ⟨hpath, cert, rfl, hcert⟩ := mem_persistCert h
          rw [importedCert, hrun]
          exact Or.inr ⟨hpath, hcert⟩

lemma importPuts_nil : ImportPuts env w [] := by
  intro p hp
  cases hp

lemma maybeStart_importPuts (X : Crates) (C : SealCrates) (g : Guest) (cfg : SealSyncSettings) (w : SyncWorld)
    (launchDigest : Str) (sealer : CvmSealer) (unsealedKeyPem : Option Bytes) (d : Disk) {certPath sealedPath : Str}
    (hcert : env.tlsCertPath = some certPath)
    (hsealed : env.tlsSealedKeyPath = some sealedPath) :
    ImportPuts env w (maybeStartSealSync X C g cfg w launchDigest certPath sealedPath sealer unsealedKeyPem d).puts ∧
    (cfg.peer = none ∨ w.peerRun = .alreadyAligned →
      (maybeStartSealSync X C g cfg w launchDigest certPath sealedPath sealer unsealedKeyPem d).puts = []) := by
  rcases maybeStart_puts X C g cfg w launchDigest certPath sealedPath sealer unsealedKeyPem d with hnone | himport
  · rw [hnone]
    exact ⟨importPuts_nil, fun _ => rfl⟩
  · rw [himport]
    refine ⟨?_, importFromPeer_kept⟩
    intro p hp
    rcases mem_importFromPeer hp with hpath | ⟨hpath, hcontent⟩
    · exact Or.inl (by rw [hsealed, hpath])
    · exact Or.inr ⟨by rw [hcert, hpath], hcontent⟩

lemma loadTlsMaterial_eq_ok {certPath sealedPath : Str} {keyPem : Bytes}
    (h : loadTlsMaterialForSealSync X C g env root d = .ok (certPath, sealedPath, keyPem)) :
    env.tlsCertPath = some certPath ∧ env.tlsSealedKeyPath = some sealedPath := by
  simp only [loadTlsMaterialForSealSync, bind_eq_ok, okOr_eq_ok, mapErr_eq_ok, pure_eq_ok, Prod.mk.injEq] at h
  obtain ⟨_, hcert, _, hsealed, _, -, rfl, rfl, -⟩ := h
  exact ⟨hcert, hsealed⟩

lemma loadTlsMaterial_of {certPath sealedPath : Str} {keyPem : Bytes} (hcert : env.tlsCertPath = some certPath)
    (hsealed : env.tlsSealedKeyPath = some sealedPath)
    (hkey : env.cvmSealer.unsealTlsKeyFromFile X C g d sealedPath root = .ok keyPem) :
    loadTlsMaterialForSealSync X C g env root d = .ok (certPath, sealedPath, keyPem) := by
  rw [loadTlsMaterialForSealSync, hcert, hsealed]
  dsimp only [okOr]
  rw [ok_bind, ok_bind, hkey]
  rfl

/-- What seal-sync has done behind the digest: nothing yet, and the thread is to put an import; or the import is
done. -/
lemma warmSync_eq_ok {sealedMissing : Bool} {disk : Disk} {warm : List (Str × Bytes)}
    (h : warmSync X C g env root cfg world sealedMissing d = .ok (disk, warm)) :
    ∃ puts, ImportPuts env world.warm puts ∧
      (cfg.peer = none ∨ world.warm.peerRun = .alreadyAligned → puts = []) ∧
      (disk = d ∧ warm = puts ∨ disk = d.putAll puts ∧ warm = []) := by
  unfold warmSync at h
  by_cases hwarm : cfg.enabled = true ∧ ¬ (sealedMissing = true ∧ cfg.peer.isSome = true)
  · rw [if_pos hwarm] at h
    obtain ⟨⟨certPath, sealedPath, keyPem⟩, hload, h⟩ := bind_eq_ok.mp h
    obtain ⟨hcert, hsealed⟩ := loadTlsMaterial_eq_ok (mapErr_eq_ok.mp hload)
    obtain ⟨hputs, hkept⟩ := maybeStart_importPuts X C g cfg world.warm env.launchDigest env.cvmSealer (some keyPem) d
      hcert hsealed
    refine ⟨_, hputs, hkept, ?_⟩
    dsimp only at h
    by_cases hthread : cfg.peer.isSome = true ∧ cfg.listen.isNone = true
    · rw [if_pos hthread] at h
      obtain ⟨-, -, h⟩ := bind_eq_ok.mp h
      obtain ⟨rfl, rfl⟩ := Prod.mk.inj (pure_eq_ok.mp h)
      exact Or.inl ⟨rfl, rfl⟩
    · rw [if_neg hthread] at h
      obtain ⟨-, -, h⟩ := bind_eq_ok.mp h
      obtain ⟨rfl, rfl⟩ := Prod.mk.inj (pure_eq_ok.mp h)
      exact Or.inr ⟨rfl, rfl⟩
  · rw [if_neg hwarm] at h
    by_cases hlisten : cfg.listen.isSome = true
    · rw [if_pos hlisten] at h
      obtain ⟨⟨certPath, sealedPath, keyPem⟩, hload, h⟩ := bind_eq_ok.mp h
      obtain ⟨hcert, hsealed⟩ := loadTlsMaterial_eq_ok (mapErr_eq_ok.mp hload)
      obtain ⟨hputs, hkept⟩ := maybeStart_importPuts X C g cfg world.warm env.launchDigest env.cvmSealer (some keyPem)
        d hcert hsealed
      refine ⟨_, hputs, hkept, ?_⟩
      obtain ⟨-, -, h⟩ := bind_eq_ok.mp h
      obtain ⟨rfl, rfl⟩ := Prod.mk.inj (pure_eq_ok.mp h)
      exact Or.inr ⟨rfl, rfl⟩
    · rw [if_neg hlisten] at h
      obtain ⟨rfl, rfl⟩ := Prod.mk.inj (pure_eq_ok.mp h)
      exact ⟨[], importPuts_nil, fun _ => rfl, Or.inl ⟨rfl, rfl⟩⟩

lemma warmSync_of_thread {certPath sealedPath : Str} {keyPem : Bytes} (hon : cfg.enabled = true)
    (hpeer : cfg.peer.isSome = true) (hlisten : cfg.listen.isNone = true)
    (hmaterial : loadTlsMaterialForSealSync X C g env root d = .ok (certPath, sealedPath, keyPem))
    (hspawn : world.spawn = .ok ()) :
    warmSync X C g env root cfg world false d = .ok (d, (maybeStartSealSync X C g cfg world.warm env.launchDigest
      certPath sealedPath env.cvmSealer (some keyPem) d).puts) := by
  have hwarm : cfg.enabled = true ∧ ¬ (false = true ∧ cfg.peer.isSome = true) := ⟨hon, by rintro ⟨h, -⟩; cases h⟩
  rw [warmSync, if_pos hwarm, hmaterial]
  dsimp only [mapErr]
  rw [ok_bind]
  dsimp only
  rw [if_pos ⟨hpeer, hlisten⟩, hspawn]
  rfl

end Puts

/-! ## What is served -/

section Served

variable {X : Crates} {C : SealCrates} {T : TlsCrates} {g : Guest} {env : EdgeEnv} {root : Option (Octets 32)}
  {cfg : SealSyncSettings} {world : StartupWorld}

lemma tlsSpkiHex_eq_ok {d : Disk} {spki path : Str}
    (h : tlsSpkiHex X C T g env root d = .ok spki) (hcert : env.tlsCertPath = some path)
    (hkey : env.tlsSealedKeyPath.isSome ∨ env.tlsKeyPath.isSome) :
    ∃ pem, d path = some pem ∧ leafSpki X T pem = .ok spki := by
  have hlast : ∀ {d : Disk}, mapErr TlsError.display (spkiSha256HexFromCertPath X T d path) = .ok spki →
      ∃ pem, d path = some pem ∧ leafSpki X T pem = .ok spki := by
    intro d hlast
    obtain ⟨pem, hpem, hleaf⟩ := bind_eq_ok.mp (mapErr_eq_ok.mp hlast)
    exact ⟨pem, okOr_eq_ok.mp (mapErr_eq_ok.mp hpem), hleaf⟩
  unfold tlsSpkiHex at h
  rw [hcert] at h
  dsimp only at h
  split at h
  · obtain ⟨_, -, h⟩ := bind_eq_ok.mp h
    obtain ⟨_, -, h⟩ := bind_eq_ok.mp h
    exact hlast h
  · obtain ⟨_, -, h⟩ := bind_eq_ok.mp h
    obtain ⟨_, -, h⟩ := bind_eq_ok.mp h
    exact hlast h
  · next hsealed hplain =>
    rw [hsealed, hplain] at hkey
    rcases hkey with hkey | hkey <;> cases hkey

lemma acceptorKey_eq_some {d : Disk} {certPath : Str} {keyPem : Bytes}
    (h : acceptorKey X C g env root d = .ok (some (certPath, keyPem))) :
    env.tlsCertPath = some certPath ∧ (env.tlsSealedKeyPath.isSome ∨ env.tlsKeyPath.isSome) := by
  unfold acceptorKey at h
  split at h
  · split at h <;> cases h
  · next path hpath =>
    split at h
    · next hsealed =>
      obtain ⟨_, -, h⟩ := bind_eq_ok.mp h
      obtain ⟨rfl, -⟩ := Prod.mk.inj (Option.some.inj (pure_eq_ok.mp h))
      exact ⟨hpath, Or.inl (by rw [hsealed]; rfl)⟩
    · next hsealed hplain =>
      split at h
      · cases h
      · obtain ⟨_, -, h⟩ := bind_eq_ok.mp h
        obtain ⟨rfl, -⟩ := Prod.mk.inj (Option.some.inj (pure_eq_ok.mp h))
        exact ⟨hpath, Or.inr (by rw [hplain]; rfl)⟩
    · split at h <;> cases h

lemma acceptorConfig_eq_ok (hT : T.Lawful) {d : Disk} {certPath : Str} {keyPem : Bytes} {tls : ServerConfig}
    (h : acceptorConfig T env d certPath keyPem = .ok tls) :
    ∃ pem, d certPath = some pem ∧ T.certs pem = .ok tls.certs ∧ tls.certs ≠ [] := by
  obtain ⟨pem, hpem, hcerts, hsingle⟩ := loadServerConfig_eq_ok (mapErr_eq_ok.mp h)
  exact ⟨pem, hpem, hcerts, certs_ne_nil_of_load hT hsingle⟩

lemma startUp_eq_ok {d₀ : Disk} {st : Started} (h : startUp X C T g env cfg world d₀ = .ok st) :
    ∃ d spki puts, tlsSpkiHex X C T g env st.root d = .ok spki ∧ st.identity = env.identity spki ∧
      ImportPuts env world.warm puts ∧ (cfg.peer = none ∨ world.warm.peerRun = .alreadyAligned → puts = []) ∧
      (st.disk = d ∧ st.warm = puts ∨ st.disk = d.putAll puts ∧ st.warm = []) := by
  unfold startUp at h
  obtain ⟨root, -, h⟩ := bind_eq_ok.mp h
  obtain ⟨keyPolicy, -, h⟩ := bind_eq_ok.mp h
  obtain ⟨d, -, h⟩ := bind_eq_ok.mp h
  obtain ⟨spki, hspki, h⟩ := bind_eq_ok.mp h
  obtain ⟨⟨disk, warm⟩, hwarm, h⟩ := bind_eq_ok.mp h
  obtain ⟨-, -, h⟩ := bind_eq_ok.mp h
  obtain rfl := pure_eq_ok.mp h
  obtain ⟨puts, hputs, hkept, hwhere⟩ := warmSync_eq_ok hwarm
  exact ⟨d, spki, puts, hspki, rfl, hputs, hkept, hwhere⟩

lemma startUp_of_present {d disk : Disk} {sealedPath spki : Str} {policy : TlsKeyPolicy} {warm : List (Str × Bytes)}
    (hroot : env.sealRoot = .ok root) (hsealed : env.tlsSealedKeyPath = some sealedPath)
    (hpresent : (d sealedPath).isNone = false) (hpolicy : world.keyPolicy = .ok policy)
    (hspki : tlsSpkiHex X C T g env root d = .ok spki)
    (hwarm : warmSync X C g env root cfg world false d = .ok (disk, warm)) (hrest : world.rest = .ok ()) :
    startUp X C T g env cfg world d = .ok ⟨root, env.identity spki, disk, warm⟩ := by
  have hcold : coldStart X C g env cfg world policy false d = .ok d := by
    rw [coldStart, if_neg]
    · rfl
    · rintro ⟨h, -⟩
      cases h
  unfold startUp
  rw [hroot, hsealed]
  dsimp only [mapErr]
  rw [ok_bind, hpolicy, hpresent]
  dsimp only [mapErr]
  rw [ok_bind, hcold, ok_bind, hspki, ok_bind, hwarm, ok_bind]
  dsimp only
  rw [hrest]
  rfl

/-- What the main thread holds: the identity from before, and a chain that was read from the certificate file after some
puts of the import. -/
def MainInv (T : TlsCrates) (env : EdgeEnv) (st : Started) : MainState → Prop
  | .loading identity => identity = st.identity
  | .unsealed identity certPath _ => identity = st.identity ∧ env.tlsCertPath = some certPath
  | .serving identity none => identity = st.identity
  | .serving identity (some tls) => identity = st.identity ∧ ∃ certPath done pem, env.tlsCertPath = some certPath ∧
      done <+: st.warm ∧ st.disk.putAll done certPath = some pem ∧ T.certs pem = .ok tls.certs ∧ tls.certs ≠ []
  | .stopped _ => True

/-- What holds at every moment of a startup that began at `st`. -/
structure RunInv (T : TlsCrates) (env : EdgeEnv) (st : Started) (s : Starting) : Prop where
  disk : ∃ done, done ++ s.warm = st.warm ∧ s.disk = st.disk.putAll done
  main : MainInv T env st s.main

lemma runInv_begin (st : Started) : RunInv T env st st.begin where
  disk := ⟨[], rfl, rfl⟩
  main := rfl

lemma mainInv_step (hT : T.Lawful) {st : Started} {done : List (Str × Bytes)} (hdone : done <+: st.warm)
    {m : MainState} (hm : MainInv T env st m) :
    MainInv T env st (mainStep X C T g env root (st.disk.putAll done) m) := by
  cases m with
  | loading identity =>
    unfold mainStep
    dsimp only
    split
    · trivial
    · exact hm
    · next certPath keyPem hkey => exact ⟨hm, (acceptorKey_eq_some hkey).1⟩
  | unsealed identity certPath keyPem =>
    unfold mainStep
    dsimp only
    split
    · trivial
    · next tls htls =>
      obtain ⟨pem, hpem, hcerts, hne⟩ := acceptorConfig_eq_ok hT htls
      exact ⟨hm.1, certPath, done, pem, hm.2, hdone, hpem, hcerts, hne⟩
  | serving identity tls => exact hm
  | stopped e => exact hm

lemma runInv_step (hT : T.Lawful) {st : Started} (s : Starting) (t : Thread) (hs : RunInv T env st s) :
    RunInv T env st (step X C T g env root s t) := by
  obtain ⟨done, hdone, hdisk⟩ := hs.disk
  cases t with
  | sealSyncWarm =>
    unfold step
    dsimp only
    split
    · exact hs
    · next p warm hwarm =>
      refine ⟨⟨done ++ [p], ?_, ?_⟩, hs.main⟩
      · rw [List.append_assoc, ← hdone, hwarm]
        rfl
      · rw [Disk.putAll_append, ← hdisk]
        rfl
  | main =>
    refine ⟨⟨done, hdone, hdisk⟩, ?_⟩
    change MainInv T env st (mainStep X C T g env root s.disk s.main)
    rw [hdisk]
    exact mainInv_step hT ⟨s.warm, hdone⟩ hs.main

/-- **On every schedule** the invariant holds. -/
theorem run_inv (hT : T.Lawful) (st : Started) (schedule : List Thread) :
    RunInv T env st (runAll (step X C T g env root) st.begin schedule) :=
  runAll_inv (P := fun _ => True) (fun s t _ hs => runInv_step hT s t hs) (fun _ _ => trivial) (runInv_begin st)

lemma run_warm (s : Starting) :
    runAll (step X C T g env root) s (List.replicate s.warm.length .sealSyncWarm) =
      ⟨s.disk.putAll s.warm, s.main, []⟩ := by
  obtain ⟨disk, main, warm⟩ := s
  induction warm generalizing disk with
  | nil => rfl
  | cons p warm ih => exact ih (disk.put p)

/-- What is served when the import thread comes first. -/
lemma run_import_first {st : Started} {tls : ServerConfig}
    (hload : buildTlsAcceptor X C T g env root (st.disk.putAll st.warm) = .ok (some tls)) :
    (runAll (step X C T g env root) st.begin (List.replicate st.warm.length .sealSyncWarm ++ [.main, .main])).main =
      .serving st.identity (some tls) := by
  have hfirst : runAll (step X C T g env root) st.begin (List.replicate st.warm.length .sealSyncWarm) =
      ⟨st.disk.putAll st.warm, .loading st.identity, []⟩ := run_warm st.begin
  rw [runAll_append, hfirst]
  obtain ⟨key, hkey, hload⟩ := bind_eq_ok.mp hload
  rcases key with _ | ⟨certPath, keyPem⟩
  · cases pure_eq_ok.mp hload
  · obtain ⟨tls', hconfig, hsome⟩ := bind_eq_ok.mp hload
    obtain rfl := Option.some.inj (pure_eq_ok.mp hsome)
    have hone : mainStep X C T g env root (st.disk.putAll st.warm) (.loading st.identity) =
        .unsealed st.identity certPath keyPem := by
      rw [mainStep, hkey]
    change mainStep X C T g env root (st.disk.putAll st.warm)
      (mainStep X C T g env root (st.disk.putAll st.warm) (.loading st.identity)) = _
    rw [hone, mainStep, hconfig]

lemma buildTlsAcceptor_eq_some (hT : T.Lawful) {d : Disk} {tls : ServerConfig}
    (h : buildTlsAcceptor X C T g env root d = .ok (some tls)) :
    ∃ certPath pem, env.tlsCertPath = some certPath ∧ (env.tlsSealedKeyPath.isSome ∨ env.tlsKeyPath.isSome) ∧
      d certPath = some pem ∧ T.certs pem = .ok tls.certs ∧ tls.certs ≠ [] := by
  obtain ⟨key, hkey, h⟩ := bind_eq_ok.mp h
  rcases key with _ | ⟨certPath, keyPem⟩
  · cases pure_eq_ok.mp h
  · obtain ⟨tls', hconfig, hsome⟩ := bind_eq_ok.mp h
    obtain rfl := Option.some.inj (pure_eq_ok.mp hsome)
    obtain ⟨hcert, hkeyPath⟩ := acceptorKey_eq_some hkey
    obtain ⟨pem, hpem, hcerts, hne⟩ := acceptorConfig_eq_ok hT hconfig
    exact ⟨certPath, pem, hcert, hkeyPath, hpem, hcerts, hne⟩

lemma servedSpki_congr {tls tls' : ServerConfig} (h : tls.certs.head? = tls'.certs.head?) :
    servedSpki X tls = servedSpki X tls' := by
  rw [servedSpki, h]
  rfl

/-- A chain that was read after some puts of the import: it has the leaf from before the import or the
leaf that the import leaves. -/
lemma leaf_before_or_after (hT : T.Lawful) (hpaths : env.tlsSealedKeyPath ≠ env.tlsCertPath) {w : SyncWorld}
    {d : Disk} {puts done : List (Str × Bytes)} (hputs : ImportPuts env w puts) (hdone : done <+: puts) {certPath : Str}
    (hcert : env.tlsCertPath = some certPath) {pem last : Bytes} {served tls : ServerConfig}
    (hpem : d.putAll done certPath = some pem) (hserved : T.certs pem = .ok served.certs) (hne : served.certs ≠ [])
    (hlast : d.putAll puts certPath = some last) (htls : T.certs last = .ok tls.certs) (hne' : tls.certs ≠ []) :
    d certPath = some pem ∨ servedSpki X served = servedSpki X tls := by
  have hpart : ∀ content, (certPath, content) ∈ puts → content <+: importedCert w := by
    intro content hmem
    rcases hputs _ hmem with hsealed | ⟨-, hcontent⟩
    · exact absurd (hsealed.trans hcert.symm) hpaths
    · exact hcontent
  rcases Disk.putAll_cases (d := d) certPath done with hkept | ⟨content, hmem, hcontent⟩
  · exact Or.inl (hkept.symm.trans hpem)
  · obtain rfl : content = pem := Option.some.inj (hcontent.symm.trans hpem)
    have hin := hdone.subset hmem
    obtain ⟨content', hmem', hcontent'⟩ := Disk.putAll_written (d := d) ⟨_, hin, rfl⟩
    obtain rfl : content' = last := Option.some.inj (hcontent'.symm.trans hlast)
    exact Or.inr (servedSpki_congr (leaf_agree hT (hpart _ hin) (hpart _ hmem') hserved htls hne hne'))

end Served

/-- **The attested identity and the served certificate.**  A startup reaches the acceptor, and the files that the import
leaves can be loaded.  On every schedule of the two threads the edge serves the certificate whose digest is in its
identity, exactly when the certificate that the import leaves has that digest: so without a peer, and when both sides
are aligned. -/
theorem served_identity_iff {X : Crates} {C : SealCrates} {T : TlsCrates} (hT : T.Lawful) {g : Guest} {env : EdgeEnv}
    {cfg : SealSyncSettings} {world : StartupWorld} (hpaths : env.tlsSealedKeyPath ≠ env.tlsCertPath) {d₀ : Disk}
    {st : Started} (hstart : startUp X C T g env cfg world d₀ = .ok st) {tls : ServerConfig}
    (hload : buildTlsAcceptor X C T g env st.root (st.disk.putAll st.warm) = .ok (some tls)) :
    ((∀ schedule identity served,
        (runAll (step X C T g env st.root) st.begin schedule).main = .serving identity (some served) →
        servedSpki X served = .ok identity.tlsCertSpkiSha256) ↔
      servedSpki X tls = .ok st.identity.tlsCertSpkiSha256) ∧
    (cfg.peer = none ∨ world.warm.peerRun = .alreadyAligned →
      servedSpki X tls = .ok st.identity.tlsCertSpkiSha256) := by
  obtain ⟨certPath, last, hcert, hkeyPath, hlast, hcerts, hne⟩ := buildTlsAcceptor_eq_some hT hload
  obtain ⟨d, spki, puts, hspki, hidentity, hputs, hkept, hwhere⟩ := startUp_eq_ok hstart
  obtain ⟨pem₀, hpem₀, hleaf₀⟩ := tlsSpkiHex_eq_ok hspki hcert hkeyPath
  have hdigest : st.identity.tlsCertSpkiSha256 = spki := by rw [hidentity]; rfl
  have hall : d.putAll puts = st.disk.putAll st.warm := by
    rcases hwhere with ⟨hdisk, hwarm⟩ | ⟨hdisk, hwarm⟩
    · rw [hdisk, hwarm]
    · rw [hdisk, hwarm]
      rfl
  rw [← hall] at hlast
  rw [hdigest]
  refine ⟨⟨?_, ?_⟩, ?_⟩
  · intro hevery
    have hserved := hevery _ _ _ (run_import_first hload)
    rwa [hdigest] at hserved
  · intro hsame schedule identity served hserving
    have hinv : RunInv T env st (runAll (step X C T g env st.root) st.begin schedule) := run_inv hT st schedule
    have hmain := hinv.main
    rw [hserving] at hmain
    obtain ⟨rfl, certPath', done, pem, hcert', hdone, hpem, hserved, hne'⟩ := hmain
    obtain rfl : certPath = certPath' := Option.some.inj (hcert.symm.trans hcert')
    rw [hdigest]
    rcases hwhere with ⟨hdisk, hwarm⟩ | ⟨hdisk, hwarm⟩
    · rw [hwarm] at hdone
      rw [hdisk] at hpem
      rcases leaf_before_or_after (X := X) hT hpaths hputs hdone hcert hpem hserved hne' hlast hcerts hne
        with hbefore | hafter
      · obtain rfl : pem₀ = pem := Option.some.inj (hpem₀.symm.trans hbefore)
        rw [← leafSpki_of_certs hserved, hleaf₀]
      · rw [hafter, hsame]
    · rw [hwarm] at hdone
      obtain rfl := List.prefix_nil.mp hdone
      rw [hdisk] at hpem
      obtain rfl : last = pem := Option.some.inj (hlast.symm.trans hpem)
      obtain hsameCerts := Except.ok.inj (hserved.symm.trans hcerts)
      rw [servedSpki_congr (congrArg List.head? hsameCerts), hsame]
  · intro hk
    rw [hkept hk] at hlast
    obtain rfl : pem₀ = last := Option.some.inj (hpem₀.symm.trans hlast)
    rw [← leafSpki_of_certs hcerts, hleaf₀]

/-! ### Two certificates -/

def TlsCrates.lab : TlsCrates where
  certs pem :=
    match pem with
    | [] => .ok []
    | n :: rest => if n.toNat ≤ rest.length then .ok [rest.take n.toNat] else .ok []
  privateKey pem := .ok (some pem)
  withSingleCert certs key :=
    match certs with
    | [] => .error "no server certificate chain resolved"
    | leaf :: _ => if leaf.getLast? = key.head? then .ok () else .error "keys may not be consistent"

lemma TlsCrates.lab_lawful : TlsCrates.lab.Lawful where
  certs_prefix pem pem' certs certs' hprefix hcerts hcerts' := by
    obtain ⟨more, rfl⟩ := hprefix
    cases pem with
    | nil =>
      obtain rfl := Except.ok.inj hcerts
      exact List.nil_prefix
    | cons n rest =>
      change (if n.toNat ≤ rest.length then Except.ok [rest.take n.toNat] else Except.ok []) = Except.ok certs at hcerts
      change (if n.toNat ≤ (rest ++ more).length then Except.ok [(rest ++ more).take n.toNat] else Except.ok []) =
        Except.ok certs' at hcerts'
      by_cases hn : n.toNat ≤ rest.length
      · rw [if_pos hn] at hcerts
        rw [if_pos (by rw [List.length_append]; omega), List.take_append_of_le_length hn] at hcerts'
        rw [← Except.ok.inj hcerts, ← Except.ok.inj hcerts']
      · rw [if_neg hn] at hcerts
        rw [← Except.ok.inj hcerts]
        exact List.nil_prefix
  needs_leaf _ := ⟨_, rfl⟩

/-- A certificate of a key, with a serial number. -/
def labCert (serial key : UInt8) : Bytes :=
  [0x30, 0x10, 0x30, 0x0e, 0x02, 0x01, serial, 0x30, 0x00, 0x30, 0x00, 0x30, 0x00, 0x30, 0x00, 0x30, 0x01, key]

def labChain (serial key : UInt8) : Bytes := 18 :: labCert serial key

def ownSpkiHash : Bytes := [157, 176, 132, 126, 15, 190, 196, 98, 109, 241, 204, 133, 154, 44, 6, 38, 25, 232, 229,
  219, 143, 171, 24, 60, 91, 249, 217, 119, 149, 90, 251, 77]

def peerSpkiHash : Bytes := [60, 190, 100, 112, 207, 248, 93, 250, 221, 234, 153, 143, 133, 127, 163, 135, 114, 219,
  244, 111, 116, 176, 57, 254, 240, 167, 95, 105, 188, 74, 140, 125]

def startTables : CrateTables where
  trees := labTables.trees
  sha256 := [([0x30, 0x01, 1], ownSpkiHash), ([0x30, 0x01, 2], peerSpkiHash)]

def startEnv : EdgeEnv where
  tlsCertPath := some "tls.crt"
  tlsSealedKeyPath := some "key.sealed.json"
  tlsKeyPath := none
  prod := false
  launchDigest := "ld"
  imageDigest := "id"
  buildVersion := "1.4.0"
  codeHash := "cc"
  policyHashHex := "pp"
  sealRootHost := none

def startDisk : Disk := Disk.putAll (fun _ => none) [("key.sealed.json", labFile ownKey), ("tls.crt", labChain 5 1)]

def peerOnly : SealSyncSettings where
  allowlist := []
  mockPsk := some "psk"
  listen := none
  peer := some "10.0.0.2:9443"
  challengeBaseUrl := none

def startWorld (key chain : Bytes) : StartupWorld where
  keyPolicy := .ok .sealSync
  cold := migratingTo key chain
  warm := migratingTo key chain
  spawn := .ok ()
  rest := .ok ()

lemma lab_leaf (serial : UInt8) {key : UInt8} {hash : Bytes}
    (hhash : startTables.crates.sha2.sha256 [0x30, 0x01, key] = hash) :
    leafSpki startTables.crates TlsCrates.lab (labChain serial key) = .ok (hexEncode hash) := by
  have hspki : extractSpkiDer (labCert serial key) = .ok [0x30, 0x01, key] := rfl
  rw [leafSpki]
  change spkiSha256HexFromCertDer startTables.crates (labCert serial key) = _
  rw [spkiSha256HexFromCertDer, hspki]
  change Except.ok (hexEncode (startTables.crates.sha2.sha256 [0x30, 0x01, key])) = _
  rw [hhash]

lemma lab_load {d : Disk} {path : Str} {serial key : UInt8} (h : d path = some (labChain serial key)) :
    loadServerConfigFromPemPaths TlsCrates.lab d path [key] = .ok ⟨[labCert serial key], [key]⟩ := by
  have hsingle : TlsCrates.lab.withSingleCert [labCert serial key] [key] = .ok () := if_pos rfl
  rw [loadServerConfigFromPemPaths, Disk.read, h]
  change mapErr TlsError.rustls (TlsCrates.lab.withSingleCert [labCert serial key] [key]) >>= _ = _
  rw [hsingle]
  rfl

lemma lab_served (serial : UInt8) {key : UInt8} {hash : Bytes}
    (hhash : startTables.crates.sha2.sha256 [0x30, 0x01, key] = hash) :
    servedSpki startTables.crates ⟨[labCert serial key], [key]⟩ = .ok (hexEncode hash) := by
  rw [← lab_leaf serial hhash]
  exact (leafSpki_of_certs rfl).symm

lemma startTables_own : startTables.crates.sha2.sha256 [0x30, 0x01, 1] = ownSpkiHash :=
  CrateTables.sha256_of_lookup rfl rfl

lemma startTables_peer : startTables.crates.sha2.sha256 [0x30, 0x01, 2] = peerSpkiHash :=
  CrateTables.sha256_of_lookup rfl rfl

lemma lab_spki {d : Disk} (serial : UInt8) {key : UInt8} {hash : Bytes}
    (hkey : labSealer.unsealTlsKeyFromFile startTables.crates SealCrates.clear noFirmware d "key.sealed.json" none =
      .ok [key]) (hcert : d "tls.crt" = some (labChain serial key))
    (hhash : startTables.crates.sha2.sha256 [0x30, 0x01, key] = hash) :
    tlsSpkiHex startTables.crates SealCrates.clear TlsCrates.lab noFirmware startEnv none d =
      .ok (hexEncode hash) := by
  have hspki : spkiSha256HexFromCertPath startTables.crates TlsCrates.lab d "tls.crt" = .ok (hexEncode hash) := by
    rw [spkiSha256HexFromCertPath, Disk.read, hcert]
    exact lab_leaf serial hhash
  unfold tlsSpkiHex
  dsimp only [startEnv]
  change (mapErr _ (labSealer.unsealTlsKeyFromFile startTables.crates SealCrates.clear noFirmware d "key.sealed.json"
    none) >>= _) = _
  rw [hkey, mapErr, ok_bind, lab_load hcert, mapErr, ok_bind, hspki]
  rfl

lemma lab_acceptor {d : Disk} (serial : UInt8) {key : UInt8}
    (hkey : labSealer.unsealTlsKeyFromFile startTables.crates SealCrates.clear noFirmware d "key.sealed.json" none =
      .ok [key]) (hcert : d "tls.crt" = some (labChain serial key)) :
    buildTlsAcceptor startTables.crates SealCrates.clear TlsCrates.lab noFirmware startEnv none d =
      .ok (some ⟨[labCert serial key], [key]⟩) := by
  have hfound : acceptorKey startTables.crates SealCrates.clear noFirmware startEnv none d =
      .ok (some ("tls.crt", [key])) := by
    unfold acceptorKey
    dsimp only [startEnv]
    change (mapErr _ (labSealer.unsealTlsKeyFromFile startTables.crates SealCrates.clear noFirmware d
      "key.sealed.json" none) >>= _) = _
    rw [hkey]
    rfl
  rw [buildTlsAcceptor, hfound, ok_bind]
  dsimp only
  rw [acceptorConfig, lab_load hcert]
  rfl

lemma startEnv_cert : startEnv.tlsCertPath = some "tls.crt" := rfl

lemma startEnv_sealed : startEnv.tlsSealedKeyPath = some "key.sealed.json" := rfl

lemma startDisk_unseals : labSealer.unsealTlsKeyFromFile startTables.crates SealCrates.clear noFirmware startDisk
    "key.sealed.json" none = .ok ownKey :=
  lab_unseals (List.cons_ne_nil _ _) labTables_own rfl

def labStarted (key chain : Bytes) : Started :=
  ⟨none, startEnv.identity (hexEncode ownSpkiHash), startDisk, migratingPuts key chain⟩

section Import

variable {key : Bytes} (hkey : key ≠ []) (chain : Bytes)
include hkey

lemma lab_call_puts : (maybeStartSealSync startTables.crates SealCrates.clear noFirmware peerOnly
    (startWorld key chain).warm "ld" "tls.crt" "key.sealed.json" labSealer (some ownKey) startDisk).puts =
      migratingPuts key chain := by
  have hon : peerOnly.enabled = true := rfl
  have hsetup : ∃ setup, sealSyncSetup noFirmware peerOnly (startWorld key chain).warm "ld" "tls.crt" startDisk =
      .ok setup := by
    unfold sealSyncSetup
    dsimp only
    generalize toOption (readToString startDisk "tls.crt") = o
    cases o <;> exact ⟨_, rfl⟩
  have himport : importFromPeer startTables.crates SealCrates.clear noFirmware peerOnly (startWorld key chain).warm
      ⟨labSealer, "key.sealed.json", "tls.crt"⟩ = _ := labImport startTables rfl hkey chain
  obtain ⟨setup, hsetup⟩ := hsetup
  unfold maybeStartSealSync
  rw [if_pos hon, Writes.lift_bind, hsetup]
  dsimp only
  rw [himport, Writes.bind_of_ok rfl]
  exact List.append_nil _

lemma lab_startUp : startUp startTables.crates SealCrates.clear TlsCrates.lab noFirmware startEnv peerOnly
    (startWorld key chain) startDisk = .ok (labStarted key chain) := by
  have hmaterial := loadTlsMaterial_of (X := startTables.crates) (C := SealCrates.clear) (g := noFirmware) startEnv_cert
    startEnv_sealed startDisk_unseals
  have hputs : (maybeStartSealSync startTables.crates SealCrates.clear noFirmware peerOnly (startWorld key chain).warm
      startEnv.launchDigest "tls.crt" "key.sealed.json" startEnv.cvmSealer (some ownKey) startDisk).puts =
        migratingPuts key chain := lab_call_puts hkey chain
  have hwarm : warmSync startTables.crates SealCrates.clear noFirmware startEnv none peerOnly (startWorld key chain)
      false startDisk = .ok (startDisk, migratingPuts key chain) := by
    rw [warmSync_of_thread rfl rfl rfl hmaterial rfl, hputs]
  have hpresent : (startDisk "key.sealed.json").isNone = false := rfl
  have hspki := lab_spki 5 startDisk_unseals rfl startTables_own
  exact startUp_of_present rfl rfl hpresent rfl hspki hwarm rfl

end Import

/-- The thread comes before the acceptor: the edge attests its old certificate and serves the peer's. -/
theorem served_certificate_not_attested :
    startUp startTables.crates SealCrates.clear TlsCrates.lab noFirmware startEnv peerOnly
      (startWorld peerKey (labChain 5 2)) startDisk = .ok (labStarted peerKey (labChain 5 2)) ∧
    (runAll (step startTables.crates SealCrates.clear TlsCrates.lab noFirmware startEnv none)
      (labStarted peerKey (labChain 5 2)).begin
      (List.replicate (migratingPuts peerKey (labChain 5 2)).length .sealSyncWarm ++ [.main, .main])).main =
        .serving (startEnv.identity (hexEncode ownSpkiHash)) (some ⟨[labCert 5 2], [2]⟩) ∧
    servedSpki startTables.crates ⟨[labCert 5 2], [2]⟩ = .ok (hexEncode peerSpkiHash) ∧
    (startEnv.identity (hexEncode ownSpkiHash)).tlsCertSpkiSha256 ≠ hexEncode peerSpkiHash := by
  have hunseal : labSealer.unsealTlsKeyFromFile startTables.crates SealCrates.clear noFirmware
      (startDisk.putAll (migratingPuts peerKey (labChain 5 2))) "key.sealed.json" none = .ok peerKey :=
    lab_unseals (List.cons_ne_nil _ _) labTables_peer rfl
  have hload := lab_acceptor 5 hunseal rfl
  refine ⟨lab_startUp (List.cons_ne_nil _ _) _, ?_, lab_served 5 startTables_peer, ?_⟩
  · exact @run_import_first startTables.crates SealCrates.clear TlsCrates.lab noFirmware startEnv none
      (labStarted peerKey (labChain 5 2)) _ hload
  change Hex.lowercase.encode ownSpkiHash ≠ Hex.lowercase.encode peerSpkiHash
  intro h
  exact absurd (Hex.lowercase_lawful.encode_injective h) (by decide)

/-- A peer that hands over the own key with another certificate: every schedule serves what is attested. -/
theorem served_identity_iff_renewed :
    startUp startTables.crates SealCrates.clear TlsCrates.lab noFirmware startEnv peerOnly
      (startWorld ownKey (labChain 6 1)) startDisk = .ok (labStarted ownKey (labChain 6 1)) ∧
    ∀ schedule identity served,
      (runAll (step startTables.crates SealCrates.clear TlsCrates.lab noFirmware startEnv none)
        (labStarted ownKey (labChain 6 1)).begin schedule).main = .serving identity (some served) →
      servedSpki startTables.crates served = .ok identity.tlsCertSpkiSha256 := by
  have hpaths : startEnv.tlsSealedKeyPath ≠ startEnv.tlsCertPath := by decide
  have hown : ownKey ≠ [] := List.cons_ne_nil _ _
  have hstart := lab_startUp hown (labChain 6 1)
  have hunseal : labSealer.unsealTlsKeyFromFile startTables.crates SealCrates.clear noFirmware
      (startDisk.putAll (migratingPuts ownKey (labChain 6 1))) "key.sealed.json" none = .ok ownKey :=
    lab_unseals (List.cons_ne_nil _ _) labTables_own rfl
  have hload := lab_acceptor 6 hunseal rfl
  obtain ⟨hiff, -⟩ := served_identity_iff TlsCrates.lab_lawful hpaths hstart hload
  exact ⟨hstart, hiff.mpr (lab_served 6 startTables_own)⟩

end TeechatOpenapi.Cvm
