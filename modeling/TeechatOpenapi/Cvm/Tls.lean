import TeechatOpenapi.Attest.Manifest
import TeechatOpenapi.Lib.Files
import TeechatOpenapi.Platform.Seal

/-!
# The TLS key and certificate of the edge (`openapi-platform-cvm/src/seal.rs`, `src/tls.rs`)

The private key stands on the disk as a sealed blob, the certificate chain as a PEM text.

What the guest's firmware returns is an input (`Guest`), and `rustls` and `rustls-pemfile` are parameters (`TlsCrates`).
A file is read in one step.
-/

namespace TeechatOpenapi.Cvm

open Lib Platform

/-- What the guest returns when asked: the launch digest it attests, and keys the AMD secure processor derives. -/
structure Guest where
  readAttestedLaunchDigest : Except PlatformError Str
  deriveAmdSpSealKey : AmdSpSealMeta → Except PlatformError (Octets 32)

/-- The sealer of the edge: the AMD secure processor in production, a derived key otherwise. -/
structure CvmSealer where
  launchDigest : Str
  imageDigest : Str
  prod : Bool

def sealVersionSnpAmdSp : Nat := 3

def verifyLaunchDigestAttested (g : Guest) (envLaunchDigest : Str) : Except PlatformError Unit := do
  failIf (envLaunchDigest = [] ∨ envLaunchDigest = "unknown".toList)
    (.seal "OPENAPI_LAUNCH_DIGEST must be set to attested value in prod")
  let attested ← g.readAttestedLaunchDigest
  failIf (attested ≠ toAsciiLowercase envLaunchDigest) (.seal ("OPENAPI_LAUNCH_DIGEST mismatch: env=".toList ++
    envLaunchDigest ++ " attested=".toList ++ attested))

def hostSealRootText : Str := "OPENAPI_SEAL_ROOT_HEX must not be host-supplied in prod"

namespace CvmSealer

def resolveSealRoot (S : CvmSealer) (hostEnvSupplied : Option (Octets 32)) :
    Except PlatformError (Option (Octets 32)) :=
  if S.prod then do
    failIf hostEnvSupplied.isSome (.seal hostSealRootText)
    return none
  else return hostEnvSupplied

def sealingMeasurement (S : CvmSealer) : Measurement := .launchDigest S.launchDigest S.imageDigest

variable (X : Crates) (C : SealCrates) (g : Guest)

def sealTlsKey (S : CvmSealer) (keyPem : Bytes) (sealRoot : Option (Octets 32)) (nonce : Octets 12) :
    Except PlatformError SealedTlsKeyBlob :=
  if S.prod then do
    failIf sealRoot.isSome (.seal hostSealRootText)
    verifyLaunchDigestAttested g S.launchDigest
    let amdKey ← g.deriveAmdSpSealKey C.amdSpDefault
    sealTlsPrivateKeyAmdSp C S.sealingMeasurement keyPem amdKey C.amdSpDefault nonce
  else sealTlsPrivateKey X C S.sealingMeasurement keyPem sealRoot nonce

def unsealTlsKey (S : CvmSealer) (blob : SealedTlsKeyBlob) (sealRoot : Option (Octets 32)) :
    Except PlatformError Bytes :=
  if S.prod then do
    failIf sealRoot.isSome (.seal hostSealRootText)
    verifyLaunchDigestAttested g S.launchDigest
    failIf (blob.sealVersion ≠ sealVersionSnpAmdSp) (.seal ("legacy or unsupported seal_version ".toList ++
      decimal blob.sealVersion ++ " forbidden for CVM prod unseal; expected ".toList ++ decimal sealVersionSnpAmdSp))
    let amdSp ← okOr blob.amdSp (.seal "amd_sp metadata required for seal_version 3")
    let amdKey ← g.deriveAmdSpSealKey amdSp
    unsealTlsPrivateKeyAmdSp C blob S.sealingMeasurement amdKey
  else unsealTlsPrivateKey X C blob S.sealingMeasurement sealRoot

end CvmSealer

def blobTree (blob : SealedTlsKeyBlob) : Json :=
  .object (writtenMembers [("seal_version", some (.number (.posInt blob.sealVersion))),
    ("measurement", some (measurementTree blob.measurement)), ("nonce_b64", some (.string blob.nonceB64)),
    ("ciphertext_b64", some (.string blob.ciphertextB64)), ("seal_data_b64", blob.sealDataB64.map .string),
    ("amd_sp", blob.amdSp)])

section Files

variable (X : Crates) (C : SealCrates) (g : Guest)

def readBlob (j : Json) : Option SealedTlsKeyBlob := do
  return {
    sealVersion := ← Json.required (Json.asUnsigned? (2 ^ 32 - 1)) (j.slot 6 0 "seal_version")
    measurement := ← Json.required Attest.readMeasurement (j.slot 6 1 "measurement")
    nonceB64 := ← Json.required Json.asStr? (j.slot 6 2 "nonce_b64")
    ciphertextB64 := ← Json.required Json.asStr? (j.slot 6 3 "ciphertext_b64")
    sealDataB64 := ← Json.defaulted none (Json.nullable Json.asStr?) (j.slot 6 4 "seal_data_b64")
    amdSp := ← Json.defaulted none (Json.nullable C.amdSpRead) (j.slot 6 5 "amd_sp") }

/-- The file of a blob: `serde_json::to_vec_pretty`. -/
def blobFile (blob : SealedTlsKeyBlob) : Bytes := utf8 (C.prettyText (blobTree blob))

def CvmSealer.sealTlsKeyToFile (S : CvmSealer) (keyPem : Bytes) (path : Str) (sealRoot : Option (Octets 32))
    (nonce : Octets 12) (o : WriteOutcome) : Writes PlatformError Unit := do
  let blob ← Writes.lift (S.sealTlsKey X C g keyPem sealRoot nonce)
  Writes.mapErr .io (writeFile path (blobFile C blob) o)

def readToString (d : Disk) (path : Str) : Except Str Str := do
  let bytes ← d.read path
  mapErr (fun _ => "stream did not contain valid UTF-8") (fromUtf8 bytes)

def CvmSealer.unsealTlsKeyFromFile (S : CvmSealer) (d : Disk) (path : Str) (sealRoot : Option (Octets 32)) :
    Except PlatformError Bytes := do
  let raw ← mapErr .io (readToString d path)
  let blob ← mapErr (fun e => .seal ("parse blob: ".toList ++ e)) (X.fromSlice (readBlob C) (utf8 raw))
  S.unsealTlsKey X C g blob sealRoot

end Files

section Reading

variable {X : Crates} {C : SealCrates} {g : Guest}

lemma readToString_utf8 {d : Disk} {path s : Str} (h : d path = some (utf8 s)) : readToString d path = .ok s := by
  rw [readToString, Disk.read, h]
  exact mapErr_eq_ok.mpr (fromUtf8_utf8 s)

lemma readBlob_blobTree (m : Measurement) (nonce : Octets 12) (c : Bytes) :
    readBlob C (blobTree (sealedBlob X m nonce c)) = some (sealedBlob X m nonce c) := by
  cases m with
  | mrenclave value => rfl
  | launchDigest l i => rfl

/-- **A key comes back from the file it was sealed to**, outside production. -/
theorem unseal_sealed_file (hb : X.base64.Lawful) (hC : C.DecryptsBack) {S : CvmSealer} (hdev : S.prod = false)
    {key : Bytes} {root : Option (Octets 32)} {nonce : Octets 12} {blob : SealedTlsKeyBlob}
    (hseal : S.sealTlsKey X C g key root nonce = .ok blob)
    (htree : X.json.tree (blobFile C blob) = .ok (blobTree blob)) {d : Disk} {path : Str}
    (hfile : d path = some (blobFile C blob)) : S.unsealTlsKeyFromFile X C g d path root = .ok key := by
  rw [CvmSealer.sealTlsKey, hdev] at hseal
  obtain ⟨⟨c, rfl⟩, hopen⟩ := unseal_sealedKey hb hC hseal
  have hraw : readToString d path = .ok (C.prettyText (blobTree (sealedBlob X S.sealingMeasurement nonce c))) :=
    readToString_utf8 hfile
  have hparse : X.fromSlice (readBlob C) (blobFile C (sealedBlob X S.sealingMeasurement nonce c)) =
      .ok (sealedBlob X S.sealingMeasurement nonce c) := by
    rw [Crates.fromSlice, htree, ok_bind, readBlob_blobTree]
    rfl
  rw [CvmSealer.unsealTlsKeyFromFile, hraw]
  change mapErr _ (X.fromSlice (readBlob C) (blobFile C (sealedBlob X S.sealingMeasurement nonce c))) >>= _ = _
  rw [hparse]
  change S.unsealTlsKey X C g _ root = _
  rw [CvmSealer.unsealTlsKey, hdev]
  exact hopen

end Reading

/-- `rustls_pemfile` and `rustls`: the certificates and the private key of a PEM text, and `with_single_cert`. -/
structure TlsCrates where
  certs : Bytes → Except Str (List Bytes)
  privateKey : Bytes → Except Str (Option Bytes)
  withSingleCert : (certs : List Bytes) → (key : Bytes) → Except Str Unit

/-- The documented behaviour of the two crates: the certificates of the beginning of a PEM text are the first ones of
the text, and a configuration needs a certificate. -/
structure TlsCrates.Lawful (T : TlsCrates) : Prop where
  certs_prefix : ∀ pem pem' certs certs', pem <+: pem' → T.certs pem = .ok certs → T.certs pem' = .ok certs' →
    certs <+: certs'
  needs_leaf : ∀ key, ∃ e, T.withSingleCert [] key = .error e

/-- The errors of loading TLS files. -/
inductive TlsError where
  | io (text : Str)
  | rustls (text : Str)
  | seal (error : PlatformError)

def TlsError.display : TlsError → Str
  | .io text => "io: ".toList ++ text
  | .rustls text => "tls: ".toList ++ text
  | .seal error => "seal: ".toList ++ error.display

/-- `rustls::ServerConfig`: the chain it presents and the key it signs with. -/
structure ServerConfig where
  certs : List Bytes
  key : Bytes

/-- The length that the `n` octets after the first two give. -/
def derLongLength (octets : Bytes) : Nat := octets.foldl (fun len b => len * 256 + b.toNat) 0

/-- `read_tlv`: tag, body and rest.  The length has at most four octets, so it does not overflow. -/
def readTlv (input : Bytes) : Except Str (UInt8 × Bytes × Bytes) :=
  match input with
  | tag :: lenByte :: _ => do
    let header ← if lenByte.toNat < 0x80 then .ok (2, lenByte.toNat) else do
      let n := lenByte.toNat - 0x80
      failIf (n = 0 ∨ n > 4 ∨ input.length < 2 + n) ("der length" : Str)
      .ok (2 + n, derLongLength ((input.drop 2).take n))
    failIf (input.length < header.1 + header.2) ("der out of range" : Str)
    return (tag, (input.drop header.1).take header.2, input.drop (header.1 + header.2))
  | _ => .error "der truncated"

def derHeaderLen : Bytes → Except Str Nat
  | _ :: lenByte :: _ => .ok (if lenByte.toNat < 0x80 then 2 else 2 + (lenByte.toNat - 0x80))
  | _ => .error "der short"

/-- What is left after `n` elements. -/
def skipTlvs : Nat → Bytes → Except Str Bytes
  | 0, rest => .ok rest
  | n + 1, rest => do
    let tlv ← readTlv rest
    skipTlvs n tlv.2.2

/-- `extract_spki_der`: in the first element of the certificate, behind an optional version and five elements. -/
def extractSpkiDer (certDer : Bytes) : Except Str Bytes := do
  let cert ← readTlv certDer
  let tbs ← readTlv cert.2.1
  let rest ← if tbs.2.1.head? = some 0xa0 then skipTlvs 1 tbs.2.1 else .ok tbs.2.1
  let rest ← skipTlvs 5 rest
  let hdr ← derHeaderLen rest
  let spki ← readTlv rest
  return rest.take (hdr + spki.2.1.length)

section Load

variable (X : Crates) (C : SealCrates) (g : Guest) (T : TlsCrates)

def spkiSha256HexFromCertDer (certDer : Bytes) : Except TlsError Str := do
  let spki ← mapErr (fun e => .rustls ("SPKI extract: ".toList ++ e)) (extractSpkiDer certDer)
  return X.hex.encode (X.sha2.sha256 spki)

/-- What `spki_sha256_hex_from_cert_path` does with the content of the file. -/
def leafSpki (pem : Bytes) : Except TlsError Str := do
  let certs ← mapErr .rustls (T.certs pem)
  let cert ← okOr certs.head? (.rustls "no certificate found")
  spkiSha256HexFromCertDer X cert

def spkiSha256HexFromCertPath (d : Disk) (path : Str) : Except TlsError Str := do
  let pem ← mapErr .io (d.read path)
  leafSpki X T pem

/-- `load_server_config_from_pem_paths`; a configuration is built as `build_server_tls_config` does it. -/
def loadServerConfigFromPemPaths (d : Disk) (certPath : Str) (keyPem : Bytes) : Except TlsError ServerConfig := do
  let pem ← mapErr .io (d.read certPath)
  let certs ← mapErr .rustls (T.certs pem)
  let key? ← mapErr .rustls (T.privateKey keyPem)
  let key ← okOr key? (.rustls "missing private key")
  mapErr .rustls (T.withSingleCert certs key)
  return ⟨certs, key⟩

end Load

/-- The digest of the leaf certificate that a configuration presents. -/
def servedSpki (X : Crates) (tls : ServerConfig) : Except TlsError Str := do
  let cert ← okOr tls.certs.head? (.rustls "no certificate found")
  spkiSha256HexFromCertDer X cert

section Leaf

variable {X : Crates} {T : TlsCrates}

lemma head?_eq_of_begins {l l' : List Bytes} (h : l <+: l') (hne : l ≠ []) : l.head? = l'.head? := by
  obtain ⟨r, rfl⟩ := h
  cases l with
  | nil => exact absurd rfl hne
  | cons a l => rfl

lemma leaf_agree (hT : T.Lawful) {pem p q : Bytes} (hp : p <+: pem) (hq : q <+: pem) {certs certs' : List Bytes}
    (hcerts : T.certs p = .ok certs) (hcerts' : T.certs q = .ok certs') (hne : certs ≠ []) (hne' : certs' ≠ []) :
    certs.head? = certs'.head? := by
  rcases List.prefix_or_prefix_of_prefix hp hq with hpq | hqp
  · exact head?_eq_of_begins (hT.certs_prefix p q _ _ hpq hcerts hcerts') hne
  · exact (head?_eq_of_begins (hT.certs_prefix q p _ _ hqp hcerts' hcerts) hne').symm

lemma loadServerConfig_eq_ok {d : Disk} {certPath : Str} {keyPem : Bytes} {tls : ServerConfig}
    (h : loadServerConfigFromPemPaths T d certPath keyPem = .ok tls) :
    ∃ pem, d certPath = some pem ∧ T.certs pem = .ok tls.certs ∧ T.withSingleCert tls.certs tls.key = .ok () := by
  simp only [loadServerConfigFromPemPaths, Disk.read, bind_eq_ok, mapErr_eq_ok, okOr_eq_ok, pure_eq_ok] at h
  obtain ⟨pem, hpem, certs, hcerts, key?, hkey?, key, hkey, u, hsingle, rfl⟩ := h
  exact ⟨pem, hpem, hcerts, hsingle⟩

lemma certs_ne_nil_of_load (hT : T.Lawful) {tls : ServerConfig} (h : T.withSingleCert tls.certs tls.key = .ok ()) :
    tls.certs ≠ [] := by
  intro hnil
  obtain ⟨e, he⟩ := hT.needs_leaf tls.key
  rw [hnil, he] at h
  cases h

lemma leafSpki_of_certs {pem : Bytes} {tls : ServerConfig} (h : T.certs pem = .ok tls.certs) :
    leafSpki X T pem = servedSpki X tls := by
  rw [leafSpki, h]
  rfl

end Leaf

end TeechatOpenapi.Cvm
