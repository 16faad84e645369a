import TeechatOpenapi.Platform.Challenge

/-!
# Sealed TLS keys (`openapi-platform/src/seal.rs`)

A TLS private key is stored encrypted, under a key derived from the measurement of the guest and with the measurement as
associated data.  Both inputs are one text, `measurement_binding_label`, so what a blob is bound to is that text.

`aes-gcm`, `hkdf` and `attested-mtls-snp-seal` are parameters, with the laws of an ideal cipher as a hypothesis.
-/

namespace TeechatOpenapi.Platform

open Lib

/-- `attested_mtls_snp_seal::AmdSpSealMeta`, which this code hands through: the tree it is written as. -/
abbrev AmdSpSealMeta := Json

/-- `attested_mtls_snp_seal::SealedTlsKeyBlob`; its measurement is always a launch digest. -/
structure SnpSealedBlob where
  sealVersion : Nat
  launchDigest : Str
  imageDigest : Str
  nonceB64 : Str
  ciphertextB64 : Str
  amdSp : AmdSpSealMeta

/-- `hkdf` (extract and expand to 32 octets), `aes-gcm`, `attested-mtls-snp-seal` and the indented texts of
`serde_json`.  The nonce is the one the code or the crate draws. -/
structure SealCrates where
  hkdfSha256 : (ikm info : Bytes) → Octets 32
  encrypt : (key : Octets 32) → (nonce : Octets 12) → (msg aad : Bytes) → Except Str Bytes
  decrypt : (key : Octets 32) → (nonce : Octets 12) → (msg aad : Bytes) → Except Str Bytes
  snpSeal : (launchDigest imageDigest : Str) → (keyPem : Bytes) → (derived : Octets 32) → AmdSpSealMeta →
    (nonce : Octets 12) → Except Str SnpSealedBlob
  snpUnseal : SnpSealedBlob → (launchDigest imageDigest : Str) → (derived : Octets 32) → Except Str Bytes
  amdSpDefault : AmdSpSealMeta
  amdSpRead : Json → Option AmdSpSealMeta
  prettyText : Json → Str

/-- A cipher decrypts what it encrypted. -/
def SealCrates.DecryptsBack (C : SealCrates) : Prop :=
  ∀ key nonce msg aad c, C.encrypt key nonce msg aad = .ok c → C.decrypt key nonce c aad = .ok msg

/-- An ideal cipher: it encrypts every text, decrypts what it encrypted, and decrypts nothing under another key or with
other associated data. -/
structure SealCrates.Ideal (C : SealCrates) : Prop where
  encrypt_ok : ∀ key nonce msg aad, ∃ c, C.encrypt key nonce msg aad = .ok c
  decrypt_encrypt : C.DecryptsBack
  decrypt_bound : ∀ key nonce msg aad c key' nonce' aad' msg', C.encrypt key nonce msg aad = .ok c →
    C.decrypt key' nonce' c aad' = .ok msg' → key' = key ∧ aad' = aad

/-- A sealed key, as it is stored. -/
structure SealedTlsKeyBlob where
  sealVersion : Nat
  measurement : Measurement
  nonceB64 : Str
  ciphertextB64 : Str
  sealDataB64 : Option Str
  amdSp : Option AmdSpSealMeta

def sealAad : Bytes := utf8 "teechat-openapi-tls-key-v1"

def sealVersion : Nat := 1

/-- What `measurement_binding_label` writes between the two digests. -/
def imageDigestLabel : Str := "|image_digest:"

def measurementBindingLabel : Measurement → Str
  | .mrenclave value => "mrenclave:".toList ++ value
  | .launchDigest launchDigest imageDigest =>
    "launch_digest:".toList ++ (launchDigest ++ (imageDigestLabel ++ imageDigest))

section Seal

variable (X : Crates) (C : SealCrates)

def deriveSealKey (binding : Str) (sealRoot : Option (Octets 32)) : Octets 32 :=
  let ikm := match sealRoot with
    | some root => root.val ++ utf8 binding
    | none => utf8 binding
  C.hkdfSha256 ikm (utf8 "teechat-openapi-edge-seal-v1")

def aadFor (binding : Str) : Bytes := sealAad ++ utf8 binding

/-- `seal_tls_private_key`; `nonce` is what it draws.  The cipher takes every key of 32 octets, so `cipher init` does
not occur. -/
def sealTlsPrivateKey (measurement : Measurement) (keyPem : Bytes) (sealRoot : Option (Octets 32)) (nonce : Octets 12) :
    Except PlatformError SealedTlsKeyBlob := do
  failIf (keyPem = []) (.seal "empty tls key")
  let binding := measurementBindingLabel measurement
  let sealKey := deriveSealKey C binding sealRoot
  let ciphertext ← mapErr (fun e => .seal ("encrypt: ".toList ++ e)) (C.encrypt sealKey nonce keyPem (aadFor binding))
  return {
    sealVersion := sealVersion
    measurement := measurement
    nonceB64 := X.base64.encodeUrlSafeNoPad nonce.val
    ciphertextB64 := X.base64.encodeUrlSafeNoPad ciphertext
    sealDataB64 := none
    amdSp := none }

/-- `Nonce::from_slice` behind the check of its length. -/
def nonceFromSlice (nonceBytes : Bytes) : Except PlatformError (Octets 12) :=
  if h : nonceBytes.length = 12 then .ok ⟨nonceBytes, h⟩ else .error (.seal "invalid nonce length")

def aesGcmDecrypt (sealKey : Octets 32) (nonceB64 ciphertextB64 : Str) (aad : Bytes) : Except PlatformError Bytes := do
  let nonceBytes ← mapErr (fun e => .seal ("nonce decode: ".toList ++ e)) (X.base64.urlSafeNoPad nonceB64)
  let nonce ← nonceFromSlice nonceBytes
  let ciphertext ← mapErr (fun e => .seal ("ciphertext decode: ".toList ++ e)) (X.base64.urlSafeNoPad ciphertextB64)
  let plaintext ← mapErr
    (fun _ => .seal "decrypt failed (wrong measurement, AMD-SP key, or tampered blob)")
    (C.decrypt sealKey nonce ciphertext aad)
  failIf (plaintext = []) (.seal "empty tls key after unseal")
  return plaintext

def unsealTlsPrivateKey (blob : SealedTlsKeyBlob) (expectedMeasurement : Measurement) (sealRoot : Option (Octets 32)) :
    Except PlatformError Bytes := do
  failIf (blob.sealVersion ≠ sealVersion) (.seal ("unsupported seal_version ".toList ++ decimal blob.sealVersion ++
    " for HKDF unseal (expected ".toList ++ decimal sealVersion ++ ")".toList))
  failIf (blob.sealDataB64.isSome) (.seal "seal_data_b64 present — use SGX hardware unseal (seal_version 2)")
  failIf (blob.amdSp.isSome) (.seal "amd_sp present — use AMD-SP unseal (seal_version 3)")
  failIf (blob.measurement ≠ expectedMeasurement) (.seal "sealed blob measurement mismatch")
  let binding := measurementBindingLabel expectedMeasurement
  let sealKey := deriveSealKey C binding sealRoot
  aesGcmDecrypt X C sealKey blob.nonceB64 blob.ciphertextB64 (aadFor binding)

/-- `to_snp_measurement`: the two digests. -/
def toSnpMeasurement : Measurement → Except PlatformError (Str × Str)
  | .launchDigest launchDigest imageDigest => .ok (launchDigest, imageDigest)
  | .mrenclave _ => .error (.seal "AMD-SP seal requires launch_digest measurement")

def fromSnpBlob (blob : SnpSealedBlob) : SealedTlsKeyBlob where
  sealVersion := blob.sealVersion
  measurement := .launchDigest blob.launchDigest blob.imageDigest
  nonceB64 := blob.nonceB64
  ciphertextB64 := blob.ciphertextB64
  sealDataB64 := none
  amdSp := some blob.amdSp

def toSnpBlob (blob : SealedTlsKeyBlob) : Except PlatformError SnpSealedBlob := do
  let amdSp ← okOr blob.amdSp (.seal "amd_sp metadata required for seal_version 3")
  let measurement ← toSnpMeasurement blob.measurement
  return {
    sealVersion := blob.sealVersion
    launchDigest := measurement.1
    imageDigest := measurement.2
    nonceB64 := blob.nonceB64
    ciphertextB64 := blob.ciphertextB64
    amdSp := amdSp }

def sealTlsPrivateKeyAmdSp (measurement : Measurement) (keyPem : Bytes) (amdSpDerivedKey : Octets 32)
    (amdSp : AmdSpSealMeta) (nonce : Octets 12) : Except PlatformError SealedTlsKeyBlob := do
  let snp ← toSnpMeasurement measurement
  let blob ← mapErr .seal (C.snpSeal snp.1 snp.2 keyPem amdSpDerivedKey amdSp nonce)
  return fromSnpBlob blob

def unsealTlsPrivateKeyAmdSp (blob : SealedTlsKeyBlob) (expectedMeasurement : Measurement)
    (amdSpDerivedKey : Octets 32) : Except PlatformError Bytes := do
  failIf (blob.sealDataB64.isSome) (.seal "seal_data_b64 present — not an AMD-SP blob")
  let snpBlob ← toSnpBlob blob
  let snp ← toSnpMeasurement expectedMeasurement
  mapErr .seal (C.snpUnseal snpBlob snp.1 snp.2 amdSpDerivedKey)

end Seal

section Spec

variable {X : Crates} {C : SealCrates} {m : Measurement} {key : Bytes} {root : Option (Octets 32)} {nonce : Octets 12}

/-- The blob of a ciphertext. -/
def sealedBlob (X : Crates) (m : Measurement) (nonce : Octets 12) (ciphertext : Bytes) : SealedTlsKeyBlob where
  sealVersion := sealVersion
  measurement := m
  nonceB64 := X.base64.encodeUrlSafeNoPad nonce.val
  ciphertextB64 := X.base64.encodeUrlSafeNoPad ciphertext
  sealDataB64 := none
  amdSp := none

lemma sealTlsPrivateKey_of_encrypt (hkey : key ≠ []) {c : Bytes}
    (hc : C.encrypt (deriveSealKey C (measurementBindingLabel m) root) nonce key (aadFor (measurementBindingLabel m)) =
      .ok c) : sealTlsPrivateKey X C m key root nonce = .ok (sealedBlob X m nonce c) := by
  unfold sealTlsPrivateKey
  have hfull : failIf (key = []) (PlatformError.seal "empty tls key") = .ok () := failIf_eq_ok.mpr hkey
  rw [hfull]
  dsimp only
  rw [hc]
  rfl

lemma nonceFromSlice_eq_ok {nonceBytes : Bytes} {n : Octets 12} :
    nonceFromSlice nonceBytes = .ok n ↔ nonceBytes = n.val := by
  unfold nonceFromSlice
  by_cases h : nonceBytes.length = 12
  · rw [dif_pos h, Except.ok.injEq]
    exact Subtype.ext_iff
  · rw [dif_neg h]
    constructor
    · intro hn
      cases hn
    · rintro rfl
      exact absurd n.property h

lemma aesGcmDecrypt_eq_ok {sealKey : Octets 32} {nonceB64 ciphertextB64 : Str} {aad : Bytes} :
    aesGcmDecrypt X C sealKey nonceB64 ciphertextB64 aad = .ok key ↔
      ∃ (n : Octets 12) (c : Bytes), X.base64.urlSafeNoPad nonceB64 = .ok n.val ∧
        X.base64.urlSafeNoPad ciphertextB64 = .ok c ∧ C.decrypt sealKey n c aad = .ok key ∧ key ≠ [] := by
  simp only [aesGcmDecrypt, bind_eq_ok, mapErr_eq_ok, nonceFromSlice_eq_ok, failIf_eq_ok, pure_eq_ok]
  constructor
  · rintro ⟨_, hn, n, rfl, c, hc, p, hp, -, hne, rfl⟩
    exact ⟨n, c, hn, hc, hp, hne⟩
  · rintro ⟨n, c, hn, hc, hp, hne⟩
    exact ⟨n.val, hn, n, rfl, c, hc, key, hp, (), hne, rfl⟩

lemma unsealTlsPrivateKey_eq_ok {blob : SealedTlsKeyBlob} :
    unsealTlsPrivateKey X C blob m root = .ok key ↔
      blob.sealVersion = sealVersion ∧ blob.sealDataB64 = none ∧ blob.amdSp = none ∧ blob.measurement = m ∧
      aesGcmDecrypt X C (deriveSealKey C (measurementBindingLabel m) root) blob.nonceB64 blob.ciphertextB64
        (aadFor (measurementBindingLabel m)) = .ok key := by
  simp only [unsealTlsPrivateKey, bind_eq_ok, failIf_eq_ok, not_not, Bool.not_eq_true, Option.isSome_eq_false_iff,
    Option.isNone_iff_eq_none, exists_const]

lemma unseal_sealedKey (hb : X.base64.Lawful) (hC : C.DecryptsBack) {blob : SealedTlsKeyBlob}
    (h : sealTlsPrivateKey X C m key root nonce = .ok blob) :
    (∃ c, blob = sealedBlob X m nonce c) ∧ unsealTlsPrivateKey X C blob m root = .ok key := by
  simp only [sealTlsPrivateKey, bind_eq_ok, failIf_eq_ok, mapErr_eq_ok, pure_eq_ok, exists_const] at h
  obtain ⟨hkey, c, hc, rfl⟩ := h
  refine ⟨⟨c, rfl⟩, unsealTlsPrivateKey_eq_ok.mpr ⟨rfl, rfl, rfl, rfl, aesGcmDecrypt_eq_ok.mpr ?_⟩⟩
  exact ⟨nonce, c, hb.urlSafeNoPad_encode _, hb.urlSafeNoPad_encode _, hC _ _ _ _ _ hc, hkey⟩

/-- A blob that was sealed under `m`, its measurement rewritten, opens under `m'` when the two have one label, and only
then. -/
lemma unseal_rewritten (hb : X.base64.Lawful) (hC : C.Ideal) (hkey : key ≠ []) {c : Bytes}
    (hc : C.encrypt (deriveSealKey C (measurementBindingLabel m) root) nonce key (aadFor (measurementBindingLabel m)) =
      .ok c) (w m' : Measurement) (key' : Bytes) :
    unsealTlsPrivateKey X C { sealedBlob X m nonce c with measurement := w } m' root = .ok key' ↔
      w = m' ∧ measurementBindingLabel m' = measurementBindingLabel m ∧ key' = key := by
  rw [unsealTlsPrivateKey_eq_ok, aesGcmDecrypt_eq_ok]
  constructor
  · rintro ⟨-, -, -, hw, n, c', hn, hc', hdec, -⟩
    obtain rfl : c = c' := Except.ok.inj ((hb.urlSafeNoPad_encode c).symm.trans hc')
    obtain rfl : nonce = n := Subtype.ext (Except.ok.inj ((hb.urlSafeNoPad_encode nonce.val).symm.trans hn))
    obtain ⟨hsame, haad⟩ := hC.decrypt_bound _ _ _ _ _ _ _ _ _ hc hdec
    have hlabel : measurementBindingLabel m' = measurementBindingLabel m :=
      utf8_injective (List.append_cancel_left haad)
    rw [hsame, haad, hC.decrypt_encrypt _ _ _ _ _ hc] at hdec
    exact ⟨hw, hlabel, (Except.ok.inj hdec).symm⟩
  · rintro ⟨hw, hlabel, rfl⟩
    refine ⟨rfl, rfl, rfl, hw, nonce, c, hb.urlSafeNoPad_encode _, hb.urlSafeNoPad_encode _, ?_, hkey⟩
    rw [hlabel]
    exact hC.decrypt_encrypt _ _ _ _ _ hc

end Spec

/-- The text between the digests stands in neither of them. -/
def Measurement.Separated : Measurement → Prop
  | .mrenclave _ => True
  | .launchDigest launch image => ¬ imageDigestLabel <:+: launch ∧ ¬ imageDigestLabel <:+: image

lemma label_launchDigest (l i : Str) : measurementBindingLabel (.launchDigest l i) =
    "launch_digest:".toList ++ (l ++ (imageDigestLabel ++ i)) := rfl

lemma label_injective_of_separated {m m' : Measurement} (hm : m.Separated)
    (h : measurementBindingLabel m' = measurementBindingLabel m) : m = m' := by
  cases m with
  | mrenclave value =>
    cases m' with
    | mrenclave value' => rw [List.append_cancel_left h]
    | launchDigest l' i' => exact absurd (List.cons.inj h).1 (by decide)
  | launchDigest l i =>
    cases m' with
    | mrenclave value' => exact absurd (List.cons.inj h).1 (by decide)
    | launchDigest l' i' =>
      have hbar : '|' ∉ "image_digest:".toList := by decide
      obtain ⟨rfl, rfl⟩ := append_infix_injective hbar hm.1 hm.2 (List.append_cancel_left h.symm)
      rfl

lemma exists_same_label {m : Measurement} (hm : ¬ m.Separated) :
    ∃ m', m' ≠ m ∧ measurementBindingLabel m' = measurementBindingLabel m := by
  cases m with
  | mrenclave value => exact absurd trivial hm
  | launchDigest l i =>
    have hlabel : imageDigestLabel ≠ [] := List.cons_ne_nil _ _
    rcases not_and_or.mp hm with hl | hi
    · obtain ⟨u, v, rfl⟩ := not_not.mp hl
      refine ⟨.launchDigest u (v ++ (imageDigestLabel ++ i)), ?_, ?_⟩
      · intro heq
        have hu := (Measurement.launchDigest.inj heq).1
        rw [List.append_assoc, List.self_eq_append_right] at hu
        exact hlabel (List.append_eq_nil_iff.mp hu).1
      · rw [label_launchDigest, label_launchDigest, List.append_assoc, List.append_assoc]
    · obtain ⟨u, v, rfl⟩ := not_not.mp hi
      refine ⟨.launchDigest (l ++ (imageDigestLabel ++ u)) v, ?_, ?_⟩
      · intro heq
        have hl := (Measurement.launchDigest.inj heq).1
        rw [List.append_right_eq_self] at hl
        exact hlabel (List.append_eq_nil_iff.mp hl).1
      · rw [label_launchDigest, label_launchDigest, List.append_assoc, List.append_assoc, List.append_assoc u]

/-- **The measurements whose label is theirs alone.** -/
theorem label_injective_iff (m : Measurement) :
    (∀ m', measurementBindingLabel m' = measurementBindingLabel m → m = m') ↔ m.Separated := by
  constructor
  · intro hinj
    by_contra hsep
    obtain ⟨m', hne, hlabel⟩ := exists_same_label hsep
    exact hne (hinj m' hlabel).symm
  · exact fun hsep m' hlabel => label_injective_of_separated hsep hlabel

/-- **Sealing and measurements.**  With an ideal cipher a key that is not empty is sealed and comes back; and the blob,
with any measurement written into it, opens under the sealing measurement only, exactly when the text between the two
digests of that measurement stands in neither of them. -/
theorem seal_measurement_bound_iff {X : Crates} {C : SealCrates} (hb : X.base64.Lawful) (hC : C.Ideal)
    (m : Measurement) (key : Bytes) (hkey : key ≠ []) (root : Option (Octets 32)) (nonce : Octets 12) :
    ∃ blob, sealTlsPrivateKey X C m key root nonce = .ok blob ∧ unsealTlsPrivateKey X C blob m root = .ok key ∧
      ((∀ w m' key', unsealTlsPrivateKey X C { blob with measurement := w } m' root = .ok key' → m = m') ↔
        m.Separated) := by
  obtain ⟨c, hc⟩ := hC.encrypt_ok (deriveSealKey C (measurementBindingLabel m) root) nonce key
    (aadFor (measurementBindingLabel m))
  have hopens := unseal_rewritten hb hC hkey hc
  refine ⟨sealedBlob X m nonce c, sealTlsPrivateKey_of_encrypt hkey hc, (hopens m m key).mpr ⟨rfl, rfl, rfl⟩, ?_⟩
  rw [← label_injective_iff m]
  constructor
  · intro hbound m' hlabel
    exact hbound m' m' key ((hopens m' m' key).mpr ⟨rfl, hlabel, rfl⟩)
  · intro hinj w m' key' hopen
    exact hinj m' ((hopens w m' key').mp hopen).2.1

/-- What stands before the text: key, nonce and associated data, the latter behind its length. -/
def clearHeader (key : Octets 32) (nonce : Octets 12) (aad : Bytes) : Bytes :=
  key.val ++ (nonce.val ++ (List.replicate aad.length 1 ++ 0 :: aad))

lemma clearHeader_injective {key key' : Octets 32} {nonce nonce' : Octets 12} {aad aad' r r' : Bytes}
    (h : clearHeader key nonce aad ++ r = clearHeader key' nonce' aad' ++ r') :
    key' = key ∧ aad' = aad ∧ r' = r := by
  simp only [clearHeader, List.append_assoc, List.cons_append] at h
  obtain ⟨hkey, h⟩ := List.append_inj h (key.property.trans key'.property.symm)
  obtain ⟨-, h⟩ := List.append_inj h (nonce.property.trans nonce'.property.symm)
  have hone : ∀ n : Nat, (0 : UInt8) ∉ List.replicate n 1 := by
    intro n hmem
    exact absurd (List.mem_replicate.mp hmem).2 (by decide)
  obtain ⟨hlen, h⟩ := append_sep_injective (hone _) (hone _) h
  have hlen' : aad.length = aad'.length := by
    have := congrArg List.length hlen
    rwa [List.length_replicate, List.length_replicate] at this
  obtain ⟨haad, hr⟩ := List.append_inj h hlen'
  exact ⟨Subtype.ext hkey.symm, haad.symm, hr.symm⟩

/-- An ideal cipher that hides nothing: the key, the nonce and the associated data stand in the ciphertext. -/
def SealCrates.clear : SealCrates where
  hkdfSha256 _ _ := ⟨List.replicate 32 7, rfl⟩
  encrypt key nonce msg aad := .ok (clearHeader key nonce aad ++ msg)
  decrypt key nonce msg aad :=
    if clearHeader key nonce aad <+: msg then .ok (msg.drop (clearHeader key nonce aad).length)
    else .error "aead::Error"
  snpSeal _ _ _ _ _ _ := .error "no AMD-SP"
  snpUnseal _ _ _ _ := .error "no AMD-SP"
  amdSpDefault := .object []
  amdSpRead := some
  prettyText := renderText

lemma SealCrates.clear_ideal : SealCrates.clear.Ideal where
  encrypt_ok _ _ _ _ := ⟨_, rfl⟩
  decrypt_encrypt key nonce msg aad c hc := by
    obtain rfl := Except.ok.inj hc
    refine (if_pos (List.prefix_append _ _)).trans ?_
    rw [List.drop_left]
  decrypt_bound key nonce msg aad c key' nonce' aad' msg' hc hdec := by
    obtain rfl := Except.ok.inj hc
    by_cases hhead : clearHeader key' nonce' aad' <+: clearHeader key nonce aad ++ msg
    · obtain ⟨r, hr⟩ := hhead
      obtain ⟨hkey, haad, -⟩ := clearHeader_injective hr.symm
      exact ⟨hkey, haad⟩
    · have hrefused := (if_neg hhead).symm.trans hdec
      cases hrefused

def launchedAsPair : Measurement := .launchDigest "a|image_digest:b" "c"

def imageAsPair : Measurement := .launchDigest "a" "b|image_digest:c"

def zeroNonce : Octets 12 := ⟨List.replicate 12 0, rfl⟩

/-- A key sealed to one measurement opens under another, with no seal root: the measurement in the blob is rewritten and
the rest is left as it is. -/
theorem sealed_to_one_opens_under_another :
    launchedAsPair ≠ imageAsPair ∧
    ∃ blob, sealTlsPrivateKey (CrateTables.crates {}) SealCrates.clear launchedAsPair [0x6b] none zeroNonce = .ok blob ∧
      unsealTlsPrivateKey (CrateTables.crates {}) SealCrates.clear { blob with measurement := imageAsPair } imageAsPair
        none = .ok [0x6b] := by
  refine ⟨by decide, ?_⟩
  obtain ⟨c, hc⟩ := SealCrates.clear_ideal.encrypt_ok
    (deriveSealKey SealCrates.clear (measurementBindingLabel launchedAsPair) none) zeroNonce [0x6b]
    (aadFor (measurementBindingLabel launchedAsPair))
  refine ⟨_, sealTlsPrivateKey_of_encrypt (List.cons_ne_nil _ _) hc, ?_⟩
  rw [unseal_rewritten Base64.rfc4648_lawful SealCrates.clear_ideal (List.cons_ne_nil _ _) hc]
  exact ⟨rfl, rfl, rfl⟩

def hexLaunch : Measurement := .launchDigest "aa11" "bb22"

theorem seal_measurement_bound_iff_hex :
    hexLaunch.Separated ∧
    ∃ blob, sealTlsPrivateKey (CrateTables.crates {}) SealCrates.clear hexLaunch [0x6b] none zeroNonce = .ok blob ∧
      unsealTlsPrivateKey (CrateTables.crates {}) SealCrates.clear blob hexLaunch none = .ok [0x6b] ∧
      ∀ w m' key', unsealTlsPrivateKey (CrateTables.crates {}) SealCrates.clear { blob with measurement := w } m' none =
        .ok key' → hexLaunch = m' := by
  have hsep : hexLaunch.Separated := ⟨by decide, by decide⟩
  obtain ⟨blob, hseal, hopen, hbound⟩ := seal_measurement_bound_iff (X := CrateTables.crates {})
    Base64.rfc4648_lawful SealCrates.clear_ideal hexLaunch [0x6b] (List.cons_ne_nil _ _) none zeroNonce
  exact ⟨hsep, blob, hseal, hopen, hbound.mpr hsep⟩

end TeechatOpenapi.Platform
