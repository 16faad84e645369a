import TeechatOpenapi.Cvm.Tls

/-!
# The sealer of the SGX edge (`openapi-platform-sgx/src/seal.rs`)

In an enclave the TLS key is sealed under a key that the processor derives from the enclave's measurement (`EGETKEY`);
a build for the host derives a key as the other platforms do.

The processor and its crates are a parameter (`Enclave`).
-/

namespace TeechatOpenapi.Sgx

open Lib Platform

/-- `sgx_isa::Report::for_self()`, what the sealer reads of it. -/
structure Report where
  mrenclave : Octets 32
  isvsvn : UInt16
  cpusvn : Octets 16
  flags : UInt64
  xfrm : UInt64
  miscselect : UInt32

/-- The processor: the report of the enclave and `EGETKEY` with the sealing key name and the policy `MRENCLAVE`; the
error is the debug text of its code.  `knownFlags` and `knownMiscselect` are `from_bits_truncate` of `sgx_isa`, and
`hkdfSha256` is `hkdf` with a salt. -/
structure Enclave where
  report : Report
  egetkey : (isvsvn : UInt16) → (cpusvn : Octets 16) → (keyid : Octets 32) → Except Str (Octets 16)
  knownFlags : UInt64 → UInt64
  knownMiscselect : UInt32 → UInt32
  hkdfSha256 : (salt ikm info : Bytes) → Octets 32
  flags_known : knownFlags report.flags = report.flags
  miscselect_known : knownMiscselect report.miscselect = report.miscselect

/-- What the processor's key is derived from. -/
structure SealData where
  rand : Octets 16
  isvsvn : UInt16
  cpusvn : Octets 16
  flags : UInt64
  xfrm : UInt64
  miscselect : UInt32

/-- Seal data, as a blob has them. -/
structure SealDataWire where
  randB64 : Str
  isvsvn : UInt16
  cpusvnB64 : Str
  attributes : UInt64 × UInt64
  miscselect : UInt32

def sealVersionSgxEgetkey : Nat := 2

def sgxTlsSealLabel : Octets 16 := ⟨utf8 "teechat-tls-seal", rfl⟩

def sgxSealRootLabel : Octets 16 := ⟨utf8 "teechat-sgx-seal", rfl⟩

def sealRootLabelB : Octets 16 := ⟨utf8 "teechat-sgx-root", rfl⟩

def decodeFixed (X : Crates) (n : Nat) (b64 field : Str) : Except PlatformError (Octets n) := do
  let bytes ← mapErr (fun e => .seal (field ++ " decode: ".toList ++ e)) (X.base64.urlSafeNoPad b64)
  if h : bytes.length = n then .ok ⟨bytes, h⟩
  else .error (.seal (field ++ " must be ".toList ++ decimal n ++ " bytes".toList))

def SealData.toWire (X : Crates) (d : SealData) : SealDataWire where
  randB64 := X.base64.encodeUrlSafeNoPad d.rand.val
  isvsvn := d.isvsvn
  cpusvnB64 := X.base64.encodeUrlSafeNoPad d.cpusvn.val
  attributes := (d.flags, d.xfrm)
  miscselect := d.miscselect

def SealData.fromWire (X : Crates) (H : Enclave) (w : SealDataWire) : Except PlatformError SealData := do
  let rand ← decodeFixed X 16 w.randB64 "seal_data.rand"
  let cpusvn ← decodeFixed X 16 w.cpusvnB64 "seal_data.cpusvn"
  return {
    rand, cpusvn
    isvsvn := w.isvsvn
    flags := H.knownFlags w.attributes.1
    xfrm := w.attributes.2
    miscselect := H.knownMiscselect w.miscselect }

def SealDataWire.tree (w : SealDataWire) : Json :=
  .object [("rand_b64", .string w.randB64), ("isvsvn", .number (.posInt w.isvsvn.toNat)),
    ("cpusvn_b64", .string w.cpusvnB64),
    ("attributes", .array [.number (.posInt w.attributes.1.toNat), .number (.posInt w.attributes.2.toNat)]),
    ("miscselect", .number (.posInt w.miscselect.toNat))]

/-- An array of two `u64`. -/
def readPair : Json → Option (UInt64 × UInt64)
  | .array [a, b] => do
    return (UInt64.ofNat (← Json.asUnsigned? u64Max a), UInt64.ofNat (← Json.asUnsigned? u64Max b))
  | _ => none

def SealDataWire.read (j : Json) : Option SealDataWire := do
  return {
    randB64 := ← Json.required Json.asStr? (j.slot 5 0 "rand_b64")
    isvsvn := UInt16.ofNat (← Json.required (Json.asUnsigned? (2 ^ 16 - 1)) (j.slot 5 1 "isvsvn"))
    cpusvnB64 := ← Json.required Json.asStr? (j.slot 5 2 "cpusvn_b64")
    attributes := ← Json.required readPair (j.slot 5 3 "attributes")
    miscselect := UInt32.ofNat (← Json.required (Json.asUnsigned? (2 ^ 32 - 1)) (j.slot 5 4 "miscselect")) }

section Hardware

variable (X : Crates) (C : SealCrates) (H : Enclave)

def egetkey (label : Octets 16) (d : SealData) : Except Str (Octets 16) :=
  H.egetkey d.isvsvn d.cpusvn ⟨label.val ++ d.rand.val, by rw [List.length_append, label.2, d.rand.2]⟩

/-- The seal data of this enclave with `rand`. -/
def sealDataOf (rand : Octets 16) : SealData where
  rand := rand
  isvsvn := H.report.isvsvn
  cpusvn := H.report.cpusvn
  flags := H.report.flags
  xfrm := H.report.xfrm
  miscselect := H.report.miscselect

/-- `seal_key`; `rand` is what it draws. -/
def sealKey (label : Octets 16) (rand : Octets 16) : Except PlatformError (Octets 16 × SealData) := do
  let key ← mapErr (fun e => .seal ("EGETKEY seal: ".toList ++ e)) (egetkey H label (sealDataOf H rand))
  return (key, sealDataOf H rand)

def unsealKey (label : Octets 16) (d : SealData) : Except PlatformError (Octets 16) := do
  failIf ((H.report.flags, H.report.xfrm) ≠ (d.flags, d.xfrm) ∨ H.report.miscselect ≠ d.miscselect)
    (.seal "seal_data attributes mismatch with current enclave")
  mapErr (fun e => .seal ("EGETKEY unseal: ".toList ++ e)) (egetkey H label d)

def expandEgetkeyToAes256 (sealKey : Octets 16) (binding : Str) : Octets 32 :=
  H.hkdfSha256 sealKey.val (utf8 binding) (utf8 "teechat-openapi-sgx-aes-v1")

/-- `seal_tls_private_key` of the enclave build; `rand` and `nonce` are what it draws. -/
def hwSealTlsPrivateKey (measurement : Measurement) (keyPem : Bytes) (rand : Octets 16) (nonce : Octets 12) :
    Except PlatformError SealedTlsKeyBlob := do
  failIf (keyPem = []) (.seal "empty tls key")
  let (key, data) ← sealKey H sgxTlsSealLabel rand
  let binding := measurementBindingLabel measurement
  let ciphertext ← mapErr (fun e => .seal ("encrypt: ".toList ++ e))
    (C.encrypt (expandEgetkeyToAes256 H key binding) nonce keyPem (aadFor binding))
  return {
    sealVersion := sealVersionSgxEgetkey
    measurement := measurement
    nonceB64 := X.base64.encodeUrlSafeNoPad nonce.val
    ciphertextB64 := X.base64.encodeUrlSafeNoPad ciphertext
    sealDataB64 := some (X.base64.encodeUrlSafeNoPad (utf8 (X.json.structText (data.toWire X).tree)))
    amdSp := none }

/-- `unseal_tls_private_key` of the enclave build. -/
def hwUnsealTlsPrivateKey (blob : SealedTlsKeyBlob) : Except PlatformError Bytes := do
  let sealDataB64 ← okOr blob.sealDataB64 (.seal "missing seal_data_b64 for seal_version 2")
  let sealDataJson ← mapErr (fun e => .seal ("seal_data decode: ".toList ++ e)) (X.base64.urlSafeNoPad sealDataB64)
  let wire ← mapErr (fun e => .seal ("seal_data parse: ".toList ++ e)) (X.fromSlice SealDataWire.read sealDataJson)
  let data ← SealData.fromWire X H wire
  let binding := measurementBindingLabel blob.measurement
  let key ← unsealKey H sgxTlsSealLabel data
  let nonceBytes ← mapErr (fun e => .seal ("nonce decode: ".toList ++ e)) (X.base64.urlSafeNoPad blob.nonceB64)
  let nonce ← nonceFromSlice nonceBytes
  let ciphertext ← mapErr (fun e => .seal ("ciphertext decode: ".toList ++ e))
    (X.base64.urlSafeNoPad blob.ciphertextB64)
  let plaintext ← mapErr (fun _ => .seal "decrypt failed (wrong enclave, tampered blob, or TCB downgrade)")
    (C.decrypt (expandEgetkeyToAes256 H key binding) nonce ciphertext (aadFor binding))
  failIf (plaintext = []) (.seal "empty tls key after unseal")
  return plaintext

def deriveProdSealRoot : Except PlatformError (Octets 32) := do
  let zero : Octets 16 := ⟨List.replicate 16 0, rfl⟩
  let k1 ← mapErr (fun e => .seal ("EGETKEY seal root: ".toList ++ e))
    (egetkey H sgxSealRootLabel (sealDataOf H zero))
  let k2 ← mapErr (fun e => .seal ("EGETKEY seal root: ".toList ++ e)) (egetkey H sealRootLabelB (sealDataOf H zero))
  return ⟨k1.val ++ k2.val, by rw [List.length_append, k1.2, k2.2]⟩

end Hardware

/-- The sealer of an enclave with this measurement. -/
structure SgxSealer where
  mrenclave : Str

namespace SgxSealer

variable (X : Crates) (C : SealCrates) (H : Enclave) (host : Host)

def sealingMeasurement (S : SgxSealer) : Measurement := .mrenclave S.mrenclave

/-- The text of a `Measurement` in an error, `{:?}`. -/
def debugMeasurement : Measurement → Str
  | .mrenclave value => "Mrenclave \x7b value: ".toList ++ X.debugStr value ++ " \x7d".toList
  | .launchDigest launch image => "LaunchDigest \x7b launch_digest: ".toList ++ X.debugStr launch ++
      ", image_digest: ".toList ++ X.debugStr image ++ " \x7d".toList

def verifyBlobMeasurement (S : SgxSealer) (blob : SealedTlsKeyBlob) : Except PlatformError Unit :=
  failIf (blob.measurement ≠ S.sealingMeasurement) (.seal ("sealed blob mrenclave mismatch: blob=".toList ++
    debugMeasurement X blob.measurement ++ " runtime=".toList ++ debugMeasurement X S.sealingMeasurement))

def resolveSealRoot (S : SgxSealer) (hostSupplied : Option (Octets 32)) (prod : Bool) :
    Except PlatformError (Option (Octets 32)) :=
  if prod then do
    failIf hostSupplied.isSome (.seal "OPENAPI_SEAL_ROOT_HEX must not be host-supplied in prod")
    if host.sgx then return some (← deriveProdSealRoot H)
    else return some (deriveSealKey C ("sgx-prod-seal-root|".toList ++ S.mrenclave) none)
  else return hostSupplied

/-- `seal_tls_key`; `rand` and `nonce` are what it draws. -/
def sealTlsKey (S : SgxSealer) (keyPem : Bytes) (sealRoot : Option (Octets 32)) (rand : Octets 16)
    (nonce : Octets 12) : Except PlatformError SealedTlsKeyBlob :=
  if host.sgx then hwSealTlsPrivateKey X C H S.sealingMeasurement keyPem rand nonce
  else sealTlsPrivateKey X C S.sealingMeasurement keyPem sealRoot nonce

def unsealTlsKey (S : SgxSealer) (blob : SealedTlsKeyBlob) (sealRoot : Option (Octets 32)) :
    Except PlatformError Bytes := do
  S.verifyBlobMeasurement X blob
  if blob.sealVersion = sealVersionSgxEgetkey then
    if host.sgx then hwUnsealTlsPrivateKey X C H blob
    else .error (.seal "seal_version 2 requires SGX enclave (EGETKEY)")
  else if blob.sealVersion = sealVersion then unsealTlsPrivateKey X C blob S.sealingMeasurement sealRoot
  else .error (.seal ("unsupported seal_version ".toList ++ decimal blob.sealVersion))

end SgxSealer

section RoundTrip

variable {X : Crates} {C : SealCrates} {H : Enclave} {host : Host} {S : SgxSealer} {key : Bytes}
  {root : Option (Octets 32)} {rand : Octets 16} {nonce : Octets 12} {blob : SealedTlsKeyBlob}

end RoundTrip

end TeechatOpenapi.Sgx
