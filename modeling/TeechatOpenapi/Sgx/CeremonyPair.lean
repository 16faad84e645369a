import TeechatOpenapi.Sgx.AcmeCeremony

/-!
# The stored key and the stored certificate

A ceremony stores the sealed key and the certificate in two calls.  An issue makes a new key and looks at nothing of the
chain that comes back, and a key that was stored need not be followed by its certificate.
-/

namespace TeechatOpenapi.Sgx

open Lib Platform

section Pairs

variable (X : Crates) (C : SealCrates) (H : Enclave) (T : Cvm.TlsCrates) (w : CeremonyWorld)

/-- The key and the certificate are those that were stored. -/
def Kept (helper : CeremonyHelperClient) (d d' : Disk) : Prop :=
  d' (helper.slottedArtifactName sealedKeyName) = d (helper.slottedArtifactName sealedKeyName) ∧
    d' (helper.slottedArtifactName tlsCrtName) = d (helper.slottedArtifactName tlsCrtName)

end Pairs

section Left

variable (X : Crates) (C : SealCrates) (H : Enclave) (T : Cvm.TlsCrates) (w : CeremonyWorld)

end Left

section Steps

variable {X : Crates} {C : SealCrates} {H : Enclave} {T : Cvm.TlsCrates} {w : CeremonyWorld}
  {helper : CeremonyHelperClient} {d d' : Disk} {sealer : SgxSealer} {sealRoot : Option (Octets 32)}

end Steps

section Run

variable {X : Crates} {C : SealCrates} {H : Enclave} {T : Cvm.TlsCrates} {w : CeremonyWorld}
  {helper : CeremonyHelperClient} {d : Disk} {K : Bytes → Option Bytes} {mode : AcmeMode}

lemma Kept.refl (helper : CeremonyHelperClient) (d : Disk) : Kept helper d d := ⟨rfl, rfl⟩

end Run

namespace Sample

lemma mrenclave_length : (List.replicate 32 (1 : UInt8)).length = 32 := rfl

lemma zeros_length : (List.replicate 16 (0 : UInt8)).length = 16 := rfl

lemma nonce_length : (List.replicate 12 (0 : UInt8)).length = 12 := rfl

lemma derived_length : (List.replicate 32 (7 : UInt8)).length = 32 := rfl

def enclave : Enclave where
  report := ⟨⟨List.replicate 32 1, mrenclave_length⟩, 1, ⟨List.replicate 16 0, zeros_length⟩, 5, 3, 0⟩
  egetkey _ _ _ := .ok ⟨List.replicate 16 0, zeros_length⟩
  knownFlags flags := flags
  knownMiscselect miscselect := miscselect
  hkdfSha256 _ _ _ := ⟨List.replicate 32 7, derived_length⟩
  flags_known := rfl
  miscselect_known := rfl

def spki (key : UInt8) : Bytes := [0x30, 1, key]

def acmeSide (chain : Str) : AcmeSide where
  openAccount _ := .ok ()
  createAccount _ _ := .ok "account"
  newOrder _ := .ok .ready
  authorizations := .ok []
  place _ := .ok ()
  setChallengeReady _ := .ok ()
  refresh _ := .ok .ready
  clear _ := .ok ()
  fromPkcs8Pem _ := .ok ()
  generate := .ok "a"
  buildCsrDer _ _ := .ok []
  finalize _ := .ok ()
  certificate _ _ := .ok (some chain)

def world (chain : Str) : CeremonyWorld where
  host := {
    env := fun name =>
      if name = "OPENAPI_PROFILE" then some "prod" else if name = "OPENAPI_ACME_DOMAIN" then some "edge.test" else none
    dataIsDir := false
    tempDir := "/tmp"
    sgx := true }
  cryptoProvider := .ok ()
  endpoint := .ok ()
  accountGet := .served
  sealedGet := .served
  certGet := .served
  accountPut := .stored
  sealedPut := .stored
  certPut := .stored
  acme := acmeSide chain
  rand := ⟨List.replicate 16 0, zeros_length⟩
  nonce := ⟨List.replicate 12 0, nonce_length⟩

def setup : CeremonySetup := ⟨false, "edge.test", none, ⟨none⟩⟩

end Sample

end TeechatOpenapi.Sgx
