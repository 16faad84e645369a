import TeechatOpenapi.Lib.Layout
import TeechatOpenapi.Platform.EngineRecipient

/-!
# What an identity signature binds (`openapi-platform/src/engine_trust.rs`)

A pinned identity signs five texts of a trust document joined with NUL, without escaping; the start of the epoch is
not one of them.
-/

namespace TeechatOpenapi.Platform

open Lib Encoding

/-- The texts that an identity signs. -/
def EphemeralEngineTrust.signedTexts (trust : EphemeralEngineTrust) : List Str :=
  [trust.engineId, trust.epochId, trust.notAfter, trust.mlkemEncapsulationKey, trust.x25519Public]

/-- The holder of a key that signs nothing but NUL-free documents, under a scheme without forgeries: what verifies was
signed, and one signature is not for two messages. -/
structure HonestSigner (X : Crates) (key : Bytes) where
  signed : EphemeralEngineTrust → Bytes → Prop
  nulFree : ∀ trust sig, signed trust sig → ∀ s ∈ trust.signedTexts, nul ∉ s
  unforgeable : ∀ message sig, X.ed25519.verify key message sig = true →
    ∃ trust, signed trust sig ∧ message = ephemeralSigningBytes trust
  binding : ∀ trust trust' sig, signed trust sig → signed trust' sig →
    ephemeralSigningBytes trust = ephemeralSigningBytes trust'

lemma signedTexts_of_signingBytes {a b : EphemeralEngineTrust} (ha : ∀ s ∈ a.signedTexts, nul ∉ s)
    (h : ephemeralSigningBytes a = ephemeralSigningBytes b) : a.signedTexts = b.signedTexts := by
  have hfree : ∀ s ∈ "OPE-ENGINE-EPHEMERAL-v1".toList :: a.signedTexts, nul ∉ s := by
    intro s hs
    rcases List.mem_cons.mp hs with rfl | hs
    · decide
    · exact ha s hs
  have hjoin : "OPE-ENGINE-EPHEMERAL-v1".toList :: a.signedTexts =
      "OPE-ENGINE-EPHEMERAL-v1".toList :: b.signedTexts :=
    intercalate_injective rfl hfree (utf8_injective h)
  exact (List.cons.inj hjoin).2

lemma subject_eq_iff {a b : EphemeralEngineTrust} (h : a.signedTexts = b.signedTexts) :
    a.subject = b.subject ↔ a.notBefore = b.notBefore := by
  simp only [EphemeralEngineTrust.signedTexts, List.cons.injEq, and_true] at h
  obtain ⟨hengine, hepoch, hafter, hmlkem, hx25519⟩ := h
  constructor
  · intro hsubject
    exact congrArg EpochEvidenceSubject.notBefore hsubject
  · intro hbefore
    unfold EphemeralEngineTrust.subject
    rw [hengine, hepoch, hbefore, hafter, hmlkem, hx25519]

section Accepted

variable {X : Crates} {key : Bytes} {pins : EngineIdentityPins} {trust : EphemeralEngineTrust} {nowMs skewMs : Nat}

/-- The key that the pins hold for the engine of a document. -/
def EngineIdentityPins.pinnedKey (X : Crates) (pins : EngineIdentityPins) (trust : EphemeralEngineTrust) :
    Option (Except EngineTrustError Bytes) :=
  (pins.pinnedPublicKey trust.engineId).map (decodePublicKey X)

/-- An accepted document carries a signature of the pinned key over its texts. -/
lemma verifyEphemeralEngineTrust_signature (hkey : pins.pinnedKey X trust = some (.ok key))
    (h : verifyEphemeralEngineTrust X pins trust nowMs skewMs = .ok ()) :
    ∃ raw sig, decodeBase64url X trust.identitySignature = .ok raw ∧ X.ed25519.signatureFromSlice raw = .ok sig ∧
      X.ed25519.verify key (ephemeralSigningBytes trust) sig = true := by
  obtain ⟨-, pinned, key', raw, sig, hpin, hkey', -, -, hraw, hsig, hverify⟩ :=
    (verifyEphemeralEngineTrust_eq_ok X).mp h
  rw [EngineIdentityPins.pinnedKey, hpin, Option.map_some, hkey'] at hkey
  obtain rfl := Except.ok.inj (Option.some.inj hkey)
  exact ⟨raw, sig, hraw, hsig, hverify⟩

lemma HonestSigner.signed_of_accepted (signer : HonestSigner X key) (hkey : pins.pinnedKey X trust = some (.ok key))
    (h : verifyEphemeralEngineTrust X pins trust nowMs skewMs = .ok ()) :
    ∃ raw sig honest, decodeBase64url X trust.identitySignature = .ok raw ∧
      X.ed25519.signatureFromSlice raw = .ok sig ∧ signer.signed honest sig ∧
      honest.signedTexts = trust.signedTexts := by
  obtain ⟨raw, sig, hraw, hsig, hverify⟩ := verifyEphemeralEngineTrust_signature hkey h
  obtain ⟨honest, hsigned, hmessage⟩ := signer.unforgeable _ sig hverify
  have htexts := signedTexts_of_signingBytes (signer.nulFree honest sig hsigned) hmessage.symm
  exact ⟨raw, sig, honest, hraw, hsig, hsigned, htexts⟩

end Accepted

/-- **What identity acceptance binds.**  Under one honest key, whatever the pins, times and skews: two accepted
documents with the same signature agree on engine, epoch, end and keys, and on everything that names the epoch exactly
when they agree on its start. -/
theorem identity_binds_document_iff (X : Crates) (key : Bytes) (signer : HonestSigner X key)
    (pins pins' : EngineIdentityPins) (a b : EphemeralEngineTrust) (nowMs nowMs' skewMs skewMs' : Nat)
    (hpin : pins.pinnedKey X a = some (.ok key)) (hpin' : pins'.pinnedKey X b = some (.ok key))
    (ha : verifyEphemeralEngineTrust X pins a nowMs skewMs = .ok ())
    (hb : verifyEphemeralEngineTrust X pins' b nowMs' skewMs' = .ok ())
    (hsame : decodeBase64url X a.identitySignature = decodeBase64url X b.identitySignature) :
    a.signedTexts = b.signedTexts ∧ (a.subject = b.subject ↔ a.notBefore = b.notBefore) := by
  obtain ⟨raw, sig, honest, hraw, hsig, hsigned, htexts⟩ := signer.signed_of_accepted hpin ha
  obtain ⟨raw', sig', honest', hraw', hsig', hsigned', htexts'⟩ := signer.signed_of_accepted hpin' hb
  -- one signature, so one message
  obtain rfl : raw = raw' := Except.ok.inj (hraw.symm.trans (hsame.trans hraw'))
  obtain rfl : sig = sig' := Except.ok.inj (hsig.symm.trans hsig')
  have hmessage := signer.binding honest honest' sig hsigned hsigned'
  have hhonest := signedTexts_of_signingBytes (signer.nulFree honest sig hsigned) hmessage
  have hagree : a.signedTexts = b.signedTexts := htexts.symm.trans (hhonest.trans htexts')
  exact ⟨hagree, subject_eq_iff hagree⟩

namespace Sample

def signedTables : CrateTables where
  signatures := [(identityKey, ephemeralSigningBytes trust, identitySignature)]

def signer : HonestSigner signedTables.crates identityKey where
  signed t sig := t = trust ∧ sig = identitySignature
  nulFree := by
    rintro t sig ⟨rfl, -⟩
    decide
  unforgeable := by
    intro message sig h
    have hmem := List.mem_singleton.mp (of_decide_eq_true h)
    obtain ⟨hmessage, hsig⟩ := Prod.mk.inj (Prod.mk.inj hmem).2
    exact ⟨trust, ⟨rfl, hsig⟩, hmessage⟩
  binding := by
    rintro t t' sig ⟨rfl, -⟩ ⟨rfl, -⟩
    rfl

lemma identityPins_sorted :
    [(("e1" : Str), encodeRaw true identityKey)].Pairwise fun a b => a.1 < b.1 := List.pairwise_singleton _ _

def identityPins : EngineIdentityPins := ⟨[("e1", encodeRaw true identityKey)], identityPins_sorted⟩

def backdated : EphemeralEngineTrust := { trust with notBefore := "2020-01-01T00:00:00Z" }

lemma accept_signed :
    verifyEphemeralEngineTrust signedTables.crates identityPins trust 1785542400000 300000 = .ok () := by
  decide

lemma accept_backdated :
    verifyEphemeralEngineTrust signedTables.crates identityPins backdated 1785542400000 300000 = .ok () := by
  decide

lemma pinned_identity : identityPins.pinnedKey signedTables.crates trust = some (.ok identityKey) := by decide

lemma same_signature : trust.identitySignature = backdated.identitySignature := rfl

lemma same_engine : trust.engineId = backdated.engineId := rfl

lemma pinned_backdated : identityPins.pinnedKey signedTables.crates backdated = some (.ok identityKey) := by
  rw [EngineIdentityPins.pinnedKey, ← same_engine]
  exact pinned_identity

end Sample

theorem identity_binds_document_iff_sample :
    Sample.trust.signedTexts = Sample.backdated.signedTexts ∧
      (Sample.trust.subject = Sample.backdated.subject ↔ Sample.trust.notBefore = Sample.backdated.notBefore) :=
  identity_binds_document_iff Sample.signedTables.crates Sample.identityKey Sample.signer Sample.identityPins
    Sample.identityPins Sample.trust Sample.backdated 1785542400000 1785542400000 300000 300000 Sample.pinned_identity
    Sample.pinned_backdated Sample.accept_signed Sample.accept_backdated (congrArg _ Sample.same_signature)

/-- **The start is not bound**: with its start moved back by years, the document of `e1` is accepted under the same
signature, under the key of an honest signer. -/
theorem start_not_bound :
    ∃ signer : HonestSigner Sample.signedTables.crates Sample.identityKey,
      signer.signed Sample.trust Sample.identitySignature ∧
      Sample.identityPins.pinnedKey Sample.signedTables.crates Sample.trust = some (.ok Sample.identityKey) ∧
      verifyEphemeralEngineTrust Sample.signedTables.crates Sample.identityPins Sample.trust 1785542400000 300000 =
        .ok () ∧
      verifyEphemeralEngineTrust Sample.signedTables.crates Sample.identityPins Sample.backdated 1785542400000 300000 =
        .ok () ∧
      Sample.trust.identitySignature = Sample.backdated.identitySignature ∧
      Sample.trust.notBefore ≠ Sample.backdated.notBefore := by
  refine ⟨Sample.signer, And.intro rfl rfl, Sample.pinned_identity, Sample.accept_signed, Sample.accept_backdated,
    Sample.same_signature, ?_⟩
  decide

end TeechatOpenapi.Platform
