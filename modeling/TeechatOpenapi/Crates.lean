import TeechatOpenapi.Lib.JsonText

/-!
# The third-party crates

The edge calls crates whose source is not part of the repository.  Each is a parameter: a record of the
functions the edge calls.  Error texts are the crate's `Display` texts.  What a proof needs to know of a crate is a
hypothesis of that proof (`Base64.Lawful`, ..), stated as the crate documents it.
-/

namespace TeechatOpenapi

open Lib

/-- `base64`: the engines `STANDARD`, `URL_SAFE` and `URL_SAFE_NO_PAD`. -/
structure Base64 where
  standard : Str → Except Str Bytes
  urlSafe : Str → Except Str Bytes
  urlSafeNoPad : Str → Except Str Bytes
  encodeStandard : Bytes → Str
  encodeUrlSafeNoPad : Bytes → Str

/-- The documented behaviour of `base64`: an engine decodes what it encoded, and no engine accepts a text with
white space at either end (it is not in the alphabet). -/
structure Base64.Lawful (b : Base64) : Prop where
  standard_encode : ∀ x, b.standard (b.encodeStandard x) = .ok x
  urlSafeNoPad_encode : ∀ x, b.urlSafeNoPad (b.encodeUrlSafeNoPad x) = .ok x
  trim_encodeStandard : ∀ x, trim (b.encodeStandard x) = b.encodeStandard x
  trim_encodeUrlSafeNoPad : ∀ x, trim (b.encodeUrlSafeNoPad x) = b.encodeUrlSafeNoPad x
  urlSafe_trim : ∀ s x, b.urlSafe s = .ok x → trim s = s
  urlSafeNoPad_trim : ∀ s x, b.urlSafeNoPad s = .ok x → trim s = s

/-- The engines share the rest of their alphabets: what `STANDARD` accepts of an unpadded URL-safe text it reads as that
text is read, and such a text has no padding. -/
structure Base64.Compatible (b : Base64) : Prop where
  standard_urlSafe : ∀ x y, b.standard (b.encodeUrlSafeNoPad x) = .ok y → y = x
  no_padding : ∀ x, (b.encodeUrlSafeNoPad x).rdropWhile (· = '=') = b.encodeUrlSafeNoPad x

/-- `sha2`, with the lengths of its digests. -/
structure Sha2 where
  sha256 : Bytes → Bytes
  sha512 : Bytes → Bytes
  sha256_length : ∀ m, (sha256 m).length = 32
  sha512_length : ∀ m, (sha512 m).length = 64

/-- `serde_json`.  `value` reads a text into a `Value`; `tree` is the tree a derived `Deserialize` walks, which
does not validate the members it skips, and `typeError` the text when that walk fails.  `valueText` writes a
`Value` (members by name), `structText` a derived `Serialize` (members in declaration order). -/
structure SerdeJson where
  value : Bytes → Except Str Json
  tree : Bytes → Except Str Json
  typeError : Bytes → Str
  valueText : Json → Str
  structText : Json → Str

/-- No JSON text starts with a NUL octet. -/
def SerdeJson.RejectsNul (j : SerdeJson) : Prop := ∀ b, ∃ e, j.value (0 :: b) = .error e

/-- No JSON text holds a raw NUL octet: control characters are escaped in strings and stand nowhere else. -/
def SerdeJson.NoRawNul (j : SerdeJson) : Prop := ∀ b, 0 ∈ b → ∃ e, j.value b = .error e

/-- No raw line break is written inside a value: control characters are escaped in strings and stand nowhere else. -/
def SerdeJson.OneLine (j : SerdeJson) : Prop := ∀ v : Json, '\n' ∉ j.valueText v ∧ '\r' ∉ j.valueText v

/-- A derived `Serialize` is written as the compact text of its tree. -/
def SerdeJson.WritesCompact (j : SerdeJson) : Prop := ∀ t : Json, t.floatFree = true → j.structText t = renderText t

/-- What two trees are written as tells them apart. -/
lemma SerdeJson.WritesCompact.injective {j : SerdeJson} (hj : j.WritesCompact) {t t' : Json}
    (ht : t.floatFree = true) (ht' : t'.floatFree = true) (h : utf8 (j.structText t) = utf8 (j.structText t')) :
    t = t' := by
  rw [hj t ht, hj t' ht'] at h
  exact renderText_injective ht ht' (utf8_injective h)

/-- `ed25519-dalek`. -/
structure Ed25519 where
  keyFromBytes : Bytes → Bool
  signatureFromSlice : Bytes → Except Str Bytes
  verify : (key message signature : Bytes) → Bool

/-- No signature verifies for two messages under this key.  Verification that is not strict does not give this for the
keys of small order. -/
def Ed25519.OneMessage (e : Ed25519) (key : Bytes) : Prop := ∀ message message' signature,
  e.verify key message signature = true → e.verify key message' signature = true → message = message'

/-- The crate `hex`. -/
structure Hex where
  encode : Bytes → Str
  decode : Str → Except Str Bytes

/-- The documented behaviour of `hex`: an encoding is two lowercase digits for each octet, and it is decoded back. -/
structure Hex.Lawful (h : Hex) : Prop where
  decode_encode : ∀ x, h.decode (h.encode x) = .ok x
  length_encode : ∀ x, (h.encode x).length = 2 * x.length
  digit_encode : ∀ x, ∀ c ∈ h.encode x, isAsciiHexdigit c = true ∧ lowerChar c = c ∧ isWhitespace c = false

namespace Hex.Lawful

variable {h : Hex} (hh : h.Lawful)
include hh

lemma toAsciiLowercase_encode (x : Bytes) : toAsciiLowercase (h.encode x) = h.encode x :=
  (List.map_congr_left fun c hc => (hh.digit_encode x c hc).2.1).trans (List.map_id' _)

lemma encode_injective {x y : Bytes} (heq : h.encode x = h.encode y) : x = y := by
  have hx := hh.decode_encode x
  rw [heq, hh.decode_encode y] at hx
  exact (Except.ok.inj hx).symm

lemma eq_of_encode_ignoreCase {x y : Bytes} (heq : eqIgnoreAsciiCase (h.encode x) (h.encode y) = true) : x = y := by
  have hlower := beq_iff_eq.mp heq
  rw [hh.toAsciiLowercase_encode, hh.toAsciiLowercase_encode] at hlower
  exact hh.encode_injective hlower

end Hex.Lawful

/-- The documented behaviour of `hex::decode`: digits of either case, an even number of them. -/
structure Hex.DecodesDigits (h : Hex) : Prop where
  decode_digits : ∀ s, s.length % 2 = 0 → (∀ c ∈ s, isAsciiHexdigit c = true) → ∃ x, h.decode s = .ok x
  encode_decoded : ∀ s x, h.decode s = .ok x → h.encode x = toAsciiLowercase s

/-- `sev::firmware::guest::AttestationReport`: the fields the edge reads, and the other octets of the report with its
signature. -/
structure AttestationReport where
  cpuidFamId : Option Nat
  cpuidModId : Option Nat
  debugAllowed : Bool
  migrateMaAllowed : Bool
  chipId : Bytes
  tcbBootloader : Nat
  tcbTee : Nat
  tcbSnp : Nat
  tcbMicrocode : Nat
  measurement : Bytes
  reportData : Bytes
  guestSvn : Nat
  rest : Bytes
  deriving DecidableEq

/-- `sev`: report parsing, VCEK parsing, the built-in ARK and ASK of a product, and the verification of a report
under the chain `(ark, ask, vcek)`. -/
structure Sev where
  Cert : Type
  reportFromBytes : Bytes → Except Str AttestationReport
  certFromDer : Bytes → Except Str Cert
  builtinArk : Str → Except Str Cert
  builtinAsk : Str → Except Str Cert
  verify : (ark ask vcek : Cert) → AttestationReport → Except Str Unit

/-- A parsed report has the fields of the octets it was read from. -/
def Sev.ReadsFields (s : Sev) : Prop := ∀ raw report, s.reportFromBytes raw = .ok report →
  slice raw 0x50 64 = some report.reportData ∧ slice raw 0x90 48 = some report.measurement

/-- The crates the edge links, and the standard library's `{:?}` of a text (its escape tables are not embedded). -/
structure Crates where
  debugStr : Str → Str
  base64 : Base64
  sha2 : Sha2
  json : SerdeJson
  ed25519 : Ed25519
  hex : Hex
  sev : Sev

/-- `serde_json::from_slice` into a type whose derived `Deserialize` is `read`. -/
def Crates.fromSlice (X : Crates) {α : Type} (read : Json → Option α) (bytes : Bytes) : Except Str α := do
  let tree ← X.json.tree bytes
  okOr (read tree) (X.json.typeError bytes)

end TeechatOpenapi
