import Mathlib.Data.Option.Basic
import TeechatOpenapi.Core.Authz

/-!
# The grammar of API keys (`openapi-core/src/key_format.rs`)

`parse_api_key` cuts the key by byte positions, and a position inside a character would be a panic.
-/

namespace TeechatOpenapi.Core

open Lib

/-- `&s[n..]`. -/
def sliceFrom (s : Str) (n : Nat) : Except (Fault Unit) Str :=
  match splitAtByte s n with
  | some (_, tail) => .ok tail
  | none => .error .panicked

/-- `&s[..n]`. -/
def sliceTo (s : Str) (n : Nat) : Except (Fault Unit) Str :=
  match splitAtByte s n with
  | some (head, _) => .ok head
  | none => .error .panicked

/-- `str::rfind`, a byte position. -/
def rfind (s : Str) (c : Char) : Option Nat := (beforeLast s c).map fun head => (utf8 head).length

/-- `is_valid_key_id`, with its slice. -/
def isValidKeyIdSliced (keyId : Str) : Except (Fault Unit) Bool :=
  if "tcak_".toList.isPrefixOf keyId then do
    let suffix ← sliceFrom keyId (utf8 "tcak_").length
    return decide ((utf8 suffix).length = 8 ∧ suffix.all isAsciiAlphanumeric)
  else .ok false

/-- `parse_api_key`, with its slices.  The error that it returns is `None`. -/
def parseApiKeySliced (raw : Str) : Except (Fault Unit) ParsedApiKey := do
  let token := trim raw
  failIf (¬ "sk-teechat-".toList.isPrefixOf token) (.returned ())
  let rest ← sliceFrom token (utf8 "sk-teechat-").length
  let dot ← okOr (rfind rest '.') (.returned ())
  failIf (dot = 0) (.returned ())
  let keyId ← sliceTo rest dot
  let secret ← sliceFrom rest (dot + 1)
  let valid ← isValidKeyIdSliced keyId
  failIf (¬ valid ∨ (utf8 secret).length < 32) (.returned ())
  failIf (¬ secret.all fun c => isAsciiAlphanumeric c || c = '_' || c = '-') (.returned ())
  return ⟨keyId, secret, token⟩

lemma sliceFrom_append (head tail : Str) : sliceFrom (head ++ tail) (utf8 head).length = .ok tail := by
  rw [sliceFrom, splitAtByte_eq_some.mpr ⟨rfl, rfl⟩]

lemma sliceTo_append (head tail : Str) : sliceTo (head ++ tail) (utf8 head).length = .ok head := by
  rw [sliceTo, splitAtByte_eq_some.mpr ⟨rfl, rfl⟩]

lemma slices_at_dot (head tail : Str) : sliceTo (head ++ '.' :: tail) (utf8 head).length = .ok head ∧
    sliceFrom (head ++ '.' :: tail) ((utf8 head).length + 1) = .ok tail := by
  have hfrom := sliceFrom_append (head ++ ['.']) tail
  have hlength : (utf8 (head ++ ['.'])).length = (utf8 head).length + 1 := by
    rw [utf8_append, List.length_append]
    rfl
  rw [hlength, List.append_assoc, List.singleton_append] at hfrom
  exact ⟨sliceTo_append head _, hfrom⟩

lemma afterStart_eq_some {s start rest : Str} : afterStart s start = some rest ↔ s = start ++ rest := by
  constructor
  · intro h
    unfold afterStart at h
    split_ifs at h with hfront
    obtain ⟨more, rfl⟩ := List.isPrefixOf_iff_prefix.mp hfront
    rw [List.drop_left] at h
    rw [Option.some.inj h]
  · rintro rfl
    exact afterStart_append start rest

lemma isValidKeyIdSliced_eq (keyId : Str) : isValidKeyIdSliced keyId = .ok (isValidKeyId keyId) := by
  unfold isValidKeyIdSliced isValidKeyId
  by_cases hfront : "tcak_".toList.isPrefixOf keyId = true
  · obtain ⟨suffix, rfl⟩ := List.isPrefixOf_iff_prefix.mp hfront
    rw [if_pos hfront, afterStart_append, sliceFrom_append]
    rfl
  · rw [if_neg hfront, afterStart, if_neg hfront]

/-- **No slice is inside a character**: with its slices the parser returns what it returns without them. -/
theorem parseApiKeySliced_eq (raw : Str) : parseApiKeySliced raw = okOr (parseApiKey raw) (.returned ()) := by
  unfold parseApiKeySliced parseApiKey
  dsimp only
  by_cases hfront : "sk-teechat-".toList.isPrefixOf (trim raw) = true
  · obtain ⟨rest, hrest⟩ := List.isPrefixOf_iff_prefix.mp hfront
    rw [failIf_neg (not_not.mpr hfront), ok_bind, ← hrest, afterStart_append, sliceFrom_append, ok_bind, rfind]
    rw [Option.bind_eq_bind, Option.bind_some]
    cases hlast : beforeLast rest '.' with
    | none => rfl
    | some keyId =>
      obtain ⟨secret, rfl, -⟩ := beforeLast_eq_some.mp hlast
      obtain ⟨hto, hfrom⟩ := slices_at_dot keyId secret
      have hdrop : (keyId ++ '.' :: secret).drop (keyId.length + 1) = secret := by
        rw [← List.drop_drop, List.drop_left]
        rfl
      have hempty : (utf8 keyId).length = 0 ↔ ¬ keyId ≠ [] := by rw [List.length_eq_zero_iff, utf8_eq_nil, not_not]
      have hchecks : (¬ isValidKeyId keyId = true ∨ (utf8 secret).length < 32) ↔
          ¬ (isValidKeyId keyId = true ∧ 32 ≤ (utf8 secret).length) := by rw [not_and_or, not_le]
      rw [Option.map_some, okOr, ok_bind, hto, hfrom, Option.bind_some, hdrop]
      simp only [ok_bind, isValidKeyIdSliced_eq, okOr_guard]
      rw [failIf_congr hempty, failIf_congr hchecks]
      rfl
  · rw [afterStart, if_neg hfront, failIf_pos hfront]
    rfl

/-- The characters of a secret: `[A-Za-z0-9_-]`. -/
def isSecretChar (c : Char) : Bool := isAsciiAlphanumeric c || c = '_' || c = '-'

/-- A text is a key with this id, which stands behind `tcak_`, and this secret. -/
structure IsKey (token id secret : Str) : Prop where
  text : token = "sk-teechat-".toList ++ ("tcak_".toList ++ id ++ '.' :: secret)
  idLength : id.length = 8
  idChars : ∀ c ∈ id, isAsciiAlphanumeric c = true
  secretLength : 32 ≤ secret.length
  secretChars : ∀ c ∈ secret, isSecretChar c = true

lemma isAscii_of_alphanumeric {c : Char} (h : isAsciiAlphanumeric c = true) : c.toNat < 128 := by
  have hle {d : Char} (hd : d.toNat < 128) (hc : c ≤ d) : c.toNat < 128 := (UInt32.le_iff_toNat_le.mp hc).trans_lt hd
  simp only [isAsciiAlphanumeric, isAsciiDigit, Bool.or_eq_true, Bool.and_eq_true, decide_eq_true_eq] at h
  rcases h with (⟨-, hc⟩ | ⟨-, hc⟩) | ⟨-, hc⟩
  · exact hle (by decide) hc
  · exact hle (by decide) hc
  · exact hle (by decide) hc

lemma isAscii_of_secret {c : Char} (h : isSecretChar c = true) : c.toNat < 128 := by
  simp only [isSecretChar, Bool.or_eq_true, decide_eq_true_eq] at h
  rcases h with (hc | rfl) | rfl
  · exact isAscii_of_alphanumeric hc
  · decide
  · decide

lemma isValidKeyId_iff {keyId : Str} : isValidKeyId keyId = true ↔
    ∃ id, keyId = "tcak_".toList ++ id ∧ id.length = 8 ∧ ∀ c ∈ id, isAsciiAlphanumeric c = true := by
  have hsuffix {suffix : Str} : ((utf8 suffix).length = 8 ∧ suffix.all isAsciiAlphanumeric = true) ↔
      suffix.length = 8 ∧ ∀ c ∈ suffix, isAsciiAlphanumeric c = true := by
    rw [List.all_eq_true]
    refine and_congr_left fun hall => ?_
    rw [utf8_length_of_ascii fun c hc => isAscii_of_alphanumeric (hall c hc)]
  unfold isValidKeyId
  constructor
  · intro h
    cases hstart : afterStart keyId "tcak_" with
    | none =>
      rw [hstart] at h
      cases h
    | some suffix =>
      rw [hstart] at h
      exact ⟨suffix, afterStart_eq_some.mp hstart, hsuffix.mp (of_decide_eq_true h)⟩
  · rintro ⟨id, rfl, hid⟩
    rw [afterStart_append]
    exact decide_eq_true (hsuffix.mpr hid)

/-- **What the parser accepts.** -/
theorem parseApiKeySliced_eq_ok {raw : Str} {key : ParsedApiKey} : parseApiKeySliced raw = .ok key ↔
    ∃ id secret, IsKey (trim raw) id secret ∧ key = ⟨"tcak_".toList ++ id, secret, trim raw⟩ := by
  have hsecret {secret : Str} (hall : ∀ c ∈ secret, isSecretChar c = true) : (utf8 secret).length = secret.length :=
    utf8_length_of_ascii fun c hc => isAscii_of_secret (hall c hc)
  simp only [parseApiKeySliced, isValidKeyIdSliced_eq, bind_eq_ok, failIf_eq_ok, okOr_eq_ok, pure_eq_ok, not_not]
  constructor
  · rintro ⟨-, hstart, rest, hrest, dot, hdot, -, -, keyId, hto, secret, hfrom, valid, hvalid, -, hchecks, -, hchars,
      rfl⟩
    obtain ⟨rest', htoken⟩ := List.isPrefixOf_iff_prefix.mp hstart
    rw [← htoken, sliceFrom_append] at hrest
    obtain rfl := Except.ok.inj hrest
    obtain ⟨keyId', hlast, rfl⟩ := Option.map_eq_some_iff.mp hdot
    obtain ⟨secret', rfl, -⟩ := beforeLast_eq_some.mp hlast
    rw [(slices_at_dot keyId' secret').1] at hto
    rw [(slices_at_dot keyId' secret').2] at hfrom
    obtain rfl := Except.ok.inj hto
    obtain rfl := Except.ok.inj hfrom
    obtain rfl := Except.ok.inj hvalid
    obtain ⟨hvalid, hlength⟩ := not_or.mp hchecks
    obtain ⟨id, rfl, hid, hidChars⟩ := isValidKeyId_iff.mp (not_not.mp hvalid)
    have hall : ∀ c ∈ secret', isSecretChar c = true := List.all_eq_true.mp hchars
    rw [hsecret hall, not_lt] at hlength
    exact ⟨id, secret', ⟨htoken.symm, hid, hidChars, hlength, hall⟩, rfl⟩
  · rintro ⟨id, secret, hkey, rfl⟩
    have hfree : '.' ∉ secret := fun hmem => absurd (hkey.secretChars _ hmem) (by decide)
    have hlast : beforeLast ("tcak_".toList ++ id ++ '.' :: secret) '.' = some ("tcak_".toList ++ id) :=
      beforeLast_eq_some.mpr ⟨secret, rfl, hfree⟩
    have hvalid := isValidKeyId_iff.mpr ⟨id, rfl, hkey.idLength, hkey.idChars⟩
    have hlength : ¬ (utf8 secret).length < 32 := by
      rw [hsecret hkey.secretChars, not_lt]
      exact hkey.secretLength
    obtain ⟨hto, hfrom⟩ := slices_at_dot ("tcak_".toList ++ id) secret
    rw [hkey.text]
    refine ⟨(), List.isPrefixOf_iff_prefix.mpr (List.prefix_append _ _), _, sliceFrom_append _ _, _,
      Option.map_eq_some_iff.mpr ⟨_, hlast, rfl⟩, (), ?_, _, hto, _, hfrom, _, rfl, (), ?_, (), ?_, rfl⟩
    · rw [List.length_eq_zero_iff, utf8_eq_nil]
      exact List.cons_ne_nil _ _
    · exact not_or.mpr ⟨not_not.mpr hvalid, hlength⟩
    · exact List.all_eq_true.mpr hkey.secretChars

lemma IsKey.unique {token id secret id' secret' : Str} (h : IsKey token id secret) (h' : IsKey token id' secret') :
    id = id' ∧ secret = secret' := by
  have htext := h.text.symm.trans h'.text
  have hrest := List.append_cancel_left htext
  rw [List.append_assoc, List.append_assoc] at hrest
  have hparts := List.append_cancel_left hrest
  obtain ⟨hid, htail⟩ := List.append_inj hparts (h.idLength.trans h'.idLength.symm)
  exact ⟨hid, (List.cons.inj htail).2⟩

/-- **The grammar of API keys.**  No text makes a slice panic.  The parser accepts exactly the texts that are a key once
they are trimmed, and returns its parts and the trimmed text; and no text is a key in two ways. -/
theorem api_key_grammar (raw : Str) :
    parseApiKeySliced raw ≠ .error .panicked ∧
    (∀ key, parseApiKeySliced raw = .ok key ↔
      ∃ id secret, IsKey (trim raw) id secret ∧ key = ⟨"tcak_".toList ++ id, secret, trim raw⟩) ∧
    ∀ id secret id' secret', IsKey (trim raw) id secret → IsKey (trim raw) id' secret' →
      id = id' ∧ secret = secret' := by
  refine ⟨?_, fun key => ?_, fun id secret id' secret' h h' => h.unique h'⟩
  · rw [parseApiKeySliced_eq]
    cases parseApiKey raw with
    | none => exact fun h => nomatch h
    | some key => exact fun h => nomatch h
  · exact parseApiKeySliced_eq_ok

end TeechatOpenapi.Core
