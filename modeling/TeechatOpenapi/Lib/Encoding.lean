import TeechatOpenapi.Lib.Text

/-!
# Base64 and hexadecimal texts

The two alphabets of RFC 4648, with canonical padding or without any, and lowercase hexadecimal.  A decoder rejects
what is not in the alphabet, a wrong length, missing or extra padding, and non-zero trailing bits.
-/

namespace TeechatOpenapi.Lib.Encoding

/-! ## Sextets -/

/-- The character of a sextet; `url` selects the URL-safe alphabet. -/
def sextet (url : Bool) (v : Nat) : Char :=
  if v < 26 then Char.ofNat (65 + v)
  else if v < 52 then Char.ofNat (71 + v)
  else if v < 62 then Char.ofNat (v - 4)
  else if v = 62 then (if url then '-' else '+')
  else (if url then '_' else '/')

def unsextet (url : Bool) (c : Char) : Option Nat :=
  let n := c.toNat
  if 65 ≤ n ∧ n ≤ 90 then some (n - 65)
  else if 97 ≤ n ∧ n ≤ 122 then some (n - 71)
  else if 48 ≤ n ∧ n ≤ 57 then some (n + 4)
  else if c = (if url then '-' else '+') then some 62
  else if c = (if url then '_' else '/') then some 63
  else none

variable {v : Nat}

lemma unsextet_sextet (url : Bool) (h : v < 64) : unsextet url (sextet url v) = some v := by
  have key : ∀ url : Bool, ∀ v : Fin 64, unsextet url (sextet url v) = some v.val := by decide
  exact key url ⟨v, h⟩

variable {c : Char} {url : Bool}

lemma unsextet_not_space (h : unsextet url c = some v) :
    isWhitespace c = false := by
  by_contra hs
  rw [Bool.not_eq_false] at hs
  have hn : c ≠ '-' ∧ c ≠ '+' ∧ c ≠ '_' ∧ c ≠ '/' := by
    refine ⟨?_, ?_, ?_, ?_⟩ <;> rintro rfl <;> revert hs <;> decide
  simp only [isWhitespace, Bool.or_eq_true, Bool.and_eq_true, decide_eq_true_eq, beq_iff_eq] at hs
  unfold unsextet at h
  cases url <;> simp only [hn, Bool.false_eq_true, if_true, if_false] at h <;> split_ifs at h <;> omega

/-! ## Without padding -/

def encodeRaw (url : Bool) : Bytes → Str
  | a :: b :: c :: rest =>
    sextet url (a.toNat / 4) :: sextet url (a.toNat % 4 * 16 + b.toNat / 16) ::
      sextet url (b.toNat % 16 * 4 + c.toNat / 64) :: sextet url (c.toNat % 64) :: encodeRaw url rest
  | [a, b] => [sextet url (a.toNat / 4), sextet url (a.toNat % 4 * 16 + b.toNat / 16), sextet url (b.toNat % 16 * 4)]
  | [a] => [sextet url (a.toNat / 4), sextet url (a.toNat % 4 * 16)]
  | [] => []

def decodeRaw (url : Bool) : Str → Option Bytes
  | p :: q :: r :: s :: rest => do
    let p ← unsextet url p
    let q ← unsextet url q
    let r ← unsextet url r
    let s ← unsextet url s
    let tail ← decodeRaw url rest
    return .ofNat (p * 4 + q / 16) :: .ofNat (q % 16 * 16 + r / 4) :: .ofNat (r % 4 * 64 + s) :: tail
  | [p, q, r] => do
    let p ← unsextet url p
    let q ← unsextet url q
    let r ← unsextet url r
    if r % 4 = 0 then return [.ofNat (p * 4 + q / 16), .ofNat (q % 16 * 16 + r / 4)] else none
  | [p, q] => do
    let p ← unsextet url p
    let q ← unsextet url q
    if q % 16 = 0 then return [.ofNat (p * 4 + q / 16)] else none
  | [_] => none
  | [] => some []

lemma ofNat_eq {a : UInt8} {n : Nat} (h : n = a.toNat) : UInt8.ofNat n = a := by
  subst h
  exact UInt8.ofNat_toNat

lemma decodeRaw_encodeRaw (url : Bool) (x : Bytes) : decodeRaw url (encodeRaw url x) = some x := by
  have lt (a : UInt8) : a.toNat < 256 := a.toNat_lt
  fun_induction encodeRaw url x with
  | case1 a b c rest ih =>
    have ha := lt a
    have hb := lt b
    have hc := lt c
    simp (disch := omega) only [decodeRaw, unsextet_sextet, ih, Option.bind_eq_bind, Option.bind_some,
      Option.pure_def, Option.some.injEq, List.cons.injEq, and_true]
    exact ⟨ofNat_eq (by omega), ofNat_eq (by omega), ofNat_eq (by omega)⟩
  | case2 a b =>
    have ha := lt a
    have hb := lt b
    have hz : b.toNat % 16 * 4 % 4 = 0 := by omega
    simp (disch := omega) only [decodeRaw, unsextet_sextet, Option.bind_eq_bind, Option.bind_some, hz, if_true,
      Option.pure_def, Option.some.injEq, List.cons.injEq, and_true]
    exact ⟨ofNat_eq (by omega), ofNat_eq (by omega)⟩
  | case3 a =>
    have ha := lt a
    have hz : a.toNat % 4 * 16 % 16 = 0 := by omega
    simp (disch := omega) only [decodeRaw, unsextet_sextet, Option.bind_eq_bind, Option.bind_some, hz, if_true,
      Option.pure_def, Option.some.injEq, List.cons.injEq, and_true]
    exact ofNat_eq (by omega)
  | case4 => rfl

variable {x : Bytes}

lemma mem_encodeRaw (h : c ∈ encodeRaw url x) : (unsextet url c).isSome := by
  have lt (a : UInt8) : a.toNat < 256 := a.toNat_lt
  have key {v : Nat} (hc : c = sextet url v) (hv : v < 64) : (unsextet url c).isSome := by
    rw [hc, unsextet_sextet url hv]
    rfl
  fun_induction encodeRaw url x with
  | case1 a b d rest ih =>
    have ha := lt a
    have hb := lt b
    have hd := lt d
    simp only [List.mem_cons] at h
    rcases h with h | h | h | h | h
    · exact key h (by omega)
    · exact key h (by omega)
    · exact key h (by omega)
    · exact key h (by omega)
    · exact ih h
  | case2 a b =>
    have ha := lt a
    have hb := lt b
    simp only [List.mem_cons, List.not_mem_nil, or_false] at h
    rcases h with h | h | h
    · exact key h (by omega)
    · exact key h (by omega)
    · exact key h (by omega)
  | case3 a =>
    have ha := lt a
    simp only [List.mem_cons, List.not_mem_nil, or_false] at h
    rcases h with h | h
    · exact key h (by omega)
    · exact key h (by omega)
  | case4 => cases h

variable {s : Str}

lemma mem_of_decodeRaw (h : decodeRaw url s = some x) (hc : c ∈ s) :
    (unsextet url c).isSome := by
  fun_induction decodeRaw url s generalizing x with
  | case1 p q r t rest ih =>
    simp only [Option.bind_eq_bind, Option.bind_eq_some_iff] at h
    obtain ⟨p', hp, q', hq, r', hr, t', ht, tail, htail, -⟩ := h
    simp only [List.mem_cons] at hc
    rcases hc with rfl | rfl | rfl | rfl | hc
    · simp [hp]
    · simp [hq]
    · simp [hr]
    · simp [ht]
    · exact ih htail hc
  | case2 p q r =>
    simp only [Option.bind_eq_bind, Option.bind_eq_some_iff] at h
    obtain ⟨p', hp, q', hq, r', hr, -⟩ := h
    simp only [List.mem_cons, List.not_mem_nil, or_false] at hc
    rcases hc with rfl | rfl | rfl
    · simp [hp]
    · simp [hq]
    · simp [hr]
  | case3 p q =>
    simp only [Option.bind_eq_bind, Option.bind_eq_some_iff] at h
    obtain ⟨p', hp, q', hq, -⟩ := h
    simp only [List.mem_cons, List.not_mem_nil, or_false] at hc
    rcases hc with rfl | rfl
    · simp [hp]
    · simp [hq]
  | case4 => cases h
  | case5 => cases hc

/-! ## White space -/

lemma trim_eq_self (h : ∀ c ∈ s, isWhitespace c = false) : trim s = s := by
  have hdrop : s.dropWhile isWhitespace = s := by
    rw [List.dropWhile_eq_self_iff]
    intro hl
    simp [h _ (List.getElem_mem hl)]
  rw [trim, hdrop, List.rdropWhile_eq_self_iff]
  intro hl
  simp [h _ (List.getLast_mem hl)]

lemma not_space_of_isSome (h : (unsextet url c).isSome) : isWhitespace c = false := by
  obtain ⟨v, hv⟩ := Option.isSome_iff_exists.mp h
  exact unsextet_not_space hv

lemma trim_encodeRaw (url : Bool) (x : Bytes) : trim (encodeRaw url x) = encodeRaw url x :=
  trim_eq_self fun _ hc => not_space_of_isSome (mem_encodeRaw hc)

lemma decodeRaw_trim (h : decodeRaw url s = some x) : trim s = s :=
  trim_eq_self fun _ hc => not_space_of_isSome (mem_of_decodeRaw h hc)

/-! ## With padding -/

/-- Encode and pad with `=` to a multiple of four. -/
def encodePadded (url : Bool) (x : Bytes) : Str :=
  encodeRaw url x ++ List.replicate ((4 - (encodeRaw url x).length % 4) % 4) '='

/-- Decode a text with canonical padding. -/
def decodePadded (url : Bool) (s : Str) : Option Bytes :=
  let body := s.rdropWhile (· = '=')
  if s.length % 4 = 0 ∧ s.length - body.length ≤ 2 then decodeRaw url body else none

lemma length_encodeRaw (url : Bool) (x : Bytes) : (encodeRaw url x).length % 4 ≠ 1 := by
  fun_induction encodeRaw url x with
  | case1 a b c rest ih =>
    simp only [List.length_cons]
    omega
  | case2 => simp
  | case3 => simp
  | case4 => simp

lemma rdropWhile_pad (h : ∀ c ∈ s, (unsextet url c).isSome) (k : Nat) :
    (s ++ List.replicate k '=').rdropWhile (· = '=') = s := by
  induction k with
  | zero =>
    rw [List.replicate_zero, List.append_nil, List.rdropWhile_eq_self_iff]
    intro hl hlast
    have hsome := h _ (List.getLast_mem hl)
    rw [decide_eq_true_eq] at hlast
    rw [hlast] at hsome
    revert hsome
    cases url <;> decide
  | succ k ih =>
    rw [List.replicate_succ', ← List.append_assoc, List.rdropWhile_concat_pos _ _ _ (by decide), ih]

lemma decodePadded_encodePadded (url : Bool) (x : Bytes) : decodePadded url (encodePadded url x) = some x := by
  have hlen := length_encodeRaw url x
  have hmem : ∀ c ∈ encodeRaw url x, (unsextet url c).isSome := fun _ hc => mem_encodeRaw hc
  have hbody := rdropWhile_pad hmem ((4 - (encodeRaw url x).length % 4) % 4)
  have hc : (encodePadded url x).length % 4 = 0 ∧ (encodePadded url x).length - (encodeRaw url x).length ≤ 2 := by
    simp only [encodePadded, List.length_append, List.length_replicate]
    omega
  rw [decodePadded, encodePadded, hbody, ← encodePadded]
  rw [if_pos hc]
  exact decodeRaw_encodeRaw url x

/-! ### The two alphabets -/

lemma unsextet_agree (hs : (unsextet false c).isSome) (hu : (unsextet true c).isSome) :
    unsextet false c = unsextet true c := by
  unfold unsextet at hs hu ⊢
  simp only [Bool.false_eq_true, if_true, if_false] at hs hu ⊢
  split_ifs at hs hu ⊢ <;> simp_all

lemma decodeRaw_congr (h : ∀ c ∈ s, unsextet false c = unsextet true c) :
    decodeRaw false s = decodeRaw true s := by
  fun_induction decodeRaw false s with
  | case1 p q r t rest ih =>
    rw [decodeRaw, h p (by simp), h q (by simp), h r (by simp), h t (by simp),
      ih fun c hc => h c (by simp [hc])]
  | case2 p q r => rw [decodeRaw, h p (by simp), h q (by simp), h r (by simp)]
  | case3 p q => rw [decodeRaw, h p (by simp), h q (by simp)]
  | case4 => rfl
  | case5 => rfl

lemma decodePadded_encodeRaw {y : Bytes} (h : decodePadded false (encodeRaw true x) = some y) : y = x := by
  have hmem : ∀ c ∈ encodeRaw true x, (unsextet true c).isSome := fun _ hc => mem_encodeRaw hc
  have hbody := rdropWhile_pad hmem 0
  rw [List.replicate_zero, List.append_nil] at hbody
  simp only [decodePadded, hbody] at h
  split_ifs at h
  have hagree : decodeRaw false (encodeRaw true x) = decodeRaw true (encodeRaw true x) :=
    decodeRaw_congr fun c hc => unsextet_agree (mem_of_decodeRaw h hc) (hmem c hc)
  rw [hagree, decodeRaw_encodeRaw] at h
  exact (Option.some.inj h).symm

lemma trim_encodePadded (url : Bool) (x : Bytes) : trim (encodePadded url x) = encodePadded url x := by
  refine trim_eq_self fun c hc => ?_
  rcases List.mem_append.mp hc with hc | hc
  · exact not_space_of_isSome (mem_encodeRaw hc)
  · rw [List.eq_of_mem_replicate hc]
    decide

lemma decodePadded_trim (h : decodePadded url s = some x) : trim s = s := by
  simp only [decodePadded] at h
  split_ifs at h
  refine trim_eq_self fun c hc => ?_
  -- a character is in the body or in the padding
  rw [← List.rdropWhile_append_rtakeWhile (p := (· = '=')) (l := s)] at hc
  rcases List.mem_append.mp hc with hc | hc
  · exact not_space_of_isSome (mem_of_decodeRaw h hc)
  · have heq := List.mem_rtakeWhile_imp hc
    rw [decide_eq_true_eq] at heq
    rw [heq]
    decide

/-! ## Hexadecimal -/

def hexDigit (v : Nat) : Char := if v < 10 then Char.ofNat (48 + v) else Char.ofNat (87 + v)

def hexValue (c : Char) : Option Nat :=
  let n := c.toNat
  if 48 ≤ n ∧ n ≤ 57 then some (n - 48)
  else if 97 ≤ n ∧ n ≤ 102 then some (n - 87)
  else if 65 ≤ n ∧ n ≤ 70 then some (n - 55)
  else none

def hexEncode (x : Bytes) : Str := x.flatMap fun a => [hexDigit (a.toNat / 16), hexDigit (a.toNat % 16)]

def hexDecode : Str → Option Bytes
  | p :: q :: rest => do
    let p ← hexValue p
    let q ← hexValue q
    let tail ← hexDecode rest
    return .ofNat (p * 16 + q) :: tail
  | [_] => none
  | [] => some []

lemma hexValue_hexDigit (h : v < 16) : hexValue (hexDigit v) = some v := by
  have key : ∀ v : Fin 16, hexValue (hexDigit v) = some v.val := by decide
  exact key ⟨v, h⟩

lemma hexDigit_spec (h : v < 16) :
    isAsciiHexdigit (hexDigit v) = true ∧ lowerChar (hexDigit v) = hexDigit v ∧ isWhitespace (hexDigit v) = false := by
  have key : ∀ v : Fin 16, isAsciiHexdigit (hexDigit v) = true ∧ lowerChar (hexDigit v) = hexDigit v ∧
      isWhitespace (hexDigit v) = false := by decide
  exact key ⟨v, h⟩

lemma hexDecode_hexEncode (x : Bytes) : hexDecode (hexEncode x) = some x := by
  induction x with
  | nil => rfl
  | cons a x ih =>
    have ha : a.toNat < 256 := a.toNat_lt
    change hexDecode (hexDigit (a.toNat / 16) :: hexDigit (a.toNat % 16) :: hexEncode x) = some (a :: x)
    simp (disch := omega) only [hexDecode, hexValue_hexDigit, ih, Option.bind_eq_bind, Option.bind_some,
      Option.pure_def, Option.some.injEq, List.cons.injEq, and_true]
    exact ofNat_eq (by omega)

lemma length_hexEncode (x : Bytes) : (hexEncode x).length = 2 * x.length := by
  induction x with
  | nil => rfl
  | cons a x ih =>
    change (hexDigit (a.toNat / 16) :: hexDigit (a.toNat % 16) :: hexEncode x).length = _
    simp only [List.length_cons, ih]
    omega

lemma mem_hexEncode (h : c ∈ hexEncode x) :
    isAsciiHexdigit c = true ∧ lowerChar c = c ∧ isWhitespace c = false := by
  obtain ⟨a, -, hc⟩ := List.mem_flatMap.mp h
  have ha : a.toNat < 256 := a.toNat_lt
  simp only [List.mem_cons, List.not_mem_nil, or_false] at hc
  rcases hc with rfl | rfl
  · exact hexDigit_spec (by omega)
  · exact hexDigit_spec (by omega)

/-! ### Digits of either case -/

/-- What holds of every ASCII character holds of a character that is one. -/
lemma forall_ascii {P : Char → Prop} [DecidablePred P] (h : ∀ n : Fin 128, P (Char.ofNat n.val))
    (hc : c.toNat < 128) : P c := by
  have hn := h ⟨c.toNat, hc⟩
  rwa [Char.ofNat_toNat] at hn

lemma isAsciiHexdigit_lt (h : isAsciiHexdigit c = true) : c.toNat < 128 := by
  have hle : ∀ d : Char, c ≤ d → c.toNat ≤ d.toNat := fun d hd => UInt32.le_iff_toNat_le.mp hd
  have hnine : ('9' : Char).toNat = 57 := rfl
  have hf : ('f' : Char).toNat = 102 := rfl
  have hF : ('F' : Char).toNat = 70 := rfl
  simp only [isAsciiHexdigit, isAsciiDigit, Bool.or_eq_true, Bool.and_eq_true, decide_eq_true_eq] at h
  rcases h with (⟨-, h⟩ | ⟨-, h⟩) | ⟨-, h⟩
  · have := hle _ h
    omega
  · have := hle _ h
    omega
  · have := hle _ h
    omega

lemma isAsciiHexdigit_spec (h : isAsciiHexdigit c = true) :
    isWhitespace c = false ∧ isAsciiHexdigit (lowerChar c) = true ∧
      ∃ v, v < 16 ∧ hexValue c = some v ∧ hexDigit v = lowerChar c := by
  have key : ∀ n : Fin 128, isAsciiHexdigit (Char.ofNat n.val) = true →
      isWhitespace (Char.ofNat n.val) = false ∧ isAsciiHexdigit (lowerChar (Char.ofNat n.val)) = true ∧
        ∃ v < 16, hexValue (Char.ofNat n.val) = some v ∧ hexDigit v = lowerChar (Char.ofNat n.val) := by decide
  exact forall_ascii (P := fun c => isAsciiHexdigit c = true → isWhitespace c = false ∧
    isAsciiHexdigit (lowerChar c) = true ∧ ∃ v < 16, hexValue c = some v ∧ hexDigit v = lowerChar c)
    key (isAsciiHexdigit_lt h) h

lemma isAsciiHexdigit_of_lowerChar (h : isAsciiHexdigit (lowerChar c) = true) :
    isAsciiHexdigit c = true := by
  have key : ∀ n : Fin 128, isAsciiHexdigit (lowerChar (Char.ofNat n.val)) = true →
      isAsciiHexdigit (Char.ofNat n.val) = true := by decide
  have hlt : c.toNat < 128 := by
    have hlower := isAsciiHexdigit_lt h
    rw [lowerChar_toNat] at hlower
    split_ifs at hlower <;> omega
  exact forall_ascii (P := fun c => isAsciiHexdigit (lowerChar c) = true → isAsciiHexdigit c = true) key hlt h

lemma isAsciiHexdigit_of_hexValue (h : hexValue c = some v) : isAsciiHexdigit c = true := by
  have hlt : c.toNat < 128 := by
    unfold hexValue at h
    simp only at h
    split_ifs at h <;> omega
  have key : ∀ n : Fin 128, (hexValue (Char.ofNat n.val)).isSome → isAsciiHexdigit (Char.ofNat n.val) = true := by
    decide
  exact forall_ascii (P := fun c => (hexValue c).isSome → isAsciiHexdigit c = true) key hlt
    (Option.isSome_of_eq_some h)

lemma hexDecode_digits (hlen : s.length % 2 = 0) (h : ∀ c ∈ s, isAsciiHexdigit c = true) :
    ∃ x, hexDecode s = some x := by
  fun_induction hexDecode s with
  | case1 p q rest ih =>
    obtain ⟨-, -, vp, -, hp, -⟩ := isAsciiHexdigit_spec (h p List.mem_cons_self)
    obtain ⟨-, -, vq, -, hq, -⟩ := isAsciiHexdigit_spec (h q (List.mem_cons_of_mem p List.mem_cons_self))
    have heven : rest.length % 2 = 0 := by
      simp only [List.length_cons] at hlen
      omega
    obtain ⟨x, hx⟩ := ih heven fun c hc => h c (List.mem_cons_of_mem p (List.mem_cons_of_mem q hc))
    exact ⟨_, by simp [hp, hq, hx]; rfl⟩
  | case2 c => simp at hlen
  | case3 => exact ⟨[], rfl⟩

lemma hexEncode_hexDecode (h : hexDecode s = some x) : hexEncode x = toAsciiLowercase s := by
  fun_induction hexDecode s generalizing x with
  | case1 p q rest ih =>
    simp only [Option.bind_eq_bind, Option.bind_eq_some_iff, Option.pure_def, Option.some.injEq] at h
    obtain ⟨vp, hp, vq, hq, tail, htail, rfl⟩ := h
    obtain ⟨-, -, vp', hp16, hp', hdp⟩ := isAsciiHexdigit_spec (isAsciiHexdigit_of_hexValue hp)
    obtain rfl : vp = vp' := Option.some.inj (hp.symm.trans hp')
    obtain ⟨-, -, vq', hq16, hq', hdq⟩ := isAsciiHexdigit_spec (isAsciiHexdigit_of_hexValue hq)
    obtain rfl : vq = vq' := Option.some.inj (hq.symm.trans hq')
    have hval : (UInt8.ofNat (vp * 16 + vq)).toNat = vp * 16 + vq := by
      rw [UInt8.toNat_ofNat_of_lt']
      exact (show vp * 16 + vq < 256 by omega)
    change hexDigit ((UInt8.ofNat (vp * 16 + vq)).toNat / 16) ::
      hexDigit ((UInt8.ofNat (vp * 16 + vq)).toNat % 16) :: hexEncode tail =
      lowerChar p :: lowerChar q :: toAsciiLowercase rest
    rw [hval, show (vp * 16 + vq) / 16 = vp by omega, show (vp * 16 + vq) % 16 = vq by omega, hdp, hdq, ih htail]
  | case2 c => cases h
  | case3 =>
    obtain rfl := Option.some.inj h
    rfl

end TeechatOpenapi.Lib.Encoding
