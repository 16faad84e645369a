import TeechatOpenapi.Lib.Text

/-!
# Reading UTF-8

`units` scans octets as the Rust standard library does: a character, a maximal ill-formed sequence, or a
character that the input ends inside of.  The strict reader, its `valid_up_to`, its `error_len` and the lossy reader
are read off that scan.
-/

namespace TeechatOpenapi.Lib

/-- What a scan of UTF-8 finds. -/
inductive Utf8Unit where
  | char (c : Char)
  | bad
  | cut
  deriving DecidableEq

namespace Utf8

def within (lo hi : Nat) (b : UInt8) : Bool := lo ≤ b.toNat && b.toNat ≤ hi

def isCont (b : UInt8) : Bool := within 0x80 0xBF b

/-- The low six bits of a continuation octet. -/
def low (b : UInt8) : Nat := b.toNat - 0x80

/-- The second octets that may follow the lead of a sequence of three. -/
def second3 (a b : UInt8) : Bool :=
  if a = 0xE0 then within 0xA0 0xBF b else if a = 0xED then within 0x80 0x9F b else isCont b

/-- The second octets that may follow the lead of a sequence of four. -/
def second4 (a b : UInt8) : Bool :=
  if a = 0xF0 then within 0x90 0xBF b else if a = 0xF4 then within 0x80 0x8F b else isCont b

/-- The scan.  After an ill-formed sequence it goes on at the octet that broke it. -/
def units : Bytes → List Utf8Unit
  | [] => []
  | a :: rest =>
    if a.toNat < 0x80 then .char (Char.ofNat a.toNat) :: units rest
    else if within 0xC2 0xDF a then
      match rest with
      | [] => [.cut]
      | b :: rest' =>
        if isCont b then .char (Char.ofNat ((a.toNat - 0xC0) * 64 + low b)) :: units rest'
        else .bad :: units (b :: rest')
    else if within 0xE0 0xEF a then
      match rest with
      | [] => [.cut]
      | b :: rest' =>
        if second3 a b then
          match rest' with
          | [] => [.cut]
          | c :: rest'' =>
            if isCont c then .char (Char.ofNat ((a.toNat - 0xE0) * 4096 + low b * 64 + low c)) :: units rest''
            else .bad :: units (c :: rest'')
        else .bad :: units (b :: rest')
    else if within 0xF0 0xF4 a then
      match rest with
      | [] => [.cut]
      | b :: rest' =>
        if second4 a b then
          match rest' with
          | [] => [.cut]
          | c :: rest'' =>
            if isCont c then
              match rest'' with
              | [] => [.cut]
              | d :: rest''' =>
                if isCont d then
                  .char (Char.ofNat ((a.toNat - 0xF0) * 262144 + low b * 4096 + low c * 64 + low d)) :: units rest'''
                else .bad :: units (d :: rest''')
            else .bad :: units (c :: rest'')
        else .bad :: units (b :: rest')
    else .bad :: units rest

/-- The character of a unit, `U+FFFD` for what is not one. -/
def replace : Utf8Unit → Char
  | .char c => c
  | _ => Char.ofNat 0xFFFD

/-- The characters before the first unit that is none. -/
def validText : List Utf8Unit → Str
  | .char c :: us => c :: validText us
  | _ => []

/-- The units from the first one that is no character. -/
def afterValid : List Utf8Unit → List Utf8Unit
  | .char _ :: us => afterValid us
  | us => us

end Utf8

/-- `str::from_utf8`: the text; otherwise the valid text before the error, and whether the error is an ill-formed
sequence (`error_len` is `Some`) or the input ends inside a character (`None`). -/
def fromUtf8 (b : Bytes) : Except (Str × Bool) Str :=
  let us := Utf8.units b
  match Utf8.afterValid us with
  | [] => .ok (Utf8.validText us)
  | u :: _ => .error (Utf8.validText us, u = .bad)

/-- The number of octets of the ill-formed sequence at the front (`error_len`). -/
def Utf8.badLen : Bytes → Nat
  | a :: b :: c :: _ =>
    if within 0xF0 0xF4 a && second4 a b && isCont c then 3
    else if (within 0xE0 0xEF a && second3 a b) || (within 0xF0 0xF4 a && second4 a b) then 2
    else 1
  | _ => 1

/-- `String::from_utf8` with the `Display` text of its error. -/
def stringFromUtf8 (b : Bytes) : Except Str Str :=
  match fromUtf8 b with
  | .ok s => .ok s
  | .error (valid, bad) =>
    let upTo := (utf8 valid).length
    if bad then
      .error ("invalid utf-8 sequence of ".toList ++ decimal (Utf8.badLen (b.drop upTo)) ++
        " bytes from index ".toList ++ decimal upTo)
    else .error ("incomplete utf-8 byte sequence from index ".toList ++ decimal upTo)

def fromUtf8Lossy (b : Bytes) : Str := (Utf8.units b).map Utf8.replace

/-! ## Reading back what was written -/

variable {rest : Bytes}

variable {a : UInt8}

namespace Utf8

lemma within_eq_true {lo hi : Nat} {b : UInt8} : within lo hi b = true ↔ lo ≤ b.toNat ∧ b.toNat ≤ hi := by
  simp [within]

lemma within_eq_false {lo hi : Nat} {b : UInt8} (h : hi < b.toNat) : within lo hi b = false := by
  rw [Bool.eq_false_iff, ne_eq, within_eq_true]
  omega

lemma units_one (ha : a.toNat < 0x80) :
    units (a :: rest) = .char (Char.ofNat a.toNat) :: units rest := by
  rw [units.eq_def]
  simp [ha]

lemma units_two {b : UInt8} (ha : within 0xC2 0xDF a) (hb : isCont b) :
    units (a :: b :: rest) = .char (Char.ofNat ((a.toNat - 0xC0) * 64 + low b)) :: units rest := by
  have h0 : ¬ a.toNat < 0x80 := by
    have := within_eq_true.mp ha
    omega
  rw [units.eq_def]
  simp [h0, ha, hb]

lemma units_three {b c : UInt8} (ha : within 0xE0 0xEF a) (hb : second3 a b) (hc : isCont c) :
    units (a :: b :: c :: rest) =
      .char (Char.ofNat ((a.toNat - 0xE0) * 4096 + low b * 64 + low c)) :: units rest := by
  have hlo := within_eq_true.mp ha
  have h0 : ¬ a.toNat < 0x80 := by omega
  have h2 : within 0xC2 0xDF a = false := within_eq_false (by omega)
  rw [units.eq_def]
  simp [h0, h2, ha, hb, hc]

lemma units_four {b c d : UInt8} (ha : within 0xF0 0xF4 a) (hb : second4 a b) (hc : isCont c)
    (hd : isCont d) : units (a :: b :: c :: d :: rest) =
      .char (Char.ofNat ((a.toNat - 0xF0) * 262144 + low b * 4096 + low c * 64 + low d)) :: units rest := by
  have hlo := within_eq_true.mp ha
  have h0 : ¬ a.toNat < 0x80 := by omega
  have h2 : within 0xC2 0xDF a = false := within_eq_false (by omega)
  have h3 : within 0xE0 0xEF a = false := within_eq_false (by omega)
  rw [units.eq_def]
  simp [h0, h2, h3, ha, hb, hc, hd]

lemma toNat_ofNat_lt {n : Nat} (h : n < 256) : (UInt8.ofNat n).toNat = n := by
  rw [UInt8.toNat_ofNat']
  exact Nat.mod_eq_of_lt h

lemma isCont_encode (v : Nat) : isCont (UInt8.ofNat (v % 64 + 128)) = true := by
  have hb := toNat_ofNat_lt (show v % 64 + 128 < 256 by omega)
  exact within_eq_true.mpr (by omega)

lemma low_encode (v : Nat) : low (UInt8.ofNat (v % 64 + 128)) = v % 64 := by
  have hb := toNat_ofNat_lt (show v % 64 + 128 < 256 by omega)
  unfold low
  omega

lemma second3_encode {p q : Nat} (hp : p < 16) (hq : q < 64) (hlow : p = 0 → 32 ≤ q) (hsur : p = 13 → q < 32) :
    second3 (UInt8.ofNat (p + 224)) (UInt8.ofNat (q + 128)) = true := by
  have key : ∀ p : Fin 16, ∀ q : Fin 64, (p.val = 0 → 32 ≤ q.val) → (p.val = 13 → q.val < 32) →
      second3 (UInt8.ofNat (p + 224)) (UInt8.ofNat (q + 128)) = true := by decide +kernel
  exact key ⟨p, hp⟩ ⟨q, hq⟩ hlow hsur

lemma second4_encode {p q : Nat} (hp : p < 5) (hq : q < 64) (hlow : p = 0 → 16 ≤ q) (hhigh : p = 4 → q < 16) :
    second4 (UInt8.ofNat (p + 240)) (UInt8.ofNat (q + 128)) = true := by
  have key : ∀ p : Fin 5, ∀ q : Fin 64, (p.val = 0 → 16 ≤ q.val) → (p.val = 4 → q.val < 16) →
      second4 (UInt8.ofNat (p + 240)) (UInt8.ofNat (q + 128)) = true := by decide +kernel
  exact key ⟨p, hp⟩ ⟨q, hq⟩ hlow hhigh

lemma units_encodeChar (c : Char) (rest : Bytes) :
    units (String.utf8EncodeChar c ++ rest) = .char c :: units rest := by
  have hvalid : c.val.toNat < 0xD800 ∨ 0xDFFF < c.val.toNat ∧ c.val.toNat < 0x110000 := c.valid
  have hc : Char.ofNat c.val.toNat = c := Char.ofNat_toNat c
  unfold String.utf8EncodeChar
  generalize c.val.toNat = v at hvalid hc ⊢
  dsimp only
  split_ifs with h1 h2 h3
  · have ha := toNat_ofNat_lt (show v < 256 by omega)
    rw [List.singleton_append, units_one (by omega), ha, hc]
  · have ha := toNat_ofNat_lt (show v / 64 % 32 + 192 < 256 by omega)
    have hw : within 0xC2 0xDF (UInt8.ofNat (v / 64 % 32 + 192)) = true := by
      rw [within_eq_true, ha]
      omega
    rw [List.cons_append, List.singleton_append, units_two hw (isCont_encode v), low_encode, ha]
    rw [show (v / 64 % 32 + 192 - 0xC0) * 64 + v % 64 = v by omega, hc]
  · have ha := toNat_ofNat_lt (show v / 4096 % 16 + 224 < 256 by omega)
    have hw : within 0xE0 0xEF (UInt8.ofNat (v / 4096 % 16 + 224)) = true := by
      rw [within_eq_true, ha]
      omega
    have hs := second3_encode (p := v / 4096 % 16) (q := v / 64 % 64) (by omega) (by omega) (by omega) (by omega)
    rw [List.cons_append, List.cons_append, List.singleton_append, units_three hw hs (isCont_encode v), low_encode,
      low_encode, ha]
    rw [show (v / 4096 % 16 + 224 - 0xE0) * 4096 + v / 64 % 64 * 64 + v % 64 = v by omega, hc]
  · have ha := toNat_ofNat_lt (show v / 262144 % 8 + 240 < 256 by omega)
    have hw : within 0xF0 0xF4 (UInt8.ofNat (v / 262144 % 8 + 240)) = true := by
      rw [within_eq_true, ha]
      omega
    have hs := second4_encode (p := v / 262144 % 8) (q := v / 4096 % 64) (by omega) (by omega) (by omega) (by omega)
    rw [List.cons_append, List.cons_append, List.cons_append, List.singleton_append,
      units_four hw hs (isCont_encode (v / 64)) (isCont_encode v), low_encode, low_encode, low_encode, ha]
    rw [show (v / 262144 % 8 + 240 - 0xF0) * 262144 + v / 4096 % 64 * 4096 + v / 64 % 64 * 64 + v % 64 = v by omega,
      hc]

lemma units_utf8 (s : Str) : units (utf8 s) = s.map .char := by
  induction s with
  | nil => rfl
  | cons c s ih =>
    change units (String.utf8EncodeChar c ++ utf8 s) = .char c :: s.map .char
    rw [units_encodeChar, ih]

lemma afterValid_map_char (s : Str) : afterValid (s.map .char) = [] := by
  induction s with
  | nil => rfl
  | cons c s ih => exact ih

lemma validText_map_char (s : Str) : validText (s.map .char) = s := by
  induction s with
  | nil => rfl
  | cons c s ih => exact congrArg (c :: ·) ih

end Utf8

lemma fromUtf8_utf8 (s : Str) : fromUtf8 (utf8 s) = .ok s := by
  rw [fromUtf8, Utf8.units_utf8, Utf8.afterValid_map_char, Utf8.validText_map_char]

lemma stringFromUtf8_utf8 (s : Str) : stringFromUtf8 (utf8 s) = .ok s := by
  rw [stringFromUtf8, fromUtf8_utf8]

lemma utf8_injective : Function.Injective utf8 := by
  intro s t h
  have hok : (Except.ok s : Except (Str × Bool) Str) = .ok t := by rw [← fromUtf8_utf8 s, h, fromUtf8_utf8]
  exact Except.ok.inj hok

lemma fromUtf8Lossy_utf8 (s : Str) : fromUtf8Lossy (utf8 s) = s := by
  rw [fromUtf8Lossy, Utf8.units_utf8, List.map_map]
  exact List.map_id' s

/-! ## Octets that are no text -/

namespace Utf8

lemma encodeChar_ofNat {v : Nat} (h : v < 0xD800 ∨ 0xDFFF < v ∧ v < 0x110000) :
    String.utf8EncodeChar (Char.ofNat v) =
      if v ≤ 0x7f then [UInt8.ofNat v]
      else if v ≤ 0x7ff then [UInt8.ofNat (v / 64 % 32 + 192), UInt8.ofNat (v % 64 + 128)]
      else if v ≤ 0xffff then
        [UInt8.ofNat (v / 4096 % 16 + 224), UInt8.ofNat (v / 64 % 64 + 128), UInt8.ofNat (v % 64 + 128)]
      else [UInt8.ofNat (v / 262144 % 8 + 240), UInt8.ofNat (v / 4096 % 64 + 128), UInt8.ofNat (v / 64 % 64 + 128),
        UInt8.ofNat (v % 64 + 128)] := by
  have hv : (Char.ofNat v).val.toNat = v := by
    rw [Char.ofNat, dif_pos h]
    rfl
  unfold String.utf8EncodeChar
  rw [hv]

lemma ofNat_eq {n : Nat} (h : n = a.toNat) : UInt8.ofNat n = a := by
  rw [h, UInt8.ofNat_toNat]

lemma encodeChar_one (ha : a.toNat < 0x80) : String.utf8EncodeChar (Char.ofNat a.toNat) = [a] := by
  rw [encodeChar_ofNat (by omega), if_pos (by omega), ofNat_eq rfl]

lemma encodeChar_two {b : UInt8} (ha : within 0xC2 0xDF a) (hb : isCont b) :
    String.utf8EncodeChar (Char.ofNat ((a.toNat - 0xC0) * 64 + low b)) = [a, b] := by
  have ha := within_eq_true.mp ha
  have hb := within_eq_true.mp hb
  unfold low
  rw [encodeChar_ofNat (by omega), if_neg (by omega), if_pos (by omega), ofNat_eq (a := a) (by omega),
    ofNat_eq (a := b) (by omega)]

/-- The second octet, where two leads narrow the range: at one nothing shorter, at the other no surrogate and nothing
too large is left. -/
lemma second_bounds {b x y : UInt8} {p q lo hi : Nat} (hlo : 0x80 ≤ lo) (hhi : hi ≤ 0xBF) (hxy : x ≠ y)
    (hp : p = x.toNat) (hq : q = y.toNat)
    (h : (if a = x then within lo 0xBF b else if a = y then within 0x80 hi b else isCont b) = true) :
    (0x80 ≤ b.toNat ∧ b.toNat ≤ 0xBF) ∧ (a.toNat = p → lo ≤ b.toNat) ∧ (a.toNat = q → b.toNat ≤ hi) := by
  simp only [hp, hq, UInt8.toNat_inj]
  unfold isCont at h
  split_ifs at h with hx hy
  · have hb := within_eq_true.mp h
    exact ⟨by omega, fun _ => hb.1, fun hy => absurd (hx.symm.trans hy) hxy⟩
  · have hb := within_eq_true.mp h
    exact ⟨by omega, fun h => absurd h hx, fun _ => hb.2⟩
  · exact ⟨within_eq_true.mp h, fun h => absurd h hx, fun h => absurd h hy⟩

lemma encodeChar_three {b c : UInt8} (ha : within 0xE0 0xEF a) (hb : second3 a b) (hc : isCont c) :
    String.utf8EncodeChar (Char.ofNat ((a.toNat - 0xE0) * 4096 + low b * 64 + low c)) = [a, b, c] := by
  have ha := within_eq_true.mp ha
  obtain ⟨hb, hlow, hsur⟩ := second_bounds (p := 0xE0) (q := 0xED) (by decide) (by decide) (by decide) rfl rfl hb
  have hc := within_eq_true.mp hc
  unfold low
  rw [encodeChar_ofNat (by omega), if_neg (by omega), if_neg (by omega), if_pos (by omega),
    ofNat_eq (a := a) (by omega), ofNat_eq (a := b) (by omega), ofNat_eq (a := c) (by omega)]

lemma encodeChar_four {b c d : UInt8} (ha : within 0xF0 0xF4 a) (hb : second4 a b) (hc : isCont c) (hd : isCont d) :
    String.utf8EncodeChar (Char.ofNat ((a.toNat - 0xF0) * 262144 + low b * 4096 + low c * 64 + low d)) =
      [a, b, c, d] := by
  have ha := within_eq_true.mp ha
  obtain ⟨hb, hlow, hhigh⟩ := second_bounds (p := 0xF0) (q := 0xF4) (by decide) (by decide) (by decide) rfl rfl hb
  have hc := within_eq_true.mp hc
  have hd := within_eq_true.mp hd
  unfold low
  rw [encodeChar_ofNat (by omega), if_neg (by omega), if_neg (by omega), if_neg (by omega),
    ofNat_eq (a := a) (by omega), ofNat_eq (a := b) (by omega), ofNat_eq (a := c) (by omega),
    ofNat_eq (a := d) (by omega)]

lemma exists_second3 (a : UInt8) : ∃ b, second3 a b = true := by
  unfold second3
  split_ifs
  · exact ⟨0xA0, by decide⟩
  · exact ⟨0x80, by decide⟩
  · exact ⟨0x80, by decide⟩

lemma exists_second4 (a : UInt8) : ∃ b, second4 a b = true := by
  unfold second4
  split_ifs
  · exact ⟨0x90, by decide⟩
  · exact ⟨0x80, by decide⟩
  · exact ⟨0x80, by decide⟩

lemma isCont_first : isCont 0x80 = true := by decide

end Utf8

/-- Octets that a character begins with, but not all of its octets. -/
def CutChar (b : Bytes) : Prop := ∃ c more, more ≠ [] ∧ String.utf8EncodeChar c = b ++ more

lemma cutChar_nil : CutChar [] := ⟨'a', String.utf8EncodeChar 'a', by decide, rfl⟩

variable {b : Bytes}

lemma CutChar.length_le (h : CutChar b) : b.length ≤ 3 := by
  obtain ⟨c, more, hmore, hc⟩ := h
  have hlength := congrArg List.length hc
  have hpos := List.length_pos_iff.mpr hmore
  have hfour := Char.utf8Size_le_four c
  rw [String.length_utf8EncodeChar, List.length_append] at hlength
  omega

namespace Utf8

/-- What stands at the front of some octets: nothing, a character, a character that is cut, or, whatever follows, an
ill-formed sequence. -/
lemma units_front (b : Bytes) :
    b = [] ∨ (∃ c rest, b = String.utf8EncodeChar c ++ rest) ∨ (units b = [.cut] ∧ CutChar b) ∨
      ∀ more, ∃ us, units (b ++ more) = .bad :: us := by
  -- the cases are those of the scan: by the class of the lead, then octet by octet
  rcases b with _ | ⟨a, rest⟩
  · exact .inl rfl
  right
  by_cases h1 : a.toNat < 0x80
  · exact .inl ⟨_, rest, by rw [encodeChar_one h1]; rfl⟩
  by_cases h2 : within 0xC2 0xDF a
  · rcases rest with _ | ⟨b, rest⟩
    · exact .inr (.inl ⟨by simp [units, h1, h2], _, [0x80], List.cons_ne_nil _ _, encodeChar_two h2 isCont_first⟩)
    by_cases hb : isCont b
    · exact .inl ⟨_, rest, by rw [encodeChar_two h2 hb]; rfl⟩
    · exact .inr (.inr fun more => ⟨units (b :: rest ++ more), by simp [units.eq_def (a :: _), h1, h2, hb]⟩)
  by_cases h3 : within 0xE0 0xEF a
  · rcases rest with _ | ⟨b, rest⟩
    · obtain ⟨b, hb⟩ := exists_second3 a
      exact .inr (.inl ⟨by simp [units, h1, h2, h3], _, [b, 0x80], List.cons_ne_nil _ _,
        encodeChar_three h3 hb isCont_first⟩)
    by_cases hb : second3 a b
    · rcases rest with _ | ⟨c, rest⟩
      · exact .inr (.inl ⟨by simp [units, h1, h2, h3, hb], _, [0x80], List.cons_ne_nil _ _,
          encodeChar_three h3 hb isCont_first⟩)
      by_cases hc : isCont c
      · exact .inl ⟨_, rest, by rw [encodeChar_three h3 hb hc]; rfl⟩
      · exact .inr (.inr fun more => ⟨units (c :: rest ++ more), by simp [units.eq_def (a :: _), h1, h2, h3, hb, hc]⟩)
    · exact .inr (.inr fun more => ⟨units (b :: rest ++ more), by simp [units.eq_def (a :: _), h1, h2, h3, hb]⟩)
  by_cases h4 : within 0xF0 0xF4 a
  · rcases rest with _ | ⟨b, rest⟩
    · obtain ⟨b, hb⟩ := exists_second4 a
      exact .inr (.inl ⟨by simp [units, h1, h2, h3, h4], _, [b, 0x80, 0x80], List.cons_ne_nil _ _,
        encodeChar_four h4 hb isCont_first isCont_first⟩)
    by_cases hb : second4 a b
    · rcases rest with _ | ⟨c, rest⟩
      · exact .inr (.inl ⟨by simp [units, h1, h2, h3, h4, hb], _, [0x80, 0x80], List.cons_ne_nil _ _,
          encodeChar_four h4 hb isCont_first isCont_first⟩)
      by_cases hc : isCont c
      · rcases rest with _ | ⟨d, rest⟩
        · exact .inr (.inl ⟨by simp [units, h1, h2, h3, h4, hb, hc], _, [0x80], List.cons_ne_nil _ _,
            encodeChar_four h4 hb hc isCont_first⟩)
        by_cases hd : isCont d
        · exact .inl ⟨_, rest, by rw [encodeChar_four h4 hb hc hd]; rfl⟩
        · exact .inr (.inr fun more =>
            ⟨units (d :: rest ++ more), by simp [units.eq_def (a :: _), h1, h2, h3, h4, hb, hc, hd]⟩)
      · exact .inr (.inr fun more =>
          ⟨units (c :: rest ++ more), by simp [units.eq_def (a :: _), h1, h2, h3, h4, hb, hc]⟩)
    · exact .inr (.inr fun more => ⟨units (b :: rest ++ more), by simp [units.eq_def (a :: _), h1, h2, h3, h4, hb]⟩)
  · exact .inr (.inr fun more => ⟨units (rest ++ more), by simp [units.eq_def (a :: _), h1, h2, h3, h4]⟩)

lemma units_append (t : Str) (b : Bytes) : units (utf8 t ++ b) = t.map .char ++ units b := by
  induction t with
  | nil => rfl
  | cons c t ih =>
    change units (String.utf8EncodeChar c ++ utf8 t ++ b) = .char c :: (t.map .char ++ units b)
    rw [List.append_assoc, units_encodeChar, ih]

/-- Octets are a text and then nothing, a character that is cut, or, whatever follows, an ill-formed sequence. -/
lemma units_split (b : Bytes) : ∃ t rest, b = utf8 t ++ rest ∧
    (rest = [] ∨ (units rest = [.cut] ∧ CutChar rest) ∨ ∀ more, ∃ us, units (rest ++ more) = .bad :: us) := by
  rcases units_front b with hnil | ⟨c, rest, hchar⟩ | hcut | hbad
  · exact ⟨[], b, rfl, .inl hnil⟩
  · have hshorter : rest.length < b.length := by
      have := String.length_utf8EncodeChar c
      have := Char.utf8Size_pos c
      rw [hchar, List.length_append]
      omega
    obtain ⟨t, rest', hrest, hcases⟩ := units_split rest
    refine ⟨c :: t, rest', ?_, hcases⟩
    change b = String.utf8EncodeChar c ++ utf8 t ++ rest'
    rw [hchar, hrest, List.append_assoc]
  · exact ⟨[], b, rfl, .inr (.inl hcut)⟩
  · exact ⟨[], b, rfl, .inr (.inr hbad)⟩
termination_by b.length

lemma validText_append (t : Str) (us : List Utf8Unit) : validText (t.map .char ++ us) = t ++ validText us := by
  induction t with
  | nil => rfl
  | cons c t ih => exact congrArg (c :: ·) ih

lemma afterValid_append (t : Str) (us : List Utf8Unit) : afterValid (t.map .char ++ us) = afterValid us := by
  induction t with
  | nil => rfl
  | cons c t ih => exact ih

end Utf8

lemma fromUtf8_append (t : Str) (b : Bytes) :
    fromUtf8 (utf8 t ++ b) = match fromUtf8 b with
      | .ok u => .ok (t ++ u)
      | .error (valid, illFormed) => .error (t ++ valid, illFormed) := by
  simp only [fromUtf8, Utf8.units_append, Utf8.validText_append, Utf8.afterValid_append]
  cases Utf8.afterValid (Utf8.units b) <;> rfl

/-- What the strict reader makes of octets: they are the text it returns; or a text and the beginning of a character;
or nothing behind them makes a text of them. -/
lemma fromUtf8_cases (b : Bytes) : ∃ t rest, b = utf8 t ++ rest ∧
    (rest = [] ∧ fromUtf8 b = .ok t ∨
      CutChar rest ∧ fromUtf8 b = .error (t, false) ∨
      ∀ more, fromUtf8 (b ++ more) = .error (t, true)) := by
  obtain ⟨t, rest, rfl, hnil | ⟨hcut, hchar⟩ | hbad⟩ := Utf8.units_split b
  · subst hnil
    exact ⟨t, [], rfl, .inl ⟨rfl, by rw [List.append_nil, fromUtf8_utf8]⟩⟩
  · have hrest : fromUtf8 rest = .error ([], false) := by
      rw [fromUtf8, hcut]
      rfl
    exact ⟨t, rest, rfl, .inr (.inl ⟨hchar, by simp only [fromUtf8_append, hrest, List.append_nil]⟩)⟩
  · refine ⟨t, rest, rfl, .inr (.inr fun more => ?_)⟩
    obtain ⟨us, hus⟩ := hbad more
    have hrest : fromUtf8 (rest ++ more) = .error ([], true) := by
      rw [fromUtf8, hus]
      rfl
    simp only [List.append_assoc, fromUtf8_append, hrest, List.append_nil]

lemma fromUtf8_eq_ok {t : Str} : fromUtf8 b = .ok t ↔ b = utf8 t := by
  constructor
  · intro h
    obtain ⟨t', rest, rfl, ⟨rfl, hok⟩ | ⟨-, herr⟩ | herr⟩ := fromUtf8_cases b
    · rw [h] at hok
      rw [List.append_nil, Except.ok.inj hok]
    · rw [h] at herr
      cases herr
    · have := herr []
      rw [List.append_nil, h] at this
      cases this
  · intro h
    rw [h, fromUtf8_utf8]

/-- Octets that are a text. -/
def IsText (b : Bytes) : Prop := ∃ t, b = utf8 t

lemma isText_utf8 (t : Str) : IsText (utf8 t) := ⟨t, rfl⟩

lemma isText_iff : IsText b ↔ ∃ t, fromUtf8 b = .ok t := by
  simp only [IsText, fromUtf8_eq_ok]

lemma isText_append (t : Str) : IsText (utf8 t ++ b) ↔ IsText b := by
  constructor
  · intro h
    obtain ⟨u, hu⟩ := isText_iff.mp h
    rw [fromUtf8_append] at hu
    cases hb : fromUtf8 b with
    | ok v => exact isText_iff.mpr ⟨v, hb⟩
    | error e =>
      rw [hb] at hu
      cases hu
  · rintro ⟨u, rfl⟩
    exact ⟨t ++ u, (utf8_append t u).symm⟩

lemma CutChar.text_eq_nil {t : Str} (h : CutChar b) (hb : b = utf8 t ++ rest) : t = [] := by
  obtain ⟨c, more, hmore, hc⟩ := h
  have hone : String.utf8EncodeChar c = utf8 [c] := (List.append_nil _).symm
  rw [hone, hb, List.append_assoc] at hc
  obtain ⟨u, hu⟩ : IsText (rest ++ more) := (isText_append t).mp (hc ▸ isText_utf8 [c])
  rw [hu, ← utf8_append] at hc
  rcases List.append_eq_singleton_iff.mp (utf8_injective hc).symm with ⟨ht, -⟩ | ⟨-, hnil⟩
  · exact ht
  · rw [hnil] at hu
    exact absurd (List.append_eq_nil_iff.mp hu).2 hmore

lemma CutChar.eq_nil_of_isText (h : CutChar b) (htext : IsText b) : b = [] := by
  obtain ⟨t, rfl⟩ := htext
  rw [h.text_eq_nil (List.append_nil _).symm]
  rfl

lemma CutChar.fromUtf8_eq (h : CutChar b) (hne : b ≠ []) : fromUtf8 b = .error ([], false) := by
  obtain ⟨t, rest, hb, ⟨rfl, hok⟩ | ⟨-, herr⟩ | hbad⟩ := fromUtf8_cases b
  · exact absurd (h.eq_nil_of_isText (isText_iff.mpr ⟨t, hok⟩)) hne
  · rw [herr, h.text_eq_nil hb]
  · obtain ⟨c, more, -, hc⟩ := h
    have htext : fromUtf8 (b ++ more) = .ok [c] := fromUtf8_eq_ok.mpr (hc.symm.trans (List.append_nil _).symm)
    rw [hbad more] at htext
    cases htext

lemma isText_flatten {l : List Bytes} (h : ∀ b ∈ l, IsText b) : IsText l.flatten := by
  induction l with
  | nil => exact isText_utf8 []
  | cons b l ih =>
    obtain ⟨⟨t, rfl⟩, hl⟩ := List.forall_mem_cons.mp h
    rw [List.flatten_cons, isText_append]
    exact ih hl

lemma utf8_cons_of_ascii {c : Char} (h : c.toNat < 128) (t : Str) : ∃ b, utf8 (c :: t) = b :: utf8 t := by
  have hsize : c.utf8Size = 1 := Char.utf8Size_eq_one_iff.mpr (UInt32.le_iff_toNat_le.mpr (Nat.lt_succ_iff.mp h))
  exact ⟨_, congrArg (· ++ utf8 t) (String.utf8EncodeChar_eq_singleton hsize)⟩

variable {s : Str}

lemma utf8_length_of_ascii (h : ∀ c ∈ s, c.toNat < 128) : (utf8 s).length = s.length := by
  induction s with
  | nil => rfl
  | cons c s ih =>
    obtain ⟨b, hb⟩ := utf8_cons_of_ascii (h c List.mem_cons_self) s
    rw [hb, List.length_cons, ih fun d hd => h d (List.mem_cons_of_mem c hd), List.length_cons]

lemma prefix_utf8_of_ascii (h : ∀ c ∈ s, c.toNat < 128) {p : Bytes} (hp : p <+: utf8 s) :
    ∃ q, q <+: s ∧ p = utf8 q := by
  induction s generalizing p with
  | nil => exact ⟨[], List.nil_prefix, List.prefix_nil.mp hp⟩
  | cons c s ih =>
    obtain ⟨b, hb⟩ := utf8_cons_of_ascii (h c List.mem_cons_self) s
    rw [hb] at hp
    cases p with
    | nil => exact ⟨[], List.nil_prefix, rfl⟩
    | cons a p =>
      obtain ⟨rfl, htail⟩ := List.cons_prefix_cons.mp hp
      obtain ⟨q, hq, rfl⟩ := ih (fun d hd => h d (List.mem_cons_of_mem c hd)) htail
      obtain ⟨b', hb'⟩ := utf8_cons_of_ascii (h c List.mem_cons_self) q
      obtain ⟨b₀, h₀⟩ := utf8_cons_of_ascii (h c List.mem_cons_self) []
      refine ⟨c :: q, List.cons_prefix_cons.mpr ⟨rfl, hq⟩, ?_⟩
      -- both texts start with the octet of `c`
      have hhead : ∀ t : Str, utf8 (c :: t) = b₀ :: utf8 t := by
        intro t
        rw [show c :: t = [c] ++ t from rfl, utf8_append, h₀]
        rfl
      rw [hhead] at hb ⊢
      rw [(List.cons.inj hb).1]

/-! ## Lines -/

def lines (s : Str) : List Str :=
  let pieces := s.splitOn '\n'
  (if pieces.getLast? = some [] then pieces.dropLast else pieces).map fun l => (stripSuffix l ['\r']).getD l

/-- The lines a `BufRead::read_line` loop sees, each with its newline, and the last without one. -/
def byteLines : Bytes → List Bytes
  | [] => []
  | b :: rest =>
    if b = 10 then [b] :: byteLines rest
    else
      match byteLines rest with
      | [] => [[b]]
      | l :: ls => (b :: l) :: ls

lemma ascii_mem_encodeChar {b : UInt8} (hb : b.toNat < 128) {c : Char} (h : b ∈ String.utf8EncodeChar c) :
    c.toNat = b.toNat := by
  have hnat {n : Nat} (hn : n < 256) (heq : b = UInt8.ofNat n) : n = b.toNat := by
    have htoNat := congrArg UInt8.toNat heq
    rw [Utf8.toNat_ofNat_lt hn] at htoNat
    exact htoNat.symm
  have hhigh {n : Nat} (hlo : 128 ≤ n) (hhi : n < 256) : b ≠ UInt8.ofNat n := by
    intro heq
    have := hnat hhi heq
    omega
  change c.val.toNat = b.toNat
  unfold String.utf8EncodeChar at h
  generalize c.val.toNat = v at h
  dsimp only at h
  split_ifs at h with h1 h2 h3 <;> simp only [List.mem_cons, List.not_mem_nil, or_false] at h
  · exact hnat (by omega) h
  -- the octets of a longer sequence are 128 and above
  · rcases h with h | h <;> exact absurd h (hhigh (by omega) (by omega))
  · rcases h with h | h | h <;> exact absurd h (hhigh (by omega) (by omega))
  · rcases h with h | h | h | h <;> exact absurd h (hhigh (by omega) (by omega))

lemma ascii_mem_utf8 {b : UInt8} (hb : b.toNat < 128) (h : b ∈ utf8 s) : Char.ofNat b.toNat ∈ s := by
  obtain ⟨c, hc, hmem⟩ := List.mem_flatMap.mp h
  rw [← ascii_mem_encodeChar hb hmem, Char.ofNat_toNat]
  exact hc

lemma newline_mem_utf8 (h : 10 ∈ utf8 s) : '\n' ∈ s := ascii_mem_utf8 (b := 10) (by decide) h

/-- A text that is one line, with its newline. -/
def IsLine (l : Str) : Prop := l = l.dropLast ++ ['\n'] ∧ '\n' ∉ l.dropLast

instance : DecidablePred IsLine := fun _ => inferInstanceAs (Decidable (_ ∧ _))

lemma lines_append {l : Str} (rest : Str) (h : IsLine l) :
    ∃ t, lines (l ++ rest) = t :: lines rest ∧ trim t = trim l := by
  obtain ⟨hl, hnot⟩ := h
  generalize l.dropLast = body at hl hnot
  subst hl
  have hsplit : (body ++ ['\n'] ++ rest).splitOn '\n' = body :: rest.splitOn '\n' := by
    rw [List.append_assoc]
    refine List.splitOnP_append_cons_of_forall_mem (p := (· == '\n')) (fun x hx => ?_) '\n' (beq_self_eq_true _) rest
    exact beq_false_of_ne fun hxn => hnot (hxn ▸ hx)
  obtain ⟨p, ps, hps⟩ := List.exists_cons_of_ne_nil (List.splitOnP_ne_nil (· == '\n') rest)
  refine ⟨(stripSuffix body ['\r']).getD body, ?_, ?_⟩
  · simp only [lines, hsplit]
    rw [show rest.splitOn '\n' = p :: ps from hps, List.getLast?_cons_cons]
    split_ifs <;> rfl
  · rw [trim_concat body (by decide)]
    by_cases hr : ['\r'] <:+ body
    · obtain ⟨u, rfl⟩ := hr
      rw [stripSuffix, if_pos (List.suffix_append _ _), trim_concat u (by decide)]
      simp
    · rw [stripSuffix, if_neg hr, Option.getD_none]

lemma byteLines_cons {l : Bytes} (h : 10 ∉ l) : byteLines (l ++ 10 :: rest) = (l ++ [10]) :: byteLines rest := by
  induction l with
  | nil => rfl
  | cons b l ih =>
    have hb : b ≠ 10 := fun hb => h (hb ▸ List.mem_cons_self)
    rw [List.cons_append, byteLines, if_neg hb, ih fun hl => h (List.mem_cons_of_mem _ hl)]
    rfl

lemma byteLines_append {l : Str} (rest : Str) (h : IsLine l) :
    byteLines (utf8 (l ++ rest)) = utf8 l :: byteLines (utf8 rest) := by
  obtain ⟨hl, hnot⟩ := h
  have hutf8 : utf8 l = utf8 l.dropLast ++ [10] := by
    rw [hl, utf8_append, ← hl]
    rfl
  rw [utf8_append, hutf8, List.append_assoc, List.singleton_append]
  exact byteLines_cons fun hmem => hnot (newline_mem_utf8 hmem)

lemma byteLines_flatten (ls : List Str) (h : ∀ l ∈ ls, IsLine l) : byteLines (utf8 ls.flatten) = ls.map utf8 := by
  induction ls with
  | nil => rfl
  | cons l ls ih =>
    obtain ⟨hl, hls⟩ := List.forall_mem_cons.mp h
    rw [List.flatten_cons, byteLines_append _ hl, ih hls]
    rfl

/-! ## Blank lines -/

/-- The octets between blank lines; what follows the last blank line comes last. -/
def blankSplit : Bytes → List Bytes
  | [] => [[]]
  | [b] => [[b]]
  | b :: c :: rest =>
    if b = 10 ∧ c = 10 then [] :: blankSplit rest
    else
      match blankSplit (c :: rest) with
      | [] => [[b]]
      | block :: blocks => (b :: block) :: blocks

lemma blankSplit_append {l : Bytes} (h : 10 ∉ l) (rest : Bytes) :
    blankSplit (l ++ 10 :: 10 :: rest) = l :: blankSplit rest := by
  induction l with
  | nil => exact if_pos ⟨rfl, rfl⟩
  | cons b l ih =>
    obtain ⟨hb, hl⟩ := not_or.mp (List.mem_cons.not.mp h)
    have hih := ih hl
    cases l with
    | nil =>
      change blankSplit (b :: 10 :: 10 :: rest) = _
      rw [blankSplit, if_neg fun hboth => hb hboth.1.symm]
      rw [List.nil_append] at hih
      rw [hih]
    | cons c l =>
      change blankSplit (b :: c :: (l ++ 10 :: 10 :: rest)) = _
      rw [blankSplit, if_neg fun hboth => hb hboth.1.symm]
      rw [List.cons_append] at hih
      rw [hih]

lemma blankSplit_flatMap {ls : List Bytes} (h : ∀ l ∈ ls, 10 ∉ l) (rest : Bytes) :
    blankSplit (ls.flatMap (· ++ [10, 10]) ++ rest) = ls ++ blankSplit rest := by
  induction ls with
  | nil => rfl
  | cons l ls ih =>
    obtain ⟨hl, hls⟩ := List.forall_mem_cons.mp h
    rw [List.flatMap_cons, List.append_assoc, List.append_assoc]
    change blankSplit (l ++ 10 :: 10 :: (ls.flatMap (· ++ [10, 10]) ++ rest)) = _
    rw [blankSplit_append hl, ih hls, List.cons_append]

end TeechatOpenapi.Lib
