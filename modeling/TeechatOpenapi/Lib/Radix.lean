import TeechatOpenapi.Lib.Encoding
import TeechatOpenapi.Lib.Outcome

/-!
# Numerals

`decimal` is Rust's `{}` of an unsigned integer and `parseUnsigned` its `str::parse`; `hexNumeral` is Rust's
`{:x}`, `fromStrRadix16` is `usize::from_str_radix(_, 16)` on a 64-bit machine with the error texts of the standard
library.
-/

namespace TeechatOpenapi.Lib

open Encoding

/-- `format!("{:x}", n)`. -/
def hexNumeral (n : Nat) : Str := Nat.toDigits 16 n

/-- The value of digits after a value read before them. -/
def hexDigitsFrom (acc : Nat) : Str → Except Str Nat
  | [] => .ok acc
  | c :: rest =>
    match hexValue c with
    | none => .error "invalid digit found in string"
    | some v =>
      if u64Max < acc * 16 + v then .error "number too large to fit in target type"
      else hexDigitsFrom (acc * 16 + v) rest

/-- `usize::from_str_radix(s, 16)`. -/
def fromStrRadix16 (s : Str) : Except Str Nat :=
  if s = [] then .error "cannot parse integer from empty string"
  else if s.head? = some '+' ∧ s.tail ≠ [] then hexDigitsFrom 0 s.tail
  else hexDigitsFrom 0 s

lemma hexDigitsFrom_append (acc : Nat) (s t : Str) :
    hexDigitsFrom acc (s ++ t) = hexDigitsFrom acc s >>= fun n => hexDigitsFrom n t := by
  induction s generalizing acc with
  | nil => rfl
  | cons c s ih =>
    rw [List.cons_append, hexDigitsFrom, hexDigitsFrom]
    rcases hexValue c with _ | v
    · rfl
    · dsimp only
      split
      · rfl
      · exact ih _

variable {n : Nat}

lemma hexDigitsFrom_le {acc : Nat} {s : Str} (h : hexDigitsFrom acc s = .ok n) : acc ≤ n := by
  induction s generalizing acc with
  | nil => exact le_of_eq (Except.ok.inj h)
  | cons c s ih =>
    rw [hexDigitsFrom] at h
    rcases hv : hexValue c with _ | v
    · rw [hv] at h
      cases h
    · rw [hv] at h
      dsimp only at h
      split at h
      · cases h
      · have := ih h
        omega

lemma hexValue_digitChar {d : Nat} (h : d < 16) : hexValue (Nat.digitChar d) = some d := by
  have key : ∀ d : Fin 16, hexValue (Nat.digitChar d.val) = some d.val := by decide
  exact key ⟨d, h⟩

lemma hexDigitsFrom_toDigits (h : n ≤ u64Max) : hexDigitsFrom 0 (hexNumeral n) = .ok n := by
  induction n using Nat.strong_induction_on with
  | _ n ih =>
    by_cases hn : n < 16
    · rw [hexNumeral, Nat.toDigits_of_lt_base hn, hexDigitsFrom, hexValue_digitChar hn]
      dsimp only
      rw [if_neg (by omega), hexDigitsFrom]
      congr 1
      omega
    · have hdiv : n / 16 < n := by omega
      have hmod : n % 16 < 16 := by omega
      have hhead := ih (n / 16) hdiv (by omega)
      rw [hexNumeral] at hhead ⊢
      rw [Nat.toDigits_of_base_le (by decide) (by omega), hexDigitsFrom_append, hhead, ok_bind, hexDigitsFrom,
        hexValue_digitChar hmod]
      dsimp only
      rw [if_neg (by omega), hexDigitsFrom]
      congr 1
      omega

lemma isAsciiHexdigit_hexNumeral (n : Nat) : ∀ c ∈ hexNumeral n, isAsciiHexdigit c = true := by
  induction n using Nat.strong_induction_on with
  | _ n ih =>
    intro c hc
    rw [hexNumeral] at hc
    by_cases hn : n < 16
    · rw [Nat.toDigits_of_lt_base hn, List.mem_singleton] at hc
      subst hc
      exact isAsciiHexdigit_of_hexValue (hexValue_digitChar hn)
    · rw [Nat.toDigits_of_base_le (by decide) (by omega), List.mem_append, List.mem_singleton] at hc
      rcases hc with hc | rfl
      · exact ih (n / 16) (by omega) c hc
      · exact isAsciiHexdigit_of_hexValue (hexValue_digitChar (by omega))

lemma hexNumeral_ne_nil (n : Nat) : hexNumeral n ≠ [] := Nat.toDigits_ne_nil

lemma length_hexNumeral_le (h : n ≤ u64Max) : (hexNumeral n).length ≤ 16 := by
  refine (Nat.length_toDigits_le_iff (by decide) (by decide)).mpr ?_
  have : u64Max = 16 ^ 16 - 1 := by decide
  omega

lemma hexNumeral_head (h : 0 < n) :
    ∃ c v rest, hexNumeral n = c :: rest ∧ hexValue c = some v ∧ 0 < v ∧ v < 16 := by
  induction n using Nat.strong_induction_on with
  | _ n ih =>
    by_cases hn : n < 16
    · exact ⟨Nat.digitChar n, n, [], Nat.toDigits_of_lt_base hn, hexValue_digitChar hn, h, hn⟩
    · obtain ⟨c, v, rest, hdigits, hv, hpos, hlt⟩ := ih (n / 16) (by omega) (by omega)
      refine ⟨c, v, rest ++ [Nat.digitChar (n % 16)], ?_, hv, hpos, hlt⟩
      rw [hexNumeral, Nat.toDigits_of_base_le (by decide) (by omega), ← hexNumeral, hdigits, List.cons_append]

lemma newline_notMem_digits {q : Str} (h : ∀ c ∈ q, isAsciiHexdigit c = true) : '\n' ∉ q := by
  intro hm
  have := h _ hm
  revert this
  decide

lemma trim_digits {q : Str} (h : ∀ c ∈ q, isAsciiHexdigit c = true) : trim q = q :=
  trim_eq_self fun c hc => (isAsciiHexdigit_spec (h c hc)).1

lemma lowerChar_eq_zero {c : Char} (h : lowerChar c = '0') : c = '0' := by
  apply Char.toNat_inj.mp
  have hnat : (lowerChar c).toNat = '0'.toNat := congrArg Char.toNat h
  rw [lowerChar_toNat, show '0'.toNat = 48 from rfl] at hnat
  rw [show '0'.toNat = 48 from rfl]
  split_ifs at hnat <;> omega

lemma fromStrRadix16_digits {s : Str} (hne : s ≠ []) (h : ∀ c ∈ s, isAsciiHexdigit c = true) :
    fromStrRadix16 s = hexDigitsFrom 0 s := by
  have hsign : s.head? ≠ some '+' := by
    intro hhead
    have hplus := h '+' (List.mem_of_mem_head? hhead)
    revert hplus
    decide
  rw [fromStrRadix16, if_neg hne, if_neg fun hc => hsign hc.1]

lemma fromStrRadix16_hexNumeral (h : n ≤ u64Max) : fromStrRadix16 (hexNumeral n) = .ok n := by
  rw [fromStrRadix16_digits (hexNumeral_ne_nil n) (isAsciiHexdigit_hexNumeral n), hexDigitsFrom_toDigits h]

lemma fromStrRadix16_pos {c : Char} {s : Str} (hc : c ≠ '0')
    (hdigits : ∀ d ∈ c :: s, isAsciiHexdigit d = true) (h : fromStrRadix16 (c :: s) = .ok n) : 0 < n := by
  obtain ⟨-, -, v, -, hv, hdigit⟩ := isAsciiHexdigit_spec (hdigits c List.mem_cons_self)
  have hpos : 0 < v := by
    rcases Nat.eq_zero_or_pos v with rfl | hpos
    · exact absurd (lowerChar_eq_zero hdigit.symm) hc
    · exact hpos
  rw [fromStrRadix16_digits (List.cons_ne_nil c s) hdigits, hexDigitsFrom, hv] at h
  dsimp only at h
  split at h
  · cases h
  · have := hexDigitsFrom_le h
    omega

lemma fromStrRadix16_cut {m : Nat} {q : Str} (hn : 0 < n) (hq : q <+: hexNumeral n) (hne : q ≠ [])
    (h : fromStrRadix16 q = .ok m) : 0 < m := by
  obtain ⟨c, v, rest, hdigits, hv, hpos, -⟩ := hexNumeral_head hn
  obtain ⟨d, q, rfl⟩ := List.exists_cons_of_ne_nil hne
  have hd : d ≠ '0' := by
    rw [hdigits] at hq
    obtain ⟨rfl, -⟩ := List.cons_prefix_cons.mp hq
    rintro rfl
    have hzero : v = 0 := (Option.some.inj hv).symm
    omega
  exact fromStrRadix16_pos hd (fun c hc => isAsciiHexdigit_hexNumeral n c (hq.subset hc)) h

lemma isAsciiDigit_digitChar {d : Nat} (h : d < 10) :
    isAsciiDigit (Nat.digitChar d) = true ∧ (Nat.digitChar d).toNat - 48 = d := by
  have key : ∀ d : Fin 10, isAsciiDigit (Nat.digitChar d.val) = true ∧ (Nat.digitChar d.val).toNat - 48 = d.val := by
    decide
  exact key ⟨d, h⟩

lemma decimal_spec (n : Nat) : (∀ c ∈ decimal n, isAsciiDigit c = true) ∧
    (decimal n).foldl (fun acc c => 10 * acc + (c.toNat - 48)) 0 = n := by
  induction n using Nat.strong_induction_on with
  | _ n ih =>
    unfold decimal
    by_cases hn : n < 10
    · obtain ⟨hdigit, hvalue⟩ := isAsciiDigit_digitChar hn
      rw [Nat.toDigits_of_lt_base hn]
      refine ⟨fun c hc => ?_, ?_⟩
      · rw [List.mem_singleton.mp hc]
        exact hdigit
      · rw [List.foldl_cons, List.foldl_nil, hvalue]
        omega
    · obtain ⟨hdigits, hvalue⟩ := ih (n / 10) (by omega)
      obtain ⟨hlast, hlastValue⟩ := isAsciiDigit_digitChar (d := n % 10) (by omega)
      unfold decimal at hdigits hvalue
      rw [Nat.toDigits_of_base_le (by decide) (by omega)]
      refine ⟨fun c hc => ?_, ?_⟩
      · rcases List.mem_append.mp hc with hc | hc
        · exact hdigits c hc
        · rw [List.mem_singleton.mp hc]
          exact hlast
      · rw [List.foldl_append, hvalue, List.foldl_cons, List.foldl_nil, hlastValue]
        omega

lemma notMem_decimal {c : Char} (h : isAsciiDigit c = false) (n : Nat) : c ∉ decimal n := fun hmem =>
  Bool.false_ne_true (h.symm.trans ((decimal_spec n).1 c hmem))

lemma decimal_ne_nil (n : Nat) : decimal n ≠ [] := Nat.toDigits_ne_nil

lemma isAsciiHexdigit_of_isAsciiDigit {c : Char} (h : isAsciiDigit c = true) : isAsciiHexdigit c = true := by
  rw [isAsciiHexdigit, h]
  rfl

lemma trim_decimal (n : Nat) : trim (decimal n) = decimal n :=
  trim_eq_self fun c hc => (isAsciiHexdigit_spec (isAsciiHexdigit_of_isAsciiDigit ((decimal_spec n).1 c hc))).1

lemma parseUnsigned_decimal (hi n : Nat) : parseUnsigned hi (decimal n) = (some n).filter (· ≤ hi) := by
  obtain ⟨hdigits, hvalue⟩ := decimal_spec n
  have hsign : (decimal n).head? ≠ some '+' := by
    intro hhead
    have hplus := hdigits '+' (List.mem_of_mem_head? hhead)
    revert hplus
    decide
  rw [parseUnsigned, if_neg hsign, parseDigits, if_pos ⟨decimal_ne_nil n, List.all_eq_true.mpr hdigits⟩, hvalue]

lemma decimal_injective : Function.Injective decimal := by
  intro n m h
  rw [← (decimal_spec n).2, h, (decimal_spec m).2]

end TeechatOpenapi.Lib
