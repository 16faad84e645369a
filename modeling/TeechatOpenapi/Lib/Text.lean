import Mathlib.Algebra.Group.Int.Defs
import Mathlib.Algebra.Group.Nat.Defs
import Mathlib.Data.List.DropRight
import Mathlib.Data.List.Infix

/-!
# Text and bytes

Rust's `String` is a list of Unicode scalar values (`Str`) and `Vec<u8>` a list of octets (`Bytes`).  The
functions below are the ones of `str` and of the integer parsers of the Rust standard library, under their
documented behaviour: `trim` drops the characters with the Unicode property `White_Space`, `split` keeps empty
pieces, an integer may start with a `+`, and an out of range integer is an error.
-/

namespace TeechatOpenapi.Lib

/-- A text: the Unicode scalar values of a Rust `String`. -/
abbrev Str := List Char

abbrev Bytes := List UInt8

/-- `[u8; n]`. -/
abbrev Octets (n : Nat) : Type := { b : Bytes // b.length = n }

instance : Coe String Str := ⟨String.toList⟩

instance : LawfulBEq Str := inferInstance

/-- The UTF-8 octets of a text (`as_bytes`). -/
def utf8 (s : Str) : Bytes := s.flatMap String.utf8EncodeChar

lemma utf8_append (s t : Str) : utf8 (s ++ t) = utf8 s ++ utf8 t := List.flatMap_append

lemma length_le_utf8 (s : Str) : s.length ≤ (utf8 s).length := by
  induction s with
  | nil => exact Nat.zero_le _
  | cons c s ih =>
    have hpos := c.utf8Size_pos
    rw [utf8, List.flatMap_cons, List.length_append, String.length_utf8EncodeChar, List.length_cons]
    have hrest : s.length ≤ (s.flatMap String.utf8EncodeChar).length := ih
    omega

lemma utf8_eq_nil {s : Str} : utf8 s = [] ↔ s = [] := by
  cases s with
  | nil => exact iff_of_true rfl rfl
  | cons c s =>
    refine iff_of_false (fun h => ?_) (List.cons_ne_nil c s)
    have hc : String.utf8EncodeChar c = [] := (List.append_eq_nil_iff.mp h).1
    exact String.utf8EncodeChar_ne_nil hc

/-- `char::is_whitespace`: the property `White_Space`. -/
def isWhitespace (c : Char) : Bool :=
  let n := c.toNat
  (9 ≤ n && n ≤ 13) || n == 0x20 || n == 0x85 || n == 0xA0 || n == 0x1680 || (0x2000 ≤ n && n ≤ 0x200A) ||
    n == 0x2028 || n == 0x2029 || n == 0x202F || n == 0x205F || n == 0x3000

def lowerChar (c : Char) : Char := if 'A' ≤ c ∧ c ≤ 'Z' then Char.ofNat (c.toNat + 32) else c

def isAsciiDigit (c : Char) : Bool := '0' ≤ c && c ≤ '9'

/-- `u8::is_ascii_hexdigit`, on a character. -/
def isAsciiHexdigit (c : Char) : Bool :=
  isAsciiDigit c || ('a' ≤ c && c ≤ 'f') || ('A' ≤ c && c ≤ 'F')

def trim (s : Str) : Str := (s.dropWhile isWhitespace).rdropWhile isWhitespace

def splitWhitespace (s : Str) : List Str := (s.splitOnP isWhitespace).filter (· ≠ [])

def toAsciiLowercase (s : Str) : Str := s.map lowerChar

def eqIgnoreAsciiCase (s t : Str) : Bool := toAsciiLowercase s == toAsciiLowercase t

def stripSuffix (s suffix : Str) : Option Str :=
  if suffix <:+ s then some (s.take (s.length - suffix.length)) else none

def stripPrefix (s start : Str) : Option Str := if start.isPrefixOf s then some (s.drop start.length) else none

/-- `str::split_once` at a character. -/
def splitOnce (s : Str) (c : Char) : Option (Str × Str) :=
  match s with
  | [] => none
  | x :: rest => if x = c then some ([], rest) else (splitOnce rest c).map fun p => (x :: p.1, p.2)

/-- `str::contains` of a text. -/
def containsStr (s sub : Str) : Bool := s.tails.any (sub.isPrefixOf ·)

/-- `format!`: pieces of text, one after the other. -/
def format (pieces : List Str) : Str := pieces.flatten

/-- `str::replacen` with a count of 1. -/
def replaceFirst (s pat new : Str) : Str :=
  match s with
  | [] => []
  | c :: rest =>
    if pat.isPrefixOf (c :: rest) then new ++ (c :: rest).drop pat.length else c :: replaceFirst rest pat new

/-- `str::replace`; `skip` characters belong to an occurrence that was already replaced. -/
def replaceFrom (pat new : Str) (skip : Nat) : Str → Str
  | [] => []
  | c :: rest =>
    match skip with
    | k + 1 => replaceFrom pat new k rest
    | 0 =>
      if pat.isPrefixOf (c :: rest) then new ++ replaceFrom pat new (pat.length - 1) rest
      else c :: replaceFrom pat new 0 rest

def replaceAll (s pat new : Str) : Str := replaceFrom pat new 0 s

/-- `str::rsplit_once` at a character. -/
def rsplitOnce (s : Str) (c : Char) : Option (Str × Str) :=
  (splitOnce s.reverse c).map fun p => (p.2.reverse, p.1.reverse)

/-- `&s[..i]` for the last position `i` of `c`, when there is one. -/
def beforeLast (s : Str) (c : Char) : Option Str :=
  (splitOnce s.reverse c).map fun p => p.2.reverse

/-- `(&s[..n], &s[n..])`, when `n` is a character boundary. -/
def splitAtByte : Str → Nat → Option (Str × Str)
  | s, 0 => some ([], s)
  | [], _ + 1 => none
  | c :: s, n + 1 =>
    if c.utf8Size ≤ n + 1 then (splitAtByte s (n + 1 - c.utf8Size)).map fun p => (c :: p.1, p.2) else none

lemma splitAtByte_zero {s a b : Str} : splitAtByte s 0 = some (a, b) ↔ s = a ++ b ∧ (utf8 a).length = 0 := by
  rw [splitAtByte, Option.some.injEq, Prod.mk.injEq, List.length_eq_zero_iff, utf8_eq_nil]
  constructor
  · rintro ⟨rfl, rfl⟩
    exact ⟨rfl, rfl⟩
  · rintro ⟨hs, rfl⟩
    exact ⟨rfl, hs⟩

lemma splitAtByte_eq_some {s a b : Str} {n : Nat} :
    splitAtByte s n = some (a, b) ↔ s = a ++ b ∧ (utf8 a).length = n := by
  induction s generalizing n a with
  | nil =>
    cases n with
    | zero => exact splitAtByte_zero
    | succ n =>
      refine iff_of_false nofun ?_
      rintro ⟨hnil, hlength⟩
      rw [(List.append_eq_nil_iff.mp hnil.symm).1] at hlength
      cases hlength
  | cons c s ih =>
    cases n with
    | zero => exact splitAtByte_zero
    | succ n =>
      have hpos := c.utf8Size_pos
      rw [splitAtByte]
      cases a with
      | nil =>
        refine iff_of_false ?_ fun h => nomatch h.2
        split_ifs
        · intro h
          obtain ⟨p, -, hp⟩ := Option.map_eq_some_iff.mp h
          cases hp
        · exact nofun
      | cons d a =>
        rw [List.cons_append, List.cons.injEq, utf8, List.flatMap_cons, List.length_append,
          String.length_utf8EncodeChar]
        change _ ↔ _ ∧ d.utf8Size + (utf8 a).length = n + 1
        split_ifs with hsize
        · rw [Option.map_eq_some_iff]
          constructor
          · rintro ⟨p, hp, hpair⟩
            cases hpair
            obtain ⟨rfl, hlength⟩ := ih.mp hp
            exact ⟨⟨rfl, rfl⟩, by omega⟩
          · rintro ⟨⟨rfl, rfl⟩, hlength⟩
            exact ⟨(a, b), ih.mpr ⟨rfl, by omega⟩, rfl⟩
        · refine iff_of_false nofun ?_
          rintro ⟨⟨rfl, -⟩, hlength⟩
          omega

def nul : Char := Char.ofNat 0

/-- `[a, b, ..].join("\0")`. -/
def joinNul (fields : List Str) : Str := List.intercalate [Char.ofNat 0] fields

lemma trim_trim (s : Str) : trim (trim s) = trim s := by
  have hdrop : (trim s).dropWhile isWhitespace = trim s := by
    rw [List.dropWhile_eq_self_iff]
    intro hl
    have hpre : trim s <+: s.dropWhile isWhitespace := List.rdropWhile_prefix isWhitespace _
    have hlen : 0 < (s.dropWhile isWhitespace).length := lt_of_lt_of_le hl hpre.length_le
    rw [hpre.getElem hl]
    exact List.dropWhile_get_zero_not _ _ hlen
  rw [trim, hdrop, trim]
  exact List.rdropWhile_idempotent _ _

lemma trim_concat {w : Char} (s : Str) (hw : isWhitespace w = true) : trim (s ++ [w]) = trim s := by
  unfold trim
  rw [List.dropWhile_append]
  split_ifs with h
  · have hnil : s.dropWhile isWhitespace = [] := List.isEmpty_iff.mp h
    rw [hnil, List.dropWhile_cons_of_pos hw, List.dropWhile_nil]
  · exact List.rdropWhile_concat_pos _ _ _ hw

lemma flatten_splitOnP (p : Char → Bool) (s : Str) : (s.splitOnP p).flatten = s.filter fun c => !p c := by
  induction s with
  | nil => rfl
  | cons c s ih =>
    rw [List.splitOnP_cons_eq_if_modifyHead]
    cases hc : p c with
    | true => rw [if_pos rfl, List.flatten_cons, List.nil_append, ih, List.filter_cons_of_neg (by simp [hc])]
    | false =>
      rw [if_neg Bool.false_ne_true, List.filter_cons_of_pos (by simp [hc]), ← ih]
      cases hpieces : s.splitOnP p with
      | nil => exact absurd hpieces (List.splitOnP_ne_nil p s)
      | cons piece pieces => rfl

lemma flatten_filter_ne_nil (l : List Str) : (l.filter (· ≠ [])).flatten = l.flatten := by
  induction l with
  | nil => rfl
  | cons piece l ih =>
    by_cases h : piece = []
    · rw [h, List.filter_cons_of_neg (by simp), ih, List.flatten_cons, List.nil_append]
    · rw [List.filter_cons_of_pos (by simpa using h), List.flatten_cons, List.flatten_cons, ih]

lemma flatten_splitWhitespace (s : Str) : (splitWhitespace s).flatten = s.filter fun c => !isWhitespace c := by
  rw [splitWhitespace, flatten_filter_ne_nil, flatten_splitOnP]

lemma trim_sublist (s : Str) : (trim s).Sublist s :=
  (List.rdropWhile_prefix isWhitespace _).sublist.trans (List.dropWhile_suffix isWhitespace).sublist

lemma stripPrefix_append (start rest : Str) : stripPrefix (start ++ rest) start = some rest := by
  rw [stripPrefix, if_pos (List.isPrefixOf_iff_prefix.mpr (List.prefix_append start rest)), List.drop_left]

lemma stripPrefix_eq_none {s start : Str} (h : ¬ start <+: s) : stripPrefix s start = none :=
  if_neg fun hfront => h ( List.isPrefixOf_iff_prefix.mp hfront)

lemma stripSuffix_eq_some {s suffix rest : Str} : stripSuffix s suffix = some rest ↔ s = rest ++ suffix := by
  unfold stripSuffix
  constructor
  · intro h
    split_ifs at h with hsuffix
    obtain ⟨before, rfl⟩ := hsuffix
    obtain rfl := Option.some.inj h
    rw [List.length_append, Nat.add_sub_cancel, List.take_left]
  · rintro rfl
    rw [if_pos (List.suffix_append _ _), List.length_append, Nat.add_sub_cancel, List.take_left]

variable {c : Char}

lemma notMem_append {s t : Str} (hs : c ∉ s) (ht : c ∉ t) : c ∉ s ++ t :=
  List.mem_append.not.mpr (not_or.mpr ⟨hs, ht⟩)

lemma splitOnce_eq_none {s : Str} (h : c ∉ s) : splitOnce s c = none := by
  induction s with
  | nil => rfl
  | cons x s ih =>
    rw [List.mem_cons, not_or] at h
    rw [splitOnce, if_neg (Ne.symm h.1), ih h.2]
    rfl

lemma splitOnce_append {s t : Str} (h : c ∉ s) : splitOnce (s ++ c :: t) c = some (s, t) := by
  induction s with
  | nil => rw [List.nil_append, splitOnce, if_pos rfl]
  | cons x s ih =>
    rw [List.mem_cons, not_or] at h
    rw [List.cons_append, splitOnce, if_neg (Ne.symm h.1), ih h.2]
    rfl

lemma splitOnce_eq_some {s a b : Str} : splitOnce s c = some (a, b) ↔ s = a ++ c :: b ∧ c ∉ a := by
  constructor
  · intro h
    by_cases hc : c ∈ s
    · obtain ⟨a', b', rfl, ha'⟩ := List.eq_append_cons_of_mem hc
      rw [splitOnce_append ha'] at h
      obtain ⟨rfl, rfl⟩ := Prod.mk.inj (Option.some.inj h)
      exact ⟨rfl, ha'⟩
    · rw [splitOnce_eq_none hc] at h
      cases h
  · rintro ⟨rfl, ha⟩
    exact splitOnce_append ha

lemma beforeLast_eq_some {s head : Str} :
    beforeLast s c = some head ↔ ∃ tail, s = head ++ c :: tail ∧ c ∉ tail := by
  rw [beforeLast, Option.map_eq_some_iff]
  constructor
  · rintro ⟨⟨a, b⟩, hsplit, rfl⟩
    obtain ⟨hrev, hfree⟩ := splitOnce_eq_some.mp hsplit
    refine ⟨a.reverse, ?_, List.mem_reverse.not.mpr hfree⟩
    rw [← List.reverse_reverse s, hrev]
    simp
  · rintro ⟨tail, rfl, hfree⟩
    refine ⟨(tail.reverse, head.reverse), splitOnce_eq_some.mpr ⟨by simp, List.mem_reverse.not.mpr hfree⟩, ?_⟩
    exact List.reverse_reverse head

lemma lowerChar_toNat (c : Char) :
    (lowerChar c).toNat = if 65 ≤ c.toNat ∧ c.toNat ≤ 90 then c.toNat + 32 else c.toNat := by
  have key : ∀ n : Fin 26, (Char.ofNat (65 + n.val + 32)).toNat = 65 + n.val + 32 := by decide
  have hcase : ('A' ≤ c ∧ c ≤ 'Z') ↔ (65 ≤ c.toNat ∧ c.toNat ≤ 90) :=
    and_congr UInt32.le_iff_toNat_le UInt32.le_iff_toNat_le
  unfold lowerChar
  simp only [hcase]
  split
  · next h =>
    have hn : 65 + (c.toNat - 65) = c.toNat := by omega
    have hval := key ⟨c.toNat - 65, by omega⟩
    rwa [hn] at hval
  · rfl

lemma lowerChar_lowerChar (c : Char) : lowerChar (lowerChar c) = lowerChar c := by
  apply Char.toNat_inj.mp
  rw [lowerChar_toNat (lowerChar c), lowerChar_toNat c]
  split_ifs <;> omega

lemma toAsciiLowercase_idem (s : Str) : toAsciiLowercase (toAsciiLowercase s) = toAsciiLowercase s := by
  unfold toAsciiLowercase
  rw [List.map_map]
  exact List.map_congr_left fun c _ => lowerChar_lowerChar c

/-- The value of a non-empty run of decimal digits. -/
def parseDigits (s : Str) : Option Nat :=
  if s ≠ [] ∧ s.all isAsciiDigit then some (s.foldl (fun acc c => 10 * acc + (c.toNat - 48)) 0) else none

/-- `str::parse` into an unsigned type with largest value `hi`. -/
def parseUnsigned (hi : Nat) (s : Str) : Option Nat :=
  (parseDigits (if s.head? = some '+' then s.tail else s)).filter (· ≤ hi)

/-- `str::parse::<i64>`. -/
def parseI64 (s : Str) : Option Int :=
  if s.head? = some '-' then
    ((parseDigits s.tail).filter (· ≤ 2 ^ 63)).map fun n => -(n : Int)
  else (parseUnsigned (2 ^ 63 - 1) s).map Int.ofNat

def u64Max : Nat := 2 ^ 64 - 1

def u32Max : Nat := 2 ^ 32 - 1

def saturatingAdd (a b : Nat) : Nat := min (a + b) u64Max

def saturatingMul (a b : Nat) : Nat := min (a * b) u64Max

/-- A decimal numeral (`to_string` of an unsigned integer). -/
def decimal (n : Nat) : Str := Nat.toDigits 10 n

def wrapI64 (x : Int) : Int := x.bmod (2 ^ 64)

def wrapU64 (x : Int) : Nat := (x % 2 ^ 64).toNat

/-- `b.get(off..off + len)`. -/
def slice (b : Bytes) (off len : Nat) : Option Bytes :=
  if off + len ≤ b.length then some ((b.drop off).take len) else none

lemma slice_eq_some {b r : Bytes} {off len : Nat} :
    slice b off len = some r ↔ off + len ≤ b.length ∧ r = (b.drop off).take len := by
  unfold slice
  split_ifs with h
  · simp [h, eq_comm]
  · simp [h]

lemma mem_of_slice {b r : Bytes} {off len : Nat} (h : slice b off len = some r) {x : UInt8} (hx : x ∈ r) : x ∈ b := by
  obtain ⟨-, rfl⟩ := slice_eq_some.mp h
  exact List.mem_of_mem_drop (List.mem_of_mem_take hx)

lemma slice_append {a b c : Bytes} {off len : Nat} (ha : a.length = off) (hb : b.length = len) :
    slice (a ++ (b ++ c)) off len = some b := by
  subst ha hb
  refine slice_eq_some.mpr ⟨?_, ?_⟩
  · simp only [List.length_append]
    omega
  · rw [List.drop_left, List.take_left]

end TeechatOpenapi.Lib
