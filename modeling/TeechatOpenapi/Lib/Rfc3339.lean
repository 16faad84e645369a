import Mathlib.Data.Rat.Floor
import TeechatOpenapi.Lib.Calendar
import TeechatOpenapi.Lib.Radix

/-!
# Times as texts

A time of the calendar in UTC, with a fraction of a second of any length, and the texts that name it.
-/

namespace TeechatOpenapi.Lib

open Encoding

def digitsValue (ds : List (Fin 10)) : Nat := ds.foldl (fun acc d => 10 * acc + d.val) 0

def digitText (ds : List (Fin 10)) : Str := ds.map fun d => Nat.digitChar d.val

/-- The last `w` digits of a number. -/
def digitsOf : (w n : Nat) → List (Fin 10)
  | 0, _ => []
  | w + 1, n => digitsOf w (n / 10) ++ [⟨n % 10, Nat.mod_lt n (by decide)⟩]

/-- A number in `w` digits. -/
def pad (w n : Nat) : Str := digitText (digitsOf w n)

section Digits

variable {ds es : List (Fin 10)}

lemma foldl_digits (ds : List (Fin 10)) (acc : Nat) :
    ds.foldl (fun acc d => 10 * acc + d.val) acc = acc * 10 ^ ds.length + digitsValue ds := by
  induction ds generalizing acc with
  | nil => simp [digitsValue]
  | cons d ds ih =>
    unfold digitsValue
    rw [List.foldl_cons, List.foldl_cons, ih, ih (10 * 0 + d.val), List.length_cons, pow_succ]
    ring

lemma digitsValue_append (ds es : List (Fin 10)) :
    digitsValue (ds ++ es) = digitsValue ds * 10 ^ es.length + digitsValue es := by
  rw [digitsValue, List.foldl_append, foldl_digits]
  rfl

lemma digitsValue_lt (ds : List (Fin 10)) : digitsValue ds < 10 ^ ds.length := by
  induction ds using List.reverseRecOn with
  | nil => decide
  | append_singleton ds d ih =>
    have hd := d.isLt
    have hone : digitsValue [d] = d.val := by simp [digitsValue]
    rw [digitsValue_append, hone, List.length_append, List.length_singleton, pow_one, pow_succ]
    omega

lemma length_digitsOf (w n : Nat) : (digitsOf w n).length = w := by
  induction w generalizing n with
  | zero => rfl
  | succ w ih => rw [digitsOf, List.length_append, ih, List.length_singleton]

lemma digitsValue_digitsOf {w n : Nat} (h : n < 10 ^ w) : digitsValue (digitsOf w n) = n := by
  induction w generalizing n with
  | zero =>
    rw [pow_zero] at h
    rw [show n = 0 by omega]
    rfl
  | succ w ih =>
    rw [pow_succ] at h
    rw [digitsOf, digitsValue_append, ih (by omega), List.length_singleton]
    simp only [digitsValue, List.foldl_cons, List.foldl_nil]
    omega

variable {c : Char}

lemma mem_digitText (h : c ∈ digitText ds) : isAsciiDigit c = true := by
  obtain ⟨d, -, rfl⟩ := List.mem_map.mp h
  exact (isAsciiDigit_digitChar d.isLt).1

lemma notMem_digitText (h : isAsciiDigit c = false) : c ∉ digitText ds :=
  fun hc => Bool.false_ne_true (h.symm.trans (mem_digitText hc))

lemma exists_digitChar (h : isAsciiDigit c = true) : ∃ d : Fin 10, c = Nat.digitChar d.val := by
  have hbounds : 48 ≤ c.toNat ∧ c.toNat ≤ 57 := by
    simp only [isAsciiDigit, Bool.and_eq_true, decide_eq_true_eq] at h
    exact h
  have key : ∀ d : Fin 10, (Nat.digitChar d.val).toNat = d.val + 48 := by decide
  refine ⟨⟨c.toNat - 48, by omega⟩, Char.toNat_inj.mp ?_⟩
  rw [key]
  exact (Nat.sub_add_cancel hbounds.1).symm

lemma exists_digitText {s : Str} (h : s.all isAsciiDigit = true) : ∃ ds, s = digitText ds := by
  induction s with
  | nil => exact ⟨[], rfl⟩
  | cons c s ih =>
    rw [List.all_cons, Bool.and_eq_true] at h
    obtain ⟨ds, rfl⟩ := ih h.2
    obtain ⟨d, rfl⟩ := exists_digitChar h.1
    exact ⟨d :: ds, rfl⟩

lemma digitText_append (ds es : List (Fin 10)) : digitText (ds ++ es) = digitText ds ++ digitText es :=
  List.map_append

lemma parseDigits_digitText (h : ds ≠ []) : parseDigits (digitText ds) = some (digitsValue ds) := by
  have hvalue : ∀ (l : List (Fin 10)) (acc : Nat), (digitText l).foldl (fun acc c => 10 * acc + (c.toNat - 48)) acc =
      l.foldl (fun acc d => 10 * acc + d.val) acc := by
    intro l
    induction l with
    | nil => exact fun acc => rfl
    | cons d l ih =>
      intro acc
      rw [digitText, List.map_cons, List.foldl_cons, List.foldl_cons, (isAsciiDigit_digitChar d.isLt).2]
      exact ih _
  have hdigits : digitText ds ≠ [] ∧ (digitText ds).all isAsciiDigit = true :=
    ⟨fun hnil => h (List.map_eq_nil_iff.mp hnil), List.all_eq_true.mpr fun c hc => mem_digitText hc⟩
  rw [parseDigits, if_pos hdigits, hvalue]
  rfl

lemma isWhitespace_of_isAsciiDigit (h : isAsciiDigit c = true) : isWhitespace c = false := by
  have hhex : isAsciiHexdigit c = true := by
    simp [isAsciiHexdigit, h]
  exact (isAsciiHexdigit_spec hhex).1

lemma head?_digitText (h : isAsciiDigit c = false) : (digitText ds).head? ≠ some c :=
  fun hhead => notMem_digitText h (List.mem_of_mem_head? hhead)

lemma parseUnsigned_digitText {hi : Nat} (h : ds ≠ []) (hle : digitsValue ds ≤ hi) :
    parseUnsigned hi (digitText ds) = some (digitsValue ds) := by
  rw [parseUnsigned, if_neg (head?_digitText (by decide)), parseDigits_digitText h]
  simp [Option.filter, hle]

lemma digitsOf_ne_nil {w : Nat} (hw : 0 < w) (n : Nat) : digitsOf w n ≠ [] := by
  intro hnil
  have hlen := length_digitsOf w n
  rw [hnil, List.length_nil] at hlen
  omega

lemma parseUnsigned_pad {hi w n : Nat} (hw : 0 < w) (hn : n < 10 ^ w) (hle : n ≤ hi) :
    parseUnsigned hi (pad w n) = some n := by
  have hvalue := digitsValue_digitsOf hn
  rw [pad, parseUnsigned_digitText (digitsOf_ne_nil hw n) (by rw [hvalue]; exact hle), hvalue]

end Digits

/-- The whole thousandths of a fraction that is given by its digits. -/
def thousandths (ds : List (Fin 10)) : Nat := digitsValue ds * 1000 / 10 ^ ds.length

lemma thousandths_lt (ds : List (Fin 10)) : thousandths ds < 1000 := by
  have := digitsValue_lt ds
  refine Nat.div_lt_of_lt_mul ?_
  omega

lemma thousandths_take (ds : List (Fin 10)) :
    thousandths ds = digitsValue (ds.take 3 ++ List.replicate (3 - (ds.take 3).length) 0) := by
  have hsplit : digitsValue ds = digitsValue (ds.take 3) * 10 ^ (ds.drop 3).length + digitsValue (ds.drop 3) := by
    rw [← digitsValue_append, List.take_append_drop]
  have hlen : ds.length = (ds.take 3).length + (ds.drop 3).length := by
    rw [← List.length_append, List.take_append_drop]
  have hzeros : ∀ k, digitsValue (List.replicate k 0) = 0 := by
    intro k
    induction k with
    | zero => rfl
    | succ k ih =>
      rw [List.replicate_succ, ← List.singleton_append, digitsValue_append, ih]
      simp [digitsValue]
  have hrest := digitsValue_lt (ds.drop 3)
  rw [digitsValue_append, hzeros, List.length_replicate, Nat.add_zero, thousandths, hsplit, hlen]
  rcases Nat.lt_or_ge ds.length 3 with hshort | hlong
  · -- all digits are taken, and zeros fill them up
    rw [List.drop_eq_nil_of_le hshort.le, List.take_of_length_le hshort.le]
    simp only [List.length_nil, pow_zero, mul_one, Nat.add_zero, digitsValue, List.foldl_nil]
    have hthousand : 10 ^ (3 - ds.length) * 10 ^ ds.length = 1000 := by
      rw [← pow_add, Nat.sub_add_cancel hshort.le]
      rfl
    rw [← hthousand, ← Nat.mul_assoc]
    exact Nat.mul_div_cancel _ (Nat.pow_pos (by decide))
  · -- the digits behind the third are less than one of the third
    have htake : (ds.take 3).length = 3 := List.length_take_of_le hlong
    rw [htake, Nat.sub_self, pow_zero, Nat.mul_one, pow_add, show 10 ^ 3 = 1000 from rfl, Nat.mul_comm _ 1000,
      Nat.mul_div_mul_left _ _ (by decide), Nat.mul_comm, Nat.mul_add_div (Nat.pow_pos (by decide)),
      Nat.div_eq_of_lt hrest, Nat.add_zero]

/-- A time in UTC; `fraction` are the digits behind the seconds. -/
structure Time where
  date : Date
  hour : Nat
  minute : Nat
  second : Nat
  fraction : List (Fin 10)
  hour_lt : hour < 24
  minute_lt : minute < 60
  second_lt : second < 60

namespace Time

variable (t : Time)

/-- The time is `x` seconds after 1970-01-01: its date is so many days after that day. -/
def IsInstant (x : Rat) : Prop :=
  ∃ days : Int, DaysAfterEpoch t.date days ∧
    x = days * 86400 + t.hour * 3600 + t.minute * 60 + t.second + digitsValue t.fraction / 10 ^ t.fraction.length

/-- The whole seconds since 1970-01-01. -/
def seconds : Int := t.date.number * 86400 + t.hour * 3600 + t.minute * 60 + t.second

/-- The whole milliseconds since 1970-01-01. -/
def millis : Int := t.seconds * 1000 + thousandths t.fraction

lemma isInstant_iff {x : Rat} :
    t.IsInstant x ↔ x = t.seconds + digitsValue t.fraction / 10 ^ t.fraction.length := by
  simp only [IsInstant, daysAfterEpoch_iff]
  constructor
  · rintro ⟨days, rfl, rfl⟩
    rw [seconds]
    push_cast
    rfl
  · rintro rfl
    refine ⟨t.date.number, rfl, ?_⟩
    rw [seconds]
    push_cast
    rfl

lemma exists_isInstant : ∃ x, t.IsInstant x := ⟨_, t.isInstant_iff.mpr rfl⟩

/-- **The whole milliseconds of a time.** -/
theorem floor_instant {x : Rat} (h : t.IsInstant x) : ⌊1000 * x⌋ = t.millis := by
  have hfraction : (1000 : Rat) * (digitsValue t.fraction / 10 ^ t.fraction.length) =
      ((digitsValue t.fraction * 1000 : Nat) : Rat) / ((10 ^ t.fraction.length : Nat) : Rat) := by
    push_cast
    ring
  have hwhole : (1000 : Rat) * t.seconds = ((t.seconds * 1000 : Int) : Rat) := by
    push_cast
    ring
  rw [t.isInstant_iff.mp h, mul_add, hfraction, hwhole, Int.floor_intCast_add, Rat.floor_natCast_div_natCast]
  rfl

lemma millis_nonneg_iff : 0 ≤ t.millis ↔ 0 ≤ t.date.number := by
  have hlt := thousandths_lt t.fraction
  have hhour := t.hour_lt
  have hminute := t.minute_lt
  have hsecond := t.second_lt
  unfold millis seconds
  omega

lemma month_lt : t.date.month < 10 ^ 2 := by
  have := t.date.month_le
  omega

lemma day_le : t.date.day ≤ 31 := by
  have hle := t.date.day_le
  have : monthLength t.date.year t.date.month ≤ 31 := by
    unfold monthLength
    split_ifs <;> decide
  omega

end Time

/-- The texts of the parts of a time. -/
structure Written where
  year : Str
  month : Str
  day : Str
  hour : Str
  minute : Str
  second : Str
  fraction : Str

namespace Written

variable (w : Written) {t : Time}

def date : Str := w.year ++ '-' :: (w.month ++ '-' :: w.day)

def clock : Str := w.hour ++ ':' :: (w.minute ++ ':' :: w.second)

/-- The whole text, without what it says about the zone. -/
def body : Str := w.date ++ 'T' :: (w.clock ++ w.fraction)

/-- The parts are numbers and name a time; a fraction is a point and any number of digits. -/
structure Names (t : Time) : Prop where
  year : (parseUnsigned (2 ^ 63 - 1) w.year).map Int.ofNat = some t.date.year
  month : parseUnsigned u32Max w.month = some t.date.month
  day : parseUnsigned u32Max w.day = some t.date.day
  hour : parseUnsigned u32Max w.hour = some t.hour
  minute : parseUnsigned u32Max w.minute = some t.minute
  second : parseUnsigned u32Max w.second = some t.second
  fraction : w.fraction = '.' :: digitText t.fraction ∨ w.fraction = [] ∧ t.fraction = []

end Written

/-- A text names a time. -/
def Spells (body : Str) (t : Time) : Prop := ∃ w : Written, body = w.body ∧ w.Names t

lemma notMem_of_parseUnsigned {hi n : Nat} {s : Str} {c : Char} (h : parseUnsigned hi s = some n)
    (hdigit : isAsciiDigit c = false) (hplus : c ≠ '+') : c ∉ s := by
  have hdigits : ∀ {u : Str} {m : Nat}, parseDigits u = some m → c ∉ u := by
    intro u m hu hmem
    unfold parseDigits at hu
    split_ifs at hu with hall
    exact Bool.false_ne_true (hdigit.symm.trans (List.all_eq_true.mp hall.2 c hmem))
  obtain ⟨hvalue, -⟩ := Option.filter_eq_some_iff.mp h
  split_ifs at hvalue with hhead
  · cases s with
    | nil => exact List.not_mem_nil
    | cons x s =>
      obtain rfl := Option.some.inj hhead
      exact List.not_mem_cons_of_ne_of_not_mem hplus (hdigits hvalue)
  · exact hdigits hvalue

lemma le_of_parseUnsigned {hi n : Nat} {s : Str} (h : parseUnsigned hi s = some n) : n ≤ hi :=
  of_decide_eq_true (Option.filter_eq_some_iff.mp h).2

lemma splitOn_three {c : Char} {x y z : Str} (hx : c ∉ x) (hy : c ∉ y) (hz : c ∉ z) :
    (x ++ c :: (y ++ c :: z)).splitOn c = [x, y, z] := by
  rw [List.splitOn_append_cons_self_of_not_mem hx, List.splitOn_append_cons_self_of_not_mem hy,
    List.splitOn_eq_singleton hz]

lemma eq_of_splitOn_three {c : Char} {s x y z : Str} (h : s.splitOn c = [x, y, z]) :
    s = x ++ c :: (y ++ c :: z) := by
  have hjoin : [c].intercalate (s.splitOn c) = s := List.intercalate_splitOn c
  rw [h] at hjoin
  rw [← hjoin]
  simp [List.intercalate, List.intersperse]

namespace Written.Names

variable {w : Written} {t : Time} (h : w.Names t)

include h

lemma year_unsigned : ∃ n, parseUnsigned (2 ^ 63 - 1) w.year = some n ∧ t.date.year = n := by
  obtain ⟨n, hn, heq⟩ := Option.map_eq_some_iff.mp h.year
  exact ⟨n, hn, heq.symm⟩

lemma year_nonneg : 0 ≤ t.date.year := by
  obtain ⟨n, -, heq⟩ := h.year_unsigned
  omega

lemma year_le : t.date.year ≤ 2 ^ 63 - 1 := by
  obtain ⟨n, hn, heq⟩ := h.year_unsigned
  have := le_of_parseUnsigned hn
  omega

lemma parseI64_year : parseI64 w.year = some t.date.year := by
  obtain ⟨n, hn, heq⟩ := h.year_unsigned
  have hdash : w.year.head? ≠ some '-' :=
    fun hhead => notMem_of_parseUnsigned hn (by decide) (by decide) (List.mem_of_mem_head? hhead)
  rw [parseI64, if_neg hdash, h.year]

variable {c : Char} (hdigit : isAsciiDigit c = false) (hplus : c ≠ '+')

include hdigit hplus

lemma notMem_year : c ∉ w.year := by
  obtain ⟨n, hn, -⟩ := h.year_unsigned
  exact notMem_of_parseUnsigned hn hdigit hplus

lemma notMem_month : c ∉ w.month := notMem_of_parseUnsigned h.month hdigit hplus

lemma notMem_day : c ∉ w.day := notMem_of_parseUnsigned h.day hdigit hplus

lemma notMem_hour : c ∉ w.hour := notMem_of_parseUnsigned h.hour hdigit hplus

lemma notMem_minute : c ∉ w.minute := notMem_of_parseUnsigned h.minute hdigit hplus

lemma notMem_second : c ∉ w.second := notMem_of_parseUnsigned h.second hdigit hplus

omit hplus in
lemma notMem_fraction (hdot : c ≠ '.') : c ∉ w.fraction := by
  rcases h.fraction with hfraction | ⟨hfraction, -⟩
  · rw [hfraction]
    exact List.not_mem_cons_of_ne_of_not_mem hdot (notMem_digitText hdigit)
  · rw [hfraction]
    exact List.not_mem_nil

lemma notMem_date (hdash : c ≠ '-') : c ∉ w.date := by
  simp only [date, List.mem_append, List.mem_cons, not_or]
  exact ⟨h.notMem_year hdigit hplus, hdash, h.notMem_month hdigit hplus, hdash, h.notMem_day hdigit hplus⟩

lemma notMem_clock (hcolon : c ≠ ':') : c ∉ w.clock := by
  simp only [clock, List.mem_append, List.mem_cons, not_or]
  exact ⟨h.notMem_hour hdigit hplus, hcolon, h.notMem_minute hdigit hplus, hcolon, h.notMem_second hdigit hplus⟩

lemma notMem_body (hother : c ≠ '-' ∧ c ≠ 'T' ∧ c ≠ ':' ∧ c ≠ '.') : c ∉ w.body := by
  simp only [body, List.mem_append, List.mem_cons, not_or]
  exact ⟨h.notMem_date hdigit hplus hother.1, hother.2.1, h.notMem_clock hdigit hplus hother.2.2.1,
    h.notMem_fraction hdigit hother.2.2.2⟩

omit hdigit hplus

lemma splitOnce_body : splitOnce w.body 'T' = some (w.date, w.clock ++ w.fraction) :=
  splitOnce_append (h.notMem_date (by decide) (by decide) (by decide))

lemma splitOn_date : w.date.splitOn '-' = [w.year, w.month, w.day] :=
  splitOn_three (h.notMem_year (by decide) (by decide)) (h.notMem_month (by decide) (by decide))
    (h.notMem_day (by decide) (by decide))

lemma splitOn_clock : w.clock.splitOn ':' = [w.hour, w.minute, w.second] :=
  splitOn_three (h.notMem_hour (by decide) (by decide)) (h.notMem_minute (by decide) (by decide))
    (h.notMem_second (by decide) (by decide))

lemma splitOn_clock_fraction :
    (w.clock ++ w.fraction).splitOn ':' = [w.hour, w.minute, w.second ++ w.fraction] := by
  have hlast : ':' ∉ w.second ++ w.fraction := by
    rw [List.mem_append, not_or]
    exact ⟨h.notMem_second (by decide) (by decide), h.notMem_fraction (by decide) (by decide)⟩
  have hshape : w.clock ++ w.fraction = w.hour ++ ':' :: (w.minute ++ ':' :: (w.second ++ w.fraction)) := by
    simp [clock]
  rw [hshape]
  exact splitOn_three (h.notMem_hour (by decide) (by decide)) (h.notMem_minute (by decide) (by decide)) hlast

lemma splitOnce_fraction {s : Str} (hs : '.' ∉ s) :
    splitOnce (s ++ w.fraction) '.' = some (s, digitText t.fraction) ∨
      splitOnce (s ++ w.fraction) '.' = none ∧ w.fraction = [] ∧ t.fraction = [] := by
  rcases h.fraction with hfraction | ⟨hfraction, hdigits⟩
  · rw [hfraction]
    exact .inl (splitOnce_append hs)
  · rw [hfraction, List.append_nil]
    exact .inr ⟨splitOnce_eq_none hs, rfl, hdigits⟩

lemma not_space {c : Char} (hc : c ∈ w.body) : isWhitespace c = false := by
  cases hwhite : isWhitespace c with
  | false => rfl
  | true =>
    refine absurd hc (h.notMem_body ?_ ?_ ?_)
    · cases hdigit : isAsciiDigit c with
      | false => rfl
      | true => exact absurd ((isWhitespace_of_isAsciiDigit hdigit).symm.trans hwhite) Bool.false_ne_true
    · rintro rfl
      exact absurd hwhite (by decide)
    · refine ⟨?_, ?_, ?_, ?_⟩ <;> rintro rfl <;> exact absurd hwhite (by decide)

end Written.Names

/-- The numbers of a date and a time of day. -/
structure Numbers where
  year : Int
  month : Nat
  day : Nat
  hour : Nat
  minute : Nat
  second : Nat
  deriving DecidableEq

def Time.numbers (t : Time) : Numbers := ⟨t.date.year, t.date.month, t.date.day, t.hour, t.minute, t.second⟩

/-- The first three parts of a date and of a time of day as numbers; what follows them is not looked at. -/
def leadingNumbers (date clock : Str) : Option Numbers := do
  let year ← (date.splitOn '-')[0]?.bind parseI64
  let month ← (date.splitOn '-')[1]?.bind (parseUnsigned u32Max)
  let day ← (date.splitOn '-')[2]?.bind (parseUnsigned u32Max)
  let hour ← (clock.splitOn ':')[0]?.bind (parseUnsigned u32Max)
  let minute ← (clock.splitOn ':')[1]?.bind (parseUnsigned u32Max)
  let second ← (clock.splitOn ':')[2]?.bind (parseUnsigned u32Max)
  return ⟨year, month, day, hour, minute, second⟩

lemma leadingNumbers_eq_some {date clock : Str} {n : Numbers} :
    leadingNumbers date clock = some n ↔ (date.splitOn '-')[0]?.bind parseI64 = some n.year ∧
      (date.splitOn '-')[1]?.bind (parseUnsigned u32Max) = some n.month ∧
      (date.splitOn '-')[2]?.bind (parseUnsigned u32Max) = some n.day ∧
      (clock.splitOn ':')[0]?.bind (parseUnsigned u32Max) = some n.hour ∧
      (clock.splitOn ':')[1]?.bind (parseUnsigned u32Max) = some n.minute ∧
      (clock.splitOn ':')[2]?.bind (parseUnsigned u32Max) = some n.second := by
  simp only [leadingNumbers, Option.bind_eq_bind, Option.bind_eq_some_iff, Option.pure_def, Option.some.injEq]
  constructor
  · rintro ⟨_, hyear, _, hmonth, _, hday, _, hhour, _, hminute, _, hsecond, rfl⟩
    exact ⟨hyear, hmonth, hday, hhour, hminute, hsecond⟩
  · rintro ⟨hyear, hmonth, hday, hhour, hminute, hsecond⟩
    exact ⟨_, hyear, _, hmonth, _, hday, _, hhour, _, hminute, _, hsecond, rfl⟩

lemma Written.Names.leadingNumbers {w : Written} {t : Time} (h : w.Names t) :
    leadingNumbers w.date w.clock = some t.numbers := by
  rw [leadingNumbers_eq_some, h.splitOn_date, h.splitOn_clock]
  exact ⟨h.parseI64_year, h.month, h.day, h.hour, h.minute, h.second⟩

lemma notMem_first_part {c : Char} {s part : Str} (h : (s.splitOn c)[0]? = some part) : c ∉ part := by
  by_cases hc : c ∈ s
  · obtain ⟨a, b, rfl, ha⟩ := List.eq_append_cons_of_mem hc
    rw [List.splitOn_append_cons_self_of_not_mem ha] at h
    obtain rfl := Option.some.inj h
    exact ha
  · rw [List.splitOn_eq_singleton hc] at h
    obtain rfl := Option.some.inj h
    exact hc

lemma part_le {hi n : Nat} {part : Option Str} (h : part.bind (parseUnsigned hi) = some n) : n ≤ hi := by
  obtain ⟨s, -, hs⟩ := Option.bind_eq_some_iff.mp h
  exact le_of_parseUnsigned hs

/-- The numbers are values of the types they are read into. -/
structure Numbers.Typed (n : Numbers) : Prop where
  year_nonneg : 0 ≤ n.year
  year_le : n.year ≤ 2 ^ 63 - 1
  month_le : n.month ≤ 2 ^ 32 - 1
  day_le : n.day ≤ 2 ^ 32 - 1
  hour_le : n.hour ≤ 2 ^ 32 - 1
  minute_le : n.minute ≤ 2 ^ 32 - 1
  second_le : n.second ≤ 2 ^ 32 - 1

lemma typed_of_leadingNumbers {date clock : Str} {n : Numbers} (h : leadingNumbers date clock = some n) :
    n.Typed := by
  obtain ⟨hyear, hmonth, hday, hhour, hminute, hsecond⟩ := leadingNumbers_eq_some.mp h
  obtain ⟨part, hpart, hyear⟩ := Option.bind_eq_some_iff.mp hyear
  have hdash : part.head? ≠ some '-' := fun hhead => notMem_first_part hpart (List.mem_of_mem_head? hhead)
  rw [parseI64, if_neg hdash] at hyear
  obtain ⟨k, hk, heq⟩ := Option.map_eq_some_iff.mp hyear
  have hle := le_of_parseUnsigned hk
  have hvalue : n.year = (k : Int) := heq.symm
  exact ⟨by omega, by omega, part_le hmonth, part_le hday, part_le hhour, part_le hminute, part_le hsecond⟩

/-- A time of the years 1970 to 9999. -/
structure Stamp extends Time where
  year_ge : 1970 ≤ date.year
  year_le : date.year ≤ 9999

namespace Stamp

variable (s : Stamp)

/-- The parts with leading zeros, and a point only where digits follow. -/
def written : Written where
  year := pad 4 s.date.year.toNat
  month := pad 2 s.date.month
  day := pad 2 s.date.day
  hour := pad 2 s.hour
  minute := pad 2 s.minute
  second := pad 2 s.second
  fraction := if s.fraction = [] then [] else '.' :: digitText s.fraction

/-- `YYYY-MM-DDTHH:MM:SS[.digits]Z`. -/
def text : Str := s.written.body ++ ['Z']

lemma written_names : s.written.Names s.toTime := by
  have hyear := s.year_ge
  have hlast := s.year_le
  have hmonth := s.month_lt
  have hday := s.day_le
  have hhour := s.hour_lt
  have hminute := s.minute_lt
  have hsecond := s.second_lt
  refine ⟨?_, ?_, ?_, ?_, ?_, ?_, ?_⟩
  · rw [written, parseUnsigned_pad (by decide) (by omega) (by omega)]
    exact congrArg some (Int.toNat_of_nonneg (by omega))
  · exact parseUnsigned_pad (by decide) (by omega) (by rw [u32Max]; omega)
  · exact parseUnsigned_pad (by decide) (by omega) (by rw [u32Max]; omega)
  · exact parseUnsigned_pad (by decide) (by omega) (by rw [u32Max]; omega)
  · exact parseUnsigned_pad (by decide) (by omega) (by rw [u32Max]; omega)
  · exact parseUnsigned_pad (by decide) (by omega) (by rw [u32Max]; omega)
  · by_cases hfraction : s.fraction = []
    · exact .inr ⟨if_pos hfraction, hfraction⟩
    · exact .inl (if_neg hfraction)

lemma number_nonneg : 0 ≤ s.date.number := by
  have hyear := s.year_ge
  have hmonth := s.date.month_pos
  have hday := s.date.day_pos
  rcases Date.before_trichotomy .epoch s.date with hlt | heq | hlt
  · have := number_lt_of_before hlt
    rw [number_epoch] at this
    omega
  · rw [← heq, number_epoch]
  · simp only [Date.Before, Date.epoch] at hlt
    omega

lemma number_le : s.date.number ≤ 2932896 := by
  have hday := number_lt_month_end s.date
  have hyear := month_end_le_year_end s.date.year s.date.month_pos s.date.month_le
  have hlast : dayNumber (s.date.year + 1) 1 1 ≤ dayNumber 10000 1 1 := dayNumber_year_le (by have := s.year_le; omega)
  have hvalue : dayNumber 10000 1 1 = 2932897 := by decide
  omega

lemma seconds_bounds : 0 ≤ s.seconds ∧ s.seconds ≤ 253402300799 := by
  have hpos := s.number_nonneg
  have hle := s.number_le
  have hhour := s.hour_lt
  have hminute := s.minute_lt
  have hsecond := s.second_lt
  unfold Time.seconds
  omega

lemma trim_text : trim s.text = s.text := by
  refine trim_eq_self fun c hc => ?_
  rcases List.mem_append.mp hc with hbody | hend
  · exact s.written_names.not_space hbody
  · rw [List.mem_singleton.mp hend]
    decide

lemma length_body : 10 < s.written.body.length := by
  have hpad : ∀ w n, (pad w n).length = w := by
    intro w n
    rw [pad, digitText, List.length_map, length_digitsOf]
  simp only [Written.body, Written.date, Written.clock, written, List.length_append, List.length_cons, hpad]
  omega

end Stamp

end TeechatOpenapi.Lib
