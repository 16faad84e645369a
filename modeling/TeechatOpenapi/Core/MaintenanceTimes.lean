import TeechatOpenapi.Core.Maintenance
import TeechatOpenapi.Lib.Rfc3339
import TeechatOpenapi.Lib.Words

/-!
# The times of a maintenance window (`openapi-core/src/maintenance.rs`)

`parse_rfc3339_ms` checks that a month and a day may occur together in some month, but neither the day against its month
nor the time of day nor the offset, and it slices an offset of four octets in its middle.
-/

namespace TeechatOpenapi.Core.Maintenance

open Lib

/-! ## What is read -/

/-- The text names a time: it is the text of the time, white space apart, and `Z` or an offset `HH:MM` or `HHMM` behind
a sign. -/
def NamesTime (text : Str) (t : Time) : Prop :=
  ∃ body, Spells body t ∧ (trim text = body ++ ['Z'] ∨
    ∃ sign hh mm h m, (sign = '+' ∨ sign = '-') ∧ parseDigits hh = some h ∧ parseDigits mm = some m ∧ h < 24 ∧ m < 60 ∧
      (trim text = body ++ sign :: (hh ++ ':' :: mm) ∨
        hh.length = 2 ∧ mm.length = 2 ∧ trim text = body ++ sign :: (hh ++ mm)))

/-- The text with `Z` spelled out. -/
def normalized (text : Str) : Str :=
  match stripSuffix (trim text) ['Z'] with
  | some rest => rest ++ "+00:00".toList
  | none => trim text

/-- What stands before the offset, the offset itself, and whether a `-` stands before it. -/
def offsetParts (s : Str) : Option (Str × Str × Bool) :=
  match beforeSign s '+' with
  | some before => some (before, s.drop before.length, false)
  | none => (beforeSign s '-').map fun before => (before, '+' :: s.drop (before.length + 1), true)

/-- The two numbers of an offset. -/
def offsetNumbers (text : Str) : Except (Fault Str) (Int × Int) :=
  let s := text.dropWhile (· = '+')
  let read (a b : Str) : Except (Fault Str) (Int × Int) := do
    let h ← okOr (parseI64 a) (.returned "offset_h")
    let m ← okOr (parseI64 b) (.returned "offset_m")
    return (h, m)
  match splitOnce s ':' with
  | some (a, b) => read a b
  | none =>
    if (utf8 s).length = 4 then
      match splitAtByte s 2 with
      | some (a, b) => read a b
      | none => .error .panicked
    else .error (.returned "offset_fmt")

/-- What is read of the offset: what stands before it, its numbers, and whether it is subtracted. -/
structure OffsetRead where
  datetime : Str
  hours : Int
  minutes : Int
  west : Bool

/-- `split_offset` without its arithmetic. -/
def readOffset (s : Str) : Except (Fault Str) OffsetRead := do
  let (before, text, west) ← okOr (offsetParts s) (.returned "rfc3339_missing_offset")
  let (h, m) ← offsetNumbers text
  return ⟨before, h, m, west⟩

/-- The offset that is subtracted; arithmetic wraps. -/
def OffsetRead.wrapped (o : OffsetRead) : Int :=
  if o.west then wrapI64 (-offsetMs o.hours o.minutes) else offsetMs o.hours o.minutes

lemma parseOffset_eq (text : Str) : parseOffset text = (do
    let (h, m) ← offsetNumbers text
    return offsetMs h m) := by
  unfold parseOffset offsetNumbers
  dsimp only
  generalize text.dropWhile (· = '+') = s
  cases splitOnce s ':' with
  | some parts => simp only [bind_assoc, pure_bind]
  | none =>
    dsimp only
    split_ifs
    · cases splitAtByte s 2 with
      | some parts => simp only [bind_assoc, pure_bind]
      | none => rfl
    · rfl

lemma splitOffset_eq (s : Str) : splitOffset s = (do
    let o ← readOffset s
    return (o.datetime, o.wrapped)) := by
  unfold splitOffset readOffset offsetParts
  cases beforeSign s '+' with
  | some before =>
    simp only [parseOffset_eq, okOr, bind_assoc, pure_bind]
    rfl
  | none =>
    cases beforeSign s '-' with
    | some before =>
      simp only [parseOffset_eq, okOr, Option.map_some, bind_assoc, pure_bind]
      rfl
    | none => rfl

/-- The time of day in front of a point, and the fraction behind it. -/
def clockParts (time : Str) : Str × Option Str :=
  match splitOnce time '.' with
  | some (a, b) => (a, some b)
  | none => (time, none)

/-- The numbers of a date and a time of day, and the milliseconds of its fraction. -/
def readDateTime (datetime : Str) : Option (Numbers × Nat) := do
  let (date, time) ← splitOnce datetime 'T'
  let n ← leadingNumbers date (clockParts time).1
  return (n, (clockParts time).2.elim 0 fractionMs)

lemma readDateTime_eq_some {datetime : Str} {n : Numbers} {millis : Nat} :
    readDateTime datetime = some (n, millis) ↔ ∃ date time, splitOnce datetime 'T' = some (date, time) ∧
      leadingNumbers date (clockParts time).1 = some n ∧ (clockParts time).2.elim 0 fractionMs = millis := by
  simp only [readDateTime, Option.bind_eq_bind, Option.bind_eq_some_iff, Option.pure_def, Option.some.injEq,
    Prod.mk.injEq, Prod.exists]
  constructor
  · rintro ⟨date, time, hcut, n', hn, rfl, hmillis⟩
    exact ⟨date, time, hcut, hn, hmillis⟩
  · rintro ⟨date, time, hcut, hn, hmillis⟩
    exact ⟨date, time, hcut, n, hn, rfl, hmillis⟩

/-- The milliseconds `parse_rfc3339_ms` computes; arithmetic wraps. -/
def wrappedMs (days : Int) (n : Numbers) (millis : Nat) (offset : Int) : Int :=
  wrapI64 (wrapI64 (wrapI64 (days * 86400000) +
    (n.hour * 3600000 + n.minute * 60000 + n.second * 1000 + millis : Nat)) - offset)

/-- **What is accepted**: the parser reads an offset and the numbers, and then computes. -/
theorem parseRfc3339Ms_eq_ok {text : Str} {ms : Nat} :
    parseRfc3339Ms text = .ok ms ↔ ∃ o n millis days, readOffset (normalized text) = .ok o ∧
      readDateTime o.datetime = some (n, millis) ∧ daysFromCivil n.year n.month n.day = .ok days ∧
      0 ≤ wrappedMs days n millis o.wrapped ∧ (wrappedMs days n millis o.wrapped).toNat = ms := by
  simp only [parseRfc3339Ms, bind_eq_ok, okOr_eq_ok, failIf_eq_ok, pure_eq_ok, readDateTime_eq_some,
    leadingNumbers_eq_some]
  constructor
  · rintro ⟨⟨datetime, offset⟩, hoffset, ⟨date, time⟩, hcut, year, hyear, month, hmonth, day, hday, hour, hhour, minute,
      hminute, second, hsecond, days, hdays, _, hpos, hms⟩
    have hread : splitOffset (normalized text) = .ok (datetime, offset) := hoffset
    rw [splitOffset_eq, bind_eq_ok] at hread
    obtain ⟨o, ho, heq⟩ := hread
    obtain ⟨rfl, rfl⟩ := Prod.mk.inj (pure_eq_ok.mp heq)
    exact ⟨o, ⟨year, month, day, hour, minute, second⟩, _, days, ho,
      ⟨date, time, hcut, ⟨hyear, hmonth, hday, hhour, hminute, hsecond⟩, rfl⟩, hdays, Int.not_lt.mp hpos, hms⟩
  · rintro ⟨o, n, millis, days, ho, ⟨date, time, hcut, ⟨hyear, hmonth, hday, hhour, hminute, hsecond⟩, rfl⟩, hdays,
      hpos, hms⟩
    have hread : splitOffset (normalized text) = .ok (o.datetime, o.wrapped) := by
      rw [splitOffset_eq, ho]
      rfl
    exact ⟨(o.datetime, o.wrapped), hread, (date, time), hcut, _, hyear, _, hmonth, _, hday, _, hhour, _, hminute, _,
      hsecond, days, hdays, (), Int.not_lt.mpr hpos, hms⟩

/-- An offset of four octets that has no colon and whose middle is inside a character. -/
def CutsCharacter (text : Str) : Prop :=
  ∃ before rest west, offsetParts (normalized text) = some (before, rest, west) ∧
    splitOnce (rest.dropWhile (· = '+')) ':' = none ∧ (utf8 (rest.dropWhile (· = '+'))).length = 4 ∧
    splitAtByte (rest.dropWhile (· = '+')) 2 = none

lemma offsetNumbers_panics_iff {text : Str} :
    offsetNumbers text = .error .panicked ↔ splitOnce (text.dropWhile (· = '+')) ':' = none ∧
      (utf8 (text.dropWhile (· = '+'))).length = 4 ∧ splitAtByte (text.dropWhile (· = '+')) 2 = none := by
  -- reading two numbers fails with a returned error
  have hread : ∀ a b : Str, ¬ (do
      let h ← okOr (parseI64 a) (Fault.returned "offset_h".toList)
      let m ← okOr (parseI64 b) (Fault.returned "offset_m".toList)
      return (h, m) : Except (Fault Str) (Int × Int)) = .error .panicked := by
    intro a b
    simp only [bind_eq_error, okOr_eq_error, pure_ne_error, reduceCtorEq, and_false, exists_false, or_false,
      not_false_eq_true]
  unfold offsetNumbers
  dsimp only
  generalize text.dropWhile (· = '+') = s
  cases splitOnce s ':' with
  | some parts => exact iff_of_false (hread _ _) fun h => Option.some_ne_none _ h.1
  | none =>
    dsimp only
    split_ifs with hlen
    · cases splitAtByte s 2 with
      | some parts => exact iff_of_false (hread _ _) fun h => Option.some_ne_none _ h.2.2
      | none => exact iff_of_true rfl ⟨rfl, hlen, rfl⟩
    · exact iff_of_false (fun h => by cases h) fun h => hlen h.2.1

lemma readOffset_panics_iff {text : Str} :
    readOffset (normalized text) = .error .panicked ↔ CutsCharacter text := by
  simp only [readOffset, bind_eq_error, okOr_eq_error, okOr_eq_ok, pure_ne_error, reduceCtorEq, and_false, exists_false,
    or_false, false_or, offsetNumbers_panics_iff, CutsCharacter, Prod.exists]

/-- **When it panics.** -/
theorem parseRfc3339Ms_panics_iff {text : Str} :
    parseRfc3339Ms text = .error .panicked ↔ CutsCharacter text := by
  rw [← readOffset_panics_iff]
  have hsplit : splitOffset (normalized text) = .error .panicked ↔ readOffset (normalized text) = .error .panicked := by
    rw [splitOffset_eq, bind_eq_error]
    simp only [pure_ne_error, and_false, exists_false, or_false]
  rw [← hsplit]
  constructor
  · intro h
    simp only [parseRfc3339Ms, daysFromCivil, bind_eq_error, okOr_eq_error, failIf_eq_error, pure_ne_error,
      reduceCtorEq, and_false, exists_false, or_false] at h
    exact h
  · intro h
    rw [parseRfc3339Ms, bind_eq_error]
    exact .inl h

/-! ## What is computed -/

/-- The month is a month, and the day is a day of some month. -/
def InYear (n : Numbers) : Prop := (1 ≤ n.month ∧ n.month ≤ 12) ∧ 1 ≤ n.day ∧ n.day ≤ 31

instance (n : Numbers) : Decidable (InYear n) := inferInstanceAs (Decidable (_ ∧ _))

/-- The milliseconds since 1970-01-01 by the formula, before the offset is subtracted. -/
def localMs (n : Numbers) (millis : Nat) : Int :=
  dayNumber n.year n.month n.day * 86400000 + n.hour * 3600000 + n.minute * 60000 + n.second * 1000 + millis

/-- The offset that is subtracted. -/
def OffsetRead.exact (o : OffsetRead) : Int :=
  if o.west then -(o.hours * 3600000 + o.minutes * 60000) else o.hours * 3600000 + o.minutes * 60000

/-- The exact results of the operations on an offset. -/
def offsetSteps (o : OffsetRead) : List (Word × Int) :=
  [(.i64, o.hours * 3600000), (.i64, o.minutes * 60000), (.i64, o.hours * 3600000 + o.minutes * 60000),
    (.i64, o.exact)]

/-- The exact results of the operations of `days_from_civil` and of those that follow it, in the order of the
source. -/
def msSteps (n : Numbers) (millis : Nat) (offset : Int) : List (Word × Int) :=
  let y := if n.month ≤ 2 then n.year - 1 else n.year
  let era := y / 400
  let yoe := y % 400
  let mp : Int := if 2 < n.month then (n.month : Int) - 3 else n.month + 9
  let doy := (153 * mp + 2) / 5 + n.day - 1
  let doe := yoe * 365 + yoe / 4 - yoe / 100 + doy
  let days := era * 146097 + doe - 719468
  let tod : Int := n.hour * 3600000 + n.minute * 60000 + n.second * 1000 + millis
  [(.i64, y), (.i64, era), (.i64, yoe), (.u32, mp), (.u64, 153 * mp), (.u64, 153 * mp + 2),
    (.u64, (153 * mp + 2) / 5 + n.day), (.u64, doy), (.u64, yoe * 365), (.u64, yoe * 365 + yoe / 4),
    (.u64, yoe * 365 + yoe / 4 - yoe / 100), (.u64, doe), (.i64, era * 146097), (.i64, era * 146097 + doe),
    (.i64, days), (.i64, days * 86400000), (.i64, n.hour * 3600000), (.i64, n.minute * 60000),
    (.i64, n.hour * 3600000 + n.minute * 60000), (.i64, n.second * 1000),
    (.i64, n.hour * 3600000 + n.minute * 60000 + n.second * 1000), (.i64, tod), (.i64, days * 86400000 + tod),
    (.i64, days * 86400000 + tod - offset)]

section Arithmetic

variable {n : Numbers} {millis : Nat} {offset : Int}

/-- **When the arithmetic overflows.** -/
theorem ms_noOverflow_iff (h : n.Typed) (hin : InYear n) (hmillis : millis ≤ 2 ^ 32 - 1) :
    NoOverflow (msSteps n millis offset) ↔
      localMs n millis ≤ 2 ^ 63 - 1 ∧ Word.i64.Holds (localMs n millis - offset) := by
  obtain ⟨hyear, hyear', hmonth, hday, hhour, hminute, hsecond⟩ := h
  obtain ⟨⟨hmonth₁, hmonth₂⟩, hday₁, hday₂⟩ := hin
  have hnumber := dayNumber_eq_civil n.year n.month n.day
  dsimp only at hnumber
  unfold localMs
  rw [hnumber]
  unfold msSteps
  dsimp only
  have hybounds := shiftedYear_bounds hyear hyear' n.month
  have hmbounds := shiftedMonth_bounds hmonth₂ (by decide)
  clear hnumber
  generalize (if n.month ≤ 2 then n.year - 1 else n.year) = y at hybounds ⊢
  generalize (if 2 < n.month then (n.month : Int) - 3 else n.month + 9) = m at hmbounds ⊢
  have hmonths : 0 ≤ (153 * m + 2) / 5 ∧ (153 * m + 2) / 5 ≤ 31 * m := by omega
  have hmod : y - y / 400 * 400 = y % 400 := by omega
  rw [hmod]
  simp only [noOverflow_cons, noOverflow_nil, and_true, holds_i64, holds_u32, holds_u64]
  omega

lemma inYear_of_days {days : Int} (h : daysFromCivil n.year n.month n.day = .ok days) : InYear n := by
  rw [daysFromCivil, bind_eq_ok] at h
  obtain ⟨_, hin, -⟩ := h
  rw [failIf_eq_ok, not_or, not_not, not_not] at hin
  exact hin

lemma daysFromCivil_eq (h : n.Typed) (hin : InYear n) (hle : dayNumber n.year n.month n.day + 719468 ≤ 2 ^ 63 - 1) :
    daysFromCivil n.year n.month n.day = .ok (dayNumber n.year n.month n.day) := by
  obtain ⟨hyear, hyear', -⟩ := h
  have hrange : ¬ (¬ (1 ≤ n.month ∧ n.month ≤ 12) ∨ ¬ (1 ≤ n.day ∧ n.day ≤ 31)) := by
    rw [not_or, not_not, not_not]
    exact hin
  obtain ⟨⟨hmonth₁, hmonth₂⟩, hday₁, hday₂⟩ := hin
  have hnumber := dayNumber_eq_civil n.year n.month n.day
  have hy : (if n.month ≤ 2 then wrapI64 (n.year - 1) else n.year) = if n.month ≤ 2 then n.year - 1 else n.year := by
    rw [wrapI64_eq (by omega)]
  have hm : (((153 * (if 2 < n.month then n.month - 3 else n.month + 9) + 2) / 5 + n.day - 1 : Nat) : Int) =
      (153 * (if 2 < n.month then (n.month : Int) - 3 else n.month + 9) + 2) / 5 + n.day - 1 := by
    split_ifs <;> omega
  unfold daysFromCivil
  rw [failIf, if_neg hrange, ok_bind]
  dsimp only at hnumber ⊢
  rw [hy, hm]
  have hybounds := shiftedYear_bounds hyear hyear' n.month
  have hmbounds := shiftedMonth_bounds hmonth₂ (by decide)
  clear hy hm
  generalize (if n.month ≤ 2 then n.year - 1 else n.year) = y at hybounds hnumber ⊢
  generalize (if 2 < n.month then (n.month : Int) - 3 else n.month + 9) = m at hmbounds hnumber ⊢
  have hmod : y - y / 400 * 400 = y % 400 := by omega
  rw [hmod] at hnumber
  rw [wrapI64_eq (x := y / 400 * 146097) (by omega), wrapI64_eq (x := y / 400 * 146097 + _) (by omega),
    wrapI64_eq (x := _ - 719468) (by omega), ← hnumber]
  rfl

lemma wrappedMs_eq (h : n.Typed) (hin : InYear n) (hle : localMs n millis ≤ 2 ^ 63 - 1)
    (hoffset : Word.i64.Holds (localMs n millis - offset)) :
    wrappedMs (dayNumber n.year n.month n.day) n millis offset = localMs n millis - offset := by
  have hfirst := dayNumber_ge h.year_nonneg n.month hin.2.1
  unfold localMs at *
  unfold wrappedMs
  generalize dayNumber n.year n.month n.day = days at *
  rw [wrapI64_eq (x := days * 86400000) (by omega), wrapI64_eq (x := days * 86400000 + _) (by omega)]
  rw [holds_i64] at hoffset
  rw [wrapI64_eq (by omega)]
  omega

lemma wrapped_offset {o : OffsetRead} (h : NoOverflow (offsetSteps o)) : o.wrapped = o.exact := by
  simp only [offsetSteps, noOverflow_cons, noOverflow_nil, and_true] at h
  obtain ⟨hhours, hminutes, hsum, hexact⟩ := h
  have hms : offsetMs o.hours o.minutes = o.hours * 3600000 + o.minutes * 60000 := by
    rw [offsetMs, wrapI64_eq hhours, wrapI64_eq hminutes, wrapI64_eq hsum]
  unfold OffsetRead.wrapped OffsetRead.exact at *
  rw [hms]
  split_ifs with hwest
  · rw [if_pos hwest] at hexact
    exact wrapI64_eq hexact
  · rfl

end Arithmetic

/-! ## What is accepted -/

/-- The operations of a call: those on the offset, as soon as it is read, and those on the numbers. -/
def msCall (text : Str) : List (Word × Int) :=
  match readOffset (normalized text) with
  | .error _ => []
  | .ok o => offsetSteps o ++
    match readDateTime o.datetime with
    | none => []
    | some (n, millis) => if InYear n then msSteps n millis o.exact else []

lemma fractionMs_le (fraction : Str) : fractionMs fraction ≤ 2 ^ 32 - 1 := by
  unfold fractionMs
  dsimp only
  cases hread : parseUnsigned u32Max (fraction.take 3 ++ List.replicate (3 - (fraction.take 3).length) '0') with
  | none => exact Nat.zero_le _
  | some n => exact le_of_parseUnsigned hread

lemma bounds_of_readDateTime {datetime : Str} {n : Numbers} {millis : Nat}
    (h : readDateTime datetime = some (n, millis)) : n.Typed ∧ millis ≤ 2 ^ 32 - 1 := by
  obtain ⟨date, time, -, hn, rfl⟩ := readDateTime_eq_some.mp h
  refine ⟨typed_of_leadingNumbers hn, ?_⟩
  cases (clockParts time).2 with
  | none => exact Nat.zero_le _
  | some fraction => exact fractionMs_le fraction

/-- The offset and the time are computed without overflow. -/
structure WithinI64 (o : OffsetRead) (n : Numbers) (millis : Nat) : Prop where
  offset : NoOverflow (offsetSteps o)
  local_le : localMs n millis ≤ 2 ^ 63 - 1
  holds : Word.i64.Holds (localMs n millis - o.exact)

section Call

variable {text : Str} {o : OffsetRead} {n : Numbers} {millis : Nat}

/-- Where nothing overflows, the result is the exact number of milliseconds, unless it is negative. -/
lemma parseRfc3339Ms_exact (ho : readOffset (normalized text) = .ok o)
    (hn : readDateTime o.datetime = some (n, millis)) (hin : InYear n) (h : WithinI64 o n millis) {ms : Nat} :
    parseRfc3339Ms text = .ok ms ↔ 0 ≤ localMs n millis - o.exact ∧ (localMs n millis - o.exact).toNat = ms := by
  obtain ⟨htyped, -⟩ := bounds_of_readDateTime hn
  have hlocal := h.local_le
  have hdays : daysFromCivil n.year n.month n.day = .ok (dayNumber n.year n.month n.day) := by
    refine daysFromCivil_eq htyped hin ?_
    unfold localMs at hlocal
    omega
  have hvalue : wrappedMs (dayNumber n.year n.month n.day) n millis o.wrapped = localMs n millis - o.exact := by
    rw [wrapped_offset h.offset]
    exact wrappedMs_eq htyped hin hlocal h.holds
  rw [parseRfc3339Ms_eq_ok, ← hvalue]
  constructor
  · rintro ⟨o', n', millis', days, ho', hn', hdays', hms⟩
    obtain rfl := Except.ok.inj (ho.symm.trans ho')
    obtain ⟨rfl, rfl⟩ := Prod.mk.inj (Option.some.inj (hn.symm.trans hn'))
    obtain rfl := Except.ok.inj (hdays.symm.trans hdays')
    exact hms
  · intro hms
    exact ⟨o, n, millis, _, ho, hn, hdays, hms⟩

lemma msCall_noOverflow_iff (ho : readOffset (normalized text) = .ok o) :
    NoOverflow (msCall text) ↔ NoOverflow (offsetSteps o) ∧
      ∀ n millis, readDateTime o.datetime = some (n, millis) → InYear n →
        localMs n millis ≤ 2 ^ 63 - 1 ∧ Word.i64.Holds (localMs n millis - o.exact) := by
  simp only [msCall, ho, noOverflow_append]
  refine and_congr_right fun _ => ?_
  rcases hn : readDateTime o.datetime with _ | ⟨n, millis⟩
  · simp
  · obtain ⟨htyped, hmillis⟩ := bounds_of_readDateTime hn
    dsimp only
    by_cases hin : InYear n
    · rw [if_pos hin, ms_noOverflow_iff htyped hin hmillis]
      constructor
      · intro h n' millis' heq _
        obtain ⟨rfl, rfl⟩ := Prod.mk.inj (Option.some.inj heq)
        exact h
      · intro h
        exact h n millis rfl hin
    · rw [if_neg hin]
      refine iff_of_true noOverflow_nil ?_
      intro n' millis' heq hin'
      obtain ⟨rfl, rfl⟩ := Prod.mk.inj (Option.some.inj heq)
      exact absurd hin' hin

end Call

/-- **The texts on which nothing panics or overflows and only times that exist are accepted.** -/
theorem maintenance_real_iff (text : Str) :
    (parseRfc3339Ms text ≠ .error .panicked ∧ NoOverflow (msCall text) ∧
      ∀ ms, parseRfc3339Ms text = .ok ms → ∃ t, NamesTime text t) ↔
    ¬ CutsCharacter text ∧ ∀ o, readOffset (normalized text) = .ok o → NoOverflow (offsetSteps o) ∧
      ∀ n millis, readDateTime o.datetime = some (n, millis) → InYear n →
        localMs n millis ≤ 2 ^ 63 - 1 ∧ Word.i64.Holds (localMs n millis - o.exact) ∧
          (localMs n millis - o.exact < 0 ∨ ∃ t, NamesTime text t) := by
  rw [Ne, parseRfc3339Ms_panics_iff]
  refine and_congr_right fun _ => ?_
  constructor
  · rintro ⟨hsteps, hreal⟩ o ho
    obtain ⟨hoffset, hnumbers⟩ := (msCall_noOverflow_iff ho).mp hsteps
    refine ⟨hoffset, fun n millis hn hin => ?_⟩
    obtain ⟨hlocal, hholds⟩ := hnumbers n millis hn hin
    refine ⟨hlocal, hholds, ?_⟩
    rcases Int.lt_or_le (localMs n millis - o.exact) 0 with hneg | hpos
    · exact .inl hneg
    · exact .inr (hreal _ ((parseRfc3339Ms_exact ho hn hin ⟨hoffset, hlocal, hholds⟩).mpr ⟨hpos, rfl⟩))
  · intro h
    constructor
    · cases ho : readOffset (normalized text) with
      | error e =>
        rw [msCall, ho]
        exact noOverflow_nil
      | ok o =>
        obtain ⟨hoffset, hnumbers⟩ := h o ho
        refine (msCall_noOverflow_iff ho).mpr ⟨hoffset, fun n millis hn hin => ?_⟩
        obtain ⟨hlocal, hholds, -⟩ := hnumbers n millis hn hin
        exact ⟨hlocal, hholds⟩
    · intro ms hms
      obtain ⟨o, n, millis, days, ho, hn, hdays, -⟩ := parseRfc3339Ms_eq_ok.mp hms
      have hin := inYear_of_days hdays
      obtain ⟨hoffset, hnumbers⟩ := h o ho
      obtain ⟨hlocal, hholds, hneg | hreal⟩ := hnumbers n millis hn hin
      · have hpos := ((parseRfc3339Ms_exact ho hn hin ⟨hoffset, hlocal, hholds⟩).mp hms).1
        omega
      · exact hreal

/-! ## The times of the years 1970 to 9999 -/

lemma fractionMs_digitText (ds : List (Fin 10)) : fractionMs (digitText ds) = thousandths ds := by
  have htake : (digitText ds).take 3 = digitText (ds.take 3) := List.map_take.symm
  have hzeros : ∀ k, List.replicate k '0' = digitText (List.replicate k 0) := by
    intro k
    rw [digitText, List.map_replicate]
    rfl
  have hlen : (digitText (ds.take 3)).length = (ds.take 3).length := List.length_map _
  have hvalue := thousandths_take ds
  have hlt := thousandths_lt ds
  unfold fractionMs
  dsimp only
  rw [htake, hlen, hzeros, ← digitText_append, parseUnsigned_digitText, ← hvalue, Option.getD_some]
  · intro hnil
    have hthree := congrArg List.length hnil
    rw [List.length_append, List.length_replicate, List.length_nil] at hthree
    omega
  · rw [← hvalue, u32Max]
    omega

lemma readDateTime_body {w : Written} {t : Time} (h : w.Names t) :
    readDateTime w.body = some (t.numbers, thousandths t.fraction) := by
  have hclock : '.' ∉ w.clock := h.notMem_clock (by decide) (by decide) (by decide)
  refine readDateTime_eq_some.mpr ⟨w.date, w.clock ++ w.fraction, h.splitOnce_body, ?_⟩
  unfold clockParts
  rcases h.splitOnce_fraction hclock with hsome | ⟨hnone, hempty, hdigits⟩
  · rw [hsome]
    exact ⟨h.leadingNumbers, fractionMs_digitText t.fraction⟩
  · rw [hnone, hempty, hdigits, List.append_nil]
    exact ⟨h.leadingNumbers, rfl⟩

lemma NamesTime.utc {text body : Str} {t : Time} (h : NamesTime text t) (htext : trim text = body ++ ['Z']) :
    Spells body t := by
  -- the minutes of an offset do not end with it
  have hminutes : ∀ {before mm : Str} {m : Nat}, parseDigits mm = some m → body ++ ['Z'] ≠ before ++ mm := by
    intro before mm m hm heq
    unfold parseDigits at hm
    split_ifs at hm with hdigits
    obtain ⟨hne, hall⟩ := hdigits
    obtain ⟨front, last, rfl⟩ := List.eq_nil_or_concat' mm |>.resolve_left hne
    rw [← List.append_assoc] at heq
    obtain rfl : 'Z' = last := List.singleton_inj.mp (List.append_inj_right' heq rfl)
    exact absurd (List.all_eq_true.mp hall 'Z' (by simp)) (by decide)
  obtain ⟨body', hspells, hz | ⟨sign, hh, mm, _, m, -, -, hm, -, -, hcolon | ⟨-, -, hplain⟩⟩⟩ := h
  · obtain rfl := List.append_cancel_right (htext.symm.trans hz)
    exact hspells
  · refine absurd (htext.symm.trans hcolon) ?_
    rw [show body' ++ sign :: (hh ++ ':' :: mm) = (body' ++ sign :: (hh ++ [':'])) ++ mm by simp]
    exact hminutes hm
  · refine absurd (htext.symm.trans hplain) ?_
    rw [show body' ++ sign :: (hh ++ mm) = (body' ++ sign :: hh) ++ mm by simp]
    exact hminutes hm

lemma readOffset_utc {body : Str} (h : 10 < body.length) :
    readOffset (body ++ "+00:00".toList) = .ok ⟨body, 0, 0, false⟩ := by
  have hlast : beforeLast (body ++ '+' :: "00:00".toList) '+' = some body :=
    beforeLast_eq_some.mpr ⟨_, rfl, by decide⟩
  have hbefore : beforeSign (body ++ "+00:00".toList) '+' = some body := by
    refine Option.filter_eq_some_iff.mpr ⟨hlast, decide_eq_true ?_⟩
    exact Nat.lt_of_lt_of_le h (length_le_utf8 body)
  have hparts : offsetParts (body ++ "+00:00".toList) = some (body, "+00:00".toList, false) := by
    rw [offsetParts, hbefore]
    dsimp only
    rw [List.drop_left]
  rw [readOffset, hparts]
  rfl

/-- The times of the years 1970 to 9999 are read exactly. -/
lemma parseRfc3339Ms_stamp (s : Stamp) : parseRfc3339Ms s.text = .ok s.millis.toNat := by
  have hnormal : normalized s.text = s.written.body ++ "+00:00".toList := by
    have hstrip : stripSuffix (trim s.text) ['Z'] = some s.written.body := stripSuffix_eq_some.mpr s.trim_text
    rw [normalized, hstrip]
  have hoffset : readOffset (normalized s.text) = .ok ⟨s.written.body, 0, 0, false⟩ := by
    rw [hnormal]
    exact readOffset_utc s.length_body
  have hlocal : localMs s.numbers (thousandths s.fraction) = s.millis := by
    simp only [localMs, Time.millis, Time.seconds, Time.numbers, Date.number]
    omega
  have hin : InYear s.numbers := ⟨⟨s.date.month_pos, s.date.month_le⟩, s.date.day_pos, s.day_le⟩
  obtain ⟨hpos, hle⟩ := s.seconds_bounds
  have hfraction := thousandths_lt s.fraction
  have hmillis : 0 ≤ s.millis ∧ s.millis ≤ 253402300799999 := by
    unfold Time.millis
    omega
  have hexact : OffsetRead.exact ⟨s.written.body, 0, 0, false⟩ = 0 := rfl
  have hsteps : NoOverflow (offsetSteps ⟨s.written.body, 0, 0, false⟩) := by
    simp [offsetSteps, hexact, holds_i64]
  refine (parseRfc3339Ms_exact hoffset (readDateTime_body s.written_names) hin ⟨hsteps, ?_, ?_⟩).mpr ?_
  · rw [hlocal]
    omega
  · rw [hlocal, hexact, holds_i64]
    omega
  · rw [hlocal, hexact, Int.sub_zero]
    exact ⟨hmillis.1, rfl⟩

end TeechatOpenapi.Core.Maintenance
