import TeechatOpenapi.Lib.Rfc3339
import TeechatOpenapi.Lib.Words
import TeechatOpenapi.Platform.EngineTrust

/-!
# The timestamps of an engine epoch (`openapi-platform/src/engine_trust.rs`)

`parse_rfc3339_ms` checks every part of a timestamp but the year, which is any `i64` that is not negative, and
`days_from_civil` computes with it without checks.
-/

namespace TeechatOpenapi.Platform

open Lib

/-- The text names a time: it is the text of the time, white space apart, and an end for UTC. -/
def NamesTime (value : Str) (t : Time) : Prop :=
  ∃ body, (∃ zone ∈ (["Z", "+00:00", "-00:00"] : List Str), trim value = body ++ zone) ∧ Spells body t

/-- The numbers `parse_rfc3339_ms` has read before it computes: year, month and day; hour, minute, second and
milliseconds. -/
def readTimestamp (value : Str) : Option ((Int × Nat × Nat) × (Nat × Nat × Nat × Nat)) := do
  let body ← timestampBody (trim value)
  let (date, time) ← splitOnce body 'T'
  let ymd ← parseDate date
  let hms ← parseTime time
  some (ymd, hms)

/-- The numbers of a time. -/
def fieldsOf (t : Time) : (Int × Nat × Nat) × (Nat × Nat × Nat × Nat) :=
  ((t.date.year, t.date.month, t.date.day), (t.hour, t.minute, t.second, thousandths t.fraction))

lemma timestampBody_eq_some {s b : Str} :
    timestampBody s = some b ↔ ∃ zone ∈ (["Z", "+00:00", "-00:00"] : List Str), s = b ++ zone := by
  -- no end is also the end of another
  have hother : ∀ {zone zone' : Str}, ¬ (zone <:+ zone' ∨ zone' <:+ zone) → stripSuffix (b ++ zone) zone' = none := by
    intro zone zone' hne
    rw [stripSuffix, if_neg]
    exact fun hend => hne (List.suffix_or_suffix_of_suffix (List.suffix_append b zone) hend)
  unfold timestampBody
  constructor
  · intro h
    split at h
    · next v hv =>
      obtain rfl := Option.some.inj h
      exact ⟨_, List.mem_cons_self, stripSuffix_eq_some.mp hv⟩
    · split at h
      · next v hv =>
        obtain rfl := Option.some.inj h
        exact ⟨_, by simp, stripSuffix_eq_some.mp hv⟩
      · exact ⟨_, by simp, stripSuffix_eq_some.mp h⟩
  · rintro ⟨zone, hzone, rfl⟩
    simp only [List.mem_cons, List.not_mem_nil, or_false] at hzone
    rcases hzone with rfl | rfl | rfl
    · rw [stripSuffix_eq_some.mpr rfl]
    · rw [hother (by decide), stripSuffix_eq_some.mpr rfl]
    · rw [hother (by decide), hother (by decide), stripSuffix_eq_some.mpr rfl]

lemma daysInMonth_eq {year : Int} (h : 0 ≤ year) (month : Nat) : daysInMonth year month = monthLength year month := by
  unfold daysInMonth monthLength IsLeap
  rw [Int.tmod_eq_emod_of_nonneg h, Int.tmod_eq_emod_of_nonneg h, Int.tmod_eq_emod_of_nonneg h]
  rfl

lemma fractionMillis_digitText (ds : List (Fin 10)) : fractionMillis (digitText ds) = thousandths ds := by
  have hdigit : ∀ d : Fin 10, (Nat.digitChar d.val).toNat - 48 = d.val := fun d => (isAsciiDigit_digitChar d.isLt).2
  rw [thousandths_take]
  rcases ds with _ | ⟨a, _ | ⟨b, _ | ⟨c, ds⟩⟩⟩
  · rfl
  · simp [fractionMillis, digitText, digitsValue, hdigit]
    omega
  · simp [fractionMillis, digitText, digitsValue, hdigit]
    omega
  · simp [fractionMillis, digitText, digitsValue, hdigit]
    omega

lemma parseDate_of_names {w : Written} {t : Time} (h : w.Names t) :
    parseDate w.date = some (t.date.year, t.date.month, t.date.day) := by
  have hday := t.date.day_pos
  have hreal : 1 ≤ t.date.month ∧ t.date.month ≤ 12 ∧ t.date.day ≠ 0 ∧
      t.date.day ≤ daysInMonth t.date.year t.date.month :=
    ⟨t.date.month_pos, t.date.month_le, by omega, (daysInMonth_eq h.year_nonneg _).symm ▸ t.date.day_le⟩
  simp only [parseDate, h.splitOn_date, h.parseI64_year, h.month, h.day, Option.bind_eq_bind, Option.bind_some,
    if_pos hreal]

lemma parseTime_of_names {w : Written} {t : Time} (h : w.Names t) :
    parseTime (w.clock ++ w.fraction) = some (t.hour, t.minute, t.second, thousandths t.fraction) := by
  have hhour := t.hour_lt
  have hminute := t.minute_lt
  have hsecond := t.second_lt
  have hsplit : (splitOnce (w.second ++ w.fraction) '.').getD (w.second ++ w.fraction, []) =
      (w.second, digitText t.fraction) := by
    rcases h.splitOnce_fraction (h.notMem_second (by decide) (by decide)) with hsome | ⟨hnone, hempty, hdigits⟩
    · rw [hsome]
      rfl
    · rw [hnone, hempty, hdigits, List.append_nil]
      rfl
  have hreal : t.hour ≤ 23 ∧ t.minute ≤ 59 ∧ t.second ≤ 59 ∧ (digitText t.fraction).all isAsciiDigit = true :=
    ⟨by omega, by omega, by omega, List.all_eq_true.mpr fun c hc => mem_digitText hc⟩
  simp only [parseTime, h.splitOn_clock_fraction, h.hour, h.minute, hsplit, h.second, Option.bind_eq_bind,
    Option.bind_some, if_pos hreal, fractionMillis_digitText]

lemma parseDate_eq_some {text : Str} {year : Int} {month day : Nat} (h : parseDate text = some (year, month, day)) :
    ∃ y mo d, text = y ++ '-' :: (mo ++ '-' :: d) ∧ (parseUnsigned (2 ^ 63 - 1) y).map Int.ofNat = some year ∧
      parseUnsigned u32Max mo = some month ∧ parseUnsigned u32Max d = some day ∧
      ∃ date : Date, date.year = year ∧ date.month = month ∧ date.day = day := by
  unfold parseDate at h
  split at h
  · next y mo d hsplit =>
    simp only [Option.bind_eq_bind, Option.bind_eq_some_iff] at h
    obtain ⟨year', hyear, month', hmonth, day', hday, h⟩ := h
    split_ifs at h with hreal
    obtain ⟨rfl, rfl, rfl⟩ : year' = year ∧ month' = month ∧ day' = day := by
      simpa using h
    -- the year stands before the first dash
    have hunsigned : (parseUnsigned (2 ^ 63 - 1) y).map Int.ofNat = some year' := by
      have hdash : y.head? ≠ some '-' := by
        have hfirst : (text.splitOn '-')[0]? = some y := by
          rw [hsplit]
          rfl
        exact fun hhead => notMem_first_part hfirst (List.mem_of_mem_head? hhead)
      rw [parseI64, if_neg hdash] at hyear
      exact hyear
    have hnonneg : 0 ≤ year' := by
      obtain ⟨n, -, rfl⟩ := Option.map_eq_some_iff.mp hunsigned
      exact Int.natCast_nonneg n
    rw [daysInMonth_eq hnonneg] at hreal
    obtain ⟨hpos, hle, hzero, hlast⟩ := hreal
    exact ⟨y, mo, d, eq_of_splitOn_three hsplit, hunsigned, hmonth, hday,
      ⟨year', month', day', hpos, hle, Nat.pos_of_ne_zero hzero, hlast⟩, rfl, rfl, rfl⟩
  · cases h

lemma parseTime_eq_some {text : Str} {hour minute second ms : Nat}
    (h : parseTime text = some (hour, minute, second, ms)) :
    ∃ ht mt st fr ds, text = ht ++ ':' :: (mt ++ ':' :: (st ++ fr)) ∧ parseUnsigned u32Max ht = some hour ∧
      parseUnsigned u32Max mt = some minute ∧ parseUnsigned u32Max st = some second ∧
      (fr = '.' :: digitText ds ∨ fr = [] ∧ ds = []) ∧ hour < 24 ∧ minute < 60 ∧ second < 60 ∧ ms = thousandths ds := by
  unfold parseTime at h
  split at h
  · next ht mt sf hsplit =>
    simp only [Option.bind_eq_bind, Option.bind_eq_some_iff] at h
    obtain ⟨hour', hhour, minute', hminute, second', hsecond, h⟩ := h
    split_ifs at h with hreal
    obtain ⟨rfl, rfl, rfl, rfl⟩ : hour' = hour ∧ minute' = minute ∧ second' = second ∧
        fractionMillis ((splitOnce sf '.').getD (sf, [])).2 = ms := by
      simpa using h
    obtain ⟨hhour24, hminute60, hsecond60, hdigits⟩ := hreal
    obtain ⟨ds, hds⟩ := exists_digitText hdigits
    rw [hds, fractionMillis_digitText]
    have hshape : ∃ fr, sf = ((splitOnce sf '.').getD (sf, [])).1 ++ fr ∧
        (fr = '.' :: digitText ds ∨ fr = [] ∧ ds = []) := by
      rcases hcut : splitOnce sf '.' with _ | ⟨st, fraction⟩
      · rw [hcut] at hds
        exact ⟨[], (List.append_nil sf).symm, .inr ⟨rfl, List.map_eq_nil_iff.mp hds.symm⟩⟩
      · rw [hcut] at hds
        obtain rfl : fraction = digitText ds := hds
        exact ⟨_, (splitOnce_eq_some.mp hcut).1, .inl rfl⟩
    obtain ⟨fr, hsf, hfr⟩ := hshape
    refine ⟨ht, mt, _, fr, ds, ?_, hhour, hminute, hsecond, hfr, by omega, by omega, by omega, rfl⟩
    rw [← hsf]
    exact eq_of_splitOn_three hsplit
  · cases h

/-- **What is read are the numbers of the time the text names.** -/
theorem readTimestamp_eq_some {value : Str} {f : (Int × Nat × Nat) × (Nat × Nat × Nat × Nat)} :
    readTimestamp value = some f ↔ ∃ t, NamesTime value t ∧ f = fieldsOf t := by
  constructor
  · intro h
    simp only [readTimestamp, Option.bind_eq_bind, Option.bind_eq_some_iff] at h
    obtain ⟨body, hbody, ⟨text, clock⟩, hcut, ⟨year, month, day⟩, hdate, ⟨hour, minute, second, ms⟩, htime, heq⟩ := h
    obtain ⟨y, mo, d, htext, hy, hmo, hd, date, rfl, rfl, rfl⟩ := parseDate_eq_some hdate
    obtain ⟨ht, mt, st, fr, ds, hclock, hhour, hminute, hsecond, hfr, hlt, hlt', hlt'', rfl⟩ := parseTime_eq_some htime
    refine ⟨⟨date, hour, minute, second, ds, hlt, hlt', hlt''⟩, ⟨body, timestampBody_eq_some.mp hbody,
      ⟨y, mo, d, ht, mt, st, fr⟩, ?_, ⟨hy, hmo, hd, hhour, hminute, hsecond, hfr⟩⟩, (Option.some.inj heq).symm⟩
    obtain rfl : text = _ := htext
    obtain rfl : clock = _ := hclock
    rw [(splitOnce_eq_some.mp hcut).1]
    simp [Written.body, Written.date, Written.clock]
  · rintro ⟨t, ⟨body, hzone, w, rfl, hw⟩, rfl⟩
    simp only [readTimestamp, timestampBody_eq_some.mpr hzone, hw.splitOnce_body, parseDate_of_names hw,
      parseTime_of_names hw, Option.bind_eq_bind, Option.bind_some]
    rfl

/-- The exact results of the operations of `days_from_civil`, in the order of the source. -/
def civilSteps (year : Int) (month day : Nat) : List (Word × Int) :=
  let y := if month ≤ 2 then year - 1 else year
  let shifted := if 0 ≤ y then y else y - 399
  let era := shifted.tdiv 400
  let yearOfEra := y - era * 400
  let shiftedMonth : Int := if 2 < month then (month : Int) - 3 else month + 9
  let dayOfYear := (153 * shiftedMonth + 2) / 5 + day - 1
  let leapDays := yearOfEra * 365 + yearOfEra.tdiv 4
  let dayOfEra := leapDays - yearOfEra.tdiv 100 + dayOfYear
  [(.i64, y), (.i64, shifted), (.i64, era), (.i64, era * 400), (.i64, yearOfEra), (.u32, shiftedMonth),
    (.i64, 153 * shiftedMonth), (.i64, 153 * shiftedMonth + 2), (.i64, (153 * shiftedMonth + 2) / 5 + day),
    (.i64, dayOfYear), (.i64, yearOfEra * 365), (.i64, leapDays), (.i64, leapDays - yearOfEra.tdiv 100),
    (.i64, dayOfEra), (.i64, era * 146097), (.i64, era * 146097 + dayOfEra), (.i64, era * 146097 + dayOfEra - 719468)]

/-- The exact results of the operations of `parse_rfc3339_ms` on what it has read.  The sums over a fraction grow to
their last value, and what follows the product with 60 is checked by the source. -/
def timestampSteps (f : (Int × Nat × Nat) × (Nat × Nat × Nat × Nat)) : List (Word × Int) :=
  (.u32, (f.2.2.2.2 : Int)) :: civilSteps f.1.1 f.1.2.1 f.1.2.2 ++
    [(.u64, (f.2.1 : Int) * 3600), (.u64, (f.2.2.1 : Int) * 60)]

section Civil

variable {year : Int} {month day : Nat}

/-- **The arithmetic on a date overflows exactly when its number is too large.** -/
theorem civil_noOverflow_iff (hyear : 0 ≤ year) (hle : year ≤ 2 ^ 63 - 1) (hmonth : 1 ≤ month ∧ month ≤ 12)
    (hday : 1 ≤ day ∧ day ≤ 31) :
    NoOverflow (civilSteps year month day) ↔ dayNumber year month day + 719468 ≤ 2 ^ 63 - 1 := by
  have hnumber := dayNumber_eq_civil year month day
  dsimp only at hnumber
  rw [hnumber]
  unfold civilSteps
  dsimp only
  rw [tdiv_era]
  have hybounds := shiftedYear_bounds hyear hle month
  have hmbounds := shiftedMonth_bounds hmonth.2 (by decide)
  generalize (if month ≤ 2 then year - 1 else year) = y at hybounds ⊢
  generalize (if 2 < month then (month : Int) - 3 else month + 9) = m at hmbounds ⊢
  have hnonneg : 0 ≤ y - y / 400 * 400 := by omega
  rw [Int.tdiv_eq_ediv_of_nonneg hnonneg, Int.tdiv_eq_ediv_of_nonneg hnonneg]
  simp only [noOverflow_cons, noOverflow_nil, and_true, holds_i64, holds_u32]
  split_ifs <;> omega

lemma i64Wrap_eq {x : Int} (h : -9223372036854775808 ≤ x ∧ x ≤ 9223372036854775807) : i64Wrap x = x := wrapI64_eq h

lemma daysFromCivil_eq (hyear : 0 ≤ year) (hle : year ≤ 2 ^ 63 - 1) (hmonth : 1 ≤ month ∧ month ≤ 12)
    (hday : 1 ≤ day ∧ day ≤ 31) (hbound : dayNumber year month day + 719468 ≤ 2 ^ 63 - 1) :
    daysFromCivil year month day =
      if 0 ≤ dayNumber year month day then some (dayNumber year month day).toNat else none := by
  have hnumber := dayNumber_eq_civil year month day
  have hy : (if month ≤ 2 then i64Wrap (year - 1) else year) = if month ≤ 2 then year - 1 else year := by
    rw [i64Wrap_eq (by omega)]
  have hm : ((if 2 < month then month - 3 else month + 9 : Nat) : Int) =
      if 2 < month then (month : Int) - 3 else month + 9 := by
    split_ifs <;> omega
  unfold daysFromCivil
  dsimp only at hnumber ⊢
  rw [hy, hm]
  have hybounds := shiftedYear_bounds hyear hle month
  have hmbounds := shiftedMonth_bounds hmonth.2 (by decide)
  clear hy hm
  generalize (if month ≤ 2 then year - 1 else year) = y at hybounds hnumber ⊢
  generalize (if 2 < month then (month : Int) - 3 else month + 9) = m at hmbounds hnumber ⊢
  have hnonneg : 0 ≤ y - y / 400 * 400 := by omega
  rw [i64Wrap_eq (x := y - 399) (by omega), tdiv_era, i64Wrap_eq (x := y / 400 * 400) (by omega),
    i64Wrap_eq (x := y - y / 400 * 400) (by omega), Int.tdiv_eq_ediv_of_nonneg hnonneg,
    Int.tdiv_eq_ediv_of_nonneg hnonneg, i64Wrap_eq (x := (y - y / 400 * 400) * 365) (by omega),
    i64Wrap_eq (x := _ + ((153 * m + 2) / 5 + day - 1)) (by omega), i64Wrap_eq (x := y / 400 * 146097) (by omega),
    i64Wrap_eq (x := y / 400 * 146097 + _) (by omega), i64Wrap_eq (x := _ - 719468) (by omega), hnumber]

end Civil

lemma checkedU64_eq_some {n r : Nat} : checkedU64 n = some r ↔ n ≤ u64Max ∧ n = r := by
  unfold checkedU64
  split_ifs with h
  · rw [Option.some.injEq, and_iff_right h]
  · simp [h]

lemma parts_le {a b c d e hi : Nat} (h : (a + b + c + d) * 1000 + e ≤ hi) :
    a ≤ hi ∧ a + b ≤ hi ∧ a + b + c ≤ hi ∧ a + b + c + d ≤ hi ∧ (a + b + c + d) * 1000 ≤ hi := by
  omega

lemma checked_chain (days hour minute second ms : Nat) :
    (do
      let v ← checkedU64 (days * 86400)
      let v ← checkedU64 (v + hour * 3600)
      let v ← checkedU64 (v + minute * 60)
      let seconds ← checkedU64 (v + second)
      let v ← checkedU64 (seconds * 1000)
      checkedU64 (v + ms)) =
      checkedU64 ((days * 86400 + hour * 3600 + minute * 60 + second) * 1000 + ms) := by
  apply Option.ext
  intro r
  simp only [Option.bind_eq_bind, Option.bind_eq_some_iff, checkedU64_eq_some]
  constructor
  · rintro ⟨_, ⟨-, rfl⟩, _, ⟨-, rfl⟩, _, ⟨-, rfl⟩, _, ⟨-, rfl⟩, _, ⟨-, rfl⟩, h, rfl⟩
    exact ⟨h, rfl⟩
  · rintro ⟨h, rfl⟩
    obtain ⟨hdays, hhour, hminute, hsecond, hmillis⟩ := parts_le h
    exact ⟨_, ⟨hdays, rfl⟩, _, ⟨hhour, rfl⟩, _, ⟨hminute, rfl⟩, _, ⟨hsecond, rfl⟩, _, ⟨hmillis, rfl⟩, h, rfl⟩

lemma parseRfc3339Ms_eq (value : Str) :
    parseRfc3339Ms value = okOr (do
      let f ← readTimestamp value
      let days ← daysFromCivil f.1.1 f.1.2.1 f.1.2.2
      checkedU64 ((days * 86400 + f.2.1 * 3600 + f.2.2.1 * 60 + f.2.2.2.1) * 1000 + f.2.2.2.2)) .invalidTimestamp := by
  simp only [parseRfc3339Ms, readTimestamp, ← checked_chain, Option.bind_eq_bind, Option.bind_assoc, Option.bind_some]

section Value

variable {value : Str} {t : Time}

lemma NamesTime.year_bounds (h : NamesTime value t) : 0 ≤ t.date.year ∧ t.date.year ≤ 2 ^ 63 - 1 := by
  obtain ⟨body, -, w, -, hw⟩ := h
  exact ⟨hw.year_nonneg, hw.year_le⟩

lemma NamesTime.readTimestamp (h : NamesTime value t) : readTimestamp value = some (fieldsOf t) :=
  readTimestamp_eq_some.mpr ⟨t, h, rfl⟩

/-- **Below the bound the result is exact.** -/
theorem parseRfc3339Ms_of_names (h : NamesTime value t) (hbound : t.date.number + 719468 ≤ 2 ^ 63 - 1) :
    parseRfc3339Ms value =
      if 0 ≤ t.millis ∧ t.millis ≤ u64Max then .ok t.millis.toNat else .error .invalidTimestamp := by
  have hyear := h.year_bounds
  have hday : 1 ≤ t.date.day ∧ t.date.day ≤ 31 := ⟨t.date.day_pos, t.day_le⟩
  have hdays : daysFromCivil t.date.year t.date.month t.date.day =
      if 0 ≤ t.date.number then some t.date.number.toNat else none :=
    daysFromCivil_eq hyear.1 hyear.2 ⟨t.date.month_pos, t.date.month_le⟩ hday hbound
  rw [parseRfc3339Ms_eq, h.readTimestamp]
  simp only [Option.bind_eq_bind, Option.bind_some, fieldsOf]
  rw [hdays]
  have hsign := t.millis_nonneg_iff
  by_cases hpos : 0 ≤ t.date.number
  · have hmillis : t.millis = ((t.date.number.toNat * 86400 + t.hour * 3600 + t.minute * 60 + t.second) * 1000 +
        thousandths t.fraction : Nat) := by
      unfold Time.millis Time.seconds
      omega
    rw [if_pos hpos, Option.bind_some, hmillis, checkedU64, Int.toNat_natCast]
    generalize (t.date.number.toNat * 86400 + t.hour * 3600 + t.minute * 60 + t.second) * 1000 +
      thousandths t.fraction = total
    by_cases hfits : total ≤ u64Max
    · rw [if_pos hfits, if_pos ⟨Int.natCast_nonneg total, Int.ofNat_le.mpr hfits⟩]
      rfl
    · rw [if_neg hfits, if_neg fun hboth => hfits (Int.ofNat_le.mp hboth.2)]
      rfl
  · rw [if_neg hpos, if_neg fun hboth => hpos (hsign.mp hboth.1)]
    rfl

lemma steps_noOverflow_iff (h : NamesTime value t) :
    NoOverflow (timestampSteps (fieldsOf t)) ↔ t.date.number + 719468 ≤ 2 ^ 63 - 1 := by
  have hyear := h.year_bounds
  have hcivil := civil_noOverflow_iff hyear.1 hyear.2 ⟨t.date.month_pos, t.date.month_le⟩ ⟨t.date.day_pos, t.day_le⟩
  have hfraction := thousandths_lt t.fraction
  have hhour := t.hour_lt
  have hminute := t.minute_lt
  simp only [timestampSteps, fieldsOf, List.cons_append, noOverflow_cons, noOverflow_append, noOverflow_nil, hcivil,
    holds_u32, holds_u64, and_true]
  show _ ↔ dayNumber t.date.year t.date.month t.date.day + 719468 ≤ 2 ^ 63 - 1
  omega

end Value

/-- The operations of a call: none, when the text is refused before the arithmetic. -/
def callSteps (value : Str) : List (Word × Int) := (readTimestamp value).elim [] timestampSteps

/-- **A timestamp is safe exactly when it names no time too far away.** -/
theorem timestamp_exact_iff (value : Str) :
    (NoOverflow (callSteps value) ∧
      ∀ ms, parseRfc3339Ms value = .ok ms → ∃ t x, NamesTime value t ∧ t.IsInstant x ∧ (ms : Int) = ⌊1000 * x⌋) ↔
    ∀ t days, NamesTime value t → DaysAfterEpoch t.date days → days + 719468 ≤ 2 ^ 63 - 1 := by
  constructor
  · rintro ⟨hsteps, -⟩ t days hnames hdays
    rw [callSteps, hnames.readTimestamp] at hsteps
    rw [← daysAfterEpoch_iff.mp hdays]
    exact (steps_noOverflow_iff hnames).mp hsteps
  · intro hfar
    have hbound : ∀ t, NamesTime value t → t.date.number + 719468 ≤ 2 ^ 63 - 1 :=
      fun t hnames => hfar t _ hnames (daysAfterEpoch_iff.mpr rfl)
    constructor
    · rw [callSteps]
      cases hread : readTimestamp value with
      | none => exact noOverflow_nil
      | some f =>
        obtain ⟨t, hnames, rfl⟩ := readTimestamp_eq_some.mp hread
        exact (steps_noOverflow_iff hnames).mpr (hbound t hnames)
    · intro ms hms
      have hread : ∃ f, readTimestamp value = some f := by
        rw [parseRfc3339Ms_eq, okOr_eq_ok] at hms
        obtain ⟨f, hf, -⟩ := Option.bind_eq_some_iff.mp hms
        exact ⟨f, hf⟩
      obtain ⟨f, hf⟩ := hread
      obtain ⟨t, hnames, rfl⟩ := readTimestamp_eq_some.mp hf
      obtain ⟨x, hx⟩ := t.exists_isInstant
      refine ⟨t, x, hnames, hx, ?_⟩
      rw [parseRfc3339Ms_of_names hnames (hbound t hnames)] at hms
      split_ifs at hms with hfits
      rw [t.floor_instant hx, ← Except.ok.inj hms]
      exact Int.toNat_of_nonneg hfits.1

lemma parseRfc3339Ms_text (s : Stamp) : parseRfc3339Ms s.text = .ok s.millis.toNat := by
  have hnames : NamesTime s.text s.toTime := ⟨_, ⟨_, List.mem_cons_self, s.trim_text⟩, _, rfl, s.written_names⟩
  have hnumber := s.number_le
  obtain ⟨hpos, hle⟩ := s.seconds_bounds
  have hfraction := thousandths_lt s.fraction
  rw [parseRfc3339Ms_of_names hnames (by omega), if_pos]
  unfold Time.millis u64Max
  omega

/-- The first of March of a year of seventeen digits is taken for a day of the year 2091. -/
theorem far_timestamp_wraps :
    parseRfc3339Ms "50505469855535200-03-01T00:00:00Z" = .ok 3819052800000 ∧
      ¬ NoOverflow (callSteps "50505469855535200-03-01T00:00:00Z") ∧
      ¬ ∃ t x, NamesTime "50505469855535200-03-01T00:00:00Z" t ∧ t.IsInstant x ∧
        (3819052800000 : Int) = ⌊1000 * x⌋ := by
  refine ⟨by decide, by decide, ?_⟩
  rintro ⟨t, x, hnames, hx, hms⟩
  have hread : readTimestamp "50505469855535200-03-01T00:00:00Z" = some ((50505469855535200, 3, 1), 0, 0, 0, 0) := by
    decide
  have hfields := Option.some.inj (hread.symm.trans hnames.readTimestamp)
  simp only [fieldsOf, Prod.mk.injEq] at hfields
  obtain ⟨⟨hyear, hmonth, hday⟩, -⟩ := hfields
  have hnumber : t.date.number = 18446744073709595818 := by
    rw [Date.number, ← hyear, ← hmonth, ← hday]
    decide
  rw [t.floor_instant hx, Time.millis, Time.seconds, hnumber] at hms
  omega

end TeechatOpenapi.Platform
