import TeechatOpenapi.Attest.Manifest
import TeechatOpenapi.Lib.Rfc3339
import TeechatOpenapi.Lib.Words

/-!
# The timestamps of a manifest (`openapi-attest/src/manifest.rs`)

`parse_rfc3339_secs` looks at no range: the numbers it reads go into the date arithmetic as they are.
-/

namespace TeechatOpenapi.Attest

open Lib

/-- The text names a time: it is the text of the time, white space apart, and `Z`. -/
def NamesTime (text : Str) (t : Time) : Prop := ∃ body, trim text = body ++ ['Z'] ∧ Spells body t

/-- The numbers `parse_rfc3339_secs` has read before it computes. -/
def readNumbers (text : Str) : Option Numbers := do
  let (date, time) ← (stripSuffix (trim text) ['Z']).bind (splitOnce · 'T')
  leadingNumbers date (time.takeWhile (· ≠ '.'))

variable {text : Str}

lemma readNumbers_eq_some {n : Numbers} :
    readNumbers text = some n ↔
      ∃ date time, (stripSuffix (trim text) ['Z']).bind (splitOnce · 'T') = some (date, time) ∧
        leadingNumbers date (time.takeWhile (· ≠ '.')) = some n := by
  unfold readNumbers
  rw [Option.bind_eq_bind, Option.bind_eq_some_iff]
  exact Prod.exists

lemma takeWhile_clock {w : Written} {t : Time} (h : w.Names t) :
    (w.clock ++ w.fraction).takeWhile (· ≠ '.') = w.clock := by
  have hclock : '.' ∉ w.clock := h.notMem_clock (by decide) (by decide) (by decide)
  have hall : ∀ c ∈ w.clock, decide (c ≠ '.') = true := fun c hc => decide_eq_true fun heq => hclock (heq ▸ hc)
  rw [List.takeWhile_append_of_pos hall]
  rcases h.fraction with hfraction | ⟨hfraction, -⟩
  · rw [hfraction]
    simp
  · rw [hfraction]
    simp

lemma NamesTime.readNumbers {t : Time} (h : NamesTime text t) : readNumbers text = some t.numbers := by
  obtain ⟨body, htext, w, rfl, hw⟩ := h
  simp only [Attest.readNumbers, stripSuffix_eq_some.mpr htext, Option.bind_some, hw.splitOnce_body,
    takeWhile_clock hw, hw.leadingNumbers, Option.bind_eq_bind]

/-- The seconds since 1970-01-01 by the formula, whatever the numbers are. -/
def exactSecs (n : Numbers) : Int :=
  dayNumber n.year n.month n.day * 86400 + n.hour * 3600 + n.minute * 60 + n.second

/-- The seconds `parse_rfc3339_secs` computes; arithmetic wraps. -/
def wrappedSecs (n : Numbers) : Int :=
  let y := if n.month ≤ 2 then wrapI64 (n.year - 1) else n.year
  let era := (if 0 ≤ y then y else wrapI64 (y - 399)).tdiv 400
  let yoe := wrapU64 (y - era * 400)
  let mp := if 2 < n.month then n.month - 3 else n.month + 9
  let doy := wrapU64 ((153 * mp + 2) / 5 + n.day - 1)
  let doe := wrapU64 (yoe * 365 + yoe / 4 - yoe / 100 + doy)
  let days := wrapI64 (era * 146097 + doe - 719468)
  wrapI64 (days * 86400 + n.hour * 3600 + n.minute * 60 + n.second)

lemma parseRfc3339Secs_eq (text : Str) :
    parseRfc3339Secs text = (do
      let (date, time) ← okOr ((stripSuffix (trim text) ['Z']).bind (splitOnce · 'T'))
        (.manifest (format ["bad timestamp ", trim text]))
      let d := date.splitOn '-'
      let year ← okOr (d[0]?.bind parseI64) (.manifest "bad year")
      let month ← okOr (d[1]?.bind (parseUnsigned u32Max)) (.manifest "bad month")
      let day ← okOr (d[2]?.bind (parseUnsigned u32Max)) (.manifest "bad day")
      let t := (time.takeWhile (· ≠ '.')).splitOn ':'
      let hour ← okOr (t[0]?.bind (parseUnsigned u32Max)) (.manifest "bad hour")
      let minute ← okOr (t[1]?.bind (parseUnsigned u32Max)) (.manifest "bad minute")
      let second ← okOr (t[2]?.bind (parseUnsigned u32Max)) (.manifest "bad second")
      let secs := wrappedSecs ⟨year, month, day, hour, minute, second⟩
      if secs < 0 then .error (.manifest "timestamp before epoch") else return secs.toNat) := rfl

lemma parseRfc3339Secs_eq_ok {secs : Nat} :
    parseRfc3339Secs text = .ok secs ↔
      ∃ n, readNumbers text = some n ∧ 0 ≤ wrappedSecs n ∧ (wrappedSecs n).toNat = secs := by
  rw [parseRfc3339Secs_eq]
  simp only [bind_eq_ok, okOr_eq_ok, readNumbers_eq_some, leadingNumbers_eq_some]
  constructor
  · rintro ⟨⟨date, time⟩, hcut, year, hyear, month, hmonth, day, hday, hour, hhour, minute, hminute, second, hsecond, h⟩
    split_ifs at h with hneg
    exact ⟨⟨year, month, day, hour, minute, second⟩,
      ⟨date, time, hcut, hyear, hmonth, hday, hhour, hminute, hsecond⟩, Int.not_lt.mp hneg, pure_eq_ok.mp h⟩
  · rintro ⟨n, ⟨date, time, hcut, hyear, hmonth, hday, hhour, hminute, hsecond⟩, hpos, hsecs⟩
    refine ⟨(date, time), hcut, _, hyear, _, hmonth, _, hday, _, hhour, _, hminute, _, hsecond, ?_⟩
    rw [if_neg (Int.not_lt.mpr hpos)]
    exact pure_eq_ok.mpr hsecs

/-- The exact results of the operations of `parse_rfc3339_secs`, in the order of the source. -/
def secsSteps (n : Numbers) : List (Word × Int) :=
  let y := if n.month ≤ 2 then n.year - 1 else n.year
  let shifted := if 0 ≤ y then y else y - 399
  let era := shifted.tdiv 400
  let yoe := y - era * 400
  let mp : Int := if 2 < n.month then (n.month : Int) - 3 else n.month + 9
  let doy := (153 * mp + 2) / 5 + n.day - 1
  let doe := yoe * 365 + yoe / 4 - yoe / 100 + doy
  let days := era * 146097 + doe - 719468
  [(.i64, y), (.i64, shifted), (.i64, era), (.i64, era * 400), (.i64, yoe), (.u32, mp), (.u64, 153 * mp),
    (.u64, 153 * mp + 2), (.u64, (153 * mp + 2) / 5 + n.day), (.u64, doy), (.u64, yoe * 365),
    (.u64, yoe * 365 + yoe / 4), (.u64, yoe * 365 + yoe / 4 - yoe / 100), (.u64, doe), (.i64, era * 146097),
    (.i64, era * 146097 + doe), (.i64, days), (.i64, days * 86400), (.i64, n.hour * 3600),
    (.i64, days * 86400 + n.hour * 3600), (.i64, n.minute * 60), (.i64, days * 86400 + n.hour * 3600 + n.minute * 60),
    (.i64, days * 86400 + n.hour * 3600 + n.minute * 60 + n.second)]

section Secs

variable {n : Numbers}

/-- **When the arithmetic overflows**: on the day 0 of March, and where the seconds are no `i64`. -/
theorem secs_noOverflow_iff (h : n.Typed) :
    NoOverflow (secsSteps n) ↔ ¬ (n.month = 3 ∧ n.day = 0) ∧ exactSecs n ≤ 2 ^ 63 - 1 := by
  obtain ⟨hyear, hyear', hmonth, hday, hhour, hminute, hsecond⟩ := h
  have hnumber := dayNumber_eq_civil n.year n.month n.day
  dsimp only at hnumber
  unfold exactSecs
  rw [hnumber]
  unfold secsSteps
  dsimp only
  rw [tdiv_era]
  have hybounds := shiftedYear_bounds hyear hyear' n.month
  have hmbounds := shiftedMonth_bounds hmonth (by decide)
  clear hnumber
  generalize (if n.month ≤ 2 then n.year - 1 else n.year) = y at hybounds ⊢
  generalize (if 2 < n.month then (n.month : Int) - 3 else n.month + 9) = m at hmbounds ⊢
  have hmonths : 0 ≤ (153 * m + 2) / 5 ∧ (153 * m + 2) / 5 ≤ 31 * m ∧ ((153 * m + 2) / 5 = 0 ↔ m = 0) := by omega
  have hera : y / 400 * 400 ≤ y ∧ y - y / 400 * 400 < 400 := by omega
  simp only [noOverflow_cons, noOverflow_nil, and_true, holds_i64, holds_u32, holds_u64]
  -- from here on only the bounds of the quotients count
  generalize (153 * m + 2) / 5 = months at hmonths ⊢
  generalize y / 400 = era at hera ⊢
  have hquarter : 0 ≤ (y - era * 400) / 4 ∧ (y - era * 400) / 4 < 100 := by omega
  have hcentury : 0 ≤ (y - era * 400) / 100 ∧ (y - era * 400) / 100 ≤ (y - era * 400) / 4 := by omega
  generalize (y - era * 400) / 4 = quarter at hquarter hcentury ⊢
  generalize (y - era * 400) / 100 = century at hcentury ⊢
  split_ifs <;> omega

lemma wrappedSecs_eq (h : n.Typed) (hmarch : ¬ (n.month = 3 ∧ n.day = 0)) (hle : exactSecs n ≤ 2 ^ 63 - 1) :
    wrappedSecs n = exactSecs n := by
  obtain ⟨hyear, hyear', hmonth, hday, hhour, hminute, hsecond⟩ := h
  have hnumber := dayNumber_eq_civil n.year n.month n.day
  have hy : (if n.month ≤ 2 then wrapI64 (n.year - 1) else n.year) = if n.month ≤ 2 then n.year - 1 else n.year := by
    rw [wrapI64_eq (by omega)]
  have hm : ((if 2 < n.month then n.month - 3 else n.month + 9 : Nat) : Int) =
      if 2 < n.month then (n.month : Int) - 3 else n.month + 9 := by
    split_ifs <;> omega
  unfold exactSecs at hle ⊢
  unfold wrappedSecs
  dsimp only at hnumber ⊢
  rw [hy, hm]
  have hybounds := shiftedYear_bounds hyear hyear' n.month
  have hmbounds := shiftedMonth_bounds hmonth (by decide)
  clear hy hm
  generalize (if n.month ≤ 2 then n.year - 1 else n.year) = y at hybounds hnumber ⊢
  generalize (if 2 < n.month then (n.month : Int) - 3 else n.month + 9) = m at hmbounds hnumber ⊢
  have hmonths : 0 ≤ (153 * m + 2) / 5 ∧ (153 * m + 2) / 5 ≤ 31 * m ∧ ((153 * m + 2) / 5 = 0 ↔ m = 0) := by omega
  rw [wrapI64_eq (x := y - 399) (by omega), tdiv_era, wrapU64_eq (x := y - y / 400 * 400) (by omega),
    wrapU64_eq (x := (153 * m + 2) / 5 + n.day - 1) (by omega), wrapU64_eq (x := _ + _) (by omega),
    wrapI64_eq (x := _ - 719468) (by omega), ← hnumber, wrapI64_eq (by omega)]

end Secs

/-- The operations of a call: none, when the text is refused before the arithmetic. -/
def secsCall (text : Str) : List (Word × Int) := (readNumbers text).elim [] secsSteps

lemma typed_of_readNumbers {n : Numbers} (h : readNumbers text = some n) : n.Typed := by
  obtain ⟨date, time, -, hn⟩ := readNumbers_eq_some.mp h
  exact typed_of_leadingNumbers hn

/-- Where nothing overflows, the result is the exact number of seconds, unless it is negative. -/
lemma parseRfc3339Secs_exact {n : Numbers} (h : readNumbers text = some n)
    (hmarch : ¬ (n.month = 3 ∧ n.day = 0)) (hle : exactSecs n ≤ 2 ^ 63 - 1) {secs : Nat} :
    parseRfc3339Secs text = .ok secs ↔ 0 ≤ exactSecs n ∧ (exactSecs n).toNat = secs := by
  rw [parseRfc3339Secs_eq_ok]
  constructor
  · rintro ⟨n', hn', hsecs⟩
    obtain rfl := Option.some.inj (h.symm.trans hn')
    rw [wrappedSecs_eq (typed_of_readNumbers h) hmarch hle] at hsecs
    exact hsecs
  · intro hsecs
    refine ⟨n, h, ?_⟩
    rw [wrappedSecs_eq (typed_of_readNumbers h) hmarch hle]
    exact hsecs

/-- **The texts on which no operation overflows and only times that exist are accepted.** -/
theorem manifest_real_iff (text : Str) :
    (NoOverflow (secsCall text) ∧ ∀ secs, parseRfc3339Secs text = .ok secs → ∃ t, NamesTime text t) ↔
    ∀ n, readNumbers text = some n →
      ¬ (n.month = 3 ∧ n.day = 0) ∧ exactSecs n ≤ 2 ^ 63 - 1 ∧ (exactSecs n < 0 ∨ ∃ t, NamesTime text t) := by
  constructor
  · rintro ⟨hsteps, hreal⟩ n hn
    rw [secsCall, hn] at hsteps
    obtain ⟨hmarch, hle⟩ := (secs_noOverflow_iff (typed_of_readNumbers hn)).mp hsteps
    refine ⟨hmarch, hle, ?_⟩
    rcases Int.lt_or_le (exactSecs n) 0 with hneg | hpos
    · exact .inl hneg
    · exact .inr (hreal _ ((parseRfc3339Secs_exact hn hmarch hle).mpr ⟨hpos, rfl⟩))
  · intro h
    constructor
    · rw [secsCall]
      cases hn : readNumbers text with
      | none => exact noOverflow_nil
      | some n =>
        obtain ⟨hmarch, hle, -⟩ := h n hn
        exact (secs_noOverflow_iff (typed_of_readNumbers hn)).mpr ⟨hmarch, hle⟩
    · intro secs hsecs
      obtain ⟨n, hn, -⟩ := parseRfc3339Secs_eq_ok.mp hsecs
      obtain ⟨hmarch, hle, hneg | hreal⟩ := h n hn
      · have hpos := ((parseRfc3339Secs_exact hn hmarch hle).mp hsecs).1
        omega
      · exact hreal

lemma parseRfc3339Secs_text (s : Stamp) : parseRfc3339Secs s.text = .ok s.seconds.toNat := by
  have hnames : NamesTime s.text s.toTime := ⟨_, s.trim_text, _, rfl, s.written_names⟩
  obtain ⟨hpos, hle⟩ := s.seconds_bounds
  have hexact : exactSecs s.numbers = s.seconds := rfl
  refine (parseRfc3339Secs_exact hnames.readNumbers ?_ ?_).mpr ⟨?_, ?_⟩
  · have hday := s.date.day_pos
    show ¬ (s.date.month = 3 ∧ s.date.day = 0)
    omega
  · rw [hexact]
    omega
  · rw [hexact]
    exact hpos
  · rw [hexact]

end TeechatOpenapi.Attest
