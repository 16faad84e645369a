import TeechatOpenapi.Platform.Challenge

/-!
# The launch measurement that `snpguest` displays (`openapi-platform-cvm/src/guest_digest.rs`)

`snpguest display report` prints the measurement as hexadecimal digits behind its label, in tokens and rows that differ
between versions.
-/

namespace TeechatOpenapi.Cvm

open Lib Encoding Platform

/-- The tokens of a text that are hexadecimal, behind one another. -/
def hexTokens (s : Str) : Str := ((splitWhitespace s).filter fun t => t.all isAsciiHexdigit).flatten

/-- The rows behind a label: their digits, and the lines that are left. -/
def takeRows : List Str → Str × List Str
  | [] => ([], [])
  | next :: lines =>
    if next = [] ∨ ':' ∈ next then ([], next :: lines)
    else if hexTokens next = [] then ([], next :: lines)
    else (hexTokens next ++ (takeRows lines).1, (takeRows lines).2)

lemma length_takeRows_le (lines : List Str) : (takeRows lines).2.length ≤ lines.length := by
  induction lines with
  | nil => exact Nat.le_refl 0
  | cons next lines ih =>
    rw [takeRows]
    split_ifs
    · exact Nat.le_refl _
    · exact Nat.le_refl _
    · exact ih.trans (Nat.le_succ _)

/-- What stands behind one of the labels. -/
def afterLabel (line : Str) : Option Str :=
  (stripPrefix line "Launch Measurement:").or (stripPrefix line "Measurement:")

/-- The loop over the trimmed lines. -/
def parseDisplayLines : List Str → Except PlatformError Str
  | [] => .error (.attestation "snpguest display output missing Measurement")
  | line :: lines =>
    match afterLabel line with
    | none => parseDisplayLines lines
    | some rest =>
      let hex := hexTokens rest ++ (takeRows lines).1
      if 64 ≤ (utf8 hex).length ∧ hex.all isAsciiHexdigit then .ok (toAsciiLowercase hex)
      else parseDisplayLines (takeRows lines).2
termination_by lines => lines.length
decreasing_by
  · exact Nat.lt_succ_self _
  · exact Nat.lt_succ_of_le (length_takeRows_le _)

def parseLaunchMeasurementFromDisplay (text : Str) : Except PlatformError Str :=
  parseDisplayLines ((lines text).map trim)

/-- A text of hexadecimal digits, with white space anywhere. -/
def IsDigits (s : Str) : Prop := ∀ c ∈ s, isWhitespace c = true ∨ isAsciiHexdigit c = true

instance (s : Str) : Decidable (IsDigits s) := List.decidableBAll _ s

/-- The characters of a text that are not white space. -/
def digitsOf (s : Str) : Str := s.filter fun c => !isWhitespace c

lemma IsDigits.hexdigit {s : Str} (h : IsDigits s) : ∀ c ∈ digitsOf s, isAsciiHexdigit c = true := by
  intro c hc
  obtain ⟨hmem, hblank⟩ := List.mem_filter.mp hc
  refine (h c hmem).resolve_left fun hspace => ?_
  rw [hspace] at hblank
  cases hblank

/-- **The hexadecimal tokens of a row of digits** are its digits. -/
theorem hexTokens_eq {s : Str} (h : IsDigits s) : hexTokens s = digitsOf s := by
  have hall : ∀ t ∈ splitWhitespace s, t.all isAsciiHexdigit = true := by
    intro t ht
    refine List.all_eq_true.mpr fun c hc => h.hexdigit c ?_
    rw [digitsOf, ← flatten_splitWhitespace]
    exact List.mem_flatten.mpr ⟨t, ht, hc⟩
  rw [hexTokens, List.filter_eq_self.mpr hall, flatten_splitWhitespace, digitsOf]

lemma digitsOf_eq_nil {s : Str} (h : ∀ c ∈ s, isWhitespace c = true) : digitsOf s = [] :=
  List.filter_eq_nil_iff.mpr fun c hc => by simp [h c hc]

lemma digitsOf_trim (s : Str) : digitsOf (trim s) = digitsOf s := by
  have hfront : digitsOf (s.dropWhile isWhitespace) = digitsOf s := by
    have hblank : digitsOf (s.takeWhile isWhitespace) = [] := digitsOf_eq_nil fun _ => List.mem_takeWhile_imp
    conv_rhs => rw [← List.takeWhile_append_dropWhile (p := isWhitespace) (l := s)]
    rw [digitsOf, digitsOf, List.filter_append]
    exact (congrArg (· ++ _) hblank).symm
  have hback (t : Str) : digitsOf (t.rdropWhile isWhitespace) = digitsOf t := by
    have hblank : digitsOf (t.rtakeWhile isWhitespace) = [] := digitsOf_eq_nil fun _ => List.mem_rtakeWhile_imp
    conv_rhs => rw [← List.rdropWhile_append_rtakeWhile (p := isWhitespace) (l := t)]
    rw [digitsOf, digitsOf, List.filter_append]
    exact ((congrArg (_ ++ ·) hblank).trans (List.append_nil _)).symm
  rw [trim, hback, hfront]

lemma IsDigits.trim {s : Str} (h : IsDigits s) : IsDigits (trim s) := fun c hc => h c ((trim_sublist s).subset hc)

/-- The digits end here: nothing follows, or a blank line, or a line with a colon. -/
def DigitsEnd : List Str → Prop
  | [] => True
  | next :: _ => trim next = [] ∨ ':' ∈ next

/-- A text displays a measurement: lines that start with no label, the label with digits behind it, rows of digits, and
an end.  The digits, in either case and with white space anywhere between them, are those of the measurement. -/
structure Printed (measurement : Bytes) (text : Str) where
  before : List Str
  line : Str
  label : Str
  inline : Str
  rows : List Str
  after : List Str
  lines_eq : lines text = before ++ line :: (rows ++ after)
  unlabelled : ∀ l ∈ before, ¬ "Launch Measurement:".toList <+: trim l ∧ ¬ "Measurement:".toList <+: trim l
  label_eq : label = "Launch Measurement:".toList ∨ label = "Measurement:".toList
  line_eq : trim line = label ++ inline
  inline_digits : IsDigits inline
  rows_digits : ∀ row ∈ rows, IsDigits row ∧ digitsOf row ≠ []
  ends : DigitsEnd after
  digits : toAsciiLowercase (digitsOf inline ++ rows.flatMap digitsOf) = hexEncode measurement

lemma afterLabel_append {label : Str}
    (h : label = "Launch Measurement:".toList ∨ label = "Measurement:".toList) (rest : Str) :
    afterLabel (label ++ rest) = some rest := by
  rcases h with rfl | rfl
  · rw [afterLabel, stripPrefix_append, Option.some_or]
  · have hfirst : ¬ "Launch Measurement:".toList <+: "Measurement:".toList ++ rest := fun hfront =>
      absurd (List.cons_prefix_cons.mp hfront).1 (by decide)
    rw [afterLabel, stripPrefix_eq_none hfirst, stripPrefix_append, Option.none_or]

lemma parseDisplayLines_skip {before : List Str} (h : ∀ l ∈ before,
    ¬ "Launch Measurement:".toList <+: l ∧ ¬ "Measurement:".toList <+: l) (lines : List Str) :
    parseDisplayLines (before ++ lines) = parseDisplayLines lines := by
  induction before with
  | nil => rfl
  | cons l before ih =>
    obtain ⟨⟨hlong, hshort⟩, hbefore⟩ := List.forall_mem_cons.mp h
    have hnone : afterLabel l = none := by
      rw [afterLabel, stripPrefix_eq_none hlong, stripPrefix_eq_none hshort, Option.none_or]
    rw [List.cons_append, parseDisplayLines, hnone]
    exact ih hbefore

lemma colon_mem_trim {s : Str} (h : ':' ∈ s) : ':' ∈ trim s := by
  have hmem : ':' ∈ digitsOf s := List.mem_filter.mpr ⟨h, by decide⟩
  rw [← digitsOf_trim] at hmem
  exact (List.mem_filter.mp hmem).1

/-- **The rows are taken up to their end.** -/
theorem takeRows_eq {rows after : List Str} (hrows : ∀ row ∈ rows, IsDigits row ∧ digitsOf row ≠ [])
    (hafter : DigitsEnd after) :
    takeRows ((rows ++ after).map trim) = (rows.flatMap digitsOf, after.map trim) := by
  induction rows with
  | nil =>
    cases after with
    | nil => rfl
    | cons next after =>
      have hstop : trim next = [] ∨ ':' ∈ trim next := hafter.imp_right colon_mem_trim
      rw [List.nil_append, List.map_cons, takeRows, if_pos hstop]
      rfl
  | cons row rows ih =>
    obtain ⟨⟨hdigits, hne⟩, hrest⟩ := List.forall_mem_cons.mp hrows
    have htokens : hexTokens (trim row) = digitsOf row := (hexTokens_eq hdigits.trim).trans (digitsOf_trim row)
    have hgoes : ¬ (trim row = [] ∨ ':' ∈ trim row) := by
      rintro (hnil | hcolon)
      · refine hne ?_
        rw [← digitsOf_trim, hnil]
        rfl
      · rcases hdigits.trim _ hcolon with hspace | hhex
        · exact absurd hspace (by decide)
        · exact absurd hhex (by decide)
    rw [List.cons_append, List.map_cons, takeRows, if_neg hgoes, htokens, if_neg hne, ih hrest, List.flatMap_cons]

/-- **A displayed measurement is read back**: all of its digits, in lower case. -/
theorem launch_measurement_read {measurement : Bytes} (hlength : measurement.length = 48) {text : Str}
    (p : Printed measurement text) : parseLaunchMeasurementFromDisplay text = .ok (hexEncode measurement) := by
  have hsize : (digitsOf p.inline ++ p.rows.flatMap digitsOf).length = 96 := by
    have hmap := congrArg List.length p.digits
    rw [toAsciiLowercase, List.length_map, length_hexEncode, hlength] at hmap
    exact hmap
  have hhex : ∀ c ∈ digitsOf p.inline ++ p.rows.flatMap digitsOf, isAsciiHexdigit c = true := by
    intro c hc
    rcases List.mem_append.mp hc with hc | hc
    · exact p.inline_digits.hexdigit c hc
    · obtain ⟨row, hrow, hc⟩ := List.mem_flatMap.mp hc
      exact (p.rows_digits row hrow).1.hexdigit c hc
  have hinline : hexTokens p.inline = digitsOf p.inline := hexTokens_eq p.inline_digits
  have hlong : 64 ≤ (utf8 (digitsOf p.inline ++ p.rows.flatMap digitsOf)).length := by
    rw [utf8_length_of_ascii fun c hc => isAsciiHexdigit_lt (hhex c hc), hsize]
    decide
  have hbefore : ∀ l ∈ p.before.map trim,
      ¬ "Launch Measurement:".toList <+: l ∧ ¬ "Measurement:".toList <+: l := by
    intro l hl
    obtain ⟨l', hl', rfl⟩ := List.mem_map.mp hl
    exact p.unlabelled l' hl'
  rw [parseLaunchMeasurementFromDisplay, p.lines_eq, List.map_append, parseDisplayLines_skip hbefore, List.map_cons,
    p.line_eq, parseDisplayLines, afterLabel_append p.label_eq, takeRows_eq p.rows_digits p.ends]
  dsimp only
  rw [hinline, if_pos ⟨hlong, List.all_eq_true.mpr hhex⟩, p.digits]

def sampleDisplay : Str :=
  "Version: 2\n Measurement: aA\n  ".toList ++ List.replicate 47 'a' ++ "\n".toList ++ List.replicate 47 'A' ++
    "\n\nHost Data:\n".toList

def printedSample : Printed (List.replicate 48 0xaa) sampleDisplay where
  before := ["Version: 2"]
  line := " Measurement: aA"
  label := "Measurement:"
  inline := " aA"
  rows := ["  ".toList ++ List.replicate 47 'a', List.replicate 47 'A']
  after := [[], "Host Data:"]
  lines_eq := by decide
  unlabelled := by decide
  label_eq := Or.inr rfl
  line_eq := by decide
  inline_digits := by decide
  rows_digits := by decide
  ends := Or.inl rfl
  digits := by decide

theorem launch_measurement_read_sample :
    parseLaunchMeasurementFromDisplay sampleDisplay = .ok (hexEncode (List.replicate 48 0xaa)) :=
  launch_measurement_read List.length_replicate printedSample

end TeechatOpenapi.Cvm
