import TeechatOpenapi.Lib.Json
import TeechatOpenapi.Lib.Radix
import TeechatOpenapi.Lib.Utf8

/-!
# Compact JSON texts

`renderText` writes a tree without white space, members in their order, strings with the escapes of `serde_json`.
-/

namespace TeechatOpenapi.Lib

open Encoding

/-- A character in a JSON string. -/
def escapeChar (c : Char) : Str :=
  if c = '"' then ['\\', '"']
  else if c = '\\' then ['\\', '\\']
  else if c.toNat = 8 then ['\\', 'b']
  else if c.toNat = 12 then ['\\', 'f']
  else if c = '\n' then ['\\', 'n']
  else if c = '\r' then ['\\', 'r']
  else if c = '\t' then ['\\', 't']
  else if c.toNat < 32 then ['\\', 'u', '0', '0', hexDigit (c.toNat / 16), hexDigit (c.toNat % 16)]
  else [c]

/-- A JSON string, escaped as `serde_json` escapes it. -/
def quoteText (s : Str) : Str := '"' :: s.flatMap escapeChar ++ ['"']

mutual

/-- The compact text of a tree without floats. -/
def renderText : Json → Str
  | .null => "null"
  | .bool b => if b then "true" else "false"
  | .number (.posInt n) => decimal n
  | .number (.negInt n) => '-' :: decimal (n + 1)
  | .number (.float _) => []
  | .string s => quoteText s
  | .array xs => '[' :: renderElems xs ++ [']']
  | .object ms => '{' :: renderMembers ms ++ ['}']

def renderElems : List Json → Str
  | [] => []
  | [x] => renderText x
  | x :: xs => renderText x ++ ',' :: renderElems xs

def renderMembers : List (Str × Json) → Str
  | [] => []
  | [(k, v)] => quoteText k ++ ':' :: renderText v
  | (k, v) :: ms => quoteText k ++ ':' :: renderText v ++ ',' :: renderMembers ms

end

lemma quoteText_printable {s : Str} {c : Char} (h : c ∈ quoteText s) : 32 ≤ c.toNat := by
  have hdigit (v : Nat) (hv : v < 16) : 32 ≤ (hexDigit v).toNat := by
    have key : ∀ v : Fin 16, 32 ≤ (hexDigit v).toNat := by decide
    exact key ⟨v, hv⟩
  simp only [quoteText, escapeChar, List.cons_append, List.mem_cons, List.mem_append, List.mem_flatMap,
    List.not_mem_nil, or_false] at h
  rcases h with rfl | ⟨d, -, hd⟩ | rfl
  · decide
  · split_ifs at hd with h1 h2 h3 h4 h5 h6 h7 h8 <;> simp only [List.mem_cons, List.not_mem_nil, or_false] at hd
    · rcases hd with rfl | rfl <;> decide
    · rcases hd with rfl | rfl <;> decide
    · rcases hd with rfl | rfl <;> decide
    · rcases hd with rfl | rfl <;> decide
    · rcases hd with rfl | rfl <;> decide
    · rcases hd with rfl | rfl <;> decide
    · rcases hd with rfl | rfl <;> decide
    · rcases hd with rfl | rfl | rfl | rfl | rfl | rfl
      · decide
      · decide
      · decide
      · decide
      · exact hdigit _ (by omega)
      · exact hdigit _ (by omega)
    · rw [hd]
      omega
  · decide

lemma decimal_printable {n : Nat} {c : Char} (h : c ∈ decimal n) : 32 ≤ c.toNat := by
  have hdigit := (decimal_spec n).1 c h
  rw [isAsciiDigit, Bool.and_eq_true, decide_eq_true_eq] at hdigit
  have hlow : ('0' : Char).toNat ≤ c.toNat := hdigit.1
  exact le_trans (by decide) hlow

mutual

lemma renderText_printable : ∀ (j : Json) {c : Char}, c ∈ renderText j → 32 ≤ c.toNat
  | .null, c, h => by
    have key : (renderText .null).all (fun c => decide (32 ≤ c.toNat)) = true := by decide
    exact of_decide_eq_true (List.all_eq_true.mp key c h)
  | .bool b, c, h => by
    have key : (renderText (.bool b)).all (fun c => decide (32 ≤ c.toNat)) = true := by cases b <;> decide
    exact of_decide_eq_true (List.all_eq_true.mp key c h)
  | .number (.posInt n), c, h => by
    rw [renderText] at h
    exact decimal_printable h
  | .number (.negInt n), c, h => by
    rw [renderText, List.mem_cons] at h
    rcases h with rfl | h
    · decide
    · exact decimal_printable h
  | .number (.float _), c, h => by
    rw [renderText] at h
    exact absurd h List.not_mem_nil
  | .string s, c, h => by
    rw [renderText] at h
    exact quoteText_printable h
  | .array xs, c, h => by
    simp only [renderText, List.cons_append, List.mem_cons, List.mem_append, List.not_mem_nil, or_false] at h
    rcases h with rfl | h | rfl
    · decide
    · exact renderElems_printable xs h
    · decide
  | .object ms, c, h => by
    simp only [renderText, List.cons_append, List.mem_cons, List.mem_append, List.not_mem_nil, or_false] at h
    rcases h with rfl | h | rfl
    · decide
    · exact renderMembers_printable ms h
    · decide

lemma renderElems_printable : ∀ (xs : List Json) {c : Char}, c ∈ renderElems xs → 32 ≤ c.toNat
  | [], c, h => absurd h List.not_mem_nil
  | [x], c, h => renderText_printable x h
  | x :: y :: xs, c, h => by
    simp only [renderElems, List.mem_append, List.mem_cons] at h
    rcases h with h | rfl | h
    · exact renderText_printable x h
    · decide
    · exact renderElems_printable (y :: xs) h

lemma renderMembers_printable : ∀ (ms : List (Str × Json)) {c : Char}, c ∈ renderMembers ms → 32 ≤ c.toNat
  | [], c, h => absurd h List.not_mem_nil
  | [(k, v)], c, h => by
    simp only [renderMembers, List.mem_append, List.mem_cons] at h
    rcases h with h | rfl | h
    · exact quoteText_printable h
    · decide
    · exact renderText_printable v h
  | (k, v) :: m :: ms, c, h => by
    simp only [renderMembers, List.mem_append, List.mem_cons] at h
    rcases h with (h | rfl | h) | rfl | h
    · exact quoteText_printable h
    · decide
    · exact renderText_printable v h
    · decide
    · exact renderMembers_printable (m :: ms) h

end

lemma zero_notMem_renderText (j : Json) : 0 ∉ utf8 (renderText j) := by
  intro h
  exact absurd (renderText_printable j (ascii_mem_utf8 (b := 0) (by decide) h)) (by decide)

/-- The first character of what stands inside a JSON string, and the rest; nothing at the closing quote. -/
def unescape : Str → Option (Char × Str)
  | [] => none
  | c :: rest =>
    if c = '"' then none
    else if c ≠ '\\' then some (c, rest)
    else match rest with
      | [] => none
      | e :: rest =>
        if e = 'b' then some (Char.ofNat 8, rest)
        else if e = 'f' then some (Char.ofNat 12, rest)
        else if e = 'n' then some ('\n', rest)
        else if e = 'r' then some ('\r', rest)
        else if e = 't' then some ('\t', rest)
        else if e = 'u' then
          match rest.drop 2 with
          | p :: q :: rest => some (Char.ofNat ((hexValue p).getD 0 * 16 + (hexValue q).getD 0), rest)
          | _ => none
        else some (e, rest)

lemma unescape_escapeChar (c : Char) (rest : Str) : unescape (escapeChar c ++ rest) = some (c, rest) := by
  unfold escapeChar
  split_ifs with h1 h2 h3 h4 h5 h6 h7 h8
  · rw [h1]
    rfl
  · rw [h2]
    rfl
  · rw [← Char.ofNat_toNat c, h3]
    rfl
  · rw [← Char.ofNat_toNat c, h4]
    rfl
  · rw [h5]
    rfl
  · rw [h6]
    rfl
  · rw [h7]
    rfl
  · change some (Char.ofNat ((hexValue (hexDigit (c.toNat / 16))).getD 0 * 16 +
      (hexValue (hexDigit (c.toNat % 16))).getD 0), rest) = some (c, rest)
    rw [hexValue_hexDigit (by omega), hexValue_hexDigit (by omega), Option.getD_some, Option.getD_some,
      Nat.div_add_mod', Char.ofNat_toNat]
  · change (if c = '"' then none else if c ≠ '\\' then some (c, rest) else _) = _
    rw [if_neg h1, if_pos h2]

/-- **A string is read back**, whatever follows it. -/
theorem quoteText_append_injective {s s' r r' : Str} (h : quoteText s ++ r = quoteText s' ++ r') : s = s' ∧ r = r' := by
  -- by induction on the first string; `unescape` reads the same character off both sides
  have key : ∀ s s' : Str, s.flatMap escapeChar ++ '"' :: r = s'.flatMap escapeChar ++ '"' :: r' →
      s = s' ∧ r = r' := by
    intro s
    induction s with
    | nil =>
      intro s' h
      cases s' with
      | nil => exact ⟨rfl, (List.cons.inj h).2⟩
      | cons c s' =>
        rw [List.flatMap_cons, List.append_assoc] at h
        have hread := congrArg unescape h
        rw [unescape_escapeChar] at hread
        cases hread
    | cons c s ih =>
      intro s' h
      cases s' with
      | nil =>
        rw [List.flatMap_cons, List.append_assoc] at h
        have hread := congrArg unescape h
        rw [unescape_escapeChar] at hread
        cases hread
      | cons c' s' =>
        rw [List.flatMap_cons, List.flatMap_cons, List.append_assoc, List.append_assoc] at h
        have hread := congrArg unescape h
        rw [unescape_escapeChar, unescape_escapeChar] at hread
        obtain ⟨rfl, hrest⟩ := Prod.mk.inj (Option.some.inj hread)
        obtain ⟨rfl, hr⟩ := ih s' hrest
        exact ⟨rfl, hr⟩
  refine key s s' ?_
  simpa only [quoteText, List.cons_append, List.append_assoc, List.nil_append, List.cons.injEq, true_and] using h

/-- The forms of a text, by its first character. -/
inductive Form where
  | null | bool | natural | negative | string | array | object | none
  deriving DecidableEq

def formOf (c : Char) : Form :=
  if c = 'n' then .null
  else if c = 't' ∨ c = 'f' then .bool
  else if c = '-' then .negative
  else if isAsciiDigit c then .natural
  else if c = '"' then .string
  else if c = '[' then .array
  else if c = '{' then .object
  else .none

/-- The form of the text of a tree. -/
def Json.form : Json → Form
  | .null => .null
  | .bool _ => .bool
  | .number (.posInt _) => .natural
  | .number (.negInt _) => .negative
  | .number (.float _) => .none
  | .string _ => .string
  | .array _ => .array
  | .object _ => .object

mutual

/-- No number of a tree is a float. -/
def Json.floatFree : Json → Bool
  | .number (.float _) => false
  | .array xs => floatFreeElems xs
  | .object ms => floatFreeMembers ms
  | _ => true

def floatFreeElems : List Json → Bool
  | [] => true
  | x :: xs => x.floatFree && floatFreeElems xs

def floatFreeMembers : List (Str × Json) → Bool
  | [] => true
  | (_, v) :: ms => v.floatFree && floatFreeMembers ms

end

lemma Json.form_ne_none {j : Json} (h : j.floatFree = true) : j.form ≠ .none := by
  intro hform
  rcases j with _ | b | (n | n | bits) | s | xs | ms <;> cases hform
  cases h

lemma formOf_digit {c : Char} (h : isAsciiDigit c = true) : formOf c = .natural := by
  have hne : c ≠ 'n' ∧ c ≠ 't' ∧ c ≠ 'f' ∧ c ≠ '-' := by
    refine ⟨?_, ?_, ?_, ?_⟩ <;> rintro rfl <;> exact absurd h (by decide)
  simp [formOf, h, hne]

/-- The first character of a text says what its tree is. -/
lemma renderText_head {j : Json} (h : j.floatFree = true) : ∃ c t, renderText j = c :: t ∧ formOf c = j.form := by
  cases j with
  | null => exact ⟨_, _, rfl, by decide⟩
  | bool b => cases b <;> exact ⟨_, _, rfl, by decide⟩
  | number n =>
    cases n with
    | posInt n =>
      obtain ⟨c, t, hn⟩ := List.exists_cons_of_ne_nil (decimal_ne_nil n)
      refine ⟨c, t, hn, formOf_digit ((decimal_spec n).1 c ?_)⟩
      rw [hn]
      exact List.mem_cons_self
    | negInt n => exact ⟨_, _, rfl, rfl⟩
    | float bits => cases h
  | string s => exact ⟨_, _, rfl, rfl⟩
  | array xs => exact ⟨_, _, by rw [renderText, List.cons_append], rfl⟩
  | object ms => exact ⟨_, _, by rw [renderText, List.cons_append], rfl⟩

lemma form_eq_of_append {j j' : Json} {r r' : Str} (hj : j.floatFree = true) (hj' : j'.floatFree = true)
    (h : renderText j ++ r = renderText j' ++ r') : j.form = j'.form := by
  obtain ⟨c, t, ht, hc⟩ := renderText_head hj
  obtain ⟨c', t', ht', hc'⟩ := renderText_head hj'
  rw [ht, ht', List.cons_append, List.cons_append] at h
  rw [← hc, ← hc', (List.cons.inj h).1]

lemma renderText_append_ne_close {j : Json} {r r' : Str} (hj : j.floatFree = true) :
    renderText j ++ r ≠ ']' :: r' := by
  intro h
  obtain ⟨c, t, ht, hc⟩ := renderText_head hj
  rw [ht, List.cons_append] at h
  rw [(List.cons.inj h).1] at hc
  exact Json.form_ne_none hj hc.symm

/-- What may follow a numeral: the end of the text, or what is no digit. -/
def NumeralEnds (r : Str) : Prop := ∀ c t, r = c :: t → isAsciiDigit c = false

lemma decimal_append_injective {n n' : Nat} {r r' : Str} (hr : NumeralEnds r) (hr' : NumeralEnds r')
    (h : decimal n ++ r = decimal n' ++ r') : n = n' ∧ r = r' := by
  have htake : ∀ (n : Nat) (r : Str), NumeralEnds r → (decimal n ++ r).takeWhile isAsciiDigit = decimal n := by
    intro n r hr
    rw [List.takeWhile_append_of_pos (decimal_spec n).1]
    cases r with
    | nil => simp
    | cons c t => rw [List.takeWhile_cons, hr c t rfl, if_neg Bool.false_ne_true, List.append_nil]
  have hdec := congrArg (List.takeWhile isAsciiDigit) h
  rw [htake n r hr, htake n' r' hr'] at hdec
  obtain rfl := decimal_injective hdec
  exact ⟨rfl, List.append_cancel_left h⟩

/-- What follows an element of an array whose further elements are `xs`. -/
def afterElem (xs : List Json) (r : Str) : Str :=
  match xs with
  | [] => ']' :: r
  | x :: xs => ',' :: (renderElems (x :: xs) ++ ']' :: r)

/-- What follows a member of an object whose further members are `ms`. -/
def afterMember (ms : List (Str × Json)) (r : Str) : Str :=
  match ms with
  | [] => '}' :: r
  | m :: ms => ',' :: (renderMembers (m :: ms) ++ '}' :: r)

lemma ends_afterElem (xs : List Json) (r : Str) : NumeralEnds (afterElem xs r) := by
  intro c t h
  cases xs with
  | nil =>
    rw [← (List.cons.inj h).1]
    decide
  | cons x xs =>
    rw [← (List.cons.inj h).1]
    decide

lemma ends_afterMember (ms : List (Str × Json)) (r : Str) : NumeralEnds (afterMember ms r) := by
  intro c t h
  cases ms with
  | nil =>
    rw [← (List.cons.inj h).1]
    decide
  | cons m ms =>
    rw [← (List.cons.inj h).1]
    decide

lemma renderElems_cons (x : Json) (xs : List Json) (r : Str) :
    renderElems (x :: xs) ++ ']' :: r = renderText x ++ afterElem xs r := by
  cases xs with
  | nil => rfl
  | cons y ys =>
    rw [renderElems, List.append_assoc]
    rfl
    · simp

lemma renderMembers_cons (k : Str) (v : Json) (ms : List (Str × Json)) (r : Str) :
    renderMembers ((k, v) :: ms) ++ '}' :: r = quoteText k ++ ':' :: (renderText v ++ afterMember ms r) := by
  cases ms with
  | nil =>
    rw [renderMembers, List.append_assoc]
    rfl
  | cons m ms =>
    rw [renderMembers, List.append_assoc, List.append_assoc]
    rfl
    · simp

mutual

lemma renderText_append_injective : ∀ (j j' : Json) {r r' : Str}, j.floatFree = true → j'.floatFree = true →
    NumeralEnds r → NumeralEnds r' → renderText j ++ r = renderText j' ++ r' → j = j' ∧ r = r'
  | .null, j', r, r', hj, hj', _, _, h => by
    have hform := form_eq_of_append hj hj' h
    rcases j' with _ | b' | (n' | n' | bits') | s' | xs' | ms' <;> try cases hform
    exact ⟨rfl, List.append_cancel_left h⟩
  | .bool b, j', r, r', hj, hj', _, _, h => by
    have hform := form_eq_of_append hj hj' h
    rcases j' with _ | b' | (n' | n' | bits') | s' | xs' | ms' <;> try cases hform
    rcases b with _ | _ <;> rcases b' with _ | _
    · exact ⟨rfl, List.append_cancel_left h⟩
    · exact absurd (List.cons.inj h).1 (by decide)
    · exact absurd (List.cons.inj h).1 (by decide)
    · exact ⟨rfl, List.append_cancel_left h⟩
  | .number (.posInt n), j', r, r', hj, hj', hr, hr', h => by
    have hform := form_eq_of_append hj hj' h
    rcases j' with _ | b' | (n' | n' | bits') | s' | xs' | ms' <;> try cases hform
    rw [renderText, renderText] at h
    obtain ⟨rfl, hrest⟩ := decimal_append_injective hr hr' h
    exact ⟨rfl, hrest⟩
  | .number (.negInt n), j', r, r', hj, hj', hr, hr', h => by
    have hform := form_eq_of_append hj hj' h
    rcases j' with _ | b' | (n' | n' | bits') | s' | xs' | ms' <;> try cases hform
    rw [renderText, renderText] at h
    obtain ⟨hn, hrest⟩ := decimal_append_injective hr hr' (List.cons.inj h).2
    obtain rfl := Nat.succ.inj hn
    exact ⟨rfl, hrest⟩
  | .number (.float _), _, _, _, hj, _, _, _, _ => by cases hj
  | .string s, j', r, r', hj, hj', _, _, h => by
    have hform := form_eq_of_append hj hj' h
    rcases j' with _ | b' | (n' | n' | bits') | s' | xs' | ms' <;> try cases hform
    rw [renderText, renderText] at h
    obtain ⟨rfl, hrest⟩ := quoteText_append_injective h
    exact ⟨rfl, hrest⟩
  | .array xs, j', r, r', hj, hj', _, _, h => by
    have hform := form_eq_of_append hj hj' h
    rcases j' with _ | b' | (n' | n' | bits') | s' | xs' | ms' <;> try cases hform
    rw [Json.floatFree] at hj hj'
    simp only [renderText, List.cons_append, List.append_assoc, List.nil_append, List.cons.injEq, true_and] at h
    obtain ⟨rfl, hrest⟩ := renderElems_append_injective xs xs' hj hj' h
    exact ⟨rfl, hrest⟩
  | .object ms, j', r, r', hj, hj', _, _, h => by
    have hform := form_eq_of_append hj hj' h
    rcases j' with _ | b' | (n' | n' | bits') | s' | xs' | ms' <;> try cases hform
    rw [Json.floatFree] at hj hj'
    simp only [renderText, List.cons_append, List.append_assoc, List.nil_append, List.cons.injEq, true_and] at h
    obtain ⟨rfl, hrest⟩ := renderMembers_append_injective ms ms' hj hj' h
    exact ⟨rfl, hrest⟩

lemma renderElems_append_injective : ∀ (xs xs' : List Json) {r r' : Str}, floatFreeElems xs = true →
    floatFreeElems xs' = true → renderElems xs ++ ']' :: r = renderElems xs' ++ ']' :: r' → xs = xs' ∧ r = r'
  | [], xs', r, r', _, hxs', h => by
    cases xs' with
    | nil => exact ⟨rfl, (List.cons.inj h).2⟩
    | cons x' xs' =>
      rw [renderElems_cons] at h
      rw [floatFreeElems, Bool.and_eq_true] at hxs'
      exact absurd h.symm (renderText_append_ne_close hxs'.1)
  | x :: xs, xs', r, r', hxs, hxs', h => by
    rw [floatFreeElems, Bool.and_eq_true] at hxs
    cases xs' with
    | nil =>
      rw [renderElems_cons] at h
      exact absurd h (renderText_append_ne_close hxs.1)
    | cons x' xs' =>
      rw [floatFreeElems, Bool.and_eq_true] at hxs'
      rw [renderElems_cons, renderElems_cons] at h
      obtain ⟨rfl, hafter⟩ := renderText_append_injective x x' hxs.1 hxs'.1 (ends_afterElem xs r)
        (ends_afterElem xs' r') h
      cases xs with
      | nil =>
        cases xs' with
        | nil => exact ⟨rfl, (List.cons.inj hafter).2⟩
        | cons y' ys' => exact absurd (List.cons.inj hafter).1 (by decide)
      | cons y ys =>
        cases xs' with
        | nil => exact absurd (List.cons.inj hafter).1 (by decide)
        | cons y' ys' =>
          obtain ⟨htail, hrest⟩ := renderElems_append_injective (y :: ys) (y' :: ys') hxs.2 hxs'.2
            (List.cons.inj hafter).2
          rw [htail]
          exact ⟨rfl, hrest⟩

lemma renderMembers_append_injective : ∀ (ms ms' : List (Str × Json)) {r r' : Str}, floatFreeMembers ms = true →
    floatFreeMembers ms' = true → renderMembers ms ++ '}' :: r = renderMembers ms' ++ '}' :: r' → ms = ms' ∧ r = r'
  | [], ms', r, r', _, _, h => by
    cases ms' with
    | nil => exact ⟨rfl, (List.cons.inj h).2⟩
    | cons m' ms' =>
      rw [renderMembers_cons] at h
      exact absurd (List.cons.inj h).1 (by decide)
  | (k, v) :: ms, ms', r, r', hms, hms', h => by
    rw [floatFreeMembers, Bool.and_eq_true] at hms
    cases ms' with
    | nil =>
      rw [renderMembers_cons] at h
      exact absurd (List.cons.inj h).1 (by decide)
    | cons m' ms' =>
      obtain ⟨k', v'⟩ := m'
      rw [floatFreeMembers, Bool.and_eq_true] at hms'
      rw [renderMembers_cons, renderMembers_cons] at h
      obtain ⟨rfl, hcolon⟩ := quoteText_append_injective h
      obtain ⟨rfl, hafter⟩ := renderText_append_injective v v' hms.1 hms'.1 (ends_afterMember ms r)
        (ends_afterMember ms' r') (List.cons.inj hcolon).2
      cases ms with
      | nil =>
        cases ms' with
        | nil => exact ⟨rfl, (List.cons.inj hafter).2⟩
        | cons n' ns' => exact absurd (List.cons.inj hafter).1 (by decide)
      | cons n ns =>
        cases ms' with
        | nil => exact absurd (List.cons.inj hafter).1 (by decide)
        | cons n' ns' =>
          obtain ⟨htail, hrest⟩ := renderMembers_append_injective (n :: ns) (n' :: ns') hms.2 hms'.2
            (List.cons.inj hafter).2
          rw [htail]
          exact ⟨rfl, hrest⟩

end

/-- **A tree is read back from its text.** -/
theorem renderText_injective {j j' : Json} (hj : j.floatFree = true) (hj' : j'.floatFree = true)
    (h : renderText j = renderText j') : j = j' := by
  have hends : NumeralEnds [] := by
    intro c t h
    cases h
  refine (renderText_append_injective j j' hj hj' hends hends ?_).1
  rw [h]

lemma floatFreeElems_iff {xs : List Json} : floatFreeElems xs = true ↔ ∀ x ∈ xs, x.floatFree = true := by
  induction xs with
  | nil => exact iff_of_true rfl fun _ hx => absurd hx List.not_mem_nil
  | cons x xs ih => rw [floatFreeElems, Bool.and_eq_true, ih, List.forall_mem_cons]

lemma floatFreeMembers_iff {ms : List (Str × Json)} :
    floatFreeMembers ms = true ↔ ∀ m ∈ ms, m.2.floatFree = true := by
  induction ms with
  | nil => exact iff_of_true rfl fun _ hm => absurd hm List.not_mem_nil
  | cons m ms ih =>
    obtain ⟨k, v⟩ := m
    rw [floatFreeMembers, Bool.and_eq_true, ih, List.forall_mem_cons]

/-- The members of a struct some of whose fields may be left out. -/
def writtenMembers (fields : List (Str × Option Json)) : List (Str × Json) :=
  fields.filterMap fun f => f.2.map fun j => (f.1, j)

lemma mem_writtenMembers {fields : List (Str × Option Json)} {m : Str × Json} :
    m ∈ writtenMembers fields ↔ (m.1, some m.2) ∈ fields := by
  obtain ⟨name, j⟩ := m
  simp only [writtenMembers, List.mem_filterMap, Option.map_eq_some_iff, Prod.mk.injEq, Prod.exists]
  constructor
  · rintro ⟨_, _, hmem, _, rfl, rfl, rfl⟩
    exact hmem
  · intro hmem
    exact ⟨name, some j, hmem, j, rfl, rfl, rfl⟩

/-- **Fields that may be left out are read back**, since they come in one order under names of their own. -/
theorem writtenMembers_injective {fields fields' : List (Str × Option Json)}
    (hnames : fields.map Prod.fst = fields'.map Prod.fst) (hnodup : (fields.map Prod.fst).Nodup)
    (h : writtenMembers fields = writtenMembers fields') : fields = fields' := by
  induction fields generalizing fields' with
  | nil =>
    cases fields' with
    | nil => rfl
    | cons f' fields' => cases hnames
  | cons f fields ih =>
    cases fields' with
    | nil => cases hnames
    | cons f' fields' =>
      obtain ⟨name, o⟩ := f
      obtain ⟨name', o'⟩ := f'
      obtain ⟨hname, htail⟩ := List.cons.inj hnames
      obtain rfl : name = name' := hname
      obtain ⟨hfresh, hrestNodup⟩ := List.nodup_cons.mp hnodup
      -- a member of this name is not one of the fields behind
      have hother : ∀ (gs : List (Str × Option Json)) (j : Json) (rest : List (Str × Json)),
          gs.map Prod.fst = fields.map Prod.fst → writtenMembers gs ≠ (name, j) :: rest := by
        intro gs j rest hgs heq
        have hmem : (name, j) ∈ writtenMembers gs := heq ▸ List.mem_cons_self
        have hname : name ∈ gs.map Prod.fst := List.mem_map.mpr ⟨_, mem_writtenMembers.mp hmem, rfl⟩
        rw [hgs] at hname
        exact hfresh hname
      rcases o with _ | j
      · rcases o' with _ | j'
        · rw [ih htail hrestNodup h]
        · exact absurd h (hother fields j' _ rfl)
      · rcases o' with _ | j'
        · exact absurd h.symm (hother fields' j _ htail.symm)
        · obtain ⟨hhead, hrest⟩ := List.cons.inj h
          rw [ih htail hrestNodup hrest, (Prod.mk.inj hhead).2]

end TeechatOpenapi.Lib
