import TeechatOpenapi.Lib.Text

/-!
# Paths as they are spelled

A path is a text, and its segments are what stands between slashes; some may be empty, `.` or `..`.
-/

namespace TeechatOpenapi.Lib

/-- What stands between the slashes of a text. -/
def segments (s : Str) : List Str := s.splitOn '/'

lemma segments_append (d t : Str) : segments (d ++ '/' :: t) = segments d ++ segments t :=
  List.splitOnP_append_cons d t (beq_self_eq_true '/')

lemma segments_of_notMem {s : Str} (h : '/' ∉ s) : segments s = [s] := List.splitOn_eq_singleton h

lemma segments_ne_nil (s : Str) : segments s ≠ [] := List.splitOn_ne_nil _ _

lemma intercalate_segments (s : Str) : ['/'].intercalate (segments s) = s := List.intercalate_splitOn '/'

lemma segments_injective : Function.Injective segments := by
  intro s t h
  rw [← intercalate_segments s, h, intercalate_segments]

lemma intercalate_append_cons (a : List Str) (ha : a ≠ []) (x : Str) (b : List Str) :
    ['/'].intercalate (a ++ x :: b) = ['/'].intercalate a ++ '/' :: ['/'].intercalate (x :: b) := by
  induction a with
  | nil => exact absurd rfl ha
  | cons y a ih =>
    cases a with
    | nil =>
      rw [List.singleton_append, List.intercalate_cons_cons, List.intercalate_singleton, List.append_assoc]
      rfl
    | cons z a =>
      rw [List.cons_append, List.cons_append, List.intercalate_cons_cons, ← List.cons_append,
        ih (List.cons_ne_nil z a), List.intercalate_cons_cons, List.append_assoc, List.append_assoc, List.append_assoc]

lemma slash_prefix_iff {d s : Str} :
    d ++ ['/'] <+: s ↔ ∃ next rest, segments s = segments d ++ next :: rest := by
  constructor
  · rintro ⟨t, rfl⟩
    obtain ⟨next, rest, hsegs⟩ := List.exists_cons_of_ne_nil (segments_ne_nil t)
    refine ⟨next, rest, ?_⟩
    rw [List.append_assoc, ← hsegs]
    exact segments_append d t
  · rintro ⟨next, rest, hsegs⟩
    have hs := intercalate_segments s
    rw [hsegs, intercalate_append_cons _ (segments_ne_nil d), intercalate_segments] at hs
    exact ⟨_, by rw [← hs, List.append_assoc]; rfl⟩

lemma at_or_under_iff {d s : Str} : s = d ∨ d ++ ['/'] <+: s ↔ segments d <+: segments s := by
  rw [slash_prefix_iff]
  constructor
  · rintro (rfl | ⟨next, rest, hsegs⟩)
    · exact List.prefix_rfl
    · exact ⟨_, hsegs.symm⟩
  · rintro ⟨more, hmore⟩
    cases more with
    | nil => exact Or.inl (segments_injective (by rw [← hmore, List.append_nil]))
    | cons next rest => exact Or.inr ⟨next, rest, hmore.symm⟩

/-- One segment of a path, behind the names that it has led through: an empty one and `.` stay, `..` goes back. -/
def resolve (names : List Str) (segment : Str) : List Str :=
  if segment = [] ∨ segment = "." then names
  else if segment = ".." then names.dropLast
  else names ++ [segment]

/-- The names that an absolute path leads through; there are none above the root. -/
def lexical (s : Str) : Option (List Str) :=
  if s.head? = some '/' then some ((segments s).foldl resolve []) else none

/-- A name that a segment of a path can be. -/
structure IsName (name : Str) : Prop where
  nonempty : name ≠ []
  notDot : name ≠ "."
  notDots : name ≠ ".."
  noSlash : '/' ∉ name

/-- The path that is spelled by some names. -/
def absolute (names : List Str) : Str := names.flatMap ('/' :: ·)

lemma segments_absolute {names : List Str} (h : ∀ name ∈ names, '/' ∉ name) (hne : names ≠ []) :
    segments (absolute names) = [] :: names := by
  have hslash (t : Str) : segments ('/' :: t) = [] :: segments t := segments_append [] t
  cases names with
  | nil => exact absurd rfl hne
  | cons name names =>
    rw [absolute, List.flatMap_cons, List.cons_append, hslash]
    congr 1
    clear hne
    induction names generalizing name with
    | nil => rw [List.flatMap_nil, List.append_nil, segments_of_notMem (h name List.mem_cons_self)]
    | cons next names ih =>
      rw [List.flatMap_cons, List.cons_append, segments_append, segments_of_notMem (h name List.mem_cons_self),
        ih next fun other hother => h other (List.mem_cons_of_mem name hother)]
      rfl

lemma foldl_resolve {names : List Str} (h : ∀ name ∈ names, IsName name) (before : List Str) :
    names.foldl resolve before = before ++ names := by
  induction names generalizing before with
  | nil => rw [List.foldl_nil, List.append_nil]
  | cons name names ih =>
    obtain ⟨hname, hnames⟩ := List.forall_mem_cons.mp h
    have hstay : ¬ (name = [] ∨ name = ".") := not_or.mpr ⟨hname.nonempty, hname.notDot⟩
    rw [List.foldl_cons, resolve, if_neg hstay, if_neg hname.notDots, ih hnames, List.append_assoc]
    rfl

lemma lexical_absolute {names : List Str} (h : ∀ name ∈ names, IsName name) (hne : names ≠ []) :
    lexical (absolute names) = some names := by
  have hhead : (absolute names).head? = some '/' := by
    cases names with
    | nil => exact absurd rfl hne
    | cons name names => rfl
  rw [lexical, if_pos hhead, segments_absolute (fun name hname => (h name hname).noSlash) hne, List.foldl_cons,
    resolve, if_pos (Or.inl rfl), foldl_resolve h, List.nil_append]

end TeechatOpenapi.Lib
