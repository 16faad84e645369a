import Mathlib.Data.Char
import Mathlib.Data.Prod.Lex
import TeechatOpenapi.Lib.Files
import TeechatOpenapi.Lib.Ordered

/-!
# A tree of files, directories and symbolic links

A path is a list of components, and paths are compared component by component.  A path leads to a location through
directories and links (`walk`); a location is the list of names from the root on.
-/

namespace TeechatOpenapi.Lib

/-! ## Paths -/

/-- A component of a path. -/
inductive Component where
  | rootDir
  | curDir
  | parentDir
  | normal (name : Str)
  deriving DecidableEq

namespace Component

/-- The order of the constructors, then that of the names. -/
def rank : Component → ℕ ×ₗ Str
  | rootDir => toLex (0, [])
  | curDir => toLex (1, [])
  | parentDir => toLex (2, [])
  | normal name => toLex (3, name)

lemma rank_injective : Function.Injective rank := by
  intro c c' h
  cases c <;> cases c' <;> simp_all [rank]

instance : LinearOrder Component := LinearOrder.lift' rank rank_injective

lemma normal_lt {a b : Str} (h : a < b) : normal a < normal b := by
  change toLex (3, a) < toLex (3, b)
  exact Prod.Lex.toLex_lt_toLex.mpr (Or.inr ⟨rfl, h⟩)

/-- The text of a component in a path. -/
def text : Component → Str
  | rootDir => []
  | curDir => "."
  | parentDir => ".."
  | normal name => name

end Component

abbrev Path := List Component

namespace Path

/-- `Path::join` of a name. -/
def join (p : Path) (name : Str) : Path := p ++ [.normal name]

def display (p : Path) : Str := List.intercalate ['/'] (p.map Component.text)

/-- The path of a location. -/
def ofLocation (names : List Str) : Path := .rootDir :: names.map .normal

lemma branch_lt {p r s : Path} {a b : Str} (h : a < b) : p ++ .normal a :: r < p ++ .normal b :: s :=
  List.Lex.append_left _ (List.Lex.rel (Component.normal_lt h)) p

lemma name_le_of_join_le {p : Path} {a b : Str} (h : p.join a ≤ p.join b) : a ≤ b :=
  not_lt.mp fun hlt => not_lt.mpr h (branch_lt hlt)

end Path

/-! ## The tree -/

/-- The names from the root to a place in the tree. -/
abbrev Location := List Str

/-- What stands at a location. -/
inductive Node where
  | dir
  | file (content : Bytes)
  | link (target : Path)
  deriving DecidableEq

/-- A tree, as its entries; the first one of a location counts. -/
structure FileTree where
  entries : List (Location × Node)

variable {follow : Location → Path → Option Location} {links : Nat} {name : Str} {d : Location}

variable {follow' : Location → Path → Option Location} {n : Node}

namespace FileTree

/-- What stands at a location; the root is a directory. -/
def node (t : FileTree) (l : Location) : Option Node := if l = [] then some .dir else t.entries.lookup l

/-- The tree with `n` at `l`. -/
def set (t : FileTree) (l : Location) (n : Node) : FileTree := ⟨(l, n) :: t.entries⟩

/-- The tree without what stands at `l`. -/
def remove (t : FileTree) (l : Location) : FileTree := ⟨t.entries.filter fun e => e.1 ≠ l⟩

/-- The names in a directory. -/
def names (t : FileTree) (dir : Location) : List Str :=
  (t.entries.filter fun e => e.1.dropLast = dir).filterMap fun e => e.1.getLast?

section Nodes

variable {t : FileTree} {l l' : Location}

lemma node_set_self (h : l ≠ []) : (t.set l n).node l = some n := by
  rw [node, if_neg h]
  exact List.lookup_cons_self

lemma node_set_other (h : l' ≠ l) : (t.set l n).node l' = t.node l' := by
  have hbeq : (l' == l) = false := beq_eq_false_iff_ne.mpr h
  rw [node, node, set, List.lookup_cons, hbeq]

lemma lookup_filter (entries : List (Location × Node)) (l l' : Location) :
    (entries.filter fun e => e.1 ≠ l).lookup l' = if l' = l then none else entries.lookup l' := by
  induction entries with
  | nil =>
    rw [List.filter_nil, List.lookup_nil, ite_self]
  | cons e entries ih =>
    obtain ⟨place, n⟩ := e
    by_cases hplace : place = l
    · rw [List.filter_cons_of_neg (by simp [hplace]), ih, List.lookup_cons, hplace]
      by_cases hl : l' = l
      · rw [if_pos hl, if_pos hl]
      · rw [if_neg hl, if_neg hl, beq_eq_false_iff_ne.mpr hl]
    · rw [List.filter_cons_of_pos (by simp [hplace]), List.lookup_cons, List.lookup_cons, ih]
      by_cases hl : l' = place
      · have hne : l' ≠ l := hl ▸ hplace
        rw [if_neg hne, if_neg hne]
      · rw [beq_eq_false_iff_ne.mpr hl]

lemma node_remove_self (h : l ≠ []) : (t.remove l).node l = none := by
  rw [node, if_neg h, remove, lookup_filter, if_pos rfl]

lemma node_remove_other (h : l' ≠ l) : (t.remove l).node l' = t.node l' := by
  rw [node, node, remove, lookup_filter, if_neg h]

lemma mem_names : name ∈ t.names d ↔ t.node (d ++ [name]) ≠ none := by
  have hne : d ++ [name] ≠ [] := List.append_ne_nil_of_right_ne_nil d (List.cons_ne_nil _ _)
  rw [node, if_neg hne, names, ne_eq, List.lookup_eq_none_iff, not_forall, List.mem_filterMap]
  constructor
  · rintro ⟨⟨place, n⟩, hmem, hlast⟩
    obtain ⟨hentry, hdir⟩ := List.mem_filter.mp hmem
    have hplace : d ++ [name] = place := by
      rw [← of_decide_eq_true hdir]
      exact List.dropLast_append_getLast? name hlast
    refine ⟨(place, n), ?_⟩
    simp [hentry, hplace]
  · rintro ⟨⟨place, n⟩, h⟩
    obtain ⟨hentry, hplace⟩ : (place, n) ∈ t.entries ∧ d ++ [name] = place := by simpa using h
    refine ⟨(place, n), List.mem_filter.mpr ⟨hentry, decide_eq_true ?_⟩, ?_⟩
    · rw [← hplace, List.dropLast_concat]
    · rw [← hplace, List.getLast?_concat]

end Nodes

/-! ## Following a path -/

/-- Follows a path from a directory on.  What to do at a link is given; with `create` the last name may be missing. -/
def walkWith (t : FileTree) (create : Bool) (follow : Location → Path → Option Location) :
    Location → Path → Option Location
  | here, [] => some here
  | _, .rootDir :: rest => walkWith t create follow [] rest
  | here, .curDir :: rest => walkWith t create follow here rest
  | here, .parentDir :: rest => walkWith t create follow here.dropLast rest
  | here, .normal name :: rest =>
    match t.node (here ++ [name]) with
    | none => if create ∧ rest = [] then some (here ++ [name]) else none
    | some .dir => walkWith t create follow (here ++ [name]) rest
    | some (.file _) => if rest = [] then some (here ++ [name]) else none
    | some (.link target) => follow here (target ++ rest)

/-- Follows a path through at most `links` links. -/
def walk (t : FileTree) (create : Bool) : (links : Nat) → Location → Path → Option Location
  | 0 => t.walkWith create fun _ _ => none
  | links + 1 => t.walkWith create (t.walk create links)

/-- A directory, in directories up to the root. -/
def InDirs (t : FileTree) (l : Location) : Prop := ∀ q, q <+: l → t.node q = some .dir

/-- A directory or a file, in directories up to the root. -/
def Reached (t : FileTree) (l : Location) : Prop :=
  t.InDirs l ∨ ∃ d name content, l = d ++ [name] ∧ t.InDirs d ∧ t.node l = some (.file content)

section Walk

variable {t : FileTree} {here l : Location}

lemma InDirs.nil : t.InDirs [] := by
  intro q hq
  rw [List.prefix_nil.mp hq]
  rfl

lemma InDirs.dropLast (h : t.InDirs here) : t.InDirs here.dropLast :=
  fun q hq => h q (hq.trans (List.dropLast_prefix here))

lemma InDirs.concat (h : t.InDirs here) (hname : t.node (here ++ [name]) = some .dir) :
    t.InDirs (here ++ [name]) := by
  intro q hq
  rcases List.prefix_concat_iff.mp hq with rfl | hq
  · exact hname
  · exact h q hq

lemma InDirs.node (h : t.InDirs l) : t.node l = some .dir := h l (List.prefix_refl l)

variable {p : Path}

lemma walkWith_reached
    (hfollow : ∀ here p l, t.InDirs here → follow here p = some l → t.Reached l) (hhere : t.InDirs here)
    (h : t.walkWith false follow here p = some l) : t.Reached l := by
  induction p generalizing here with
  | nil =>
    obtain rfl := Option.some.inj h
    exact Or.inl hhere
  | cons c rest ih =>
    cases c with
    | rootDir => exact ih InDirs.nil h
    | curDir => exact ih hhere h
    | parentDir => exact ih hhere.dropLast h
    | normal name =>
      rw [walkWith] at h
      split at h
      next => simp at h
      next hdir => exact ih (hhere.concat hdir) h
      next content hfile =>
        split_ifs at h
        obtain rfl := Option.some.inj h
        exact Or.inr ⟨here, name, content, rfl, hhere, hfile⟩
      next => exact hfollow _ _ _ hhere h

/-- **A path leads through directories**, to one more or to a file. -/
theorem walk_reached (hhere : t.InDirs here) (h : t.walk false links here p = some l) :
    t.Reached l := by
  induction links generalizing here p l with
  | zero => exact walkWith_reached (fun _ _ _ _ h => absurd h (Option.some_ne_none _).symm) hhere h
  | succ links ih => exact walkWith_reached (fun _ _ _ hhere h => ih hhere h) hhere h

lemma walkWith_names {create : Bool} {names : List Str}
    (h : t.InDirs (here ++ names)) : t.walkWith create follow here (names.map .normal) = some (here ++ names) := by
  induction names generalizing here with
  | nil => rw [List.append_nil]; rfl
  | cons name names ih =>
    have hassoc : here ++ name :: names = (here ++ [name]) ++ names := by rw [List.append_assoc]; rfl
    rw [hassoc] at h ⊢
    rw [List.map_cons, walkWith, h (here ++ [name]) (List.prefix_append _ _)]
    exact ih h

lemma walk_ofLocation {create : Bool} (h : t.InDirs l) :
    t.walk create links here (Path.ofLocation l) = some l := by
  have hnames : ∀ follow, t.walkWith create follow [] (l.map .normal) = some l := fun _ => walkWith_names h
  cases links with
  | zero => exact hnames _
  | succ links => exact hnames _

lemma walkWith_join {content : Bytes}
    (hdir : t.node d = some .dir) (hfile : t.node (d ++ [name]) = some (.file content))
    (hfollow : ∀ here p, follow here p = some d → follow here (p.join name) = some (d ++ [name]))
    (h : t.walkWith false follow here p = some d) :
    t.walkWith false follow here (p.join name) = some (d ++ [name]) := by
  induction p generalizing here with
  | nil =>
    obtain rfl := Option.some.inj h
    rw [Path.join, List.nil_append, walkWith, hfile]
    rfl
  | cons c rest ih =>
    rw [Path.join, List.cons_append]
    cases c with
    | rootDir => exact ih h
    | curDir => exact ih h
    | parentDir => exact ih h
    | normal name' =>
      rw [walkWith] at h ⊢
      split at h
      next => simp at h
      next => exact ih h
      next content' hfile' =>
        split_ifs at h
        obtain rfl := Option.some.inj h
        rw [hfile'] at hdir
        cases hdir
      next =>
        have hjoin := hfollow _ _ h
        rwa [Path.join, List.append_assoc] at hjoin

/-- **A path into a directory leads to the files in it.** -/
theorem walk_join {content : Bytes} (hdir : t.node d = some .dir)
    (hfile : t.node (d ++ [name]) = some (.file content)) (h : t.walk false links here p = some d) :
    t.walk false links here (p.join name) = some (d ++ [name]) := by
  induction links generalizing here p with
  | zero => exact walkWith_join hdir hfile (fun _ _ h => absurd h (Option.some_ne_none _).symm) h
  | succ links ih => exact walkWith_join hdir hfile (fun _ _ h => ih h) h

lemma walkWith_of_join (hfollow : ∀ here p l, follow here (p.join name) = some l →
      ∃ d, follow here p = some d ∧ t.node (d ++ [name]) ≠ none)
    (h : t.walkWith false follow here (p.join name) = some l) :
    ∃ d, t.walkWith false follow here p = some d ∧ t.node (d ++ [name]) ≠ none := by
  induction p generalizing here with
  | nil =>
    refine ⟨here, rfl, fun hnone => ?_⟩
    rw [Path.join, List.nil_append, walkWith, hnone] at h
    simp at h
  | cons c rest ih =>
    rw [Path.join, List.cons_append] at h
    cases c with
    | rootDir => exact ih h
    | curDir => exact ih h
    | parentDir => exact ih h
    | normal name' =>
      rw [walkWith] at h ⊢
      split at h
      next => simp at h
      next => exact ih h
      next => simp at h
      next target hlink =>
        rw [← List.append_assoc] at h
        exact hfollow _ _ _ h

/-- **A path that leads somewhere has a parent that leads there**, to a directory that has the name. -/
theorem walk_of_join (h : t.walk false links here (p.join name) = some l) :
    ∃ d, t.walk false links here p = some d ∧ t.node (d ++ [name]) ≠ none := by
  induction links generalizing here p l with
  | zero => exact walkWith_of_join (fun _ _ _ h => absurd h (Option.some_ne_none _).symm) h
  | succ links ih =>
    have hfollow : ∀ here p l, t.walk false links here (Path.join p name) = some l →
        ∃ d, t.walk false links here p = some d ∧ t.node (d ++ [name]) ≠ none := fun _ _ _ hl => ih hl
    exact walkWith_of_join hfollow h

end Walk

/-! ## Changes that leave the paths -/

/-- `t'` has the directories and the links of `t`. -/
structure Keeps (t t' : FileTree) : Prop where
  dir : ∀ l, t.node l = some .dir → t'.node l = some .dir
  link : ∀ l target, t.node l = some (.link target) → t'.node l = some (.link target)

section Keeps

variable {t t' t'' : FileTree} {here l : Location}

lemma Keeps.refl (t : FileTree) : t.Keeps t := ⟨fun _ h => h, fun _ _ h => h⟩

lemma Keeps.trans (h : t.Keeps t') (h' : t'.Keeps t'') : t.Keeps t'' :=
  ⟨fun l hl => h'.dir l (h.dir l hl), fun l target hl => h'.link l target (h.link l target hl)⟩

/-- A change at a location where neither a directory nor a link stands. -/
lemma Keeps.of_change (hother : ∀ l', l' ≠ l → t'.node l' = t.node l') (hdir : t.node l ≠ some .dir)
    (hlink : ∀ target, t.node l ≠ some (.link target)) : t.Keeps t' where
  dir l' h := by
    rw [hother l' fun heq => hdir (heq ▸ h)]
    exact h
  link l' target h := by
    rw [hother l' fun heq => hlink target (heq ▸ h)]
    exact h

/-- Where a path that led to `l` leads after a change: to a directory as before, to a file while it is there. -/
structure LeadsStill (t t' : FileTree) (l : Location) (now : Option Location) : Prop where
  dir : t.node l = some .dir → now = some l
  file : ∀ content, t.node l = some (.file content) → ∀ content', t'.node l = some (.file content') → now = some l
  gone : ∀ content, t.node l = some (.file content) → t'.node l = none → now = none

lemma walkWith_keeps (hkeeps : t.Keeps t')
    (hfollow : ∀ here p l, t.InDirs here → follow here p = some l → LeadsStill t t' l (follow' here p)) {p : Path}
    (hhere : t.InDirs here) (h : t.walkWith false follow here p = some l) :
    LeadsStill t t' l (t'.walkWith false follow' here p) := by
  induction p generalizing here with
  | nil =>
    obtain rfl := Option.some.inj h
    refine ⟨fun _ => rfl, fun _ _ _ _ => rfl, ?_⟩
    intro content hfile
    rw [hhere.node] at hfile
    cases hfile
  | cons c rest ih =>
    cases c with
    | rootDir => exact ih InDirs.nil h
    | curDir => exact ih hhere h
    | parentDir => exact ih hhere.dropLast h
    | normal name =>
      rw [walkWith] at h ⊢
      split at h
      next => simp at h
      next hdir =>
        rw [hkeeps.dir _ hdir]
        exact ih (hhere.concat hdir) h
      next content hfile =>
        split_ifs at h with hrest
        obtain rfl := Option.some.inj h
        subst hrest
        refine ⟨?_, ?_, ?_⟩
        · intro hdir
          rw [hfile] at hdir
          cases hdir
        · intro _ _ content' hfile'
          rw [hfile']
          rfl
        · intro _ _ hnone
          rw [hnone]
          rfl
      next target hlink =>
        rw [hkeeps.link _ _ hlink]
        exact hfollow _ _ _ hhere h

/-- **A path leads to the same place** while directories and links stay as they are. -/
theorem walk_keeps (hkeeps : t.Keeps t') {p : Path} (hhere : t.InDirs here)
    (h : t.walk false links here p = some l) : LeadsStill t t' l (t'.walk false links here p) := by
  induction links generalizing here p l with
  | zero =>
    exact walkWith_keeps hkeeps (fun _ _ _ _ h => absurd h (Option.some_ne_none _).symm) hhere h
  | succ links ih => exact walkWith_keeps hkeeps (fun _ _ _ hhere h => ih hhere h) hhere h

end Keeps

/-- Directories and files were added, links were not. -/
structure Grown (t t' : FileTree) : Prop extends Keeps t t' where
  links : ∀ l target, t'.node l = some (.link target) → t.node l = some (.link target)

section Grown

variable {t t' t'' : FileTree} {here l : Location}

lemma Grown.refl (t : FileTree) : t.Grown t := ⟨Keeps.refl t, fun _ _ h => h⟩

lemma Grown.trans (h : t.Grown t') (h' : t'.Grown t'') : t.Grown t'' :=
  ⟨h.toKeeps.trans h'.toKeeps, fun l target hl => h.links l target (h'.links l target hl)⟩

lemma Keeps.inDirs (h : t.Keeps t') (hl : t.InDirs l) : t'.InDirs l := fun q hq => h.dir q (hl q hq)

variable {p : Path}

lemma walkWith_created (hkeeps : t.Keeps t') {content : Bytes} (hfile : t'.node l = some (.file content))
    (hfollow : ∀ here p, follow here p = some l → follow' here p = some l)
    (h : t.walkWith true follow here p = some l) : t'.walkWith false follow' here p = some l := by
  induction p generalizing here with
  | nil => exact h
  | cons c rest ih =>
    cases c with
    | rootDir => exact ih h
    | curDir => exact ih h
    | parentDir => exact ih h
    | normal name =>
      rw [walkWith] at h ⊢
      split at h
      next =>
        split_ifs at h with hrest
        obtain rfl := Option.some.inj h
        rw [hfile, hrest.2]
        rfl
      next hdir =>
        rw [hkeeps.dir _ hdir]
        exact ih h
      next =>
        split_ifs at h with hrest
        obtain rfl := Option.some.inj h
        rw [hfile, hrest]
        rfl
      next target hlink =>
        rw [hkeeps.link _ _ hlink]
        exact hfollow _ _ h

lemma walk_created (hkeeps : t.Keeps t') {content : Bytes} (hfile : t'.node l = some (.file content))
    (h : t.walk true links here p = some l) : t'.walk false links here p = some l := by
  induction links generalizing here p with
  | zero => exact walkWith_created hkeeps hfile (fun _ _ h => absurd h (Option.some_ne_none _).symm) h
  | succ links ih => exact walkWith_created hkeeps hfile (fun _ _ h => ih h) h

lemma walkWith_create
    (hfollow : ∀ here p, follow here p = some l → follow' here p = some l)
    (h : t.walkWith false follow here p = some l) : t.walkWith true follow' here p = some l := by
  induction p generalizing here with
  | nil => exact h
  | cons c rest ih =>
    cases c with
    | rootDir => exact ih h
    | curDir => exact ih h
    | parentDir => exact ih h
    | normal name =>
      rw [walkWith] at h ⊢
      split at h
      next => simp at h
      next => exact ih h
      next => exact h
      next => exact hfollow _ _ h

lemma walk_create (h : t.walk false links here p = some l) :
    t.walk true links here p = some l := by
  induction links generalizing here p with
  | zero => exact walkWith_create (fun _ _ h => absurd h (Option.some_ne_none _).symm) h
  | succ links ih => exact walkWith_create (fun _ _ h => ih h) h

lemma walk_place (hgrown : t.Grown t') (hdir : t.InDirs d)
    (hlink : ∀ target, t.node (d ++ [name]) ≠ some (.link target))
    (h : t'.walk true links here (Path.ofLocation (d ++ [name])) = some l) : l = d ++ [name] := by
  have hsplit : Path.ofLocation (d ++ [name]) = .rootDir :: (d.map .normal ++ [.normal name]) := by
    rw [Path.ofLocation, List.map_append]
    rfl
  have hlast : ∀ follow : Location → Path → Option Location, ∀ here names, t'.InDirs (here ++ names) →
      here ++ names = d → t'.walkWith true follow here (names.map .normal ++ [.normal name]) = some l →
      l = d ++ [name] := by
    intro follow here names hin heq hwalk
    induction names generalizing here with
    | nil =>
      rw [List.append_nil] at heq
      subst heq
      rw [List.map_nil, List.nil_append, walkWith] at hwalk
      split at hwalk
      next => exact (Option.some.inj hwalk).symm
      next => exact (Option.some.inj hwalk).symm
      next => exact (Option.some.inj hwalk).symm
      next target hnow => exact absurd (hgrown.links _ _ hnow) (hlink target)
    | cons first names ih =>
      have hassoc : here ++ first :: names = (here ++ [first]) ++ names := by rw [List.append_assoc]; rfl
      rw [hassoc] at hin heq
      rw [List.map_cons, List.cons_append, walkWith, hin (here ++ [first]) (List.prefix_append _ _)] at hwalk
      exact ih _ hin heq hwalk
  rw [hsplit] at h
  have hin : t'.InDirs ([] ++ d) := hgrown.inDirs hdir
  cases links with
  | zero => exact hlast _ [] d hin rfl h
  | succ links => exact hlast _ [] d hin rfl h

end Grown

/-! ## Operations -/

/-- How many links are followed. -/
def maxLinks : Nat := 40

/-- `fs::canonicalize`: where a path leads. -/
def canonicalize (t : FileTree) (cwd : Location) (p : Path) : Option Location := t.walk false maxLinks cwd p

def notFound : Str := "No such file or directory (os error 2)"

def isADirectory : Str := "Is a directory (os error 21)"

def read (t : FileTree) (cwd : Location) (p : Path) : Except Str Bytes :=
  match t.canonicalize cwd p with
  | none => .error notFound
  | some l =>
    match t.node l with
    | some (.file content) => .ok content
    | _ => .error isADirectory

def pathExists (t : FileTree) (cwd : Location) (p : Path) : Bool := (t.canonicalize cwd p).isSome

def isFile (t : FileTree) (cwd : Location) (p : Path) : Bool := (toOption (t.read cwd p)).isSome

/-- How a `fs::create_dir_all` goes: the directories that were made, and the result. -/
structure MkdirOutcome where
  made : List Location
  result : Except Str Unit

/-- Directories are made where nothing stands. -/
def makeDirs (t : FileTree) (made : List Location) : FileTree :=
  made.foldl (fun t l => if t.node l = none then t.set l .dir else t) t

def createDirAll (o : MkdirOutcome) : Op FileTree Str Unit := fun t => (o.result, t.makeDirs o.made)

/-- `fs::write`: the file is created, or emptied and filled again. -/
def write (cwd : Location) (p : Path) (content : Bytes) (o : WriteOutcome) : Op FileTree Str Unit := fun t =>
  match (o.contents content).getLast? with
  | none => (o.result, t)
  | some left =>
    match t.walk true maxLinks cwd p with
    | none => (.error notFound, t)
    | some l =>
      match t.node l with
      | none => (o.result, t.set l (.file left))
      | some (.file _) => (o.result, t.set l (.file left))
      | some _ => (.error isADirectory, t)

/-- The entry that a path names, without following a link there. -/
def place (t : FileTree) (cwd : Location) (p : Path) : Option Location :=
  match p.getLast? with
  | some (.normal name) => (t.canonicalize cwd p.dropLast).map (· ++ [name])
  | _ => none

def removeFile (cwd : Location) (p : Path) (o : Except Str Unit) : Op FileTree Str Unit := fun t =>
  match o with
  | .error e => (.error e, t)
  | .ok () =>
    match t.place cwd p with
    | none => (.error notFound, t)
    | some l =>
      match t.node l with
      | none => (.error notFound, t)
      | some .dir => (.error isADirectory, t)
      | some _ => (.ok (), t.remove l)

section Operations

variable {t t' : FileTree} {cwd l : Location} {p : Path} {content : Bytes}

lemma read_eq_ok : t.read cwd p = .ok content ↔
    ∃ l, t.canonicalize cwd p = some l ∧ t.node l = some (.file content) := by
  unfold read
  constructor
  · intro h
    split at h
    next => cases h
    next l hl =>
      split at h
      next content' hfile =>
        obtain rfl := Except.ok.inj h
        exact ⟨l, hl, hfile⟩
      next => cases h
  · rintro ⟨l, hl, hfile⟩
    rw [hl]
    simp only [hfile]

lemma Grown.of_set (hl : t.node l = none ∨ ∃ content, t.node l = some (.file content))
    (hn : ∀ target, n ≠ .link target) : t.Grown (t.set l n) := by
  have hne : l ≠ [] := by
    rintro rfl
    rcases hl with hl | ⟨_, hl⟩ <;> cases hl
  refine ⟨Keeps.of_change (fun l' h => node_set_other h) ?_ ?_, ?_⟩
  · rcases hl with hl | ⟨_, hl⟩ <;> rw [hl] <;> simp
  · rcases hl with hl | ⟨_, hl⟩ <;> rw [hl] <;> simp
  · intro l' target h
    by_cases heq : l' = l
    · subst heq
      rw [node_set_self hne] at h
      exact absurd (Option.some.inj h) (hn target)
    · rwa [node_set_other heq] at h

lemma makeDirs_spec (t : FileTree) (made : List Location) :
    t.Grown (t.makeDirs made) ∧ ∀ l, t.node l ≠ none → (t.makeDirs made).node l = t.node l := by
  induction made generalizing t with
  | nil => exact ⟨Grown.refl t, fun _ _ => rfl⟩
  | cons place made ih =>
    obtain ⟨hgrown, hsame⟩ := ih (if t.node place = none then t.set place .dir else t)
    by_cases hplace : t.node place = none
    · simp only [if_pos hplace] at hgrown hsame
      have hset : t.Grown (t.set place .dir) := Grown.of_set (Or.inl hplace) (by simp)
      have hrun : t.makeDirs (place :: made) = (t.set place .dir).makeDirs made := by
        rw [makeDirs, List.foldl_cons, if_pos hplace]
        rfl
      rw [hrun]
      refine ⟨hset.trans hgrown, ?_⟩
      intro l hl
      have hother : (t.set place .dir).node l = t.node l := node_set_other fun heq => hl (heq ▸ hplace)
      rw [hsame l (hother ▸ hl), hother]
    · simp only [if_neg hplace] at hgrown hsame
      have hrun : t.makeDirs (place :: made) = t.makeDirs made := by
        rw [makeDirs, List.foldl_cons, if_neg hplace]
        rfl
      rw [hrun]
      exact ⟨hgrown, hsame⟩

/-- **A write** leaves the tree, or puts something into the file that the path names; without an error the whole
content. -/
theorem write_run {o : WriteOutcome} {r : Except Str Unit} (h : write cwd p content o t = (r, t')) :
    (t' = t ∧ r ≠ .ok ()) ∨ ∃ l left, t.walk true maxLinks cwd p = some l ∧
      (t.node l = none ∨ ∃ content, t.node l = some (.file content)) ∧ t' = t.set l (.file left) ∧
      (r = .ok () → left = content) := by
  have hleft : ∀ left, (o.contents content).getLast? = some left → o.result = .ok () → left = content := by
    intro left hlast hok
    cases o with
    | stored seen =>
      rw [WriteOutcome.contents, ← List.cons_append, List.getLast?_concat] at hlast
      exact (Option.some.inj hlast).symm
    | refused e => cases hok
    | cut seen e => cases hok
  have hrefused : (o.contents content).getLast? = none → o.result ≠ .ok () := by
    intro hnone hok
    cases o with
    | stored seen => simp [WriteOutcome.contents] at hnone
    | refused e => cases hok
    | cut seen e => cases hok
  unfold write at h
  split at h
  next hnone =>
    obtain ⟨rfl, rfl⟩ := Prod.mk.inj h
    exact Or.inl ⟨rfl, hrefused hnone⟩
  next left hlast =>
    split at h
    next =>
      obtain ⟨rfl, rfl⟩ := Prod.mk.inj h
      exact Or.inl ⟨rfl, by simp⟩
    next l hl =>
      split at h
      next hnode =>
        obtain ⟨rfl, rfl⟩ := Prod.mk.inj h
        exact Or.inr ⟨l, left, hl, Or.inl hnode, rfl, hleft left hlast⟩
      next old hnode =>
        obtain ⟨rfl, rfl⟩ := Prod.mk.inj h
        exact Or.inr ⟨l, left, hl, Or.inr ⟨old, hnode⟩, rfl, hleft left hlast⟩
      next =>
        obtain ⟨rfl, rfl⟩ := Prod.mk.inj h
        exact Or.inl ⟨rfl, by simp⟩

lemma place_join (h : t.canonicalize cwd p = some d) :
    t.place cwd (p.join name) = some (d ++ [name]) := by
  unfold place Path.join
  rw [List.getLast?_concat, List.dropLast_concat]
  simp only [h, Option.map_some]

lemma removeFile_eq (hplace : t.place cwd p = some l) (hfile : t.node l = some (.file content)) (o : Except Str Unit) :
    removeFile cwd p o t = if o = .ok () then (.ok (), t.remove l) else (o, t) := by
  rcases o with e | u
  · rfl
  · simp only [removeFile, hplace, hfile, if_pos]

end Operations

end FileTree

end TeechatOpenapi.Lib
