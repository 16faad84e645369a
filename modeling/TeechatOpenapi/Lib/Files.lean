import TeechatOpenapi.Lib.Outcome
import TeechatOpenapi.Lib.Text
import Mathlib.Logic.Function.Basic

/-!
# Files that are written in several calls

A disk is the contents of its files.  A run that writes is given by what it puts into which file, call after call, so
that the disk can be looked at between any two calls, and by how it ends.
-/

namespace TeechatOpenapi.Lib

/-- The contents of the files, by path. -/
def Disk : Type := Str → Option Bytes

variable {path : Str}

namespace Disk

variable {d : Disk}

def put (d : Disk) (p : Str × Bytes) : Disk := Function.update d p.1 (some p.2)

/-- The disk after a sequence of puts. -/
def putAll (d : Disk) (puts : List (Str × Bytes)) : Disk := puts.foldl put d

def read (d : Disk) (path : Str) : Except Str Bytes := okOr (d path) "No such file or directory (os error 2)"

lemma putAll_cons (p : Str × Bytes) (puts : List (Str × Bytes)) : d.putAll (p :: puts) = (d.put p).putAll puts := rfl

lemma putAll_append (puts puts' : List (Str × Bytes)) : d.putAll (puts ++ puts') = (d.putAll puts).putAll puts' :=
  List.foldl_append

lemma putAll_other {puts : List (Str × Bytes)} (h : ∀ p ∈ puts, p.1 ≠ path) :
    d.putAll puts path = d path := by
  induction puts generalizing d with
  | nil => rfl
  | cons p puts ih =>
    rw [putAll_cons, ih fun q hq => h q (List.mem_cons_of_mem p hq)]
    exact Function.update_of_ne (h p List.mem_cons_self).symm _ _

lemma putAll_written {puts : List (Str × Bytes)} (h : ∃ p ∈ puts, p.1 = path) :
    ∃ content, (path, content) ∈ puts ∧ d.putAll puts path = some content := by
  induction puts generalizing d with
  | nil =>
    obtain ⟨_, hp, -⟩ := h
    cases hp
  | cons p puts ih =>
    rw [putAll_cons]
    by_cases hlater : ∃ q ∈ puts, q.1 = path
    · obtain ⟨content, hmem, hcontent⟩ := ih (d := d.put p) hlater
      exact ⟨content, List.mem_cons_of_mem p hmem, hcontent⟩
    · have hnone : ∀ q ∈ puts, q.1 ≠ path := fun q hq heq => hlater ⟨q, hq, heq⟩
      obtain ⟨q, hq, rfl⟩ := h
      rcases List.mem_cons.mp hq with rfl | hq
      · refine ⟨q.2, List.mem_cons_self, ?_⟩
        rw [putAll_other hnone]
        exact Function.update_self _ _ _
      · exact absurd rfl (hnone q hq)

lemma putAll_cases (path : Str) (puts : List (Str × Bytes)) :
    d.putAll puts path = d path ∨ ∃ content, (path, content) ∈ puts ∧ d.putAll puts path = some content := by
  by_cases h : ∃ p ∈ puts, p.1 = path
  · exact Or.inr (putAll_written h)
  · exact Or.inl (putAll_other fun p hp heq => h ⟨p, hp, heq⟩)

lemma putAll_concat (path : Str) (content : Bytes) (puts : List (Str × Bytes)) :
    d.putAll (puts ++ [(path, content)]) path = some content := by
  rw [putAll_append]
  exact Function.update_self _ _ _

end Disk

/-- How a `std::fs::write` goes.  The file is opened, which empties it, and filled; `seen` are the lengths it has in
between.  The opening can be refused, and the filling can be cut short. -/
inductive WriteOutcome where
  | stored (seen : List Nat)
  | refused (error : Str)
  | cut (seen : List Nat) (error : Str)

variable {o : WriteOutcome} {content : Bytes}

namespace WriteOutcome

/-- What the file holds, call after call. -/
def contents (content : Bytes) : WriteOutcome → List Bytes
  | stored seen => [] :: (seen.map (content.take ·) ++ [content])
  | refused _ => []
  | cut seen _ => [] :: seen.map (content.take ·)

def result : WriteOutcome → Except Str Unit
  | stored _ => .ok ()
  | refused error => .error error
  | cut _ error => .error error

lemma mem_contents_prefix {c : Bytes} (h : c ∈ o.contents content) : c <+: content := by
  have hpart : ∀ seen : List Nat, c ∈ seen.map (content.take ·) → c <+: content := by
    intro seen hc
    obtain ⟨n, -, rfl⟩ := List.mem_map.mp hc
    exact List.take_prefix n content
  cases o with
  | stored seen =>
    rcases List.mem_cons.mp h with rfl | hrest
    · exact List.nil_prefix
    · rcases List.mem_append.mp hrest with hc | hc
      · exact hpart seen hc
      · rw [List.mem_singleton.mp hc]
  | refused e => cases h
  | cut seen e =>
    rcases List.mem_cons.mp h with rfl | hc
    · exact List.nil_prefix
    · exact hpart seen hc

end WriteOutcome

/-- A run that writes files: what it puts where, call after call, and how it ends. -/
structure Writes (ε α : Type) where
  puts : List (Str × Bytes)
  result : Except ε α

namespace Writes

variable {ε ε' α β : Type}

instance : Monad (Writes ε) where
  pure a := ⟨[], .ok a⟩
  bind x f :=
    match x.result with
    | .ok a => ⟨x.puts ++ (f a).puts, (f a).result⟩
    | .error e => ⟨x.puts, .error e⟩

/-- A computation that writes nothing. -/
def lift (x : Except ε α) : Writes ε α := ⟨[], x⟩

def mapErr (g : ε → ε') (x : Writes ε α) : Writes ε' α := ⟨x.puts, Lib.mapErr g x.result⟩

variable {f : α → Writes ε β}

lemma bind_of_ok {x : Writes ε α} {a : α} (h : x.result = .ok a) :
    x >>= f = ⟨x.puts ++ (f a).puts, (f a).result⟩ := by
  change (match x.result with | .ok a => _ | .error e => _) = _
  rw [h]

lemma bind_of_error {x : Writes ε α} {e : ε} (h : x.result = .error e) :
    x >>= f = ⟨x.puts, .error e⟩ := by
  change (match x.result with | .ok a => _ | .error e => _) = _
  rw [h]

lemma lift_bind {x : Except ε α} :
    lift x >>= f = match x with
      | .ok a => f a
      | .error e => ⟨[], .error e⟩ := by
  cases x with
  | ok a => exact bind_of_ok rfl
  | error e => exact bind_of_error rfl

lemma bind_result_eq_ok {x : Writes ε α} {b : β} :
    (x >>= f).result = .ok b ↔ ∃ a, x.result = .ok a ∧ (f a).result = .ok b := by
  cases hx : x.result with
  | ok a =>
    rw [bind_of_ok hx]
    constructor
    · exact fun h => ⟨a, rfl, h⟩
    · rintro ⟨a', ha', h⟩
      rwa [Except.ok.inj ha']
  | error e =>
    rw [bind_of_error hx]
    constructor
    · intro h
      cases h
    · rintro ⟨a, ha, -⟩
      cases ha

end Writes

def writeFile (path : Str) (content : Bytes) (o : WriteOutcome) : Writes Str Unit :=
  ⟨(o.contents content).map (path, ·), o.result⟩

lemma mem_writeFile {p : Str × Bytes} (h : p ∈ (writeFile path content o).puts) : p.1 = path ∧ p.2 <+: content := by
  obtain ⟨c, hc, rfl⟩ := List.mem_map.mp h
  exact ⟨rfl, WriteOutcome.mem_contents_prefix hc⟩

lemma after_writeFile {d : Disk} {u : Unit}
    (h : o.result = .ok u) : d.putAll (writeFile path content o).puts path = some content := by
  cases o with
  | stored seen =>
    have hputs : (writeFile path content (.stored seen)).puts =
        ((path, []) :: (seen.map (content.take ·)).map (path, ·)) ++ [(path, content)] := by
      simp only [writeFile, WriteOutcome.contents, List.map_cons, List.map_append, List.map_nil, List.cons_append]
    rw [hputs]
    exact Disk.putAll_concat path content _
  | refused e => cases h
  | cut seen e => cases h

lemma writeFile_leaves {d : Disk} (hopen : (writeFile path content o).puts ≠ []) :
    ∃ left, left <+: content ∧ d.putAll (writeFile path content o).puts path = some left := by
  obtain ⟨p, hp⟩ := List.exists_mem_of_ne_nil _ hopen
  obtain ⟨left, hmem, hleft⟩ := Disk.putAll_written (d := d) ⟨p, hp, (mem_writeFile hp).1⟩
  exact ⟨left, (mem_writeFile hmem).2, hleft⟩

end TeechatOpenapi.Lib
