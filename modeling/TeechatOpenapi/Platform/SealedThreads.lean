import Mathlib.Logic.Function.Basic
import TeechatOpenapi.Platform.SealedRuns

/-!
# Concurrent observers of sealed time

Request threads observe the host's clock on one floor file without a lock: each call of `observe_at` reads and
compares, and writes later, and other calls may write in between.
-/

namespace TeechatOpenapi.Platform

open Lib

/-- Where a thread is: between calls, or past its comparison and about to write, with the time stored last since. -/
inductive Observer where
  | idle
  | writing (hostNowMs : UInt64) (overtaken : Option Nat)

/-- One step of one thread. -/
inductive ObserverStep where
  | compare (thread : Nat) (hostNowMs : UInt64)
  | write (thread : Nat) (w : HostWrite)

/-- The floor file and the threads. -/
structure Observers where
  file : FloorFile
  threads : Nat → Observer

/-- A thread past its comparison notes what another one stores. -/
def Observer.overtake (stored : Option Nat) : Observer → Observer
  | .idle => .idle
  | .writing now _ => .writing now stored

/-- What a thread knows of the floor: when it is about to write, the floor is the one stored last since it read, or one
that is not later than its time. -/
def Observer.Noted (floor : Option Nat) : Observer → Prop
  | .idle => True
  | .writing now none => ∀ n, floor = some n → n ≤ now.toNat
  | .writing _ (some t) => floor = some t

lemma Observer.noted_overtake (o : Observer) (t : Nat) : (o.overtake (some t)).Noted (some t) := by
  cases o with
  | idle => exact trivial
  | writing now overtaken => exact rfl

namespace Observers

/-- Every thread is between calls. -/
def start (file : FloorFile) : Observers := ⟨file, fun _ => .idle⟩

/-- One step: a call compares its time with the floor it reads, and ends there or goes on to write. -/
def step (path : Str) (s : Observers) : ObserverStep → Option Observers
  | .compare i now =>
    match s.threads i with
    | .idle =>
      match compareAt path now.toNat s.file with
      | .ok true => some { s with threads := Function.update s.threads i (.writing now none) }
      | _ => some s
    | .writing _ _ => none
  | .write i w =>
    match s.threads i with
    | .idle => none
    | .writing now _ =>
      match writeFloorAt path w now.toNat s.file with
      | (.ok _, file) =>
        some ⟨file, Function.update (fun j => (s.threads j).overtake (some now.toNat)) i .idle⟩
      | (.error _, file) => some ⟨file, Function.update s.threads i .idle⟩

/-- The floor in the file does not go back in this step. -/
def FloorKept (path : Str) (s : Observers) (e : ObserverStep) : Prop :=
  ∀ s', s.step path e = some s' → ∀ n, s.file.floor? = some n → ∃ m, s'.file.floor? = some m ∧ n ≤ m

/-- A call does not store a time earlier than the one stored last since it read. -/
def NotOvertaken (s : Observers) : ObserverStep → Prop
  | .write i .stored => ∀ now t, s.threads i = .writing now (some t) → t ≤ now.toNat
  | _ => True

/-- A failed write leaves what was there. -/
def Untorn (s : Observers) : ObserverStep → Prop
  | .write _ w => ∀ e left, w = .failed e left → left = s.file
  | .compare _ _ => True

/-- Every thread knows the floor as far as it has to. -/
def Noted (s : Observers) : Prop := ∀ i, (s.threads i).Noted s.file.floor?

variable {path : Str} {s s' : Observers}

/-- What a comparison can do: end the call, or take the thread to its write. -/
lemma step_compare {i : Nat} {now : UInt64} (h : s.step path (.compare i now) = some s') :
    s' = s ∨ (∀ n, s.file.floor? = some n → n ≤ now.toNat) ∧
      s' = { s with threads := Function.update s.threads i (.writing now none) } := by
  rw [step] at h
  rcases hi : s.threads i with _ | ⟨_, _⟩
  · rw [hi] at h
    rcases hcompare : compareAt path now.toNat s.file with e | b
    · rw [hcompare] at h
      exact Or.inl (Option.some.inj h).symm
    · rw [hcompare] at h
      cases b with
      | false => exact Or.inl (Option.some.inj h).symm
      | true => exact Or.inr ⟨(compareAt_eq_ok hcompare).1, (Option.some.inj h).symm⟩
  · rw [hi] at h
    cases h

/-- A write that the host stores puts the thread's time in the file, and the others note it. -/
lemma step_stored {i : Nat} {now : UInt64} {overtaken : Option Nat} (hi : s.threads i = .writing now overtaken) :
    s.step path (.write i .stored) =
      some ⟨.content (decimal now.toNat ++ ['\n']),
        Function.update (fun j => (s.threads j).overtake (some now.toNat)) i .idle⟩ := by
  rw [step, hi]
  rfl

lemma writing_of_step {i : Nat} {w : HostWrite} (h : s.step path (.write i w) = some s') :
    ∃ now overtaken, s.threads i = .writing now overtaken := by
  rw [step] at h
  rcases hi : s.threads i with _ | ⟨now, overtaken⟩
  · rw [hi] at h
    cases h
  · exact ⟨now, overtaken, rfl⟩

/-- A write that the host fails ends the call and leaves an untorn file. -/
lemma step_failed {i : Nat} {w : HostWrite} (hw : w ≠ .stored) (huntorn : s.Untorn (.write i w))
    (h : s.step path (.write i w) = some s') : s' = { s with threads := Function.update s.threads i .idle } := by
  obtain ⟨now, overtaken, hi⟩ := writing_of_step h
  rw [step, hi] at h
  cases w with
  | stored => exact absurd rfl hw
  | mkdirFailed e => exact (Option.some.inj h).symm
  | failed e left =>
    obtain rfl := huntorn e left rfl
    exact (Option.some.inj h).symm

lemma floor?_stored (now : UInt64) : (FloorFile.content (decimal now.toNat ++ ['\n'])).floor? = some now.toNat :=
  floor?_written (Nat.le_sub_one_of_lt now.toNat_lt)

lemma noted_start (file : FloorFile) : (start file).Noted := fun _ => trivial

/-- A thread moves on with what it knows, on the same file. -/
lemma Noted.update (h : s.Noted) (i : Nat) {o : Observer} (ho : o.Noted s.file.floor?) :
    Noted { s with threads := Function.update s.threads i o } := by
  intro j
  by_cases hij : j = i
  · subst hij
    dsimp only
    rw [Function.update_self]
    exact ho
  · dsimp only
    rw [Function.update_of_ne hij]
    exact h j

lemma Noted.step {e : ObserverStep} (huntorn : s.Untorn e) (hs : s.step path e = some s') (h : s.Noted) :
    s'.Noted := by
  cases e with
  | compare i now =>
    obtain rfl | ⟨hle, rfl⟩ := step_compare hs
    · exact h
    · exact h.update i hle
  | write i w =>
    by_cases hw : w = .stored
    · subst hw
      obtain ⟨now, overtaken, hi⟩ := writing_of_step hs
      obtain rfl := Option.some.inj ((step_stored hi).symm.trans hs)
      -- every thread about to write has noted the time that is in the file now
      have hnoted : Noted ⟨.content (decimal now.toNat ++ ['\n']),
          fun j => (s.threads j).overtake (some now.toNat)⟩ := by
        intro j
        dsimp only
        rw [floor?_stored]
        exact (s.threads j).noted_overtake now.toNat
      exact hnoted.update i trivial
    · obtain rfl := step_failed hw huntorn hs
      exact h.update i trivial

/-- A thread about to write knows what its own state says. -/
lemma Noted.of_writing (h : s.Noted) {i : Nat} {o : Observer} (hi : s.threads i = o) : o.Noted s.file.floor? :=
  hi ▸ h i

lemma Noted.floorKept_iff {e : ObserverStep} (huntorn : s.Untorn e) (h : s.Noted) :
    s.FloorKept path e ↔ s.NotOvertaken e := by
  cases e with
  | compare i now =>
    refine iff_of_true ?_ trivial
    intro s' hs n hn
    obtain rfl | ⟨-, rfl⟩ := step_compare hs
    · exact ⟨n, hn, le_rfl⟩
    · exact ⟨n, hn, le_rfl⟩
  | write i w =>
    by_cases hw : w = .stored
    · subst hw
      constructor
      · intro hkept now t hi
        obtain ⟨m, hm, hle⟩ := hkept _ (step_stored hi) t (h.of_writing hi)
        obtain rfl := Option.some.inj (hm.symm.trans (floor?_stored now))
        exact hle
      · intro hnot s' hs n hn
        obtain ⟨now, overtaken, hi⟩ := writing_of_step hs
        obtain rfl := Option.some.inj ((step_stored hi).symm.trans hs)
        refine ⟨now.toNat, floor?_stored now, ?_⟩
        cases overtaken with
        | none => exact h.of_writing hi n hn
        | some t =>
          obtain rfl := Option.some.inj ((h.of_writing hi).symm.trans hn)
          exact hnot now t hi
    · refine iff_of_true ?_ ?_
      · intro s' hs n hn
        obtain rfl := step_failed hw huntorn hs
        exact ⟨n, hn, le_rfl⟩
      · cases w with
        | stored => exact absurd rfl hw
        | mkdirFailed e => exact trivial
        | failed e left => exact trivial

end Observers

/-- **Concurrent observers.**  In every interleaving of observations on one file, none of whose writes is torn, the
floor never goes back exactly when no call stores a time earlier than the one stored last since it read. -/
theorem floor_kept_iff (path : Str) (file : FloorFile) (steps : List ObserverStep)
    (huntorn : Along (Observers.step path) Observers.Untorn (Observers.start file) steps) :
    Along (Observers.step path) (Observers.FloorKept path) (Observers.start file) steps ↔
      Along (Observers.step path) Observers.NotOvertaken (Observers.start file) steps := by
  refine along_congr (I := Observers.Noted) ?_ ?_ huntorn (Observers.noted_start file)
  · intro s e s' hw hs h
    exact h.step hw hs
  · intro s e hw h
    exact h.floorKept_iff hw

namespace Sample

def orderedSteps : List ObserverStep := [.compare 0 300, .compare 1 200, .write 1 .stored, .write 0 .stored]

def overtakingSteps : List ObserverStep := [.compare 0 300, .compare 1 200, .write 0 .stored, .write 1 .stored]

end Sample

theorem floor_kept_ordered :
    Along (Observers.step "/data/floor") (Observers.FloorKept "/data/floor") (Observers.start (.content "100\n"))
      Sample.orderedSteps := by
  refine (floor_kept_iff "/data/floor" (.content "100\n") Sample.orderedSteps ?_).mpr ?_
  · refine Along.of_forall ?_
    simp [Sample.orderedSteps, Observers.Untorn]
  · refine Along.cons trivial rfl (Along.cons trivial rfl (Along.cons ?_ rfl (Along.cons ?_ rfl trivial)))
    · intro now t hthread
      cases hthread
    · intro now t hthread
      cases hthread
      decide

/-- **A lost update**: both calls pass their comparison, the later time is stored first, and the earlier one over it. -/
theorem lost_floor :
    ¬ Along (Observers.step "/data/floor") (Observers.FloorKept "/data/floor") (Observers.start (.content "100\n"))
      Sample.overtakingSteps := by
  intro hkept
  obtain ⟨m, hm, hle⟩ := (((hkept.2 _ rfl).2 _ rfl).2 _ rfl).1 _ rfl 300 (by decide)
  have hlast : m = 200 := Option.some.inj (hm.symm.trans (by decide))
  omega

end TeechatOpenapi.Platform
