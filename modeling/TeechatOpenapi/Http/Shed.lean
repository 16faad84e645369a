import Mathlib.Data.List.Basic
import TeechatOpenapi.Lib.Runs

/-!
# The cap on shed workers (`openapi-edge/src/lib.rs`)

Connections that find the accept queue full are answered by short-lived threads.  Each of them holds a `ShedPermit`,
taken from an atomic counter by a retry loop and given back by the drop of the permit.
-/

namespace TeechatOpenapi.Http

open Lib

/-- Where a call of `spawn_shed_429` stands. -/
inductive ShedPoint where
  /-- at the head of the loop of `try_acquire_shed` -/
  | load
  /-- the counter has been read, and was below the cap -/
  | compareExchange (cur : UInt32)
  /-- `None`: the stream is dropped -/
  | refused
  /-- `Some`: the thread is still to be spawned -/
  | permitted
  /-- the thread runs, and owns the permit -/
  | responding
  /-- the spawn has failed; the closure that owns the permit is still to be dropped -/
  | unspawned
  /-- the permit has been dropped -/
  | finished
  deriving DecidableEq

/-- There is a `ShedPermit`, which has not been dropped. -/
def ShedPoint.outstanding : ShedPoint → Bool
  | .permitted | .responding | .unspawned => true
  | _ => false

/-- The counter, and where each call stands. -/
structure ShedState where
  counter : UInt32
  calls : List ShedPoint
  deriving DecidableEq

/-- `AtomicU32::new(0)`, before the first call. -/
def ShedState.start : ShedState := ⟨0, []⟩

def ShedState.permits (s : ShedState) : Nat := s.calls.countP ShedPoint.outstanding

/-- What happens next: a call begins, or call `i` takes a step. -/
inductive ShedInput where
  | call
  | acquire (i : Nat)
  | spawn (i : Nat) (started : Bool)
  | drop (i : Nat)

/-- `AtomicU32::compare_exchange`: whether it was stored, and what the counter is then. -/
def atomicCompareExchange (counter current new : UInt32) : Bool × UInt32 :=
  if counter = current then (true, new) else (false, counter)

/-- `try_acquire_shed`, one access to the counter at a time. -/
def tryAcquireShed (max counter : UInt32) : ShedPoint → Option (UInt32 × ShedPoint)
  | .load => some (counter, if counter ≥ max then .refused else .compareExchange counter)
  | .compareExchange cur =>
    let stored := atomicCompareExchange counter cur (cur + 1)
    -- a counter that has changed sends the call back to the head of the loop
    some (stored.2, if stored.1 then .permitted else .load)
  | _ => none

/-- `spawn_shed_429` with its permit: the closure moves into the thread, or is dropped by the spawn that failed. -/
def spawnShed429 (started : Bool) : ShedPoint → Option ShedPoint
  | .permitted => some (if started then .responding else .unspawned)
  | _ => none

/-- `ShedPermit::drop`, wherever the permit is: `fetch_sub(1)`, which wraps. -/
def dropShedPermit (counter : UInt32) (point : ShedPoint) : Option (UInt32 × ShedPoint) :=
  if point.outstanding then some (counter - 1, .finished) else none

def ShedState.put (s : ShedState) (i : Nat) (r : UInt32 × ShedPoint) : ShedState := ⟨r.1, s.calls.set i r.2⟩

def shedStep (max : UInt32) (s : ShedState) : ShedInput → Option ShedState
  | .call => some ⟨s.counter, s.calls ++ [.load]⟩
  | .acquire i => s.calls[i]?.bind fun point => (tryAcquireShed max s.counter point).map (s.put i)
  | .spawn i started => s.calls[i]?.bind fun point =>
    (spawnShed429 started point).map fun next => s.put i (s.counter, next)
  | .drop i => s.calls[i]?.bind fun point => (dropShedPermit s.counter point).map (s.put i)

/-- The counter is exact and within the cap, and what a compare-exchange expects is below the cap. -/
structure ShedState.Exact (max : UInt32) (s : ShedState) : Prop where
  exact : s.counter.toNat = s.permits
  bound : s.counter ≤ max
  below : ∀ cur, .compareExchange cur ∈ s.calls → cur < max

variable {s : ShedState} {i : Nat}

lemma permits_put {before : ShedPoint} (h : s.calls[i]? = some before) (r : UInt32 × ShedPoint) :
    (s.put i r).permits + before.outstanding.toNat = s.permits + r.2.outstanding.toNat := by
  obtain ⟨hi, hget⟩ := List.getElem?_eq_some_iff.mp h
  have hpos : before.outstanding = true → 0 < s.calls.countP ShedPoint.outstanding := fun hout =>
    List.countP_pos_iff.mpr ⟨before, List.mem_of_getElem? h, hout⟩
  unfold ShedState.permits ShedState.put
  rw [List.countP_set hi, hget]
  cases hbefore : before.outstanding
  · cases r.2.outstanding <;> rfl
  · have hpos := hpos hbefore
    cases r.2.outstanding
    · exact Nat.sub_add_cancel hpos
    · exact congrArg (· + 1) (Nat.sub_add_cancel hpos)

variable {max : UInt32} {r : UInt32 × ShedPoint}

/-- A call that moves keeps the counter exact when the counter moves with its permit. -/
lemma ShedState.Exact.put (hs : s.Exact max) {before : ShedPoint} (h : s.calls[i]? = some before)
    (hcounter : r.1.toNat + before.outstanding.toNat = s.counter.toNat + r.2.outstanding.toNat) (hbound : r.1 ≤ max)
    (hbelow : ∀ cur, r.2 = .compareExchange cur → cur < max) : (s.put i r).Exact max := by
  refine ⟨?_, hbound, fun cur hmem => ?_⟩
  · have hpermits := permits_put h r
    have hexact := hs.exact
    change r.1.toNat = _
    omega
  · rcases List.mem_or_eq_of_mem_set hmem with hmem | heq
    · exact hs.below cur hmem
    · exact hbelow cur heq.symm

variable {point : ShedPoint}

lemma ShedState.Exact.acquire (hs : s.Exact max)
    (h : s.calls[i]? = some point) (hr : tryAcquireShed max s.counter point = some r) :
    (s.put i r).Exact max := by
  cases point with
  | load =>
    obtain rfl := Option.some.inj hr
    by_cases hfull : s.counter ≥ max
    · rw [if_pos hfull]
      exact hs.put h rfl hs.bound (fun _ heq => by cases heq)
    · rw [if_neg hfull]
      refine hs.put h rfl hs.bound (fun cur heq => ?_)
      cases heq
      exact UInt32.not_le.mp hfull
  | compareExchange cur =>
    have hcur : cur < max := hs.below cur (List.mem_of_getElem? h)
    rw [tryAcquireShed, atomicCompareExchange] at hr
    obtain rfl := Option.some.inj hr
    by_cases hsame : s.counter = cur
    · -- below the cap, the next number is no overflow
      have hnext : (cur + 1).toNat = cur.toNat + 1 := by
        have hlt : cur.toNat < max.toNat := UInt32.lt_iff_toNat_lt.mp hcur
        have hmax := max.toNat_lt
        rw [UInt32.toNat_add, UInt32.toNat_one]
        omega
      rw [if_pos hsame]
      refine hs.put h ?_ ?_ (fun _ heq => by cases heq)
      · change (cur + 1).toNat + 0 = s.counter.toNat + 1
        rw [hnext, hsame]
      · rw [UInt32.le_iff_toNat_le]
        change (cur + 1).toNat ≤ _
        rw [hnext]
        exact UInt32.lt_iff_toNat_lt.mp hcur
    · rw [if_neg hsame]
      exact hs.put h rfl hs.bound (fun _ heq => by cases heq)
  | refused => cases hr
  | permitted => cases hr
  | responding => cases hr
  | unspawned => cases hr
  | finished => cases hr

lemma ShedState.Exact.drop_toNat (hs : s.Exact max)
    (h : s.calls[i]? = some point) (hout : point.outstanding = true) : (s.counter - 1).toNat + 1 = s.counter.toNat := by
  have hpos : 0 < s.permits := List.countP_pos_iff.mpr ⟨point, List.mem_of_getElem? h, hout⟩
  have hexact := hs.exact
  have hone : (1 : UInt32) ≤ s.counter := UInt32.le_iff_toNat_le.mpr (by rw [UInt32.toNat_one]; omega)
  rw [UInt32.toNat_sub_of_le _ _ hone, UInt32.toNat_one]
  omega

lemma ShedState.Exact.drop (hs : s.Exact max)
    (h : s.calls[i]? = some point) (hr : dropShedPermit s.counter point = some r) :
    (s.put i r).Exact max := by
  obtain ⟨hout, hr⟩ := Option.ite_none_right_eq_some.mp hr
  obtain rfl := Option.some.inj hr
  have hsub := hs.drop_toNat h hout
  refine hs.put h ?_ ?_ (fun _ heq => by cases heq)
  · rw [hout]
    exact hsub
  · have hbound := UInt32.le_iff_toNat_le.mp hs.bound
    rw [UInt32.le_iff_toNat_le]
    change (s.counter - 1).toNat ≤ _
    omega

lemma ShedState.Exact.spawn (hs : s.Exact max) {next : ShedPoint}
    (h : s.calls[i]? = some point) {started : Bool} (hr : spawnShed429 started point = some next) :
    (s.put i (s.counter, next)).Exact max := by
  cases point with
  | permitted =>
    obtain rfl := Option.some.inj hr
    cases started
    · exact hs.put h rfl hs.bound (fun _ heq => by cases heq)
    · exact hs.put h rfl hs.bound (fun _ heq => by cases heq)
  | load => cases hr
  | compareExchange cur => cases hr
  | refused => cases hr
  | responding => cases hr
  | unspawned => cases hr
  | finished => cases hr

lemma ShedState.Exact.step (max : UInt32) (s : ShedState) (input : ShedInput) (s' : ShedState)
    (h : shedStep max s input = some s') (hs : s.Exact max) : s'.Exact max := by
  cases input with
  | call =>
    obtain rfl := Option.some.inj h
    refine ⟨?_, hs.bound, fun cur hmem => ?_⟩
    · rw [hs.exact, ShedState.permits, ShedState.permits, List.countP_append]
      rfl
    · rcases List.mem_append.mp hmem with hmem | hmem
      · exact hs.below cur hmem
      · cases List.mem_singleton.mp hmem
  | acquire i =>
    obtain ⟨point, hpoint, h⟩ := Option.bind_eq_some_iff.mp h
    obtain ⟨r, hr, rfl⟩ := Option.map_eq_some_iff.mp h
    exact hs.acquire hpoint hr
  | spawn i started =>
    obtain ⟨point, hpoint, h⟩ := Option.bind_eq_some_iff.mp h
    obtain ⟨next, hr, rfl⟩ := Option.map_eq_some_iff.mp h
    exact hs.spawn hpoint hr
  | drop i =>
    obtain ⟨point, hpoint, h⟩ := Option.bind_eq_some_iff.mp h
    obtain ⟨r, hr, rfl⟩ := Option.map_eq_some_iff.mp h
    exact hs.drop hpoint hr

lemma ShedState.exact_start (max : UInt32) : ShedState.start.Exact max :=
  ⟨rfl, UInt32.le_iff_toNat_le.mpr (Nat.zero_le _), fun _ hmem => absurd hmem List.not_mem_nil⟩

/-- After every run the counter is the number of outstanding permits, which is at most the cap, and the next drop takes
exactly one from it. -/
theorem shed_counter_exact (max : UInt32) (inputs : List ShedInput) (s : ShedState)
    (h : exec (shedStep max) .start inputs = some s) :
    s.counter.toNat = s.permits ∧ s.counter ≤ max ∧
      ∀ i s', shedStep max s (.drop i) = some s' → s'.counter.toNat + 1 = s.counter.toNat := by
  have hs : s.Exact max := exec_inv (ShedState.Exact.step max) h (ShedState.exact_start max)
  refine ⟨hs.exact, hs.bound, fun i s' hdrop => ?_⟩
  obtain ⟨point, hpoint, hdrop⟩ := Option.bind_eq_some_iff.mp hdrop
  obtain ⟨r, hr, rfl⟩ := Option.map_eq_some_iff.mp hdrop
  obtain ⟨hout, hr⟩ := Option.ite_none_right_eq_some.mp hr
  obtain rfl := Option.some.inj hr
  exact hs.drop_toNat hpoint hout

/-- Two calls race for one permit: the second finds the counter changed, and is refused at its next load; the spawn of
the first fails, and its permit is dropped. -/
theorem shed_counter_exact_race :
    exec (shedStep 1) .start
        [.call, .call, .acquire 0, .acquire 1, .acquire 0, .acquire 1, .acquire 1, .spawn 0 false] =
          some ⟨1, [.unspawned, .refused]⟩ ∧
      (1 : UInt32).toNat = (⟨1, [.unspawned, .refused]⟩ : ShedState).permits := by
  have hrun : exec (shedStep 1) .start
      [.call, .call, .acquire 0, .acquire 1, .acquire 0, .acquire 1, .acquire 1, .spawn 0 false] =
        some ⟨1, [.unspawned, .refused]⟩ := by decide
  exact ⟨hrun, (shed_counter_exact 1 _ _ hrun).1⟩

end TeechatOpenapi.Http
