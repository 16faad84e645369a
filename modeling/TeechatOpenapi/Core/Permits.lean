import Mathlib.Data.Bool.Count
import TeechatOpenapi.Core.Limits
import TeechatOpenapi.Lib.Permits
import TeechatOpenapi.Lib.Runs

/-!
# Permits (`openapi-core/src/limits.rs`)

`IpConnTracker` counts the connections of an address in a map, `InflightGate` the challenges in a counter.  A permit is
an object whose `Drop` takes it off the count.  Every operation holds the lock of what it changes, so an interleaving of
threads is a list of whole operations.
-/

namespace TeechatOpenapi.Core

open Lib

/-- The counts of an `IpConnTracker`. -/
abbrev IpCounts := Str → Option Nat

def ipKey (ip : Str) : Str := if ip = [] then "unknown" else ip

/-- `IpConnTracker::try_acquire`; the permit is its field `ip`. -/
def ipTryAcquire (max : Nat) (ip : Str) : Op IpCounts ApiError (Option Str) :=
  if max = 0 then pure none else do
    -- `entry(..).or_insert(0)`, which a refused call leaves behind
    Op.modify fun counts => Function.update counts (ipKey ip) (some ((counts (ipKey ip)).getD 0))
    let counts ← Op.get
    let entry := (counts (ipKey ip)).getD 0
    Op.lift (failIf (max ≤ entry) ApiError.rateLimited)
    Op.modify fun counts => Function.update counts (ipKey ip) (some (entry + 1))
    return some (ipKey ip)

/-- The `Drop` of an `IpConnPermit`. -/
def dropIpConnPermit (permit : Option Str) (counts : IpCounts) : IpCounts :=
  match permit with
  | none => counts
  | some ip =>
    match counts ip with
    | none => counts
    | some n => Function.update counts ip (if n - 1 = 0 then none else some (n - 1))

/-- A tracker and the permits that were handed out and not dropped. -/
structure Tracker where
  counts : IpCounts
  live : List (Option Str)

def Tracker.new : Tracker := ⟨fun _ => none, []⟩

/-- What a thread does with a tracker. -/
inductive TrackerEvent where
  | acquire (ip : Str)
  | drop (permit : Option Str)

/-- One operation; a permit is dropped by the one who holds it. -/
def Tracker.step (max : Nat) (s : Tracker) : TrackerEvent → Option Tracker
  | .acquire ip =>
    match ipTryAcquire max ip s.counts with
    | (.ok permit, counts) => some ⟨counts, permit :: s.live⟩
    | (.error _, counts) => some ⟨counts, s.live⟩
  | .drop permit => if permit ∈ s.live then some ⟨dropIpConnPermit permit s.counts, s.live.erase permit⟩ else none

variable {max : Nat}

lemma ipTryAcquire_eq (hmax : max ≠ 0) (ip : Str) (counts : IpCounts) :
    ipTryAcquire max ip counts =
      if (counts (ipKey ip)).getD 0 < max then
        (.ok (some (ipKey ip)), Function.update counts (ipKey ip) (some ((counts (ipKey ip)).getD 0 + 1)))
      else (.error .rateLimited, Function.update counts (ipKey ip) (some ((counts (ipKey ip)).getD 0))) := by
  simp only [ipTryAcquire, if_neg hmax, Op.bind_run, Op.modify_run, Op.get_run, Op.lift_run, Function.update_self,
    Option.getD_some]
  by_cases hroom : (counts (ipKey ip)).getD 0 < max
  · rw [if_pos hroom, failIf, if_neg (Nat.not_le.mpr hroom)]
    dsimp only
    rw [Function.update_idem]
    rfl
  · rw [if_neg hroom, failIf, if_pos (Nat.not_lt.mp hroom)]

variable {s : Tracker} {counts : IpCounts}

namespace Tracker

/-- The count of a permit's key. -/
def counted (counts : IpCounts) : Option Str → Nat
  | none => 0
  | some ip => (counts ip).getD 0

/-- The counts are exact, and the map has no entry for a count of zero. -/
structure Exact (max : Nat) (s : Tracker) : Prop where
  counted : Counted max (counted s.counts) s.live
  positive : ∀ ip, s.counts ip ≠ some 0

lemma Exact.new (max : Nat) : Exact max new := by
  refine ⟨⟨fun k => ?_, fun k => ?_⟩, nofun⟩
  · cases k <;> rfl
  · cases k <;> exact Nat.zero_le max

lemma counted_update (counts : IpCounts) (ip : Str) (entry : Option Nat) (permit : Option Str) :
    Tracker.counted (Function.update counts ip entry) permit =
      if permit = some ip then entry.getD 0 else Tracker.counted counts permit := by
  rcases permit with _ | k
  · rfl
  · by_cases hk : k = ip
    · rw [hk, if_pos rfl, Tracker.counted, Function.update_self]
    · rw [if_neg fun h => hk (Option.some.inj h), Tracker.counted, Tracker.counted, Function.update_of_ne hk]

lemma update_ne_zero (h : ∀ ip, counts ip ≠ some 0) (ip : Str) {entry : Option Nat}
    (hentry : entry ≠ some 0) (k : Str) : Function.update counts ip entry k ≠ some 0 := by
  by_cases hk : k = ip
  · rw [hk, Function.update_self]
    exact hentry
  · rw [Function.update_of_ne hk]
    exact h k

/-- A full key has an entry already, so a refused call changes nothing. -/
lemma update_entry {ip : Str} (hpos : 0 < (counts ip).getD 0) :
    Function.update counts ip (some ((counts ip).getD 0)) = counts := by
  rw [Function.update_eq_self_iff]
  rcases hentry : counts ip with _ | n
  · rw [hentry] at hpos
    exact absurd hpos (Nat.lt_irrefl 0)
  · rfl

lemma dropIpConnPermit_eq {ip : Str} {n : Nat} (h : counts ip = some n) :
    dropIpConnPermit (some ip) counts = Function.update counts ip (if n - 1 = 0 then none else some (n - 1)) := by
  rw [dropIpConnPermit, h]

lemma Exact.acquire (h : Exact max s) {ip : Str} (hroom : (s.counts ip).getD 0 < max) :
    Exact max ⟨Function.update s.counts ip (some ((s.counts ip).getD 0 + 1)), some ip :: s.live⟩ :=
  ⟨h.counted.acquire _ hroom fun permit => counted_update _ _ _ permit, update_ne_zero h.positive ip nofun⟩

lemma Exact.drop (h : Exact max s) {ip : Str} {n : Nat} (hentry : s.counts ip = some n) :
    Exact max ⟨dropIpConnPermit (some ip) s.counts, s.live.erase (some ip)⟩ := by
  have hcount : Tracker.counted s.counts (some ip) = n := by
    rw [Tracker.counted, hentry]
    rfl
  rw [dropIpConnPermit_eq hentry]
  refine ⟨h.counted.drop fun permit => ?_, update_ne_zero h.positive ip ?_⟩
  · rw [counted_update, hcount]
    split
    · split
      · next hlast => exact hlast.symm
      · rfl
    · rfl
  · split
    · exact nofun
    · next hlast => exact fun heq => hlast (Option.some.inj heq)

/-- The permits that are live have an entry in the map; none of them counts nothing. -/
lemma Exact.entry (h : Exact max s) {permit : Option Str} (hlive : permit ∈ s.live) :
    ∃ ip n, permit = some ip ∧ s.counts ip = some n := by
  have hpos : 0 < Tracker.counted s.counts permit := by
    rw [h.counted.exact]
    exact List.count_pos_iff.mpr hlive
  rcases permit with _ | ip
  · exact absurd hpos (Nat.lt_irrefl 0)
  · rcases hentry : s.counts ip with _ | n
    · rw [Tracker.counted, hentry] at hpos
      exact absurd hpos (Nat.lt_irrefl 0)
    · exact ⟨ip, n, rfl, hentry⟩

lemma Exact.step (hmax : max ≠ 0) {s' : Tracker} {event : TrackerEvent}
    (hstep : s.step max event = some s') (h : Exact max s) : Exact max s' := by
  cases event with
  | acquire ip =>
    simp only [Tracker.step, ipTryAcquire_eq hmax] at hstep
    by_cases hroom : (s.counts (ipKey ip)).getD 0 < max
    · rw [if_pos hroom] at hstep
      obtain rfl := Option.some.inj hstep
      exact h.acquire hroom
    · rw [if_neg hroom, update_entry (by omega)] at hstep
      obtain rfl := Option.some.inj hstep
      exact h
  | drop permit =>
    simp only [Tracker.step] at hstep
    split at hstep
    · next hlive =>
      obtain rfl := Option.some.inj hstep
      obtain ⟨ip, n, rfl, hentry⟩ := h.entry hlive
      exact h.drop hentry
    · cases hstep

lemma Exact.count_eq (h : Exact max s) (ip : Str) :
    (s.counts ip).getD 0 = s.live.count (some ip) := h.counted.exact (some ip)

lemma Exact.count_le (h : Exact max s) (ip : Str) : (s.counts ip).getD 0 ≤ max :=
  h.counted.bound (some ip)

lemma Exact.isSome_iff (h : Exact max s) (ip : Str) :
    (s.counts ip).isSome ↔ 0 < s.live.count (some ip) := by
  rw [← h.count_eq]
  rcases hentry : s.counts ip with _ | n
  · exact ⟨nofun, fun hlt => absurd hlt (Nat.lt_irrefl 0)⟩
  · refine ⟨fun _ => Nat.pos_of_ne_zero fun hzero => ?_, fun _ => rfl⟩
    exact h.positive ip (by rw [hentry, show n = 0 from hzero])

lemma Exact.counts_eq_none (h : Exact max s) (hlive : s.live = []) :
    s.counts = fun _ => none := by
  funext ip
  rw [← Option.not_isSome_iff_eq_none, h.isSome_iff, hlive, List.count_nil]
  exact Nat.lt_irrefl 0

end Tracker

/-- A gate and the permits that were handed out and not dropped, each with its field `active`. -/
structure Gate where
  current : Nat
  live : List Bool

def Gate.new : Gate := ⟨0, []⟩

/-- What a thread does with a gate. -/
inductive GateEvent where
  | acquire
  | drop (active : Bool)

/-- One operation; a permit is dropped by the one who holds it. -/
def Gate.step (max : Nat) (g : Gate) : GateEvent → Option Gate
  | .acquire =>
    match tryAcquire max g.current with
    | (.ok active, current) => some ⟨current, active :: g.live⟩
    | (.error _, current) => some ⟨current, g.live⟩
  | .drop active => if active ∈ g.live then some ⟨dropPermit active g.current, g.live.erase active⟩ else none

lemma tryAcquire_eq (hmax : max ≠ 0) (current : Nat) :
    tryAcquire max current =
      if current < max then (.ok true, current + 1) else (.error .rateLimited, current) := by
  simp only [tryAcquire, if_neg hmax, Op.bind_run, Op.get_run, Op.lift_run, Op.modify_run]
  by_cases hroom : current < max
  · rw [if_pos hroom, failIf, if_neg (Nat.not_le.mpr hroom)]
    rfl
  · rw [if_neg hroom, failIf, if_pos (Nat.not_lt.mp hroom)]

namespace Gate

/-- The count of a permit: one that is not active counts nothing. -/
def counted (current : Nat) (active : Bool) : Nat := if active then current else 0

/-- The counter is the number of live permits, and within its limit. -/
def Exact (max : Nat) (g : Gate) : Prop := Counted max (counted g.current) g.live

lemma Exact.new (max : Nat) : Exact max new := by
  refine ⟨fun k => ?_, fun k => ?_⟩
  · cases k <;> rfl
  · cases k <;> exact Nat.zero_le max

lemma counted_eq (current current' : Nat) (active : Bool) :
    Gate.counted current' active = if active = true then current' else Gate.counted current active := by
  cases active <;> rfl

lemma Exact.step (hmax : max ≠ 0) {g g' : Gate} {event : GateEvent} (hstep : g.step max event = some g')
    (h : Exact max g) : Exact max g' := by
  cases event with
  | acquire =>
    simp only [Gate.step, tryAcquire_eq hmax] at hstep
    by_cases hroom : g.current < max
    · rw [if_pos hroom] at hstep
      obtain rfl := Option.some.inj hstep
      exact Counted.acquire h true hroom fun active => counted_eq g.current _ active
    · rw [if_neg hroom] at hstep
      obtain rfl := Option.some.inj hstep
      exact h
  | drop active =>
    simp only [Gate.step] at hstep
    split at hstep
    · next hlive =>
      obtain rfl := Option.some.inj hstep
      cases active with
      | false =>
        have hzero : g.live.count false = 0 := (h.exact false).symm
        exact absurd hlive (List.count_eq_zero.mp hzero)
      | true => exact Counted.drop h fun active => counted_eq g.current _ active
    · cases hstep

lemma Exact.current_eq {g : Gate} (h : Exact max g) : g.current = g.live.length := by
  have htrue : g.current = g.live.count true := h.exact true
  have hfalse : g.live.count false = 0 := (h.exact false).symm
  have hall := List.count_false_add_count_true g.live
  omega

end Gate

lemma refused_iff {α σ : Type} {n : Nat} (hle : n ≤ max) {a : α} {e : ApiError} {s s' : σ} :
    (∃ e', (if n < max then (Except.ok a, s) else (Except.error e, s')).1 = .error e') ↔ n = max := by
  by_cases hroom : n < max
  · rw [if_pos hroom]
    exact ⟨nofun, fun heq => absurd heq (Nat.ne_of_lt hroom)⟩
  · rw [if_neg hroom]
    exact ⟨fun _ => by omega, fun _ => ⟨e, rfl⟩⟩

/-- **Permit accounting.**  In every interleaving of acquisitions and drops, with a limit: an address is stored with the
number of its live permits, which is within the limit, and has an entry just when that is positive; an acquisition fails
just when the limit is live; without live permits the map is empty.  The gate's counter is as exact. -/
theorem permit_accounting (max : UInt32) (hmax : 0 < max) :
    (∀ events s, exec (Tracker.step max.toNat) .new events = some s →
      (∀ ip, (s.counts ip).getD 0 = s.live.count (some ip) ∧ s.live.count (some ip) ≤ max.toNat ∧
        ((s.counts ip).isSome ↔ 0 < s.live.count (some ip))) ∧
      (∀ ip, (∃ e, (ipTryAcquire max.toNat ip s.counts).1 = .error e) ↔
        s.live.count (some (ipKey ip)) = max.toNat) ∧
      (s.live = [] → s.counts = fun _ => none)) ∧
    ∀ events g, exec (Gate.step max.toNat) .new events = some g →
      g.current = g.live.length ∧ g.current ≤ max.toNat ∧
        ((∃ e, (tryAcquire max.toNat g.current).1 = .error e) ↔ g.live.length = max.toNat) := by
  have hpos : max.toNat ≠ 0 := Nat.ne_of_gt hmax
  refine ⟨fun events s hrun => ?_, fun events g hrun => ?_⟩
  · have h : s.Exact max.toNat := exec_inv (fun _ _ _ hstep => Tracker.Exact.step hpos hstep) hrun (.new _)
    refine ⟨fun ip => ⟨h.count_eq ip, ?_, h.isSome_iff ip⟩, fun ip => ?_, h.counts_eq_none⟩
    · rw [← h.count_eq]
      exact h.count_le ip
    · rw [ipTryAcquire_eq hpos, ← h.count_eq]
      exact refused_iff (h.count_le _)
  · have h : g.Exact max.toNat := exec_inv (fun _ _ _ hstep => Gate.Exact.step hpos hstep) hrun (.new _)
    have hbound : g.current ≤ max.toNat := h.bound true
    refine ⟨h.current_eq, hbound, ?_⟩
    rw [tryAcquire_eq hpos, ← h.current_eq]
    exact refused_iff hbound

def sampleEvents : List TrackerEvent :=
  [.acquire "a", .acquire [], .acquire "a", .acquire "a", .drop (some "unknown"), .drop (some "a"), .drop (some "a")]

theorem permit_accounting_sample : ∃ s, exec (Tracker.step (2 : UInt32).toNat) .new sampleEvents = some s ∧
    s.counts = fun _ => none := by
  refine ⟨_, rfl, ((permit_accounting 2 (by decide)).1 sampleEvents _ rfl).2.2 rfl⟩

end TeechatOpenapi.Core
