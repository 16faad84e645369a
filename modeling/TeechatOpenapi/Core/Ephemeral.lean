import TeechatOpenapi.Lib.HashMap
import TeechatOpenapi.Lib.Mutex
import TeechatOpenapi.Lib.Runs
import TeechatOpenapi.Lib.Text

/-!
# The ephemeral store (`openapi-core/src/ephemeral.rs`)

A map behind a mutex whose entries expire.  Each call is given the instants that it reads from the clock, in
nanoseconds.  An instant that cannot be represented is a panic, and a panic under the lock poisons it.
-/

namespace TeechatOpenapi.Core

open Lib

/-- `EphemeralStoreConfig`; the time to live is in nanoseconds. -/
structure EphemeralStoreConfig where
  defaultTtl : Nat := 3600 * 1000000000
  maxEntries : Nat := 10000
  maxBytesPerEntry : Nat := 4 * 1024 * 1024

/-- `Entry`. -/
structure EphemeralEntry where
  value : Bytes
  expiresAt : Nat

/-- Why a value is not stored. -/
inductive EphemeralError where
  | tooLarge
  | capacity
  deriving DecidableEq

abbrev EphemeralEntries : Type := HashMap Str EphemeralEntry

/-- `EphemeralStore`, without its configuration. -/
abbrev EphemeralStore : Type := Mutex EphemeralEntries

/-- The last `Instant` on Linux, where it counts seconds in an `i64`. -/
def linuxInstantMax : Nat := 2 ^ 63 * 1000000000 - 1

def durationMax : Nat := 2 ^ 64 * 1000000000 - 1

/-- `Instant + Duration`, which panics behind the last instant. -/
def addDuration {ε : Type} (instantMax instant duration : Nat) : Except (Fault ε) Nat :=
  if instant + duration ≤ instantMax then .ok (instant + duration) else .error .panicked

def evictExpired (now : Nat) (map : EphemeralEntries) : EphemeralEntries :=
  HashMap.retain (fun _ e => now < e.expiresAt) map

variable {value : Bytes} {s : EphemeralStore}

namespace EphemeralStore

section Calls

variable (cfg : EphemeralStoreConfig) (instantMax : Nat)

/-- `map.len() >= max_entries && !map.contains_key(&key)`. -/
def Full (key : Str) (map : EphemeralEntries) : Prop := cfg.maxEntries ≤ HashMap.size map ∧ key ∉ map

instance (key : Str) (map : EphemeralEntries) : Decidable (Full cfg key map) := inferInstanceAs (Decidable (_ ∧ _))

/-- The part of `put` under the lock; the clock is read for the eviction and again for the new entry. -/
def putEntry (key : Str) (value : Bytes) (evictedAt storedAt : Nat) :
    Op EphemeralEntries (Fault EphemeralError) Unit := do
  Op.modify (evictExpired evictedAt)
  let map ← Op.get
  Op.lift (failIf (Full cfg key map) (.returned .capacity))
  let expiresAt ← Op.lift (addDuration instantMax storedAt cfg.defaultTtl)
  Op.modify fun map => map.insert key ⟨value, expiresAt⟩

def put (key : Str) (value : Bytes) (evictedAt storedAt : Nat) : Op EphemeralStore (Fault EphemeralError) Unit := do
  Op.lift (failIf (cfg.maxBytesPerEntry < value.length) (.returned .tooLarge))
  Mutex.locked (putEntry cfg instantMax key value evictedAt storedAt)

/-- The part of `get` under the lock. -/
def getEntry (key : Str) (now : Nat) : Op EphemeralEntries (Fault EphemeralError) (Option Bytes) := do
  Op.modify (evictExpired now)
  let map ← Op.get
  return (map.lookup key).map EphemeralEntry.value

def get (key : Str) (now : Nat) : Op EphemeralStore (Fault EphemeralError) (Option Bytes) :=
  Mutex.locked (getEntry key now)

/-- The part of `remove` under the lock. -/
def removeEntry (key : Str) : Op EphemeralEntries (Fault EphemeralError) Bool := do
  let map ← Op.get
  Op.modify fun map => map.erase key
  return (map.lookup key).isSome

def remove (key : Str) : Op EphemeralStore (Fault EphemeralError) Bool := Mutex.locked (removeEntry key)

variable {cfg instantMax}

lemma put_tooLarge {key : Str} (h : cfg.maxBytesPerEntry < value.length) (evictedAt storedAt : Nat)
    (s : EphemeralStore) :
    put cfg instantMax key value evictedAt storedAt s = (.error (.returned .tooLarge), s) :=
  Op.lift_bind_of_error (failIf_eq_error.mpr ⟨h, rfl⟩)

lemma put_locked {key : Str} (h : ¬ cfg.maxBytesPerEntry < value.length) (evictedAt storedAt : Nat)
    (s : EphemeralStore) :
    put cfg instantMax key value evictedAt storedAt s =
      Mutex.locked (putEntry cfg instantMax key value evictedAt storedAt) s :=
  Op.lift_bind_of_ok (a := ()) (failIf_eq_ok.mpr h)

variable (cfg instantMax) in
lemma putEntry_eq (key : Str) (value : Bytes) (evictedAt storedAt : Nat) (map : EphemeralEntries) :
    putEntry cfg instantMax key value evictedAt storedAt map =
      if Full cfg key (evictExpired evictedAt map) then
        (.error (.returned .capacity), evictExpired evictedAt map)
      else if storedAt + cfg.defaultTtl ≤ instantMax then
        (.ok (), (evictExpired evictedAt map).insert key ⟨value, storedAt + cfg.defaultTtl⟩)
      else (.error .panicked, evictExpired evictedAt map) := by
  rw [putEntry, Op.bind_of_ok (Op.modify_run _ map), Op.bind_of_ok (Op.get_run _)]
  by_cases hfull : Full cfg key (evictExpired evictedAt map)
  · rw [if_pos hfull]
    exact Op.lift_bind_of_error (failIf_eq_error.mpr ⟨hfull, rfl⟩)
  · rw [if_neg hfull, Op.lift_bind_of_ok (a := ()) (failIf_eq_ok.mpr hfull)]
    by_cases hrange : storedAt + cfg.defaultTtl ≤ instantMax
    · rw [if_pos hrange]
      exact Op.lift_bind_of_ok (if_pos hrange)
    · rw [if_neg hrange]
      exact Op.lift_bind_of_error (if_neg hrange)

lemma getEntry_eq (key : Str) (now : Nat) (map : EphemeralEntries) :
    getEntry key now map = (.ok (((evictExpired now map).lookup key).map EphemeralEntry.value), evictExpired now map) :=
  rfl

lemma removeEntry_eq (key : Str) (map : EphemeralEntries) :
    removeEntry key map = (.ok (map.lookup key).isSome, map.erase key) := rfl

/-- The entries are not too many, and none is too long. -/
structure Bounded (cfg : EphemeralStoreConfig) (map : EphemeralEntries) : Prop where
  size : HashMap.size map ≤ cfg.maxEntries
  value : ∀ key e, map.lookup key = some e → e.value.length ≤ cfg.maxBytesPerEntry

lemma bounded_empty : Bounded cfg ∅ where
  size := Nat.zero_le _
  value _ _ h := absurd h (Option.not_mem_none _)

lemma lookup_evictExpired (now : Nat) (map : EphemeralEntries) (key : Str) :
    (evictExpired now map).lookup key = (map.lookup key).filter fun e => now < e.expiresAt :=
  HashMap.lookup_retain _ map key

namespace Bounded

variable {map : EphemeralEntries}

lemma evictExpired (h : Bounded cfg map) (now : Nat) : Bounded cfg (evictExpired now map) where
  size := (HashMap.size_retain_le _ map).trans h.size
  value key e hlookup := by
    rw [lookup_evictExpired] at hlookup
    exact h.value key e (Option.filter_eq_some_iff.mp hlookup).1

lemma insert (h : Bounded cfg map) {key : Str} {e : EphemeralEntry} (hroom : ¬ Full cfg key map)
    (hvalue : e.value.length ≤ cfg.maxBytesPerEntry) : Bounded cfg (map.insert key e) where
  size := by
    rw [HashMap.size_insert]
    split_ifs with hmem
    · exact h.size
    · exact Nat.lt_of_not_le fun hfull => hroom ⟨hfull, hmem⟩
  value k e' hlookup := by
    by_cases hk : k = key
    · rw [hk, AList.lookup_insert] at hlookup
      rw [← Option.some.inj hlookup]
      exact hvalue
    · rw [AList.lookup_insert_ne hk] at hlookup
      exact h.value k e' hlookup

lemma erase (h : Bounded cfg map) (key : Str) : Bounded cfg (map.erase key) where
  size := (HashMap.size_erase_le map key).trans h.size
  value k e hlookup := by
    by_cases hk : k = key
    · rw [hk, AList.lookup_erase] at hlookup
      cases hlookup
    · rw [AList.lookup_erase_ne hk] at hlookup
      exact h.value k e hlookup

lemma putEntry (h : Bounded cfg map) (hvalue : ¬ cfg.maxBytesPerEntry < value.length) (key : Str)
    (evictedAt storedAt : Nat) :
    Bounded cfg (putEntry cfg instantMax key value evictedAt storedAt map).2 := by
  rw [putEntry_eq]
  split_ifs with hfull hrange
  · exact h.evictExpired evictedAt
  · exact (h.evictExpired evictedAt).insert hfull (Nat.le_of_not_lt hvalue)
  · exact h.evictExpired evictedAt

end Bounded

/-- What was done to the store. -/
inductive Event where
  | stored (key : Str) (value : Bytes) (storedAt : Nat)
  | removed (key : Str)

/-- What was put last under a key, unless it was removed since.  The record starts with the latest event. -/
def lastPut (key : Str) : List Event → Option (Bytes × Nat)
  | [] => none
  | .stored k value storedAt :: log => if k = key then some (value, storedAt) else lastPut key log
  | .removed k :: log => if k = key then none else lastPut key log

/-- The last value under a key, if it was put less than the time to live ago. -/
def readable (ttl : Nat) (log : List Event) (key : Str) (now : Nat) : Option Bytes :=
  ((lastPut key log).filter fun p => now < p.2 + ttl).map Prod.fst

/-- The entry for what was put last. -/
def lastEntry (ttl : Nat) (key : Str) (log : List Event) : Option EphemeralEntry :=
  (lastPut key log).map fun p => ⟨p.1, p.2 + ttl⟩

/-- An entry that has not expired. -/
def live (now : Nat) (e : Option EphemeralEntry) : Option EphemeralEntry := e.filter fun e => now < e.expiresAt

lemma readable_eq (ttl : Nat) (log : List Event) (key : Str) (now : Nat) :
    readable ttl log key now = (live now (lastEntry ttl key log)).map EphemeralEntry.value := by
  rw [readable, live, lastEntry]
  cases lastPut key log with
  | none => rfl
  | some p =>
    by_cases hlive : now < p.2 + ttl
    · simp [Option.filter, hlive]
    · simp [Option.filter, hlive]

/-- The entries that are alive at an instant are those of the record. -/
def FollowsLog (ttl now : Nat) (map : EphemeralEntries) (log : List Event) : Prop :=
  ∀ key, live now (map.lookup key) = live now (lastEntry ttl key log)

/-- An eviction changes nothing for later readers. -/
lemma live_evictExpired {t now : Nat} (h : t ≤ now) (map : EphemeralEntries) (key : Str) :
    live now ((evictExpired t map).lookup key) = live now (map.lookup key) := by
  rw [lookup_evictExpired, live, live, Option.filter_filter]
  congr 1
  funext e
  have himp : now < e.expiresAt → t < e.expiresAt := h.trans_lt
  by_cases hlive : now < e.expiresAt
  · simp [hlive, himp hlive]
  · simp [hlive]

namespace FollowsLog

variable {ttl now : Nat} {map : EphemeralEntries} {log : List Event}

lemma evictExpired (h : FollowsLog ttl now map log) {t : Nat} (ht : t ≤ now) :
    FollowsLog ttl now (evictExpired t map) log :=
  fun key => (live_evictExpired ht map key).trans (h key)

lemma insert (h : FollowsLog ttl now map log) (key : Str) (value : Bytes) (storedAt : Nat) :
    FollowsLog ttl now (map.insert key ⟨value, storedAt + ttl⟩) (.stored key value storedAt :: log) := by
  intro k
  by_cases hk : k = key
  · rw [hk, AList.lookup_insert, lastEntry, lastPut, if_pos rfl]
    rfl
  · rw [AList.lookup_insert_ne hk, lastEntry, lastPut, if_neg (Ne.symm hk)]
    exact h k

lemma erase (h : FollowsLog ttl now map log) (key : Str) :
    FollowsLog ttl now (map.erase key) (.removed key :: log) := by
  intro k
  by_cases hk : k = key
  · rw [hk, AList.lookup_erase, lastEntry, lastPut, if_pos rfl]
    rfl
  · rw [AList.lookup_erase_ne hk, lastEntry, lastPut, if_neg (Ne.symm hk)]
    exact h k

end FollowsLog

/-- A call, with the instants that it reads. -/
inductive Call where
  | put (key : Str) (value : Bytes) (evictedAt storedAt : Nat)
  | get (key : Str) (now : Nat)
  | remove (key : Str)

/-- The instants that a call reads, in their order. -/
def Call.readings : Call → List Nat
  | .put _ _ evictedAt storedAt => [evictedAt, storedAt]
  | .get _ now => [now]
  | .remove _ => []

/-- A store and the record of what was done to it. -/
structure Served where
  store : EphemeralStore
  log : List Event

/-- The record is of calls that returned. -/
def recordIf {α : Type} (r : Except (Fault EphemeralError) α) (e : Event) (log : List Event) : List Event :=
  match r with
  | .ok _ => e :: log
  | .error _ => log

variable (cfg instantMax) in
def serve (s : Served) : Call → Served
  | .put key value evictedAt storedAt =>
    let (r, store) := put cfg instantMax key value evictedAt storedAt s.store
    ⟨store, recordIf r (.stored key value storedAt) s.log⟩
  | .get key now => ⟨(get key now s.store).2, s.log⟩
  | .remove key =>
    let (r, store) := remove key s.store
    ⟨store, recordIf r (.removed key) s.log⟩

variable (cfg instantMax) in
/-- The calls, one after the other, on a new store. -/
def run (calls : List Call) : Served := runAll (serve cfg instantMax) ⟨Mutex.new ∅, []⟩ calls

lemma run_concat (calls : List Call) (c : Call) :
    run cfg instantMax (calls ++ [c]) = serve cfg instantMax (run cfg instantMax calls) c := runAll_append _ _ _ _

variable (cfg instantMax) in
/-- A `put` finds room, and its expiry is behind the last instant. -/
def Overflows (map : EphemeralEntries) : Call → Prop
  | .put key value evictedAt storedAt => value.length ≤ cfg.maxBytesPerEntry ∧
      ¬ Full cfg key (evictExpired evictedAt map) ∧ instantMax < storedAt + cfg.defaultTtl
  | .get _ _ => False
  | .remove _ => False

lemma Bounded.serve {s : Served} (h : Bounded cfg s.store.data) (c : Call) :
    Bounded cfg (serve cfg instantMax s c).store.data := by
  cases c with
  | put key value evictedAt storedAt =>
    change Bounded cfg (EphemeralStore.put cfg instantMax key value evictedAt storedAt s.store).2.data
    by_cases hvalue : cfg.maxBytesPerEntry < value.length
    · rw [put_tooLarge hvalue]
      exact h
    · rw [put_locked hvalue]
      exact Mutex.locked_inv (fun map hmap => hmap.putEntry hvalue key evictedAt storedAt) h
  | get key now => exact Mutex.locked_inv (fun map hmap => hmap.evictExpired now) h
  | remove key => exact Mutex.locked_inv (fun map hmap => hmap.erase key) h

lemma serve_poisoned {s : Served} (h : s.store.poisoned = true) (c : Call) :
    (serve cfg instantMax s c).store.poisoned = true := by
  cases c with
  | put key value evictedAt storedAt =>
    change (put cfg instantMax key value evictedAt storedAt s.store).2.poisoned = true
    by_cases hvalue : cfg.maxBytesPerEntry < value.length
    · rw [put_tooLarge hvalue]
      exact h
    · rw [put_locked hvalue, Mutex.locked_poisoned h]
      exact h
  | get key now =>
    change (get key now s.store).2.poisoned = true
    rw [get, Mutex.locked_poisoned h]
    exact h
  | remove key =>
    change (remove key s.store).2.poisoned = true
    rw [remove, Mutex.locked_poisoned h]
    exact h

variable (cfg instantMax) in
/-- **One call on a store that is not poisoned**: it becomes poisoned exactly by an expiry out of range, and otherwise
the store and the record stay together. -/
theorem serve_free {s : Served} (h : s.store.poisoned = false) (c : Call) :
    ((serve cfg instantMax s c).store.poisoned = true ↔ Overflows cfg instantMax s.store.data c) ∧
      (¬ Overflows cfg instantMax s.store.data c → ∀ now, (∀ t ∈ c.readings, t ≤ now) →
        FollowsLog cfg.defaultTtl now s.store.data s.log →
        FollowsLog cfg.defaultTtl now (serve cfg instantMax s c).store.data (serve cfg instantMax s c).log) := by
  cases c with
  | put key value evictedAt storedAt =>
    have hput {r : Except (Fault EphemeralError) Unit} {map : EphemeralEntries}
        (hvalue : ¬ cfg.maxBytesPerEntry < value.length)
        (heq : putEntry cfg instantMax key value evictedAt storedAt s.store.data = (r, map)) :
        serve cfg instantMax s (.put key value evictedAt storedAt) =
          ⟨⟨map, panics r⟩, recordIf r (.stored key value storedAt) s.log⟩ := by
      rw [serve, put_locked hvalue, Mutex.locked_free h, heq]
    by_cases hvalue : cfg.maxBytesPerEntry < value.length
    · have hserve : serve cfg instantMax s (.put key value evictedAt storedAt) = s := by
        rw [serve, put_tooLarge hvalue]
        rfl
      rw [hserve, h]
      exact ⟨iff_of_false Bool.false_ne_true fun hover => absurd hvalue (Nat.not_lt.mpr hover.1),
        fun _ now hnow hagrees => hagrees⟩
    · have hevicted (now : Nat) (hnow : ∀ t ∈ (Call.put key value evictedAt storedAt).readings, t ≤ now)
          (hagrees : FollowsLog cfg.defaultTtl now s.store.data s.log) :
          FollowsLog cfg.defaultTtl now (evictExpired evictedAt s.store.data) s.log :=
        hagrees.evictExpired (hnow evictedAt List.mem_cons_self)
      have heq := putEntry_eq cfg instantMax key value evictedAt storedAt s.store.data
      split_ifs at heq with hfull hrange
      · rw [hput hvalue heq]
        exact ⟨iff_of_false Bool.false_ne_true fun hover => hover.2.1 hfull, fun _ => hevicted⟩
      · rw [hput hvalue heq]
        refine ⟨iff_of_false Bool.false_ne_true fun hover => absurd hrange (Nat.not_le.mpr hover.2.2), ?_⟩
        exact fun _ now hnow hagrees => (hevicted now hnow hagrees).insert key value storedAt
      · rw [hput hvalue heq]
        have hover : Overflows cfg instantMax s.store.data (.put key value evictedAt storedAt) :=
          ⟨Nat.le_of_not_lt hvalue, hfull, Nat.lt_of_not_le hrange⟩
        exact ⟨iff_of_true rfl hover, fun hnot => absurd hover hnot⟩
  | get key now =>
    have hserve : serve cfg instantMax s (.get key now) = ⟨⟨evictExpired now s.store.data, false⟩, s.log⟩ := by
      rw [serve, get, Mutex.locked_free h, getEntry_eq]
      rfl
    rw [hserve]
    exact ⟨iff_of_false Bool.false_ne_true id, fun _ now' hnow hagrees =>
      hagrees.evictExpired (hnow now List.mem_cons_self)⟩
  | remove key =>
    have hserve : serve cfg instantMax s (.remove key) =
        ⟨⟨s.store.data.erase key, false⟩, .removed key :: s.log⟩ := by
      rw [serve, remove, Mutex.locked_free h, removeEntry_eq]
      rfl
    rw [hserve]
    exact ⟨iff_of_false Bool.false_ne_true id, fun _ now' hnow hagrees => hagrees.erase key⟩

variable (cfg instantMax) in
/-- One of the calls was a `put` whose expiry was out of range. -/
def Overflowed (calls : List Call) : Prop :=
  ∃ before c, before ++ [c] <+: calls ∧ Overflows cfg instantMax (run cfg instantMax before).store.data c

lemma overflowed_concat (calls : List Call) (c : Call) : Overflowed cfg instantMax (calls ++ [c]) ↔
    Overflowed cfg instantMax calls ∨ Overflows cfg instantMax (run cfg instantMax calls).store.data c := by
  constructor
  · rintro ⟨before, c', hfront, hover⟩
    rcases List.prefix_concat_iff.mp hfront with heq | hfront
    · obtain ⟨rfl, hc⟩ := List.append_inj' heq rfl
      obtain rfl := List.singleton_inj.mp hc
      exact Or.inr hover
    · exact Or.inl ⟨before, c', hfront, hover⟩
  · rintro (⟨before, c', hfront, hover⟩ | hover)
    · exact ⟨before, c', hfront.trans (List.prefix_append _ _), hover⟩
    · exact ⟨calls, c, List.prefix_rfl, hover⟩

variable (cfg instantMax) in
/-- **A run of the store**: its data are bounded, it is poisoned exactly if an expiry was out of range, and until then
its live entries are those of the record, for a clock that is not behind any instant that was read. -/
theorem run_spec (calls : List Call) :
    Bounded cfg (run cfg instantMax calls).store.data ∧
      ((run cfg instantMax calls).store.poisoned = true ↔ Overflowed cfg instantMax calls) ∧
      (¬ Overflowed cfg instantMax calls → ∀ now, (∀ t ∈ calls.flatMap Call.readings, t ≤ now) →
        FollowsLog cfg.defaultTtl now (run cfg instantMax calls).store.data (run cfg instantMax calls).log) := by
  induction calls using List.reverseRecOn with
  | nil =>
    refine ⟨bounded_empty, iff_of_false Bool.false_ne_true ?_, fun _ now _ key => rfl⟩
    rintro ⟨before, c, hfront, -⟩
    cases List.append_ne_nil_of_right_ne_nil before (List.cons_ne_nil c []) (List.prefix_nil.mp hfront)
  | append_singleton calls c ih =>
    obtain ⟨hbounded, hpoisoned, hagrees⟩ := ih
    rw [overflowed_concat, run_concat]
    refine ⟨hbounded.serve c, ?_⟩
    cases hlock : (run cfg instantMax calls).store.poisoned with
    | true =>
      have hover := hpoisoned.mp hlock
      exact ⟨iff_of_true (serve_poisoned hlock c) (Or.inl hover), fun hnot => absurd (Or.inl hover) hnot⟩
    | false =>
      have hnone : ¬ Overflowed cfg instantMax calls := fun hover =>
        Bool.false_ne_true (hlock.symm.trans (hpoisoned.mpr hover))
      obtain ⟨hstep, hkeeps⟩ := serve_free cfg instantMax hlock c
      refine ⟨hstep.trans ⟨Or.inr, fun h => h.resolve_left hnone⟩, fun hnot now hnow => ?_⟩
      rw [List.flatMap_append] at hnow
      refine hkeeps (fun hover => hnot (Or.inr hover)) now (fun t ht => hnow t ?_)
        (hagrees hnone now fun t ht => hnow t ?_)
      · rw [List.flatMap_singleton]
        exact List.mem_append_right _ ht
      · exact List.mem_append_left _ ht

lemma get_free (h : s.poisoned = false) (key : Str) (now : Nat) :
    (get key now s).1 = .ok ((live now (s.data.lookup key)).map EphemeralEntry.value) := by
  rw [get, Mutex.locked_free h, getEntry_eq, lookup_evictExpired]
  rfl

lemma get_poisoned (h : s.poisoned = true) (key : Str) (now : Nat) :
    (get key now s).1 = .error .panicked := by rw [get, Mutex.locked_poisoned h]

/-- A `put` that returns an error has evicted entries at most. -/
lemma put_returned {key : Str} {evictedAt storedAt : Nat} {e : EphemeralError}
    (h : (put cfg instantMax key value evictedAt storedAt s).1 = .error (.returned e)) :
    (put cfg instantMax key value evictedAt storedAt s).2 = s ∨
      s.poisoned = false ∧
        (put cfg instantMax key value evictedAt storedAt s).2 = ⟨evictExpired evictedAt s.data, false⟩ := by
  by_cases hvalue : cfg.maxBytesPerEntry < value.length
  · rw [put_tooLarge hvalue]
    exact Or.inl rfl
  · rw [put_locked hvalue] at h ⊢
    cases hlock : s.poisoned with
    | true =>
      rw [Mutex.locked_poisoned hlock]
      exact Or.inl rfl
    | false =>
      rw [Mutex.locked_free hlock, putEntry_eq] at h ⊢
      by_cases hfull : Full cfg key (evictExpired evictedAt s.data)
      · rw [if_pos hfull]
        exact Or.inr ⟨rfl, rfl⟩
      · rw [if_neg hfull] at h
        by_cases hrange : storedAt + cfg.defaultTtl ≤ instantMax
        · rw [if_pos hrange] at h
          cases h
        · rw [if_neg hrange] at h
          cases h

end Calls

/-- **The store is exact.**  It stays within its bounds.  A reader finds the last value that was put under a key less
than the time to live ago and not removed since, and nothing otherwise, exactly as long as no `put` has run into an
instant out of range.  A `put` that is refused changes nothing for readers. -/
theorem ephemeral_store_exact_iff (cfg : EphemeralStoreConfig) (instantMax : Nat) (calls : List Call) :
    Bounded cfg (run cfg instantMax calls).store.data ∧
    (∀ key now, (∀ t ∈ calls.flatMap Call.readings, t ≤ now) →
      ((get key now (run cfg instantMax calls).store).1 =
          .ok (readable cfg.defaultTtl (run cfg instantMax calls).log key now) ↔
        ¬ Overflowed cfg instantMax calls)) ∧
    ∀ key value evictedAt storedAt e,
      (put cfg instantMax key value evictedAt storedAt (run cfg instantMax calls).store).1 = .error (.returned e) →
      ∀ k now, evictedAt ≤ now →
        (get k now (put cfg instantMax key value evictedAt storedAt (run cfg instantMax calls).store).2).1 =
          (get k now (run cfg instantMax calls).store).1 := by
  obtain ⟨hbounded, hpoisoned, hagrees⟩ := run_spec cfg instantMax calls
  refine ⟨hbounded, fun key now hnow => ?_, ?_⟩
  · cases hlock : (run cfg instantMax calls).store.poisoned with
    | true =>
      rw [get_poisoned hlock]
      exact iff_of_false (fun h => nomatch h) (not_not.mpr (hpoisoned.mp hlock))
    | false =>
      have hnone : ¬ Overflowed cfg instantMax calls := fun hover =>
        Bool.false_ne_true (hlock.symm.trans (hpoisoned.mpr hover))
      refine iff_of_true ?_ hnone
      rw [get_free hlock, readable_eq, hagrees hnone now hnow key]
  · intro key value evictedAt storedAt e hrefused k now hnow
    rcases put_returned hrefused with hsame | ⟨hlock, hevicted⟩
    · rw [hsame]
    · rw [hevicted, get_free hlock, get_free rfl, live_evictExpired hnow]

def sampleConfig : EphemeralStoreConfig := ⟨10, 2, 1⟩

def sampleCalls : List Call :=
  [.put "a" [1] 0 0, .put "b" [2] 1 1, .put "c" [3] 2 2, .put "a" [4] 3 3, .remove "b", .get "a" 4]

/-- The second value under a key, until it expires, and a key that was removed. -/
theorem ephemeral_store_exact_iff_sample :
    (get "a" 12 (run sampleConfig linuxInstantMax sampleCalls).store).1 = .ok (some [4]) ∧
      (get "a" 13 (run sampleConfig linuxInstantMax sampleCalls).store).1 = .ok none ∧
      (get "b" 4 (run sampleConfig linuxInstantMax sampleCalls).store).1 = .ok none := by
  have hnone : ¬ Overflowed sampleConfig linuxInstantMax sampleCalls := fun hover =>
    Bool.false_ne_true ((run_spec sampleConfig linuxInstantMax sampleCalls).2.1.mpr hover)
  have hexact := (ephemeral_store_exact_iff sampleConfig linuxInstantMax sampleCalls).2.1
  exact ⟨(hexact "a" 12 (by decide)).mpr hnone, (hexact "a" 13 (by decide)).mpr hnone,
    (hexact "b" 4 (by decide)).mpr hnone⟩

/-- Entries that are never to expire: the first `put` panics under the lock, and every `get` after it. -/
theorem unbounded_ttl_poisons :
    (put ⟨durationMax, 2, 1⟩ linuxInstantMax "a" [1] 0 0 (Mutex.new ∅)).1 = .error .panicked ∧
      readable durationMax (run ⟨durationMax, 2, 1⟩ linuxInstantMax [.put "a" [1] 0 0]).log "b" 1 = none ∧
      (get "b" 1 (run ⟨durationMax, 2, 1⟩ linuxInstantMax [.put "a" [1] 0 0]).store).1 = .error .panicked :=
  ⟨rfl, rfl, rfl⟩

end EphemeralStore

end TeechatOpenapi.Core
