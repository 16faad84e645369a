import Mathlib.Data.List.MinMax
import Mathlib.Data.Prod.Lex
import Mathlib.Order.WithBot
import TeechatOpenapi.Core.Maintenance

/-!
# The window that `select_active` picks

`select_active` walks over the windows and keeps the best so far.  Where no time in an applicable window makes the
parser panic, this is the first window of the highest rank: hard before soft, then by the end of the phase.
-/

namespace TeechatOpenapi.Core

open Lib

variable {w : MaintenanceWindow} {bounds : WindowBounds} {phase : MaintenancePhase} {a : ActiveMaintenance}

variable {best : Option ActiveMaintenance}

namespace Maintenance

/-- The end of a soft phase, where an absent one is infinite. -/
def softEnd : Option Nat → WithTop Nat
  | none => ⊤
  | some e => WithTop.some e

def WindowBounds.endIn (bounds : WindowBounds) : MaintenancePhase → WithTop Nat
  | .hard => WithTop.some bounds.hardNotAfterMs
  | .soft => softEnd bounds.softNotAfterMs

/-- A time is in a phase of a window with these bounds. -/
def WindowBounds.In (bounds : WindowBounds) (nowMs : Nat) : MaintenancePhase → Prop
  | .hard => bounds.notBeforeMs ≤ nowMs ∧ nowMs ≤ bounds.hardNotAfterMs
  | .soft => bounds.notBeforeMs ≤ nowMs ∧ bounds.hardNotAfterMs < nowMs ∧ bounds.hasSoftPhase = true ∧
      ∀ e, bounds.softNotAfterMs = some e → nowMs ≤ e

/-- An applicable window with resolvable bounds is in a phase. -/
def InPhaseAt (engineId : Option Str) (nowMs : Nat) (w : MaintenanceWindow) (bounds : WindowBounds)
    (phase : MaintenancePhase) : Prop :=
  applies engineId w = true ∧ resolveBounds w = .ok bounds ∧ bounds.In nowMs phase

/-- No time of an applicable window makes the parser panic. -/
def Readable (engineId : Option Str) (w : MaintenanceWindow) : Prop :=
  applies engineId w = true → resolveBounds w ≠ .error .panicked

lemma phaseAt_eq_some {nowMs : Nat} :
    phaseAt bounds nowMs = some phase ↔ bounds.In nowMs phase := by
  have hsoft : bounds.softNotAfterMs.elim true (nowMs ≤ ·) = true ↔
      ∀ e, bounds.softNotAfterMs = some e → nowMs ≤ e := by
    cases bounds.softNotAfterMs with
    | none => simp
    | some e => simp
  unfold phaseAt
  by_cases hstart : nowMs < bounds.notBeforeMs
  · rw [if_pos hstart]
    cases phase with
    | hard => simp only [WindowBounds.In, reduceCtorEq, false_iff]; omega
    | soft => simp only [WindowBounds.In, reduceCtorEq, false_iff]; omega
  rw [if_neg hstart]
  by_cases hhard : nowMs ≤ bounds.hardNotAfterMs
  · rw [if_pos hhard]
    cases phase with
    | hard => simp only [WindowBounds.In, true_iff]; omega
    | soft => simp only [WindowBounds.In, Option.some.injEq, reduceCtorEq, false_iff]; omega
  rw [if_neg hhard]
  cases phase with
  | hard =>
    have hno : ¬ bounds.In nowMs .hard := fun h => hhard h.2
    split_ifs <;> simp [hno]
  | soft =>
    have hin : bounds.In nowMs .soft ↔ bounds.hasSoftPhase = true ∧
        bounds.softNotAfterMs.elim true (nowMs ≤ ·) = true := by
      rw [hsoft]
      exact ⟨fun h => h.2.2, fun h => ⟨by omega, by omega, h⟩⟩
    rw [hin]
    split_ifs with hphase hend
    · exact ⟨fun _ => ⟨hphase, hend⟩, fun _ => rfl⟩
    · exact iff_of_false id fun h => hend h.2
    · exact iff_of_false id fun h => hphase h.1

/-- In a phase, its end has not passed: the subtraction behind `retry_after` does not go below zero. -/
lemma WindowBounds.In.le_end {nowMs : Nat} (h : bounds.In nowMs phase) : WithTop.some nowMs ≤ bounds.endIn phase := by
  cases phase with
  | hard => exact WithTop.coe_le_coe.mpr h.2
  | soft =>
    obtain ⟨-, -, -, hend⟩ := h
    rw [WindowBounds.endIn]
    cases hsoft : bounds.softNotAfterMs with
    | none => exact le_top
    | some e => exact WithTop.coe_le_coe.mpr (hend e hsoft)

/-- The end of the phase that counts. -/
def endMs (a : ActiveMaintenance) : WithTop Nat :=
  match a.phase with
  | .hard => WithTop.some a.hardNotAfterMs
  | .soft => softEnd a.softNotAfterMs

/-- Hard before soft, then by the end of the phase. -/
def rank (a : ActiveMaintenance) : Bool ×ₗ WithTop Nat := toLex (a.phase = .hard, endMs a)

/-- A soft end is below the value that stands for none. -/
def Finite (a : ActiveMaintenance) : Prop := ∀ e, a.softNotAfterMs = some e → e < u64Max

lemma better_iff_rank_lt {b c : ActiveMaintenance} (hb : Finite b) (hc : Finite c) :
    better c (some b) = true ↔ rank b < rank c := by
  have hsoft : b.softNotAfterMs.getD u64Max < c.softNotAfterMs.getD u64Max ↔
      softEnd b.softNotAfterMs < softEnd c.softNotAfterMs := by
    cases hbs : b.softNotAfterMs with
    | none =>
      cases hcs : c.softNotAfterMs with
      | none => simp [softEnd]
      | some e =>
        have := hc e hcs
        simp only [Option.getD_none, Option.getD_some, softEnd, not_top_lt, iff_false]
        omega
    | some e =>
      have := hb e hbs
      cases hcs : c.softNotAfterMs with
      | none => simp [softEnd, this]
      | some e' => simp [softEnd]
  unfold rank endMs
  rw [Prod.Lex.toLex_lt_toLex]
  cases hbp : b.phase with
  | hard =>
    cases hcp : c.phase with
    | hard => simp [better, hbp, hcp]
    | soft => simp [better, hbp, hcp]
  | soft =>
    cases hcp : c.phase with
    | hard => simp [better, hbp, hcp]
    | soft => simp [better, hbp, hcp, hsoft]

lemma keepBest_eq_argAux (hbest : ∀ b, best = some b → Finite b)
    {c : ActiveMaintenance} (hc : Finite c) :
    keepBest best (some c) = List.argAux (fun b c => rank c < rank b) best c := by
  cases best with
  | none => rfl
  | some b =>
    have hiff := better_iff_rank_lt (hbest b rfl) hc
    unfold keepBest List.argAux
    by_cases hlt : rank b < rank c
    · simp [hiff.mpr hlt, hlt]
    · simp [mt hiff.mp hlt, hlt]

section Loop

variable {ε : Type} (version nowMs : Nat) (engineId : Option Str)

/-- What a window offers, when its times are read. -/
def offer (w : MaintenanceWindow) : Option ActiveMaintenance :=
  if applies engineId w then
    (toOption (resolveBounds w)).bind fun bounds => (phaseAt bounds nowMs).map (inPhase version nowMs w bounds)
  else none

variable {version nowMs engineId}

lemma candidate_eq_offer (h : Readable engineId w) :
    candidate (ε := ε) version nowMs engineId w = .ok (offer version nowMs engineId w) := by
  unfold candidate offer
  by_cases happlies : applies engineId w = true
  · rw [if_pos happlies, if_pos happlies]
    rcases hbounds : resolveBounds w with (e | _) | bounds
    · rfl
    · exact absurd hbounds (h happlies)
    · rfl
  · rw [if_neg happlies, if_neg happlies]
    rfl

lemma readable_of_candidate {found : Option ActiveMaintenance}
    (h : candidate (ε := ε) version nowMs engineId w = .ok found) : Readable engineId w := by
  intro happlies hpanic
  rw [candidate, if_pos happlies, hpanic] at h
  cases h

lemma offer_eq_some :
    offer version nowMs engineId w = some a ↔ ∃ bounds phase, InPhaseAt engineId nowMs w bounds phase ∧
      a = inPhase version nowMs w bounds phase := by
  unfold offer InPhaseAt
  by_cases happlies : applies engineId w = true
  · rw [if_pos happlies]
    simp only [Option.bind_eq_some_iff, Option.map_eq_some_iff, toOption_eq_some, phaseAt_eq_some, happlies, true_and]
    constructor
    · rintro ⟨bounds, hbounds, phase, hphase, rfl⟩
      exact ⟨bounds, phase, ⟨hbounds, hphase⟩, rfl⟩
    · rintro ⟨bounds, phase, ⟨hbounds, hphase⟩, rfl⟩
      exact ⟨bounds, hbounds, phase, hphase, rfl⟩
  · rw [if_neg happlies]
    simp [happlies]

lemma parseRfc3339Ms_lt {text : Str} {ms : Nat} (h : parseRfc3339Ms text = .ok ms) : ms < u64Max := by
  have hwrap : ∀ x : Int, (wrapI64 x).toNat < u64Max := by
    intro x
    have hlt : wrapI64 x < (2 ^ 64 + 1) / 2 := Int.bmod_lt (by decide)
    unfold u64Max
    omega
  simp only [parseRfc3339Ms, bind_eq_ok, pure_eq_ok] at h
  obtain ⟨_, -, _, -, _, -, _, -, _, -, _, -, _, -, _, -, _, -, _, -, rfl⟩ := h
  exact hwrap _

lemma resolveBounds_soft_lt (h : resolveBounds w = .ok bounds)
    {e : Nat} (he : bounds.softNotAfterMs = some e) : e < u64Max := by
  simp only [resolveBounds, bind_eq_ok] at h
  obtain ⟨start, -, raw, -, hardEnd, hhard, -, -, h⟩ := h
  split_ifs at h
  · obtain rfl := pure_eq_ok.mp h
    obtain rfl := Option.some.inj he
    exact parseRfc3339Ms_lt hhard
  · split at h
    · obtain rfl := pure_eq_ok.mp h
      cases he
    · simp only [bind_eq_ok, pure_eq_ok] at h
      obtain ⟨soft, hsoft, -, -, rfl⟩ := h
      obtain rfl := Option.some.inj he
      exact parseRfc3339Ms_lt hsoft

lemma offer_finite (h : offer version nowMs engineId w = some a) :
    Finite a := by
  obtain ⟨bounds, phase, ⟨-, hbounds, -⟩, rfl⟩ := offer_eq_some.mp h
  exact fun e he => resolveBounds_soft_lt hbounds he

variable {windows : List MaintenanceWindow}

lemma selectFrom_eq_foldl (h : ∀ w ∈ windows, Readable engineId w)
    (hbest : ∀ b, best = some b → Finite b) :
    selectFrom (ε := ε) version nowMs engineId best windows = .ok ((windows.filterMap
      (offer version nowMs engineId)).foldl (List.argAux fun b c => rank c < rank b) best) := by
  induction windows generalizing best with
  | nil => rfl
  | cons w rest ih =>
    have hrest : ∀ w' ∈ rest, Readable engineId w' := fun w' hw' => h w' (List.mem_cons_of_mem w hw')
    rw [selectFrom, candidate_eq_offer (h w List.mem_cons_self), ok_bind]
    cases hoffer : offer version nowMs engineId w with
    | none =>
      rw [List.filterMap_cons_none hoffer]
      exact ih hrest hbest
    | some c =>
      have hc := offer_finite hoffer
      rw [List.filterMap_cons_some hoffer, List.foldl_cons, ← keepBest_eq_argAux hbest hc]
      refine ih hrest fun b hb => ?_
      -- the best so far is an old one or the new offer
      unfold keepBest at hb
      dsimp only at hb
      split at hb
      · rw [← Option.some.inj hb]
        exact hc
      · exact hbest b hb

/-- **The loop picks the first offer of the highest rank.** -/
theorem selectFrom_eq_argmax (h : ∀ w ∈ windows, Readable engineId w) :
    selectFrom (ε := ε) version nowMs engineId none windows =
      .ok ((windows.filterMap (offer version nowMs engineId)).argmax rank) :=
  selectFrom_eq_foldl h fun _ hb => by cases hb

lemma readable_of_selectFrom {r : Option ActiveMaintenance}
    (h : selectFrom (ε := ε) version nowMs engineId best windows = .ok r) : ∀ w ∈ windows, Readable engineId w := by
  induction windows generalizing best with
  | nil => exact fun w hw => absurd hw List.not_mem_nil
  | cons w rest ih =>
    obtain ⟨found, hfound, hrest⟩ := bind_eq_ok.mp h
    intro w' hw'
    rcases List.mem_cons.mp hw' with rfl | hw'
    · exact readable_of_candidate hfound
    · exact ih hrest w' hw'

end Loop

/-- What is told of a selection: its phase, the end of that phase, and the seconds to wait. -/
def summary (a : ActiveMaintenance) : MaintenancePhase × WithTop Nat × Nat := (a.phase, endMs a, a.retryAfterSecs)

/-- What `select_active` should return for these windows. -/
structure Selected (version nowMs : Nat) (engineId : Option Str) (windows : List MaintenanceWindow)
    (r : Option ActiveMaintenance) : Prop where
  none_iff : r = none ↔ ¬ ∃ w ∈ windows, ∃ bounds phase, InPhaseAt engineId nowMs w bounds phase
  hard_iff : (∃ a, r = some a ∧ a.phase = .hard) ↔ ∃ w ∈ windows, ∃ bounds, InPhaseAt engineId nowMs w bounds .hard
  picked : ∀ a, r = some a → ∃ w ∈ windows, ∃ bounds, InPhaseAt engineId nowMs w bounds a.phase ∧
    a = inPhase version nowMs w bounds a.phase ∧
    ∀ w' ∈ windows, ∀ bounds', InPhaseAt engineId nowMs w' bounds' a.phase →
      bounds'.endIn a.phase ≤ bounds.endIn a.phase
  retry_pos : ∀ a, r = some a → 1 ≤ a.retryAfterSecs

section Selection

variable {ε : Type} {version nowMs : Nat} {engineId : Option Str} {windows : List MaintenanceWindow}

lemma endMs_inPhase (w : MaintenanceWindow) (bounds : WindowBounds) (phase : MaintenancePhase) :
    endMs (inPhase version nowMs w bounds phase) = bounds.endIn phase := by
  cases phase with
  | hard => rfl
  | soft => rfl

lemma one_le_retryAfter (bounds : WindowBounds) (nowMs : Nat) (phase : MaintenancePhase) :
    1 ≤ retryAfter bounds nowMs phase := by
  cases phase with
  | hard => exact le_max_right _ _
  | soft =>
    unfold retryAfter
    cases bounds.softNotAfterMs with
    | none => exact show 1 ≤ 180 by decide
    | some e => exact le_max_right _ _

lemma retryAfter_congr {bounds' : WindowBounds} (h : bounds.endIn phase = bounds'.endIn phase) :
    retryAfter bounds nowMs phase = retryAfter bounds' nowMs phase := by
  cases phase with
  | hard =>
    have hend : bounds.hardNotAfterMs = bounds'.hardNotAfterMs := WithTop.coe_injective h
    rw [retryAfter, retryAfter, hend]
  | soft =>
    have hend : bounds.softNotAfterMs = bounds'.softNotAfterMs := by
      unfold WindowBounds.endIn at h
      cases hb : bounds.softNotAfterMs with
      | none =>
        cases hb' : bounds'.softNotAfterMs with
        | none => rfl
        | some e' =>
          rw [hb, hb'] at h
          cases h
      | some e =>
        cases hb' : bounds'.softNotAfterMs with
        | none =>
          rw [hb, hb'] at h
          cases h
        | some e' =>
          rw [hb, hb'] at h
          have heq : e = e' := WithTop.coe_injective h
          rw [heq]
    rw [retryAfter, retryAfter, hend]

lemma rank_inPhase_le {w' : MaintenanceWindow} {bounds' : WindowBounds} {phase' : MaintenancePhase} :
    rank (inPhase version nowMs w bounds phase) ≤ rank (inPhase version nowMs w' bounds' phase') ↔
      (phase = .soft ∧ phase' = .hard) ∨ phase = phase' ∧ bounds.endIn phase ≤ bounds'.endIn phase := by
  rw [rank, rank, Prod.Lex.toLex_le_toLex, endMs_inPhase, endMs_inPhase]
  cases phase with
  | hard =>
    cases phase' with
    | hard => simp [inPhase]
    | soft => simp [inPhase]
  | soft =>
    cases phase' with
    | hard => simp [inPhase]
    | soft => simp [inPhase]

lemma mem_offers :
    a ∈ windows.filterMap (offer version nowMs engineId) ↔ ∃ w ∈ windows, ∃ bounds phase,
      InPhaseAt engineId nowMs w bounds phase ∧ a = inPhase version nowMs w bounds phase := by
  simp only [List.mem_filterMap, offer_eq_some]

/-- The first offer of the highest rank is what should be selected. -/
lemma selected_argmax (version nowMs : Nat) (engineId : Option Str) (windows : List MaintenanceWindow) :
    Selected version nowMs engineId windows ((windows.filterMap (offer version nowMs engineId)).argmax rank) := by
  have hoffers : ∀ w ∈ windows, ∀ bounds phase, InPhaseAt engineId nowMs w bounds phase →
      inPhase version nowMs w bounds phase ∈ windows.filterMap (offer version nowMs engineId) :=
    fun w hw bounds phase h => mem_offers.mpr ⟨w, hw, bounds, phase, h, rfl⟩
  refine ⟨?_, ?_, ?_, ?_⟩
  · rw [List.argmax_eq_none, List.eq_nil_iff_forall_not_mem]
    constructor
    · rintro hempty ⟨w, hw, bounds, phase, h⟩
      exact hempty _ (hoffers w hw bounds phase h)
    · intro hnone a ha
      obtain ⟨w, hw, bounds, phase, h, -⟩ := mem_offers.mp ha
      exact hnone ⟨w, hw, bounds, phase, h⟩
  · constructor
    · rintro ⟨a, ha, hphase⟩
      obtain ⟨w, hw, bounds, phase, h, rfl⟩ := mem_offers.mp (List.argmax_mem ha)
      obtain rfl : phase = .hard := hphase
      exact ⟨w, hw, bounds, h⟩
    · rintro ⟨w, hw, bounds, h⟩
      have hmem := hoffers w hw bounds .hard h
      cases hbest : (windows.filterMap (offer version nowMs engineId)).argmax rank with
      | none =>
        rw [List.argmax_eq_none.mp hbest] at hmem
        cases hmem
      | some a =>
        -- nothing but a hard phase ranks as high as a hard phase
        obtain ⟨w', -, bounds', phase', -, rfl⟩ := mem_offers.mp (List.argmax_mem hbest)
        refine ⟨_, rfl, ?_⟩
        rcases rank_inPhase_le.mp (List.le_of_mem_argmax hmem hbest) with ⟨hsoft, -⟩ | ⟨hphase, -⟩
        · cases hsoft
        · exact hphase.symm
  · intro a ha
    obtain ⟨w, hw, bounds, phase, h, rfl⟩ := mem_offers.mp (List.argmax_mem ha)
    refine ⟨w, hw, bounds, h, rfl, ?_⟩
    intro w' hw' bounds' h'
    rcases rank_inPhase_le.mp (List.le_of_mem_argmax (hoffers w' hw' bounds' _ h') ha) with ⟨hsoft, hhard⟩ | ⟨-, hle⟩
    · exact absurd (hsoft.symm.trans hhard) MaintenancePhase.noConfusion
    · exact hle
  · intro a ha
    obtain ⟨w, -, bounds, phase, -, rfl⟩ := mem_offers.mp (List.argmax_mem ha)
    exact one_le_retryAfter bounds nowMs phase

lemma summary_eq_of_rank {a' : ActiveMaintenance} (ha : a ∈ windows.filterMap (offer version nowMs engineId))
    (ha' : a' ∈ windows.filterMap (offer version nowMs engineId)) (h : rank a = rank a') : summary a = summary a' := by
  obtain ⟨w, -, bounds, phase, -, rfl⟩ := mem_offers.mp ha
  obtain ⟨w', -, bounds', phase', -, rfl⟩ := mem_offers.mp ha'
  rcases rank_inPhase_le.mp h.le with ⟨rfl, rfl⟩ | ⟨rfl, hle⟩
  · rcases rank_inPhase_le.mp h.ge with ⟨hhard, -⟩ | ⟨hhard, -⟩
    · cases hhard
    · cases hhard
  · rcases rank_inPhase_le.mp h.ge with ⟨hhard, hsoft⟩ | ⟨-, hge⟩
    · exact absurd (hhard.symm.trans hsoft) MaintenancePhase.noConfusion
    · have hend : bounds.endIn phase = bounds'.endIn phase := le_antisymm hle hge
      rw [summary, summary, endMs_inPhase, endMs_inPhase, hend]
      exact congrArg (fun n => (phase, bounds'.endIn phase, n)) (retryAfter_congr hend)

/-- The order of the windows is irrelevant to what is told of the selection. -/
lemma summary_perm {windows' : List MaintenanceWindow} (hperm : windows'.Perm windows) :
    ((windows'.filterMap (offer version nowMs engineId)).argmax rank).map summary =
      ((windows.filterMap (offer version nowMs engineId)).argmax rank).map summary := by
  have hoffers := hperm.filterMap (offer version nowMs engineId)
  cases hbest : (windows.filterMap (offer version nowMs engineId)).argmax rank with
  | none =>
    rw [List.argmax_eq_none.mp hbest] at hoffers
    rw [hoffers.eq_nil]
    rfl
  | some a =>
    have ha := List.argmax_mem hbest
    cases hbest' : (windows'.filterMap (offer version nowMs engineId)).argmax rank with
    | none =>
      rw [List.argmax_eq_none.mp hbest'] at hoffers
      rw [← hoffers.nil_eq] at hbest
      cases hbest
    | some a' =>
      have ha' := hoffers.mem_iff.mp (List.argmax_mem hbest')
      have hrank : rank a' = rank a :=
        le_antisymm (List.le_of_mem_argmax ha' hbest) (List.le_of_mem_argmax (hoffers.mem_iff.mpr ha) hbest')
      rw [Option.map_some, Option.map_some, summary_eq_of_rank ha' ha hrank]

/-- **What `select_active` returns.**  Exactly on the manifests without an applicable window whose times make the parser
panic it returns a selection as it should be, the same for every order of the windows, and no subtraction goes below
zero. -/
theorem selectActive_spec_iff (manifest : MaintenanceWindowsManifest) (nowMs : Nat) (engineId : Option Str) :
    (∀ w ∈ manifest.windows, Readable engineId w) ↔
      ∃ r, selectActive (ε := ε) manifest nowMs engineId = .ok r ∧
        Selected manifest.version nowMs engineId manifest.windows r ∧
        (∀ windows', windows'.Perm manifest.windows → ∃ r',
          selectActive (ε := ε) { manifest with windows := windows' } nowMs engineId = .ok r' ∧
            r'.map summary = r.map summary) ∧
        ∀ w ∈ manifest.windows, ∀ bounds phase, InPhaseAt engineId nowMs w bounds phase →
          WithTop.some nowMs ≤ bounds.endIn phase := by
  constructor
  · intro hread
    refine ⟨_, selectFrom_eq_argmax hread, selected_argmax _ _ _ _, ?_, fun w _ bounds phase h => h.2.2.le_end⟩
    intro windows' hperm
    have hread' : ∀ w ∈ windows', Readable engineId w := fun w hw => hread w (hperm.mem_iff.mp hw)
    exact ⟨_, selectFrom_eq_argmax hread', summary_perm hperm⟩
  · rintro ⟨r, hr, -⟩
    exact readable_of_selectFrom hr

end Selection

def Sample.unreadable : MaintenanceWindow where
  id := "w1"
  scope := .fleet
  engineId := none
  notBefore := "2026-08-01T00:00:00+aéb"
  hardNotAfter := some "2026-08-01T01:00:00Z"
  softNotAfter := none
  notAfter := none
  reason := .other
  message := none

/-- **A manifest on which the loop does not come to an end**: no window has resolvable bounds, so that none should be
selected, and `select_active` panics. -/
theorem selectActive_panics :
    (∀ bounds, resolveBounds Sample.unreadable ≠ .ok bounds) ∧
      selectActive (ε := Str) ⟨1, [Sample.unreadable]⟩ 0 none = .error .panicked := by
  have hpanic : resolveBounds Sample.unreadable = .error .panicked := rfl
  constructor
  · intro bounds h
    rw [hpanic] at h
    cases h
  · rfl

end Maintenance

end TeechatOpenapi.Core
