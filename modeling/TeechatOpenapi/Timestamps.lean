import TeechatOpenapi.Attest.ManifestTimes
import TeechatOpenapi.Core.MaintenanceTimes
import TeechatOpenapi.Platform.EngineTimes

/-!
# The three readers of timestamps

The engine's epochs, the edge manifest and the maintenance windows are read by three parsers with three codings of the
calendar.  On the times of the years 1970 to 9999 they agree (`parsers_agree`); outside of them, two of them accept what
is no time (`timestamps_real_iff`).
-/

namespace TeechatOpenapi

open Lib

/-- All three parsers read the text: two as milliseconds, and one as the whole seconds of them. -/
def AllRead (text : Str) (ms : Nat) : Prop :=
  Platform.parseRfc3339Ms text = .ok ms ∧ Core.Maintenance.parseRfc3339Ms text = .ok ms ∧
    Attest.parseRfc3339Secs text = .ok (ms / 1000)

lemma allRead_text (s : Stamp) : AllRead s.text s.millis.toNat := by
  have hpos := s.seconds_bounds.1
  have hfraction := thousandths_lt s.fraction
  have hsecs : s.millis.toNat / 1000 = s.seconds.toNat := by
    unfold Time.millis
    omega
  refine ⟨Platform.parseRfc3339Ms_text s, Core.Maintenance.parseRfc3339Ms_stamp s, ?_⟩
  rw [hsecs]
  exact Attest.parseRfc3339Secs_text s

lemma millis_nonneg (s : Stamp) : 0 ≤ s.millis := s.millis_nonneg_iff.mpr s.number_nonneg

/-- **The parsers agree on the times of the years 1970 to 9999, and keep their order.** -/
theorem parsers_agree :
    (∀ s : Stamp, ∃ (x : Rat) (ms : Nat), s.IsInstant x ∧ (ms : Int) = ⌊1000 * x⌋ ∧ AllRead s.text ms) ∧
      ∀ (s t : Stamp) (x y : Rat) (m n : Nat), s.IsInstant x → t.IsInstant y → AllRead s.text m → AllRead t.text n →
        x ≤ y → m ≤ n := by
  constructor
  · intro s
    obtain ⟨x, hx⟩ := s.exists_isInstant
    refine ⟨x, s.millis.toNat, hx, ?_, allRead_text s⟩
    rw [s.floor_instant hx]
    exact Int.toNat_of_nonneg (millis_nonneg s)
  · intro s t x y m n hx hy hm hn hle
    obtain rfl := Except.ok.inj ((allRead_text s).1.symm.trans hm.1)
    obtain rfl := Except.ok.inj ((allRead_text t).1.symm.trans hn.1)
    have hfloor : ⌊1000 * x⌋ ≤ ⌊1000 * y⌋ := Int.floor_le_floor (by linarith)
    rw [s.floor_instant hx, t.floor_instant hy] at hfloor
    exact Int.toNat_le_toNat hfloor

/-- **When a manifest's and a window's timestamps are real times**: exactly when nothing overflows, which is a bound on
the numbers that are read, no character is cut, and what is read is refused as before 1970 or names a time. -/
theorem timestamps_real_iff (text : Str) :
    ((NoOverflow (Attest.secsCall text) ∧
        ∀ secs, Attest.parseRfc3339Secs text = .ok secs → ∃ t, Attest.NamesTime text t) ↔
      ∀ n, Attest.readNumbers text = some n → ¬ (n.month = 3 ∧ n.day = 0) ∧ Attest.exactSecs n ≤ 2 ^ 63 - 1 ∧
        (Attest.exactSecs n < 0 ∨ ∃ t, Attest.NamesTime text t)) ∧
    ((Core.Maintenance.parseRfc3339Ms text ≠ .error .panicked ∧ NoOverflow (Core.Maintenance.msCall text) ∧
        ∀ ms, Core.Maintenance.parseRfc3339Ms text = .ok ms → ∃ t, Core.Maintenance.NamesTime text t) ↔
      ¬ Core.Maintenance.CutsCharacter text ∧
        ∀ o, Core.Maintenance.readOffset (Core.Maintenance.normalized text) = .ok o →
          NoOverflow (Core.Maintenance.offsetSteps o) ∧
          ∀ n millis, Core.Maintenance.readDateTime o.datetime = some (n, millis) → Core.Maintenance.InYear n →
            Core.Maintenance.localMs n millis ≤ 2 ^ 63 - 1 ∧
            Word.i64.Holds (Core.Maintenance.localMs n millis - o.exact) ∧
            (Core.Maintenance.localMs n millis - o.exact < 0 ∨ ∃ t, Core.Maintenance.NamesTime text t)) :=
  ⟨Attest.manifest_real_iff text, Core.Maintenance.maintenance_real_iff text⟩

/-- Both parsers accept a time on the 31st of February, the one of the manifest underflows on the day 0 of March, and
the one of the windows panics on an offset whose middle is inside a character. -/
theorem unreal_timestamps :
    (Attest.parseRfc3339Secs "2026-02-31T25:61:61Z" = .ok 1772589721 ∧
        ¬ ∃ t, Attest.NamesTime "2026-02-31T25:61:61Z" t) ∧
      ¬ NoOverflow (Attest.secsCall "2026-03-00T00:00:00Z") ∧
      (Core.Maintenance.parseRfc3339Ms "2026-02-31T25:61:61Z" = .ok 1772589721000 ∧
        ¬ ∃ t, Core.Maintenance.NamesTime "2026-02-31T25:61:61Z" t) ∧
      Core.Maintenance.parseRfc3339Ms "2026-08-01T00:00:00+aéb" = .error .panicked := by
  refine ⟨⟨by decide, ?_⟩, by decide, ⟨by decide, ?_⟩, by decide⟩
  · rintro ⟨t, hnames⟩
    have hread : Attest.readNumbers "2026-02-31T25:61:61Z" = some ⟨2026, 2, 31, 25, 61, 61⟩ := by decide
    have hhour := congrArg Numbers.hour (Option.some.inj (hread.symm.trans hnames.readNumbers))
    exact absurd t.hour_lt (by rw [← show 25 = t.hour from hhour]; decide)
  · rintro ⟨t, hnames⟩
    have htrim : trim "2026-02-31T25:61:61Z" = "2026-02-31T25:61:61".toList ++ ['Z'] := by decide
    obtain ⟨w, hbody, hw⟩ := hnames.utc htrim
    have hread : Core.Maintenance.readDateTime "2026-02-31T25:61:61" = some (⟨2026, 2, 31, 25, 61, 61⟩, 0) := by decide
    rw [hbody, Core.Maintenance.readDateTime_body hw] at hread
    have hhour := congrArg (fun p => p.1.hour) (Option.some.inj hread)
    exact absurd t.hour_lt (by rw [show t.hour = 25 from hhour]; decide)

end TeechatOpenapi
