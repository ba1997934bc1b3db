import Mathlib.Algebra.Order.Ring.Int
import Mathlib.Data.Int.LeastGreatest
import Mathlib.Order.Bounds.Defs
import Mathlib.Tactic.Linarith
import Mathlib.Tactic.Ring
import Mathlib.Tactic.SplitIfs

/-!
# Local days

`localBoundary` says at which instant a date begins on the clock of a branch. It reads the clock at
midnight of the date, as if that were UTC, corrects the instant by what the clock is off, and does
so a second time. Instants are milliseconds, dates numbers of days.

* A date begins when the clock first reaches its midnight (`beginsAt_iff`).
* The boundary is that instant exactly when the offset of the second reading is the one the date
  begins with (`Settles`). Where the clock is set once around midnight, a midnight that is skipped
  must be skipped from its first moment on, by a change not after midnight UTC, and one that is
  repeated must be repeated by a change after midnight UTC (`settles_iff`).
* The days between boundaries are the local days when, besides, no date comes back.
-/

namespace UInventario.Reports

def HOUR : ℤ := 3600000

def DAY : ℤ := 86400000

/-- `Date.UTC` of the parts the clock of a time zone is formatted to. -/
def represented (timezone : ℤ → ℤ) (instant : ℤ) : ℤ :=
  (instant + timezone instant) / 1000 * 1000

def localBoundary (timezone : ℤ → ℤ) (date addDays : ℤ) : ℤ :=
  let target := (date + addDays) * DAY
  (List.range 2).foldl (fun instant _ ↦ instant + (target - represented timezone instant)) target

/-- **A time zone**: what its clock is ahead of UTC at an instant. -/
structure TimeZone where
  offset : ℤ → ℤ
  least : ∀ t, -(12 * HOUR) ≤ offset t
  greatest : ∀ t, offset t ≤ 14 * HOUR
  /-- The clock is set by at most an hour at a time. -/
  gradual : ∀ t, |offset (t + 1) - offset t| ≤ HOUR

namespace TimeZone

variable (zone : TimeZone)

def clock (t : ℤ) : ℤ := t + zone.offset t

def localDate (t : ℤ) : ℤ := zone.clock t / DAY

def localBoundary (date addDays : ℤ) : ℤ :=
  Reports.localBoundary zone.offset date addDays

def seconds (t : ℤ) : ℤ := zone.offset t / 1000 * 1000

/-! ### The boundary -/

theorem localBoundary_eq (date addDays : ℤ) : zone.localBoundary date addDays =
      (date + addDays) * DAY - zone.seconds ((date + addDays) * DAY -
        zone.seconds ((date + addDays) * DAY)) := by
  have hturn : ∀ instant target : ℤ, 1000 ∣ instant →
      instant + (target - represented zone.offset instant) = target - zone.seconds instant := by
    intro instant target hinstant
    rw [represented, seconds, Int.add_ediv_of_dvd_left hinstant, add_mul,
      Int.ediv_mul_cancel hinstant]
    ring
  obtain ⟨target, htarget⟩ : ∃ target, target = (date + addDays) * DAY := ⟨_, rfl⟩
  have hdvd : 1000 ∣ target :=
    Dvd.intro_left ((date + addDays) * 86400) (by rw [htarget, DAY]; ring)
  have hguess : 1000 ∣ target - zone.seconds target := Int.dvd_sub hdvd (Dvd.intro_left _ rfl)
  rw [localBoundary, Reports.localBoundary, ← htarget]
  show target + (target - represented _ target) +
    (target - represented _ (target + (target - represented _ target))) = _
  rw [hturn _ _ hdvd, hturn _ _ hguess]

/-! ### Where a date begins -/

def BeginsAt (date t : ℤ) : Prop :=
  zone.localDate t = date ∧ ∀ u < t, zone.localDate u ≠ date

def FirstReaches (target t : ℤ) : Prop :=
  target ≤ zone.clock t ∧ ∀ u < t, zone.clock u < target

variable {zone}

theorem clock_succ_le (t : ℤ) : zone.clock (t + 1) ≤ zone.clock t + (HOUR + 1) := by
  have h := (abs_le.mp (zone.gradual t)).2
  rw [clock, clock]
  linarith

variable {date t : ℤ}

theorem localDate_eq_iff :
    zone.localDate t = date ↔ date * DAY ≤ zone.clock t ∧ zone.clock t < (date + 1) * DAY := by
  rw [localDate, Int.ediv_eq_iff_of_pos (by decide)]
  rw [add_mul, one_mul, mul_comm]

theorem clock_lt_of_lt {target : ℤ} (h : t < target - 14 * HOUR) : zone.clock t < target := by
  have := zone.greatest t
  rw [clock]
  linarith

/-- **The clock does not pass over a date.** -/
theorem clock_lt_of_avoids (havoids : ∀ u ≤ t, zone.localDate u ≠ date) :
    zone.clock t < date * DAY := by
  -- from an instant at which the clock is behind, one millisecond after the other
  have hstart : zone.clock (min t (date * DAY - 14 * HOUR - 1)) < date * DAY :=
    clock_lt_of_lt (lt_of_le_of_lt (min_le_right _ _) (sub_one_lt _))
  refine Int.leInduction (motive := fun u _ ↦ u ≤ t → zone.clock u < date * DAY)
    (fun _ ↦ hstart) (fun u _ ih hu ↦ ?_) t (min_le_left _ _) le_rfl
  have hbehind := ih ((lt_add_one u).le.trans hu)
  have hstep := zone.clock_succ_le u
  by_contra hpast
  refine havoids (u + 1) hu (localDate_eq_iff.mpr ⟨not_lt.mp hpast, ?_⟩)
  rw [HOUR] at hstep
  rw [DAY] at hbehind ⊢
  linarith

/-- **A date begins when the clock first reaches its midnight.** -/
theorem beginsAt_iff : zone.BeginsAt date t ↔ zone.FirstReaches (date * DAY) t := by
  constructor
  · rintro ⟨hdate, hfirst⟩
    exact ⟨(localDate_eq_iff.mp hdate).1, fun u hu ↦
      clock_lt_of_avoids fun v hv ↦ hfirst v (hv.trans_lt hu)⟩
  · rintro ⟨hreaches, hfirst⟩
    refine ⟨localDate_eq_iff.mpr ⟨hreaches, ?_⟩, fun u hu hdate ↦
      absurd (hfirst u hu) (not_lt.mpr (localDate_eq_iff.mp hdate).1)⟩
    have hbehind := hfirst (t - 1) (sub_one_lt t)
    have hstep := zone.clock_succ_le (t - 1)
    rw [sub_add_cancel, HOUR] at hstep
    rw [DAY] at hbehind ⊢
    linarith

theorem FirstReaches.unique {target u : ℤ} (ht : zone.FirstReaches target t)
    (hu : zone.FirstReaches target u) : t = u := by
  rcases lt_trichotomy t u with hlt | heq | hlt
  · exact absurd (hu.2 t hlt) (not_lt.mpr ht.1)
  · exact heq
  · exact absurd (ht.2 u hlt) (not_lt.mpr hu.1)

theorem FirstReaches.mono {target target' t' : ℤ} (ht : zone.FirstReaches target t)
    (ht' : zone.FirstReaches target' t') (h : target ≤ target') : t ≤ t' := by
  by_contra hlt
  exact absurd (ht.2 t' (not_le.mp hlt)) (not_lt.mpr (h.trans ht'.1))

/-! ### When the boundary is where the date begins -/

/-- **The second reading settles the boundary**: it finds the offset the date begins with. -/
def Settles (zone : TimeZone) (date : ℤ) : Prop :=
  ∃ t, zone.FirstReaches (date * DAY) t ∧
    zone.seconds (date * DAY - zone.seconds (date * DAY)) = date * DAY - t

theorem beginsAt_localBoundary_iff :
    zone.BeginsAt date (zone.localBoundary date 0) ↔ zone.Settles date := by
  rw [beginsAt_iff, localBoundary_eq, add_zero]
  constructor
  · exact fun h ↦ ⟨_, h, (sub_sub_cancel _ _).symm⟩
  · rintro ⟨t, ht, hoffset⟩
    rw [hoffset, sub_sub_cancel]
    exact ht

/-- The clock is set once around midnight of a date, if at all: at `change`, by whole seconds. -/
structure SetOnce (zone : TimeZone) (date change before after : ℤ) : Prop where
  until_change : ∀ t, date * DAY - 14 * HOUR ≤ t → t ≤ date * DAY + 12 * HOUR → t < change →
    zone.offset t = before
  from_change : ∀ t, date * DAY - 14 * HOUR ≤ t → t ≤ date * DAY + 12 * HOUR → change ≤ t →
    zone.offset t = after
  whole : 1000 ∣ before ∧ 1000 ∣ after
  least : -(12 * HOUR) ≤ before ∧ -(12 * HOUR) ≤ after
  greatest : before ≤ 14 * HOUR ∧ after ≤ 14 * HOUR

/-- **Midnight is not lost**: a change that skips it is not after midnight UTC; one that repeats it
is. -/
def KeepsMidnight (date change before after : ℤ) : Prop :=
  (change + before ≤ date * DAY ∧ date * DAY < change + after →
    change + before = date * DAY ∧ change ≤ date * DAY) ∧
  (change + after ≤ date * DAY ∧ date * DAY < change + before → date * DAY < change)

section

variable {change before after : ℤ} (h : zone.SetOnce date change before after)
include h

theorem SetOnce.seconds
    (t : ℤ) (hlow : date * DAY - 14 * HOUR ≤ t) (hhigh : t ≤ date * DAY + 12 * HOUR) :
    zone.seconds t = if t < change then before else after := by
  rw [TimeZone.seconds]
  split
  · rename_i hlt
    rw [h.until_change t hlow hhigh hlt, Int.ediv_mul_cancel h.whole.1]
  · rename_i hge
    rw [h.from_change t hlow hhigh (not_lt.mp hge), Int.ediv_mul_cancel h.whole.2]

theorem SetOnce.firstReaches :
    zone.FirstReaches (date * DAY) (if date * DAY - before < change then date * DAY - before
      else max change (date * DAY - after)) := by
  obtain ⟨huntil, hfrom, -, ⟨hbefore, hafter⟩, hbefore', hafter'⟩ := h
  generalize date * DAY = target at huntil hfrom ⊢
  split
  · rename_i hchange
    refine ⟨?_, fun u hu ↦ ?_⟩
    · rw [clock, huntil _ (by omega) (by omega) hchange]
      omega
    · by_cases hearly : u < target - 14 * HOUR
      · exact clock_lt_of_lt hearly
      · rw [clock, huntil u (by omega) (by omega) (hu.trans hchange)]
        omega
  · rename_i hchange
    refine ⟨?_, fun u hu ↦ ?_⟩
    · rw [clock, hfrom _ (by omega) (by omega) (le_max_left _ _)]
      omega
    · by_cases hearly : u < target - 14 * HOUR
      · exact clock_lt_of_lt hearly
      · rcases lt_or_ge u change with hlt | hge
        · rw [clock, huntil u (by omega) (by omega) hlt]
          omega
        · rw [clock, hfrom u (by omega) (by omega) hge]
          omega

/-- **A clock that is set once**: settled exactly when midnight is not lost. -/
theorem settles_iff : zone.Settles date ↔ KeepsMidnight date change before after := by
  have hseconds := h.seconds
  have hfirst := h.firstReaches
  obtain ⟨-, -, -, ⟨hbefore, hafter⟩, hbefore', hafter'⟩ := h
  have hsettles : zone.Settles date ↔ zone.seconds (date * DAY - zone.seconds (date * DAY)) =
      date * DAY - if date * DAY - before < change then date * DAY - before
        else max change (date * DAY - after) :=
    ⟨fun ⟨t, ht, hoffset⟩ ↦ ht.unique hfirst ▸ hoffset, fun hoffset ↦ ⟨_, hfirst, hoffset⟩⟩
  rw [hsettles, KeepsMidnight]
  generalize date * DAY = target at hseconds ⊢
  have hnow := hseconds target (by omega) (by omega)
  have hguess := hseconds (target - zone.seconds target) (by rw [hnow]; split <;> omega)
    (by rw [hnow]; split <;> omega)
  rw [hguess, hnow]
  clear hguess hnow
  by_cases hutc : target < change
  · rw [if_pos hutc]
    split_ifs <;> omega
  · rw [if_neg hutc]
    split_ifs <;> omega

end

/-! ### The days of a zone -/

def NeverBack (zone : TimeZone) : Prop :=
  ∀ t, zone.localDate t ≤ zone.localDate (t + 1)

theorem NeverBack.mono (h : zone.NeverBack) {u : ℤ} (htu : t ≤ u) :
    zone.localDate t ≤ zone.localDate u :=
  Int.leInduction (motive := fun v _ ↦ zone.localDate t ≤ zone.localDate v) le_rfl
    (fun v _ ih ↦ ih.trans (h v)) u htu

/-- **The days between boundaries are the local days.** -/
structure DaysFollow (zone : TimeZone) : Prop where
  begins : ∀ date, zone.BeginsAt date (zone.localBoundary date 0)
  days : ∀ date t, zone.localBoundary date 0 ≤ t ∧ t < zone.localBoundary date 1 ↔
    zone.localDate t = date

theorem localBoundary_one (zone : TimeZone) (date : ℤ) :
    zone.localBoundary date 1 = zone.localBoundary (date + 1) 0 := by
  rw [localBoundary, localBoundary, Reports.localBoundary, Reports.localBoundary, add_zero]

theorem daysFollow_of_begins (hbegins : ∀ date, zone.BeginsAt date (zone.localBoundary date 0)) :
    (∀ date t, zone.localBoundary date 0 ≤ t ∧ t < zone.localBoundary date 1 ↔
      zone.localDate t = date) ↔ zone.NeverBack := by
  constructor
  · intro hdays t
    by_contra hback
    obtain ⟨hfrom, -⟩ := (hdays _ t).mpr rfl
    obtain ⟨-, huntil⟩ := (hdays _ (t + 1)).mpr rfl
    rw [localBoundary_one] at huntil
    -- the boundary after the earlier date is not after that of the date that is left
    have hmono := (beginsAt_iff.mp (hbegins (zone.localDate (t + 1) + 1))).mono
      (beginsAt_iff.mp (hbegins (zone.localDate t)))
      (mul_le_mul_of_nonneg_right (not_le.mp hback) (by decide))
    linarith
  · intro hmono date t
    rw [localBoundary_one]
    constructor
    · rintro ⟨hfrom, huntil⟩
      have hlow := hmono.mono hfrom
      have hhigh := hmono.mono huntil.le
      rw [(hbegins date).1] at hlow
      rw [(hbegins (date + 1)).1] at hhigh
      have hne := (hbegins (date + 1)).2 t huntil
      omega
    · rintro rfl
      refine ⟨not_lt.mp fun hlt ↦ (hbegins _).2 t hlt rfl, not_le.mp fun hle ↦ ?_⟩
      have hlate := hmono.mono hle
      rw [(hbegins _).1] at hlate
      omega

/-- **Local days.** What lies between the boundaries are the local days exactly when every boundary
is settled by its second reading and no date comes back. -/
theorem daysFollow_iff (zone : TimeZone) :
    (zone.DaysFollow ↔ (∀ date, zone.Settles date) ∧ zone.NeverBack) ∧
    (∀ date, zone.BeginsAt date (zone.localBoundary date 0) ↔ zone.Settles date) ∧
    ∀ date change before after, zone.SetOnce date change before after →
      (zone.Settles date ↔ KeepsMidnight date change before after) := by
  refine ⟨⟨fun h ↦ ?_, fun ⟨hsettles, hback⟩ ↦ ?_⟩, fun _ ↦ beginsAt_localBoundary_iff,
    fun _ _ _ _ ↦ settles_iff⟩
  · exact ⟨fun date ↦ beginsAt_localBoundary_iff.mp (h.begins date),
      (daysFollow_of_begins h.begins).mp h.days⟩
  · have hbegins := fun date ↦ beginsAt_localBoundary_iff.mpr (hsettles date)
    exact ⟨hbegins, (daysFollow_of_begins hbegins).mpr hback⟩

/-! ### Santiago in September -/

/-- Santiago around 8 September 2024: at 04:00 UTC, midnight, the clock is set from 00:00 to 01:00.
-/
def santiago : TimeZone where
  offset t := if t < 19974 * DAY + 4 * HOUR then -(4 * HOUR) else -(3 * HOUR)
  least t := by split <;> decide
  greatest t := by split <;> decide
  gradual t := by split <;> split <;> decide

theorem santiago_begins_early : ¬∀ zone : TimeZone, zone.DaysFollow := by
  intro h
  have hbegins := ((h santiago).begins 19974).1
  exact absurd hbegins (by decide)

theorem daysFollow_iff_santiago : santiago.Settles 19974 ↔
    KeepsMidnight 19974 (19974 * DAY + 4 * HOUR) (-(4 * HOUR)) (-(3 * HOUR)) :=
  (daysFollow_iff santiago).2.2 19974 _ _ _ {
    until_change := fun _ _ _ h ↦ if_pos h
    from_change := fun _ _ _ h ↦ if_neg (not_lt.mpr h)
    whole := by decide
    least := by decide
    greatest := by decide }

end TimeZone

end UInventario.Reports
