import GnssParser.Lib.StepOffsets
import GnssParser.Proof.GnssTime

/-!
# Leap seconds

`gpst2utc` and `utc2gpst` read one table in two ways.
-/

namespace GnssParser

def GTime.value (t : GTime) : ℚ := t.time + t.sec

theorem GTime.Normal.ext {t u : GTime} (first : t.Normal) (second : u.Normal)
    (same : t.value = u.value) : t = u := by
  obtain ⟨time, sec⟩ := t
  obtain ⟨time', sec'⟩ := u
  have nonneg : 0 ≤ sec := first.nonneg
  have below : sec < 1 := first.below
  have nonneg' : 0 ≤ sec' := second.nonneg
  have below' : sec' < 1 := second.below
  have sum : (time : ℚ) + sec = time' + sec' := same
  have floors := congrArg Int.floor sum
  rw [Int.floor_intCast_add, Int.floor_intCast_add, Int.floor_eq_zero_iff.mpr ⟨nonneg, below⟩,
    Int.floor_eq_zero_iff.mpr ⟨nonneg', below'⟩, add_zero, add_zero] at floors
  subst floors
  rw [add_left_cancel sum]

theorem timeDiff_eq (t u : GTime) : timeDiff t u = t.value - u.value := by
  rw [timeDiff, GTime.value, GTime.value]
  push_cast
  ring

theorem timeAdd_value (t : GTime) (sec : ℚ) : (timeAdd t sec).value = t.value + sec := by
  rw [timeAdd, GTime.value, GTime.value]
  push_cast
  ring

theorem timeAdd_normal (t : GTime) (sec : ℚ) : (timeAdd t sec).Normal :=
  ⟨Int.fract_nonneg (t.sec + sec), Int.fract_lt_one (t.sec + sec)⟩

/-! ## The table -/

/-- A date and `gpst - utc` from it on, in seconds. -/
def leapRow (row : CalendarTime × ℚ) : ℚ × ℚ := ((epoch2time row.1).value, -row.2)

def leapRows : List (ℚ × ℚ) := leaps.map leapRow

theorem leapRows_descending : StepOffsets.Descending leapRows := by
  decide +kernel

theorem leapRows_even : StepOffsets.Even 1 leapRows := by
  decide +kernel

theorem utc2gpst_value (u : GTime) : (utc2gpst u).value = StepOffsets.advance leapRows u.value := by
  rw [utc2gpst, leapRows]
  induction leaps with
  | nil => rfl
  | cons row rows ih =>
      obtain ⟨date, offset⟩ := row
      rw [List.findSome?_cons, List.map_cons, leapRow, StepOffsets.advance]
      have same : timeDiff u (epoch2time date) ≥ 0 ↔ (epoch2time date).value ≤ u.value := by
        rw [timeDiff_eq, ge_iff_le, sub_nonneg]
      by_cases passed : timeDiff u (epoch2time date) ≥ 0
      · rw [if_pos (same.mp passed)]
        dsimp only
        rw [if_pos passed]
        exact timeAdd_value u (-offset)
      · rw [if_neg (mt same.mpr passed)]
        dsimp only
        rw [if_neg passed]
        exact ih

theorem gpst2utc_value (t : GTime) : (gpst2utc t).value = StepOffsets.retreat leapRows t.value := by
  rw [gpst2utc, leapRows]
  induction leaps with
  | nil => rfl
  | cons row rows ih =>
      obtain ⟨date, offset⟩ := row
      rw [List.findSome?_cons, List.map_cons, leapRow, StepOffsets.retreat, sub_neg_eq_add]
      have same : timeDiff (timeAdd t offset) (epoch2time date) ≥ 0 ↔
          (epoch2time date).value ≤ t.value + offset := by
        rw [timeDiff_eq, timeAdd_value, ge_iff_le, sub_nonneg]
      by_cases passed : timeDiff (timeAdd t offset) (epoch2time date) ≥ 0
      · rw [if_pos (same.mp passed)]
        dsimp only
        rw [if_pos passed]
        exact timeAdd_value t offset
      · rw [if_neg (mt same.mpr passed)]
        dsimp only
        rw [if_neg passed]
        exact ih

theorem findSome_normal {rows : List (CalendarTime × ℚ)} {found : CalendarTime × ℚ → Option GTime}
    (each : ∀ row u, found row = some u → u.Normal) {t : GTime} (normal : t.Normal) :
    ((rows.findSome? found).getD t).Normal := by
  cases first : rows.findSome? found with
  | none => exact normal
  | some u =>
      obtain ⟨row, _, own⟩ := List.exists_of_findSome?_eq_some first
      exact each row u own

theorem utc2gpst_normal {u : GTime} (normal : u.Normal) : (utc2gpst u).Normal := by
  refine findSome_normal (fun ⟨date, offset⟩ v found => ?_) normal
  dsimp only at found
  split_ifs at found
  cases found
  exact timeAdd_normal u (-offset)

theorem gpst2utc_normal {t : GTime} (normal : t.Normal) : (gpst2utc t).Normal := by
  refine findSome_normal (fun ⟨date, offset⟩ v found => ?_) normal
  dsimp only at found
  split_ifs at found
  cases found
  exact timeAdd_normal t offset

/-! ## The two directions -/

/-- The second that a leap second inserts before the date of its row, in GPS time. -/
def InLeapSecond (t : GTime) (row : CalendarTime × ℚ) : Prop :=
  timeDiff t (epoch2time row.1) ∈ Set.Ico (-row.2 - 1) (-row.2)

instance (t : GTime) (row : CalendarTime × ℚ) : Decidable (InLeapSecond t row) :=
  inferInstanceAs (Decidable (-row.2 - 1 ≤ timeDiff t (epoch2time row.1) ∧
    timeDiff t (epoch2time row.1) < -row.2))

theorem leapRows_gap {t : GTime} (gap : StepOffsets.InGap leapRows t.value) :
    ∃ row ∈ leaps, InLeapSecond t row := by
  obtain ⟨entry, mem, reached, before⟩ := gap.exists_row leapRows_even
  obtain ⟨row, tabled, rfl⟩ := List.mem_map.mp mem
  dsimp only [leapRow] at reached before
  refine ⟨row, tabled, ?_, ?_⟩
  · rw [timeDiff_eq]
    linarith
  · rw [timeDiff_eq]
    linarith

theorem leap_seconds :
    (∀ u : GTime, u.Normal → gpst2utc (utc2gpst u) = u) ∧
    (∀ t : GTime, t.Normal → (∀ row ∈ leaps, ¬ InLeapSecond t row) →
      utc2gpst (gpst2utc t) = t) ∧
    ∀ u v : GTime, timeDiff u v < 0 → timeDiff (utc2gpst u) (utc2gpst v) < 0 := by
  refine ⟨fun u normal => ?_, fun t normal outside => ?_, fun u v later => ?_⟩
  · apply (gpst2utc_normal (utc2gpst_normal normal)).ext normal
    rw [gpst2utc_value, utc2gpst_value, StepOffsets.retreat_advance leapRows_descending]
  · apply (utc2gpst_normal (gpst2utc_normal normal)).ext normal
    have gapless : ¬ StepOffsets.InGap leapRows t.value := fun gap => by
      obtain ⟨row, mem, leap⟩ := leapRows_gap gap
      exact outside row mem leap
    rw [utc2gpst_value, gpst2utc_value, StepOffsets.advance_retreat leapRows_descending gapless]
  · rw [timeDiff_eq, sub_neg] at later ⊢
    rw [utc2gpst_value, utc2gpst_value]
    exact StepOffsets.advance_strictMono leapRows_descending later

theorem leap_seconds_2017 :
    utc2gpst (gpst2utc ⟨1483228818, 1 / 2⟩) = ⟨1483228818, 1 / 2⟩ :=
  leap_seconds.2.1 _ ⟨by norm_num, by norm_num⟩ (by decide +kernel)

end GnssParser
