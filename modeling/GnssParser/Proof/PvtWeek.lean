import GnssParser.Model.Navigation
import GnssParser.Proof.Bounds
import GnssParser.Proof.GnssTime

/-!
# The week of a solution

`parse_pvt` completes the time of week of NAV-PVT with the week of the last reference time.
-/

namespace GnssParser
open Checked

def iTow (msg : List UInt8) : UInt32 := u32Of fun k => msg.getD (6 + k) 0

/-- A time of the given milliseconds of the week, at most half a week away from the reference. -/
structure ResolvesWeek (t reference : GTime) (milliseconds : Nat) : Prop extends t.Normal where
  ofWeek : ∃ week : Int,
    timeDiff t (epoch2time gpst0) = 604800 * week + (milliseconds : ℚ) / 1000
  nearest : |timeDiff t reference| ≤ 302400

theorem truncate_milliseconds (m : Nat) : truncate ((m : ℚ) * 1e-3) = (m / 1000 : Nat) := by
  have seconds : (m : ℚ) * 1e-3 = ((m : Int) : ℚ) / ((1000 : Nat) : ℚ) := by
    push_cast
    ring
  rw [truncate_eq_floor (by positivity), seconds, Rat.floor_intCast_div_natCast]
  omega

theorem gpst2time_milliseconds {week m : Nat} (weeks : week < 7101) (below : m < 604800000) :
    gpst2time (UInt32.ofNat week) ((m : ℚ) * 1e-3) =
      ⟨315964800 + (604800 * week + (m / 1000 : Nat)), (m : ℚ) * 1e-3 - (m / 1000 : Nat)⟩ := by
  have upper : (m : ℚ) ≤ 604800000 := by exact_mod_cast below.le
  have lower : (0 : ℚ) ≤ m := Nat.cast_nonneg m
  rw [gpst2time_of_truncate (truncate_milliseconds m) (by linarith) (by linarith) (by omega)
    (by omega), Int.cast_natCast]

theorem resolvesWeek_gpst2time {week m n : Nat} {sec : ℚ} (weeks : week < 7101)
    (below : m < 604800000)
    (near : |604800 * (week : ℚ) + m * 1e-3 - (n + sec)| ≤ 302400) :
    ResolvesWeek (gpst2time (UInt32.ofNat week) ((m : ℚ) * 1e-3)) ⟨315964800 + n, sec⟩ m := by
  have parts : (1000 * (m / 1000 : Nat) + (m % 1000 : Nat) : ℚ) = m := by
    exact_mod_cast Nat.div_add_mod m 1000
  have rest : ((m % 1000 : Nat) : ℚ) < 1000 := by exact_mod_cast Nat.mod_lt m (by decide)
  have nonneg : (0 : ℚ) ≤ (m % 1000 : Nat) := Nat.cast_nonneg _
  rw [gpst2time_milliseconds weeks below]
  generalize m / 1000 = q at parts ⊢
  refine ⟨⟨?_, ?_⟩, ⟨week, ?_⟩, ?_⟩
  · dsimp only
    linarith
  · dsimp only
    linarith
  · rw [epoch2time_gpst0, timeDiff]
    push_cast
    ring
  · have same : timeDiff
        ⟨315964800 + (604800 * week + q), (m : ℚ) * 1e-3 - q⟩
        ⟨315964800 + n, sec⟩ = 604800 * (week : ℚ) + m * 1e-3 - (n + sec) := by
      rw [timeDiff]
      push_cast
      ring
    rwa [same]

theorem pvtTime_resolvesWeek {reference : GTime} (span : reference.InGpsSpan)
    (full : (epoch2time gpst0).time + 604800 ≤ reference.time) {itow : UInt32}
    (below : itow.toNat < 604800000) :
    ResolvesWeek (pvtTime reference itow) reference itow.toNat := by
  obtain ⟨n, small, same⟩ := span.eq_week
  have nonneg := span.nonneg
  have fraction := span.below
  generalize reference.sec = sec at same nonneg fraction
  obtain rfl := same
  rw [epoch2time_gpst0] at full
  dsimp only at full
  have parts : (604800 * (n / 604800 : Nat) + (n % 604800 : Nat) : ℚ) = n := by
    exact_mod_cast Nat.div_add_mod n 604800
  have upper : (itow.toNat : ℚ) < 604800000 := by exact_mod_cast below
  have lower : (0 : ℚ) ≤ itow.toNat := Nat.cast_nonneg _
  have towBelow : ((n % 604800 : Nat) : ℚ) + 1 ≤ 604800 := by
    exact_mod_cast Nat.mod_lt n (by decide)
  have towNonneg : (0 : ℚ) ≤ (n % 604800 : Nat) := Nat.cast_nonneg _
  rw [pvtTime, time2gpst_nat (by omega), doubleOfUInt]
  dsimp only
  split_ifs with later earlier
  · have before : UInt32.ofNat (n / 604800) - 1 = UInt32.ofNat (n / 604800 - 1) := by
      rw [UInt32.ofNat_sub (by omega)]
      rfl
    have week : ((n / 604800 - 1 : Nat) : ℚ) = (n / 604800 : Nat) - 1 := by
      rw [Nat.cast_sub (by omega), Nat.cast_one]
    rw [before]
    apply resolvesWeek_gpst2time (by omega) below
    rw [week, abs_le]
    constructor <;> linarith
  · have after : UInt32.ofNat (n / 604800) + 1 = UInt32.ofNat (n / 604800 + 1) := by
      rw [UInt32.ofNat_add]
      rfl
    rw [after]
    apply resolvesWeek_gpst2time (by omega) below
    rw [Nat.cast_add, Nat.cast_one, abs_le]
    constructor <;> linarith
  · apply resolvesWeek_gpst2time (by omega) below
    rw [abs_le]
    constructor <;> linarith

/-- The solution is stamped with the time of its time of week that is nearest to the reference. -/
theorem parsePvt_resolvesWeek {st : Processor} {msg : List UInt8}
    (length : msg.length = ubxMsgHeaderLen + ubxPvtPayloadLen + 2) (span : st.currTime.InGpsSpan)
    (full : (epoch2time gpst0).time + 604800 ≤ st.currTime.time)
    (below : (iTow msg).toNat < 604800000) :
    ∃ pvt, parsePvt st msg = .ok (some pvt) ∧
      ResolvesWeek pvt.time st.currTime (iTow msg).toNat := by
  have referenced : st.currTime.time ≠ 0 := by
    rw [epoch2time_gpst0] at full
    dsimp only at full
    omega
  obtain ⟨pvt, parsed, time⟩ := parsePvt_ok length referenced
  refine ⟨pvt, parsed, ?_⟩
  rw [time]
  exact pvtTime_resolvesWeek span full below

/-- NAV-PVT a second before the end of a week, with every other field zero. -/
def lastSecondPvt : List UInt8 :=
  [0xB5, 0x62, 0x01, 0x07, 92, 0, 0x18, 0x80, 0x0C, 0x24] ++ List.replicate 90 0

/-- The week is the one before the week of the reference time, that of a satellite. -/
theorem parsePvt_resolvesWeek_lastSecond :
    let st : Processor := { Processor.init with currTime := ⟨315964800 + 604800 * 2000, 1 / 2⟩ }
    ∃ pvt, parsePvt st lastSecondPvt = .ok (some pvt) ∧
      ResolvesWeek pvt.time st.currTime (iTow lastSecondPvt).toNat :=
  parsePvt_resolvesWeek (by decide) ⟨⟨by norm_num, by norm_num⟩, by decide +kernel, by decide +kernel⟩
    (by decide +kernel) (by decide +kernel)

end GnssParser
