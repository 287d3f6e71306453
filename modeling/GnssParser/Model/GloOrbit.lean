import GnssParser.Model.Ephemeris

/-!
# GLONASS orbits

`geph2pos` and `geph2vel`: the orbit of a GLONASS satellite integrated from its reference time, with
any function for `std::sqrt`.
-/

namespace GnssParser

def earthSemiMajorGlo : ℚ := 6378136
def earthOmgGlo : ℚ := 7.2921150000e-5
def mu : ℚ := 3.9860044180e14
def tStep : ℚ := 60
def j2Glo : ℚ := 1.0826257E-3

/-- `Eigen::Vector3d` -/
abbrev Vector3d := Fin 3 → ℚ

instance Vector3d.neZero : NeZero 3 := ⟨by decide⟩

variable (sqrt : ℚ → ℚ)

/-- The derivatives of position and velocity. -/
def deq (pos vel acc : Vector3d) : Vector3d × Vector3d :=
  let r2 := pos 0 * pos 0 + pos 1 * pos 1 + pos 2 * pos 2
  let r3 := r2 * sqrt r2
  let omg2 := earthOmgGlo * earthOmgGlo
  if r2 ≤ 0 then (0, 0)
  else
    let a := 1.5 * j2Glo * mu * earthSemiMajorGlo * earthSemiMajorGlo / r2 / r3
    let b := 5 * pos 2 * pos 2 / r2
    let c := -mu / r3 - a * (1 - b)
    (![vel 0, vel 1, vel 2],
      ![(c + omg2) * pos 0 + 2 * earthOmgGlo * vel 1 + acc 0,
        (c + omg2) * pos 1 - 2 * earthOmgGlo * vel 0 + acc 1,
        (c - 2 * a) * pos 2 + acc 2])

/-- One Runge-Kutta step. -/
def gloOrbit (dt : ℚ) (acc : Vector3d) : Vector3d × Vector3d → Vector3d × Vector3d
  | (pos, vel) =>
      let (posDot1, velDot1) := deq sqrt pos vel acc
      let (posDot2, velDot2) := deq sqrt (pos + (0.5 * dt) • posDot1) (vel + (0.5 * dt) • velDot1) acc
      let (posDot3, velDot3) := deq sqrt (pos + (0.5 * dt) • posDot2) (vel + (0.5 * dt) • velDot2) acc
      let (posDot4, velDot4) := deq sqrt (pos + dt • posDot3) (vel + dt • velDot3) acc
      (pos + (dt / 6) • (posDot1 + (2 : ℚ) • posDot2 + (2 : ℚ) • posDot3 + posDot4),
        vel + (dt / 6) • (velDot1 + (2 : ℚ) • velDot2 + (2 : ℚ) • velDot3 + velDot4))

/-- The loop of both functions, at most `fuel` tests of its condition. -/
def integrate {σ : Type} (orbit : ℚ → σ → σ) : Nat → ℚ → ℚ → σ → Option σ
  | 0, _, _, _ => none
  | fuel + 1, tt, dt, state =>
      if |dt| > 1e-9 then
        let tt := if |dt| < tStep then dt else tt
        integrate orbit fuel tt (dt - tt) (orbit tt state)
      else some state

def firstStep (dt : ℚ) : ℚ := if dt < 0 then -tStep else tStep

def GloEphem.start (gephPtr : GloEphem) : Vector3d × Vector3d := (gephPtr.pos.get, gephPtr.vel.get)

/-- The position and the clock offset. -/
def geph2pos (fuel : Nat) (currTime : GTime) (gephPtr : GloEphem) : Option (Vector3d × ℚ) := do
  let dt := timeDiff currTime gephPtr.toe
  let svdt := -gephPtr.tauN + gephPtr.gamma * dt
  let (svPos, _) ← integrate (fun tt => gloOrbit sqrt tt gephPtr.acc.get) fuel (firstStep dt) dt
    gephPtr.start
  pure (svPos, svdt)

/-- The velocity and the clock drift. -/
def geph2vel (fuel : Nat) (currTime : GTime) (gephPtr : GloEphem) : Option (Vector3d × ℚ) := do
  let dt := timeDiff currTime gephPtr.toe
  let svddt := gephPtr.gamma
  let (_, svVel) ← integrate (fun tt => gloOrbit sqrt tt gephPtr.acc.get) fuel (firstStep dt) dt
    gephPtr.start
  pure (svVel, svddt)

end GnssParser
