import GnssParser.Lib.Table
import GnssParser.Model.GloOrbit
import GnssParser.Model.Measurement

/-!
# Single-point positioning

`psr_pos` and `dopp_vel` in exact arithmetic. What they take from Eigen, from the orbits and from the
functions of angles is a `Geometry`; `none` is the end of the program.
-/

namespace GnssParser

def cutOffDegree : ℚ := 15.0
def mPi : ℚ := 3.14159265358979323846
def epsilonPvt : ℚ := 1e-8
def maxIterPvt : Nat := 30
def earthOmgGps : ℚ := 7.2921151467e-5

/-- The elevation a satellite is used above, in radians. -/
def cutOff : ℚ := cutOffDegree / 180.0 * mPi

/-- The index of a clock, `sys2idx.at`. -/
def sys2idx (sys : Nat) : Option (Fin 4) :=
  if sys = sysGps then some 0
  else if sys = sysGlo then some 1
  else if sys = sysGal then some 2
  else if sys = sysBds then some 3
  else none

/-- The frequency of the first L1 signal, -1 if there is none, and its index. -/
def l1Freq (obs : Obs) : ℚ × Option Nat :=
  let sys := (satsys obs.sat).1
  let (freqMin, freqMax) : ℚ × ℚ :=
    if sys = sysGps ∨ sys = sysGal then (freq1, freq1)
    else if sys = sysBds then (freq1Bds, freq1Bds)
    else if sys = sysGlo then (freq1Glo - 7 * dfrq1Glo, freq1Glo + 6 * dfrq1Glo)
    else (-1, -1)
  match obs.freqs.zipIdx.find? fun (f, _) => freqMin ≤ f ∧ f ≤ freqMax with
  | some (f, i) => (f, some i)
  | none => (-1, none)

/-- `obs` and `ephems` are one list of pairs. -/
def filterL1 (obs : List (Obs × EphemObject)) : List (Obs × EphemObject) :=
  obs.filter fun (thisObs, _) =>
    let sys := (satsys thisObs.sat).1
    (sys = sysGps ∨ sys = sysGlo ∨ sys = sysBds ∨ sys = sysGal) ∧ ¬ (l1Freq thisObs).1 < 0

/-! ## Satellites -/

structure SatState where
  satId : Nat := 0
  ttx : GTime := ⟨0, 0⟩
  pos : Vector3d := 0
  vel : Vector3d := 0
  dt : ℚ := 0
  ddt : ℚ := 0
  tgd : ℚ := 0

/-- A row of `good_G`, its entry of `good_b` and its diagonal entry of `good_W`. -/
structure Equation (n : Nat) where
  /-- no value before the row is written -/
  g : Option (Fin n → ℚ) := none
  b : Option Ieee := none
  /-- no value after a division by zero -/
  w : Option ℚ := some 0

structure Geometry where
  norm : Vector3d → ℚ
  normalized : Vector3d → Vector3d
  sin : ℚ → ℚ
  /-- time of transmission, position, velocity and clock of a satellite -/
  motion : Obs → EphemObject → SatState
  /-- azimuth and elevation -/
  satAzel : Vector3d → Vector3d → ℚ × ℚ
  calculateTropDelay : GTime → Vector3d → ℚ × ℚ → ℚ
  calculateIonDelay : GTime → List ℚ → Vector3d → ℚ × ℚ → ℚ
  /-- the weighted least-squares correction -/
  solve : {n : Nat} → List (Equation n) → Fin n → ℚ

def squaredNorm {n : Nat} (v : Fin n → ℚ) : ℚ := ∑ i, v i * v i

/-- An observation that is kept, with its ephemeris and its state. -/
structure Tracked where
  obs : Obs
  ephem : EphemObject
  state : SatState

def satState (g : Geometry) : Obs × EphemObject → Option Tracked
  | (obs, ephem) =>
      match (l1Freq obs).2 with
      | none => some ⟨obs, ephem, {}⟩
      | some l1Idx => do
          let _ ← obs.psr[l1Idx]?
          if (satsys obs.sat).1 = sysGlo then do
            let _ ← ephem.asGloEphem
            some ⟨obs, ephem, { g.motion obs ephem with satId := obs.sat, tgd := 0 }⟩
          else do
            let e ← ephem.asEphem
            some ⟨obs, ephem, { g.motion obs ephem with satId := obs.sat, tgd := getElem e.tgd 0 Nat.two_pos }⟩

def satStates (g : Geometry) (obs : List (Obs × EphemObject)) : Option (List Tracked) :=
  obs.mapM (satState g)

/-- `a + b * x` of a number that may be no finite one. -/
def affine (a b : ℚ) : Ieee → Ieee
  | .finite x => .finite (a + b * x)
  | .infinite negative => .infinite (negative != decide (b < 0))
  | .nan => .nan

def divide (x y : ℚ) : Option ℚ := if y = 0 then none else some (x / y)

/-- The weight of an observation: `std` relative to `scale`, the accuracy by system. -/
def weight (scale gloAccuracy std sinEl : ℚ) (obsSys : Nat) (ura : ℚ) : Option ℚ := do
  let weight := sinEl * sinEl
  let weight ← (if std > 0 then divide weight (std / scale) else some weight)
  if obsSys = sysGps ∨ obsSys = sysBds then divide weight (ura - 1)
  else if obsSys = sysGal then divide weight (ura - 2)
  else if obsSys = sysGlo then divide weight gloAccuracy
  else some weight

/-- The geometry matrix row of a satellite, its residual and its azimuth and elevation. -/
structure Residual (n : Nat) where
  tracked : Tracked
  j : Fin n → ℚ := 0
  res : Ieee := .finite 0
  azel : ℚ × ℚ := (0, 0)

/-- Not skipped: the row is computed and the satellite stands above the cut-off. -/
def Residual.good {n : Nat} (r : Residual n) : Bool :=
  ¬ squaredNorm r.j ≤ 0 ∧ r.azel.2 > cutOff

/-! ## Position -/

def weightPsr : ℚ → ℚ → Nat → ℚ → Option ℚ := weight 0.16 4

def rcvPos (rcvState : Fin 7 → ℚ) : Vector3d := fun i => rcvState (Fin.castAdd 4 i)

def psrResOf (g : Geometry) (rcvState : Fin 7 → ℚ) (ionoParams : List ℚ) (tracked : Tracked) :
    Option (Residual 7) :=
  match (l1Freq tracked.obs).2 with
  | none => some { tracked }
  | some l1Idx => do
      let satState := tracked.state
      let thisSys := (satsys satState.satId).1
      let svPos := satState.pos
      let rcv := rcvPos rcvState
      let (azel, troDelay, ionDelay) : (ℚ × ℚ) × ℚ × ℚ :=
        if squaredNorm rcv > 0 then
          let azel := g.satAzel rcv svPos
          (azel, g.calculateTropDelay satState.ttx rcv azel,
            g.calculateIonDelay satState.ttx ionoParams rcv azel)
        else ((0, mPi / 2.0), 0, 0)
      let rv2sv := svPos - rcv
      let unitRv2sv := g.normalized rv2sv
      let sagnacTerm := earthOmgGps * (svPos 0 * rcv 1 - svPos 1 * rcv 0) / lightSpeed
      let clock ← sys2idx thisSys
      let psrEstimated := g.norm rv2sv + sagnacTerm + rcvState (Fin.natAdd 3 clock) -
        satState.dt * lightSpeed + troDelay + ionDelay + satState.tgd * lightSpeed
      let psr ← tracked.obs.psr[l1Idx]?
      some {
        tracked
        j := Fin.append (-unitRv2sv) (Pi.single clock 1)
        res := affine psrEstimated (-1) psr
        azel }

def psrRes (g : Geometry) (rcvState : Fin 7 → ℚ) (ionoParams : List ℚ) (tracked : List Tracked) :
    Option (List (Residual 7)) :=
  tracked.mapM (psrResOf g rcvState ionoParams)

/-- The constellations of all observations, 1 if there is one. -/
def sysMask (tracked : List Tracked) : Option (Fin 4 → Nat) :=
  tracked.foldlM (fun mask t => do
    let clock ← sys2idx (satsys t.obs.sat).1
    some (Function.update mask clock 1)) 0

def psrEquation (g : Geometry) (r : Residual 7) : Option (Equation 7) := do
  let thisObs := r.tracked.obs
  let l1Idx ← (l1Freq thisObs).2
  let psrStd ← thisObs.psrStd[l1Idx]?
  some {
    g := some r.j
    b := some r.res
    w := weightPsr psrStd (g.sin r.azel.2) (satsys thisObs.sat).1 r.tracked.ephem.base.ura }

/-- A pseudo-measurement of a clock. -/
def extraConstraint (k : Fin 4) : Equation 7 where
  g := some (Fin.append (0 : Vector3d) (Pi.single k 1))
  b := some (.finite 0)
  w := some 1000

structure PsrSystem where
  goodNum : Nat
  numExtraConstraint : Nat
  rows : List (Equation 7)

/-- The system of one iteration. -/
def psrSystem (g : Geometry) (ionoParams : List ℚ) (tracked : List Tracked) (xyzt : Fin 7 → ℚ) :
    Option PsrSystem := do
  let all ← psrRes g xyzt ionoParams tracked
  let good := all.filter Residual.good
  let mask ← sysMask tracked
  let numExtraConstraint := (List.finRange 4).foldl (fun num k => num - mask k) 4
  if numExtraConstraint ≥ 4 then none
  else do
    let goodNum := good.length
    let rows ← good.zipIdx.foldlM (Table.storeEach (psrEquation g))
      (List.replicate (goodNum + numExtraConstraint) {})
    let (rows, _) ← (List.finRange 4).foldlM
      (Table.storeIf (fun k => mask k = 0) extraConstraint) (rows, goodNum)
    some { goodNum, numExtraConstraint, rows }

/-- The next state, and whether the correction was larger than the tolerance. -/
def psrNext (g : Geometry) (ionoParams : List ℚ) (tracked : List Tracked) (xyzt : Fin 7 → ℚ) :
    Option ((Fin 7 → ℚ) × Bool) := do
  let system ← psrSystem g ionoParams tracked xyzt
  let dx := g.solve system.rows
  some (xyzt + dx, squaredNorm dx > epsilonPvt * epsilonPvt)

/-- The loop, with the iterations that are left. -/
def psrLoop (g : Geometry) (ionoParams : List ℚ) (tracked : List Tracked) :
    Nat → (Fin 7 → ℚ) → Option (Nat × (Fin 7 → ℚ))
  | 0, xyzt => some (0, xyzt)
  | left + 1, xyzt => do
      let (xyzt, continues) ← psrNext g ionoParams tracked xyzt
      if continues then psrLoop g ionoParams tracked left xyzt else some (left, xyzt)

def psrPos (g : Geometry) (ionoParams : List ℚ) (obs : List (Obs × EphemObject)) :
    Option (Fin 7 → ℚ) :=
  let validObs := filterL1 obs
  if validObs.length < 4 then some 0
  else do
    let tracked ← satStates g validObs
    let (left, xyzt) ← psrLoop g ionoParams tracked maxIterPvt 0
    some (if left = 0 then 0 else xyzt)

/-! ## Velocity -/

def weightDopp : ℚ → ℚ → Nat → ℚ → Option ℚ := weight 0.256 2

def doppResOf (g : Geometry) (rcvState : Fin 4 → ℚ) (rcvEcef : Vector3d) (azel : ℚ × ℚ)
    (tracked : Tracked) : Option (Residual 4) :=
  let satState := tracked.state
  let unitRv2sv := g.normalized (satState.pos - rcvEcef)
  let sagnacTerm := earthOmgGps / lightSpeed * (satState.vel 0 * rcvEcef 1 +
    satState.pos 0 * rcvState 1 - satState.vel 1 * rcvEcef 0 - satState.pos 1 * rcvState 0)
  let relative : Vector3d := satState.vel - fun i => rcvState (Fin.castAdd 1 i)
  let doppEstimated := (∑ i, relative i * unitRv2sv i) + rcvState 3 + sagnacTerm -
    satState.ddt * lightSpeed
  let (obsFreq, l1Idx) := l1Freq tracked.obs
  if obsFreq < 0 then some { tracked, azel }
  else do
    let wavelength := lightSpeed / obsFreq
    let dopp ← tracked.obs.dopp[← l1Idx]?
    some {
      tracked
      j := Fin.append (-unitRv2sv) (1 : Fin 1 → ℚ)
      res := affine doppEstimated wavelength dopp
      azel }

def doppRes (g : Geometry) (rcvState : Fin 4 → ℚ) (rcvEcef : Vector3d) (tracked : List Tracked) :
    Option (List (Residual 4)) :=
  tracked.mapM fun t => doppResOf g rcvState rcvEcef (g.satAzel rcvEcef t.state.pos) t

def doppEquation (g : Geometry) (r : Residual 4) : Option (Equation 4) := do
  let thisObs := r.tracked.obs
  let l1Idx ← (l1Freq thisObs).2
  let doppStd ← thisObs.doppStd[l1Idx]?
  some {
    g := some r.j
    b := some r.res
    w := weightDopp doppStd (g.sin r.azel.2) (satsys thisObs.sat).1 r.tracked.ephem.base.ura }

def doppSystem (g : Geometry) (refEcef : Vector3d) (tracked : List Tracked) (xyztDot : Fin 4 → ℚ) :
    Option (List (Equation 4)) := do
  let all ← doppRes g xyztDot refEcef tracked
  let good := all.filter Residual.good
  good.zipIdx.foldlM (Table.storeEach (doppEquation g))
    (List.replicate good.length { g := some 0, b := some (.finite 0) })

def doppNext (g : Geometry) (refEcef : Vector3d) (tracked : List Tracked) (xyztDot : Fin 4 → ℚ) :
    Option ((Fin 4 → ℚ) × Bool) := do
  let rows ← doppSystem g refEcef tracked xyztDot
  let dx := g.solve rows
  some (xyztDot + dx, squaredNorm dx > epsilonPvt * epsilonPvt)

def doppLoop (g : Geometry) (refEcef : Vector3d) (tracked : List Tracked) :
    Nat → (Fin 4 → ℚ) → Option (Fin 4 → ℚ)
  | 0, xyztDot => some xyztDot
  | left + 1, xyztDot => do
      let (xyztDot, continues) ← doppNext g refEcef tracked xyztDot
      if continues then doppLoop g refEcef tracked left xyztDot else some xyztDot

/-- The reference position: the given one, or that of `psr_pos`. -/
def doppReference (g : Geometry) (obs : List (Obs × EphemObject)) (refEcef : Vector3d) :
    Option Vector3d :=
  if squaredNorm refEcef = 0 then do some (rcvPos (← psrPos g (List.replicate 8 0) obs))
  else some refEcef

/-- The velocity, and the reference position it uses. -/
def doppVel (g : Geometry) (obs : List (Obs × EphemObject)) (refEcef : Vector3d) :
    Option ((Fin 4 → ℚ) × Vector3d) := do
  let position ← doppReference g obs refEcef
  if squaredNorm position = 0 then some (0, refEcef)
  else
    let validObs := filterL1 obs
    if validObs.length < 4 then some (0, position)
    else do
      let tracked ← satStates g validObs
      some (← doppLoop g position tracked maxIterPvt 0, position)

end GnssParser
