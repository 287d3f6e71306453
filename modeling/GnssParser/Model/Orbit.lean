import GnssParser.Lib.Elementary
import GnssParser.Model.Positioning

/-!
# Keplerian orbits

`Kepler`, `eph2pos` and `eph2vel` over any ordered field with its elementary functions, the field
standing for `double`.
-/

namespace GnssParser

def muGps : ℚ := 3.9860050000e14
def earthOmgBds : ℚ := 7.2921150000e-5
def sinN5 : ℚ := -0.0871557427476582
def cosN5 : ℚ := 0.9961946980917456
def weekSeconds : ℚ := 604800
def epsilonKepler : ℚ := 1e-14
def maxIterKepler : Nat := 30

section
variable {K : Type} [Field K] [LinearOrder K] (f : Elementary K)

/-- The loop of `Kepler`, which returns the iterate before the last. -/
def keplerLoop (mk es : K) : Nat → K → K → K
  | 0, _, ek => ek
  | left + 1, e, ek =>
      if |e - ek| > (epsilonKepler : K) then
        keplerLoop mk es left (e - (e - es * f.sin e - mk) / (1 - es * f.cos e)) e
      else ek

def kepler (mk es : K) : K := keplerLoop f mk es maxIterKepler mk ((1e6 : ℚ) : K)

/-- The time since `toe`, of the week before or after when that is closer. -/
def weekDiff (currTime toe : GTime) : ℚ :=
  let tk := timeDiff currTime toe
  if tk > weekSeconds / 2 then tk - weekSeconds
  else if tk < -weekSeconds / 2 then tk + weekSeconds
  else tk

/-- `mu` and `earth_omg`. -/
def gravity (sys : Nat) : ℚ × ℚ :=
  if sys = sysGps then (muGps, earthOmgGps)
  else if sys = sysGal then (mu, earthOmgGps)
  else if sys = sysGlo then (mu, earthOmgGlo)
  else if sys = sysBds then (mu, earthOmgBds)
  else (mu, earthOmgGps)

namespace Ephem
variable (ephem : Ephem)

def sys : Nat := (satsys ephem.sat).1

def mu : ℚ := (gravity ephem.sys).1

def earthOmg : ℚ := (gravity ephem.sys).2

/-- A BeiDou satellite on a geostationary orbit. -/
def geo : Bool := ephem.sys = sysBds ∧ (satsys ephem.sat).2 ≤ 5

def orbitTow : ℚ :=
  if ephem.sys = sysBds then (time2bdt (timeAdd ephem.toe (-14))).1 else ephem.toeTow

end Ephem

/-- What both functions compute of the orbital plane. -/
structure Plane (K : Type) where
  n : K
  sinEk : K
  cosEk : K
  cos2phi : K
  sin2phi : K
  uk : K
  rk : K
  ik : K

/-- The satellite in its orbital plane at `tk`, with `solve` for `Kepler`. -/
def orbitalPlane (solve : K → K → K) (ephem : Ephem) (tk : K) : Plane K :=
  let n0 := f.sqrt (ephem.mu / (ephem.a : K) ^ 3)
  let n := n0 + ephem.deltaN
  let mk := ephem.m0 + n * tk
  let ek := solve mk ephem.e
  let sinEk := f.sin ek
  let cosEk := f.cos ek
  let vk := f.atan2 (f.sqrt (1 - ephem.e * ephem.e) * sinEk) (cosEk - ephem.e)
  let phi := vk + ephem.omg
  let cos2phi := f.cos (2 * phi)
  let sin2phi := f.sin (2 * phi)
  let deltaUk := ephem.cus * sin2phi + ephem.cuc * cos2phi
  let deltaRk := ephem.crs * sin2phi + ephem.crc * cos2phi
  let deltaIk := ephem.cis * sin2phi + ephem.cic * cos2phi
  { n, sinEk, cosEk, cos2phi, sin2phi
    uk := phi + deltaUk
    rk := ephem.a * (1 - ephem.e * cosEk) + deltaRk
    ik := ephem.i0 + ephem.iDot * tk + deltaIk }

/-- The satellite in a frame whose first axis points along the ascending node. -/
def nodeFrame (xkPrime ykPrime ik omgK : K) : Fin 3 → K :=
  ![xkPrime * f.cos omgK - ykPrime * f.cos ik * f.sin omgK,
    xkPrime * f.sin omgK + ykPrime * f.cos ik * f.cos omgK,
    ykPrime * f.sin ik]

def svPos (solve : K → K → K) (ephem : Ephem) (tk : K) : Fin 3 → K :=
  let p := orbitalPlane f solve ephem tk
  let xkPrime := p.rk * f.cos p.uk
  let ykPrime := p.rk * f.sin p.uk
  let earthOmg : K := ephem.earthOmg
  if ephem.geo then
    let omgK := ephem.omg0 + ephem.omgDot * tk - earthOmg * ephem.orbitTow
    let g := nodeFrame f xkPrime ykPrime p.ik omgK
    let sinO := f.sin (earthOmg * tk)
    let cosO := f.cos (earthOmg * tk)
    ![g 0 * cosO + g 1 * sinO * cosN5 + g 2 * sinO * sinN5,
      -g 0 * sinO + g 1 * cosO * cosN5 + g 2 * cosO * sinN5,
      -g 1 * sinN5 + g 2 * cosN5]
  else
    let omgK := ephem.omg0 + (ephem.omgDot - earthOmg) * tk - earthOmg * ephem.orbitTow
    nodeFrame f xkPrime ykPrime p.ik omgK

/-- `dts` -/
def svdtOf (solve : K → K → K) (ephem : Ephem) (tk dt : K) : K :=
  let p := orbitalPlane f solve ephem tk
  ephem.af0 + ephem.af1 * dt + ephem.af2 * dt * dt -
    2 * f.sqrt (ephem.mu * ephem.a) * ephem.e * p.sinEk / lightSpeed / lightSpeed

/-- The position and the clock offset. -/
def eph2posWith (solve : K → K → K) (currTime : GTime) (ephem : Ephem) : (Fin 3 → K) × K :=
  let tk : K := weekDiff currTime ephem.toe
  (svPos f solve ephem tk, svdtOf f solve ephem tk (timeDiff currTime ephem.toc))

def eph2pos : GTime → Ephem → (Fin 3 → K) × K := eph2posWith f (kepler f)

/-! ## Velocity -/

/-- The rates of `p` that `eph2vel` computes: of `ek`, `uk`, `rk` and `ik`. -/
structure PlaneRate (K : Type) where
  ekDot : K
  ukDot : K
  rkDot : K
  ikDot : K

def planeRate (ephem : Ephem) (p : Plane K) : PlaneRate K :=
  let ekDot := p.n / (1 - ephem.e * p.cosEk)
  let vkDot := f.sqrt (1 - ephem.e * ephem.e) * ekDot / (1 - ephem.e * p.cosEk)
  let deltaUkDot := 2 * vkDot * (ephem.cus * p.cos2phi - ephem.cuc * p.sin2phi)
  let deltaRkDot := 2 * vkDot * (ephem.crs * p.cos2phi - ephem.crc * p.sin2phi)
  let deltaIkDot := 2 * vkDot * (ephem.cis * p.cos2phi - ephem.cic * p.sin2phi)
  { ekDot
    ukDot := vkDot + deltaUkDot
    rkDot := ephem.a * ephem.e * ekDot * p.sinEk + deltaRkDot
    ikDot := ephem.iDot + deltaIkDot }

/-- The velocity in the frame of `nodeFrame`. -/
def nodeVelocity (xkPrime ykPrime xkPrimeDot ykPrimeDot ik ikDot omgK omgKDot : K) : Fin 3 → K :=
  let term1 := xkPrimeDot - ykPrime * omgKDot * f.cos ik
  let term2 := xkPrime * omgKDot + ykPrimeDot * f.cos ik - ykPrime * ikDot * f.sin ik
  ![term1 * f.cos omgK - term2 * f.sin omgK,
    term1 * f.sin omgK + term2 * f.cos omgK,
    ykPrimeDot * f.sin ik + ykPrimeDot * ikDot * f.cos ik]

def svVel (solve : K → K → K) (ephem : Ephem) (tk : K) : Fin 3 → K :=
  let p := orbitalPlane f solve ephem tk
  let r := planeRate f ephem p
  let xkPrime := p.rk * f.cos p.uk
  let ykPrime := p.rk * f.sin p.uk
  let xkPrimeDot := r.rkDot * f.cos p.uk - p.rk * r.ukDot * f.sin p.uk
  let ykPrimeDot := r.rkDot * f.sin p.uk + p.rk * r.ukDot * f.cos p.uk
  let earthOmg : K := ephem.earthOmg
  if ephem.geo then
    let omgK := ephem.omg0 + ephem.omgDot * tk - earthOmg * ephem.orbitTow
    let omgKDot : K := ephem.omgDot
    let g := nodeFrame f xkPrime ykPrime p.ik omgK
    let gDot := nodeVelocity f xkPrime ykPrime xkPrimeDot ykPrimeDot p.ik r.ikDot omgK omgKDot
    let sinO := f.sin (earthOmg * tk)
    let cosO := f.cos (earthOmg * tk)
    let sinODot := earthOmg * cosO
    let cosODot := -earthOmg * sinO
    ![gDot 0 * cosO + g 0 * cosODot + gDot 1 * sinO * cosN5 + g 1 * sinODot * cosN5 +
        gDot 2 * sinO * sinN5 + g 2 * sinODot * sinN5,
      -gDot 0 * sinO - g 0 * sinODot + gDot 1 * cosO * cosN5 + g 1 * cosODot * cosN5 +
        gDot 2 * cosO * sinN5 + g 2 * cosODot * sinN5,
      -gDot 1 * sinN5 + gDot 2 * cosN5]
  else
    let omgK := ephem.omg0 + (ephem.omgDot - earthOmg) * tk - earthOmg * ephem.orbitTow
    let omgKDot := ephem.omgDot - earthOmg
    nodeVelocity f xkPrime ykPrime xkPrimeDot ykPrimeDot p.ik r.ikDot omgK omgKDot

/-- `ddts` -/
def svddtOf (solve : K → K → K) (ephem : Ephem) (tk dt : K) : K :=
  let p := orbitalPlane f solve ephem tk
  let r := planeRate f ephem p
  ephem.af1 + 2 * ephem.af2 * dt -
    2 * f.sqrt (ephem.mu * ephem.a) * ephem.e * p.cosEk * r.ekDot / lightSpeed / lightSpeed

/-- The velocity and the clock drift. -/
def eph2velWith (solve : K → K → K) (currTime : GTime) (ephem : Ephem) : (Fin 3 → K) × K :=
  let tk : K := weekDiff currTime ephem.toe
  (svVel f solve ephem tk, svddtOf f solve ephem tk (timeDiff currTime ephem.toc))

def eph2vel : GTime → Ephem → (Fin 3 → K) × K := eph2velWith f (kepler f)

end

end GnssParser
