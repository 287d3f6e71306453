import GnssParser.Lib.Elementary
import GnssParser.Model.Positioning

/-!
# Geodesy

Geodetic and earth-fixed coordinates, the local frame and the direction to a satellite, over any
ordered field with its elementary functions.
-/

namespace GnssParser

def earthEcce2 : ℚ := 6.69437999014e-3
def earthSemiMajor : ℚ := 6378137

section
variable {K : Type} [Field K] [LinearOrder K] (f : Elementary K)

/-- `D2R` -/
def d2r : K := ((mPi / 180 : ℚ) : K)

/-- `R2D` -/
def r2d : K := ((180 / mPi : ℚ) : K)

/-- The length of a vector. -/
def norm3 (v : Fin 3 → K) : K := f.sqrt (v 0 * v 0 + v 1 * v 1 + v 2 * v 2)

/-- The length of the first two coordinates. -/
def norm2 (v : Fin 3 → K) : K := f.sqrt (v 0 * v 0 + v 1 * v 1)

def geo2ecef (lla : Fin 3 → K) : Fin 3 → K :=
  let cosLat := f.cos (lla 0 * d2r)
  let sinLat := f.sin (lla 0 * d2r)
  let n := earthSemiMajor / f.sqrt (1 - earthEcce2 * sinLat * sinLat)
  ![(n + lla 2) * cosLat * f.cos (lla 1 * d2r),
    (n + lla 2) * cosLat * f.sin (lla 1 * d2r),
    (n * (1 - earthEcce2) + lla 2) * sinLat]

/-- Latitude and longitude in degrees, and the height. -/
def ecef2geo (xyz : Fin 3 → K) : Fin 3 → K :=
  if xyz 0 = 0 ∧ xyz 1 = 0 then 0
  else
    let e2 : K := earthEcce2
    let a : K := earthSemiMajor
    let a2 := a * a
    let b2 := a2 * (1 - e2)
    let b := f.sqrt b2
    let ep2 := (a2 - b2) / b2
    let p := norm2 f xyz
    let s1 := xyz 2 * a
    let s2 := p * b
    let h := f.sqrt (s1 * s1 + s2 * s2)
    let sinTheta := s1 / h
    let cosTheta := s2 / h
    let s1 := xyz 2 + ep2 * b * sinTheta ^ 3
    let s2 := p - a * e2 * cosTheta ^ 3
    let h := f.sqrt (s1 * s1 + s2 * s2)
    let tanLat := s1 / s2
    let sinLat := s1 / h
    let cosLat := s2 / h
    let lat := f.atan tanLat
    let n := a2 * f.pow (a2 * cosLat * cosLat + b2 * sinLat * sinLat) ((-0.5 : ℚ) : K)
    let altM := p / cosLat - n
    let lon := f.atan2 (xyz 1) (xyz 0)
    ![lat * r2d, lon * r2d, altM]

def ecef2enu (refLla vEcef : Fin 3 → K) : Fin 3 → K :=
  let lat := refLla 0 * d2r
  let lon := refLla 1 * d2r
  let sinLat := f.sin lat
  let cosLat := f.cos lat
  let sinLon := f.sin lon
  let cosLon := f.cos lon
  let rEnuEcef : Matrix (Fin 3) (Fin 3) K :=
    !![-sinLon, cosLon, 0;
      -sinLat * cosLon, -sinLat * sinLon, cosLat;
      cosLat * cosLon, cosLat * sinLon, sinLat]
  rEnuEcef.mulVec vEcef

def normalized (v : Fin 3 → K) : Fin 3 → K :=
  if v 0 * v 0 + v 1 * v 1 + v 2 * v 2 > 0 then (norm3 f v)⁻¹ • v else v

/-- Azimuth and elevation of a satellite. -/
def satAzel (revPos satPos : Fin 3 → K) : K × K :=
  let revLla := ecef2geo f revPos
  let rev2satEcef := normalized f (satPos - revPos)
  let rev2satEnu := ecef2enu f revLla rev2satEcef
  let az := if norm2 f rev2satEcef < ((1e-12 : ℚ) : K) then 0
    else f.atan2 (rev2satEnu 0) (rev2satEnu 1)
  let az := az + (if az < 0 then ((2 * mPi : ℚ) : K) else 0)
  (az, f.asin (rev2satEnu 2))

end

end GnssParser
