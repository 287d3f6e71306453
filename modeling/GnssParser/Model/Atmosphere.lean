import Mathlib.Algebra.Order.Floor.Ring
import Mathlib.Data.Matrix.Basic
import GnssParser.Model.Geodesy
import GnssParser.Model.GnssTime

/-!
# Delays of the atmosphere

The tropospheric delay by a standard atmosphere with the mapping functions of Niell, and the
ionospheric delay by the broadcast model.
-/

namespace GnssParser

def time2doy (time : GTime) : ℚ :=
  let ep := { time2epoch time with mon := 1, day := 1, hour := 0, min := 0, sec := 0 }
  timeDiff time (epoch2time ep) / 86400 + 1

/-- Averages and amplitudes of the hydrostatic coefficients, and the wet coefficients, at the latitudes
15, 30, 45, 60 and 75. -/
def nmfCoef : Matrix (Fin 9) (Fin 5) ℚ :=
  .of ![
    ![1.2769934e-3, 1.2683230e-3, 1.2465397e-3, 1.2196049e-3, 1.2045996e-3],
    ![2.9153695e-3, 2.9152299e-3, 2.9288445e-3, 2.9022565e-3, 2.9024912e-3],
    ![62.610505e-3, 62.837393e-3, 63.721774e-3, 63.824265e-3, 64.258455e-3],
    ![0.0000000, 1.2709626e-5, 2.6523662e-5, 3.4000452e-5, 4.1202191e-5],
    ![0.0000000, 2.1414979e-5, 3.0160779e-5, 7.2562722e-5, 11.723375e-5],
    ![0.0000000, 9.0128400e-5, 4.3497037e-5, 84.795348e-5, 170.37206e-5],
    ![5.8021897e-4, 5.6794847e-4, 5.8118019e-4, 5.9727542e-4, 6.1641693e-4],
    ![1.4275268e-3, 1.5138625e-3, 1.4572752e-3, 1.5007428e-3, 1.7599082e-3],
    ![4.3472961e-2, 4.6729510e-2, 4.3908931e-2, 4.4626982e-2, 5.4736038e-2]]

/-- The height correction. -/
def nmfAht : Fin 3 → ℚ := ![2.53e-5, 5.49e-3, 1.14e-3]

section
variable {K : Type} [Field K] [LinearOrder K] [FloorRing K] (f : Elementary K)

/-- A row of the table at a latitude in degrees. -/
def interpc (coef : Fin 5 → ℚ) (lat : K) : K :=
  let steps := lat / ((15 : ℚ) : K)
  let i := if steps < 0 then ⌈steps⌉ else ⌊steps⌋
  if i < 1 then coef 0
  else if i > 4 then coef 4
  else (coef (Fin.ofNat 5 (i.toNat - 1)) : K) * (1 - steps + i) +
    (coef (Fin.ofNat 5 i.toNat) : K) * (steps - i)

def mapf (el a b c : K) : K :=
  let sinel := f.sin el
  (1 + a / (1 + b / (1 + c))) / (sinel + a / (sinel + b / (sinel + c)))

/-- The hydrostatic and the wet mapping function. -/
def nmf (time : GTime) (revLla : Fin 3 → K) (azel : K × K) : K × K :=
  let el := azel.2
  let lat := revLla 0
  let hgt := revLla 2
  if el ≤ 0 then (0, 0)
  else
    -- year from doy 28, with half a year added for southern latitudes
    let y : K := (((time2doy time - 28) / 365.25 : ℚ) : K) + (if lat < 0 then ((0.5 : ℚ) : K) else 0)
    let cosy := f.cos (((2 * mPi : ℚ) : K) * y)
    let lat := |lat|
    let ah (i : Fin 3) := interpc (nmfCoef (Fin.castAdd 6 i)) lat -
      interpc (nmfCoef (Fin.castAdd 3 (Fin.natAdd 3 i))) lat * cosy
    let aw (i : Fin 3) := interpc (nmfCoef (Fin.natAdd 6 i)) lat
    let dm := (1 / f.sin el - mapf f el (nmfAht 0) (nmfAht 1) (nmfAht 2)) * hgt / ((1e3 : ℚ) : K)
    (mapf f el (ah 0) (ah 1) (ah 2) + dm, mapf f el (aw 0) (aw 1) (aw 2))

/-- The delays at the zenith, of the dry air and of the water vapour. -/
def zenithDelays (lat hgt : K) : K × K :=
  let pres := ((1013.25 : ℚ) : K) * f.pow (1 - ((2.2557e-5 : ℚ) : K) * hgt) ((5.2568 : ℚ) : K)
  let temp := ((15.0 : ℚ) : K) - ((6.5e-3 : ℚ) : K) * hgt + ((273.16 : ℚ) : K)
  let e := ((6.108 : ℚ) : K) * ((0.7 : ℚ) : K) *
    f.exp ((((17.15 : ℚ) : K) * temp - ((4684.0 : ℚ) : K)) / (temp - ((38.45 : ℚ) : K)))
  (((0.0022768 : ℚ) : K) * pres / (1 - ((0.00266 : ℚ) : K) * f.cos (((2.0 : ℚ) : K) * lat * d2r) -
      ((0.00028 : ℚ) : K) * hgt / ((1e3 : ℚ) : K)),
    ((0.002277 : ℚ) : K) * (((1255.0 : ℚ) : K) / temp + ((0.05 : ℚ) : K)) * e)

def calculateTropDelay (time : GTime) (revLla : Fin 3 → K) (azel : K × K) : K :=
  if revLla 2 < ((-100.0 : ℚ) : K) ∨ ((1e4 : ℚ) : K) < revLla 2 ∨ azel.2 ≤ 0 then 0
  else
    let hgt := if revLla 2 < 0 then 0 else revLla 2
    let (zhd, zwd) := zenithDelays f (revLla 0) hgt
    let (mapfh, mapfw) := nmf f time revLla azel
    mapfh * zhd + mapfw * zwd

/-- The cubic polynomials of the broadcast model. -/
def cubic (c0 c1 c2 c3 phi : K) : K := c0 + phi * (c1 + phi * (c2 + phi * c3))

/-- Latitude and longitude where the signal crosses the ionosphere, in semicircles. -/
def subionospheric (revLla : Fin 3 → K) (azel : K × K) : K × K :=
  -- earth-centred angle
  let psi := ((0.0137 : ℚ) : K) / (azel.2 / (mPi : K) + ((0.11 : ℚ) : K)) - ((0.022 : ℚ) : K)
  let phi := revLla 0 / ((180.0 : ℚ) : K) + psi * f.cos azel.1
  let phi := if phi > ((0.416 : ℚ) : K) then ((0.416 : ℚ) : K)
    else if phi < ((-0.416 : ℚ) : K) then ((-0.416 : ℚ) : K) else phi
  (phi, revLla 1 / ((180.0 : ℚ) : K) + psi * f.sin azel.1 / f.cos (phi * mPi))

/-- The seconds of the local day. -/
def localTime (t : GTime) (lam : K) : K :=
  let tt := ((43200.0 : ℚ) : K) * lam + (((time2gpst t).1 : ℚ) : K)
  tt - ⌊tt / ((86400.0 : ℚ) : K)⌋ * ((86400.0 : ℚ) : K)

/-- Eight parameters, `none` if there are fewer. -/
def calculateIonDelay (t : GTime) (ionParameters : List K) (revLla : Fin 3 → K) (azel : K × K) :
    Option K :=
  if ionParameters.isEmpty then some 0
  else if revLla 2 < ((-1e3 : ℚ) : K) ∨ azel.2 ≤ 0 then some 0
  else do
    let (phi, lam) := subionospheric f revLla azel
    -- geomagnetic latitude
    let phi := phi + ((0.064 : ℚ) : K) * f.cos ((lam - ((1.617 : ℚ) : K)) * mPi)
    let tt := localTime t lam
    let slant := 1 + ((16.0 : ℚ) : K) * (((0.53 : ℚ) : K) - azel.2 / (mPi : K)) ^ 3
    let [a0, a1, a2, a3, b0, b1, b2, b3] := ionParameters.take 8 | none
    let amp := cubic a0 a1 a2 a3 phi
    let per := cubic b0 b1 b2 b3 phi
    let amp := if amp < 0 then 0 else amp
    let per := if per < ((72000.0 : ℚ) : K) then ((72000.0 : ℚ) : K) else per
    let x := ((2.0 * mPi : ℚ) : K) * (tt - ((50400.0 : ℚ) : K)) / per
    let night : K := ((5e-9 : ℚ) : K)
    some (lightSpeed * slant *
      (if |x| < ((1.57 : ℚ) : K) then
        night + amp * (1 + x * x * (((-0.5 : ℚ) : K) + x * x / ((24.0 : ℚ) : K)))
      else night))

end

end GnssParser
