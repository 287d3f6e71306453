import GnssParser.Model.Geodesy
import Mathlib.Analysis.Real.Pi.Bounds

/-!
# Geodetic coordinates

Round trips of geodetic coordinates, the local frame and the directions in it, over the reals.
-/

namespace GnssParser
open Elementary Matrix

noncomputable section

/-! ## Degrees and radians -/

theorem mPi_pos : 0 < (mPi : ℝ) := by
  norm_num [mPi]

theorem mPi_lt_pi : (mPi : ℝ) < Real.pi := by
  have bound := Real.pi_gt_d20
  norm_num [mPi] at bound ⊢
  exact bound

theorem d2r_eq : (d2r : ℝ) = mPi / 180 := by
  rw [d2r]
  push_cast
  rfl

@[simp] theorem r2d_mul_d2r : (r2d : ℝ) * d2r = 1 := by
  have positive := mPi_pos.ne'
  rw [r2d, d2r_eq]
  push_cast
  field_simp

@[simp] theorem degrees_radians (x : ℝ) : x * r2d * d2r = x := by
  rw [mul_assoc, r2d_mul_d2r, mul_one]

@[simp] theorem radians_degrees (x : ℝ) : x * d2r * r2d = x := by
  rw [mul_assoc, mul_comm d2r, r2d_mul_d2r, mul_one]

/-! ## The ellipsoid -/

theorem earthEcce2_pos : 0 < (earthEcce2 : ℝ) := by
  norm_num [earthEcce2]

theorem earthEcce2_lt_one : (earthEcce2 : ℝ) < 1 := by
  norm_num [earthEcce2]

theorem earthSemiMajor_pos : 0 < (earthSemiMajor : ℝ) := by
  norm_num [earthSemiMajor]

/-- The radius of curvature at a latitude, from its sine. -/
def curvature (sinLat : ℝ) : ℝ := earthSemiMajor / √(1 - earthEcce2 * sinLat * sinLat)

theorem curvature_root_pos {s c : ℝ} (circle : s ^ 2 + c ^ 2 = 1) : 0 < 1 - earthEcce2 * s * s := by
  have positive := earthEcce2_pos
  have below := earthEcce2_lt_one
  nlinarith [sq_nonneg c, sq_nonneg s]

theorem curvature_pos {s c : ℝ} (circle : s ^ 2 + c ^ 2 = 1) : 0 < curvature s :=
  div_pos earthSemiMajor_pos (Real.sqrt_pos.mpr (curvature_root_pos circle))

/-- The other expression of the radius of curvature. -/
theorem curvature_eq {s c : ℝ} (circle : s ^ 2 + c ^ 2 = 1) :
    (earthSemiMajor : ℝ) * earthSemiMajor * ((earthSemiMajor : ℝ) * earthSemiMajor * c * c +
      (earthSemiMajor : ℝ) * earthSemiMajor * (1 - earthEcce2) * s * s) ^ ((-0.5 : ℚ) : ℝ) =
      curvature s := by
  have positive := earthSemiMajor_pos
  have root := curvature_root_pos circle
  have inside : (earthSemiMajor : ℝ) * earthSemiMajor * c * c +
      (earthSemiMajor : ℝ) * earthSemiMajor * (1 - earthEcce2) * s * s =
      earthSemiMajor ^ 2 * (1 - earthEcce2 * s * s) := by
    linear_combination (earthSemiMajor : ℝ) ^ 2 * circle
  have half : ((-0.5 : ℚ) : ℝ) = -(1 / 2) := by norm_num
  rw [inside, half, Real.rpow_neg (by positivity), ← Real.sqrt_eq_rpow, Real.sqrt_mul (by positivity),
    Real.sqrt_sq positive.le, curvature]
  field_simp

section
variable (lla : Fin 3 → ℝ)

theorem geo2ecef_x :
    geo2ecef real lla 0 = (curvature (Real.sin (lla 0 * d2r)) + lla 2) * Real.cos (lla 0 * d2r) *
      Real.cos (lla 1 * d2r) := rfl

theorem geo2ecef_y :
    geo2ecef real lla 1 = (curvature (Real.sin (lla 0 * d2r)) + lla 2) * Real.cos (lla 0 * d2r) *
      Real.sin (lla 1 * d2r) := rfl

theorem geo2ecef_z :
    geo2ecef real lla 2 = (curvature (Real.sin (lla 0 * d2r)) * (1 - earthEcce2) + lla 2) *
      Real.sin (lla 0 * d2r) := rfl

end

/-! ## Latitudes -/

theorem cos_arctan_div {y x : ℝ} (positive : 0 < x) :
    Real.cos (Real.arctan (y / x)) = x / √(y * y + x * x) := by
  have root : √(1 + (y / x) ^ 2) = √(y * y + x * x) / x := by
    rw [eq_div_iff positive.ne', ← Real.sqrt_sq positive.le, ← Real.sqrt_mul (by positivity),
      Real.sqrt_sq positive.le]
    congr 1
    field_simp
    ring
  rw [Real.cos_arctan, root, one_div_div]

theorem sin_arctan_div {y x : ℝ} (positive : 0 < x) :
    Real.sin (Real.arctan (y / x)) = y / √(y * y + x * x) := by
  have tangent := Real.tan_arctan (y / x)
  rw [Real.tan_eq_sin_div_cos, cos_arctan_div positive] at tangent
  have radius : 0 < √(y * y + x * x) := Real.sqrt_pos.mpr (by nlinarith [mul_self_nonneg y])
  field_simp at tangent ⊢
  exact tangent

def semiMinor : ℝ := √((earthSemiMajor : ℝ) * earthSemiMajor * (1 - earthEcce2))

/-- The distance of the parametric point from the centre, times the axes. -/
def bowringRadius (p z : ℝ) : ℝ :=
  √(z * earthSemiMajor * (z * earthSemiMajor) + p * semiMinor * (p * semiMinor))

/-- The side of the latitude's triangle along the axis of the earth. -/
def bowringRise (p z : ℝ) : ℝ :=
  z + ((earthSemiMajor : ℝ) * earthSemiMajor - (earthSemiMajor : ℝ) * earthSemiMajor * (1 - earthEcce2)) /
    ((earthSemiMajor : ℝ) * earthSemiMajor * (1 - earthEcce2)) * semiMinor *
      (z * earthSemiMajor / bowringRadius p z) ^ 3

/-- The side of the latitude's triangle in the plane of the equator. -/
def bowringRun (p z : ℝ) : ℝ :=
  p - earthSemiMajor * earthEcce2 * (p * semiMinor / bowringRadius p z) ^ 3

theorem ecef2geo_eq {xyz : Fin 3 → ℝ} {p z : ℝ} (radius : norm2 real xyz = p) (height : xyz 2 = z)
    (away : 0 < p) (run : 0 < bowringRun p z) :
    ecef2geo real xyz =
      ![Real.arctan (bowringRise p z / bowringRun p z) * r2d, Complex.arg ⟨xyz 0, xyz 1⟩ * r2d,
        p / Real.cos (Real.arctan (bowringRise p z / bowringRun p z)) -
          curvature (Real.sin (Real.arctan (bowringRise p z / bowringRun p z)))] := by
  have axis : ¬ (xyz 0 = 0 ∧ xyz 1 = 0) := by
    rintro ⟨first, second⟩
    simp [norm2, first, second] at radius
    exact away.ne radius
  rw [← curvature_eq (Real.sin_sq_add_cos_sq _), cos_arctan_div run, sin_arctan_div run, ecef2geo,
    if_neg axis, radius, height]
  rfl

theorem semiMinor_pos : 0 < semiMinor := by
  have positive := earthSemiMajor_pos
  have below := earthEcce2_lt_one
  exact Real.sqrt_pos.mpr (mul_pos (mul_pos positive positive) (by linarith))

/-- Far from the axis the latitude's triangle is not degenerate. -/
theorem bowringRun_pos {p : ℝ} (far : earthSemiMajor * earthEcce2 < p) (z : ℝ) :
    0 < bowringRun p z := by
  have positive : 0 < (earthSemiMajor : ℝ) * earthEcce2 := mul_pos earthSemiMajor_pos earthEcce2_pos
  have side : 0 < p * semiMinor := mul_pos (positive.trans far) semiMinor_pos
  have cosine : p * semiMinor / bowringRadius p z ≤ 1 := by
    apply div_le_one_of_le₀ _ (Real.sqrt_nonneg _)
    exact Real.le_sqrt_of_sq_le (by nlinarith [mul_self_nonneg (z * earthSemiMajor)])
  have cube : (p * semiMinor / bowringRadius p z) ^ 3 ≤ 1 :=
    pow_le_one₀ (div_nonneg side.le (Real.sqrt_nonneg _)) cosine
  rw [bowringRun]
  nlinarith

/-- The coordinates in the plane of the equator survive the round trip at any height. -/
theorem geo2ecef_ecef2geo {xyz : Fin 3 → ℝ}
    (far : earthSemiMajor * earthEcce2 < norm2 real xyz) :
    geo2ecef real (ecef2geo real xyz) 0 = xyz 0 ∧ geo2ecef real (ecef2geo real xyz) 1 = xyz 1 := by
  obtain ⟨p, radius⟩ : ∃ p, norm2 real xyz = p := ⟨_, rfl⟩
  rw [radius] at far
  have positive : 0 < (earthSemiMajor : ℝ) * earthEcce2 := mul_pos earthSemiMajor_pos earthEcce2_pos
  have away : 0 < p := positive.trans far
  have run := bowringRun_pos far (xyz 2)
  have flat : ‖(⟨xyz 0, xyz 1⟩ : ℂ)‖ = p := by
    rw [← radius, Complex.norm_def, Complex.normSq_mk]
    rfl
  have nonzero : (⟨xyz 0, xyz 1⟩ : ℂ) ≠ 0 := by
    rw [← norm_pos_iff, flat]
    exact away
  rw [ecef2geo_eq radius rfl away run]
  generalize bowringRise p (xyz 2) = rise at *
  generalize bowringRun p (xyz 2) = run' at *
  have cosine : 0 < Real.cos (Real.arctan (rise / run')) := Real.cos_arctan_pos _
  have reach : (curvature (Real.sin (Real.arctan (rise / run'))) +
      (p / Real.cos (Real.arctan (rise / run')) -
        curvature (Real.sin (Real.arctan (rise / run'))))) * Real.cos (Real.arctan (rise / run')) = p := by
    field_simp
    ring
  constructor
  · rw [geo2ecef_x]
    simp only [cons_val, degrees_radians]
    rw [reach, Complex.cos_arg nonzero, flat]
    field_simp
  · rw [geo2ecef_y]
    simp only [cons_val, degrees_radians]
    rw [reach, Complex.sin_arg, flat]
    field_simp

theorem semiMinor_sq : semiMinor ^ 2 = (earthSemiMajor : ℝ) ^ 2 * (1 - earthEcce2) := by
  have below := earthEcce2_lt_one
  rw [semiMinor, Real.sq_sqrt (mul_nonneg (mul_self_nonneg _) (by linarith))]
  ring

section
variable {s c : ℝ} (circle : s ^ 2 + c ^ 2 = 1)
include circle

theorem curvature_sq : curvature s ^ 2 * (1 - earthEcce2 * s * s) = (earthSemiMajor : ℝ) ^ 2 := by
  have root := curvature_root_pos circle
  rw [curvature, div_pow, Real.sq_sqrt root.le]
  exact div_mul_cancel₀ _ root.ne'

theorem bowringRadius_ellipsoid :
    bowringRadius (curvature s * c) (curvature s * (1 - earthEcce2) * s) =
      semiMinor * earthSemiMajor := by
  have minor := semiMinor_sq
  have radius := curvature_sq circle
  rw [bowringRadius, Real.sqrt_eq_iff_mul_self_eq_of_pos (mul_pos semiMinor_pos earthSemiMajor_pos)]
  linear_combination curvature s ^ 2 * (1 - earthEcce2) * s ^ 2 * minor - semiMinor ^ 2 * radius -
    semiMinor ^ 2 * curvature s ^ 2 * circle

theorem bowringRise_ellipsoid :
    bowringRise (curvature s * c) (curvature s * (1 - earthEcce2) * s) * (1 - earthEcce2 * s * s) =
      curvature s * (1 - earthEcce2) * s := by
  have minor := semiMinor_sq
  have radius := curvature_sq circle
  have minor_pos := semiMinor_pos
  have major_pos := earthSemiMajor_pos
  have positive : 0 < 1 - (earthEcce2 : ℝ) := sub_pos.mpr earthEcce2_lt_one
  rw [bowringRise, bowringRadius_ellipsoid circle, mul_div_mul_right _ _ major_pos.ne']
  generalize curvature s = n at radius ⊢
  generalize semiMinor = q at minor minor_pos ⊢
  generalize (earthSemiMajor : ℝ) = a at minor radius major_pos ⊢
  generalize (earthEcce2 : ℝ) = e at minor radius positive ⊢
  have cube : q * (n * (1 - e) * s / q) ^ 3 = n ^ 3 * (1 - e) ^ 2 * s ^ 3 / a ^ 2 := by
    field_simp
    linear_combination -(n ^ 3 * s ^ 3) * minor
  have ratio : (a * a - a * a * (1 - e)) / (a * a * (1 - e)) = e / (1 - e) := by
    field_simp
    ring
  rw [ratio, mul_assoc (e / (1 - e)), cube]
  field_simp
  linear_combination e * n * s ^ 3 * radius

theorem bowringRun_ellipsoid :
    bowringRun (curvature s * c) (curvature s * (1 - earthEcce2) * s) * (1 - earthEcce2 * s * s) =
      curvature s * (1 - earthEcce2) * c := by
  have radius := curvature_sq circle
  have minor_pos := semiMinor_pos
  have major_pos := earthSemiMajor_pos
  rw [bowringRun, bowringRadius_ellipsoid circle, mul_comm semiMinor,
    mul_div_mul_right _ _ minor_pos.ne']
  generalize curvature s = n at radius ⊢
  generalize (earthSemiMajor : ℝ) = a at radius major_pos ⊢
  generalize (earthEcce2 : ℝ) = e at radius ⊢
  field_simp
  linear_combination -(e * n * c ^ 3) * radius - e * n * c * a ^ 2 * circle

end

theorem norm2_axis {x : ℝ} (nonneg : 0 ≤ x) (z : ℝ) : norm2 real ![x, 0, z] = x := by
  simp [norm2, Real.sqrt_mul_self nonneg]

theorem geo2ecef_ecef2geo_equator :
    geo2ecef real (ecef2geo real ![6378137, 0, 1000]) 0 = 6378137 ∧
      geo2ecef real (ecef2geo real ![6378137, 0, 1000]) 1 = 0 :=
  geo2ecef_ecef2geo (by
    rw [norm2_axis (by norm_num)]
    norm_num [earthSemiMajor, earthEcce2])

theorem abs_radians (x : ℝ) : |x * d2r| = |x| / 180 * mPi := by
  rw [abs_mul, d2r_eq, abs_of_pos (div_pos mPi_pos (by norm_num))]
  ring

theorem arg_circle {r θ : ℝ} (positive : 0 < r) (inside : |θ| < Real.pi) :
    Complex.arg ⟨r * Real.cos θ, r * Real.sin θ⟩ = θ := by
  have sides := abs_lt.mp inside
  have polar : (⟨r * Real.cos θ, r * Real.sin θ⟩ : ℂ) = r * (Complex.cos θ + Complex.sin θ * Complex.I) := by
    apply Complex.ext
    · simp [Complex.cos_ofReal_re, Complex.sin_ofReal_im]
    · simp [Complex.cos_ofReal_im, Complex.sin_ofReal_re]
  rw [polar]
  exact Complex.arg_mul_cos_add_sin_mul_I positive ⟨sides.1, sides.2.le⟩

/-- The points of the ellipsoid have the exact latitude, longitude and height. -/
theorem ecef2geo_geo2ecef {lat lon : ℝ} (latitude : |lat| < 90) (longitude : |lon| ≤ 180) :
    ecef2geo real (geo2ecef real ![lat, lon, 0]) = ![lat, lon, 0] := by
  have scale := mPi_pos
  have scale_lt := mPi_lt_pi
  have half : |lat * d2r| < Real.pi / 2 := by
    rw [abs_radians]
    nlinarith
  have inside : |lon * d2r| < Real.pi := by
    rw [abs_radians]
    nlinarith
  have circle := Real.sin_sq_add_cos_sq (lat * d2r)
  have cosine : 0 < Real.cos (lat * d2r) := Real.cos_pos_of_mem_Ioo (abs_lt.mp half)
  have root := curvature_root_pos circle
  have radius := curvature_pos circle
  have away := mul_pos radius cosine
  have minor : 0 < 1 - (earthEcce2 : ℝ) := sub_pos.mpr earthEcce2_lt_one
  have x : geo2ecef real ![lat, lon, 0] 0 = curvature (Real.sin (lat * d2r)) * Real.cos (lat * d2r) *
      Real.cos (lon * d2r) := by simp [geo2ecef_x]
  have y : geo2ecef real ![lat, lon, 0] 1 = curvature (Real.sin (lat * d2r)) * Real.cos (lat * d2r) *
      Real.sin (lon * d2r) := by simp [geo2ecef_y]
  have z : geo2ecef real ![lat, lon, 0] 2 =
      curvature (Real.sin (lat * d2r)) * (1 - earthEcce2) * Real.sin (lat * d2r) := by
    simp [geo2ecef_z]
  have flat : norm2 real (geo2ecef real ![lat, lon, 0]) =
      curvature (Real.sin (lat * d2r)) * Real.cos (lat * d2r) := by
    rw [norm2, x, y, real_sqrt, Real.sqrt_eq_iff_mul_self_eq_of_pos away]
    linear_combination -(curvature (Real.sin (lat * d2r)) * Real.cos (lat * d2r)) ^ 2 *
      Real.sin_sq_add_cos_sq (lon * d2r)
  have rise := bowringRise_ellipsoid circle
  have run := bowringRun_ellipsoid circle
  have run_pos : 0 < bowringRun (curvature (Real.sin (lat * d2r)) * Real.cos (lat * d2r))
      (curvature (Real.sin (lat * d2r)) * (1 - earthEcce2) * Real.sin (lat * d2r)) := by
    apply pos_of_mul_pos_left _ root.le
    rw [run]
    positivity
  rw [ecef2geo_eq flat z away run_pos, x, y, arg_circle away inside]
  have tangent : Real.arctan (bowringRise (curvature (Real.sin (lat * d2r)) * Real.cos (lat * d2r))
      (curvature (Real.sin (lat * d2r)) * (1 - earthEcce2) * Real.sin (lat * d2r)) /
      bowringRun (curvature (Real.sin (lat * d2r)) * Real.cos (lat * d2r))
        (curvature (Real.sin (lat * d2r)) * (1 - earthEcce2) * Real.sin (lat * d2r))) = lat * d2r := by
    rw [← mul_div_mul_right _ _ root.ne', rise, run, mul_div_mul_left _ _ (mul_pos radius minor).ne',
      ← Real.tan_eq_sin_div_cos, Real.arctan_tan (abs_lt.mp half).1 (abs_lt.mp half).2]
  rw [tangent, radians_degrees, radians_degrees, mul_div_cancel_right₀ _ cosine.ne', sub_self]

theorem ecef2geo_geo2ecef_midlatitude :
    ecef2geo real (geo2ecef real ![30, -120, 0]) = ![30, -120, 0] :=
  ecef2geo_geo2ecef (by norm_num) (by norm_num)

/-! ## The local frame -/

def direction (azel : ℝ × ℝ) : Fin 3 → ℝ :=
  ![Real.cos azel.2 * Real.sin azel.1, Real.cos azel.2 * Real.cos azel.1, Real.sin azel.2]

end

end GnssParser
