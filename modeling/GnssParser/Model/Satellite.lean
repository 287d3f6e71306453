import Mathlib.Tactic

/-!
# Satellite numbering

The constellation masks and satellite numbers of `gnss_constant.hpp` and `gnss_utility.cpp`.
-/

namespace GnssParser

/-! ## Constellations -/

def sysNone : Nat := 0x00
def sysGps : Nat := 0x01
def sysSbs : Nat := 0x02
def sysGlo : Nat := 0x04
def sysGal : Nat := 0x08
def sysQzs : Nat := 0x10
def sysBds : Nat := 0x20

def minPrnGps : Nat := 1
def maxPrnGps : Nat := 32
def nSatGps : Nat := maxPrnGps - minPrnGps + 1

def minPrnGlo : Nat := 1
def maxPrnGlo : Nat := 27
def nSatGlo : Nat := maxPrnGlo - minPrnGlo + 1

def minPrnGal : Nat := 1
def maxPrnGal : Nat := 38
def nSatGal : Nat := maxPrnGal - minPrnGal + 1

def minPrnBds : Nat := 1
def maxPrnBds : Nat := 63
def nSatBds : Nat := maxPrnBds - minPrnBds + 1

abbrev maxSat : Nat := 160

theorem maxSat_eq : maxSat = nSatGps + nSatGlo + nSatGal + nSatBds := rfl

/-! ## Satellite numbers -/

/-- The satellite number of a system and PRN or slot number; 0 is an error. -/
def satNo (sys prn : Nat) : Nat :=
  if prn = 0 then 0
  else if sys = sysGps then
    if prn < minPrnGps ∨ prn > maxPrnGps then 0 else prn - minPrnGps + 1
  else if sys = sysGlo then
    if prn < minPrnGlo ∨ prn > maxPrnGlo then 0 else nSatGps + prn - minPrnGlo + 1
  else if sys = sysGal then
    if prn < minPrnGal ∨ prn > maxPrnGal then 0 else nSatGps + nSatGlo + prn - minPrnGal + 1
  else if sys = sysBds then
    if prn < minPrnBds ∨ prn > maxPrnBds then 0
    else nSatGps + nSatGlo + nSatGal + prn - minPrnBds + 1
  else 0

/-- The system and the PRN or slot number of a satellite number. -/
def satsys (sat : Nat) : Nat × Nat :=
  if sat = 0 ∨ sat > maxSat then (sysNone, 0)
  else if sat ≤ nSatGps then (sysGps, sat + (minPrnGps - 1))
  else if sat - nSatGps ≤ nSatGlo then (sysGlo, sat - nSatGps + (minPrnGlo - 1))
  else if sat - nSatGps - nSatGlo ≤ nSatGal then
    (sysGal, sat - nSatGps - nSatGlo + (minPrnGal - 1))
  else if sat - nSatGps - nSatGlo - nSatGal ≤ nSatBds then
    (sysBds, sat - nSatGps - nSatGlo - nSatGal + (minPrnBds - 1))
  else (sysNone, 0)

/-- The system of a u-blox `gnssId`. -/
def ubxSys (gnssid : Nat) : Nat :=
  match gnssid with
  | 0 => sysGps
  | 1 => sysSbs
  | 2 => sysGal
  | 3 => sysBds
  | 5 => sysQzs
  | 6 => sysGlo
  | _ => sysNone

theorem satNo_gps (prn : Nat) : satNo sysGps prn = if 1 ≤ prn ∧ prn ≤ 32 then prn else 0 := by
  unfold satNo
  simp only [minPrnGps, maxPrnGps]
  grind

theorem satNo_glo (prn : Nat) :
    satNo sysGlo prn = if 1 ≤ prn ∧ prn ≤ 27 then 32 + prn else 0 := by
  have distinct : sysGlo ≠ sysGps := by decide
  unfold satNo
  simp only [nSatGps, minPrnGps, maxPrnGps, minPrnGlo, maxPrnGlo]
  grind

theorem satNo_gal (prn : Nat) :
    satNo sysGal prn = if 1 ≤ prn ∧ prn ≤ 38 then 59 + prn else 0 := by
  have distinct : sysGal ≠ sysGps ∧ sysGal ≠ sysGlo := by decide
  unfold satNo
  simp only [nSatGps, nSatGlo, minPrnGps, maxPrnGps, minPrnGlo, maxPrnGlo, minPrnGal, maxPrnGal]
  grind

theorem satNo_bds (prn : Nat) :
    satNo sysBds prn = if 1 ≤ prn ∧ prn ≤ 63 then 97 + prn else 0 := by
  have distinct : sysBds ≠ sysGps ∧ sysBds ≠ sysGlo ∧ sysBds ≠ sysGal := by decide
  unfold satNo
  simp only [nSatGps, nSatGlo, nSatGal, minPrnGps, maxPrnGps, minPrnGlo, maxPrnGlo, minPrnGal,
    maxPrnGal, minPrnBds, maxPrnBds]
  grind

theorem satNo_cases {sys prn : Nat} (valid : satNo sys prn ≠ 0) :
    (sys = sysGps ∧ 1 ≤ prn ∧ prn ≤ 32 ∧ satNo sys prn = prn) ∨
    (sys = sysGlo ∧ 1 ≤ prn ∧ prn ≤ 27 ∧ satNo sys prn = 32 + prn) ∨
    (sys = sysGal ∧ 1 ≤ prn ∧ prn ≤ 38 ∧ satNo sys prn = 59 + prn) ∨
    (sys = sysBds ∧ 1 ≤ prn ∧ prn ≤ 63 ∧ satNo sys prn = 97 + prn) := by
  by_cases gps : sys = sysGps
  · subst gps; rw [satNo_gps] at valid ⊢; grind
  by_cases glo : sys = sysGlo
  · subst glo; rw [satNo_glo] at valid ⊢; grind
  by_cases gal : sys = sysGal
  · subst gal; rw [satNo_gal] at valid ⊢; grind
  by_cases bds : sys = sysBds
  · subst bds; rw [satNo_bds] at valid ⊢; grind
  simp [satNo, gps, glo, gal, bds] at valid

theorem satNo_le (sys prn : Nat) : satNo sys prn ≤ maxSat := by
  unfold maxSat
  by_cases valid : satNo sys prn = 0
  · omega
  · rcases satNo_cases valid with ⟨_, _, _, e⟩ | ⟨_, _, _, e⟩ | ⟨_, _, _, e⟩ | ⟨_, _, _, e⟩ <;> omega

theorem satsys_eq {sat : Nat} :
    satsys sat = if sat = 0 ∨ 160 < sat then (sysNone, 0)
      else if sat ≤ 32 then (sysGps, sat)
      else if sat ≤ 59 then (sysGlo, sat - 32)
      else if sat ≤ 97 then (sysGal, sat - 59)
      else (sysBds, sat - 97) := by
  simp only [satsys, maxSat, nSatGps, nSatGlo, nSatGal, nSatBds, maxPrnGps, minPrnGps, maxPrnGlo,
    minPrnGlo, maxPrnGal, minPrnGal, maxPrnBds, minPrnBds]
  grind

theorem satsys_satNo {sys prn : Nat} (valid : satNo sys prn ≠ 0) :
    satsys (satNo sys prn) = (sys, prn) := by
  rw [satsys_eq]
  rcases satNo_cases valid with ⟨h, _, _, e⟩ | ⟨h, _, _, e⟩ | ⟨h, _, _, e⟩ | ⟨h, _, _, e⟩
  all_goals
    rw [e, h]
    grind

end GnssParser
