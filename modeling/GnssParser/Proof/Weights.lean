import GnssParser.Proof.BeidouSets
import GnssParser.Proof.GalileoFrames
import GnssParser.Proof.GpsFrames
import GnssParser.Proof.Positioning

/-!
# Weights of the solvers

The weights of both solvers are positive exactly if the Galileo satellites that are used have an
accuracy above 2 m.
-/

namespace GnssParser
open Checked BitView

/-! ## Broadcast accuracy -/

theorem one_lt_uraOfIndex (urai : UInt8) : 1 < uraOfIndex urai := by
  rw [uraOfIndex]
  split_ifs with small
  · generalize urai.toNat = index
    match index with
    | 0 | 1 | 2 | 3 | 4 => norm_num [pow2Half]
    | n + 5 =>
        change (1 : ℚ) < 6369051672525773 / 2 ^ 49
        norm_num
  · have large : 6 ≤ urai.toNat := UInt8.le_iff_toNat_le.mp (UInt8.not_lt.mp small)
    rw [Nat.one_shiftLeft]
    exact_mod_cast Nat.one_lt_two_pow (show urai.toNat - 2 ≠ 0 by omega)

/-- The accuracy exceeds 2 m for the indices 101 to 124. -/
theorem two_lt_uraOfSisa {sisa : Nat} (byte : sisa < 256) :
    2 < uraOfSisa (UInt32.ofNat sisa) ↔ 100 < sisa ∧ sisa < 125 := by
  have all : ∀ n < 256, (2 < uraOfSisa (UInt32.ofNat n) ↔ 100 < n ∧ n < 125) := by decide +kernel
  exact all sisa byte

theorem decodeGpsEphem_ura {st st' : Processor} {ephem e : Ephem}
    (decoded : decodeGpsEphem st ephem = .ok (0, st', e)) : ∃ urai, e.ura = uraOfIndex urai := by
  rw [decodeGpsEphem] at decoded
  obtain ⟨row, -, decoded⟩ := bind_eq_ok.mp decoded
  obtain ⟨missing, -, decoded⟩ := bind_eq_ok.mp decoded
  by_cases incomplete : missing ≠ 0
  · rw [if_pos incomplete] at decoded
    cases decoded
    exact absurd rfl incomplete
  have view := fun i h => exposes_gps row (i := i) h
  have first := view 0 (by omega)
  rw [Nat.mul_zero, BytePtr.add_zero] at first
  rw [if_neg incomplete] at decoded
  dsimp only at decoded
  rw [gpsSubframe1_ok first, ok_bind, gpsSubframe2_ok (view 1 (by omega)), ok_bind,
    gpsSubframe3_ok (view 2 (by omega)), ok_bind] at decoded
  dsimp only at decoded
  split_ifs at decoded
  · simp at decoded
  · cases decoded
    exact ⟨_, rfl⟩

theorem decodeGalEphem_ura {st st' : Processor} {ephem e : Ephem} {rc : Int}
    (decoded : decodeGalEphem st ephem = .ok (rc, st', e)) :
    ∃ sisa < 256, e.ura = uraOfSisa (UInt32.ofNat sisa) := by
  rw [decodeGalEphem] at decoded
  obtain ⟨row, -, decoded⟩ := bind_eq_ok.mp decoded
  dsimp only at decoded
  obtain ⟨l, -, decoded⟩ := bind_eq_ok.mp decoded
  rw [galFields_ok (exposes_readAt row), ok_bind] at decoded
  dsimp only at decoded
  have sisa : ∃ sisa < 256, (galRead (bufferBit row) ephem).ura = uraOfSisa (UInt32.ofNat sisa) :=
    ⟨_, field_lt _ _ _, rfl⟩
  split_ifs at decoded
  · cases decoded; exact sisa
  · cases decoded; exact sisa
  · cases decoded; exact sisa
  · cases decoded; exact sisa
  · obtain ⟨before, -, decoded⟩ := bind_eq_ok.mp decoded
    obtain ⟨cleared, -, decoded⟩ := bind_eq_ok.mp decoded
    obtain ⟨after, -, decoded⟩ := bind_eq_ok.mp decoded
    cases decoded
    exact sisa

theorem decodeBdsD1Ephem_ura {st st' : Processor} {ephem e : Ephem} {ionoParams ionoParams' : List ℚ}
    (decoded : decodeBdsD1Ephem st ephem ionoParams = .ok (0, st', e, ionoParams')) :
    ∃ urai, e.ura = uraOfIndex urai := by
  rw [decodeBdsD1Ephem] at decoded
  obtain ⟨row, -, decoded⟩ := bind_eq_ok.mp decoded
  have view := exposes_readAt row
  have first : ∃ e1 io, d1Subframe1 (readAt row) ephem = .ok (e1, io) ∧
      ∃ urai, e1.ura = uraOfIndex urai := by
    simp (disch := omega) only [d1Subframe1, getbitu_ok view, getbits_ok view, getbits2_ok view,
      ok_bind, pure_eq]
    exact ⟨_, _, rfl, _, rfl⟩
  obtain ⟨e1, io, read1, urai⟩ := first
  have second : ∃ e2, d1Subframe2 (readAt row) e1 = .ok e2 ∧ e2.ura = e1.ura := by
    simp (disch := omega) only [d1Subframe2, getbitu2_ok view, getbits_ok view, getbits2_ok view,
      ok_bind, pure_eq]
    exact ⟨_, rfl, rfl⟩
  obtain ⟨e2, read2, ura2⟩ := second
  have third : ∃ e3, d1Subframe3 (readAt row) e2 = .ok e3 ∧ e3.ura = e2.ura := by
    simp (disch := omega) only [d1Subframe3, getbits2_ok view, ok_bind, pure_eq]
    exact ⟨_, rfl, rfl⟩
  obtain ⟨e3, read3, ura3⟩ := third
  dsimp only at decoded
  rw [read1, ok_bind] at decoded
  dsimp only at decoded
  rw [read2, ok_bind, read3, ok_bind] at decoded
  obtain ⟨l, -, decoded⟩ := bind_eq_ok.mp decoded
  split_ifs at decoded
  · simp at decoded
  · simp at decoded
  · simp at decoded
  · cases decoded
    rw [← ura2, ← ura3] at urai
    exact urai

theorem decodeBdsD2Ephem_ura {st st' : Processor} {ephem e : Ephem}
    (decoded : decodeBdsD2Ephem st ephem = .ok (0, st', e)) : ∃ urai, e.ura = uraOfIndex urai := by
  rw [decodeBdsD2Ephem] at decoded
  obtain ⟨row, -, decoded⟩ := bind_eq_ok.mp decoded
  have view := exposes_readAt row
  have fields : ∃ e1, d2Fields (readAt row) ephem = .ok e1 ∧ ∃ urai, e1.ura = uraOfIndex urai := by
    simp (disch := omega) only [d2Fields, d2Page, getbitu_ok view, getbitu3_ok view, getbits_ok view,
      getbits2_ok view, getbits3_ok view, ok_bind, pure_eq]
    exact ⟨_, rfl, _, rfl⟩
  obtain ⟨e1, read, urai⟩ := fields
  dsimp only at decoded
  rw [read, ok_bind] at decoded
  obtain ⟨h, -, decoded⟩ := bind_eq_ok.mp decoded
  obtain ⟨l, -, decoded⟩ := bind_eq_ok.mp decoded
  split_ifs at decoded
  · simp at decoded
  · simp at decoded
  · simp at decoded
  · cases decoded
    exact urai

/-- What a decoder makes of the frames of a satellite. -/
inductive Produced (sat : Nat) : EphemObject → Prop
  | gps {st st' : Processor} {ephem e : Ephem} (sys : (satsys sat).1 = sysGps) (own : ephem.sat = sat)
      (decoded : decodeGpsEphem st ephem = .ok (0, st', e)) : Produced sat (.ephem e)
  | bdsD1 {st st' : Processor} {ephem e : Ephem} {ionoParams ionoParams' : List ℚ}
      (sys : (satsys sat).1 = sysBds) (own : ephem.sat = sat)
      (decoded : decodeBdsD1Ephem st ephem ionoParams = .ok (0, st', e, ionoParams')) :
      Produced sat (.ephem e)
  | bdsD2 {st st' : Processor} {ephem e : Ephem} (sys : (satsys sat).1 = sysBds)
      (own : ephem.sat = sat) (decoded : decodeBdsD2Ephem st ephem = .ok (0, st', e)) :
      Produced sat (.ephem e)
  | gal {st st' : Processor} {ephem e : Ephem} (sys : (satsys sat).1 = sysGal) (own : ephem.sat = sat)
      (decoded : decodeGalEphem st ephem = .ok (0, st', e)) : Produced sat (.ephem e)
  | glo {st : Processor} {ephem e : GloEphem} (sys : (satsys sat).1 = sysGlo) (own : ephem.sat = sat)
      (decoded : decodeGloEphem st ephem = .ok (0, e)) : Produced sat (.gloEphem e)

theorem Produced.one_lt_ura {sat : Nat} {e : EphemObject} (produced : Produced sat e)
    (sys : (satsys sat).1 = sysGps ∨ (satsys sat).1 = sysBds) : 1 < e.base.ura := by
  cases produced with
  | gps _ _ decoded =>
      obtain ⟨urai, ura⟩ := decodeGpsEphem_ura decoded
      exact ura ▸ one_lt_uraOfIndex urai
  | bdsD1 _ _ decoded =>
      obtain ⟨urai, ura⟩ := decodeBdsD1Ephem_ura decoded
      exact ura ▸ one_lt_uraOfIndex urai
  | bdsD2 _ _ decoded =>
      obtain ⟨urai, ura⟩ := decodeBdsD2Ephem_ura decoded
      exact ura ▸ one_lt_uraOfIndex urai
  | gal other _ _ => simp [other, sysGal, sysGps, sysBds] at sys
  | glo other _ _ => simp [other, sysGlo, sysGps, sysBds] at sys

/-- A Galileo accuracy above 2 m is that of an index from 101 to 124. -/
theorem Produced.two_lt_ura_iff {sat : Nat} {e : EphemObject} (produced : Produced sat e)
    (sys : (satsys sat).1 = sysGal) : 2 < e.base.ura ↔
      ∃ sisa, 100 < sisa ∧ sisa < 125 ∧ e.base.ura = uraOfSisa (UInt32.ofNat sisa) := by
  cases produced with
  | gal _ _ decoded =>
      obtain ⟨sisa, byte, ura⟩ := decodeGalEphem_ura decoded
      constructor
      · intro above
        obtain ⟨lower, upper⟩ := (two_lt_uraOfSisa byte).mp (ura ▸ above)
        exact ⟨sisa, lower, upper, ura⟩
      · rintro ⟨index, lower, upper, same⟩
        rw [same]
        exact (two_lt_uraOfSisa (by omega)).mpr ⟨lower, upper⟩
  | gps other _ _ => simp [other, sysGal, sysGps] at sys
  | bdsD1 other _ _ => simp [other, sysGal, sysBds] at sys
  | bdsD2 other _ _ => simp [other, sysGal, sysBds] at sys
  | glo other _ _ => simp [other, sysGal, sysGlo] at sys

/-! ## Weights -/

def HasWeight (w : Option ℚ) : Prop := ∃ x, w = some x ∧ 0 < x

theorem divide_hasWeight {x y : ℚ} (pos : 0 < x) : HasWeight (divide x y) ↔ 0 < y := by
  rw [HasWeight, divide]
  split_ifs with zero
  · simp [zero]
  · constructor
    · rintro ⟨w, same, wpos⟩
      cases same
      exact (div_pos_iff_of_pos_left pos).mp wpos
    · exact fun ypos => ⟨x / y, rfl, div_pos pos ypos⟩

theorem weight_hasWeight {scale gloAccuracy std sinEl ura : ℚ} (scalePos : 0 < scale)
    (gloPos : 0 < gloAccuracy) (sine : sinEl ≠ 0) {obsSys : Nat}
    (index : obsSys = sysGps ∨ obsSys = sysBds → 1 < ura) :
    HasWeight (weight scale gloAccuracy std sinEl obsSys ura) ↔ (obsSys = sysGal → 2 < ura) := by
  have square : 0 < sinEl * sinEl := mul_self_pos.mpr sine
  have scaled : ∃ x, (if std > 0 then divide (sinEl * sinEl) (std / scale)
      else some (sinEl * sinEl)) = some x ∧ 0 < x := by
    by_cases given : std > 0
    · rw [if_pos given]
      exact (divide_hasWeight square).mpr (div_pos given scalePos)
    · rw [if_neg given]
      exact ⟨_, rfl, square⟩
  obtain ⟨x, computed, pos⟩ := scaled
  rw [weight]
  simp only [computed, Option.bind_eq_bind, Option.bind_some]
  by_cases indexed : obsSys = sysGps ∨ obsSys = sysBds
  · have above := index indexed
    have other : obsSys ≠ sysGal := by
      rintro rfl
      simp [sysGal, sysGps, sysBds] at indexed
    rw [if_pos indexed, divide_hasWeight pos]
    exact iff_of_true (sub_pos.mpr above) fun gal => absurd gal other
  rw [if_neg indexed]
  by_cases gal : obsSys = sysGal
  · rw [if_pos gal, divide_hasWeight pos, sub_pos]
    exact ⟨fun above _ => above, fun above => above gal⟩
  rw [if_neg gal]
  refine iff_of_true ?_ fun same => absurd same gal
  split_ifs
  · exact (divide_hasWeight pos).mpr gloPos
  · exact ⟨x, rfl, pos⟩

/-- The sine of the elevation of a satellite that is used is not 0. -/
structure Geometry.UsedSines (g : Geometry) : Prop where
  overhead : g.sin (mPi / 2.0) ≠ 0
  above : ∀ rcv sv, cutOff < (g.satAzel rcv sv).2 → g.sin (g.satAzel rcv sv).2 ≠ 0

variable {g : Geometry} {ionoParams : List ℚ} {tracked : List Tracked}

theorem Geometry.UsedSines.elevation (sines : g.UsedSines) {rcvState : Fin 7 → ℚ} {t : Tracked}
    (used : cutOff < elevation g rcvState t) : g.sin (elevation g rcvState t) ≠ 0 := by
  rw [GnssParser.elevation] at used ⊢
  split_ifs at used ⊢
  · exact sines.above _ _ used
  · exact sines.overhead

/-! ## Iterations -/

/-- The rows of the used satellites have positive weights if the satellites meet a condition. -/
theorem rowWeights_iff {n : Nat} {residual : Tracked → Option (Residual n)}
    {equation : Residual n → Option (Equation n)} {all : List (Residual n)}
    {equations : List (Equation n)} {used accurate : Tracked → Prop}
    (related : List.Forall₂ (fun t r => residual t = some r) tracked all)
    (rows : List.Forall₂ (fun r e => equation r = some e) (all.filter Residual.good) equations)
    (good : ∀ t ∈ tracked, ∀ r, residual t = some r → (r.good ↔ used t))
    (weight : ∀ t ∈ tracked, ∀ r, residual t = some r → used t → ∀ e, equation r = some e →
      (HasWeight e.w ↔ accurate t)) :
    (∀ e ∈ equations, HasWeight e.w) ↔ ∀ t ∈ tracked, used t → accurate t := by
  constructor
  · intro positive t mem isUsed
    obtain ⟨r, inAll, computed⟩ := exists_right related mem
    obtain ⟨e, inside, solved⟩ := exists_right rows
      (List.mem_filter.mpr ⟨inAll, (good t mem r computed).mpr isUsed⟩)
    exact (weight t mem r computed isUsed e solved).mp (positive e inside)
  · intro accurate e inside
    obtain ⟨r, kept, solved⟩ := exists_left rows inside
    obtain ⟨inAll, isGood⟩ := List.mem_filter.mp kept
    obtain ⟨t, mem, computed⟩ := exists_left related inAll
    have isUsed := (good t mem r computed).mp isGood
    exact (weight t mem r computed isUsed e solved).mpr (accurate t mem isUsed)

theorem psrWeights_iff (sines : g.UsedSines) {rcvState : Fin 7 → ℚ}
    (valid : ∀ t ∈ tracked, ∃ i k, t.Valid i k) (nonempty : tracked ≠ [])
    (produced : ∀ t ∈ tracked, Produced t.obs.sat t.ephem) :
    (∃ system, psrSystem g ionoParams tracked rcvState = some system ∧
      ∀ row ∈ system.rows, HasWeight row.w) ↔
    ∀ t ∈ tracked, cutOff < elevation g rcvState t → t.sys = sysGal → 2 < t.ephem.base.ura := by
  obtain ⟨all, equations, related, rows, computed⟩ :=
    psrSystem_eq g rcvState ionoParams valid nonempty
  have extra : ∀ row ∈ (missing tracked).map extraConstraint, HasWeight row.w := by
    intro row inside
    obtain ⟨l, -, rfl⟩ := List.mem_map.mp inside
    exact ⟨1000, rfl, by norm_num⟩
  rw [computed, ← rowWeights_iff related rows]
  · constructor
    · rintro ⟨system, same, positive⟩ e inside
      cases same
      exact positive e (List.mem_append_left _ inside)
    · intro positive
      exact ⟨_, rfl, fun row inside => (List.mem_append.mp inside).elim (positive row) (extra row)⟩
  · intro t mem r residual
    obtain ⟨i, k, valid⟩ := valid t mem
    exact good_iff valid residual
  · intro t mem r residual used e equation
    obtain ⟨i, k, valid⟩ := valid t mem
    obtain ⟨r', residual', same, azel, -⟩ := psrResOf_valid g rcvState ionoParams valid
    cases residual.symm.trans residual'
    obtain ⟨e', equation', -, -, std, weighted⟩ := psrEquation_valid g (same.symm ▸ valid)
    cases equation.symm.trans equation'
    rw [weighted, same, azel]
    exact weight_hasWeight (by norm_num) (by norm_num) (sines.elevation used)
      (produced t mem).one_lt_ura

theorem doppResOf_valid (g : Geometry) (rcvState : Fin 4 → ℚ) (rcvEcef : Vector3d) (azel : ℚ × ℚ)
    {t : Tracked} {i : Nat} {k : Fin 4} (valid : t.Valid i k) :
    ∃ r, doppResOf g rcvState rcvEcef azel t = some r ∧ r.tracked = t ∧ r.azel = azel ∧
      (r.good ↔ cutOff < azel.2) := by
  have inside : i < t.obs.dopp.length := by
    rw [valid.aligned.dopp]
    exact l1Freq_some valid.l1
  rw [doppResOf]
  dsimp only
  rw [if_neg valid.freq, valid.l1]
  simp only [List.getElem?_eq_getElem inside, Option.bind_eq_bind, Option.bind_some]
  refine ⟨_, rfl, rfl, rfl, ?_⟩
  have pos : 0 < squaredNorm (Fin.append (-g.normalized (t.state.pos - rcvEcef)) (1 : Fin 1 → ℚ)) := by
    refine squaredNorm_pos (i := Fin.natAdd 3 0) ?_
    rw [Fin.append_right]
    exact one_ne_zero
  rw [Residual.good, decide_eq_true_iff]
  exact and_iff_right (not_le.mpr pos)

theorem doppEquation_valid (g : Geometry) {r : Residual 4} {i : Nat} {k : Fin 4}
    (valid : r.tracked.Valid i k) : ∃ e, doppEquation g r = some e ∧ ∃ std,
      e.w = weightDopp std (g.sin r.azel.2) r.tracked.sys r.tracked.ephem.base.ura := by
  have inside : i < r.tracked.obs.doppStd.length := by
    rw [valid.aligned.doppStd]
    exact l1Freq_some valid.l1
  rw [doppEquation, valid.l1]
  simp only [List.getElem?_eq_getElem inside, Option.bind_eq_bind, Option.bind_some]
  exact ⟨_, rfl, _, rfl⟩

theorem doppSystem_eq (g : Geometry) (refEcef : Vector3d) (xyztDot : Fin 4 → ℚ)
    (valid : ∀ t ∈ tracked, ∃ i k, t.Valid i k) :
    ∃ all equations,
      List.Forall₂ (fun t r => doppResOf g xyztDot refEcef (g.satAzel refEcef t.state.pos) t = some r)
        tracked all ∧
      List.Forall₂ (fun r e => doppEquation g r = some e) (all.filter Residual.good) equations ∧
      doppSystem g refEcef tracked xyztDot = some equations := by
  have computes : ∀ t ∈ tracked, ∃ r,
      doppResOf g xyztDot refEcef (g.satAzel refEcef t.state.pos) t = some r ∧
      ∃ e, doppEquation g r = some e := by
    intro t mem
    obtain ⟨i, k, valid⟩ := valid t mem
    obtain ⟨r, computed, same, -⟩ :=
      doppResOf_valid g xyztDot refEcef (g.satAzel refEcef t.state.pos) valid
    obtain ⟨e, equation, -⟩ := doppEquation_valid g (same.symm ▸ valid)
    exact ⟨r, computed, e, equation⟩
  obtain ⟨all, equations, residuals, related, rows⟩ := rows_exist computes
  refine ⟨all, equations, related, rows, ?_⟩
  have filled := Table.fill rows 0 { g := some 0, b := some (.finite 0) }
  rw [Nat.add_zero, List.replicate_zero, List.append_nil] at filled
  rw [doppSystem, doppRes, residuals]
  exact filled

theorem doppWeights_iff (sines : g.UsedSines) {refEcef : Vector3d} {xyztDot : Fin 4 → ℚ}
    (valid : ∀ t ∈ tracked, ∃ i k, t.Valid i k)
    (produced : ∀ t ∈ tracked, Produced t.obs.sat t.ephem) :
    (∃ rows, doppSystem g refEcef tracked xyztDot = some rows ∧ ∀ row ∈ rows, HasWeight row.w) ↔
    ∀ t ∈ tracked, cutOff < (g.satAzel refEcef t.state.pos).2 → t.sys = sysGal →
      2 < t.ephem.base.ura := by
  obtain ⟨all, equations, related, rows, computed⟩ := doppSystem_eq g refEcef xyztDot valid
  rw [computed, ← rowWeights_iff related rows]
  · simp
  · intro t mem r residual
    obtain ⟨i, k, valid⟩ := valid t mem
    obtain ⟨r', residual', -, -, good⟩ :=
      doppResOf_valid g xyztDot refEcef (g.satAzel refEcef t.state.pos) valid
    cases residual.symm.trans residual'
    exact good
  · intro t mem r residual used e equation
    obtain ⟨i, k, valid⟩ := valid t mem
    obtain ⟨r', residual', same, azel, -⟩ :=
      doppResOf_valid g xyztDot refEcef (g.satAzel refEcef t.state.pos) valid
    cases residual.symm.trans residual'
    obtain ⟨e', equation', std, weighted⟩ := doppEquation_valid g (same.symm ▸ valid)
    cases equation.symm.trans equation'
    rw [weighted, same, azel]
    exact weight_hasWeight (by norm_num) (by norm_num) (sines.above _ _ used)
      (produced t mem).one_lt_ura

/-! ## Runs -/

/-- The states at which the loop of `dopp_vel` runs, with the iterations that are left. -/
inductive DoppVisits (g : Geometry) (refEcef : Vector3d) (tracked : List Tracked) :
    Nat → (Fin 4 → ℚ) → Prop
  | start : DoppVisits g refEcef tracked maxIterPvt 0
  | next {left : Nat} {xyztDot after : Fin 4 → ℚ}
      (before : DoppVisits g refEcef tracked (left + 1) xyztDot)
      (continues : doppNext g refEcef tracked xyztDot = some (after, true)) :
      DoppVisits g refEcef tracked left after

/-- `dopp_vel` comes to an iteration, with a reference position that is given or computed. -/
structure DoppIterates (g : Geometry) (obs : List (Obs × EphemObject)) (refEcef position : Vector3d)
    (tracked : List Tracked) (xyztDot : Fin 4 → ℚ) : Prop where
  reference : doppReference g obs refEcef = some position
  nonzero : squaredNorm position ≠ 0
  enough : 4 ≤ (filterL1 obs).length
  states : satStates g (filterL1 obs) = some tracked
  visited : ∃ left, DoppVisits g position tracked (left + 1) xyztDot

/-- Arguments with the ephemerides of the decoders. -/
structure DecodedInput extends SppInput where
  decoded : ∀ p ∈ filterL1 obs, Produced p.1.sat p.2

theorem satState_isSome {p : Obs × EphemObject} (aligned : p.1.Aligned)
    (produced : Produced p.1.sat p.2) (g : Geometry) : ∃ t, satState g p = some t := by
  obtain ⟨obs, ephem⟩ := p
  rw [satState]
  cases l1 : (l1Freq obs).2 with
  | none => exact ⟨_, rfl⟩
  | some i =>
      have inside : i < obs.psr.length := by
        rw [aligned.psr]
        exact l1Freq_some l1
      simp only [List.getElem?_eq_getElem inside, Option.bind_eq_bind, Option.bind_some]
      dsimp only at produced
      cases produced with
      | glo sys => exact ⟨_, if_pos sys⟩
      | gps sys => exact ⟨_, if_neg (by rw [sys]; decide)⟩
      | bdsD1 sys => exact ⟨_, if_neg (by rw [sys]; decide)⟩
      | bdsD2 sys => exact ⟨_, if_neg (by rw [sys]; decide)⟩
      | gal sys => exact ⟨_, if_neg (by rw [sys]; decide)⟩

theorem elevation_start (g : Geometry) (t : Tracked) : cutOff < elevation g 0 t := by
  have still : squaredNorm (rcvPos 0) = 0 := by simp [squaredNorm, rcvPos]
  rw [elevation, still, if_neg (lt_irrefl 0)]
  norm_num [cutOff, cutOffDegree, mPi]

theorem DecodedInput.kept (input : DecodedInput)
    (states : satStates g (filterL1 input.obs) = some tracked) : ∀ t ∈ tracked,
      (t.obs, t.ephem) ∈ filterL1 input.obs ∧ Produced t.obs.sat t.ephem := fun t mem =>
  have inside := ((satStates_valid input.aligned states).2 t mem).1
  ⟨inside, input.decoded _ inside⟩

/-- At the start all satellites are used. -/
theorem accurate_of_weights (input : DecodedInput) (sines : g.UsedSines)
    (enough : 4 ≤ (filterL1 input.obs).length)
    (positive : ∀ tracked rcvState, Iterates g ionoParams input.obs tracked rcvState → ∃ system,
      psrSystem g ionoParams tracked rcvState = some system ∧ ∀ row ∈ system.rows, HasWeight row.w) :
    ∀ p ∈ filterL1 input.obs, (satsys p.1.sat).1 = sysGal → 2 < p.2.base.ura := by
  intro p mem gal
  obtain ⟨tracked, states, related⟩ := Table.mapM_some fun p mem =>
    satState_isSome (input.aligned p (mem_filterL1 mem).1) (input.decoded p mem) g
  have start : Iterates g ionoParams input.obs tracked 0 := ⟨enough, states, 29, .start⟩
  obtain ⟨nonempty, valid⟩ := start.valid
  obtain ⟨t, inside, state⟩ := exists_right related mem
  obtain ⟨-, ⟨k, clock⟩, freq⟩ := mem_filterL1 mem
  obtain ⟨obs, ephem, -⟩ := satState_valid (input.aligned p (mem_filterL1 mem).1) clock freq state
  have accurate := (psrWeights_iff sines valid nonempty fun t mem => (input.kept states t mem).2).mp
    (positive tracked 0 start) t inside (elevation_start g t)
  rw [← ephem]
  exact accurate (by rw [Tracked.sys, obs]; exact gal)

/-- All weights of both solvers are positive exactly if each Galileo satellite with a valid
observation has an accuracy above 2 m, unless there are too few observations. -/
theorem weights_positive_iff (input : DecodedInput) (g : Geometry) (sines : g.UsedSines)
    (ionoParams : List ℚ) (refEcef : Vector3d) :
    ((∀ tracked rcvState, Iterates g ionoParams input.obs tracked rcvState → ∃ system,
        psrSystem g ionoParams tracked rcvState = some system ∧
          ∀ row ∈ system.rows, HasWeight row.w) ∧
      ∀ position tracked xyztDot, DoppIterates g input.obs refEcef position tracked xyztDot →
        ∃ rows, doppSystem g position tracked xyztDot = some rows ∧
          ∀ row ∈ rows, HasWeight row.w) ↔
    (4 ≤ (filterL1 input.obs).length → ∀ p ∈ filterL1 input.obs,
      (satsys p.1.sat).1 = sysGal → 2 < p.2.base.ura) := by
  constructor
  · exact fun positive enough => accurate_of_weights input sines enough positive.1
  · intro accurate
    refine ⟨fun tracked rcvState iterates => ?_, fun position tracked xyztDot iterates => ?_⟩
    · obtain ⟨nonempty, valid⟩ := iterates.valid
      have kept := input.kept iterates.states
      refine (psrWeights_iff sines valid nonempty fun t mem => (kept t mem).2).mpr ?_
      exact fun t mem _ gal => accurate iterates.enough _ (kept t mem).1 gal
    · have valid := (satStates_valid input.aligned iterates.states).2
      have kept := input.kept iterates.states
      refine (doppWeights_iff sines (fun t mem => (valid t mem).2) fun t mem => (kept t mem).2).mpr ?_
      exact fun t mem _ gal => accurate iterates.enough _ (kept t mem).1 gal

/-! Four Galileo satellites with one accuracy index. -/

def galByte (svid sisa : Nat) : Nat → UInt8
  | 0 => 2
  | 16 => 4
  -- the root of the semi-major axis, 5440.625
  | 27 => 2
  | 28 => 0xA8
  | 29 => 0x14
  | 32 => 8
  | 48 => 12
  | 63 => UInt8.ofNat sisa
  | 64 => 16
  | 66 => UInt8.ofNat svid <<< 2
  | 80 => 20
  | _ => 0

def galRow (svid sisa : Nat) : Row := Vector.ofFn fun i => galByte svid sisa i

def galEphem (svid sisa : Nat) : Ephem :=
  galSet (bufferBit (galRow svid sisa)) { sat := satNo sysGal svid }

def galBit (svid sisa i : Nat) : Bool :=
  decide (i / 8 < 380) && byteBit (galByte svid sisa (i / 8)) (i % 8)

theorem galRow_field (svid sisa type pos len : Nat) :
    galField (galRow svid sisa) type pos len = field (galBit svid sisa) (128 * type + pos) len :=
  congrArg (fun bit => field bit (128 * type + pos) len) (bufferBit_ofFn (galByte svid sisa))

theorem galRow_consistent : ∀ svid ∈ [1, 2, 3, 4], ∀ sisa ∈ [100, 107],
    GalConsistent (satNo sysGal svid) (galRow svid sisa) := by
  have types : ∀ svid ∈ [1, 2, 3, 4], ∀ sisa ∈ [100, 107], ∀ i < 6,
      field (galBit svid sisa) (128 * i + 0) 6 = i := by decide +kernel
  have time : ∀ svid ∈ [1, 2, 3, 4], ∀ sisa ∈ [100, 107],
      field (galBit svid sisa) (128 * 0 + 6) 2 = 2 := by decide +kernel
  have issues : ∀ svid ∈ [1, 2, 3, 4], ∀ sisa ∈ [100, 107], ∀ i < 5, 1 ≤ i →
      field (galBit svid sisa) (128 * i + 6) 10 = field (galBit svid sisa) (128 * 1 + 6) 10 := by
    decide +kernel
  have number : ∀ svid ∈ [1, 2, 3, 4], ∀ sisa ∈ [100, 107],
      satNo sysGal svid = satNo sysGal (field (galBit svid sisa) (128 * 4 + 16) 6) := by
    decide +kernel
  intro svid sent sisa index
  refine ⟨fun i h => ?_, ?_, fun i h lower => ?_, ?_⟩
  · rw [galRow_field]; exact types svid sent sisa index i h
  · rw [galRow_field]; exact time svid sent sisa index
  · rw [galRow_field, galRow_field]; exact issues svid sent sisa index i h lower
  · rw [galRow_field]; exact number svid sent sisa index

theorem galEphem_ura : ∀ svid ∈ [1, 2, 3, 4], ∀ sisa ∈ [100, 107],
    (galEphem svid sisa).ura = uraOfSisa (UInt32.ofNat sisa) := by
  have field : ∀ svid ∈ [1, 2, 3, 4], ∀ sisa ∈ [100, 107],
      field (galBit svid sisa) (128 * 3 + 120) 8 = sisa := by decide +kernel
  intro svid sent sisa index
  exact congrArg (fun n => uraOfSisa (UInt32.ofNat n))
    ((galRow_field svid sisa 3 120 8).trans (field svid sent sisa index))

theorem galEphem_produced {svid sisa : Nat} (sent : svid ∈ [1, 2, 3, 4]) (index : sisa ∈ [100, 107]) :
    Produced (satNo sysGal svid) (.ephem (galEphem svid sisa)) := by
  have numbers : ∀ svid ∈ [1, 2, 3, 4], satNo sysGal svid ≠ 0 := by decide
  have number := numbers svid sent
  have valid := validSat_satNo number
  obtain ⟨rc, e, row', time, -, -, set, decoded⟩ :=
    @decodeGalEphem_ok { sat := satNo sysGal svid } valid (galRow svid sisa)
  obtain ⟨rfl, rfl, -⟩ := set (galRow_consistent svid sent sisa index)
  exact .gal (by rw [satsys_satNo number]) rfl
    (decoded _ 0 (Processor.init.holds_update valid (galRow svid sisa) 0 none))

def galInput (sisa : Nat) (index : sisa ∈ [100, 107]) : DecodedInput where
  obs := [1, 2, 3, 4].map fun svid =>
    (equatorObs (satNo sysGal svid) freq1 22177400, .ephem (galEphem svid sisa))
  aligned := by
    intro p mem
    obtain ⟨svid, -, rfl⟩ := List.mem_map.mp mem
    exact ⟨rfl, rfl, rfl, rfl⟩
  decoded := by
    intro p mem
    obtain ⟨svid, sent, rfl⟩ := List.mem_map.mp (mem_filterL1 mem).1
    exact galEphem_produced sent index

/-- The four satellites in different directions from the centre of the earth. -/
def galGeometry : Geometry :=
  { equatorGeometry with
    motion := fun obs _ => { pos := (26000000 : ℚ) • match obs.sat with
      | 60 => ![1, 0, 0]
      | 61 => ![3 / 5, 4 / 5, 0]
      | 62 => ![3 / 5, 0, 4 / 5]
      | _ => ![3 / 5, -4 / 5, 0] } }

theorem galSines : galGeometry.UsedSines := by
  have nonzero : ∀ el, galGeometry.sin el ≠ 0 := by
    intro el
    simp only [galGeometry, equatorGeometry]
    split_ifs <;> norm_num
  exact ⟨nonzero _, fun _ _ _ => nonzero _⟩

theorem weights_positive_sisa107 :
    (∀ tracked rcvState, Iterates galGeometry [] (galInput 107 (by decide)).obs tracked rcvState →
      ∃ system, psrSystem galGeometry [] tracked rcvState = some system ∧
        ∀ row ∈ system.rows, HasWeight row.w) ∧
    ∀ position tracked xyztDot,
      DoppIterates galGeometry (galInput 107 (by decide)).obs 0 position tracked xyztDot →
      ∃ rows, doppSystem galGeometry position tracked xyztDot = some rows ∧
        ∀ row ∈ rows, HasWeight row.w := by
  refine (weights_positive_iff (galInput 107 (by decide)) galGeometry galSines [] 0).mpr ?_
  intro _ p mem _
  obtain ⟨svid, sent, rfl⟩ := List.mem_map.mp (mem_filterL1 mem).1
  change 2 < (galEphem svid 107).ura
  rw [galEphem_ura svid sent 107 (by decide)]
  exact (two_lt_uraOfSisa (by decide)).mpr (by decide)

/-- With the index 100 the divisor is 0. -/
theorem sisa100_undefined : ¬ ∀ tracked rcvState,
    Iterates galGeometry [] (galInput 100 (by decide)).obs tracked rcvState → ∃ system,
      psrSystem galGeometry [] tracked rcvState = some system ∧
        ∀ row ∈ system.rows, HasWeight row.w := by
  intro positive
  let sent : Obs × EphemObject :=
    (equatorObs (satNo sysGal 1) freq1 22177400, .ephem (galEphem 1 100))
  have all : filterL1 (galInput 100 (by decide)).obs = (galInput 100 (by decide)).obs := by
    have passes : ∀ svid ∈ [1, 2, 3, 4], (satsys (satNo sysGal svid)).1 = sysGal ∧
        ¬ (l1Freq (equatorObs (satNo sysGal svid) freq1 22177400)).1 < 0 := by decide +kernel
    refine List.filter_eq_self.mpr fun p mem => ?_
    obtain ⟨svid, here, rfl⟩ := List.mem_map.mp mem
    obtain ⟨gal, found⟩ := passes svid here
    exact decide_eq_true ⟨.inr (.inr (.inr gal)), found⟩
  have first : sent ∈ filterL1 (galInput 100 (by decide)).obs := by
    rw [all]
    exact List.mem_map.mpr ⟨1, by decide, rfl⟩
  have accurate := accurate_of_weights (galInput 100 (by decide)) galSines
    (by rw [all]; exact le_rfl) positive sent first (by decide)
  change 2 < (galEphem 1 100).ura at accurate
  rw [galEphem_ura 1 (by decide) 100 (by decide), two_lt_uraOfSisa (by decide)] at accurate
  exact absurd accurate (by decide)

end GnssParser
