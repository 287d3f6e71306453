import GnssParser.Model.Ephemeris

/-!
# The state of one satellite

What the decoders read and replace of the shared arrays: one row and one byte of flags.
-/

namespace GnssParser
open Checked

structure ValidSat (sat : Nat) : Prop where
  pos : 0 < sat
  le : sat ≤ maxSat

theorem validSat_satNo {sys prn : Nat} (valid : satNo sys prn ≠ 0) : ValidSat (satNo sys prn) :=
  ⟨Nat.pos_of_ne_zero valid, satNo_le sys prn⟩

theorem ValidSat.index {sat : Nat} (valid : ValidSat sat) : predIndex sat = sat - 1 :=
  predIndex_eq valid.pos valid.le

theorem ValidSat.index_lt {sat : Nat} (valid : ValidSat sat) : sat - 1 < maxSat := by
  have := valid.pos
  have := valid.le
  omega

theorem ValidSat.index_ne {sat other : Nat} (valid : ValidSat sat) (valid' : ValidSat other)
    (ne : sat ≠ other) : sat - 1 ≠ other - 1 := by
  have := valid.pos
  have := valid'.pos
  omega

variable {α : Type} {n i : Nat}

theorem set_eq_setIfInBounds (v : Vector α n) (h : i < n) (a : α) :
    v.set i a = v.setIfInBounds i a := by
  ext j hj
  rw [Vector.getElem_set, Vector.getElem_setIfInBounds hj]

theorem setIfInBounds_self (v : Vector α n) (h : i < n) : v.setIfInBounds i v[i] = v := by
  ext j hj
  rw [Vector.getElem_setIfInBounds hj]
  split
  · subst i; rfl
  · rfl

namespace Processor

structure Holds (st : Processor) (sat : Nat) (row : Row) (flags : UInt8) : Prop where
  row : st.row sat = .ok row
  flags : st.flags sat = .ok flags

/-- Replaces the row and the flags of a satellite, and the time once a set is decoded. -/
def update (st : Processor) (sat : Nat) (row : Row) (flags : UInt8) (time : Option GTime) :
    Processor :=
  { st with
    currTime := time.getD st.currTime
    subfrm := st.subfrm.setIfInBounds (sat - 1) row
    bdsD1SubfrmFlags := st.bdsD1SubfrmFlags.setIfInBounds (sat - 1) flags }

variable {st : Processor} {sat other : Nat} {row row' : Row} {flags flags' : UInt8}
  {time time' : Option GTime}

theorem row_eq (st : Processor) (valid : ValidSat sat) (inside : sat - 1 < maxSat) :
    st.row sat = .ok st.subfrm[sat - 1] := by
  rw [Processor.row, valid.index]
  exact readAt_ok inside

theorem flags_eq (st : Processor) (valid : ValidSat sat) (inside : sat - 1 < maxSat) :
    st.flags sat = .ok st.bdsD1SubfrmFlags[sat - 1] := by
  rw [Processor.flags, valid.index]
  exact readAt_ok inside

theorem holds_exists (st : Processor) (valid : ValidSat sat) :
    ∃ row flags, st.Holds sat row flags :=
  ⟨_, _, st.row_eq valid valid.index_lt, st.flags_eq valid valid.index_lt⟩

theorem holds_update (st : Processor) (valid : ValidSat sat) (row : Row) (flags : UInt8)
    (time : Option GTime) : (st.update sat row flags time).Holds sat row flags := by
  constructor
  · rw [row_eq _ valid valid.index_lt]
    simp [update]
  · rw [flags_eq _ valid valid.index_lt]
    simp [update]

theorem row_update_other (valid : ValidSat sat) (valid' : ValidSat other) (ne : sat ≠ other) :
    (st.update sat row flags time).row other = st.row other := by
  rw [row_eq _ valid' valid'.index_lt, row_eq _ valid' valid'.index_lt]
  simp [update, valid.index_ne valid' ne]

theorem flags_update_other (valid : ValidSat sat) (valid' : ValidSat other) (ne : sat ≠ other) :
    (st.update sat row flags time).flags other = st.flags other := by
  rw [flags_eq _ valid' valid'.index_lt, flags_eq _ valid' valid'.index_lt]
  simp [update, valid.index_ne valid' ne]

theorem update_update (st : Processor) (sat : Nat) (row row' : Row) (flags flags' : UInt8)
    (time time' : Option GTime) :
    (st.update sat row flags time).update sat row' flags' time' =
      st.update sat row' flags' (time'.or time) := by
  cases time' <;> simp [update]

theorem update_self (valid : ValidSat sat) (holds : st.Holds sat row flags) :
    st.update sat row flags none = st := by
  have sameRow := holds.row
  have sameFlags := holds.flags
  rw [row_eq _ valid valid.index_lt] at sameRow
  rw [flags_eq _ valid valid.index_lt] at sameFlags
  rw [update, ← Except.ok.inj sameRow, ← Except.ok.inj sameFlags, setIfInBounds_self,
    setIfInBounds_self]
  rfl

theorem update_time (valid : ValidSat sat) (holds : st.Holds sat row flags) (t : GTime) :
    { st with currTime := t } = st.update sat row flags (some t) := by
  conv_lhs => rw [← update_self valid holds]
  rfl

theorem setRow_ok (valid : ValidSat sat) (holds : st.Holds sat row flags) (row' : Row) :
    st.setRow sat row' = .ok (st.update sat row' flags none) := by
  have stored : st.bdsD1SubfrmFlags.setIfInBounds (sat - 1) flags = st.bdsD1SubfrmFlags :=
    congrArg Processor.bdsD1SubfrmFlags (update_self valid holds)
  rw [setRow, valid.index, writeAt_ok valid.index_lt, update, stored,
    set_eq_setIfInBounds]
  rfl

theorem setFlags_ok (valid : ValidSat sat) (holds : st.Holds sat row flags) (flags' : UInt8) :
    st.setFlags sat flags' = .ok (st.update sat row flags' none) := by
  have stored : st.subfrm.setIfInBounds (sat - 1) row = st.subfrm :=
    congrArg Processor.subfrm (update_self valid holds)
  rw [setFlags, valid.index, writeAt_ok valid.index_lt, update, stored,
    set_eq_setIfInBounds]
  rfl

end Processor

/-! ## Decoded sets -/

/-- The times of an ephemeris: transmission, reference, clock reference and reference week. -/
structure SetTimes where
  ttr : GTime
  toe : GTime
  toc : GTime
  week : UInt32

def Ephem.times (e : Ephem) : SetTimes := ⟨e.ttr, e.toe, e.toc, e.week⟩

/-- The checks of a decoder on the set in a row, and the times it assigns from it. -/
structure SetSpec where
  consistent : Row → Prop
  /-- The set fails a check after its transmission time is assigned. -/
  leaks : Row → Prop
  times : Row → SetTimes

/-- What a decoder makes of the set a frame completes, if it completes one. -/
inductive SetOutcome (spec : SetSpec) (ephem : Ephem) : Option Row → Ephem → Prop where
  | stored : SetOutcome spec ephem none ephem
  | rejected {set : Row} {e : Ephem} (failed : ¬ spec.consistent set) (kept : ¬ spec.leaks set)
      (ttr : e.ttr = ephem.ttr) : SetOutcome spec ephem (some set) e
  | leaked {set : Row} {e : Ephem} (failed : ¬ spec.consistent set) (leak : spec.leaks set)
      (ttr : e.ttr.time ≠ 0) : SetOutcome spec ephem (some set) e
  | decoded {set : Row} {e : Ephem} (passed : spec.consistent set) (kept : ¬ spec.leaks set)
      (assigned : e.times = spec.times set) : SetOutcome spec ephem (some set) e

end GnssParser
