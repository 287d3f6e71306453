import GnssParser.Lib.Columns
import GnssParser.Model.RinexNav
import GnssParser.Proof.GnssTime

/-!
# Navigation files

Which records of a well-formed file `rinex2ephems` appends to the ephemerides of which satellite.
-/

namespace GnssParser
open Text Text.Run

/-! ## Numbers -/

/-- What `str2double` makes of a real: it knows three of the four letters. -/
def readReal (field : RealField) : ℚ := if field.letter = 'd' then field.mantissa else field.value

theorem str2double_text (field : RealField) : str2double field.text = .ok (readReal field) := by
  have before := field.notMem_beforeLetter (show 'D'.isUpper from rfl)
  have after := field.notMem_afterLetter (show 'D'.isUpper from rfl)
  have others : field.letter ≠ 'D' → find ['D'] field.text = none := fun other => by
    apply find_char_none
    rw [RealField.text, field.textWith_eq, List.mem_append, List.mem_cons]
    rintro (front | same | tail)
    · exact before front
    · exact other same.symm
    · exact after tail
  rw [str2double, readReal]
  rcases field.letters with letter | letter | letter | letter
  · have found := find_char before field.afterLetter
    rw [← field.textWith_eq] at found
    rw [RealField.text, letter, found]
    dsimp only
    rw [field.textWith_eq, List.take_left, ← List.drop_drop, List.drop_left, List.drop_one,
      List.tail_cons, ← field.textWith_eq, field.stod_textWith (by decide)]
    rfl
  · rw [others (by simp [letter])]
    dsimp only
    rw [RealField.text, letter, field.stod_textWith (by decide)]
    rfl
  · rw [others (by simp [letter])]
    dsimp only
    rw [RealField.text, letter, field.stod_textWith (by decide)]
    simp
    rfl
  · rw [others (by simp [letter])]
    dsimp only
    rw [RealField.text, letter, field.stod_textWith (by decide)]
    rfl

theorem doubleAt_ok {line : List Char} {pos : Nat} {field : RealField} (here : RealAt line pos field) :
    doubleAt line pos = .ok (readReal field) := by
  rw [doubleAt, substr_eq here field.text_nonempty, throwing_ok, ok_bind, str2double_text]

theorem intAt_ok {line : List Char} {pos width n : Nat} (here : NatAt line pos width n)
    (narrow : width ≤ 9) : intAt line pos width = .ok (n : Int) := by
  obtain ⟨text, columns, value⟩ := here.stoi narrow
  rw [intAt, columns, throwing_ok, ok_bind, value, throwing_ok]

theorem readReal_bounds {field : RealField} (nonneg : 0 ≤ field.value) (small : field.value < 2 ^ 32) :
    0 ≤ readReal field ∧ readReal field < 2 ^ 32 := by
  rw [readReal]
  split
  · have below := (abs_lt.mp field.mantissa_lt).2
    exact ⟨RealField.mantissa_nonneg nonneg, by linarith⟩
  · exact ⟨nonneg, small⟩

/-- What a cast makes of the real as read. -/
def readCount (field : RealField) : UInt32 := UInt32.ofNat (truncate (readReal field)).toNat

theorem uintAt_ok {line : List Char} {pos : Nat} {field : RealField} (here : RealAt line pos field)
    (nonneg : 0 ≤ field.value) (small : field.value < 2 ^ 32) :
    uintAt line pos = .ok (readCount field) := by
  obtain ⟨lower, upper⟩ := readReal_bounds nonneg small
  rw [uintAt, doubleAt_ok here, ok_bind, castUInt32, if_pos ⟨by linarith, upper⟩]
  rfl

theorem gpst2time_sent (week : UInt32) (tow : ℚ) : (gpst2time week tow).time ≠ 0 := by
  rw [gpst2time, epoch2time_gpst0]
  dsimp only
  omega

/-! ## Well-formed files -/

def epochColumns : List (Nat × Nat) := [(4, 4), (9, 2), (12, 2), (15, 2), (18, 2), (21, 2)]

def gloEphemColumns : List (Nat × Nat) :=
  [(0, 23), (0, 42), (1, 4), (1, 23), (1, 42), (1, 61), (2, 4), (2, 23), (2, 42), (2, 61),
    (3, 4), (3, 23), (3, 42), (3, 61)]

def ephemColumns : List (Nat × Nat) :=
  [(0, 23), (0, 42), (0, 61), (1, 23), (1, 42), (1, 61), (2, 4), (2, 23), (2, 42), (2, 61),
    (3, 4), (3, 23), (3, 42), (3, 61), (4, 4), (4, 23), (4, 42), (4, 61), (5, 4), (5, 42),
    (6, 4), (6, 23), (6, 42), (6, 61), (7, 4)]

/-- The lines and columns of the reals of a record. -/
def realColumns (sysChar : Char) : List (Nat × Nat) :=
  if sysChar = 'R' then gloEphemColumns
  else if sysChar = 'G' then (1, 4) :: ephemColumns
  else if sysChar = 'E' then (5, 23) :: ephemColumns
  else ephemColumns

/-- Weeks, health words and other numbers without a sign. -/
def countColumns (sysChar : Char) : List (Nat × Nat) :=
  if sysChar = 'R' then [(1, 61), (3, 61)]
  else if sysChar = 'G' then [(1, 4), (5, 42), (6, 23), (6, 61)]
  else if sysChar = 'E' then [(5, 23), (5, 42), (6, 23)]
  else [(5, 42), (6, 23)]

structure NavRecord where
  sysChar : Char
  prn : Nat
  line : Nat → List Char
  real : Nat → Nat → RealField
  system : sysChar = 'G' ∨ sysChar = 'C' ∨ sysChar = 'E' ∨ sysChar = 'R'
  single : ∀ i, '\n' ∉ line i
  start : (line 0).head? = some sysChar
  prnColumns : NatAt (line 0) 1 2 prn
  epoch : ∀ column ∈ epochColumns, ∃ n, NatAt (line 0) column.1 column.2 n
  reals : ∀ column ∈ realColumns sysChar, RealAt (line column.1) column.2 (real column.1 column.2)
  counts : ∀ column ∈ countColumns sysChar,
    0 ≤ (real column.1 column.2).value ∧ (real column.1 column.2).value < 2 ^ 32
  channel : sysChar = 'R' → |(real 2 61).value| < 2 ^ 31

namespace NavRecord

def lines (r : NavRecord) : List (List Char) :=
  (List.range (if r.sysChar = 'R' then 4 else 8)).map r.line

def sat (r : NavRecord) : Nat := satNo (if r.sysChar = 'R' then sysGlo else ephemSys r.sysChar) r.prn

/-- Of the Galileo records only those from I/NAV E1-B are for the users of the map. -/
def kept (r : NavRecord) : Prop := r.sysChar = 'E' → ⌊(r.real 5 23).value⌋ % 2 = 1

/-- The transmission time that is read is not second 0. -/
def stored (r : NavRecord) : Prop :=
  (r.sysChar = 'E' → readCount (r.real 5 23) &&& 0x01 ≠ 0) ∧
    (r.sysChar = 'C' →
      (bdt2time (readCount (r.real 5 42)).toInt32.toInt (readReal (r.real 7 4))).time ≠ 0)

/-- The transmission time of a record that is read to its end. -/
def sentTime (r : NavRecord) : GTime :=
  if r.sysChar = 'C' then bdt2time (readCount (r.real 5 42)).toInt32.toInt (readReal (r.real 7 4))
  else gpst2time (readCount (r.real 5 42)) (readReal (r.real 7 4))

theorem sentTime_iff (r : NavRecord) : r.sentTime.time ≠ 0 ↔ (r.sysChar = 'C' →
    (bdt2time (readCount (r.real 5 42)).toInt32.toInt (readReal (r.real 7 4))).time ≠ 0) := by
  rw [sentTime]
  by_cases bds : r.sysChar = 'C'
  · rw [if_pos bds]
    exact ⟨fun sent _ => sent, fun sent => sent bds⟩
  · rw [if_neg bds]
    exact ⟨fun _ same => absurd same bds, fun _ => gpst2time_sent _ _⟩

instance (r : NavRecord) : Decidable r.kept := inferInstanceAs (Decidable (_ → _))

instance (r : NavRecord) : Decidable r.stored := inferInstanceAs (Decidable (_ ∧ _))

theorem ephemTimes_ok {sys : Nat} {line5 line6 line7 : List Char} {week health : UInt32}
    {ura tgd0 tgd1 ttrTow : ℚ} (system : sys = sysGps ∨ sys = sysBds ∨ sys = sysGal)
    (weekAt : uintAt line5 42 = .ok week) (uraAt : doubleAt line6 4 = .ok ura)
    (healthAt : uintAt line6 23 = .ok health) (tgd0At : doubleAt line6 42 = .ok tgd0)
    (tgd1At : doubleAt line6 61 = .ok tgd1)
    (iodcAt : sys = sysGps → ∃ iodc, uintAt line6 61 = .ok iodc)
    (ttrAt : doubleAt line7 4 = .ok ttrTow) (ephem : Ephem) :
    ∃ filled, ephemTimes sys line5 line6 line7 ephem = .ok filled ∧ filled.sat = ephem.sat ∧
      filled.ttr =
        if sys = sysBds then bdt2time week.toInt32.toInt ttrTow else gpst2time week ttrTow := by
  rcases system with rfl | rfl | rfl
  · obtain ⟨iodc, iodcAt⟩ := iodcAt rfl
    rw [ephemTimes, weekAt, ok_bind, uraAt, ok_bind, healthAt, ok_bind, tgd0At, ok_bind]
    simp only [iodcAt, ttrAt, ok_bind, if_neg (show ¬ (sysGps = sysBds ∨ sysGps = sysGal) by decide),
      if_neg (show ¬ sysGps = sysBds by decide)]
    exact ⟨_, rfl, rfl, rfl⟩
  · rw [ephemTimes, weekAt, ok_bind, uraAt, ok_bind, healthAt, ok_bind, tgd0At, ok_bind]
    simp only [tgd1At, ttrAt, ok_bind, if_neg (show ¬ (sysBds = sysGps ∨ sysBds = sysGal) by decide),
      if_neg (show ¬ sysBds = sysGps by decide)]
    exact ⟨_, rfl, rfl, rfl⟩
  · rw [ephemTimes, weekAt, ok_bind, uraAt, ok_bind, healthAt, ok_bind, tgd0At, ok_bind]
    simp only [tgd1At, ttrAt, ok_bind, if_neg (show ¬ sysGal = sysGps by decide),
      if_neg (show ¬ sysGal = sysBds by decide)]
    exact ⟨_, rfl, rfl, rfl⟩

variable (r : NavRecord)

theorem charAt_line : charAt (r.line 0) 0 = .ok r.sysChar := by
  have start := r.start
  rw [List.head?_eq_getElem?] at start
  rw [charAt, start]

theorem prnAt_line : prnAt (r.line 0) = .ok r.prn := by
  obtain ⟨blanks, digits, -, -, all, filled, value⟩ := r.prnColumns
  have small := ofDigitChars_lt all
  have short : 10 ^ digits.length ≤ 10 ^ 2 := Nat.pow_le_pow_right (by decide) (by omega)
  rw [prnAt, intAt_ok r.prnColumns (by decide), ok_bind, ofInt_natCast, UInt32.toNat_ofNat',
    Nat.mod_eq_of_lt (by omega)]
  rfl

theorem epochAt_line : ∃ time, epochAt (r.line 0) = .ok time := by
  obtain ⟨year, atYear⟩ := r.epoch (4, 4) (by decide)
  obtain ⟨mon, atMon⟩ := r.epoch (9, 2) (by decide)
  obtain ⟨day, atDay⟩ := r.epoch (12, 2) (by decide)
  obtain ⟨hour, atHour⟩ := r.epoch (15, 2) (by decide)
  obtain ⟨min, atMin⟩ := r.epoch (18, 2) (by decide)
  obtain ⟨sec, atSec⟩ := r.epoch (21, 2) (by decide)
  simp only [epochAt, intAt_ok atYear (by decide), intAt_ok atMon (by decide),
    intAt_ok atDay (by decide), intAt_ok atHour (by decide), intAt_ok atMin (by decide),
    intAt_ok atSec (by decide), ok_bind]
  exact ⟨_, rfl⟩

variable {r}

theorem real_ok {i pos : Nat} (column : (i, pos) ∈ realColumns r.sysChar) :
    doubleAt (r.line i) pos = .ok (readReal (r.real i pos)) :=
  doubleAt_ok (r.reals (i, pos) column)

theorem count_ok {i pos : Nat} (column : (i, pos) ∈ realColumns r.sysChar)
    (count : (i, pos) ∈ countColumns r.sysChar) :
    uintAt (r.line i) pos = .ok (readCount (r.real i pos)) :=
  uintAt_ok (r.reals (i, pos) column) (r.counts (i, pos) count).1 (r.counts (i, pos) count).2

section
variable (other : r.sysChar ≠ 'R')
include other

theorem ephemColumns_subset : ephemColumns ⊆ realColumns r.sysChar := by
  rw [realColumns, if_neg other]
  split_ifs with gps gal
  · exact List.subset_cons_self _ _
  · exact List.subset_cons_self _ _
  · exact List.Subset.refl _

theorem ephemClock_line (sys : Nat) :
    ∃ ephem, ephemClock sys (r.line 0) = .ok ephem ∧ ephem.sat = satNo sys r.prn ∧
      ephem.ttr = ⟨0, 0⟩ := by
  have real : ∀ pos ∈ [23, 42, 61], doubleAt (r.line 0) pos = .ok (readReal (r.real 0 pos)) :=
    fun pos mem => real_ok (ephemColumns_subset other (by revert pos; decide))
  obtain ⟨time, epoch⟩ := r.epochAt_line
  simp only [ephemClock, r.prnAt_line, epoch, real 23 (by decide), real 42 (by decide),
    real 61 (by decide), ok_bind]
  exact ⟨_, rfl, rfl, rfl⟩

theorem ephemOrbit_lines (ephem : Ephem) :
    ∃ filled, ephemOrbit (ephemSys r.sysChar) (r.line 1) (r.line 2) (r.line 3) (r.line 4) ephem =
      .ok filled ∧ filled.sat = ephem.sat ∧ filled.ttr = ephem.ttr := by
  have line1 : ∀ pos ∈ [23, 42, 61], doubleAt (r.line 1) pos = .ok (readReal (r.real 1 pos)) :=
    fun pos mem => real_ok (ephemColumns_subset other (by revert pos; decide))
  have orbit : ∀ i ∈ [2, 3, 4], ∀ pos ∈ [4, 23, 42, 61],
      doubleAt (r.line i) pos = .ok (readReal (r.real i pos)) := fun i memI pos memPos =>
    real_ok (ephemColumns_subset other (by revert i pos; decide))
  by_cases gps : r.sysChar = 'G'
  · have sys : ephemSys r.sysChar = sysGps := by rw [gps]; rfl
    have iode : uintAt (r.line 1) 4 = .ok (readCount (r.real 1 4)) :=
      count_ok (by rw [gps]; decide) (by rw [gps]; decide)
    simp (disch := decide) only [ephemOrbit, if_pos sys, iode, line1, orbit, ok_bind]
    exact ⟨_, rfl, rfl, rfl⟩
  · have sys : ephemSys r.sysChar ≠ sysGps := by
      rw [ephemSys, if_neg gps]
      split_ifs <;> decide
    simp (disch := decide) only [ephemOrbit, if_neg sys, line1, orbit, ok_bind]
    exact ⟨_, rfl, rfl, rfl⟩

theorem ephemTimes_lines (ephem : Ephem) :
    ∃ filled, ephemTimes (ephemSys r.sysChar) (r.line 5) (r.line 6) (r.line 7) ephem = .ok filled ∧
      filled.sat = ephem.sat ∧ filled.ttr = r.sentTime := by
  have real : ∀ column ∈ ephemColumns,
      doubleAt (r.line column.1) column.2 = .ok (readReal (r.real column.1 column.2)) :=
    fun column mem => real_ok (ephemColumns_subset other mem)
  have count : ∀ column ∈ [(5, 42), (6, 23)],
      uintAt (r.line column.1) column.2 = .ok (readCount (r.real column.1 column.2)) := by
    intro column mem
    refine count_ok (ephemColumns_subset other (by revert column; decide)) ?_
    rcases r.system with gps | bds | gal | glonass
    · rw [gps]; revert column; decide
    · rw [bds]; revert column; decide
    · rw [gal]; revert column; decide
    · exact absurd glonass other
  have system : ephemSys r.sysChar = sysGps ∧ r.sysChar = 'G' ∨
      ephemSys r.sysChar = sysBds ∧ r.sysChar = 'C' ∨ ephemSys r.sysChar = sysGal ∧ r.sysChar = 'E' := by
    rcases r.system with gps | bds | gal | glonass
    · exact .inl ⟨by rw [gps]; rfl, gps⟩
    · exact .inr (.inl ⟨by rw [bds]; rfl, bds⟩)
    · exact .inr (.inr ⟨by rw [gal]; rfl, gal⟩)
    · exact absurd glonass other
  have iodc : ephemSys r.sysChar = sysGps → ∃ iodc, uintAt (r.line 6) 61 = .ok iodc := by
    intro sys
    have gps : r.sysChar = 'G' := by
      rcases system with ⟨-, gps⟩ | ⟨bds, -⟩ | ⟨gal, -⟩
      · exact gps
      · exact absurd (bds.symm.trans sys) (by decide)
      · exact absurd (gal.symm.trans sys) (by decide)
    exact ⟨_, count_ok (by rw [gps]; decide) (by rw [gps]; decide)⟩
  obtain ⟨filled, parsed, sat, ttr⟩ := ephemTimes_ok
    (system.imp And.left (Or.imp And.left And.left)) (count (5, 42) (by decide))
    (real (6, 4) (by decide)) (count (6, 23) (by decide)) (real (6, 42) (by decide))
    (real (6, 61) (by decide)) iodc (real (7, 4) (by decide)) ephem
  refine ⟨filled, parsed, sat, ?_⟩
  rw [ttr, NavRecord.sentTime]
  rcases system with ⟨sys, gps⟩ | ⟨sys, bds⟩ | ⟨sys, gal⟩
  · rw [if_neg (by rw [sys]; decide), if_neg (by rw [gps]; decide)]
  · rw [if_pos sys, if_pos bds]
  · rw [if_neg (by rw [sys]; decide), if_neg (by rw [gal]; decide)]

theorem rinexLine2ephem_lines :
    ∃ ephem, rinexLine2ephem r.lines = .ok ephem ∧ ephem.sat = r.sat ∧
      (ephem.ttr.time ≠ 0 ↔ r.stored) ∧ (r.sysChar ≠ 'E' → ephem.ttr = r.sentTime) := by
  have lines : r.lines = [r.line 0, r.line 1, r.line 2, r.line 3, r.line 4, r.line 5, r.line 6,
      r.line 7] := by
    rw [NavRecord.lines, if_neg other]
    rfl
  have known : ephemSys r.sysChar ≠ sysNone := by
    rcases r.system with gps | bds | gal | glonass
    · rw [gps]; decide
    · rw [bds]; decide
    · rw [gal]; decide
    · exact absurd glonass other
  obtain ⟨clock, clockRead, clockSat, clockTtr⟩ := ephemClock_line other (ephemSys r.sysChar)
  obtain ⟨orbit, orbitRead, orbitSat, orbitTtr⟩ := ephemOrbit_lines other clock
  have iDot := real_ok (ephemColumns_subset other (show (5, 4) ∈ ephemColumns by decide))
  obtain ⟨filled, filledRead, filledSat, filledTtr⟩ :=
    ephemTimes_lines other { orbit with iDot := readReal (r.real 5 4) }
  have sat : clock.sat = r.sat := by rw [clockSat, NavRecord.sat, if_neg other]
  rw [lines]
  have passes : fatalIf (ephemSys r.sysChar = sysNone) = .ok () := by simp [fatalIf, known]
  simp only [rinexLine2ephem, r.charAt_line, throwing_ok, ok_bind, passes, clockRead, orbitRead, iDot]
  by_cases gal : r.sysChar = 'E'
  · have sys : ephemSys r.sysChar = sysGal := by rw [gal]; rfl
    have source : uintAt (r.line 5) 23 = .ok (readCount (r.real 5 23)) :=
      count_ok (by rw [gal]; decide) (by rw [gal]; decide)
    have stored : r.stored ↔ readCount (r.real 5 23) &&& 0x01 ≠ 0 :=
      ⟨fun both => both.1 gal, fun bit => ⟨fun _ => bit,
        fun bds => absurd (gal.symm.trans bds) (by decide)⟩⟩
    rw [if_pos sys, source, ok_bind]
    split_ifs with clear
    · -- the record is left half-filled, with second 0 as its transmission time
      refine ⟨_, rfl, orbitSat.trans sat, ?_, fun other => absurd gal other⟩
      rw [stored]
      change orbit.ttr.time ≠ 0 ↔ _
      rw [orbitTtr, clockTtr]
      exact ⟨fun sent => absurd rfl sent, fun bit => absurd clear bit⟩
    · refine ⟨filled, filledRead, filledSat.trans (orbitSat.trans sat), ?_, fun _ => filledTtr⟩
      rw [filledTtr, r.sentTime_iff, stored]
      exact ⟨fun _ => clear, fun _ bds => absurd (gal.symm.trans bds) (by decide)⟩
  · have sys : ephemSys r.sysChar ≠ sysGal := by
      rw [ephemSys]
      split_ifs <;> decide
    rw [if_neg sys]
    refine ⟨filled, filledRead, filledSat.trans (orbitSat.trans sat), ?_, fun _ => filledTtr⟩
    rw [filledTtr, r.sentTime_iff, NavRecord.stored]
    exact ⟨fun sent => ⟨fun same => absurd same gal, sent⟩, fun both => both.2⟩

end

end NavRecord

/-! ## Files -/

/-- A record, or a line of a record of another system. -/
inductive NavItem where
  | record (r : NavRecord)
  | other (line : List Char) (single : '\n' ∉ line)
      (start : ∃ c, line.head? = some c ∧ c ≠ 'G' ∧ c ≠ 'C' ∧ c ≠ 'E' ∧ c ≠ 'R')

def NavItem.lines : NavItem → List (List Char)
  | .record r => r.lines
  | .other line _ _ => [line]

def NavItem.record? : NavItem → Option NavRecord
  | .record r => some r
  | .other _ _ _ => none

abbrev leapLine (line : List Char) : Prop :=
  contains "LEAP SECONDS".toList line ∧ ¬ contains "BDS".toList line

/-- A file: a header, then records and other lines. The reader looks for a label anywhere in a line,
so a comment line of the header that quotes one has to satisfy what is asked of the labelled lines, and
none may quote the label of the last line. -/
structure NavFile where
  front : List (List Char)
  last : List Char
  items : List NavItem
  single : ∀ line ∈ front ++ [last], '\n' ∉ line
  version : ∀ line ∈ front ++ [last],
    contains "RINEX VERSION / TYPE".toList line → contains "3.04".toList line
  leap : ∀ line ∈ front, leapLine line → ∃ n, NatAt line 0 6 n
  leapGiven : ∃ line ∈ front, leapLine line
  inside : ∀ line ∈ front, ¬ contains "END OF HEADER".toList line
  ends : contains "END OF HEADER".toList last ∧ ¬ leapLine last

namespace NavFile

def body (file : NavFile) : List (List Char) := file.items.flatMap NavItem.lines

def text (file : NavFile) : List Char := unlines (file.front ++ file.last :: file.body)

def records (file : NavFile) : List NavRecord := file.items.filterMap NavItem.record?

end NavFile

namespace NavFile

variable {file : NavFile} {leap : UInt32} {ephems : List EphemObject}

end NavFile

def zeroField : RealField where
  blanks := 1
  negative := false
  whole := ['0']
  fraction := List.replicate 12 '0'
  letter := 'D'
  down := false
  exponent := ['0', '0']
  short := by decide
  nonempty := by decide
  twoDigits := rfl
  digits := List.all_eq_true.mp (by decide)
  letters := .inl rfl

theorem zeroField_value : zeroField.value = 0 := by
  have digits : Nat.ofDigitChars 10 (zeroField.whole ++ zeroField.fraction) 0 = 0 := by decide
  rw [RealField.value, RealField.mantissa, digits]
  simp

/-- The lines of a record of zeros. -/
def zeroLine (start : List Char) (i : Nat) : List Char :=
  (if i = 0 then start else List.replicate 4 ' ') ++ (List.replicate 4 zeroField.text).flatten

theorem zeroLine_single {start : List Char} (single : '\n' ∉ start) (i : Nat) :
    '\n' ∉ zeroLine start i := by
  have fields : '\n' ∉ (List.replicate 4 zeroField.text).flatten := by decide
  rw [zeroLine, List.mem_append, not_or]
  split
  · exact ⟨single, fields⟩
  · exact ⟨by decide, fields⟩

theorem zeroLine_epoch {start : List Char} (digits : ∀ column ∈ epochColumns,
    ((zeroLine start 0).drop column.1).take column.2 ≠ [] ∧
      (((zeroLine start 0).drop column.1).take column.2).all Char.isDigit ∧
      (((zeroLine start 0).drop column.1).take column.2).length = column.2) :
    ∀ column ∈ epochColumns, ∃ n, NatAt (zeroLine start 0) column.1 column.2 n := by
  intro column mem
  obtain ⟨nonempty, all, filled⟩ := digits column mem
  exact ⟨_, 0, _, rfl, nonempty, List.all_eq_true.mp all, by rw [filled, Nat.zero_add], rfl⟩

end GnssParser
