import GnssParser.Lib.Text

/-!
# Decimals

Numbers written to an output stream and read back. The stream keeps its fill, precision and base
until they are set again, and its width for one insertion.
-/

namespace Text

/-! ## Output streams -/

/-- A `std::ostringstream`; doubles are in fixed notation. -/
structure OStream where
  str : List Char := []
  fill : Char := ' '
  width : Nat := 0
  precision : Nat := 6
  base : Nat := 10
  uppercase : Bool := false

namespace OStream
variable (oss : OStream)

def setfill (fill : Char) : OStream := { oss with fill }
def setw (width : Nat) : OStream := { oss with width }
def setprecision (precision : Nat) : OStream := { oss with precision }
def hex : OStream := { oss with base := 16 }
def upper : OStream := { oss with uppercase := true }

/-- The insertion of a string or a character. -/
def put (text : List Char) : OStream :=
  { oss with
    str := oss.str ++ (List.replicate (oss.width - text.length) oss.fill ++ text)
    width := 0 }

def int (n : Int) : OStream :=
  oss.put (
    if oss.base = 10 then intText n
    else
      let digits := Nat.toDigits oss.base (n % 2 ^ 32).toNat
      if oss.uppercase then digits.map Char.toUpper else digits)

def double (x : ℚ) : OStream := oss.put (fixedText oss.precision x)

end OStream

/-! ## Reading -/

/-- The number that a text of digits stands for. -/
def number (text : List Char) : Option Nat :=
  if text.all Char.isDigit then some (Nat.ofDigitChars 10 text 0) else none

/-- A decimal without a sign, with a given number of digits on both sides of its point. -/
def fixedPoint (width places : Nat) (text : List Char) : Option ℚ :=
  match text.drop width with
  | point :: fraction =>
      if point = '.' ∧ fraction.length = places then do
        let whole ← number (text.take width)
        let rest ← number fraction
        pure ((whole : ℚ) + (rest : ℚ) / 10 ^ places)
      else none
  | [] => none

def unsigned (places : Nat) (text : List Char) : Option ℚ :=
  fixedPoint (text.takeWhile Char.isDigit).length places text

def decimal (places : Nat) : List Char → Option ℚ
  | '-' :: text => (unsigned places text).map fun x => -x
  | text => unsigned places text

/-! ## Whole numbers -/

@[simp] theorem intText_natCast (n : Nat) : intText n = natText n := rfl

theorem natText_isDigit {n : Nat} {c : Char} (mem : c ∈ natText n) : c.isDigit :=
  Nat.isDigit_of_mem_toDigits (by decide) (by decide) mem

theorem zeroPad_natText (width n : Nat) :
    zeroPad width (natText n) = List.replicate (width - (natText n).length) '0' ++ natText n := by
  unfold zeroPad
  split
  · next digits same =>
      have minus := natText_isDigit (n := n) (c := '-') (by rw [same]; exact List.mem_cons_self)
      exact absurd minus (by decide)
  · rfl

theorem zeroPad_isDigit {width n : Nat} {c : Char} (mem : c ∈ zeroPad width (natText n)) :
    c.isDigit := by
  rw [zeroPad_natText, List.mem_append] at mem
  rcases mem with zero | digit
  · rw [List.eq_of_mem_replicate zero]
    rfl
  · exact natText_isDigit digit

theorem zeroPad_length {width n : Nat} (pos : 0 < width) (small : n < 10 ^ width) :
    (zeroPad width (natText n)).length = width := by
  have short : (natText n).length ≤ width :=
    (Nat.length_toDigits_le_iff (by decide) pos).mpr small
  rw [zeroPad_natText, List.length_append, List.length_replicate, Nat.sub_add_cancel short]

theorem number_zeroPad (width n : Nat) : number (zeroPad width (natText n)) = some n := by
  have digits : (zeroPad width (natText n)).all Char.isDigit = true :=
    List.all_eq_true.mpr fun _ mem => zeroPad_isDigit mem
  rw [number, if_pos digits, zeroPad_natText, Nat.ofDigitChars_append,
    Nat.ofDigitChars_replicate_zero, Nat.mul_zero, natText, Nat.ofDigitChars_ten_toDigits]

/-! ## Characters -/

/-- A text of digits, signs and points. -/
def Numeric (text : List Char) : Prop := ∀ c ∈ text, c.isDigit ∨ c = '-' ∨ c = '.'

section
variable {text rest : List Char}

theorem Numeric.append (first : Numeric text) (second : Numeric rest) : Numeric (text ++ rest) :=
  fun c mem => (List.mem_append.mp mem).elim (first c) (second c)

theorem Numeric.cons {c : Char} (first : c = '-' ∨ c = '.') (second : Numeric rest) :
    Numeric (c :: rest) := by
  intro d mem
  rcases List.mem_cons.mp mem with rfl | mem
  · exact .inr first
  · exact second d mem

theorem Numeric.notMem (numeric : Numeric text) : ',' ∉ text := fun mem =>
  absurd (numeric ',' mem) (by decide)

theorem numeric_nil : Numeric [] := fun _ mem => absurd mem List.not_mem_nil

theorem numeric_zeros (n : Nat) : Numeric (List.replicate n '0') := fun _ mem =>
  .inl (List.eq_of_mem_replicate mem ▸ rfl)

theorem numeric_natText (n : Nat) : Numeric (natText n) := fun _ mem => .inl (natText_isDigit mem)

theorem numeric_zeroPad (width n : Nat) : Numeric (zeroPad width (natText n)) := fun _ mem =>
  .inl (zeroPad_isDigit mem)

theorem numeric_intText (n : Int) : Numeric (intText n) := by
  cases n with
  | ofNat n => exact numeric_natText n
  | negSucc n => exact (numeric_natText (n + 1)).cons (.inl rfl)

theorem numeric_fixedText (places : Nat) (x : ℚ) : Numeric (fixedText places x) := by
  rw [fixedText]
  refine .append (.append ?_ (numeric_natText _)) ?_
  · split
    · exact numeric_nil.cons (.inl rfl)
    · exact numeric_nil
  · split
    · exact numeric_nil
    · exact (numeric_zeroPad places _).cons (.inr rfl)

end

/-! ## Rounding -/

theorem roundHalfEven_natCast (n : Nat) : roundHalfEven n = n := by
  simp [roundHalfEven, Nat.mod_one]

theorem roundHalfEven_near {x : ℚ} (nonneg : 0 ≤ x) : |(roundHalfEven x : ℚ) - x| ≤ 1 / 2 := by
  have den : (0 : ℚ) < x.den := by exact_mod_cast x.den_pos
  have whole : x * x.den = (x.num.natAbs : ℚ) := by
    rw [Rat.mul_den_eq_num, Nat.cast_natAbs, abs_of_nonneg (Rat.num_nonneg.mpr nonneg)]
  have parts : (x.den : ℚ) * (x.num.natAbs / x.den : Nat) + (x.num.natAbs % x.den : Nat) =
      x.num.natAbs := by
    exact_mod_cast Nat.div_add_mod x.num.natAbs x.den
  have rest : x.num.natAbs % x.den < x.den := Nat.mod_lt _ x.den_pos
  unfold roundHalfEven
  generalize x.num.natAbs / x.den = q at parts ⊢
  generalize x.num.natAbs % x.den = r at parts rest ⊢
  rw [← whole] at parts
  dsimp only
  split_ifs with down
  · have half : (2 * r : ℚ) ≤ x.den := by
      have : 2 * r ≤ x.den := by omega
      exact_mod_cast this
    have lower : (0 : ℚ) ≤ r := Nat.cast_nonneg r
    rw [abs_le]
    constructor <;> nlinarith
  · have half : (x.den : ℚ) ≤ 2 * r := by
      have : x.den ≤ 2 * r := by omega
      exact_mod_cast this
    have upper : (r : ℚ) ≤ x.den := by exact_mod_cast rest.le
    rw [Nat.cast_add, Nat.cast_one, abs_le]
    constructor <;> nlinarith

/-! ## Decimals -/

section
variable {x : ℚ} {width places : Nat}

theorem fixedText_nonneg (nonneg : 0 ≤ x) (pos : 0 < places) :
    fixedText places x =
      natText (roundHalfEven (x * 10 ^ places) / 10 ^ places) ++
        '.' :: zeroPad places (natText (roundHalfEven (x * 10 ^ places) % 10 ^ places)) := by
  rw [fixedText, if_neg (not_lt.mpr nonneg), if_neg pos.ne', abs_of_nonneg nonneg, List.nil_append]

theorem fixedText_neg (negative : x < 0) : fixedText places x = '-' :: fixedText places (-x) := by
  rw [fixedText, fixedText, if_pos negative, if_neg (show ¬ -x < 0 by linarith), abs_neg]
  rfl

/-- What `fill` and `width` add to a decimal stands before its whole part. -/
theorem fill_fixedText (width : Nat) (nonneg : 0 ≤ x) (pos : 0 < places) :
    List.replicate (width + 1 + places - (fixedText places x).length) '0' ++ fixedText places x =
      zeroPad width (natText (roundHalfEven (x * 10 ^ places) / 10 ^ places)) ++
        '.' :: zeroPad places (natText (roundHalfEven (x * 10 ^ places) % 10 ^ places)) := by
  have fraction := zeroPad_length pos (Nat.mod_lt (roundHalfEven (x * 10 ^ places))
    (show 0 < 10 ^ places by positivity))
  rw [fixedText_nonneg nonneg pos, List.length_append, List.length_cons, fraction,
    zeroPad_natText width, List.append_assoc]
  congr 2
  omega

theorem fixedPoint_append {whole : List Char} {q r : Nat} (length : whole.length = width)
    (value : number whole = some q) (pos : 0 < places) (small : r < 10 ^ places) :
    fixedPoint width places (whole ++ '.' :: zeroPad places (natText r)) =
      some ((q : ℚ) + (r : ℚ) / 10 ^ places) := by
  rw [fixedPoint, ← length, List.drop_left]
  dsimp only
  rw [if_pos ⟨rfl, zeroPad_length pos small⟩, List.take_left, value, number_zeroPad]
  rfl

theorem fixedPoint_zeroPad {n : Nat} (wide : 0 < width) (pos : 0 < places)
    (small : n < 10 ^ (width + places)) :
    fixedPoint width places
        (zeroPad width (natText (n / 10 ^ places)) ++ '.' :: zeroPad places (natText (n % 10 ^ places))) =
      some ((n : ℚ) / 10 ^ places) := by
  have scale : 0 < 10 ^ places := by positivity
  have whole : n / 10 ^ places < 10 ^ width := by
    rw [Nat.div_lt_iff_lt_mul scale, ← pow_add]
    exact small
  rw [fixedPoint_append (zeroPad_length wide whole) (number_zeroPad width _) pos (Nat.mod_lt n scale)]
  have parts : ((10 ^ places : Nat) : ℚ) * (n / 10 ^ places : Nat) + (n % 10 ^ places : Nat) = n := by
    exact_mod_cast Nat.div_add_mod n (10 ^ places)
  rw [← parts]
  push_cast
  field_simp

theorem unsigned_fixedText (nonneg : 0 ≤ x) (pos : 0 < places) :
    unsigned places (fixedText places x) =
      some ((roundHalfEven (x * 10 ^ places) : ℚ) / 10 ^ places) := by
  set n := roundHalfEven (x * 10 ^ places) with n_eq
  have scale : 0 < 10 ^ places := by positivity
  have whole : ∀ tail, (natText (n / 10 ^ places) ++ '.' :: tail).takeWhile Char.isDigit =
      natText (n / 10 ^ places) := fun tail => by
    rw [List.takeWhile_append_of_pos fun _ mem => natText_isDigit mem,
      List.takeWhile_cons_of_neg (by decide), List.append_nil]
  have value := number_zeroPad 0 (n / 10 ^ places)
  rw [zeroPad_natText, Nat.zero_sub, List.replicate_zero, List.nil_append] at value
  rw [unsigned, fixedText_nonneg nonneg pos, ← n_eq, whole,
    fixedPoint_append rfl value pos (Nat.mod_lt n scale)]
  have parts : ((10 ^ places : Nat) : ℚ) * (n / 10 ^ places : Nat) + (n % 10 ^ places : Nat) = n := by
    exact_mod_cast Nat.div_add_mod n (10 ^ places)
  rw [← parts]
  push_cast
  field_simp

/-- A number on the grid of the printed digits is read back. -/
theorem decimal_fixedText (pos : 0 < places) {k : Int} (grid : x * 10 ^ places = k) :
    decimal places (fixedText places x) = some x := by
  have scale : (0 : ℚ) < 10 ^ places := by positivity
  have exact : ∀ {y : ℚ} {n : Nat}, 0 ≤ y → y * 10 ^ places = n →
      unsigned places (fixedText places y) = some y := fun {y n} nonneg same => by
    rw [unsigned_fixedText nonneg pos, same, roundHalfEven_natCast, ← same, mul_div_assoc,
      div_self scale.ne', mul_one]
  by_cases negative : x < 0
  · have opposite : -x * 10 ^ places = k.natAbs := by
      rw [neg_mul, grid, Nat.cast_natAbs, abs_of_neg, Int.cast_neg]
      have : (k : ℚ) < 0 := by
        rw [← grid]
        exact mul_neg_of_neg_of_pos negative scale
      exact_mod_cast this
    rw [fixedText_neg negative, decimal, exact (by linarith) opposite, Option.map_some, neg_neg]
  · have nonneg := not_lt.mp negative
    have same : x * 10 ^ places = k.natAbs := by
      rw [grid, Nat.cast_natAbs, abs_of_nonneg]
      have : (0 : ℚ) ≤ k := by
        rw [← grid]
        positivity
      exact_mod_cast this
    have positive := exact nonneg same
    unfold decimal
    split
    · next text minus =>
        rw [fixedText_nonneg nonneg pos] at minus
        obtain ⟨c, rest, digits⟩ := List.exists_cons_of_ne_nil
          (Nat.toDigits_ne_nil (n := roundHalfEven (x * 10 ^ places) / 10 ^ places) (b := 10))
        have first := natText_isDigit (n := roundHalfEven (x * 10 ^ places) / 10 ^ places) (c := c)
          (by rw [natText, digits]; exact List.mem_cons_self)
        rw [natText, digits, List.cons_append, List.cons.injEq] at minus
        rw [minus.1] at first
        exact absurd first (by decide)
    · exact positive

end

end Text
