import GnssParser.Lib.Text

/-!
# Numbers in columns

The integers and reals of a formatted Fortran line, and what `std::stoi` and `std::stod` read of them.
-/

namespace Text

/-! ## Runs of digits -/

def digitsOf (text : List Char) : List Nat := text.map fun c => c.toNat - 48

theorem isDigit_iff {c : Char} : c.isDigit = true ↔ '0' ≤ c ∧ c ≤ '9' := by
  simp only [Char.isDigit, Bool.and_eq_true, decide_eq_true_eq]
  rfl

theorem isDigit_of_isUpper {c : Char} (upper : c.isUpper) : c.isDigit = false := by
  have first : 'A' ≤ c := (decide_eq_true_iff.mp upper).1
  rw [Bool.eq_false_iff, ne_eq, isDigit_iff]
  intro digit
  exact absurd (Char.le_trans first digit.2) (by decide)

theorem digitValue_digit {c : Char} (digit : c.isDigit) : digitValue 10 c = some (c.toNat - 48) := by
  obtain ⟨lower, upper⟩ := isDigit_iff.mp digit
  have small : c.toNat ≤ 57 := upper
  simp only [digitValue, if_pos (And.intro lower upper)]
  exact if_pos (show c.toNat - 48 < 10 by omega)

theorem digitValue_other {c : Char} (other : c.isDigit = false) : digitValue 10 c = none := by
  have outside : ¬ ('0' ≤ c ∧ c ≤ '9') := fun inside => by
    rw [isDigit_iff.mpr inside] at other
    cases other
  simp only [digitValue, if_neg outside]
  split_ifs with letter small small
  · omega
  · rfl
  · omega
  · rfl

theorem scanDigits_append {digits rest : List Char} (all : ∀ c ∈ digits, c.isDigit)
    (stop : ∀ c ∈ rest.head?, c.isDigit = false) :
    scanDigits 10 (digits ++ rest) = (digitsOf digits, rest) := by
  induction digits with
  | nil =>
      cases rest with
      | nil => rfl
      | cons c rest => rw [List.nil_append, scanDigits, digitValue_other (stop c rfl)]; rfl
  | cons c digits ih =>
      rw [List.cons_append, scanDigits, digitValue_digit (all c List.mem_cons_self),
        ih fun d mem => all d (List.mem_cons_of_mem _ mem)]
      rfl

theorem ofDigits_digitsOf (text : List Char) :
    ofDigits 10 (digitsOf text) = Nat.ofDigitChars 10 text 0 := by
  rw [ofDigits, digitsOf, List.foldl_map, Nat.ofDigitChars_eq_foldl]
  congr 1
  funext n c
  rw [Nat.mul_comm]
  rfl

theorem ofDigitChars_lt {text : List Char} (all : ∀ c ∈ text, c.isDigit) :
    Nat.ofDigitChars 10 text 0 < 10 ^ text.length := by
  induction text using List.reverseRecOn with
  | nil => decide
  | append_singleton text c ih =>
      have small : c.toNat ≤ 57 := (isDigit_iff.mp (all c (by simp))).2
      have front := ih fun d mem => all d (List.mem_append_left _ mem)
      rw [Nat.ofDigitChars_append, Nat.ofDigitChars_cons, Nat.ofDigitChars_nil, List.length_append,
        List.length_singleton, pow_succ]
      change 10 * Nat.ofDigitChars 10 text 0 + (c.toNat - 48) < _
      omega

/-- What stands in front of a number is not taken for a part of it. -/
theorem digit_plain {c : Char} (digit : c.isDigit) :
    isSpace c = false ∧ c ≠ '-' ∧ c ≠ '+' ∧ c.toLower ≠ 'i' ∧ c.toLower ≠ 'n' ∧ c.toLower ≠ 'x' := by
  have table : ∀ n < 58, (Char.ofNat n).isDigit →
      isSpace (Char.ofNat n) = false ∧ Char.ofNat n ≠ '-' ∧ Char.ofNat n ≠ '+' ∧
        (Char.ofNat n).toLower ≠ 'i' ∧ (Char.ofNat n).toLower ≠ 'n' ∧
        (Char.ofNat n).toLower ≠ 'x' := by
    decide +kernel
  have small : c.toNat ≤ 57 := (isDigit_iff.mp digit).2
  have found := table c.toNat (by omega)
  rw [Char.ofNat_toNat] at found
  exact found digit

theorem dropWhile_blanks (blanks : Nat) {text : List Char} (nonempty : ∀ c ∈ text.head?, isSpace c = false) :
    (List.replicate blanks ' ' ++ text).dropWhile isSpace = text := by
  have spaces : ∀ c ∈ List.replicate blanks ' ', isSpace c = true := fun c mem => by
    rw [List.eq_of_mem_replicate mem]
    rfl
  rw [List.dropWhile_append_of_pos spaces]
  cases text with
  | nil => rfl
  | cons c text => rw [List.dropWhile_cons_of_neg (by simp [nonempty c rfl])]

theorem find_char {c : Char} {before : List Char} (first : c ∉ before) (rest : List Char) :
    find [c] (before ++ c :: rest) = some before.length := by
  induction before with
  | nil => simp [find, List.findIdx?_cons]
  | cons d before ih =>
      rw [List.mem_cons, not_or] at first
      have next := ih first.2
      rw [find] at next ⊢
      rw [List.cons_append, List.tails_cons, List.findIdx?_cons, next]
      simp [first.1]

theorem find_char_none {c : Char} {text : List Char} (absent : c ∉ text) : find [c] text = none := by
  induction text with
  | nil => simp [find, List.findIdx?_cons]
  | cons d text ih =>
      rw [List.mem_cons, not_or] at absent
      have next := ih absent.2
      rw [find] at next ⊢
      rw [List.tails_cons, List.findIdx?_cons, next]
      simp [absent.1]

/-! ## Integers -/

theorem stoi_digits (blanks : Nat) {digits rest : List Char} (nonempty : digits ≠ [])
    (all : ∀ c ∈ digits, c.isDigit) (stop : ∀ c ∈ rest.head?, c.isDigit = false)
    (short : digits.length ≤ 9) :
    stoi (List.replicate blanks ' ' ++ (digits ++ rest)) = .ok (Nat.ofDigitChars 10 digits 0 : Nat) := by
  obtain ⟨c, others, rfl⟩ := List.exists_cons_of_ne_nil nonempty
  obtain ⟨space, minus, plus, -⟩ := digit_plain (all c List.mem_cons_self)
  have unsigned : scanSign (c :: others ++ rest) = (false, c :: others ++ rest) := by
    rw [List.cons_append]
    unfold scanSign
    split
    · next same => exact absurd (List.cons.inj same).1 minus
    · next same => exact absurd (List.cons.inj same).1 plus
    · rfl
  have below : Nat.ofDigitChars 10 (c :: others) 0 < 10 ^ 9 :=
    (ofDigitChars_lt all).trans_le (Nat.pow_le_pow_right (by decide) short)
  rw [stoi, dropWhile_blanks blanks (by simp [space]), unsigned]
  dsimp only
  rw [scanDigits_append all stop]
  dsimp only
  rw [if_neg (by simp [digitsOf]), if_neg (by decide : ¬ (false = true)), ofDigits_digitsOf,
    if_neg (by omega)]

/-! ## Reals -/

/-- A real in exponential form; any of four letters stands before the two digits of the exponent. -/
structure RealField where
  blanks : Nat
  negative : Bool
  whole : List Char
  fraction : List Char
  letter : Char
  down : Bool
  exponent : List Char
  short : whole.length ≤ 1
  nonempty : fraction ≠ []
  twoDigits : exponent.length = 2
  digits : ∀ c ∈ whole ++ fraction ++ exponent, c.isDigit
  letters : letter = 'D' ∨ letter = 'E' ∨ letter = 'd' ∨ letter = 'e'

namespace RealField

def unsignedText (field : RealField) (letter : Char) : List Char :=
  field.whole ++ '.' :: (field.fraction ++
    letter :: (if field.down then '-' else '+') :: field.exponent)

def textWith (field : RealField) (letter : Char) : List Char :=
  List.replicate field.blanks ' ' ++
    ((if field.negative then ['-'] else []) ++ field.unsignedText letter)

def text (field : RealField) : List Char := field.textWith field.letter

/-- What stands before the letter. -/
def mantissa (field : RealField) : ℚ :=
  (if field.negative then -1 else 1) *
    ((Nat.ofDigitChars 10 (field.whole ++ field.fraction) 0 : ℚ) / 10 ^ field.fraction.length)

def scale (field : RealField) : Int :=
  if field.down then -(Nat.ofDigitChars 10 field.exponent 0 : Int)
  else Nat.ofDigitChars 10 field.exponent 0

def value (field : RealField) : ℚ := field.mantissa * 10 ^ field.scale

variable (field : RealField)

theorem whole_digit : ∀ c ∈ field.whole, c.isDigit := fun c mem => field.digits c (by simp [mem])

theorem fraction_digit : ∀ c ∈ field.fraction, c.isDigit := fun c mem =>
  field.digits c (by simp [mem])

theorem exponent_digit : ∀ c ∈ field.exponent, c.isDigit := fun c mem =>
  field.digits c (by simp [mem])

theorem scanExponent_letter (letter : Char) :
    scanExponent 'e' (letter :: (if field.down then '-' else '+') :: field.exponent) =
      if letter.toLower = 'e' then field.scale else 0 := by
  have run : scanDigits 10 field.exponent = (digitsOf field.exponent, []) := by
    simpa using @scanDigits_append _ [] field.exponent_digit (by simp)
  rw [scanExponent, scale]
  split
  · cases field.down with
    | true => simp [scanSign, run, ofDigits_digitsOf]
    | false => simp [scanSign, run, ofDigits_digitsOf]
  · rfl

theorem scanReal_unsignedText {letter : Char} (other : letter.isDigit = false) :
    scanReal 10 10 'e' (field.unsignedText letter) =
      some ((Nat.ofDigitChars 10 (field.whole ++ field.fraction) 0 : ℚ) / 10 ^ field.fraction.length *
        10 ^ (if letter.toLower = 'e' then field.scale else 0)) := by
  have joined : ofDigits 10 (digitsOf field.whole ++ digitsOf field.fraction) =
      Nat.ofDigitChars 10 (field.whole ++ field.fraction) 0 := by
    rw [← ofDigits_digitsOf, digitsOf, digitsOf, digitsOf, List.map_append]
  have length : (digitsOf field.fraction).length = field.fraction.length := by simp [digitsOf]
  have some : ¬ (digitsOf field.whole = [] ∧ digitsOf field.fraction = []) := fun none =>
    field.nonempty (by simpa [digitsOf] using none.2)
  rw [scanReal, unsignedText, scanDigits_append field.whole_digit (by simp)]
  -- the point is a literal, which `dsimp` does not match
  change (let scanned := scanDigits 10 (field.fraction ++
      letter :: (if field.down then '-' else '+') :: field.exponent)
    if digitsOf field.whole = [] ∧ scanned.1 = [] then none
    else Option.some ((ofDigits 10 (digitsOf field.whole ++ scanned.1) : ℚ) /
      (10 : Nat) ^ scanned.1.length * ((10 : Nat) : ℚ) ^ scanExponent 'e' scanned.2)) = _
  rw [scanDigits_append field.fraction_digit (by simp [other])]
  dsimp only
  rw [if_neg some, joined, length, scanExponent_letter]
  norm_cast

/-- The first character is a digit or the point, and no `x` follows it. -/
theorem unsignedText_head (letter : Char) :
    ∃ c rest, field.unsignedText letter = c :: rest ∧ isSpace c = false ∧ c ≠ '-' ∧ c ≠ '+' ∧
      c.toLower ≠ 'i' ∧ c.toLower ≠ 'n' ∧ ∀ x more, c = '0' → rest = x :: more → x.toLower ≠ 'x' := by
  have short := field.short
  have digits := field.whole_digit
  unfold unsignedText
  generalize field.whole = whole at short digits ⊢
  match whole with
  | [] =>
      refine ⟨'.', _, rfl, by decide, by decide, by decide, by decide, by decide, ?_⟩
      intro x more zero
      exact absurd zero (by decide)
  | [c] =>
      obtain ⟨space, minus, plus, i, n, -⟩ := digit_plain (digits c List.mem_cons_self)
      refine ⟨c, _, rfl, space, minus, plus, i, n, ?_⟩
      rintro x more - same
      rw [← (List.cons.inj same).1]
      decide
  | _ :: _ :: _ => simp at short

theorem stod_textWith {letter : Char} (other : letter.isDigit = false) :
    stod (field.textWith letter) =
      .ok (.finite (field.mantissa * 10 ^ (if letter.toLower = 'e' then field.scale else 0))) := by
  have number := field.scanReal_unsignedText other
  obtain ⟨c, rest, text, space, minus, plus, i, n, hex⟩ := field.unsignedText_head letter
  rw [textWith, stod]
  rw [text] at number ⊢
  have sign : scanSign ((if field.negative then ['-'] else []) ++ c :: rest) =
      (field.negative, c :: rest) := by
    cases field.negative with
    | true => rfl
    | false =>
        rw [if_neg (by decide), List.nil_append]
        unfold scanSign
        split
        · next same => exact absurd (List.cons.inj same).1 minus
        · next same => exact absurd (List.cons.inj same).1 plus
        · rfl
  have start : ∀ d ∈ ((if field.negative then ['-'] else []) ++ c :: rest).head?, isSpace d = false := by
    cases field.negative with
    | true => simp [isSpace]
    | false => simp [space]
  rw [dropWhile_blanks _ start, sign]
  dsimp only
  rw [if_neg (by simp [i.symm]), if_neg (by simp [n.symm])]
  have hexadecimal : ∀ x more, c :: rest = '0' :: x :: more → x.toLower ≠ 'x' := fun x more same =>
    hex x more (List.cons.inj same).1 (List.cons.inj same).2
  rw [number]
  split
  · next read found =>
      have same : (Nat.ofDigitChars 10 (field.whole ++ field.fraction) 0 : ℚ) /
          10 ^ field.fraction.length * 10 ^ (if letter.toLower = 'e' then field.scale else 0) = read := by
        split at found
        · next x more same =>
            rw [if_neg (hexadecimal x more same)] at found
            exact Option.some.inj found
        · exact Option.some.inj found
      rw [← same, mantissa, mul_assoc]
  · next missing =>
      split at missing
      · next x more same =>
          rw [if_neg (hexadecimal x more same)] at missing
          cases missing
      · cases missing

def beforeLetter : List Char :=
  List.replicate field.blanks ' ' ++
    ((if field.negative then ['-'] else []) ++ (field.whole ++ '.' :: field.fraction))

def afterLetter : List Char := (if field.down then '-' else '+') :: field.exponent

theorem textWith_eq (letter : Char) :
    field.textWith letter = field.beforeLetter ++ letter :: field.afterLetter := by
  simp [textWith, unsignedText, beforeLetter, afterLetter]

theorem text_nonempty : field.text ≠ [] := by simp [text, textWith_eq]

theorem notMem_beforeLetter {letter : Char} (upper : letter.isUpper) :
    letter ∉ field.beforeLetter := by
  have other : ∀ c : Char, c.isUpper = false → letter ≠ c := fun c lower same => by
    rw [same, lower] at upper
    cases upper
  have digit : ∀ {text : List Char}, (∀ c ∈ text, c.isDigit) → letter ∉ text := fun all mem => by
    have both := all letter mem
    rw [isDigit_of_isUpper upper] at both
    cases both
  rw [beforeLetter, List.mem_append, List.mem_append, List.mem_append, List.mem_cons]
  rintro (blank | sign | whole | point | fraction)
  · exact other ' ' rfl (List.eq_of_mem_replicate blank)
  · split at sign
    · exact other '-' rfl (List.mem_singleton.mp sign)
    · cases sign
  · exact digit field.whole_digit whole
  · exact other '.' rfl point
  · exact digit field.fraction_digit fraction

theorem notMem_afterLetter {letter : Char} (upper : letter.isUpper) : letter ∉ field.afterLetter := by
  have digit : letter ∉ field.exponent := fun mem => by
    have both := field.exponent_digit letter mem
    rw [isDigit_of_isUpper upper] at both
    cases both
  rw [afterLetter, List.mem_cons]
  rintro (sign | exponent)
  · cases down : field.down with
    | true => rw [sign, down] at upper; exact absurd upper (by decide)
    | false => rw [sign, down] at upper; exact absurd upper (by decide)
  · exact digit exponent

theorem mantissa_lt : |field.mantissa| < 10 := by
  have digits : ∀ c ∈ field.whole ++ field.fraction, c.isDigit := fun c mem =>
    field.digits c (List.mem_append_left _ mem)
  have short := field.short
  have small := (ofDigitChars_lt digits).trans_le
    (Nat.pow_le_pow_right (by decide) (show (field.whole ++ field.fraction).length ≤
      field.fraction.length + 1 by rw [List.length_append]; omega))
  have below : (Nat.ofDigitChars 10 (field.whole ++ field.fraction) 0 : ℚ) <
      10 ^ field.fraction.length * 10 := by
    rw [pow_succ] at small
    exact_mod_cast small
  have sign : |(if field.negative then -1 else 1 : ℚ)| = 1 := by split <;> simp
  rw [mantissa, abs_mul, sign, one_mul, abs_of_nonneg (by positivity), div_lt_iff₀ (by positivity),
    mul_comm]
  exact below

theorem mantissa_nonneg {field : RealField} (nonneg : 0 ≤ field.value) : 0 ≤ field.mantissa :=
  nonneg_of_mul_nonneg_left nonneg (by positivity)

end RealField

/-! ## Columns -/

theorem substr_eq {line : List Char} {pos count : Nat} {text : List Char}
    (here : (line.drop pos).take count = text) (nonempty : text ≠ []) :
    substr line pos count = .ok text := by
  have inside : ¬ pos > line.length := fun outside => by
    rw [List.drop_of_length_le (by omega), List.take_nil] at here
    exact nonempty here.symm
  rw [substr, if_neg inside, here]

/-- A number right-justified in its columns. -/
def NatAt (line : List Char) (pos width n : Nat) : Prop :=
  ∃ blanks digits, (line.drop pos).take width = List.replicate blanks ' ' ++ digits ∧ digits ≠ [] ∧
    (∀ c ∈ digits, c.isDigit) ∧ blanks + digits.length = width ∧ Nat.ofDigitChars 10 digits 0 = n

def RealAt (line : List Char) (pos : Nat) (field : RealField) : Prop :=
  (line.drop pos).take 19 = field.text

theorem NatAt.stoi {line : List Char} {pos width n : Nat} (here : NatAt line pos width n)
    (narrow : width ≤ 9) :
    ∃ text, substr line pos width = .ok text ∧ stoi text = .ok (n : Int) := by
  obtain ⟨blanks, digits, text, nonempty, all, filled, rfl⟩ := here
  refine ⟨_, substr_eq text (by simp [nonempty]), ?_⟩
  simpa using @stoi_digits blanks _ [] nonempty all (by simp) (by omega)

end Text
