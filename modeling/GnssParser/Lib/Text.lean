import GnssParser.Lib.Checked
import GnssParser.Lib.Ieee

/-!
# Text

Text as lists of characters: what `printf` prints and what `std::stoi` and `std::stod` read,
with doubles as exact rationals.
-/

namespace Text

/-! ## Printing -/

def padLeft (width : Nat) (text : List Char) : List Char :=
  List.replicate (width - text.length) ' ' ++ text

def padRight (width : Nat) (text : List Char) : List Char :=
  text ++ List.replicate (width - text.length) ' '

def natText (n : Nat) : List Char := Nat.toDigits 10 n

def intText : Int → List Char
  | .ofNat n => natText n
  | .negSucc n => '-' :: natText (n + 1)

/-- Zeros in front of a number, after its sign. -/
def zeroPad (width : Nat) (text : List Char) : List Char :=
  match text with
  | '-' :: digits => '-' :: (List.replicate (width - 1 - digits.length) '0' ++ digits)
  | digits => List.replicate (width - digits.length) '0' ++ digits

def roundHalfEven (x : ℚ) : Nat :=
  let whole := x.num.natAbs / x.den
  let rest := x.num.natAbs % x.den
  if 2 * rest < x.den ∨ (2 * rest = x.den ∧ whole % 2 = 0) then whole else whole + 1

/-- `%.nf` -/
def fixedText (decimals : Nat) (x : ℚ) : List Char :=
  let scaled := roundHalfEven (|x| * 10 ^ decimals)
  let fraction := zeroPad decimals (natText (scaled % 10 ^ decimals))
  (if x < 0 then ['-'] else []) ++ natText (scaled / 10 ^ decimals) ++
    (if decimals = 0 then [] else '.' :: fraction)

def doubleText (decimals : Nat) : Ieee → List Char
  | .finite x => fixedText decimals x
  | .infinite negative => if negative then ['-', 'i', 'n', 'f'] else ['i', 'n', 'f']
  | .nan => ['n', 'a', 'n']

/-! ## Searching -/

/-- `text.find(needle) != npos` -/
def contains (needle text : List Char) : Bool := text.tails.any needle.isPrefixOf

theorem subset_of_contains {needle text : List Char} (found : contains needle text = true) :
    needle ⊆ text := by
  obtain ⟨tail, mem, front⟩ := List.any_eq_true.mp found
  exact fun c h =>
    ((List.mem_tails _ _).mp mem).subset ((List.isPrefixOf_iff_prefix.mp front).subset h)

/-- `text.find(needle)` -/
def find (needle text : List Char) : Option Nat := text.tails.findIdx? needle.isPrefixOf

theorem find_eq_some {needle text : List Char} {k : Nat} (found : find needle text = some k) :
    text = text.take k ++ (needle ++ text.drop (k + needle.length)) := by
  obtain ⟨below, here, -⟩ := List.findIdx?_eq_some_iff_getElem.mp found
  rw [List.getElem_tails, List.isPrefixOf_iff_prefix] at here
  obtain ⟨rest, tail⟩ := here
  rw [← List.drop_drop, ← tail, List.drop_left, tail, List.take_append_drop]

def lines : List Char → List (List Char)
  | [] => []
  | c :: rest =>
      if c = '\n' then [] :: lines rest
      else match lines rest with
        | [] => [[c]]
        | line :: others => (c :: line) :: others

theorem lines_cons {line : List Char} (single : '\n' ∉ line) (rest : List Char) :
    lines (line ++ '\n' :: rest) = line :: lines rest := by
  induction line with
  | nil => simp [lines]
  | cons c line ih =>
      rw [List.mem_cons, not_or] at single
      rw [List.cons_append, lines, if_neg (Ne.symm single.1), ih single.2]

def unlines (text : List (List Char)) : List Char := text.flatMap fun line => line ++ ['\n']

theorem lines_unlines {text : List (List Char)} (single : ∀ line ∈ text, '\n' ∉ line) :
    lines (unlines text) = text := by
  induction text with
  | nil => rfl
  | cons line text ih =>
      rw [unlines, List.flatMap_cons, List.append_assoc, List.singleton_append,
        lines_cons (single line List.mem_cons_self)]
      exact congrArg (line :: ·) (ih fun other mem => single other (List.mem_cons_of_mem _ mem))

/-! ## Reading -/

inductive Exception where
  | invalidArgument
  | outOfRange
  | runtimeError
  deriving DecidableEq

def isSpace (c : Char) : Bool := c = ' ' || ('\t' ≤ c && c ≤ '\r')

/-- The tokens between spaces, as `stream >> token` delivers them. -/
def tokens : List Char → List (List Char)
  | [] => []
  | c :: rest =>
      if isSpace c then tokens rest
      else match rest with
        | [] => [[c]]
        | next :: _ =>
            if isSpace next then [c] :: tokens rest
            else match tokens rest with
              | [] => [[c]]
              | token :: others => (c :: token) :: others

def digitValue (base : Nat) (c : Char) : Option Nat :=
  let value :=
    if '0' ≤ c ∧ c ≤ '9' then c.toNat - '0'.toNat
    else if 'a' ≤ c.toLower ∧ c.toLower ≤ 'z' then c.toLower.toNat - 'a'.toNat + 10
    else base
  if value < base then some value else none

/-- The longest run of digits and what follows it. -/
def scanDigits (base : Nat) : List Char → List Nat × List Char
  | [] => ([], [])
  | c :: rest =>
      match digitValue base c with
      | some d => let (digits, rest) := scanDigits base rest; (d :: digits, rest)
      | none => ([], c :: rest)

def ofDigits (base : Nat) (digits : List Nat) : Nat := digits.foldl (fun n d => n * base + d) 0

def scanSign : List Char → Bool × List Char
  | '-' :: rest => (true, rest)
  | '+' :: rest => (false, rest)
  | rest => (false, rest)

def stoi (text : List Char) : Except Exception Int :=
  let (negative, rest) := scanSign (text.dropWhile isSpace)
  let (digits, _) := scanDigits 10 rest
  let value : Int := if negative then -(ofDigits 10 digits : Int) else ofDigits 10 digits
  if digits = [] then .error .invalidArgument
  else if value < -2 ^ 31 ∨ 2 ^ 31 ≤ value then .error .outOfRange
  else .ok value

/-- `std::stoull`, and `std::stoul` where `long` has 64 bits: a minus sign negates modulo `2 ^ 64`. -/
def stoull (base : Nat) (text : List Char) : Except Exception UInt64 :=
  let (negative, rest) := scanSign (text.dropWhile isSpace)
  let rest :=
    match rest with
    | '0' :: x :: digit :: _ =>
        if base = 16 ∧ x.toLower = 'x' ∧ (digitValue 16 digit).isSome then rest.drop 2 else rest
    | _ => rest
  let (digits, _) := scanDigits base rest
  let value := ofDigits base digits
  if digits = [] then .error .invalidArgument
  else if 2 ^ 64 ≤ value then .error .outOfRange
  else .ok (if negative then -UInt64.ofNat value else UInt64.ofNat value)

/-- `std::stoll` -/
def stoll (text : List Char) : Except Exception Int64 :=
  let (negative, rest) := scanSign (text.dropWhile isSpace)
  let (digits, _) := scanDigits 10 rest
  let value : Int := if negative then -(ofDigits 10 digits : Int) else ofDigits 10 digits
  if digits = [] then .error .invalidArgument
  else if value < -2 ^ 63 ∨ 2 ^ 63 ≤ value then .error .outOfRange
  else .ok (Int64.ofInt value)

def scanExponent (letter : Char) : List Char → Int
  | [] => 0
  | c :: rest =>
      if c.toLower = letter then
        let (negative, rest) := scanSign rest
        let (digits, _) := scanDigits 10 rest
        if negative then -(ofDigits 10 digits : Int) else ofDigits 10 digits
      else 0

/-- An unsigned number in decimal (`e` exponents) or hexadecimal (`p` exponents). -/
def scanReal (base scale : Nat) (letter : Char) (text : List Char) : Option ℚ :=
  let (whole, rest) := scanDigits base text
  let (fraction, rest) :=
    match rest with
    | '.' :: rest => scanDigits base rest
    | rest => ([], rest)
  if whole = [] ∧ fraction = [] then none
  else some ((ofDigits base (whole ++ fraction) : ℚ) / base ^ fraction.length *
    (scale : ℚ) ^ scanExponent letter rest)

def stod (text : List Char) : Except Exception Ieee :=
  let (negative, rest) := scanSign (text.dropWhile isSpace)
  let sign : ℚ := if negative then -1 else 1
  let hexadecimal :=
    match rest with
    | '0' :: x :: rest => if x.toLower = 'x' then scanReal 16 2 'p' rest else none
    | _ => none
  if ['i', 'n', 'f'].isPrefixOf (rest.map Char.toLower) then .ok (.infinite negative)
  else if ['n', 'a', 'n'].isPrefixOf (rest.map Char.toLower) then .ok .nan
  else match hexadecimal <|> scanReal 10 10 'e' rest with
    | some x => .ok (.finite (sign * x))
    | none => .error .invalidArgument

/-- `text.substr(pos, count)` -/
def substr (text : List Char) (pos count : Nat) : Except Exception (List Char) :=
  if pos > text.length then .error .outOfRange else .ok ((text.drop pos).take count)

/-- `text.at(pos)` -/
def charAt (text : List Char) (pos : Nat) : Except Exception Char :=
  match text[pos]? with
  | some c => .ok c
  | none => .error .outOfRange

theorem toOption_mapM {α β : Type} (f : α → Except Exception β) (list : List α) :
    (list.mapM f).toOption = list.mapM fun a => (f a).toOption := by
  induction list with
  | nil => rfl
  | cons a list ih =>
      rw [List.mapM_cons, List.mapM_cons, ← ih]
      cases f a with
      | error e => rfl
      | ok b => cases list.mapM f <;> rfl

theorem toOption_eq_some {α : Type} {x : Except Exception α} {a : α} :
    x.toOption = some a ↔ x = .ok a := by
  cases x <;> simp [Except.toOption]

/-! ## Digits -/

theorem digitValue_mono {base : Nat} {c : Char} {d : Nat} (small : base ≤ 16)
    (digit : digitValue base c = some d) : digitValue 16 c = some d := by
  simp only [digitValue] at digit ⊢
  generalize c.toNat = n at digit ⊢
  generalize c.toLower = l at digit ⊢
  split_ifs at digit ⊢ <;> first | exact digit | omega

theorem mem_of_digitValue {c : Char} {d : Nat} (digit : digitValue 16 c = some d) :
    c ∈ "0123456789abcdefABCDEF".toList := by
  have ascii : c.toNat < 128 := by
    by_contra large
    have lower : c.toLower = c := by
      refine dif_neg fun upper => ?_
      have := upper.2
      change c.toNat ≤ 90 at this
      omega
    have above : ∀ limit : Char, limit.toNat < 128 → ¬ c ≤ limit := fun limit small below => by
      change c.toNat ≤ limit.toNat at below
      omega
    have decimal : ¬ ('0' ≤ c ∧ c ≤ '9') := fun h => above '9' (by decide) h.2
    have letter : ¬ ('a' ≤ c ∧ c ≤ 'z') := fun h => above 'z' (by decide) h.2
    have none : digitValue 16 c = none := by
      simp only [digitValue, lower, if_neg decimal, if_neg letter]
      rfl
    rw [none] at digit
    cases digit
  have table : ∀ n < 128, (digitValue 16 (Char.ofNat n)).isSome →
      Char.ofNat n ∈ "0123456789abcdefABCDEF".toList := by decide +kernel
  have found := table c.toNat ascii
  rw [Char.ofNat_toNat, digit] at found
  exact found rfl

theorem scanDigits_mapM {base : Nat} {text : List Char} {digits : List Nat}
    (all : text.mapM (digitValue base) = some digits) : scanDigits base text = (digits, []) := by
  induction text generalizing digits with
  | nil => cases all; rfl
  | cons c text ih =>
      rw [List.mapM_cons] at all
      simp only [Option.bind_eq_bind, Option.bind_eq_some_iff, Option.pure_def, Option.some.injEq] at all
      obtain ⟨d, first, others, rest, rfl⟩ := all
      rw [scanDigits, first, ih rest]

theorem mapM_isSome {α β : Type} {f : α → Option β} {list : List α} {values : List β}
    (all : list.mapM f = some values) : ∀ a ∈ list, (f a).isSome := by
  induction list generalizing values with
  | nil => simp
  | cons a list ih =>
      rw [List.mapM_cons] at all
      simp only [Option.bind_eq_bind, Option.bind_eq_some_iff] at all
      obtain ⟨b, first, others, rest, -⟩ := all
      intro x mem
      rcases List.mem_cons.mp mem with rfl | mem
      · simp [first]
      · exact ih rest x mem

theorem isSome_mapM {α β : Type} {f : α → Option β} {list : List α}
    (all : ∀ a ∈ list, (f a).isSome) : (list.mapM f).isSome := by
  induction list with
  | nil => rfl
  | cons a list ih =>
      obtain ⟨b, first⟩ := Option.isSome_iff_exists.mp (all a List.mem_cons_self)
      obtain ⟨others, rest⟩ := Option.isSome_iff_exists.mp
        (ih fun x mem => all x (List.mem_cons_of_mem _ mem))
      rw [List.mapM_cons, first, rest]
      rfl

theorem mapM_congr {α β : Type} {f g : α → Option β} {list : List α}
    (same : ∀ a ∈ list, f a = g a) : list.mapM f = list.mapM g := by
  induction list with
  | nil => rfl
  | cons a list ih =>
      rw [List.mapM_cons, List.mapM_cons, same a List.mem_cons_self,
        ih fun x mem => same x (List.mem_cons_of_mem _ mem)]

/-- A text of digits only is read whole. -/
theorem stoull_digits {base : Nat} (small : base ≤ 16) {text : List Char} {digits : List Nat}
    (nonempty : text ≠ []) (all : text.mapM (digitValue base) = some digits) :
    stoull base text = if 2 ^ 64 ≤ ofDigits base digits then .error .outOfRange
      else .ok (UInt64.ofNat (ofDigits base digits)) := by
  have shape : ∀ c ∈ text, isSpace c = false ∧ c ≠ '-' ∧ c ≠ '+' ∧ c.toLower ≠ 'x' := by
    intro c mem
    obtain ⟨d, digit⟩ := Option.isSome_iff_exists.mp (mapM_isSome all c mem)
    have table : "0123456789abcdefABCDEF".toList.all fun c =>
        isSpace c = false ∧ c ≠ '-' ∧ c ≠ '+' ∧ c.toLower ≠ 'x' := by decide
    exact of_decide_eq_true
      (List.all_eq_true.mp table c (mem_of_digitValue (digitValue_mono small digit)))
  obtain ⟨c, rest, rfl⟩ := List.exists_cons_of_ne_nil nonempty
  obtain ⟨space, minus, plus, -⟩ := shape c List.mem_cons_self
  have unsigned : scanSign (c :: rest) = (false, c :: rest) := by
    unfold scanSign
    split
    · next h => exact absurd (List.cons.inj h).1 minus
    · next h => exact absurd (List.cons.inj h).1 plus
    · rfl
  have some : digits ≠ [] := by
    rintro rfl
    rw [List.mapM_cons] at all
    simp [Option.bind_eq_some_iff] at all
  have unprefixed : ∀ x digit more, c :: rest = '0' :: x :: digit :: more →
      ¬ (base = 16 ∧ x.toLower = 'x' ∧ (digitValue 16 digit).isSome = true) := by
    intro x digit more same prefixed
    have second := shape x
    rw [same] at second
    exact (second (by simp)).2.2.2 prefixed.2.1
  rw [stoull, List.dropWhile_cons_of_neg (by simp [space]), unsigned]
  dsimp only
  split
  · next x digit more same =>
      rw [if_neg (unprefixed x digit more same), scanDigits_mapM all]
      dsimp only
      rw [if_neg some, if_neg (by decide : ¬ (false = true))]
  · rw [scanDigits_mapM all]
    dsimp only
    rw [if_neg some, if_neg (by decide : ¬ (false = true))]

theorem nil_notMem_tokens (text : List Char) : [] ∉ tokens text := by
  induction text with
  | nil => simp [tokens]
  | cons c rest ih =>
      unfold tokens
      split
      · exact ih
      · split
        · simp
        · split
          · simpa using ih
          · split <;> simp_all

/-! ## Execution -/

/-- What ends a call that does not return. -/
inductive Halt where
  | undefined (fault : Fault)
  | thrown (exception : Exception)
  | aborted
  deriving DecidableEq

abbrev Run := Except Halt

namespace Run
variable {α β : Type}

def checked : Checked α → Run α
  | .ok a => .ok a
  | .error fault => .error (.undefined fault)

def throwing : Except Exception α → Run α
  | .ok a => .ok a
  | .error exception => .error (.thrown exception)

@[simp] theorem checked_ok (a : α) : checked (.ok a) = .ok a := rfl

@[simp] theorem throwing_ok (a : α) : throwing (.ok a) = .ok a := rfl

theorem checked_eq_ok {x : Checked α} {a : α} : checked x = .ok a ↔ x = .ok a := by
  cases x <;> simp [checked]

theorem throwing_eq_ok {x : Except Exception α} {a : α} : throwing x = .ok a ↔ x = .ok a := by
  cases x <;> simp [throwing]

/-- The call returns or throws. -/
def Defined (x : Run α) : Prop := (∃ a, x = .ok a) ∨ ∃ e, x = .error (.thrown e)

theorem Defined.ok (a : α) : Defined (.ok a : Run α) := .inl ⟨a, rfl⟩

theorem Defined.thrown (e : Exception) : Defined (.error (.thrown e) : Run α) := .inr ⟨e, rfl⟩

theorem Defined.throwing (x : Except Exception α) : Defined (Run.throwing x) := by
  cases x with
  | ok a => exact .ok a
  | error e => exact .thrown e

theorem Defined.bind {x : Run α} {f : α → Run β} (first : Defined x)
    (rest : ∀ a, x = .ok a → Defined (f a)) : Defined (x >>= f) := by
  rcases first with ⟨a, rfl⟩ | ⟨e, rfl⟩
  · exact rest a rfl
  · exact .thrown e

/-- `LOG_IF(FATAL, failed)` -/
def fatalIf (failed : Bool) : Run Unit := if failed then .error .aborted else .ok ()

@[simp] theorem ok_bind (a : α) (f : α → Run β) : ((.ok a : Run α) >>= f) = f a := rfl

@[simp] theorem error_bind (e : Halt) (f : α → Run β) :
    ((.error e : Run α) >>= f) = .error e := rfl

theorem bind_eq_ok {x : Run α} {f : α → Run β} {b : β} :
    x >>= f = .ok b ↔ ∃ a, x = .ok a ∧ f a = .ok b := by
  cases x with
  | ok a => simp
  | error e => simp

end Run

example : stod (padLeft 14 (fixedText 3 (-1234.5625))) = .ok (.finite (-1234.562)) := by
  decide +kernel

end Text
