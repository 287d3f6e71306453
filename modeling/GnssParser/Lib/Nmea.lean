import GnssParser.Lib.Decimal

/-!
# NMEA sentences

The frame of a sentence, its fields, and how a time and an angle are read from them.
-/

namespace Nmea
open Text

def checksum (body : List Char) : UInt8 :=
  body.foldl (fun sum c => sum ^^^ UInt8.ofNat c.toNat) 0

def hexDigit (n : Nat) : Char := "0123456789ABCDEF".toList.getD n '0'

def sentence (body : List Char) : List Char :=
  '$' :: body ++ ['*', hexDigit ((checksum body).toNat / 16), hexDigit ((checksum body).toNat % 16),
    '\r', '\n']

def fields (body : List Char) : List (List Char) := body.splitOn ','

/-- Hour, minute and second of `hhmmss.sss`. -/
def timeOfDay (field : List Char) : Option (Nat × Nat × ℚ) := do
  let hour ← number (field.take 2)
  let min ← number ((field.drop 2).take 2)
  let sec ← fixedPoint 2 3 (field.drop 4)
  pure (hour, min, sec)

/-- Degrees, of a given number of digits, and minutes of `mm.mmmmm`. -/
def angle (width : Nat) (field : List Char) : Option (Nat × ℚ) := do
  let degrees ← number (field.take width)
  let minutes ← fixedPoint 2 5 (field.drop width)
  pure (degrees, minutes)

/-- The angle of a field and the letter of its hemisphere. -/
def coordinate (width : Nat) (positive negative : Char) (field letter : List Char) : Option ℚ := do
  let (degrees, minutes) ← angle width field
  if letter = [positive] then pure (degrees + minutes / 60)
  else if letter = [negative] then pure (-(degrees + minutes / 60))
  else none

theorem count_intercalate {separator : Char} {texts : List (List Char)}
    (plain : ∀ text ∈ texts, separator ∉ text) :
    ([separator].intercalate texts).count separator = texts.length - 1 := by
  induction texts with
  | nil => rfl
  | cons text texts ih =>
      have first : text.count separator = 0 :=
        List.count_eq_zero.mpr (plain text List.mem_cons_self)
      cases texts with
      | nil => simpa [List.intercalate] using first
      | cons next rest =>
          have others := ih fun other mem => plain other (List.mem_cons_of_mem _ mem)
          rw [List.intercalate_cons_cons, List.count_append, List.count_append, first, others]
          simp [Nat.add_comm]

theorem fields_intercalate {texts : List (List Char)} (plain : ∀ text ∈ texts, ',' ∉ text)
    (nonempty : texts ≠ []) : fields ([','].intercalate texts) = texts :=
  List.splitOn_intercalate ',' plain nonempty

theorem timeOfDay_append {hour min n : Nat} (hours : hour < 24) (mins : min < 60) (secs : n < 60000) :
    timeOfDay (zeroPad 2 (natText hour) ++ zeroPad 2 (natText min) ++
        (zeroPad 2 (natText (n / 10 ^ 3)) ++ '.' :: zeroPad 3 (natText (n % 10 ^ 3)))) =
      some (hour, min, (n : ℚ) / 10 ^ 3) := by
  have hourLength := zeroPad_length (show 0 < 2 by decide) (show hour < 10 ^ 2 by omega)
  have minLength := zeroPad_length (show 0 < 2 by decide) (show min < 10 ^ 2 by omega)
  rw [timeOfDay, List.append_assoc, List.take_left' hourLength, number_zeroPad,
    List.drop_left' hourLength, List.take_left' minLength, number_zeroPad, ← List.append_assoc,
    List.drop_left' (by rw [List.length_append, hourLength, minLength]),
    fixedPoint_zeroPad (by decide) (by decide) (by omega)]
  rfl

theorem angle_append {width degrees n : Nat} (pos : 0 < width) (small : degrees < 10 ^ width)
    (minutes : n < 6000000) :
    angle width (zeroPad width (natText degrees) ++
        (zeroPad 2 (natText (n / 10 ^ 5)) ++ '.' :: zeroPad 5 (natText (n % 10 ^ 5)))) =
      some (degrees, (n : ℚ) / 10 ^ 5) := by
  have length := zeroPad_length pos small
  rw [angle, List.take_left' length, number_zeroPad, List.drop_left' length,
    fixedPoint_zeroPad (by decide) (by decide) (by omega)]
  rfl

end Nmea
