import GnssParser.Model.Rinex

/-!
# RINEX writer

`obs2rinex` with the indices of its loops: the searches for the first and the last epoch that has
observations, and the slot table with its iterator.
-/

namespace GnssParser
open Checked Text

/-- `while (gnss_meas[++front_idx].empty())`, with the epochs from the index on. -/
def frontIdx (i : Nat) : List (List Obs) → Checked Nat
  | [] => .error (.outOfBounds i i)
  | meas :: rest => if meas.isEmpty then frontIdx (i + 1) rest else pure i

/-- `while (gnss_meas[--back_idx].empty())`; below the first epoch the index wraps around. -/
def backIdx (gnssMeas : List (List Obs)) : Nat → Checked Nat
  | 0 => .error (.outOfBounds (2 ^ 64 - 1) gnssMeas.length)
  | i + 1 => do
      if (← loadAt gnssMeas i).isEmpty then backIdx gnssMeas i else pure i

/-- `gnss_meas[i].front()` -/
def epochFront (gnssMeas : List (List Obs)) (i : Nat) : Checked Obs := do
  loadAt (← loadAt gnssMeas i) 0

def timeLines (gnssMeas : List (List Obs)) : Checked (List (List Char)) :=
  if gnssMeas.isEmpty then pure []
  else do
    let start ← epochFront gnssMeas (← frontIdx 0 gnssMeas)
    let finish ← epochFront gnssMeas (← backIdx gnssMeas gnssMeas.length)
    pure [timeLine start.time "TIME OF FIRST OBS", timeLine finish.time "TIME OF LAST OBS"]

/-- A line of the slot table and the iterator behind its satellites. -/
def slotLine (sat2freqo : List (Nat × Int)) (i it : Nat) : Checked (List Char × Nat) := do
  let numGloSats := sat2freqo.length
  let (line, it) ← forRange (fun j (line, it) => do
      if i * 8 + j < numGloSats then
        let (sat, freqo) ← loadAt sat2freqo it
        pure (line ++ (' ' :: padLeft 3 (sat2str sat) ++ ' ' :: padLeft 2 (intText freqo)), it + 1)
      else pure (line ++ ' ' :: blanks 6, it))
    0 8 (if i = 0 then padLeft 3 (natText numGloSats) else blanks 3, it)
  pure (line ++ ' ' :: padRight 20 "GLONASS SLOT / FRQ #".toList, it)

def slotTable (sat2freqo : List (Nat × Int)) : Checked (List (List Char)) := do
  let numGloSats := sat2freqo.length
  let (lines, _) ← forRange (fun i (lines, it) => do
      let (line, it) ← slotLine sat2freqo i it
      pure (lines ++ [line], it))
    0 (if numGloSats = 0 then 1 else (numGloSats - 1) / 8 + 1) ([], 0)
  pure lines

def obs2rinexLoops (now : UtcDate) (gnssMeas : List (List Obs)) : Checked (List Char) := do
  let times ← timeLines gnssMeas
  let slots ← slotTable (getGloFreqo gnssMeas)
  let data ← gnssMeas.mapM epochLines
  pure (unlines ((versionLine :: dateLine now :: headerAround times slots) ++ data.flatten))

end GnssParser
