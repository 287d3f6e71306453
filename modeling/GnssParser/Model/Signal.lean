import GnssParser.Model.Ephemeris

/-!
# Signals

Observation codes, frequency slots and carrier frequencies.
-/

namespace GnssParser
open Checked

def codeNone : Nat := 0
def codeL1C : Nat := 1
def codeL1B : Nat := 11
def codeL2C : Nat := 14
def codeL2L : Nat := 17
def codeL2M : Nat := 22
def codeL7I : Nat := 27
def codeL7Q : Nat := 28
def codeL1I : Nat := 47

def nFreq : Nat := 3

def lightSpeed : ℚ := 2.99792458e8

def freq1 : ℚ := 1.57542E9
def freq2 : ℚ := 1.22760E9
def freq5 : ℚ := 1.17645E9
def freq6 : ℚ := 1.27875E9
def freq7 : ℚ := 1.20714E9
def freq8 : ℚ := 1.191795E9
def freq9 : ℚ := 2.492028E9
def freq1Glo : ℚ := 1.60200E9
def dfrq1Glo : ℚ := 0.56250E6
def freq2Glo : ℚ := 1.24600E9
def dfrq2Glo : ℚ := 0.43750E6
def freq3Glo : ℚ := 1.202025E9
def freq1Bds : ℚ := 1.561098E9
def freq2Bds : ℚ := 1.20714E9
def freq3Bds : ℚ := 1.26852E9

def lamCarr : Vector ℚ 7 := #v[lightSpeed / freq1, lightSpeed / freq2, lightSpeed / freq5,
  lightSpeed / freq6, lightSpeed / freq7, lightSpeed / freq8, lightSpeed / freq9]

def freqGlo : Vector ℚ 8 := #v[freq1Glo, freq2Glo, freq3Glo, 0, 0, 0, 0, 0]

def dfrqGlo : Vector ℚ 8 := #v[dfrq1Glo, dfrq2Glo, 0, 0, 0, 0, 0, 0]

def freqBds : Vector ℚ 8 := #v[freq1Bds, freq2Bds, freq3Bds, freq2Bds, 0, 0, 0, 0]

/-- The frequency of slot `sid`; `fcn` is the GLONASS channel. -/
def sigFreq (sys sid : Nat) (fcn : Int) : Checked ℚ := do
  if sys = sysGlo then
    pure ((← readAt freqGlo (predIndex sid)) + (← readAt dfrqGlo (predIndex sid)) * fcn)
  else if sys = sysBds then
    readAt freqBds (predIndex sid)
  else
    pure (lightSpeed / (← readAt lamCarr (predIndex sid)))

/-- The frequency slot of a code: 0 is none, `nFreq + 1` an extra code of slot 1 or 2. -/
def sigIdx (sys code : Nat) : Nat :=
  if sys = sysGps then
    if code = codeL1C then 1
    else if code = codeL2L then 2
    else if code = codeL2M then nFreq + 1
    else 0
  else if sys = sysGlo then
    if code = codeL1C then 1
    else if code = codeL2C then 2
    else 0
  else if sys = sysGal then
    if code = codeL1C then 1
    else if code = codeL1B then nFreq + 1
    else if code = codeL7I then 2
    else if code = codeL7Q then 2
    else 0
  else if sys = sysQzs then
    if code = codeL1C then 1
    else if code = codeL2L then 2
    else 0
  else if sys = sysBds then
    if code = codeL1I then 1
    else if code = codeL7I then 2
    else 0
  else if sys = sysSbs then
    if code = codeL1C then 1
    else 0
  else 0

/-- The code of a u-blox `sigId`. -/
def ubxSig (sys sigid : Nat) : Nat :=
  if sys = sysGps then
    if sigid = 0 then codeL1C
    else if sigid = 3 then codeL2L
    else if sigid = 4 then codeL2M
    else codeNone
  else if sys = sysGlo then
    if sigid = 0 then codeL1C
    else if sigid = 2 then codeL2C
    else codeNone
  else if sys = sysGal then
    if sigid = 0 then codeL1C
    else if sigid = 1 then codeL1B
    else if sigid = 5 then codeL7I
    else if sigid = 6 then codeL7Q
    else codeNone
  else if sys = sysQzs then
    if sigid = 0 then codeL1C
    else if sigid = 5 then codeL2L
    else codeNone
  else if sys = sysBds then
    if sigid = 0 then codeL1I
    else if sigid = 1 then codeL1I
    else if sigid = 2 then codeL7I
    else if sigid = 3 then codeL7I
    else codeNone
  else if sys = sysSbs then codeL1C
  else codeNone

end GnssParser
