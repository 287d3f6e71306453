import GnssParser.Lib.Ieee
import GnssParser.Model.Signal
import GnssParser.Model.Subframe

/-!
# Raw measurements

`parse_meas_msg`: the blocks of a UBX-RXM-RAWX message, grouped by satellite.
-/

namespace GnssParser
open Checked

def cpstdValid : UInt8 := 10
def lliSlip : UInt8 := 0x01
def lliHalfc : UInt8 := 0x02

structure Obs where
  time : GTime
  sat : Nat
  freqs : List ℚ := []
  cn0 : List ℚ := []
  lli : List UInt8 := []
  code : List UInt8 := []
  psr : List Ieee := []
  psrStd : List ℚ := []
  cp : List Ieee := []
  cpStd : List ℚ := []
  dopp : List Ieee := []
  doppStd : List ℚ := []
  status : List UInt8 := []

/-- One block of 32 bytes: one signal of one satellite. -/
structure MeasBlock where
  psr : Ieee
  cp : Ieee
  dopp : Ieee
  gnssId : UInt8
  svid : UInt8
  sigId : UInt8
  freqId : UInt8
  lockTime : UInt16
  cn0 : UInt8
  psrStd : UInt8
  cpStd : UInt8
  doppStd : UInt8
  tckSta : UInt8

def readMeasBlock (satData : BytePtr) : Checked MeasBlock := do
  pure {
    psr := Ieee.ofBits64 (← u64 satData)
    cp := Ieee.ofBits64 (← u64 (satData.add 8))
    dopp := Ieee.ofBits32 (← u32 (satData.add 16))
    gnssId := (← satData 20)
    svid := (← satData 21)
    sigId := (← satData 22)
    freqId := (← satData 23)
    lockTime := (← u16 (satData.add 24))
    cn0 := (← satData 26)
    psrStd := (← satData 27) &&& 0x0F
    cpStd := (← satData 28) &&& 0x0F
    doppStd := (← satData 29) &&& 0x0F
    tckSta := (← satData 30) }

/-- `gpst2time` of a time of week taken from a message. -/
def gpst2timeDouble (week : UInt32) : Ieee → Checked GTime
  | .finite tow => pure (gpst2time week tow)
  | .infinite _ => pure (gpst2time week 0)
  | .nan => .error .badConversion

/-- The state of the loop over the blocks. -/
structure MeasState where
  st : Processor
  obsMeas : List Obs
  sat2idx : Nat → Option Nat

/-- The slip decision for a block, from the last block of its satellite and slot. -/
def slipDetected (prev : Option (ℚ × UInt8)) (lockTime : UInt16) (lockTimeS : ℚ)
    (currTrackState : UInt8) : Bool :=
  match prev with
  | none => false
  | some (prevLockTime, prevTrackState) =>
      let prevPhaseValid : Bool := prevTrackState &&& 0x02 ≠ 0
      let currPhaseValid : Bool := currTrackState &&& 0x02 ≠ 0
      let halfCycleStateChanged : Bool := (prevTrackState ^^^ currTrackState) &&& 0x08 ≠ 0
      lockTime = 0 || lockTimeS < prevLockTime || prevPhaseValid != currPhaseValid ||
        halfCycleStateChanged

/-- Appends one signal to the observation of its satellite. -/
def Obs.push (obs : Obs) (b : MeasBlock) (freq : ℚ) (lli : UInt8) (code : Nat) (psr cp : Ieee) :
    Obs :=
  { obs with
    freqs := obs.freqs ++ [freq]
    cn0 := obs.cn0 ++ [(b.cn0.toNat : ℚ)]
    lli := obs.lli ++ [lli]
    code := obs.code ++ [UInt8.ofNat code]
    psr := obs.psr ++ [psr]
    psrStd := obs.psrStd ++ [(0.01 : ℚ) * ((1 <<< b.psrStd.toNat : Nat) : ℚ)]
    cp := obs.cp ++ [cp]
    cpStd := obs.cpStd ++ [(0.004 : ℚ) * (b.cpStd.toNat : ℚ)]
    dopp := obs.dopp ++ [b.dopp]
    doppStd := obs.doppStd ++ [(0.002 : ℚ) * ((1 <<< b.doppStd.toNat : Nat) : ℚ)]
    status := obs.status ++ [b.tckSta &&& 0x0F] }

def Processor.setTrack (st : Processor) (sat sid : UInt8) (lockTime : ℚ) (state : UInt8) :
    Processor :=
  { st with
    signalTrackLockTimes := Function.update st.signalTrackLockTimes sat
      (Function.update (st.signalTrackLockTimes sat) sid (some lockTime))
    signalTrackState := Function.update st.signalTrackState sat
      (Function.update (st.signalTrackState sat) sid (some state)) }

def measBlock (time : GTime) (b : MeasBlock) (s : MeasState) : Checked MeasState := do
  let psr : Ieee := if b.tckSta &&& 0x01 = 0 then .finite 0 else b.psr
  let cp : Ieee :=
    if b.tckSta &&& 0x02 = 0 ∨ b.cp = .finite (-0.5) ∨ b.cpStd > cpstdValid then .finite 0 else b.cp
  let halfv : Bool := b.tckSta &&& 0x04 ≠ 0
  let sys := ubxSys b.gnssId.toNat
  if sys = 0 then pure s
  else
    let sat := satNo sys b.svid.toNat
    if sat = 0 then pure s
    else
      let code := ubxSig sys b.sigId.toNat
      let sid := sigIdx sys code
      if sid = 0 ∨ sid > nFreq then pure s
      else do
        let satKey := UInt8.ofNat sat
        let sidKey := UInt8.ofNat sid
        let prev := do
          let lockTime ← s.st.signalTrackLockTimes satKey sidKey
          let state ← s.st.signalTrackState satKey sidKey
          pure (lockTime, state)
        let lockTimeS : ℚ := (b.lockTime.toNat : ℚ) * 1e-3
        let currTrackState := b.tckSta &&& 0x0F
        let slip := slipDetected prev b.lockTime lockTimeS currTrackState
        let st := s.st.setTrack satKey sidKey lockTimeS currTrackState
        let lli := (if slip then lliSlip else 0) ||| (if !halfv then lliHalfc else 0)
        -- several signals of one satellite share an observation
        let (obsMeas, idx) :=
          match s.sat2idx sat with
          | some idx => (s.obsMeas, idx)
          | none => (s.obsMeas ++ [{ time := time, sat := sat }], s.obsMeas.length)
        let obs ← loadAt obsMeas idx
        let freq ← sigFreq sys sid ((b.freqId.toNat : Int) - 7)
        pure {
          st
          obsMeas := obsMeas.set idx (obs.push b freq lli code psr cp)
          sat2idx := Function.update s.sat2idx sat (some idx) }

def measBlocks (payloadHeader : BytePtr) (numMeas : Nat) (time : GTime) (s : MeasState) :
    Checked MeasState :=
  forRange (fun i s => do
    let b ← readMeasBlock (payloadHeader.add (16 + 32 * i))
    measBlock time b s) 0 numMeas s

def parseMeasMsg (st : Processor) (msg : List UInt8) : Checked (List Obs × Processor) := do
  if msg.length ≤ 24 then pure ([], st)
  else do
    let payloadHeader := (msgData msg).add 6
    let tow := Ieee.ofBits64 (← u64 payloadHeader)
    let week ← u16 (payloadHeader.add 8)
    let numMeas ← payloadHeader 11
    if msg.length < 24 + 32 * numMeas.toNat then pure ([], st)
    else if week = 0 then pure ([], st)
    else do
      let time ← gpst2timeDouble week.toUInt32 tow
      let s ← measBlocks payloadHeader numMeas.toNat time
        { st, obsMeas := [], sat2idx := fun _ => none }
      if s.obsMeas.isEmpty then pure (s.obsMeas, s.st)
      else pure (s.obsMeas, { s.st with currTime := time })

/-- The measurements of several messages, one after the other. -/
def parseMeasMsgs (st : Processor) : List (List UInt8) → Checked (List (List Obs) × Processor)
  | [] => pure ([], st)
  | msg :: rest => do
      let (obsMeas, st) ← parseMeasMsg st msg
      let (results, st) ← parseMeasMsgs st rest
      pure (obsMeas :: results, st)

end GnssParser
