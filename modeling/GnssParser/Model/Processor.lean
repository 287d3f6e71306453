import GnssParser.Model.Beidou
import GnssParser.Model.Galileo
import GnssParser.Model.Glonass
import GnssParser.Model.Gps
import GnssParser.Model.Measurement
import GnssParser.Model.Navigation

/-!
# The message processor

`process_data` checks a message, dispatches it on its class and id and hands the result to the ROS
handler.
-/

namespace GnssParser
open Checked

def ubxSync1 : UInt8 := 0xB5
def ubxSync2 : UInt8 := 0x62

def ubxRxmsfrbxId : UInt16 := 0x0213
def ubxRxmrawxId : UInt16 := 0x0215
def ubxNavposId : UInt16 := 0x0107
def ubxTimTpId : UInt16 := 0x0D01

/-! ## Message check -/

def checkChecksum (data : BytePtr) (size : Nat) : Checked Bool := do
  let (cka, ckb) ← forRange (fun i (cka, ckb) => do
    let cka := cka + (← data i)
    pure (cka, ckb + cka)) 2 (size - 2 - 2) ((0 : UInt8), (0 : UInt8))
  pure (cka = (← data (size - 2)) && ckb = (← data (size - 1)))

def verifyMsg (msg : List UInt8) : Checked Bool := do
  -- ubx header length is 6, checksum length is 2
  if msg.length < 8 then pure false
  else if (← msgData msg 0) ≠ ubxSync1 ∨ (← msgData msg 1) ≠ ubxSync2 then pure false
  else do
    let payloadLen ← u16 ((msgData msg).add 4)
    if msg.length ≠ payloadLen.toNat + ubxMsgHeaderLen + 2 then pure false
    else checkChecksum (msgData msg) msg.length

/-! ## Subframes -/

/-- The result of `parse_subframe` and the ionosphere parameters it leaves in its argument. -/
def parseSubframe (st : Processor) (msg : List UInt8) (ionoParams : List ℚ) :
    Checked (Option EphemObject × Processor × List ℚ) := do
  let payload := (msgData msg).add 6
  let sys := ubxSys (← payload 0).toNat
  if sys = 0 then pure (none, st, ionoParams)
  else do
    let prn ← payload 1
    let sat := satNo sys prn.toNat
    if sat = 0 then pure (none, st, ionoParams)
    else
      -- the same class is allocated for every system
      let ephem : EphemObject := .ephem { sat }
      if sys = sysGps then do
        let (_, st, e) ← decodeGpsSubframe st msg (← deref ephem.asEphem)
        pure (some (.ephem e), st, ionoParams)
      else if sys = sysBds then do
        let (_, st, e, ionoParams) ← decodeBdsSubframe st msg (← deref ephem.asEphem) ionoParams
        pure (some (.ephem e), st, ionoParams)
      else if sys = sysGal then do
        let (_, st, e) ← decodeGalSubframe st msg (← deref ephem.asEphem)
        pure (some (.ephem e), st, ionoParams)
      else if sys = sysGlo then do
        let (_, st, e) ← decodeGloSubframe st msg ephem.asGloEphem
        match e with
        | some e => pure (some (.gloEphem e), st, ionoParams)
        | none => pure (some ephem, st, ionoParams)
      else pure (none, st, ionoParams)

def parseSubframes (st : Processor) :
    List (List UInt8) → Checked (List (Option EphemObject × List ℚ) × Processor)
  | [] => pure ([], st)
  | msg :: rest => do
      let (ephem, st, ionoParams) ← parseSubframe st msg []
      let (results, st) ← parseSubframes st rest
      pure ((ephem, ionoParams) :: results, st)

/-! ## Publishing -/

inductive Publication where
  | rangeMeas (meas : List Obs)
  | ephem (e : Ephem)
  | gloEphem (e : GloEphem)
  | ionoParams (params : List ℚ) (stamp : GTime)
  | timePulse (tp : TimePulseInfo)
  | pvt (pvt : PVTSolution)

structure UbloxRosHandler where
  rawObservationSystemMask : Nat
  ephemerisSystemMask : Nat

namespace UbloxRosHandler

def publishObservations (h : UbloxRosHandler) (meas : List Obs) : List Publication :=
  let filtered := meas.filter fun obs => (satsys obs.sat).1 &&& h.rawObservationSystemMask ≠ 0
  if filtered.isEmpty then [] else [.rangeMeas filtered]

def publishEphemeris (h : UbloxRosHandler) (ephem : Option EphemObject) :
    Checked (List Publication) :=
  match ephem with
  | none => pure []
  | some obj => do
      let sys := (satsys obj.base.sat).1
      if obj.base.ttr.time = 0 then pure []
      else if sys &&& h.ephemerisSystemMask = 0 then pure []
      else if sys = sysGlo then pure [.gloEphem (← deref obj.asGloEphem)]
      else pure [.ephem (← deref obj.asEphem)]

def publishIonoParams (ionoParams : List ℚ) (stamp : GTime) : List Publication :=
  if ionoParams.length ≠ 8 then [] else [.ionoParams ionoParams stamp]

def publishTimePulse : Option TimePulseInfo → List Publication
  | none => []
  | some tp => if tp.time.time = 0 then [] else [.timePulse tp]

def publishPvt : Option PVTSolution → List Publication
  | none => []
  | some pvt => if pvt.time.time = 0 then [] else [.pvt pvt]

end UbloxRosHandler

def msgType (msg : List UInt8) : Checked UInt16 := do
  pure (((← msgData msg 2).toUInt16 <<< 8) ||| (← msgData msg 3).toUInt16)

/-- The publications of one message and the next state. -/
def processData (handler : Option UbloxRosHandler) (st : Processor) (msg : List UInt8) :
    Checked (List Publication × Processor) := do
  if !(← verifyMsg msg) then pure ([], st)
  else do
    let type ← msgType msg
    if type = ubxRxmrawxId then do
      let (meas, st) ← parseMeasMsg st msg
      match handler with
      | none => pure ([], st)
      | some h => pure (h.publishObservations meas, st)
    else if type = ubxRxmsfrbxId then do
      let (ephem, st, ionoParams) ← parseSubframe st msg []
      match handler with
      | none => pure ([], st)
      | some h => do
          let published ← h.publishEphemeris ephem
          match ephem with
          | none => pure (published, st)
          | some obj =>
              pure (published ++ UbloxRosHandler.publishIonoParams ionoParams obj.base.ttr, st)
    else if type = ubxTimTpId then do
      let tp ← parseTimePulse msg
      pure (if handler.isSome then UbloxRosHandler.publishTimePulse tp else [], st)
    else if type = ubxNavposId then do
      let pvt ← parsePvt st msg
      pure (if handler.isSome then UbloxRosHandler.publishPvt pvt else [], st)
    else pure ([], st)

def feed (handler : Option UbloxRosHandler) (st : Processor) : List (List UInt8) → Checked Processor
  | [] => pure st
  | msg :: rest => do
      let (_, st) ← processData handler st msg
      feed handler st rest

/-- The states of a processor after some history of messages. -/
def Reachable (st : Processor) : Prop :=
  ∃ handler history, feed handler Processor.init history = .ok st

end GnssParser
