import GnssParser.Lib.Checked

/-!
# RTCM framing

The log buffer of `GNSSDriverManager`, which cuts the received correction bytes into RTCM 3 frames.
-/

namespace GnssParser
open Checked

def rtcmPreamble : UInt8 := 0xD3
def rtcmMaxPayloadLength : UInt16 := 1023

def computeRtcmCrc24q (data : BytePtr) (len : Nat) : Checked UInt32 := do
  let crc ← forRange (fun i crc => do
    let crc := crc ^^^ ((← data i).toUInt32 <<< 16)
    forRange (fun _ crc =>
      let crc := crc <<< 1
      pure (if crc &&& 0x1000000 ≠ 0 then crc ^^^ 0x1864CFB else crc)) 0 8 crc) 0 len (0 : UInt32)
  pure (crc &&& 0xFFFFFF)

def getRtcmPayloadLength (frame : BytePtr) : Checked UInt16 := do
  pure ((((← frame 1) &&& 0x03).toUInt16 <<< 8) ||| (← frame 2).toUInt16)

def getRtcmMessageType (frame : BytePtr) (payloadLength : UInt16) : Checked UInt16 := do
  if payloadLength < 2 then pure 0
  else pure (((← frame 3).toUInt16 <<< 4) ||| ((← frame 4).toUInt16 >>> 4))

structure RtcmMsg where
  messageType : UInt16
  payloadLength : UInt16
  frameLength : UInt32
  data : List UInt8
  deriving DecidableEq, Repr

def publishRtcm (data : List UInt8) (len : Nat) (messageType payloadLength : UInt16) :
    List RtcmMsg :=
  if len = 0 then [] else [⟨messageType, payloadLength, UInt32.ofNat len, data.take len⟩]

structure RtcmLog where
  rtcmLogBuffer : List UInt8
  rtcmInputChunkCount : UInt64
  rtcmInputTotalBytes : UInt64
  rtcmFrameCount : UInt64

def RtcmLog.init : RtcmLog := ⟨[], 0, 0, 0⟩

/-- What one round of the loop of `drainRtcmLogBuffer` ends with. -/
inductive DrainRound where
  | return (log : RtcmLog)
  | continue (log : RtcmLog) (published : List RtcmMsg)

def drainRound (rosHandler : Bool) (log : RtcmLog) : Checked DrainRound := do
  let buffer := log.rtcmLogBuffer.dropWhile (· ≠ rtcmPreamble)
  if buffer.isEmpty then pure (.return { log with rtcmLogBuffer := [] })
  else if buffer.length < 3 then pure (.return { log with rtcmLogBuffer := buffer })
  else if (← loadAt buffer 1) &&& 0xFC ≠ 0 then
    pure (.continue { log with rtcmLogBuffer := buffer.drop 1 } [])
  else do
    let payloadLength ← getRtcmPayloadLength (loadAt buffer)
    if payloadLength > rtcmMaxPayloadLength then
      pure (.continue { log with rtcmLogBuffer := buffer.drop 1 } [])
    else do
      let frameLength := payloadLength.toNat + 6
      if buffer.length < frameLength then pure (.return { log with rtcmLogBuffer := buffer })
      else do
        let c0 ← loadAt buffer (frameLength - 3)
        let c1 ← loadAt buffer (frameLength - 2)
        let c2 ← loadAt buffer (frameLength - 1)
        let expectedCrc := (c0.toUInt32 <<< 16) ||| (c1.toUInt32 <<< 8) ||| c2.toUInt32
        if (← computeRtcmCrc24q (loadAt buffer) (frameLength - 3)) ≠ expectedCrc then
          pure (.continue { log with rtcmLogBuffer := buffer.drop 1 } [])
        else do
          let messageType ← getRtcmMessageType (loadAt buffer) payloadLength
          pure (.continue
            { log with
              rtcmFrameCount := log.rtcmFrameCount + 1
              rtcmLogBuffer := buffer.drop frameLength }
            (if rosHandler then publishRtcm buffer frameLength messageType payloadLength else []))

/-- The loop of `drainRtcmLogBuffer` for at most `fuel` rounds. -/
def drainRtcmLogBuffer (rosHandler : Bool) :
    Nat → RtcmLog → Checked (Option (List RtcmMsg × RtcmLog))
  | 0, _ => pure none
  | fuel + 1, log => do
      match ← drainRound rosHandler log with
      | .return log => pure (some ([], log))
      | .continue log published => do
          let rest ← drainRtcmLogBuffer rosHandler fuel log
          pure (rest.map fun (more, log) => (published ++ more, log))

def logRtcmInputChunk (len : Nat) (log : RtcmLog) : RtcmLog :=
  { log with
    rtcmInputChunkCount := log.rtcmInputChunkCount + 1
    rtcmInputTotalBytes := log.rtcmInputTotalBytes + UInt64.ofNat len }

/-- The frames published for one received piece; every round of the loop drops a byte at least. -/
def logRtcmFrames (rosHandler : Bool) (data : List UInt8) (log : RtcmLog) :
    Checked (Option (List RtcmMsg × RtcmLog)) :=
  if data.length = 0 then pure (some ([], log))
  else
    let log := logRtcmInputChunk data.length log
    let buffer := log.rtcmLogBuffer ++ data
    drainRtcmLogBuffer rosHandler (buffer.length + 1) { log with rtcmLogBuffer := buffer }

/-- Pieces passed one after the other. -/
def logRtcmChunks (rosHandler : Bool) :
    List (List UInt8) → RtcmLog → Checked (Option (List RtcmMsg × RtcmLog))
  | [], log => pure (some ([], log))
  | chunk :: chunks, log => do
      match ← logRtcmFrames rosHandler chunk log with
      | none => pure none
      | some (published, log) => do
          let rest ← logRtcmChunks rosHandler chunks log
          pure (rest.map fun (more, log) => (published ++ more, log))

end GnssParser
