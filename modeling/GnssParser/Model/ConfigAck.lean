import GnssParser.Model.Processor

/-!
# Startup configuration

`configureReceiverAtStartup` and the reader thread that calls `handleConfigAck`: the message is
written, the flag is awaited and the reader is joined. An action is one step of a thread.
-/

namespace GnssParser
open Checked

def ubxAckAckId : UInt16 := 0x0501
def ubxAckNakId : UInt16 := 0x0500

def checkAck (data : List UInt8) : Checked Int := do
  if !(← verifyMsg data) then pure 0
  else do
    let msgType := ((← msgData data 2).toUInt16 <<< 8) ||| (← msgData data 3).toUInt16
    if msgType = ubxAckAckId then pure 1
    else if msgType = ubxAckNakId then pure (-1)
    -- ignore other messages
    else pure 0

/-- Where `configureReceiverAtStartup` is, from `startRead` on. -/
inductive ConfigurePc where
  | writing
  | waiting
  | stopping (written : Bool)
  | done (written result : Bool)
  deriving DecidableEq

/-- A frame given to `handleConfigAck`, after the message was written or not and before the deadline
or not. -/
structure AckDelivery where
  data : List UInt8
  written : Bool
  inTime : Bool
  deriving DecidableEq

structure ConfigureState where
  pc : ConfigurePc
  ackFlag : Int
  deadlinePassed : Bool
  shutdown : Bool
  delivered : List AckDelivery
  deriving DecidableEq

def ConfigureState.init : ConfigureState where
  pc := .writing
  ackFlag := 0
  deadlinePassed := false
  shutdown := false
  delivered := []

inductive ConfigureAction where
  -- the reader
  | deliver (data : List UInt8)
  -- the waiting thread
  | writeRaw (ok : Bool)
  | testFlag
  | stopRead
  -- the clock and ROS
  | deadline
  | rosShutdown

def handleConfigAck (ackFlag : Int) (data : List UInt8) : Checked Int := do
  let ackResult ← checkAck data
  if ackResult = 0 then pure ackFlag else pure ackResult

def configureStep (a : ConfigureAction) (s : ConfigureState) : Option ConfigureState :=
  match a, s.pc with
  | .deliver _, .done _ _ => none
  | .deliver data, pc =>
      match handleConfigAck s.ackFlag data with
      | .error _ => none
      | .ok ackFlag =>
          let written := pc = .waiting || pc = .stopping true
          some { s with
            ackFlag
            delivered := s.delivered ++ [{ data, written, inTime := !s.deadlinePassed }] }
  | .writeRaw ok, .writing => some { s with pc := if ok then .waiting else .stopping false }
  | .testFlag, .waiting =>
      if s.ackFlag = 0 ∧ !s.shutdown ∧ !s.deadlinePassed then some s
      else some { s with pc := .stopping true }
  | .stopRead, .stopping written =>
      -- the reader is joined before the flag is read
      some { s with pc := .done written (written && s.ackFlag = 1) }
  | .deadline, .done _ _ => none
  | .deadline, .writing => none
  | .deadline, _ => some { s with deadlinePassed := true }
  | .rosShutdown, _ => some { s with shutdown := true }
  | _, _ => none

end GnssParser
