import GnssParser.Model.Nmea
import GnssParser.Model.Params
import GnssParser.Model.Rtcm

/-!
# The driver manager

The threads that run through a `GNSSDriverManager`: the reader of the serial port, the reader of the
correction stream and the timer of the GGA sentences. An action is what one thread does between two
accesses to the data the threads share.
-/

namespace GnssParser

/-! ## The pipelines -/

inductive RtcmClient where
  | loopback (port : UInt64)
  | ntrip (server : List Char) (port : UInt64) (mountpoint username password : List Char)
  deriving DecidableEq

/-- What the constructor starts. -/
structure Pipelines where
  handler : UbloxRosHandler
  serialStarted : Bool
  rtcmClient : Option RtcmClient
  ntripGgaTimer : Bool

def setupRtcmClient (params : UbloxDriverParams) (serialOpen : Bool) : Option RtcmClient :=
  if !params.enableRtcmTcpLoopback && !params.enableNtripRtcm then none
  else if !serialOpen then none
  else if params.enableRtcmTcpLoopback then some (.loopback params.rtcmTcpPort)
  else some (.ntrip params.ntripServer params.ntripPort params.ntripMountpoint params.ntripUsername
    params.ntripPassword)

/-- The constructor; `serialOpen` is the outcome of opening the serial port. -/
def setupPipelines (params : UbloxDriverParams) (serialOpen : Bool) : Pipelines :=
  let serialStarted := params.enableSerial && serialOpen
  let rtcmClient := setupRtcmClient params serialStarted
  { handler := ⟨params.rawObservationSystemMask, params.ephemerisSystemMask⟩
    serialStarted
    rtcmClient
    ntripGgaTimer := rtcmClient.isSome && params.enableNtripRtcm }

/-! ## What an observer sees -/

inductive DriverEvent where
  /-- a message from the serial port -/
  | message (data : List UInt8)
  /-- the callback for a solution -/
  | latestPvt (pvt : PVTSolution)
  | published (p : Publication)
  /-- a piece of the correction stream -/
  | chunk (data : List UInt8)
  | rtcm (msg : RtcmMsg)
  /-- `serial_handler_->writeRaw` -/
  | receiver (data : List UInt8)
  /-- `sendNtripGga` reads the latest solution -/
  | snapshot (pvt : Option PVTSolution)
  | skipped
  /-- `rtcm_client_->write` and its result -/
  | caster (sentence : List Char) (sent : Bool)

/-! ## The threads -/

inductive GgaPc where
  | idle
  | locking
  | building (latestPvt : Option PVTSolution)
  | writing (sentence : List Char)

structure DriverState where
  processor : Processor
  /-- Publications of the message in hand, and whether the callbacks of the first one are done. -/
  publications : List Publication
  called : Bool
  latestPvt : Option PVTSolution
  rtcmLog : RtcmLog
  /-- Frames of the piece in hand, and the piece. -/
  frames : List RtcmMsg
  chunk : Option (List UInt8)
  gga : GgaPc
  ntripGgaSkipCount : UInt64
  ntripGgaSendCount : UInt64
  /-- What happened so far, the first event first. -/
  trace : List DriverEvent

namespace DriverState

def init : DriverState where
  processor := .init
  publications := []
  called := false
  latestPvt := none
  rtcmLog := .init
  frames := []
  chunk := none
  gga := .idle
  ntripGgaSkipCount := 0
  ntripGgaSendCount := 0
  trace := []

def emit (s : DriverState) (event : DriverEvent) : DriverState :=
  { s with trace := s.trace ++ [event] }

end DriverState

inductive DriverAction where
  -- the reader of the serial port
  | processData (data : List UInt8)
  | callback
  | publish
  -- the reader of the correction stream
  | logRtcmFrames (data : List UInt8)
  | publishRtcm
  | writeRaw
  -- the timer
  | fire (clientOpen : Bool)
  | lock
  | build
  | write (sent : Bool)

def serialStep (handler : UbloxRosHandler) (s : DriverState) : DriverAction → Option DriverState
  | .processData data =>
      match s.publications, processData (some handler) s.processor data with
      | [], .ok (publications, processor) =>
          some { s.emit (.message data) with processor, publications }
      | _, _ => none
  | .callback =>
      match s.publications, s.called with
      | .pvt pvt :: _, false =>
          some { s.emit (.latestPvt pvt) with latestPvt := some pvt, called := true }
      | _, _ => none
  | .publish =>
      match s.publications, s.called with
      | .pvt _ :: _, false => none
      | p :: publications, _ => some { s.emit (.published p) with publications, called := false }
      | [], _ => none
  | _ => none

def rtcmStep (s : DriverState) : DriverAction → Option DriverState
  | .logRtcmFrames data =>
      match s.chunk, logRtcmFrames true data s.rtcmLog with
      | none, .ok (some (frames, rtcmLog)) =>
          some { s.emit (.chunk data) with rtcmLog, frames, chunk := some data }
      | _, _ => none
  | .publishRtcm =>
      match s.frames with
      | msg :: frames => some { s.emit (.rtcm msg) with frames }
      | [] => none
  | .writeRaw =>
      match s.frames, s.chunk with
      | [], some data => some { s.emit (.receiver data) with chunk := none }
      | _, _ => none
  | _ => none

/-- `sendNtripGga` without a sentence. -/
def DriverState.skipGga (s : DriverState) : DriverState :=
  { s.emit .skipped with gga := .idle, ntripGgaSkipCount := s.ntripGgaSkipCount + 1 }

def sendNtripGga (s : DriverState) : DriverAction → Option DriverState
  | .fire clientOpen =>
      match s.gga with
      | .idle => some { s with gga := if clientOpen then .locking else .idle }
      | _ => none
  | .lock =>
      match s.gga with
      | .locking => some { s.emit (.snapshot s.latestPvt) with gga := .building s.latestPvt }
      | _ => none
  | .build =>
      match s.gga with
      | .building none => some s.skipGga
      | .building (some pvt) =>
          if pvt.time.time = 0 then some s.skipGga
          else
            let ggaSentence := buildNmeaGgaSentence pvt
            if ggaSentence.isEmpty then some s.skipGga else some { s with gga := .writing ggaSentence }
      | _ => none
  | .write sent =>
      match s.gga with
      | .writing ggaSentence =>
          some { s.emit (.caster ggaSentence sent) with
            gga := .idle
            ntripGgaSendCount := if sent then s.ntripGgaSendCount + 1 else s.ntripGgaSendCount }
      | _ => none
  | _ => none

/-- A step of a thread that the constructor started. -/
def driverStep (pipelines : Pipelines) (a : DriverAction) (s : DriverState) : Option DriverState :=
  match a with
  | .processData _ | .callback | .publish =>
      if pipelines.serialStarted then serialStep pipelines.handler s a else none
  | .logRtcmFrames _ | .publishRtcm | .writeRaw =>
      if pipelines.rtcmClient.isSome then rtcmStep s a else none
  | .fire _ | .lock | .build | .write _ =>
      if pipelines.ntripGgaTimer then sendNtripGga s a else none

end GnssParser
