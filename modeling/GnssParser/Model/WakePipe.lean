import Mathlib.Tactic

/-!
# Stopping the reader

The threads around a wake pipe: the reader of `SerialHandler`, a writer under `write_mutex_`, and the
controller that starts and stops the reader. An action is one access to what they share.
-/

namespace GnssParser

/-- The calls of `read_exact` in `read_loop`. -/
inductive ReadCall where
  | header
  | refill
  | payload
  deriving DecidableEq, Repr

/-- Where the reader thread is. -/
inductive ReaderPc where
  | notStarted
  | loopTest
  | readTest (call : ReadCall) (filled : Bool)
  | poll (call : ReadCall)
  | drain (call : ReadCall)
  | read (call : ReadCall)
  | headerTest
  | runTest
  | callback
  | exited
  deriving DecidableEq, Repr

inductive WriterPc where
  | idle
  | writeTest
  | poll
  | drain
  | write
  deriving DecidableEq, Repr

/-- Where the controller is; `closing` tells `close` from `stopRead`. -/
inductive ControllerPc where
  | idle
  | spawning
  | waking (closing : Bool)
  | joining (closing : Bool)
  | closing
  deriving DecidableEq, Repr

structure WakeState where
  readRunning : Bool
  isOpen : Bool
  /-- The bytes queued in the wake pipe. -/
  pipe : Nat
  /-- The port has bytes to read. -/
  dataReady : Bool
  reader : ReaderPc
  writer : WriterPc
  controller : ControllerPc
  /-- A stop was issued since the last start. -/
  stopIssued : Bool
  /-- The reader met an error or the end of the file since the last start. -/
  ioError : Bool
  deriving DecidableEq, Repr

def WakeState.init : WakeState where
  readRunning := false
  isOpen := true
  pipe := 0
  dataReady := false
  reader := .notStarted
  writer := .idle
  controller := .idle
  stopIssued := false
  ioError := false

inductive WakeAction where
  -- the reader
  | testLoop
  | testRead
  | pollWake
  | pollData
  | pollError
  | drainWake
  | readBytes (filled more : Bool)
  | readAgain
  | readEnd
  | testHeader (found : Bool)
  | testRun
  | callback
  -- a writer
  | beginWrite
  | testWrite (done : Bool)
  | writerPollWake
  | writerPollReady
  | writerPollFail
  | writerDrain
  | writeBytes (failed : Bool)
  -- the controller
  | startRead
  | spawn
  | stopRead
  | close
  | wake
  | join
  | closeFd
  -- the port
  | data
  deriving DecidableEq, Repr

/-- Where `read_loop` goes on when `read_exact` returns. -/
def ReadCall.returns : ReadCall → Bool → ReaderPc
  | .header, true => .headerTest
  | .header, false => .exited
  | .refill, true => .headerTest
  | .refill, false => .runTest
  | .payload, true => .callback
  | .payload, false => .exited

def wakePipeCapacity : Nat := 65536

/-- One `::read` of the drain loop. -/
def afterDrain (pipe : Nat) : Nat := pipe - min 16 pipe

def readerStep (a : WakeAction) (s : WakeState) : Option WakeState :=
  match a, s.reader with
  | .testLoop, .loopTest =>
      some { s with reader := if s.readRunning then .readTest .header false else .exited }
  | .testRead, .readTest call filled =>
      -- `total < len && read_running_`, then `is_open()`
      some { s with reader :=
        if !filled && s.readRunning then (if s.isOpen then .poll call else call.returns false)
        else call.returns filled }
  | .pollWake, .poll call => if 0 < s.pipe then some { s with reader := .drain call } else none
  | .pollData, .poll call =>
      if s.pipe = 0 ∧ s.dataReady then some { s with reader := .read call } else none
  | .pollError, .poll call => some { s with reader := call.returns false, ioError := true }
  | .drainWake, .drain call =>
      if 0 < s.pipe then some { s with pipe := afterDrain s.pipe }
      else some { s with reader := call.returns false }
  | .readBytes filled more, .read call =>
      some { s with reader := .readTest call filled, dataReady := more }
  | .readAgain, .read call => some { s with reader := .readTest call false }
  | .readEnd, .read call => some { s with reader := call.returns false, ioError := true }
  | .testHeader found, .headerTest =>
      some { s with reader :=
        if s.readRunning then (if found then .runTest else .readTest .refill false) else .runTest }
  | .testRun, .runTest =>
      some { s with reader := if s.readRunning then .readTest .payload false else .exited }
  | .callback, .callback => some { s with reader := .loopTest }
  | _, _ => none

def writerStep (a : WakeAction) (s : WakeState) : Option WakeState :=
  match a, s.writer with
  | .beginWrite, .idle => some { s with writer := .writeTest }
  | .testWrite done, .writeTest =>
      some { s with writer := if !done && s.isOpen then .poll else .idle }
  | .writerPollWake, .poll => if 0 < s.pipe then some { s with writer := .drain } else none
  | .writerPollReady, .poll => if s.pipe = 0 then some { s with writer := .write } else none
  | .writerPollFail, .poll => some { s with writer := .idle }
  | .writerDrain, .drain =>
      if 0 < s.pipe then some { s with pipe := afterDrain s.pipe }
      else some { s with writer := .idle }
  | .writeBytes failed, .write => some { s with writer := if failed then .idle else .writeTest }
  | _, _ => none

def controllerStep (a : WakeAction) (s : WakeState) : Option WakeState :=
  match a, s.controller with
  | .startRead, .idle =>
      if !s.isOpen || s.readRunning then some s
      else some { s with
        readRunning := true
        controller := .spawning
        stopIssued := false
        ioError := false }
  | .spawn, .spawning => some { s with reader := .loopTest, controller := .idle }
  | .stopRead, .idle =>
      if !s.readRunning then some s
      else some { s with readRunning := false, controller := .waking false, stopIssued := true }
  | .close, .idle =>
      if !s.isOpen then some s
      else if !s.readRunning then some { s with controller := .closing }
      else some { s with readRunning := false, controller := .waking true, stopIssued := true }
  | .wake, .waking closing =>
      some { s with
        pipe := if s.pipe < wakePipeCapacity then s.pipe + 1 else s.pipe
        controller := .joining closing }
  | .join, .joining closing =>
      if s.reader = .exited ∨ s.reader = .notStarted then
        some { s with
          reader := .notStarted
          controller := if closing then .closing else .idle }
      else none
  | .closeFd, .closing => some { s with isOpen := false, controller := .idle }
  | _, _ => none

def wakeStep (a : WakeAction) (s : WakeState) : Option WakeState :=
  match a with
  | .testLoop | .testRead | .pollWake | .pollData | .pollError | .drainWake | .readBytes _ _
  | .readAgain | .readEnd | .testHeader _ | .testRun | .callback => readerStep a s
  | .beginWrite | .testWrite _ | .writerPollWake | .writerPollReady | .writerPollFail
  | .writerDrain | .writeBytes _ => writerStep a s
  | .startRead | .spawn | .stopRead | .close | .wake | .join | .closeFd => controllerStep a s
  | .data => some { s with dataReady := true }

end GnssParser
