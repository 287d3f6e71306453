import GnssParser.Model.WakePipe

/-!
# The TCP client

The threads around a `TcpClient`: the reader that connects, reads and reconnects, and the controller
that starts and closes it. `NtripClient::onConnected` is the handshake of the reader. An action is
one access to what the threads share or one answer of the network.
-/

namespace GnssParser

/-! ## What an observer sees -/

/-- Sockets are numbered in the order of their opening. -/
inductive TcpEvent where
  | opened (socket : Nat)
  | closed (socket : Nat)
  /-- the callbacks for the connection state -/
  | notified (connected : Bool)
  /-- the data callbacks -/
  | data (bytes : List UInt8)
  deriving DecidableEq, Repr

/-! ## The threads -/

/-- The waits of the handshake: `writeAll` and the two calls of `readUntil`. -/
inductive HandshakeCall where
  | request
  | delimiter (second : Bool)
  deriving DecidableEq, Repr

inductive TcpReaderPc where
  | notStarted
  | loopTest
  -- `connect`
  | opening
  | connecting
  | onConnected
  | callTest (call : HandshakeCall)
  | callPoll (call : HandshakeCall)
  | callDrain (call : HandshakeCall)
  | callIo (call : HandshakeCall)
  | parseResponse
  | notifying
  | rejecting
  | retryTest
  -- the open connection
  | poll
  | drain
  | lostTest
  | recv
  | closing
  -- `sleepInterruptibly`
  | sleepPoll
  | sleepDrain
  | sleepTest
  | exiting
  | exited
  deriving DecidableEq, Repr

inductive TcpControllerPc where
  | idle
  | spawning
  | stopTest
  | waking
  | joining
  | closing
  deriving DecidableEq, Repr

structure TcpState where
  socketFd : Option Nat
  /-- The bytes queued in the wake pipe, `none` without one. -/
  wakePipe : Option Nat
  readRunning : Bool
  shuttingDown : Bool
  connectionActive : Bool
  reader : TcpReaderPc
  controller : TcpControllerPc
  /-- The sockets opened so far. -/
  opened : Nat
  /-- What happened so far, the first event first. -/
  trace : List TcpEvent
  deriving DecidableEq, Repr

namespace TcpState

/-- A new client; the pipe may not be available. -/
def init (hasPipe : Bool) : TcpState where
  socketFd := none
  wakePipe := if hasPipe then some 0 else none
  readRunning := false
  shuttingDown := false
  connectionActive := false
  reader := .notStarted
  controller := .idle
  opened := 0
  trace := []

variable (s : TcpState)

def emit (event : TcpEvent) : TcpState := { s with trace := s.trace ++ [event] }

def notifyConnectionState (connected : Bool) : TcpState :=
  if s.connectionActive = connected then s
  else { s.emit (.notified connected) with connectionActive := connected }

def openSocket : TcpState :=
  { s.emit (.opened s.opened) with socketFd := some s.opened, opened := s.opened + 1 }

/-- `::close` of the socket, if there is one. -/
def closeFd : TcpState :=
  match s.socketFd with
  | some fd => { s.emit (.closed fd) with socketFd := none }
  | none => s

def closeSocket : TcpState :=
  if s.socketFd.isSome then (s.notifyConnectionState false).closeFd else s

def dispatchDataCallbacks (bytes : List UInt8) : TcpState := s.emit (.data bytes)

def goto (reader : TcpReaderPc) : TcpState := { s with reader }

/-- The pipe has a byte to read. -/
def woken : Bool := s.wakePipe.any (0 < ·)

/-- One `::read` of a drain loop. -/
def drained : TcpState := { s with wakePipe := s.wakePipe.map afterDrain }

/-- `!read_running_ || shutting_down_` -/
def stopped : Bool := !s.readRunning || s.shuttingDown

end TcpState

/-! ## Steps -/

inductive TcpAction where
  -- the reader: `connect`
  | testLoop
  | socketFails
  | socketOpens
  | connects
  | refused
  | noAddress
  | acceptAtOnce
  | beginHandshake
  | testCall (found full : Bool)
  | callWake
  | callReady
  | callFails
  | drainCall
  | callDone (finished : Bool)
  | parse (accepted : Bool) (payload : List UInt8)
  | notify
  | reject
  | testRetry
  -- the reader: the open connection
  | pollWake
  | pollData
  | pollError
  | drainPoll
  | testLost
  | received (bytes : List UInt8)
  | recvAgain
  | recvEnd
  | closeLost
  -- the reader: `sleepInterruptibly`
  | sleepWake
  | sleepTimeout
  | sleepError
  | drainSleep
  | testSleep
  | closeLast
  -- the controller
  | startRead
  | spawn
  | close
  | testStop
  | wake
  | join
  | finish
  -- a thread in `writeAll`
  | writerDrain
  deriving DecidableEq, Repr

/-- Where the reader goes on when a wait of the handshake fails. -/
def HandshakeCall.fails : HandshakeCall → TcpReaderPc
  | .request => .rejecting
  | .delimiter false => .callTest (.delimiter true)
  | .delimiter true => .rejecting

/-- Where the reader goes on when a call of the handshake succeeds. -/
def HandshakeCall.succeeds : HandshakeCall → TcpReaderPc
  | .request => .callTest (.delimiter false)
  | .delimiter _ => .parseResponse

def connectStep (a : TcpAction) (s : TcpState) : Option TcpState :=
  match a, s.reader with
  | .testLoop, .loopTest =>
      some (s.goto (if s.readRunning then (if s.socketFd.isSome then .poll else .opening)
        else .exiting))
  | .socketFails, .opening => some { s with socketFd := none }
  | .socketOpens, .opening => some (s.openSocket.goto .connecting)
  | .noAddress, .opening => some (s.goto .retryTest)
  | .connects, .connecting => some (s.goto .onConnected)
  | .refused, .connecting => some (s.closeFd.goto .opening)
  | .acceptAtOnce, .onConnected => some (s.goto .notifying)
  | .beginHandshake, .onConnected => some (s.goto (.callTest .request))
  | .testCall found full, .callTest call =>
      -- all is sent, or the delimiter is found; no space is left
      some (s.goto (if found then call.succeeds else if full then call.fails else .callPoll call))
  | .callWake, .callPoll call => if s.woken then some (s.goto (.callDrain call)) else none
  | .callReady, .callPoll call => if s.woken then none else some (s.goto (.callIo call))
  | .callFails, .callPoll call => some (s.goto call.fails)
  | .drainCall, .callDrain call =>
      if s.woken then some s.drained else some (s.goto call.fails)
  | .callDone finished, .callIo call =>
      some (s.goto (if finished then .callTest call else call.fails))
  | .parse accepted payload, .parseResponse =>
      if accepted then
        some ((if payload.isEmpty then s else s.dispatchDataCallbacks payload).goto .notifying)
      else some (s.goto .rejecting)
  | .notify, .notifying => some ((s.notifyConnectionState true).goto .poll)
  | .reject, .rejecting => some (s.closeSocket.goto .retryTest)
  | .testRetry, .retryTest => some (s.goto (if s.stopped then .exiting else .sleepPoll))
  | _, _ => none

def readStep (a : TcpAction) (s : TcpState) : Option TcpState :=
  match a, s.reader with
  | .pollWake, .poll => if s.woken then some (s.goto .drain) else none
  | .pollData, .poll => if s.woken then none else some (s.goto .recv)
  | .pollError, .poll => some (s.goto .lostTest)
  | .drainPoll, .drain => if s.woken then some s.drained else some (s.goto .lostTest)
  | .testLost, .lostTest => some (s.goto (if s.stopped then .exiting else .closing))
  | .received bytes, .recv => some ((s.dispatchDataCallbacks bytes).goto .loopTest)
  | .recvAgain, .recv => some (s.goto .loopTest)
  | .recvEnd, .recv => some (s.goto .closing)
  | .closeLost, .closing => some (s.closeSocket.goto .sleepPoll)
  | .sleepWake, .sleepPoll => if s.woken then some (s.goto .sleepDrain) else none
  | .sleepTimeout, .sleepPoll => if s.woken then none else some (s.goto .sleepTest)
  | .sleepError, .sleepPoll => some (s.goto .exiting)
  | .drainSleep, .sleepDrain => if s.woken then some s.drained else some (s.goto .exiting)
  | .testSleep, .sleepTest => some (s.goto (if s.stopped then .exiting else .loopTest))
  | .closeLast, .exiting => some (s.closeSocket.goto .exited)
  | _, _ => none

def tcpControllerStep (a : TcpAction) (s : TcpState) : Option TcpState :=
  match a, s.controller with
  | .startRead, .idle =>
      if s.readRunning then some s else some { s with readRunning := true, controller := .spawning }
  | .spawn, .spawning => some { s with reader := .loopTest, controller := .idle }
  | .close, .idle =>
      if s.shuttingDown then some s else some { s with shuttingDown := true, controller := .stopTest }
  | .testStop, .stopTest =>
      if s.readRunning then some { s with readRunning := false, controller := .waking }
      else some { s with controller := .closing }
  | .wake, .waking =>
      some { s with
        wakePipe := s.wakePipe.map fun queued => if queued < wakePipeCapacity then queued + 1 else queued
        controller := .joining }
  | .join, .joining =>
      if s.reader = .exited ∨ s.reader = .notStarted then
        some { s with reader := .notStarted, controller := .closing }
      else none
  | .finish, .closing => some { s.closeSocket with wakePipe := none, controller := .idle }
  | _, _ => none

def tcpStep (a : TcpAction) (s : TcpState) : Option TcpState :=
  match a with
  | .testLoop | .socketFails | .socketOpens | .connects | .refused | .noAddress | .acceptAtOnce
  | .beginHandshake | .testCall _ _ | .callWake | .callReady | .callFails | .drainCall | .callDone _
  | .parse _ _ | .notify | .reject | .testRetry => connectStep a s
  | .pollWake | .pollData | .pollError | .drainPoll | .testLost | .received _ | .recvAgain | .recvEnd
  | .closeLost | .sleepWake | .sleepTimeout | .sleepError | .drainSleep | .testSleep
  | .closeLast => readStep a s
  | .startRead | .spawn | .close | .testStop | .wake | .join | .finish => tcpControllerStep a s
  | .writerDrain => if s.woken then some s.drained else none

end GnssParser
