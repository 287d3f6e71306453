import Mathlib.Tactic

/-!
# Writers

Any number of threads in `TcpClient::writeAll` or `SerialHandler::write_all`, which share
`write_mutex_` and a descriptor that other threads open and close.
-/

namespace GnssParser

inductive WritePc where
  /-- waiting for `write_mutex_` -/
  | lock
  | test
  | poll
  | send
  deriving DecidableEq, Repr

/-- A call in progress; `total` bytes are written. -/
structure WriteCall where
  data : List UInt8
  total : Nat
  pc : WritePc
  deriving DecidableEq, Repr

/-- A call that has returned. -/
structure Written where
  thread : Nat
  data : List UInt8
  total : Nat
  result : Bool
  deriving DecidableEq, Repr

structure WritersState where
  isOpen : Bool
  /-- The thread that holds `write_mutex_`. -/
  holder : Option Nat
  calls : Nat → Option WriteCall
  /-- The calls that have returned, in the order they took the mutex. -/
  written : List Written
  /-- All bytes given to `send` or `::write`. -/
  sent : List UInt8

def WritersState.init : WritersState where
  isOpen := true
  holder := none
  calls := fun _ => none
  written := []
  sent := []

inductive WriteAction where
  | begin (thread : Nat) (data : List UInt8)
  | acquire (thread : Nat)
  | test (thread : Nat)
  | pollReady (thread : Nat)
  | pollFails (thread : Nat)
  | send (thread : Nat) (count : Nat)
  | sendAgain (thread : Nat)
  | sendFails (thread : Nat)
  /-- the descriptor is opened or closed -/
  | setOpen (isOpen : Bool)
  deriving DecidableEq, Repr

namespace WritersState
variable (s : WritersState)

def setCall (thread : Nat) (call : Option WriteCall) : WritersState :=
  { s with calls := Function.update s.calls thread call }

/-- The call returns and the mutex is released. -/
def finish (thread : Nat) (call : WriteCall) (result : Bool) : WritersState :=
  { s.setCall thread none with
    holder := none
    written := s.written ++ [⟨thread, call.data, call.total, result⟩] }

end WritersState

def writeStep (a : WriteAction) (s : WritersState) : Option WritersState :=
  match a with
  | .begin thread data =>
      if (s.calls thread).isNone then some (s.setCall thread (some ⟨data, 0, .lock⟩)) else none
  | .acquire thread => do
      let call ← s.calls thread
      guard (call.pc = .lock ∧ s.holder = none)
      some { s.setCall thread (some { call with pc := .test }) with holder := some thread }
  | .test thread => do
      let call ← s.calls thread
      guard (call.pc = .test)
      if call.total < call.data.length ∧ s.isOpen then
        some (s.setCall thread (some { call with pc := .poll }))
      else some (s.finish thread call (call.total = call.data.length))
  | .pollReady thread => do
      let call ← s.calls thread
      guard (call.pc = .poll)
      some (s.setCall thread (some { call with pc := .send }))
  | .pollFails thread => do
      let call ← s.calls thread
      guard (call.pc = .poll)
      some (s.finish thread call false)
  | .send thread count => do
      let call ← s.calls thread
      guard (call.pc = .send ∧ 0 < count ∧ count ≤ call.data.length - call.total)
      some { s.setCall thread (some { call with total := call.total + count, pc := .test }) with
        sent := s.sent ++ (call.data.drop call.total).take count }
  | .sendAgain thread => do
      let call ← s.calls thread
      guard (call.pc = .send)
      some (s.setCall thread (some { call with pc := .test }))
  | .sendFails thread => do
      let call ← s.calls thread
      guard (call.pc = .send)
      some (s.finish thread call false)
  | .setOpen isOpen => some { s with isOpen }

end GnssParser
