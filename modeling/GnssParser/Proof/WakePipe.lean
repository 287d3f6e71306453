import GnssParser.Lib.Transition
import GnssParser.Model.WakePipe

/-!
# Stopping the reader

Which runs keep wake-up bytes for the reader they are meant for.
-/

namespace GnssParser

/-! ## What is wanted -/

/-- A reader that left its loop did so for a stop, an error or the end of the file. -/
def LeftForCause (s : WakeState) : Prop := s.reader = .exited → s.stopIssued ∨ s.ioError

/-- The controller joins a reader that nothing wakes. -/
def LostWakeup (s : WakeState) : Prop :=
  s.readRunning = false ∧ (∃ closing, s.controller = .joining closing) ∧ s.pipe = 0 ∧
    (∃ call, s.reader = .poll call) ∧ s.dataReady = false

/-- Readers start on an empty pipe, and no writer takes bytes out of it while the reader polls. -/
def WakeAllowed (a : WakeAction) (s : WakeState) : Prop :=
  (a = .startRead → s.isOpen → s.readRunning = false → s.pipe = 0) ∧
  (a = .writerDrain → 0 < s.pipe → ∀ call, s.reader ≠ .poll call)

/-! ## The invariant -/

structure WakeInv (s : WakeState) : Prop where
  alive_open : s.reader ≠ .notStarted → s.isOpen
  idle_started : s.controller = .idle → s.readRunning = false → s.reader = .notStarted
  closing_stopped : s.controller = .closing → s.reader = .notStarted ∧ s.readRunning = false
  spawning_running : s.controller = .spawning → s.isOpen ∧ s.readRunning
  waking_stopped : ∀ closing, s.controller = .waking closing →
    s.readRunning = false ∧ s.stopIssued
  joining_stopped : ∀ closing, s.controller = .joining closing →
    s.readRunning = false ∧ s.stopIssued
  running_dry : s.readRunning → s.pipe = 0
  drain_stopped : ∀ call, s.reader = .drain call → s.readRunning = false
  exited_cause : s.reader = .exited → s.readRunning = false ∨ s.ioError
  poll_woken : ∀ closing call, s.controller = .joining closing → s.reader = .poll call → 0 < s.pipe

theorem wakeInv_init : WakeInv .init := by
  constructor <;> simp [WakeState.init]

/-! ## What the parties can do -/

/-- A step of the reader: it enters `poll` only while running and leaves its loop only for the
cleared flag, an error or a drained wake-up byte. -/
structure ReaderMoves (s s' : WakeState) : Prop where
  readRunning : s'.readRunning = s.readRunning
  isOpen : s'.isOpen = s.isOpen
  controller : s'.controller = s.controller
  stopIssued : s'.stopIssued = s.stopIssued
  ioError : s.ioError → s'.ioError
  pipe : s'.pipe = s.pipe ∨ ∃ call, s.reader = .drain call ∧ s'.reader = .drain call
  alive : s.reader ≠ .notStarted ∧ s'.reader ≠ .notStarted
  poll : ∀ call, s'.reader = .poll call → s.readRunning
  drain : ∀ call, s'.reader = .drain call → 0 < s.pipe ∨ ∃ call, s.reader = .drain call
  exited : s'.reader = .exited →
    s.readRunning = false ∨ s'.ioError ∨ s.isOpen = false ∨ ∃ call, s.reader = .drain call

theorem returns_cases (call : ReadCall) (ok : Bool) :
    call.returns ok ≠ .notStarted ∧ (∀ c, call.returns ok ≠ .poll c) ∧
      (∀ c, call.returns ok ≠ .drain c) ∧ (call.returns ok = .exited → ok = false) := by
  cases call <;> cases ok <;> simp [ReadCall.returns]

theorem readerStep_moves {s s' : WakeState} {a : WakeAction} (taken : readerStep a s = some s') :
    ReaderMoves s s' := by
  unfold readerStep at taken
  split at taken
  case h_13 => cases taken
  all_goals
    constructor <;> grind [returns_cases]

theorem writerStep_moves {s s' : WakeState} {a : WakeAction} (taken : writerStep a s = some s') :
    s' = { s with writer := s'.writer } ∨
      (a = .writerDrain ∧ 0 < s.pipe ∧ s' = { s with pipe := afterDrain s.pipe }) := by
  unfold writerStep at taken
  split at taken <;> grind

theorem wakeInv_reader {s s' : WakeState} (inv : WakeInv s) (moves : ReaderMoves s s') :
    WakeInv s' where
  alive_open _ := by
    rw [moves.isOpen]
    exact inv.alive_open moves.alive.1
  idle_started idle stopped := by
    rw [moves.controller] at idle
    rw [moves.readRunning] at stopped
    exact absurd (inv.idle_started idle stopped) moves.alive.1
  closing_stopped closing := by
    rw [moves.controller] at closing
    exact absurd (inv.closing_stopped closing).1 moves.alive.1
  spawning_running spawning := by
    rw [moves.controller] at spawning
    rw [moves.isOpen, moves.readRunning]
    exact inv.spawning_running spawning
  waking_stopped closing waking := by
    rw [moves.controller] at waking
    rw [moves.readRunning, moves.stopIssued]
    exact inv.waking_stopped closing waking
  joining_stopped closing joining := by
    rw [moves.controller] at joining
    rw [moves.readRunning, moves.stopIssued]
    exact inv.joining_stopped closing joining
  running_dry running := by
    rw [moves.readRunning] at running
    rcases moves.pipe with same | ⟨call, draining, _⟩
    · rw [same, inv.running_dry running]
    · rw [inv.drain_stopped call draining] at running
      cases running
  drain_stopped call draining := by
    rw [moves.readRunning]
    rcases moves.drain call draining with full | ⟨before, draining⟩
    · by_contra running
      have := inv.running_dry (by simpa using running)
      omega
    · exact inv.drain_stopped before draining
  exited_cause exited := by
    rw [moves.readRunning]
    rcases moves.exited exited with stopped | failed | closed | ⟨call, draining⟩
    · exact .inl stopped
    · exact .inr failed
    · rw [inv.alive_open moves.alive.1] at closed
      cases closed
    · exact .inl (inv.drain_stopped call draining)
  poll_woken closing call joining polling := by
    rw [moves.controller] at joining
    have running := moves.poll call polling
    rw [(inv.joining_stopped closing joining).1] at running
    cases running

theorem wakeInv_writer {s s' : WakeState} {a : WakeAction} (inv : WakeInv s)
    (allowed : WakeAllowed a s) (taken : writerStep a s = some s') : WakeInv s' := by
  rcases writerStep_moves taken with same | ⟨rfl, full, rfl⟩
  · rw [same]
    exact ⟨inv.alive_open, inv.idle_started, inv.closing_stopped, inv.spawning_running,
      inv.waking_stopped, inv.joining_stopped, inv.running_dry, inv.drain_stopped,
      inv.exited_cause, inv.poll_woken⟩
  · refine { inv with running_dry := fun running => ?_, poll_woken := fun closing call _ polling => ?_ }
    · have := inv.running_dry running
      omega
    · exact absurd polling (allowed.2 rfl full call)

section
variable {s : WakeState} (inv : WakeInv s)
include inv

theorem wakeInv_startRead (idle : s.controller = .idle) (opened : s.isOpen)
    (stopped : s.readRunning = false) (dry : s.pipe = 0) :
    WakeInv { s with
      readRunning := true, controller := .spawning, stopIssued := false, ioError := false } := by
  have none := inv.idle_started idle stopped
  exact {
    alive_open := inv.alive_open
    idle_started := nofun
    closing_stopped := nofun
    spawning_running := fun _ => ⟨opened, rfl⟩
    waking_stopped := nofun
    joining_stopped := nofun
    running_dry := fun _ => dry
    drain_stopped := fun call draining => by rw [none] at draining; cases draining
    exited_cause := fun exited => by rw [none] at exited; cases exited
    poll_woken := nofun }

theorem wakeInv_spawn (spawning : s.controller = .spawning) :
    WakeInv { s with reader := .loopTest, controller := .idle } := by
  obtain ⟨opened, running⟩ := inv.spawning_running spawning
  exact {
    alive_open := fun _ => opened
    idle_started := fun _ stopped => by rw [running] at stopped; cases stopped
    closing_stopped := nofun
    spawning_running := nofun
    waking_stopped := nofun
    joining_stopped := nofun
    running_dry := inv.running_dry
    drain_stopped := nofun
    exited_cause := nofun
    poll_woken := nofun }

theorem wakeInv_stop (closing : Bool) :
    WakeInv { s with readRunning := false, controller := .waking closing, stopIssued := true } where
  alive_open := inv.alive_open
  idle_started := nofun
  closing_stopped := nofun
  spawning_running := nofun
  waking_stopped _ _ := ⟨rfl, rfl⟩
  joining_stopped := nofun
  running_dry := nofun
  drain_stopped _ _ := rfl
  exited_cause _ := .inl rfl
  poll_woken := nofun

theorem wakeInv_close (idle : s.controller = .idle) (stopped : s.readRunning = false) :
    WakeInv { s with controller := .closing } where
  alive_open := inv.alive_open
  idle_started := nofun
  closing_stopped _ := ⟨inv.idle_started idle stopped, stopped⟩
  spawning_running := nofun
  waking_stopped := nofun
  joining_stopped := nofun
  running_dry := inv.running_dry
  drain_stopped := inv.drain_stopped
  exited_cause := inv.exited_cause
  poll_woken := nofun

theorem wakeInv_wake {closing : Bool} (waking : s.controller = .waking closing) :
    WakeInv { s with
      pipe := if s.pipe < wakePipeCapacity then s.pipe + 1 else s.pipe
      controller := .joining closing } := by
  obtain ⟨stopped, issued⟩ := inv.waking_stopped closing waking
  have capacity : 0 < wakePipeCapacity := by decide
  exact {
    alive_open := inv.alive_open
    idle_started := nofun
    closing_stopped := nofun
    spawning_running := nofun
    waking_stopped := nofun
    joining_stopped := fun _ _ => ⟨stopped, issued⟩
    running_dry := fun running => by rw [stopped] at running; cases running
    drain_stopped := fun _ _ => stopped
    exited_cause := inv.exited_cause
    poll_woken := fun _ _ _ _ => by
      dsimp only
      split <;> omega }

theorem wakeInv_join {closing : Bool} (joining : s.controller = .joining closing) :
    WakeInv { s with
      reader := .notStarted, controller := if closing then .closing else .idle } := by
  obtain ⟨stopped, issued⟩ := inv.joining_stopped closing joining
  exact {
    alive_open := fun alive => absurd rfl alive
    idle_started := fun _ _ => rfl
    closing_stopped := fun _ => ⟨rfl, stopped⟩
    spawning_running := fun spawning => by cases closing <;> cases spawning
    waking_stopped := fun _ waking => by cases closing <;> cases waking
    joining_stopped := fun _ joining => by cases closing <;> cases joining
    running_dry := inv.running_dry
    drain_stopped := nofun
    exited_cause := nofun
    poll_woken := fun _ _ _ polling => by cases polling }

theorem wakeInv_closeFd (closing : s.controller = .closing) :
    WakeInv { s with isOpen := false, controller := .idle } := by
  obtain ⟨none, stopped⟩ := inv.closing_stopped closing
  exact {
    alive_open := fun alive => absurd none alive
    idle_started := fun _ _ => none
    closing_stopped := nofun
    spawning_running := nofun
    waking_stopped := nofun
    joining_stopped := nofun
    running_dry := inv.running_dry
    drain_stopped := inv.drain_stopped
    exited_cause := inv.exited_cause
    poll_woken := nofun }

end

theorem wakeInv_controller {s s' : WakeState} {a : WakeAction} (inv : WakeInv s)
    (allowed : WakeAllowed a s) (taken : controllerStep a s = some s') : WakeInv s' := by
  unfold controllerStep at taken
  split at taken
  case h_1 idle =>
    split at taken
    · cases taken; exact inv
    · rename_i ready
      have ready : s.isOpen ∧ s.readRunning = false := by simpa using ready
      cases taken
      exact wakeInv_startRead inv idle ready.1 ready.2 (allowed.1 rfl ready.1 ready.2)
  case h_2 spawning =>
    cases taken
    exact wakeInv_spawn inv spawning
  case h_3 idle =>
    split at taken
    · cases taken; exact inv
    · cases taken; exact wakeInv_stop inv false
  case h_4 idle =>
    split at taken
    · cases taken; exact inv
    · split at taken
      · rename_i stopped
        cases taken
        exact wakeInv_close inv idle (by simpa using stopped)
      · cases taken; exact wakeInv_stop inv true
  case h_5 waking =>
    cases taken
    exact wakeInv_wake inv waking
  case h_6 joining =>
    split at taken
    · cases taken; exact wakeInv_join inv joining
    · cases taken
  case h_7 closing =>
    cases taken
    exact wakeInv_closeFd inv closing
  case h_8 => cases taken

theorem wakeInv_step {s s' : WakeState} {a : WakeAction} (inv : WakeInv s)
    (allowed : WakeAllowed a s) (taken : wakeStep a s = some s') : WakeInv s' := by
  have reader (taken : readerStep a s = some s') : WakeInv s' :=
    wakeInv_reader inv (readerStep_moves taken)
  have writer (taken : writerStep a s = some s') : WakeInv s' := wakeInv_writer inv allowed taken
  have controller (taken : controllerStep a s = some s') : WakeInv s' :=
    wakeInv_controller inv allowed taken
  cases a with
  | data =>
      cases taken
      exact ⟨inv.alive_open, inv.idle_started, inv.closing_stopped, inv.spawning_running,
        inv.waking_stopped, inv.joining_stopped, inv.running_dry, inv.drain_stopped,
        inv.exited_cause, inv.poll_woken⟩
  | testLoop | testRead | pollWake | pollData | pollError | drainWake | readBytes | readAgain
  | readEnd | testHeader | testRun | callback => exact reader taken
  | beginWrite | testWrite | writerPollWake | writerPollReady | writerPollFail | writerDrain
  | writeBytes => exact writer taken
  | startRead | spawn | stopRead | close | wake | join | closeFd => exact controller taken

/-! ## Runs -/

theorem WakeInv.leftForCause {s : WakeState} (inv : WakeInv s) : LeftForCause s := by
  intro exited
  rcases inv.exited_cause exited with stopped | failed
  · -- a cleared flag with a thread is a stop in progress
    left
    cases controller : s.controller with
    | idle => rw [inv.idle_started controller stopped] at exited; cases exited
    | spawning => rw [(inv.spawning_running controller).2] at stopped; cases stopped
    | waking closing => exact (inv.waking_stopped closing controller).2
    | joining closing => exact (inv.joining_stopped closing controller).2
    | closing => rw [(inv.closing_stopped controller).1] at exited; cases exited
  · exact .inr failed

theorem WakeInv.not_lostWakeup {s : WakeState} (inv : WakeInv s) : ¬ LostWakeup s := by
  rintro ⟨_, ⟨closing, joining⟩, dry, ⟨call, polling⟩, _⟩
  have woken := inv.poll_woken closing call joining polling
  omega

/-- In a run that starts readers on an empty pipe, and whose writers take no bytes out of it while
the reader polls, a stop wakes its own reader only. -/
theorem stop_wakes_own_reader {s : WakeState}
    (reached : Transition.Reaches wakeStep WakeAllowed .init s) : LeftForCause s ∧ ¬ LostWakeup s := by
  have inv : WakeInv s :=
    reached.invariant WakeInv wakeInv_init fun _ _ _ inv allowed taken =>
      wakeInv_step inv allowed taken
  exact ⟨inv.leftForCause, inv.not_lostWakeup⟩

/-- A reader that sees the cleared flag. -/
theorem stop_wakes_own_reader_once :
    ∃ s, s.reader = .exited ∧ LeftForCause s ∧ ¬ LostWakeup s := by
  have started : Transition.Reaches wakeStep WakeAllowed .init _ :=
    (Transition.Reaches.refl.step (a := .startRead) ⟨fun _ _ _ => rfl, nofun⟩ rfl).step
      (a := .spawn) ⟨nofun, nofun⟩ rfl
  have stopped := (started.step (a := .stopRead) ⟨nofun, nofun⟩ rfl).step
    (a := .testLoop) ⟨nofun, nofun⟩ rfl
  exact ⟨_, rfl, stop_wakes_own_reader stopped⟩

/-! ## Stale and stolen wake-up bytes -/

/-- The reader sees the cleared flag before the wake-up byte, which stays for the next reader. -/
def staleWakeup : List WakeAction :=
  [.startRead, .spawn, .stopRead, .testLoop, .wake, .join, .startRead, .spawn, .testLoop, .testRead,
    .pollWake, .drainWake, .drainWake]

/-- A writer polls the pipe as well and takes the byte first. -/
def stolenWakeup : List WakeAction :=
  [.startRead, .spawn, .testLoop, .testRead, .stopRead, .wake, .beginWrite, .testWrite false,
    .writerPollWake, .writerDrain]

theorem stop_loses_readers :
    ¬ ∀ s, Transition.Reaches wakeStep (fun _ _ => True) .init s →
      LeftForCause s ∧ ¬ LostWakeup s := by
  intro wakes
  have stale : ∃ s, Transition.run wakeStep staleWakeup .init = some s ∧
      s.reader = .exited ∧ s.stopIssued = false ∧ s.ioError = false := ⟨_, rfl, rfl, rfl, rfl⟩
  obtain ⟨s, ran, exited, stop, error⟩ := stale
  rcases (wakes s (Transition.Reaches.run .refl ran)).1 exited with cause | cause
  · rw [stop] at cause; cases cause
  · rw [error] at cause; cases cause

theorem stop_blocks_controller :
    ∃ s, Transition.run wakeStep stolenWakeup .init = some s ∧ LostWakeup s :=
  ⟨_, rfl, rfl, ⟨false, rfl⟩, rfl, ⟨.header, rfl⟩, rfl⟩

end GnssParser
