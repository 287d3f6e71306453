import GnssParser.Lib.Transition
import GnssParser.Model.TcpClient

/-!
# Sessions of the TCP client

The events of every run form sessions: a socket is opened, announced, withdrawn and closed, and bytes
come from open sockets only.
-/

namespace GnssParser

/-! ## Sessions -/

/-- A connection as an observer knows it: no socket, or one that is announced or not. -/
inductive Link where
  | down
  | up (socket : Nat) (announced : Bool)
  deriving DecidableEq, Repr

def Link.next : TcpEvent → Link → Option Link
  | .opened socket, .down => some (.up socket false)
  | .notified connected, .up socket announced =>
      if announced = connected then none else some (.up socket connected)
  | .data _, .up socket announced => some (.up socket announced)
  | .closed socket, .up current announced =>
      if socket = current ∧ announced = false then some .down else none
  | _, _ => none

/-- The sockets opened in a trace. -/
def openings : List TcpEvent → List Nat
  | [] => []
  | .opened socket :: events => socket :: openings events
  | _ :: events => openings events

theorem openings_append (events more : List TcpEvent) :
    openings (events ++ more) = openings events ++ openings more := by
  induction events with
  | nil => rfl
  | cons event events ih => cases event <;> simp [openings, ih]

namespace TcpState
variable {s : TcpState}

def link (s : TcpState) : Link :=
  match s.socketFd with
  | some socket => .up socket s.connectionActive
  | none => .down

/-- The trace is a sequence of sessions that ends in the state of the client. -/
structure Linked (s : TcpState) : Prop where
  ran : Transition.run Link.next s.trace .down = some s.link
  quiet : s.socketFd = none → s.connectionActive = false
  numbered : openings s.trace = List.range s.opened

theorem Linked.emit (linked : s.Linked) {event : TcpEvent} {link : Link}
    (next : Link.next event s.link = some link) :
    Transition.run Link.next (s.emit event).trace .down = some link := by
  rw [TcpState.emit, Transition.run_concat, linked.ran]
  exact next

theorem Linked.openSocket (linked : s.Linked) (none : s.socketFd = none) : s.openSocket.Linked where
  ran := linked.emit (by simp [link, none, Link.next, linked.quiet none, TcpState.openSocket,
    TcpState.emit])
  quiet := nofun
  numbered := by
    simp [TcpState.openSocket, TcpState.emit, openings_append, openings, linked.numbered,
      List.range_succ]

theorem Linked.closeFd (linked : s.Linked) (quiet : s.connectionActive = false) : s.closeFd.Linked := by
  unfold TcpState.closeFd
  split
  case h_1 fd found =>
    refine ⟨linked.emit ?_, fun _ => quiet, ?_⟩
    · simp [link, found, quiet, Link.next]
    · simp [TcpState.emit, openings_append, openings, linked.numbered]
  case h_2 => exact linked

theorem Linked.notify (linked : s.Linked) (connected : Bool) (some : s.socketFd ≠ none) :
    (s.notifyConnectionState connected).Linked := by
  unfold TcpState.notifyConnectionState
  split
  case isTrue => exact linked
  case isFalse changed =>
    obtain ⟨fd, found⟩ := Option.ne_none_iff_exists'.mp some
    refine ⟨linked.emit ?_, fun none => absurd none some, ?_⟩
    · simp [link, found, Link.next, changed, TcpState.emit]
    · simp [TcpState.emit, openings_append, openings, linked.numbered]

theorem notifyConnectionState_active (connected : Bool) :
    (s.notifyConnectionState connected).connectionActive = connected := by
  unfold TcpState.notifyConnectionState
  split
  case isTrue same => exact same
  case isFalse => rfl

theorem notifyConnectionState_socketFd (connected : Bool) :
    (s.notifyConnectionState connected).socketFd = s.socketFd := by
  unfold TcpState.notifyConnectionState
  split <;> rfl

theorem Linked.closeSocket (linked : s.Linked) : s.closeSocket.Linked := by
  unfold TcpState.closeSocket
  split
  case isTrue some =>
    exact (linked.notify false (Option.isSome_iff_ne_none.mp some)).closeFd
      (notifyConnectionState_active false)
  case isFalse => exact linked

theorem Linked.dispatch (linked : s.Linked) (bytes : List UInt8) (some : s.socketFd ≠ none) :
    (s.dispatchDataCallbacks bytes).Linked := by
  obtain ⟨fd, found⟩ := Option.ne_none_iff_exists'.mp some
  refine ⟨linked.emit ?_, fun none => absurd none some, ?_⟩
  · simp [link, found, Link.next, TcpState.dispatchDataCallbacks, TcpState.emit]
  · simp [TcpState.dispatchDataCallbacks, TcpState.emit, openings_append, openings, linked.numbered]

/-- Only these fields matter for the sessions. -/
theorem Linked.congr {s' : TcpState} (linked : s.Linked) (socketFd : s'.socketFd = s.socketFd)
    (active : s'.connectionActive = s.connectionActive) (opened : s'.opened = s.opened)
    (trace : s'.trace = s.trace) : s'.Linked where
  ran := by rw [trace, linked.ran, link, link, socketFd, active]
  quiet := by rw [socketFd, active]; exact linked.quiet
  numbered := by rw [trace, opened, linked.numbered]

theorem closeFd_socketFd : s.closeFd.socketFd = none := by
  unfold TcpState.closeFd
  split
  case h_1 => rfl
  case h_2 none => exact none

theorem closeSocket_socketFd : s.closeSocket.socketFd = none := by
  unfold TcpState.closeSocket
  split
  case isTrue => exact closeFd_socketFd
  case isFalse none => simpa using none

@[simp] theorem goto_reader (pc : TcpReaderPc) : (s.goto pc).reader = pc := rfl

@[simp] theorem linked_goto (pc : TcpReaderPc) : (s.goto pc).Linked ↔ s.Linked :=
  ⟨fun linked => linked.congr rfl rfl rfl rfl, fun linked => linked.congr rfl rfl rfl rfl⟩

@[simp] theorem linked_drained : s.drained.Linked ↔ s.Linked :=
  ⟨fun linked => linked.congr rfl rfl rfl rfl, fun linked => linked.congr rfl rfl rfl rfl⟩

end TcpState

/-! ## What the threads know -/

/-- What the place of the reader says about the connection. -/
def TcpReaderPc.Knows (s : TcpState) : TcpReaderPc → Prop
  | .notStarted | .opening | .retryTest | .sleepPoll | .sleepDrain | .sleepTest | .exited =>
      s.socketFd = none
  | .connecting | .onConnected | .callTest _ | .callPoll _ | .callDrain _ | .callIo _
  | .parseResponse | .notifying | .rejecting => s.socketFd ≠ none ∧ s.connectionActive = false
  | .poll | .drain | .lostTest | .recv => s.socketFd ≠ none
  | .loopTest | .closing | .exiting => True

/-- A step of the reader leaves the flags of the controller alone and keeps the sessions. -/
structure TcpReaderMoves (s s' : TcpState) : Prop where
  readRunning : s'.readRunning = s.readRunning
  shuttingDown : s'.shuttingDown = s.shuttingDown
  controller : s'.controller = s.controller
  alive : s.reader ≠ .notStarted ∧ s'.reader ≠ .notStarted
  linked : s'.Linked
  knows : s'.reader.Knows s'

/-- An operation on the socket, which leaves what the threads share alone. -/
structure TcpState.SameThreads (s t : TcpState) : Prop where
  readRunning : t.readRunning = s.readRunning
  shuttingDown : t.shuttingDown = s.shuttingDown
  controller : t.controller = s.controller
  wakePipe : t.wakePipe = s.wakePipe

namespace TcpState
variable {s t : TcpState}

theorem SameThreads.refl (s : TcpState) : s.SameThreads s := ⟨rfl, rfl, rfl, rfl⟩

theorem sameThreads_openSocket (s : TcpState) : s.SameThreads s.openSocket := ⟨rfl, rfl, rfl, rfl⟩

theorem sameThreads_dispatch (s : TcpState) (bytes : List UInt8) :
    s.SameThreads (s.dispatchDataCallbacks bytes) := ⟨rfl, rfl, rfl, rfl⟩

theorem sameThreads_notify (s : TcpState) (connected : Bool) :
    s.SameThreads (s.notifyConnectionState connected) := by
  unfold notifyConnectionState
  split <;> exact ⟨rfl, rfl, rfl, rfl⟩

theorem sameThreads_closeFd (s : TcpState) : s.SameThreads s.closeFd := by
  unfold closeFd
  split <;> exact ⟨rfl, rfl, rfl, rfl⟩

theorem sameThreads_closeSocket (s : TcpState) : s.SameThreads s.closeSocket := by
  unfold closeSocket
  split
  case isTrue =>
    obtain ⟨running, shutting, controller, pipe⟩ := sameThreads_notify s false
    obtain ⟨running', shutting', controller', pipe'⟩ :=
      sameThreads_closeFd (s.notifyConnectionState false)
    exact ⟨running'.trans running, shutting'.trans shutting, controller'.trans controller,
      pipe'.trans pipe⟩
  case isFalse => exact .refl s

theorem closeSocket_reader (s : TcpState) : s.closeSocket.reader = s.reader := by
  simp only [closeSocket, closeFd, notifyConnectionState, emit]
  split_ifs <;> first | rfl | (split <;> rfl)

theorem moves_goto (alive : s.reader ≠ .notStarted) (same : s.SameThreads t) (linked : t.Linked)
    {pc : TcpReaderPc} (alive' : pc ≠ .notStarted) (knows : pc.Knows (t.goto pc)) :
    TcpReaderMoves s (t.goto pc) where
  readRunning := same.readRunning
  shuttingDown := same.shuttingDown
  controller := same.controller
  alive := ⟨alive, alive'⟩
  linked := (linked_goto pc).mpr linked
  knows := knows

end TcpState

open TcpState

theorem HandshakeCall.fails_knows {s : TcpState} (call : HandshakeCall)
    (knows : s.socketFd ≠ none ∧ s.connectionActive = false) :
    call.fails ≠ .notStarted ∧ call.fails.Knows s := by
  unfold HandshakeCall.fails
  split <;> exact ⟨nofun, knows⟩

theorem HandshakeCall.succeeds_knows {s : TcpState} (call : HandshakeCall)
    (knows : s.socketFd ≠ none ∧ s.connectionActive = false) :
    call.succeeds ≠ .notStarted ∧ call.succeeds.Knows s := by
  unfold HandshakeCall.succeeds
  split <;> exact ⟨nofun, knows⟩

theorem connectStep_moves {s s' : TcpState} {a : TcpAction} (linked : s.Linked)
    (knows : s.reader.Knows s) (taken : connectStep a s = some s') : TcpReaderMoves s s' := by
  have alive {pc : TcpReaderPc} (here : s.reader = pc) (started : pc ≠ .notStarted) :
      s.reader ≠ .notStarted := here ▸ started
  have stays {pc : TcpReaderPc} (here : s.reader = pc) (started : pc ≠ .notStarted)
      {pc' : TcpReaderPc} (moved : pc' ≠ .notStarted ∧ pc'.Knows s) : TcpReaderMoves s (s.goto pc') :=
    moves_goto (alive here started) (.refl s) linked moved.1 (by cases pc' <;> exact moved.2)
  unfold connectStep at taken
  split at taken
  case h_1 here =>
    cases taken
    split_ifs with running opened
    · exact stays here nofun ⟨nofun, Option.isSome_iff_ne_none.mp opened⟩
    · exact stays here nofun ⟨nofun, by simpa [TcpReaderPc.Knows] using opened⟩
    · exact stays here nofun ⟨nofun, trivial⟩
  case h_2 here =>
    rw [here] at knows
    have same : some { s with socketFd := none } = some (s.goto .opening) := by
      rw [goto, ← here, ← (show s.socketFd = none from knows)]
    rw [same] at taken
    cases taken
    exact stays here nofun ⟨nofun, knows⟩
  case h_3 here =>
    cases taken
    rw [here] at knows
    exact moves_goto (alive here nofun) (sameThreads_openSocket s) (linked.openSocket knows) nofun
      ⟨nofun, linked.quiet knows⟩
  case h_4 here =>
    cases taken
    rw [here] at knows
    exact stays here nofun ⟨nofun, knows⟩
  case h_5 here =>
    cases taken
    rw [here] at knows
    exact stays here nofun ⟨nofun, knows⟩
  case h_6 here =>
    cases taken
    rw [here] at knows
    exact moves_goto (alive here nofun) (sameThreads_closeFd s) (linked.closeFd knows.2) nofun
      closeFd_socketFd
  case h_7 here =>
    cases taken
    rw [here] at knows
    exact stays here nofun ⟨nofun, knows⟩
  case h_8 here =>
    cases taken
    rw [here] at knows
    exact stays here nofun ⟨nofun, knows⟩
  case h_9 found full call here =>
    cases taken
    rw [here] at knows
    split_ifs
    · exact stays here nofun (call.succeeds_knows knows)
    · exact stays here nofun (call.fails_knows knows)
    · exact stays here nofun ⟨nofun, knows⟩
  case h_10 call here =>
    rw [here] at knows
    split at taken
    · cases taken
      exact stays here nofun ⟨nofun, knows⟩
    · cases taken
  case h_11 call here =>
    rw [here] at knows
    split at taken
    · cases taken
    · cases taken
      exact stays here nofun ⟨nofun, knows⟩
  case h_12 call here =>
    cases taken
    rw [here] at knows
    exact stays here nofun (call.fails_knows knows)
  case h_13 call here =>
    have kept := knows
    rw [here] at knows
    split at taken
    · cases taken
      exact ⟨rfl, rfl, rfl, ⟨alive here nofun, alive here nofun⟩, linked_drained.mpr linked, by
        rw [TcpState.drained, here]; exact knows⟩
    · cases taken
      exact stays here nofun (call.fails_knows knows)
  case h_14 finished call here =>
    cases taken
    rw [here] at knows
    split_ifs
    · exact stays here nofun ⟨nofun, knows⟩
    · exact stays here nofun (call.fails_knows knows)
  case h_15 accepted payload here =>
    rw [here] at knows
    split at taken
    · cases taken
      split
      · exact stays here nofun ⟨nofun, knows⟩
      · exact moves_goto (alive here nofun) (sameThreads_dispatch s payload)
          (linked.dispatch payload knows.1) nofun knows
    · cases taken
      exact stays here nofun ⟨nofun, knows⟩
  case h_16 here =>
    cases taken
    rw [here] at knows
    refine moves_goto (alive here nofun) (sameThreads_notify s true) (linked.notify true knows.1) nofun ?_
    exact (notifyConnectionState_socketFd true).trans_ne knows.1
  case h_17 here =>
    cases taken
    exact moves_goto (alive here nofun) (sameThreads_closeSocket s) linked.closeSocket nofun
      closeSocket_socketFd
  case h_18 here =>
    cases taken
    rw [here] at knows
    split_ifs
    · exact stays here nofun ⟨nofun, trivial⟩
    · exact stays here nofun ⟨nofun, knows⟩
  case h_19 => cases taken

theorem readStep_moves {s s' : TcpState} {a : TcpAction} (linked : s.Linked)
    (knows : s.reader.Knows s) (taken : readStep a s = some s') : TcpReaderMoves s s' := by
  have alive {pc : TcpReaderPc} (here : s.reader = pc) (started : pc ≠ .notStarted) :
      s.reader ≠ .notStarted := here ▸ started
  have stays {pc : TcpReaderPc} (here : s.reader = pc) (started : pc ≠ .notStarted)
      {pc' : TcpReaderPc} (moved : pc' ≠ .notStarted ∧ pc'.Knows s) : TcpReaderMoves s (s.goto pc') :=
    moves_goto (alive here started) (.refl s) linked moved.1 (by cases pc' <;> exact moved.2)
  have drains {pc : TcpReaderPc} (here : s.reader = pc) (started : pc ≠ .notStarted)
      (kept : pc.Knows s.drained) : TcpReaderMoves s s.drained :=
    ⟨rfl, rfl, rfl, ⟨alive here started, alive here started⟩, linked_drained.mpr linked, here ▸ kept⟩
  unfold readStep at taken
  split at taken
  case h_1 here =>
    rw [here] at knows
    split at taken
    · cases taken
      exact stays here nofun ⟨nofun, knows⟩
    · cases taken
  case h_2 here =>
    rw [here] at knows
    split at taken
    · cases taken
    · cases taken
      exact stays here nofun ⟨nofun, knows⟩
  case h_3 here =>
    cases taken
    rw [here] at knows
    exact stays here nofun ⟨nofun, knows⟩
  case h_4 here =>
    rw [here] at knows
    split at taken
    · cases taken
      exact drains here nofun knows
    · cases taken
      exact stays here nofun ⟨nofun, knows⟩
  case h_5 here =>
    cases taken
    split_ifs
    · exact stays here nofun ⟨nofun, trivial⟩
    · exact stays here nofun ⟨nofun, trivial⟩
  case h_6 bytes here =>
    cases taken
    rw [here] at knows
    exact moves_goto (alive here nofun) (sameThreads_dispatch s bytes) (linked.dispatch bytes knows)
      nofun trivial
  case h_7 here =>
    cases taken
    exact stays here nofun ⟨nofun, trivial⟩
  case h_8 here =>
    cases taken
    exact stays here nofun ⟨nofun, trivial⟩
  case h_9 here =>
    cases taken
    exact moves_goto (alive here nofun) (sameThreads_closeSocket s) linked.closeSocket nofun
      closeSocket_socketFd
  case h_10 here =>
    rw [here] at knows
    split at taken
    · cases taken
      exact stays here nofun ⟨nofun, knows⟩
    · cases taken
  case h_11 here =>
    rw [here] at knows
    split at taken
    · cases taken
    · cases taken
      exact stays here nofun ⟨nofun, knows⟩
  case h_12 here =>
    cases taken
    exact stays here nofun ⟨nofun, trivial⟩
  case h_13 here =>
    rw [here] at knows
    split at taken
    · cases taken
      exact drains here nofun knows
    · cases taken
      exact stays here nofun ⟨nofun, trivial⟩
  case h_14 here =>
    cases taken
    split_ifs
    · exact stays here nofun ⟨nofun, trivial⟩
    · exact stays here nofun ⟨nofun, trivial⟩
  case h_15 here =>
    cases taken
    exact moves_goto (alive here nofun) (sameThreads_closeSocket s) linked.closeSocket nofun
      closeSocket_socketFd
  case h_16 => cases taken

/-! ## The controller -/

/-- A closed client is not started again. -/
def NoRestart (a : TcpAction) (s : TcpState) : Prop := a = .startRead → s.shuttingDown = false

structure TcpInv (s : TcpState) : Prop where
  linked : s.Linked
  knows : s.reader.Knows s
  still : s.readRunning = false → s.controller ≠ .waking → s.controller ≠ .joining →
    s.reader = .notStarted
  spawning : s.controller = .spawning →
    s.readRunning ∧ s.reader = .notStarted ∧ s.shuttingDown = false
  stopped : s.controller = .waking ∨ s.controller = .joining ∨ s.controller = .closing →
    s.readRunning = false
  closed : s.shuttingDown → s.controller = .idle → s.readRunning = false

theorem tcpInv_init (hasPipe : Bool) : TcpInv (.init hasPipe) where
  linked := ⟨rfl, fun _ => rfl, rfl⟩
  knows := rfl
  still _ _ _ := rfl
  spawning := nofun
  stopped := by simp [TcpState.init]
  closed := nofun

section
variable {s s' : TcpState} {a : TcpAction} (inv : TcpInv s)
include inv

theorem TcpInv.reader (moves : TcpReaderMoves s s') : TcpInv s' where
  linked := moves.linked
  knows := moves.knows
  still stopped waking joining := by
    rw [moves.readRunning] at stopped
    rw [moves.controller] at waking joining
    exact absurd (inv.still stopped waking joining) moves.alive.1
  spawning spawning := by
    rw [moves.controller] at spawning
    exact absurd (inv.spawning spawning).2.1 moves.alive.1
  stopped at_stop := by
    rw [moves.controller] at at_stop
    rw [moves.readRunning]
    exact inv.stopped at_stop
  closed shutting idle := by
    rw [moves.shuttingDown] at shutting
    rw [moves.controller] at idle
    rw [moves.readRunning]
    exact inv.closed shutting idle

theorem TcpInv.join (joining : s.controller = .joining)
    (left : s.reader = .exited ∨ s.reader = .notStarted) :
    TcpInv { s with reader := .notStarted, controller := .closing } where
  linked := inv.linked.congr rfl rfl rfl rfl
  knows := by
    have knows := inv.knows
    rcases left with exited | none
    · rw [exited] at knows
      exact knows
    · rw [none] at knows
      exact knows
  still _ _ _ := rfl
  spawning := nofun
  stopped _ := inv.stopped (.inr (.inl joining))
  closed _ := nofun

theorem TcpInv.finish (closing : s.controller = .closing) :
    TcpInv { s.closeSocket with wakePipe := none, controller := .idle } := by
  have stopped := inv.stopped (.inr (.inr closing))
  have none := inv.still stopped (by rw [closing]; nofun) (by rw [closing]; nofun)
  have same := sameThreads_closeSocket s
  have reader := s.closeSocket_reader
  exact {
    linked := inv.linked.closeSocket.congr rfl rfl rfl rfl
    knows := by
      rw [reader, none]
      exact closeSocket_socketFd
    still := fun _ _ _ => reader.trans none
    spawning := nofun
    stopped := by simp
    closed := fun _ _ => same.readRunning.trans stopped }

theorem TcpInv.controller (allowed : NoRestart a s) (taken : tcpControllerStep a s = some s') :
    TcpInv s' := by
  unfold tcpControllerStep at taken
  split at taken
  case h_1 idle =>
    split at taken
    · cases taken; exact inv
    · rename_i stopped
      cases taken
      have none := inv.still (by simpa using stopped) (by rw [idle]; nofun) (by rw [idle]; nofun)
      exact ⟨inv.linked.congr rfl rfl rfl rfl, inv.knows, nofun, fun _ => ⟨rfl, none, allowed rfl⟩,
        by simp, nofun⟩
  case h_2 spawning =>
    cases taken
    obtain ⟨running, none, going⟩ := inv.spawning spawning
    exact ⟨inv.linked.congr rfl rfl rfl rfl, trivial, fun stopped => by simp [running] at stopped,
      nofun, by simp, fun shutting => by simp [going] at shutting⟩
  case h_3 idle =>
    split at taken
    · cases taken; exact inv
    · cases taken
      exact ⟨inv.linked.congr rfl rfl rfl rfl, inv.knows, fun stopped _ _ => inv.still stopped
        (by rw [idle]; nofun) (by rw [idle]; nofun), nofun, by simp, nofun⟩
  case h_4 stopTest =>
    split at taken
    · cases taken
      exact ⟨inv.linked.congr rfl rfl rfl rfl, inv.knows, fun _ waking => absurd rfl waking, nofun,
        fun _ => rfl, nofun⟩
    · rename_i stopped
      cases taken
      have stopped : s.readRunning = false := by simpa using stopped
      exact ⟨inv.linked.congr rfl rfl rfl rfl, inv.knows, fun _ _ _ => inv.still stopped
        (by rw [stopTest]; nofun) (by rw [stopTest]; nofun), nofun, fun _ => stopped, nofun⟩
  case h_5 waking =>
    cases taken
    exact ⟨inv.linked.congr rfl rfl rfl rfl, inv.knows, fun _ _ joining => absurd rfl joining, nofun,
      fun _ => inv.stopped (.inl waking), nofun⟩
  case h_6 joining =>
    split at taken
    · rename_i left
      cases taken
      exact inv.join joining left
    · cases taken
  case h_7 closing =>
    cases taken
    exact inv.finish closing
  case h_8 => cases taken

theorem TcpInv.step (allowed : NoRestart a s) (taken : tcpStep a s = some s') : TcpInv s' := by
  have connect (taken : connectStep a s = some s') : TcpInv s' :=
    inv.reader (connectStep_moves inv.linked inv.knows taken)
  have read (taken : readStep a s = some s') : TcpInv s' :=
    inv.reader (readStep_moves inv.linked inv.knows taken)
  have controller (taken : tcpControllerStep a s = some s') : TcpInv s' := inv.controller allowed taken
  cases a with
  | writerDrain =>
      simp only [tcpStep] at taken
      split at taken
      · cases taken
        exact ⟨inv.linked.congr rfl rfl rfl rfl, inv.knows, inv.still, inv.spawning, inv.stopped,
          inv.closed⟩
      · cases taken
  | testLoop | socketFails | socketOpens | connects | refused | noAddress | acceptAtOnce
  | beginHandshake | testCall | callWake | callReady | callFails | drainCall | callDone
  | parse | notify | reject | testRetry => exact connect taken
  | pollWake | pollData | pollError | drainPoll | testLost | received | recvAgain | recvEnd
  | closeLost | sleepWake | sleepTimeout | sleepError | drainSleep | testSleep
  | closeLast => exact read taken
  | startRead | spawn | close | testStop | wake | join | finish => exact controller taken

end

/-! ## Runs -/

theorem TcpInv.link_down {s : TcpState} (inv : TcpInv s) (none : s.reader = .notStarted) :
    s.link = .down := by
  have knows := inv.knows
  rw [none] at knows
  rw [link, show s.socketFd = .none from knows]

/-- Every run is a sequence of sessions, each socket of it new; once `close` has returned the
connection is down and nothing more happens. -/
theorem tcpClient_sessions {hasPipe : Bool} {s : TcpState}
    (reached : Transition.Reaches tcpStep NoRestart (.init hasPipe) s) :
    Transition.run Link.next s.trace .down = some s.link ∧
      openings s.trace = List.range s.opened ∧
      (s.shuttingDown → s.controller = .idle →
        s.link = .down ∧ ∀ a s', NoRestart a s → tcpStep a s = some s' → s'.trace = s.trace) := by
  have inv : TcpInv s :=
    reached.invariant TcpInv (tcpInv_init hasPipe) fun _ _ _ inv allowed taken =>
      inv.step allowed taken
  refine ⟨inv.linked.ran, inv.linked.numbered, fun shutting idle => ?_⟩
  have none := inv.still (inv.closed shutting idle) (by rw [idle]; nofun) (by rw [idle]; nofun)
  refine ⟨inv.link_down none, fun a s' allowed taken => ?_⟩
  have connect (taken : connectStep a s = some s') : s'.trace = s.trace :=
    absurd none (connectStep_moves inv.linked inv.knows taken).alive.1
  have read (taken : readStep a s = some s') : s'.trace = s.trace :=
    absurd none (readStep_moves inv.linked inv.knows taken).alive.1
  cases a with
  | startRead =>
      have going := allowed rfl
      rw [shutting] at going
      cases going
  | close =>
      simp only [tcpStep, tcpControllerStep, idle, shutting, if_true] at taken
      cases taken
      rfl
  | spawn | testStop | wake | join | finish => simp [tcpStep, tcpControllerStep, idle] at taken
  | writerDrain =>
      simp only [tcpStep] at taken
      split at taken
      · cases taken; rfl
      · cases taken
  | testLoop | socketFails | socketOpens | connects | refused | noAddress | acceptAtOnce
  | beginHandshake | testCall | callWake | callReady | callFails | drainCall | callDone
  | parse | notify | reject | testRetry => exact connect taken
  | pollWake | pollData | pollError | drainPoll | testLost | received | recvAgain | recvEnd
  | closeLost | sleepWake | sleepTimeout | sleepError | drainSleep | testSleep
  | closeLast => exact read taken

/-- A session that receives one byte, and its end by `close`. -/
def closedSession : List TcpAction :=
  [.spawn, .testLoop, .socketOpens, .connects, .acceptAtOnce, .notify, .pollData, .received [0xD3],
    .testLoop, .close, .testStop, .wake, .pollWake, .drainPoll, .drainPoll, .testLost, .closeLast, .join,
    .finish]

theorem tcpClient_sessions_once :
    ∃ s, s.trace = [.opened 0, .notified true, .data [0xD3], .notified false, .closed 0] ∧
      s.shuttingDown ∧ s.controller = .idle ∧
      Transition.run Link.next s.trace .down = some s.link ∧
      openings s.trace = List.range s.opened ∧
      (s.shuttingDown → s.controller = .idle →
        s.link = .down ∧ ∀ a s', NoRestart a s → tcpStep a s = some s' → s'.trace = s.trace) := by
  have started : Transition.Reaches tcpStep NoRestart (.init true) _ :=
    Transition.Reaches.refl.step (a := .startRead) (fun _ => rfl) rfl
  have admitted : ∀ a ∈ closedSession, ∀ s, NoRestart a s := by simp [closedSession, NoRestart]
  have reached := started.run_admitted admitted rfl
  exact ⟨_, rfl, rfl, rfl, tcpClient_sessions reached⟩

end GnssParser
