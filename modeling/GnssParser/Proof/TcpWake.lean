import GnssParser.Proof.TcpClient

/-!
# Waking the TCP reader

Which runs keep the wake-up byte of `close` for the wait it is meant for.
-/

namespace GnssParser
open TcpState

/-- The reader comes to its wait from here without a test of the flags. -/
def TcpReaderPc.unchecked : TcpReaderPc → Bool
  | .opening | .connecting | .onConnected | .callTest _ | .callPoll _ | .callIo _ | .parseResponse
  | .notifying | .poll => true
  | _ => false

/-- No wait but the last of a reader that tests the flags takes the wake-up byte. -/
def WakeKept (a : TcpAction) (s : TcpState) : Prop :=
  NoRestart a s ∧ (a = .callWake → s.reader ≠ .callPoll (.delimiter false)) ∧
    (a = .writerDrain → s.reader.unchecked = false)

/-- The controller joins a reader that waits on an empty pipe. -/
def TcpState.LostWakeup (s : TcpState) : Prop :=
  s.controller = .joining ∧ s.reader = .poll ∧ s.woken = false

/-- A step of the reader as far as the wake pipe is concerned. -/
structure TcpReaderWakes (s s' : TcpState) : Prop where
  pipe : s'.wakePipe = s.wakePipe ∨ s'.wakePipe = s.wakePipe.map afterDrain
  first : s'.reader ≠ .callDrain (.delimiter false)
  unchecked : s'.reader.unchecked → s.readRunning ∨ s.reader.unchecked ∧ s'.wakePipe = s.wakePipe

theorem HandshakeCall.fails_unchecked (call : HandshakeCall) (h : call ≠ .delimiter false) :
    call.fails.unchecked = false := by
  unfold HandshakeCall.fails
  split <;> simp_all [TcpReaderPc.unchecked]

theorem HandshakeCall.fails_first (call : HandshakeCall) : call.fails ≠ .callDrain (.delimiter false) := by
  unfold HandshakeCall.fails
  split <;> simp

theorem HandshakeCall.succeeds_first (call : HandshakeCall) :
    call.succeeds ≠ .callDrain (.delimiter false) := by
  unfold HandshakeCall.succeeds
  split <;> simp

theorem connectStep_wakes {s s' : TcpState} {a : TcpAction} (taken : connectStep a s = some s')
    (first : s.reader ≠ .callDrain (.delimiter false))
    (kept : a = .callWake → s.reader ≠ .callPoll (.delimiter false)) : TcpReaderWakes s s' := by
  have goto {pc : TcpReaderPc} {t : TcpState} (same : t.wakePipe = s.wakePipe)
      (other : pc ≠ .callDrain (.delimiter false)) (checked : s.reader.unchecked ∨ pc.unchecked = false) :
      TcpReaderWakes s (t.goto pc) := by
    refine ⟨.inl same, other, fun unchecked => ?_⟩
    rcases checked with before | after
    · exact .inr ⟨before, same⟩
    · rw [goto_reader, after] at unchecked
      cases unchecked
  unfold connectStep at taken
  split at taken
  case h_1 here =>
    cases taken
    split_ifs with running
    · exact ⟨.inl rfl, (by simp), fun _ => .inl running⟩
    · exact ⟨.inl rfl, (by simp), fun _ => .inl running⟩
    · exact goto rfl (by simp) (.inr rfl)
  case h_2 here =>
    cases taken
    exact ⟨.inl rfl, by rw [here]; simp, fun _ => .inr ⟨by rw [here]; rfl, rfl⟩⟩
  case h_3 here =>
    cases taken
    exact goto (sameThreads_openSocket s).wakePipe (by simp) (.inl (by rw [here]; rfl))
  case h_6 here =>
    cases taken
    exact goto (sameThreads_closeFd s).wakePipe (by simp) (.inl (by rw [here]; rfl))
  case h_9 found full call here =>
    cases taken
    split_ifs
    · exact goto rfl call.succeeds_first (.inl (by rw [here]; rfl))
    · exact goto rfl call.fails_first (.inl (by rw [here]; rfl))
    · exact goto rfl (by simp) (.inl (by rw [here]; rfl))
  case h_10 call here =>
    split at taken
    · cases taken
      refine goto rfl ?_ (.inr rfl)
      intro same
      cases same
      exact kept rfl here
    · cases taken
  case h_11 call here =>
    split at taken
    · cases taken
    · cases taken
      exact goto rfl (by simp) (.inl (by rw [here]; rfl))
  case h_12 call here =>
    cases taken
    exact goto rfl call.fails_first (.inl (by rw [here]; rfl))
  case h_13 call here =>
    split at taken
    · cases taken
      refine ⟨.inr rfl, first, fun unchecked => ?_⟩
      rw [TcpState.drained, here] at unchecked
      cases unchecked
    · cases taken
      refine goto rfl call.fails_first (.inr (call.fails_unchecked ?_))
      rintro rfl
      exact first here
  case h_14 finished call here =>
    cases taken
    split_ifs
    · exact goto rfl (by simp) (.inl (by rw [here]; rfl))
    · exact goto rfl call.fails_first (.inl (by rw [here]; rfl))
  case h_15 accepted payload here =>
    split at taken
    · cases taken
      split
      · exact goto rfl (by simp) (.inl (by rw [here]; rfl))
      · exact goto (sameThreads_dispatch s payload).wakePipe (by simp) (.inl (by rw [here]; rfl))
    · cases taken
      exact goto rfl (by simp) (.inr rfl)
  case h_16 here =>
    cases taken
    exact goto (sameThreads_notify s true).wakePipe (by simp) (.inl (by rw [here]; rfl))
  case h_17 here =>
    cases taken
    exact goto (sameThreads_closeSocket s).wakePipe (by simp) (.inr rfl)
  case h_18 here =>
    cases taken
    split_ifs
    · exact goto rfl (by simp) (.inr rfl)
    · exact goto rfl (by simp) (.inr rfl)
  case h_19 => cases taken
  all_goals
    rename_i here
    cases taken
    exact goto rfl (by simp) (.inl (by rw [here]; rfl))

theorem readStep_wakes {s s' : TcpState} {a : TcpAction} (taken : readStep a s = some s')
    (first : s.reader ≠ .callDrain (.delimiter false)) : TcpReaderWakes s s' := by
  have goto {pc : TcpReaderPc} {t : TcpState} (same : t.wakePipe = s.wakePipe)
      (other : pc ≠ .callDrain (.delimiter false)) (checked : pc.unchecked = false) :
      TcpReaderWakes s (t.goto pc) := by
    refine ⟨.inl same, other, fun unchecked => ?_⟩
    rw [goto_reader, checked] at unchecked
    cases unchecked
  have drains {pc : TcpReaderPc} (here : s.reader = pc) (checked : pc.unchecked = false) :
      TcpReaderWakes s s.drained := by
    refine ⟨.inr rfl, first, fun unchecked => ?_⟩
    rw [TcpState.drained, here, checked] at unchecked
    cases unchecked
  unfold readStep at taken
  split at taken
  case h_1 here =>
    split at taken
    · cases taken; exact goto rfl (by simp) rfl
    · cases taken
  case h_2 here =>
    split at taken
    · cases taken
    · cases taken; exact goto rfl (by simp) rfl
  case h_4 here =>
    split at taken
    · cases taken; exact drains here rfl
    · cases taken; exact goto rfl (by simp) rfl
  case h_5 here =>
    cases taken
    split_ifs <;> exact goto rfl (by simp) rfl
  case h_6 bytes here =>
    cases taken
    exact goto (sameThreads_dispatch s bytes).wakePipe (by simp) rfl
  case h_9 here =>
    cases taken
    exact goto (sameThreads_closeSocket s).wakePipe (by simp) rfl
  case h_10 here =>
    split at taken
    · cases taken; exact goto rfl (by simp) rfl
    · cases taken
  case h_11 here =>
    split at taken
    · cases taken
    · cases taken; exact goto rfl (by simp) rfl
  case h_13 here =>
    split at taken
    · cases taken; exact drains here rfl
    · cases taken; exact goto rfl (by simp) rfl
  case h_14 here =>
    cases taken
    split_ifs <;> exact goto rfl (by simp) rfl
  case h_15 here =>
    cases taken
    exact goto (sameThreads_closeSocket s).wakePipe (by simp) rfl
  case h_16 => cases taken
  all_goals
    cases taken
    exact goto rfl (by simp) rfl

structure TcpWakeInv (s : TcpState) : Prop extends TcpInv s where
  shutting : s.controller ≠ .idle → s.controller ≠ .spawning → s.shuttingDown
  unused : s.shuttingDown = false → s.wakePipe = some 0
  dry : s.readRunning → s.wakePipe = some 0
  pipe : s.controller ≠ .idle → s.wakePipe ≠ none
  first : s.reader ≠ .callDrain (.delimiter false)
  woken : s.controller = .joining → s.reader.unchecked → s.woken

theorem tcpWakeInv_init : TcpWakeInv (.init true) where
  toTcpInv := tcpInv_init true
  shutting := by simp [TcpState.init]
  unused _ := rfl
  dry := nofun
  pipe := by simp [TcpState.init]
  first := nofun
  woken := nofun

theorem drained_dry {pipe : Option Nat} (dry : pipe = some 0) : pipe.map afterDrain = some 0 := by
  rw [dry]
  rfl

section
variable {s s' : TcpState} {a : TcpAction} (inv : TcpWakeInv s)
include inv

theorem TcpWakeInv.reader (moves : TcpReaderMoves s s') (wakes : TcpReaderWakes s s') :
    TcpWakeInv s' where
  toTcpInv := inv.toTcpInv.reader moves
  shutting := by
    rw [moves.controller, moves.shuttingDown]
    exact inv.shutting
  unused going := by
    rw [moves.shuttingDown] at going
    rcases wakes.pipe with same | drained
    · rw [same, inv.unused going]
    · rw [drained, drained_dry (inv.unused going)]
  dry running := by
    rw [moves.readRunning] at running
    rcases wakes.pipe with same | drained
    · rw [same, inv.dry running]
    · rw [drained, drained_dry (inv.dry running)]
  pipe busy := by
    rw [moves.controller] at busy
    rcases wakes.pipe with same | drained
    · rw [same]
      exact inv.pipe busy
    · rw [drained, ne_eq, Option.map_eq_none_iff]
      exact inv.pipe busy
  first := wakes.first
  woken joining unchecked := by
    rw [moves.controller] at joining
    rcases wakes.unchecked unchecked with running | ⟨before, same⟩
    · rw [inv.stopped (.inr (.inl joining))] at running
      cases running
    · rw [TcpState.woken, same]
      exact inv.woken joining before

theorem TcpWakeInv.controller (allowed : NoRestart a s) (taken : tcpControllerStep a s = some s') :
    TcpWakeInv s' := by
  have next := inv.toTcpInv.controller allowed taken
  unfold tcpControllerStep at taken
  split at taken
  case h_1 idle =>
    split at taken
    · cases taken; exact inv
    · cases taken
      have dry := inv.unused (allowed rfl)
      exact ⟨next, fun _ spawning => absurd rfl spawning, inv.unused, fun _ => dry,
        fun _ => by rw [dry]; nofun, inv.first, nofun⟩
  case h_2 spawning =>
    cases taken
    exact ⟨next, fun busy => absurd rfl busy, inv.unused, inv.dry, fun busy => absurd rfl busy, nofun,
      nofun⟩
  case h_3 idle =>
    split at taken
    · cases taken; exact inv
    · rename_i going
      cases taken
      have dry := inv.unused (by simpa using going)
      exact ⟨next, fun _ _ => rfl, nofun, inv.dry, fun _ => by rw [dry]; nofun, inv.first, nofun⟩
  case h_4 stopTest =>
    have shutting := inv.shutting (by rw [stopTest]; nofun) (by rw [stopTest]; nofun)
    have pipe := inv.pipe (by rw [stopTest]; nofun)
    split at taken
    · cases taken
      exact ⟨next, fun _ _ => shutting, inv.unused, nofun, fun _ => pipe, inv.first, nofun⟩
    · cases taken
      exact ⟨next, fun _ _ => shutting, inv.unused, inv.dry, fun _ => pipe, inv.first, nofun⟩
  case h_5 waking =>
    have shutting := inv.shutting (by rw [waking]; nofun) (by rw [waking]; nofun)
    have stopped := inv.stopped (.inl waking)
    obtain ⟨queued, found⟩ := Option.ne_none_iff_exists'.mp (inv.pipe (by rw [waking]; nofun))
    have capacity : 0 < wakePipeCapacity := by decide
    cases taken
    refine ⟨next, fun _ _ => shutting, fun going => ?_, fun running => ?_, fun _ => ?_, inv.first,
      fun _ _ => ?_⟩
    · rw [show s.shuttingDown = false from going] at shutting
      cases shutting
    · rw [show s.readRunning = true from running] at stopped
      cases stopped
    · simp [found]
    · simp only [TcpState.woken, found, Option.map_some, Option.any_some, decide_eq_true_eq]
      split <;> omega
  case h_6 joining =>
    have shutting := inv.shutting (by rw [joining]; nofun) (by rw [joining]; nofun)
    have pipe := inv.pipe (by rw [joining]; nofun)
    split at taken
    · cases taken
      exact ⟨next, fun _ _ => shutting, inv.unused, inv.dry, fun _ => pipe, nofun, nofun⟩
    · cases taken
  case h_7 closing =>
    have shutting := inv.shutting (by rw [closing]; nofun) (by rw [closing]; nofun)
    have stopped := inv.stopped (.inr (.inr closing))
    have same := sameThreads_closeSocket s
    cases taken
    refine ⟨next, fun busy => absurd rfl busy, fun going => ?_, fun running => ?_,
      fun busy => absurd rfl busy, ?_, nofun⟩
    · rw [← same.shuttingDown, show s.closeSocket.shuttingDown = false from going] at shutting
      cases shutting
    · rw [← same.readRunning, show s.closeSocket.readRunning = true from running] at stopped
      cases stopped
    · rw [closeSocket_reader]
      exact inv.first
  case h_8 => cases taken

theorem TcpWakeInv.drained (kept : s.reader.unchecked = false) : TcpWakeInv s.drained where
  toTcpInv := ⟨inv.linked.congr rfl rfl rfl rfl, inv.knows, inv.still, inv.spawning, inv.stopped,
    inv.closed⟩
  shutting := inv.shutting
  unused going := drained_dry (inv.unused going)
  dry running := drained_dry (inv.dry running)
  pipe busy none := inv.pipe busy (Option.map_eq_none_iff.mp none)
  first := inv.first
  woken _ unchecked := by
    rw [show s.reader.unchecked = true from unchecked] at kept
    cases kept

theorem TcpWakeInv.step (allowed : WakeKept a s) (taken : tcpStep a s = some s') : TcpWakeInv s' := by
  have connect (taken : connectStep a s = some s') : TcpWakeInv s' :=
    inv.reader (connectStep_moves inv.linked inv.knows taken)
      (connectStep_wakes taken inv.first allowed.2.1)
  have read (taken : readStep a s = some s') : TcpWakeInv s' :=
    inv.reader (readStep_moves inv.linked inv.knows taken) (readStep_wakes taken inv.first)
  have controller (taken : tcpControllerStep a s = some s') : TcpWakeInv s' :=
    inv.controller allowed.1 taken
  cases a with
  | writerDrain =>
      simp only [tcpStep] at taken
      split at taken
      · cases taken
        exact inv.drained (allowed.2.2 rfl)
      · cases taken
  | testLoop | socketFails | socketOpens | connects | refused | noAddress | acceptAtOnce
  | beginHandshake | testCall | callWake | callReady | callFails | drainCall | callDone
  | parse | notify | reject | testRetry => exact connect taken
  | pollWake | pollData | pollError | drainPoll | testLost | received | recvAgain | recvEnd
  | closeLost | sleepWake | sleepTimeout | sleepError | drainSleep | testSleep
  | closeLast => exact read taken
  | startRead | spawn | close | testStop | wake | join | finish => exact controller taken

end

/-- `close` never waits for a reader that nothing wakes, unless another wait took the byte. -/
theorem close_wakes_reader {s : TcpState}
    (reached : Transition.Reaches tcpStep WakeKept (.init true) s) : ¬ s.LostWakeup := by
  have inv : TcpWakeInv s :=
    reached.invariant TcpWakeInv tcpWakeInv_init fun _ _ _ inv allowed taken =>
      inv.step allowed taken
  rintro ⟨joining, polling, asleep⟩
  have woken := inv.woken joining (by rw [polling]; rfl)
  rw [asleep] at woken
  cases woken

/-- A client that is closed while it waits for data. -/
def closedWaiting : List TcpAction :=
  [.spawn, .testLoop, .socketOpens, .connects, .acceptAtOnce, .notify, .close, .testStop, .wake]

theorem close_wakes_reader_once :
    ∃ s : TcpState, s.controller = .joining ∧ s.reader = .poll ∧ ¬ s.LostWakeup := by
  have started : Transition.Reaches tcpStep WakeKept (.init true) _ :=
    Transition.Reaches.refl.step (a := .startRead) ⟨fun _ => rfl, (by simp), (by simp)⟩ rfl
  have admitted : ∀ a ∈ closedWaiting, ∀ s, WakeKept a s := by
    simp [closedWaiting, WakeKept, NoRestart]
  have reached := started.run_admitted admitted rfl
  exact ⟨_, rfl, rfl, close_wakes_reader reached⟩

/-- The first wait for the end of the headers takes the byte, the second one succeeds. -/
def wakeTakenByHandshake : List TcpAction :=
  [.startRead, .spawn, .testLoop, .socketOpens, .connects, .beginHandshake, .testCall false false,
    .callReady, .callDone true, .testCall true false, .testCall false false, .close, .testStop, .wake,
    .callWake, .drainCall, .drainCall, .testCall false false, .callReady, .callDone true,
    .testCall true false, .parse true [], .notify]

theorem close_blocks_after_handshake :
    ∃ s, Transition.run tcpStep wakeTakenByHandshake (.init true) = some s ∧ s.LostWakeup :=
  ⟨_, rfl, rfl, rfl, rfl⟩

end GnssParser
