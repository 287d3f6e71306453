import GnssParser.Lib.Separation
import GnssParser.Lib.Transition
import GnssParser.Model.DriverManager
import GnssParser.Proof.Gga
import GnssParser.Proof.GlonassNull
import GnssParser.Proof.RtcmFraming

/-!
# Runs of the driver

However the threads of the driver interleave, every pipeline does what it does alone, and the timer
sends the solution that was the latest one when it looked.
-/

namespace GnssParser

/-! ## What a trace says of a pipeline -/

def pvts : List Publication → List PVTSolution :=
  List.filterMap fun
    | .pvt pvt => some pvt
    | _ => none

namespace DriverEvent

def messages : List DriverEvent → List (List UInt8) :=
  List.filterMap fun
    | .message data => some data
    | _ => none

def publications : List DriverEvent → List Publication :=
  List.filterMap fun
    | .published p => some p
    | _ => none

def latestPvts : List DriverEvent → List PVTSolution :=
  List.filterMap fun
    | .latestPvt pvt => some pvt
    | _ => none

def chunks : List DriverEvent → List (List UInt8) :=
  List.filterMap fun
    | .chunk data => some data
    | _ => none

def rtcmMsgs : List DriverEvent → List RtcmMsg :=
  List.filterMap fun
    | .rtcm msg => some msg
    | _ => none

/-- What the receiver gets. -/
def corrections : List DriverEvent → List (List UInt8) :=
  List.filterMap fun
    | .receiver data => some data
    | _ => none

/-- Of the timer. -/
def ofTimer : DriverEvent → Bool
  | .snapshot _ | .skipped | .caster _ _ => true
  | _ => false

def isSnapshot : DriverEvent → Bool
  | .snapshot _ => true
  | _ => false

def isSkipped : DriverEvent → Bool
  | .skipped => true
  | _ => false

def isSent : DriverEvent → Bool
  | .caster _ sent => sent
  | _ => false

def isFailed : DriverEvent → Bool
  | .caster _ sent => !sent
  | _ => false

end DriverEvent

open DriverEvent

/-! ## The reader of the serial port -/

structure SerialInv (handler : UbloxRosHandler) (s : DriverState) : Prop where
  processed : ∃ outputs, Separation.trace (processData (some handler)) .init (messages s.trace) =
      .ok (outputs, s.processor) ∧
    publications s.trace ++ s.publications = outputs.flatten
  /-- A called solution is published next. -/
  called : s.called = true → ∃ pvt rest, s.publications = .pvt pvt :: rest
  callbacks : latestPvts s.trace =
    pvts (publications s.trace ++ if s.called then s.publications.take 1 else [])
  latest : s.latestPvt = (latestPvts s.trace).getLast?

variable {handler : UbloxRosHandler} {s s' : DriverState} {a : DriverAction}

theorem SerialInv.processData {data : List UInt8} {next : List Publication} {processor : Processor}
    (inv : SerialInv handler s) (idle : s.publications = [])
    (ran : processData (some handler) s.processor data = .ok (next, processor)) :
    SerialInv handler { s.emit (.message data) with processor, publications := next } := by
  obtain ⟨outputs, processed, published⟩ := inv.processed
  have quiet : s.called = false := by
    rw [Bool.eq_false_iff]
    intro called
    obtain ⟨pvt, rest, found⟩ := inv.called called
    rw [idle] at found
    cases found
  refine ⟨⟨outputs ++ [next], ?_, ?_⟩, fun called => ?_, ?_, ?_⟩
  · have more := Separation.trace_concat processed ran
    simpa [DriverState.emit, messages] using more
  · rw [idle, List.append_nil] at published
    simp [DriverState.emit, publications, ← published]
  · simp [DriverState.emit, quiet] at called
  · have callbacks := inv.callbacks
    simpa [DriverState.emit, latestPvts, publications, quiet] using callbacks
  · have latest := inv.latest
    simpa [DriverState.emit, latestPvts] using latest

theorem serialStep_keeps (inv : SerialInv handler s) (taken : serialStep handler s a = some s') :
    SerialInv handler s' := by
  cases a with
  | processData data =>
      rw [serialStep] at taken
      split at taken
      case h_1 next processor idle ran =>
        cases taken
        exact inv.processData idle ran
      case h_2 => cases taken
  | callback =>
      rw [serialStep] at taken
      split at taken
      case h_1 pvt rest found quiet =>
        cases taken
        have callbacks := inv.callbacks
        refine ⟨?_, fun _ => ⟨pvt, rest, found⟩, ?_, ?_⟩
        · simpa [DriverState.emit, messages, publications] using inv.processed
        · simp only [quiet, Bool.false_eq_true, if_false, List.append_nil] at callbacks
          have before : latestPvts (s.trace ++ [.latestPvt pvt]) = latestPvts s.trace ++ [pvt] := by
            simp [latestPvts]
          simp [DriverState.emit, before, callbacks, found, pvts, publications]
        · simp [DriverState.emit, latestPvts]
      case h_2 => cases taken
  | publish =>
      have made : ∀ p rest, s.publications = p :: rest →
          (s.called = false → ∀ pvt, p ≠ .pvt pvt) →
          SerialInv handler
            { s.emit (.published p) with publications := rest, called := false } := by
        intro p rest found fresh
        obtain ⟨outputs, processed, published⟩ := inv.processed
        refine ⟨⟨outputs, ?_, ?_⟩, fun called => (by cases called), ?_, ?_⟩
        · simpa [DriverState.emit, messages] using processed
        · simpa [DriverState.emit, publications, found] using published
        · have callbacks := inv.callbacks
          cases called : s.called with
          | true => simpa [DriverState.emit, latestPvts, publications, called, found] using callbacks
          | false =>
              have other : pvts [p] = [] := by
                cases p with
                | pvt pvt => exact absurd rfl (fresh called pvt)
                | _ => rfl
              have split : pvts (publications s.trace ++ [p]) =
                  pvts (publications s.trace) ++ pvts [p] := List.filterMap_append ..
              have after : publications (s.trace ++ [.published p]) = publications s.trace ++ [p] := by
                simp [publications]
              rw [called] at callbacks
              simp only [Bool.false_eq_true, if_false, List.append_nil] at callbacks
              simp only [DriverState.emit, Bool.false_eq_true, if_false, List.append_nil, after, split,
                other, ← callbacks]
              simp [latestPvts]
        · simpa [DriverState.emit, latestPvts] using inv.latest
      rw [serialStep] at taken
      split at taken
      case h_1 => cases taken
      case h_2 p rest found other =>
        cases taken
        exact made p rest found fun quiet pvt same => other pvt quiet same
      case h_3 => cases taken
  | _ => cases taken

/-- The events of a step of another thread. -/
structure NotSerial (s s' : DriverState) (events : List DriverEvent) : Prop where
  trace : s'.trace = s.trace ++ events
  messages : messages events = []
  publications : publications events = []
  latestPvts : latestPvts events = []
  state : s'.processor = s.processor ∧ s'.publications = s.publications ∧ s'.called = s.called ∧
    s'.latestPvt = s.latestPvt

theorem SerialInv.frame {events : List DriverEvent} (inv : SerialInv handler s)
    (other : NotSerial s s' events) : SerialInv handler s' := by
  obtain ⟨processor, pending, called, latest⟩ := other.state
  have messages : messages s'.trace = messages s.trace := by
    rw [other.trace, DriverEvent.messages, List.filterMap_append, ← DriverEvent.messages,
      other.messages, List.append_nil]
  have publications : publications s'.trace = publications s.trace := by
    rw [other.trace, DriverEvent.publications, List.filterMap_append, ← DriverEvent.publications,
      other.publications, List.append_nil]
  have latestPvts : latestPvts s'.trace = latestPvts s.trace := by
    rw [other.trace, DriverEvent.latestPvts, List.filterMap_append, ← DriverEvent.latestPvts,
      other.latestPvts, List.append_nil]
  constructor
  case processed =>
    rw [messages, publications, processor, pending]
    exact inv.processed
  case called =>
    rw [called, pending]
    exact inv.called
  case callbacks =>
    rw [latestPvts, publications, called, pending]
    exact inv.callbacks
  case latest =>
    rw [latest, latestPvts]
    exact inv.latest

/-! ## The reader of the correction stream -/

theorem rtcmPublished_append (bytes more : List UInt8) :
    rtcmPublished (bytes ++ more) =
      rtcmPublished bytes ++ rtcmPublished (rtcmUnscanned bytes ++ more) := by
  have together := rtcmScanner.scan_append 0 bytes more
  have moved := rtcmScanner.scan_data (0 + (bytes.length - (rtcmScanner.scan 0 bytes).2.length)) 0
    ((rtcmScanner.scan 0 bytes).2 ++ more)
  have published := congrArg (List.map rtcmMsg) moved.1
  simp only [List.map_map] at published
  rw [rtcmPublished, together, List.map_append]
  exact congrArg (rtcmPublished bytes ++ ·) published

theorem rtcmUnscanned_append (bytes more : List UInt8) :
    rtcmUnscanned (bytes ++ more) = rtcmUnscanned (rtcmUnscanned bytes ++ more) := by
  rw [rtcmUnscanned, rtcmScanner.scan_append 0 bytes more]
  exact (rtcmScanner.scan_data _ 0 _).2

structure RtcmInv (s : DriverState) : Prop where
  published : rtcmMsgs s.trace ++ s.frames = rtcmPublished (chunks s.trace).flatten
  unscanned : s.rtcmLog.rtcmLogBuffer = rtcmUnscanned (chunks s.trace).flatten
  relayed : corrections s.trace ++ s.chunk.toList = chunks s.trace
  idle : s.chunk = none → s.frames = []

theorem RtcmInv.logRtcmFrames {data : List UInt8} {frames : List RtcmMsg} {rtcmLog : RtcmLog}
    (inv : RtcmInv s) (idle : s.chunk = none)
    (ran : logRtcmFrames true data s.rtcmLog = .ok (some (frames, rtcmLog))) :
    RtcmInv { s.emit (.chunk data) with rtcmLog, frames, chunk := some data } := by
  have waiting : rtcmLook s.rtcmLog.rtcmLogBuffer = .wait := by
    rw [inv.unscanned]
    exact (rtcmScanner.scan_rest 0 _).2
  obtain ⟨next, logged, buffer, -⟩ := logRtcmFrames_ok true data s.rtcmLog waiting
  rw [ran] at logged
  cases logged
  have before := inv.published
  rw [inv.idle idle, List.append_nil] at before
  have relayed := inv.relayed
  rw [idle, Option.toList_none, List.append_nil] at relayed
  have grown : chunks (s.trace ++ [.chunk data]) = chunks s.trace ++ [data] := by simp [chunks]
  refine ⟨?_, ?_, ?_, fun none => (by cases none)⟩
  · simp only [DriverState.emit, grown, List.flatten_append, List.flatten_singleton]
    rw [rtcmPublished_append, ← before, ← inv.unscanned]
    simp [rtcmMsgs, rtcmPublished]
  · simp only [DriverState.emit, grown, List.flatten_append, List.flatten_singleton]
    rw [buffer, rtcmUnscanned_append, ← inv.unscanned]
    rfl
  · simp only [DriverState.emit, grown, ← relayed]
    simp [corrections]

theorem rtcmStep_keeps (inv : RtcmInv s) (taken : rtcmStep s a = some s') : RtcmInv s' := by
  cases a with
  | logRtcmFrames data =>
      rw [rtcmStep] at taken
      split at taken
      case h_1 frames rtcmLog idle ran =>
        cases taken
        exact inv.logRtcmFrames idle ran
      case h_2 => cases taken
  | publishRtcm =>
      rw [rtcmStep] at taken
      split at taken
      case h_1 msg frames found =>
        cases taken
        obtain ⟨published, unscanned, relayed, idle⟩ := inv
        rw [found] at published idle
        refine ⟨?_, ?_, ?_, fun none => absurd (idle none) (List.cons_ne_nil _ _)⟩
        · simpa [DriverState.emit, rtcmMsgs, chunks] using published
        · simpa [DriverState.emit, chunks] using unscanned
        · simpa [DriverState.emit, corrections, chunks] using relayed
      case h_2 => cases taken
  | writeRaw =>
      rw [rtcmStep] at taken
      split at taken
      case h_1 data done found =>
        cases taken
        obtain ⟨published, unscanned, relayed, -⟩ := inv
        refine ⟨?_, ?_, ?_, fun _ => done⟩
        · simpa [DriverState.emit, rtcmMsgs, chunks] using published
        · simpa [DriverState.emit, chunks] using unscanned
        · simpa [DriverState.emit, corrections, chunks, found] using relayed
      case h_2 => cases taken
  | _ => cases taken

structure NotRtcm (s s' : DriverState) (events : List DriverEvent) : Prop where
  trace : s'.trace = s.trace ++ events
  chunks : chunks events = []
  rtcmMsgs : rtcmMsgs events = []
  corrections : corrections events = []
  state : s'.rtcmLog = s.rtcmLog ∧ s'.frames = s.frames ∧ s'.chunk = s.chunk

theorem RtcmInv.frame {events : List DriverEvent} (inv : RtcmInv s) (other : NotRtcm s s' events) :
    RtcmInv s' := by
  obtain ⟨rtcmLog, frames, chunk⟩ := other.state
  have chunks : chunks s'.trace = chunks s.trace := by
    rw [other.trace, DriverEvent.chunks, List.filterMap_append, ← DriverEvent.chunks, other.chunks,
      List.append_nil]
  have rtcmMsgs : rtcmMsgs s'.trace = rtcmMsgs s.trace := by
    rw [other.trace, DriverEvent.rtcmMsgs, List.filterMap_append, ← DriverEvent.rtcmMsgs,
      other.rtcmMsgs, List.append_nil]
  have corrections : corrections s'.trace = corrections s.trace := by
    rw [other.trace, DriverEvent.corrections, List.filterMap_append, ← DriverEvent.corrections,
      other.corrections, List.append_nil]
  constructor
  case published =>
    rw [rtcmMsgs, chunks, frames]
    exact inv.published
  case unscanned =>
    rw [chunks, rtcmLog]
    exact inv.unscanned
  case relayed =>
    rw [corrections, chunks, chunk]
    exact inv.relayed
  case idle =>
    rw [chunk, frames]
    exact inv.idle

/-! ## The timer -/

/-- The last look of the timer is behind `trace`, and `latest` was the latest solution then. -/
def Looked (trace : List DriverEvent) (latest : Option PVTSolution) : Prop :=
  ∃ earlier since, trace = earlier ++ .snapshot latest :: since ∧
    (∀ e ∈ since, e.ofTimer = false) ∧ (latestPvts earlier).getLast? = latest

theorem Looked.snoc {trace : List DriverEvent} {latest : Option PVTSolution} {e : DriverEvent}
    (looked : Looked trace latest) (quiet : e.ofTimer = false) : Looked (trace ++ [e]) latest := by
  obtain ⟨earlier, since, rfl, before, last⟩ := looked
  refine ⟨earlier, since ++ [e], by simp, fun e' member => ?_, last⟩
  rcases List.mem_append.mp member with old | new
  · exact before e' old
  · rw [List.mem_singleton.mp new]
    exact quiet

/-- The sentence is that of the solution the timer saw. -/
def Justified (trace : List DriverEvent) (sentence : List Char) : Prop :=
  ∃ pvt, Looked trace (some pvt) ∧ pvt.time.time ≠ 0 ∧ sentence = buildNmeaGgaSentence pvt ∧
    sentence ≠ []

def Sentences (trace : List DriverEvent) : Prop :=
  ∀ before sentence sent after, trace = before ++ .caster sentence sent :: after →
    Justified before sentence

theorem Sentences.snoc {trace : List DriverEvent} {e : DriverEvent} (sentences : Sentences trace)
    (justified : ∀ sentence sent, e = .caster sentence sent → Justified trace sentence) :
    Sentences (trace ++ [e]) := by
  intro before sentence sent after same
  rcases List.eq_nil_or_concat after with rfl | ⟨after', last, rfl⟩
  · obtain ⟨rfl, single⟩ := List.append_inj' same rfl
    exact justified sentence sent (List.singleton_inj.mp single)
  · rw [List.concat_eq_append, ← List.cons_append, ← List.append_assoc] at same
    exact sentences before sentence sent after' (List.append_inj' same rfl).1

def GgaPc.busy : GgaPc → Nat
  | .idle | .locking => 0
  | .building _ | .writing _ => 1

structure GgaInv (s : DriverState) : Prop where
  building : ∀ latest, s.gga = .building latest → Looked s.trace latest
  writing : ∀ sentence, s.gga = .writing sentence → Justified s.trace sentence
  sentences : Sentences s.trace
  skips : s.ntripGgaSkipCount = UInt64.ofNat (s.trace.countP isSkipped)
  sends : s.ntripGgaSendCount = UInt64.ofNat (s.trace.countP isSent)
  rounds : s.trace.countP isSnapshot =
    s.trace.countP isSkipped + s.trace.countP isSent + s.trace.countP isFailed + s.gga.busy

theorem GgaInv.skipGga (inv : GgaInv s) (busy : s.gga.busy = 1) : GgaInv s.skipGga where
  building latest same := by simp [DriverState.skipGga] at same
  writing sentence same := by simp [DriverState.skipGga] at same
  sentences := by
    have sentences := inv.sentences.snoc (e := .skipped) (by simp)
    simpa [DriverState.skipGga, DriverState.emit] using sentences
  skips := by
    simp [DriverState.skipGga, DriverState.emit, inv.skips, isSkipped, UInt64.ofNat_add]
  sends := by
    simp [DriverState.skipGga, DriverState.emit, inv.sends, isSent]
  rounds := by
    have rounds := inv.rounds
    simp only [DriverState.skipGga, DriverState.emit, List.countP_append, List.countP_singleton,
      isSnapshot, isSkipped, isSent, isFailed, GgaPc.busy, if_true, Bool.false_eq_true, if_false]
    omega

theorem sendNtripGga_keeps (inv : GgaInv s) (latest : s.latestPvt = (latestPvts s.trace).getLast?)
    (taken : sendNtripGga s a = some s') : GgaInv s' := by
  cases a with
  | fire clientOpen =>
      rw [sendNtripGga] at taken
      split at taken
      case h_1 idle =>
        cases taken
        have rounds := inv.rounds
        rw [idle] at rounds
        cases clientOpen <;>
          exact ⟨by simp, by simp, inv.sentences, inv.skips, inv.sends, rounds⟩
      case h_2 => cases taken
  | lock =>
      rw [sendNtripGga] at taken
      split at taken
      case h_1 locking =>
        cases taken
        have rounds := inv.rounds
        rw [locking] at rounds
        constructor
        case building =>
          intro seen same
          cases same
          exact ⟨s.trace, [], rfl, by simp, latest.symm⟩
        case writing => simp
        case sentences => exact inv.sentences.snoc (by simp)
        case skips => simp [DriverState.emit, inv.skips, isSkipped]
        case sends => simp [DriverState.emit, inv.sends, isSent]
        case rounds =>
          simp only [DriverState.emit, List.countP_append, List.countP_singleton, isSnapshot,
            isSkipped, isSent, isFailed, GgaPc.busy, if_true, Bool.false_eq_true, if_false] at rounds ⊢
          omega
      case h_2 => cases taken
  | build =>
      rw [sendNtripGga] at taken
      split at taken
      case h_1 none =>
        cases taken
        exact inv.skipGga (by rw [none]; rfl)
      case h_2 pvt seen =>
        have busy : s.gga.busy = 1 := by rw [seen]; rfl
        dsimp only at taken
        split_ifs at taken with unset empty
        · cases taken
          exact inv.skipGga busy
        · cases taken
          exact inv.skipGga busy
        · cases taken
          refine ⟨by simp, fun sentence same => ?_, inv.sentences, inv.skips, inv.sends, ?_⟩
          · cases same
            exact ⟨pvt, inv.building _ seen, unset, rfl, by simpa using empty⟩
          · have rounds := inv.rounds
            rw [busy] at rounds
            exact rounds
      case h_3 => cases taken
  | write sent =>
      rw [sendNtripGga] at taken
      split at taken
      case h_1 sentence writing =>
        cases taken
        have rounds := inv.rounds
        rw [writing] at rounds
        constructor
        case building => simp
        case writing => simp
        case sentences =>
          refine inv.sentences.snoc fun other sent' same => ?_
          cases same
          exact inv.writing sentence writing
        case skips => simp [DriverState.emit, inv.skips, isSkipped]
        case sends =>
          cases sent <;> simp [DriverState.emit, inv.sends, isSent, UInt64.ofNat_add]
        case rounds =>
          cases sent <;>
          · simp only [DriverState.emit, List.countP_append, List.countP_singleton, isSnapshot,
              isSkipped, isSent, isFailed, GgaPc.busy, if_true, Bool.false_eq_true, if_false,
              Bool.not_true, Bool.not_false] at rounds ⊢
            omega
      case h_2 => cases taken
  | _ => cases taken

structure NotTimer (s s' : DriverState) (e : DriverEvent) : Prop where
  trace : s'.trace = s.trace ++ [e]
  quiet : e.ofTimer = false
  state : s'.gga = s.gga ∧ s'.ntripGgaSkipCount = s.ntripGgaSkipCount ∧
    s'.ntripGgaSendCount = s.ntripGgaSendCount

theorem GgaInv.frame {e : DriverEvent} (inv : GgaInv s) (other : NotTimer s s' e) : GgaInv s' := by
  obtain ⟨gga, skips, sends⟩ := other.state
  have quiet := other.quiet
  have uncounted : isSnapshot e = false ∧ isSkipped e = false ∧ isSent e = false ∧
      isFailed e = false := by
    cases e <;> simp_all [ofTimer, isSnapshot, isSkipped, isSent, isFailed]
  obtain ⟨snapshot, skipped, sent, failed⟩ := uncounted
  constructor
  case building =>
    intro latest same
    rw [gga] at same
    rw [other.trace]
    exact (inv.building latest same).snoc quiet
  case writing =>
    intro sentence same
    rw [gga] at same
    obtain ⟨pvt, looked, rest⟩ := inv.writing sentence same
    rw [other.trace]
    exact ⟨pvt, looked.snoc quiet, rest⟩
  case sentences =>
    rw [other.trace]
    refine inv.sentences.snoc fun sentence sent same => ?_
    rw [same] at quiet
    cases quiet
  case skips => simp [skips, inv.skips, other.trace, skipped]
  case sends => simp [sends, inv.sends, other.trace, sent]
  case rounds =>
    rw [gga]
    simp only [other.trace, List.countP_append, List.countP_singleton, snapshot, skipped, sent, failed,
      Bool.false_eq_true, if_false, Nat.add_zero]
    exact inv.rounds

/-! ## All threads -/

theorem serialStep_frame (taken : serialStep handler s a = some s') :
    ∃ e, NotRtcm s s' [e] ∧ NotTimer s s' e := by
  cases a with
  | processData data =>
      rw [serialStep] at taken
      split at taken
      case h_1 => cases taken; exact ⟨_, ⟨rfl, rfl, rfl, rfl, rfl, rfl, rfl⟩, rfl, rfl, rfl, rfl, rfl⟩
      case h_2 => cases taken
  | callback =>
      rw [serialStep] at taken
      split at taken
      case h_1 => cases taken; exact ⟨_, ⟨rfl, rfl, rfl, rfl, rfl, rfl, rfl⟩, rfl, rfl, rfl, rfl, rfl⟩
      case h_2 => cases taken
  | publish =>
      rw [serialStep] at taken
      split at taken
      case h_1 => cases taken
      case h_2 => cases taken; exact ⟨_, ⟨rfl, rfl, rfl, rfl, rfl, rfl, rfl⟩, rfl, rfl, rfl, rfl, rfl⟩
      case h_3 => cases taken
  | _ => cases taken

theorem rtcmStep_frame (taken : rtcmStep s a = some s') :
    ∃ e, NotSerial s s' [e] ∧ NotTimer s s' e := by
  cases a with
  | logRtcmFrames data =>
      rw [rtcmStep] at taken
      split at taken
      case h_1 =>
        cases taken; exact ⟨_, ⟨rfl, rfl, rfl, rfl, rfl, rfl, rfl, rfl⟩, rfl, rfl, rfl, rfl, rfl⟩
      case h_2 => cases taken
  | publishRtcm =>
      rw [rtcmStep] at taken
      split at taken
      case h_1 =>
        cases taken; exact ⟨_, ⟨rfl, rfl, rfl, rfl, rfl, rfl, rfl, rfl⟩, rfl, rfl, rfl, rfl, rfl⟩
      case h_2 => cases taken
  | writeRaw =>
      rw [rtcmStep] at taken
      split at taken
      case h_1 =>
        cases taken; exact ⟨_, ⟨rfl, rfl, rfl, rfl, rfl, rfl, rfl, rfl⟩, rfl, rfl, rfl, rfl, rfl⟩
      case h_2 => cases taken
  | _ => cases taken

theorem NotSerial.same (s' : DriverState) (gga : GgaPc) : NotSerial s' { s' with gga } [] :=
  ⟨(List.append_nil _).symm, rfl, rfl, rfl, rfl, rfl, rfl, rfl⟩

theorem NotRtcm.same (s' : DriverState) (gga : GgaPc) : NotRtcm s' { s' with gga } [] :=
  ⟨(List.append_nil _).symm, rfl, rfl, rfl, rfl, rfl, rfl⟩

theorem skipGga_frame (s : DriverState) :
    ∃ events, NotSerial s s.skipGga events ∧ NotRtcm s s.skipGga events :=
  ⟨[.skipped], ⟨rfl, rfl, rfl, rfl, rfl, rfl, rfl, rfl⟩, rfl, rfl, rfl, rfl, rfl, rfl, rfl⟩

theorem sendNtripGga_frame (taken : sendNtripGga s a = some s') :
    ∃ events, NotSerial s s' events ∧ NotRtcm s s' events := by
  cases a with
  | fire clientOpen =>
      rw [sendNtripGga] at taken
      split at taken
      case h_1 => cases taken; exact ⟨[], NotSerial.same s _, NotRtcm.same s _⟩
      case h_2 => cases taken
  | lock =>
      rw [sendNtripGga] at taken
      split at taken
      case h_1 =>
        cases taken
        exact ⟨[_], ⟨rfl, rfl, rfl, rfl, rfl, rfl, rfl, rfl⟩, rfl, rfl, rfl, rfl, rfl, rfl, rfl⟩
      case h_2 => cases taken
  | build =>
      rw [sendNtripGga] at taken
      split at taken
      case h_1 => cases taken; exact skipGga_frame s
      case h_2 =>
        dsimp only at taken
        split_ifs at taken
        · cases taken; exact skipGga_frame s
        · cases taken; exact skipGga_frame s
        · cases taken; exact ⟨[], NotSerial.same s _, NotRtcm.same s _⟩
      case h_3 => cases taken
  | write sent =>
      rw [sendNtripGga] at taken
      split at taken
      case h_1 =>
        cases taken
        exact ⟨[_], ⟨rfl, rfl, rfl, rfl, rfl, rfl, rfl, rfl⟩, rfl, rfl, rfl, rfl, rfl, rfl, rfl⟩
      case h_2 => cases taken
  | _ => cases taken

structure DriverInv (handler : UbloxRosHandler) (s : DriverState) : Prop where
  serial : SerialInv handler s
  rtcm : RtcmInv s
  gga : GgaInv s

theorem driverInv_init (handler : UbloxRosHandler) : DriverInv handler .init where
  serial := ⟨⟨[], rfl, rfl⟩, by simp [DriverState.init], rfl, rfl⟩
  rtcm := by
    have nothing : rtcmScanner.scan 0 [] = ([], []) := rtcmScanner.scan_wait rtcmScanner.look_nil
    refine ⟨?_, ?_, rfl, fun _ => rfl⟩
    · show [] = rtcmPublished []
      rw [rtcmPublished, nothing]
      rfl
    · show [] = rtcmUnscanned []
      rw [rtcmUnscanned, nothing]
  gga := by
    refine ⟨by simp [DriverState.init], by simp [DriverState.init],
      fun before sentence sent after same => ?_, rfl, rfl, rfl⟩
    have impossible := congrArg List.length same
    simp [DriverState.init] at impossible

theorem DriverInv.step {pipelines : Pipelines} (inv : DriverInv pipelines.handler s)
    (taken : driverStep pipelines a s = some s') : DriverInv pipelines.handler s' := by
  have serial (taken : serialStep pipelines.handler s a = some s') : DriverInv pipelines.handler s' := by
    obtain ⟨e, notRtcm, notTimer⟩ := serialStep_frame taken
    exact ⟨serialStep_keeps inv.serial taken, inv.rtcm.frame notRtcm, inv.gga.frame notTimer⟩
  have rtcm (taken : rtcmStep s a = some s') : DriverInv pipelines.handler s' := by
    obtain ⟨e, notSerial, notTimer⟩ := rtcmStep_frame taken
    exact ⟨inv.serial.frame notSerial, rtcmStep_keeps inv.rtcm taken, inv.gga.frame notTimer⟩
  have gga (taken : sendNtripGga s a = some s') : DriverInv pipelines.handler s' := by
    obtain ⟨events, notSerial, notRtcm⟩ := sendNtripGga_frame taken
    exact ⟨inv.serial.frame notSerial, inv.rtcm.frame notRtcm,
      sendNtripGga_keeps inv.gga inv.serial.latest taken⟩
  rw [driverStep.eq_def] at taken
  cases a with
  | processData | callback | publish =>
      dsimp only at taken
      split_ifs at taken
      exact serial taken
  | logRtcmFrames | publishRtcm | writeRaw =>
      dsimp only at taken
      split_ifs at taken
      exact rtcm taken
  | fire | lock | build | write =>
      dsimp only at taken
      split_ifs at taken
      exact gga taken

theorem driverInv_reached {pipelines : Pipelines}
    (reached : Transition.Reaches (driverStep pipelines) (fun _ _ => True) .init s) :
    DriverInv pipelines.handler s :=
  reached.invariant (DriverInv pipelines.handler) (driverInv_init _) fun _ _ _ inv _ taken =>
    inv.step taken

def fixPvtMsg : List UInt8 := equatorPvtMsg.take 98 ++ [0x1D, 0xF4]

/-- The timer fires between the callback and the publication of a solution. -/
def oneSentence : List DriverAction :=
  [.logRtcmFrames [0xD3, 0], .processData rawxMsg, .writeRaw, .publish, .processData fixPvtMsg,
    .callback, .fire true, .lock, .build, .publish, .write true]

end GnssParser
