import GnssParser.Lib.Transition
import GnssParser.Model.Writers

/-!
# Messages of concurrent writers

What any interleaving of writers puts on the wire.
-/

namespace GnssParser

/-! ## The wire -/

/-- The bytes of a call that were written. -/
def Written.bytes (w : Written) : List UInt8 := w.data.take w.total

namespace WritersState

/-- The bytes written so far by the call that holds the mutex. -/
def inFlight (s : WritersState) : List UInt8 :=
  ((s.holder.bind s.calls).map fun call => call.data.take call.total).getD []

/-- A call waits before its first byte, and polls and sends only while bytes are left. -/
structure CallOk (call : WriteCall) : Prop where
  waiting : call.pc = .lock → call.total = 0
  bounded : call.total ≤ call.data.length
  unfinished : call.pc = .poll ∨ call.pc = .send → call.total < call.data.length

structure Inv (s : WritersState) : Prop where
  holds : ∀ t, s.holder = some t ↔ ∃ call, s.calls t = some call ∧ call.pc ≠ .lock
  sent : s.sent = (s.written.map Written.bytes).flatten ++ s.inFlight
  calls : ∀ t call, s.calls t = some call → CallOk call
  results : ∀ w ∈ s.written,
    w.total ≤ w.data.length ∧ w.result = decide (w.total = w.data.length)

theorem inv_init : Inv .init where
  holds := by simp [init]
  sent := by simp [init, inFlight]
  calls := by simp [init]
  results := by simp [init]

variable {s : WritersState} {t : Nat} {call : WriteCall}

@[simp] theorem calls_setCall (s : WritersState) (t u : Nat) (call : Option WriteCall) :
    (s.setCall t call).calls u = if u = t then call else s.calls u :=
  Function.update_apply s.calls t call u

theorem callsOk_setCall {new : Option WriteCall} (others : ∀ u call, s.calls u = some call → CallOk call)
    (ok : ∀ call ∈ new, CallOk call) (u : Nat) (call : WriteCall)
    (found : (s.setCall t new).calls u = some call) : CallOk call := by
  rw [calls_setCall] at found
  split at found
  · exact ok call found
  · exact others u call found

section
variable (inv : s.Inv)
include inv

theorem Inv.inFlight_eq (found : s.calls t = some call) (held : call.pc ≠ .lock) :
    s.inFlight = call.data.take call.total := by
  have holder := (inv.holds t).mpr ⟨call, found, held⟩
  simp [inFlight, holder, found]

/-- The holder goes on with its call. -/
theorem Inv.proceed (found : s.calls t = some call) (held : call.pc ≠ .lock) {next : WriteCall}
    (holding : next.pc ≠ .lock) (ok : CallOk next) {sent : List UInt8}
    (wire : sent = (s.written.map Written.bytes).flatten ++ next.data.take next.total) :
    Inv { s.setCall t (some next) with sent } := by
  have holder := (inv.holds t).mpr ⟨call, found, held⟩
  refine ⟨fun u => ?_, ?_, callsOk_setCall inv.calls (by simpa using ok), inv.results⟩
  · by_cases same : u = t
    · subst same
      simp [setCall, holder, holding]
    · simpa [setCall, same] using inv.holds u
  · simp [inFlight, setCall, holder, wire]

theorem Inv.goto (found : s.calls t = some call) (held : call.pc ≠ .lock) {pc : WritePc}
    (holding : pc ≠ .lock) (ok : CallOk { call with pc }) :
    (s.setCall t (some { call with pc })).Inv := by
  have wire := inv.sent
  rw [inv.inFlight_eq found held] at wire
  exact inv.proceed found held holding ok wire

/-- A call that does not hold the mutex begins. -/
theorem Inv.begin {data : List UInt8} (free : s.calls t = none) :
    (s.setCall t (some ⟨data, 0, .lock⟩)).Inv := by
  have other {u : Nat} (holder : s.holder = some u) : u ≠ t := by
    rintro rfl
    obtain ⟨call, found, _⟩ := (inv.holds u).mp holder
    rw [free] at found
    cases found
  refine ⟨fun u => ?_, ?_, callsOk_setCall inv.calls ?_, inv.results⟩
  · by_cases same : u = t
    · subst same
      simp only [calls_setCall, if_true]
      constructor
      · exact fun holder => absurd rfl (other holder)
      · rintro ⟨call, ⟨⟩, held⟩
        exact absurd rfl held
    · simpa [setCall, same] using inv.holds u
  · have same : (s.setCall t (some ⟨data, 0, .lock⟩)).inFlight = s.inFlight := by
      cases holder : s.holder with
      | none => simp [inFlight, setCall, holder]
      | some u => simp [inFlight, setCall, holder, Function.update_of_ne (other holder)]
    rw [same]
    exact inv.sent
  · rintro _ ⟨⟩
    exact ⟨fun _ => rfl, Nat.zero_le _, by simp⟩

theorem Inv.acquire (found : s.calls t = some call) (waiting : call.pc = .lock)
    (free : s.holder = none) :
    Inv { s.setCall t (some { call with pc := .test }) with holder := some t } := by
  have ok := inv.calls t call found
  have empty : s.inFlight = [] := by simp [inFlight, free]
  refine ⟨fun u => ?_, ?_, callsOk_setCall inv.calls ?_, inv.results⟩
  · by_cases same : u = t
    · subst same
      simp
    · have none : ¬ ∃ call, s.calls u = some call ∧ call.pc ≠ .lock := by
        rw [← inv.holds u, free]
        nofun
      simpa [same, Ne.symm same] using none
  · have wire := inv.sent
    rw [empty] at wire
    simpa [inFlight, setCall, ok.waiting waiting] using wire
  · rintro _ ⟨⟩
    exact ⟨nofun, ok.bounded, by simp⟩

theorem Inv.finish (found : s.calls t = some call) (held : call.pc ≠ .lock) {result : Bool}
    (ok : result = decide (call.total = call.data.length)) : (s.finish t call result).Inv := by
  have holder := (inv.holds t).mpr ⟨call, found, held⟩
  refine ⟨fun u => ?_, ?_, callsOk_setCall inv.calls (by simp), ?_⟩
  · by_cases same : u = t
    · subst same
      simp [WritersState.finish, setCall]
    · have none : ¬ ∃ call, s.calls u = some call ∧ call.pc ≠ .lock := by
        rw [← inv.holds u, holder]
        exact fun other => same (Option.some.inj other).symm
      simpa [WritersState.finish, setCall, same] using none
  · have wire := inv.sent
    rw [inv.inFlight_eq found held] at wire
    simp [WritersState.finish, inFlight, setCall, wire, Written.bytes]
  · intro w member
    rcases List.mem_append.mp member with before | last
    · exact inv.results w before
    · obtain rfl := List.mem_singleton.mp last
      exact ⟨(inv.calls t call found).bounded, ok⟩

end

/-! ## Runs -/

theorem inv_step {s s' : WritersState} {a : WriteAction} (inv : s.Inv)
    (taken : writeStep a s = some s') : s'.Inv := by
  unfold writeStep at taken
  cases a with
  | begin t data =>
      simp only [Option.isNone_iff_eq_none] at taken
      split at taken
      · rename_i free
        cases taken
        exact inv.begin free
      · cases taken
  | acquire t =>
      obtain ⟨call, found, taken⟩ := Option.bind_eq_some_iff.mp taken
      obtain ⟨_, allowed, taken⟩ := Option.bind_eq_some_iff.mp taken
      obtain ⟨waiting, free⟩ := (Option.guard_eq_some' ..).mp allowed
      cases taken
      exact inv.acquire found waiting free
  | test t =>
      obtain ⟨call, found, taken⟩ := Option.bind_eq_some_iff.mp taken
      obtain ⟨_, allowed, taken⟩ := Option.bind_eq_some_iff.mp taken
      have here := (Option.guard_eq_some' ..).mp allowed
      have held : call.pc ≠ .lock := by rw [here]; nofun
      split at taken
      · rename_i left
        cases taken
        exact inv.goto found held nofun ⟨nofun, left.1.le, fun _ => left.1⟩
      · cases taken
        exact inv.finish found held rfl
  | pollReady t =>
      obtain ⟨call, found, taken⟩ := Option.bind_eq_some_iff.mp taken
      obtain ⟨_, allowed, taken⟩ := Option.bind_eq_some_iff.mp taken
      have here := (Option.guard_eq_some' ..).mp allowed
      have held : call.pc ≠ .lock := by rw [here]; nofun
      have left := (inv.calls t call found).unfinished (.inl here)
      cases taken
      exact inv.goto found held nofun ⟨nofun, left.le, fun _ => left⟩
  | pollFails t =>
      obtain ⟨call, found, taken⟩ := Option.bind_eq_some_iff.mp taken
      obtain ⟨_, allowed, taken⟩ := Option.bind_eq_some_iff.mp taken
      have here := (Option.guard_eq_some' ..).mp allowed
      have left := (inv.calls t call found).unfinished (.inl here)
      cases taken
      exact inv.finish found (by rw [here]; nofun) (by simp [left.ne])
  | send t count =>
      obtain ⟨call, found, taken⟩ := Option.bind_eq_some_iff.mp taken
      obtain ⟨_, allowed, taken⟩ := Option.bind_eq_some_iff.mp taken
      obtain ⟨here, _, fits⟩ := (Option.guard_eq_some' ..).mp allowed
      have held : call.pc ≠ .lock := by rw [here]; nofun
      have bounded := (inv.calls t call found).bounded
      cases taken
      have next : CallOk { call with total := call.total + count, pc := .test } :=
        ⟨nofun, show call.total + count ≤ call.data.length by omega, by simp⟩
      refine inv.proceed found held (fun lock => by cases lock) next ?_
      rw [inv.sent, inv.inFlight_eq found held, List.append_assoc, List.take_add]
  | sendAgain t =>
      obtain ⟨call, found, taken⟩ := Option.bind_eq_some_iff.mp taken
      obtain ⟨_, allowed, taken⟩ := Option.bind_eq_some_iff.mp taken
      have here := (Option.guard_eq_some' ..).mp allowed
      have held : call.pc ≠ .lock := by rw [here]; nofun
      have bounded := (inv.calls t call found).bounded
      cases taken
      exact inv.goto found held nofun ⟨nofun, bounded, by simp⟩
  | sendFails t =>
      obtain ⟨call, found, taken⟩ := Option.bind_eq_some_iff.mp taken
      obtain ⟨_, allowed, taken⟩ := Option.bind_eq_some_iff.mp taken
      have here := (Option.guard_eq_some' ..).mp allowed
      have left := (inv.calls t call found).unfinished (.inr here)
      cases taken
      exact inv.finish found (by rw [here]; nofun) (by simp [left.ne])
  | setOpen isOpen =>
      cases taken
      exact ⟨inv.holds, inv.sent, inv.calls, inv.results⟩

end WritersState

open WritersState

/-- Only one thread is past the mutex; the wire carries a prefix of each message, one after the
other, and the whole message of every call that returned `true`. -/
theorem writers_never_interleave {s : WritersState}
    (reached : Transition.Reaches writeStep (fun _ _ => True) .init s) :
    (∀ t u call call', s.calls t = some call → s.calls u = some call' → call.pc ≠ .lock →
        call'.pc ≠ .lock → t = u) ∧
      s.sent = (s.written.map Written.bytes).flatten ++ s.inFlight ∧
      ∀ w ∈ s.written, (w.result = true ↔ w.bytes = w.data) := by
  have inv : s.Inv := reached.invariant Inv inv_init fun _ _ _ inv _ taken => inv_step inv taken
  refine ⟨fun t u call call' found found' held held' => ?_, inv.sent, fun w member => ?_⟩
  · have first := (inv.holds t).mpr ⟨call, found, held⟩
    have second := (inv.holds u).mpr ⟨call', found', held'⟩
    exact Option.some.inj (first.symm.trans second)
  · obtain ⟨bounded, result⟩ := inv.results w member
    rw [result, decide_eq_true_iff, Written.bytes, List.take_eq_self_iff]
    omega

/-- The descriptor is closed in the middle of the first message. -/
def interrupted : List WriteAction :=
  [.begin 0 [1, 2, 3], .begin 1 [4], .acquire 0, .test 0, .pollReady 0, .send 0 2, .setOpen false,
    .test 0, .acquire 1, .setOpen true, .test 1, .pollReady 1, .send 1 1, .test 1]

theorem writers_never_interleave_interrupted :
    ∃ s : WritersState, s.sent = [1, 2, 4] ∧
      (∀ t u call call', s.calls t = some call → s.calls u = some call' → call.pc ≠ .lock →
        call'.pc ≠ .lock → t = u) ∧
      s.sent = (s.written.map Written.bytes).flatten ++ s.inFlight ∧
      ∀ w ∈ s.written, (w.result = true ↔ w.bytes = w.data) := by
  have ran : ∃ s, Transition.run writeStep interrupted .init = some s ∧ s.sent = [1, 2, 4] :=
    ⟨_, rfl, rfl⟩
  obtain ⟨s, ran, sent⟩ := ran
  exact ⟨s, sent, writers_never_interleave (Transition.Reaches.run .refl ran)⟩

end GnssParser
