import GnssParser.Proof.DriverManager
import GnssParser.Proof.Params

/-!
# The driver with loaded parameters

The parameters decide which threads run and which satellites reach a topic.
-/

namespace GnssParser
open Checked DriverEvent

/-! ## Masks -/

def Publication.Within (h : UbloxRosHandler) : Publication → Prop
  | .rangeMeas meas => meas ≠ [] ∧
      ∀ obs ∈ meas, (satsys obs.sat).1 &&& h.rawObservationSystemMask ≠ 0
  | .ephem e => (satsys e.sat).1 &&& h.ephemerisSystemMask ≠ 0 ∧ (satsys e.sat).1 ≠ sysGlo
  | .gloEphem e => (satsys e.sat).1 &&& h.ephemerisSystemMask ≠ 0 ∧ (satsys e.sat).1 = sysGlo
  | _ => True

variable {h : UbloxRosHandler}

theorem publishObservations_within {meas : List Obs} {p : Publication}
    (member : p ∈ h.publishObservations meas) : p.Within h := by
  rw [UbloxRosHandler.publishObservations] at member
  split_ifs at member with empty
  · cases member
  · rw [List.mem_singleton.mp member]
    refine ⟨by simpa using empty, fun obs kept => ?_⟩
    simpa using (List.mem_filter.mp kept).2

theorem publishEphemeris_within {ephem : Option EphemObject} {published : List Publication}
    (ran : h.publishEphemeris ephem = .ok published) : ∀ p ∈ published, p.Within h := by
  intro p member
  cases ephem with
  | none =>
      cases ran
      cases member
  | some obj =>
      rw [UbloxRosHandler.publishEphemeris] at ran
      split_ifs at ran with unset masked glo
      · cases ran; cases member
      · cases ran; cases member
      · obtain ⟨e, cast, same⟩ := bind_eq_ok.mp ran
        cases same
        rw [List.mem_singleton.mp member]
        cases obj with
        | gloEphem e' =>
            cases cast
            exact ⟨masked, glo⟩
        | _ => cases cast
      · obtain ⟨e, cast, same⟩ := bind_eq_ok.mp ran
        cases same
        rw [List.mem_singleton.mp member]
        cases obj with
        | ephem e' =>
            cases cast
            exact ⟨masked, glo⟩
        | _ => cases cast

theorem processData_within {st st' : Processor} {msg : List UInt8} {published : List Publication}
    (ran : processData (some h) st msg = .ok (published, st')) : ∀ p ∈ published, p.Within h := by
  intro p member
  rw [processData] at ran
  simp only [Option.isSome_some, if_true] at ran
  obtain ⟨verified, _, ran⟩ := bind_eq_ok.mp ran
  split_ifs at ran
  · cases ran; cases member
  obtain ⟨type, _, ran⟩ := bind_eq_ok.mp ran
  split_ifs at ran
  · obtain ⟨⟨meas, next⟩, _, ran⟩ := bind_eq_ok.mp ran
    cases ran
    exact publishObservations_within member
  · obtain ⟨⟨ephem, next, ionoParams⟩, _, ran⟩ := bind_eq_ok.mp ran
    obtain ⟨list, ephemeris, ran⟩ := bind_eq_ok.mp ran
    cases ephem with
    | none =>
        cases ran
        exact publishEphemeris_within ephemeris p member
    | some obj =>
        cases ran
        rcases List.mem_append.mp member with first | second
        · exact publishEphemeris_within ephemeris p first
        · rw [UbloxRosHandler.publishIonoParams] at second
          split_ifs at second
          · cases second
          · rw [List.mem_singleton.mp second]
            trivial
  · obtain ⟨tp, _, ran⟩ := bind_eq_ok.mp ran
    cases ran
    cases tp with
    | none => cases member
    | some tp =>
        rw [UbloxRosHandler.publishTimePulse] at member
        split_ifs at member
        · cases member
        · rw [List.mem_singleton.mp member]
          trivial
  · obtain ⟨pvt, _, ran⟩ := bind_eq_ok.mp ran
    cases ran
    cases pvt with
    | none => cases member
    | some pvt =>
        rw [UbloxRosHandler.publishPvt] at member
        split_ifs at member
        · cases member
        · rw [List.mem_singleton.mp member]
          trivial
  · cases ran; cases member

theorem trace_within {msgs : List (List UInt8)} {st st' : Processor}
    {outputs : List (List Publication)}
    (ran : Separation.trace (processData (some h)) st msgs = .ok (outputs, st')) :
    ∀ p ∈ outputs.flatten, p.Within h := by
  induction msgs generalizing st outputs with
  | nil =>
      cases ran
      simp
  | cons msg msgs ih =>
      rw [Separation.trace] at ran
      obtain ⟨⟨first, next⟩, processed, ran⟩ := bind_eq_ok.mp ran
      obtain ⟨⟨others, last⟩, rest, ran⟩ := bind_eq_ok.mp ran
      cases ran
      intro p member
      rw [List.flatten_cons, List.mem_append] at member
      rcases member with here | later
      · exact processData_within processed p here
      · exact ih rest p later

theorem satsys_supported {sat mask : Nat} (supported : SupportedMask mask)
    (kept : (satsys sat).1 &&& mask ≠ 0) : (satsys sat).1 = sysGps ∨ (satsys sat).1 = sysBds := by
  unfold satsys at kept ⊢
  rcases supported with rfl | rfl | rfl <;> split_ifs at kept ⊢ <;>
    simp_all [sysGps, sysBds, sysGlo, sysGal, sysNone]

def GpsOrBds (sat : Nat) : Prop := (satsys sat).1 = sysGps ∨ (satsys sat).1 = sysBds

/-- Only satellites of GPS and BeiDou. -/
def Publication.Supported : Publication → Prop
  | .rangeMeas meas => meas ≠ [] ∧ ∀ obs ∈ meas, GpsOrBds obs.sat
  | .ephem e => GpsOrBds e.sat
  | .gloEphem _ => False
  | _ => True

theorem Publication.Within.supported {p : Publication} (within : p.Within h)
    (raw : SupportedMask h.rawObservationSystemMask) (ephemeris : SupportedMask h.ephemerisSystemMask) :
    p.Supported := by
  cases p with
  | rangeMeas meas =>
      exact ⟨within.1, fun obs member => satsys_supported raw (within.2 obs member)⟩
  | ephem e => exact satsys_supported ephemeris within.1
  | gloEphem e =>
      have system := satsys_supported ephemeris within.1
      rw [within.2] at system
      exact absurd system (by decide)
  | _ => trivial

/-! ## Threads -/

inductive DriverThread where
  | serial
  | rtcm
  | timer
  deriving DecidableEq

def DriverEvent.thread : DriverEvent → DriverThread
  | .message _ | .latestPvt _ | .published _ => .serial
  | .chunk _ | .rtcm _ | .receiver _ => .rtcm
  | .snapshot _ | .skipped | .caster _ _ => .timer

def Pipelines.started (pipelines : Pipelines) : DriverThread → Bool
  | .serial => pipelines.serialStarted
  | .rtcm => pipelines.rtcmClient.isSome
  | .timer => pipelines.ntripGgaTimer

def DriverAction.thread : DriverAction → DriverThread
  | .processData _ | .callback | .publish => .serial
  | .logRtcmFrames _ | .publishRtcm | .writeRaw => .rtcm
  | .fire _ | .lock | .build | .write _ => .timer

variable {pipelines : Pipelines} {s s' : DriverState} {a : DriverAction}

theorem driverStep_thread (taken : driverStep pipelines a s = some s') :
    pipelines.started a.thread = true ∧
      ∃ events, s'.trace = s.trace ++ events ∧ ∀ e ∈ events, e.thread = a.thread := by
  have serial (own : a.thread = .serial) (taken : serialStep pipelines.handler s a = some s') :
      ∃ events, s'.trace = s.trace ++ events ∧ ∀ e ∈ events, e.thread = a.thread := by
    obtain ⟨e, ⟨trace, chunk, msg, correction, _⟩, notTimer⟩ := serialStep_frame taken
    refine ⟨[e], trace, fun e' member => ?_⟩
    have quiet := notTimer.quiet
    rw [List.mem_singleton.mp member, own]
    cases e <;> simp_all [DriverEvent.thread, DriverEvent.ofTimer, DriverEvent.chunks,
      DriverEvent.rtcmMsgs, DriverEvent.corrections]
  have rtcm (own : a.thread = .rtcm) (taken : rtcmStep s a = some s') :
      ∃ events, s'.trace = s.trace ++ events ∧ ∀ e ∈ events, e.thread = a.thread := by
    obtain ⟨e, ⟨trace, message, publication, pvt, _⟩, notTimer⟩ := rtcmStep_frame taken
    refine ⟨[e], trace, fun e' member => ?_⟩
    have quiet := notTimer.quiet
    rw [List.mem_singleton.mp member, own]
    cases e <;> simp_all [DriverEvent.thread, DriverEvent.ofTimer, DriverEvent.messages,
      DriverEvent.publications, DriverEvent.latestPvts]
  have timer (own : a.thread = .timer) (taken : sendNtripGga s a = some s') :
      ∃ events, s'.trace = s.trace ++ events ∧ ∀ e ∈ events, e.thread = a.thread := by
    obtain ⟨events, notSerial, notRtcm⟩ := sendNtripGga_frame taken
    refine ⟨events, notSerial.trace, fun e member => ?_⟩
    obtain ⟨before, after, rfl⟩ := List.append_of_mem member
    have message := notSerial.messages
    have publication := notSerial.publications
    have pvt := notSerial.latestPvts
    have chunk := notRtcm.chunks
    have msg := notRtcm.rtcmMsgs
    have correction := notRtcm.corrections
    rw [own]
    cases e <;> simp_all [DriverEvent.thread, DriverEvent.messages, DriverEvent.publications,
      DriverEvent.latestPvts, DriverEvent.chunks, DriverEvent.rtcmMsgs, DriverEvent.corrections]
  rw [driverStep.eq_def] at taken
  cases a with
  | processData | callback | publish =>
      dsimp only at taken
      split_ifs at taken with started
      exact ⟨started, serial rfl taken⟩
  | logRtcmFrames | publishRtcm | writeRaw =>
      dsimp only at taken
      split_ifs at taken with started
      exact ⟨started, rtcm rfl taken⟩
  | fire | lock | build | write =>
      dsimp only at taken
      split_ifs at taken with started
      exact ⟨started, timer rfl taken⟩

theorem trace_started
    (reached : Transition.Reaches (driverStep pipelines) (fun _ _ => True) .init s) :
    ∀ e ∈ s.trace, pipelines.started e.thread = true := by
  refine reached.invariant (fun s => ∀ e ∈ s.trace, pipelines.started e.thread = true)
    (by simp [DriverState.init])
    fun s s' a inv _ taken => ?_
  obtain ⟨started, events, trace, own⟩ := driverStep_thread taken
  intro e member
  rw [trace, List.mem_append] at member
  rcases member with old | new
  · exact inv e old
  · rw [own e new]
    exact started

/-! ## Loaded parameters -/

theorem setupPipelines_timer {params : UbloxDriverParams} {serialOpen : Bool}
    (oneSource : ¬ (params.enableRtcmTcpLoopback = true ∧ params.enableNtripRtcm = true))
    (started : (setupPipelines params serialOpen).ntripGgaTimer = true) :
    ∃ server port mountpoint username password, (setupPipelines params serialOpen).rtcmClient =
      some (.ntrip server port mountpoint username password) := by
  have both := Bool.and_eq_true_iff.mp started
  have client := both.1
  cases loopback : params.enableRtcmTcpLoopback with
  | true => exact absurd ⟨loopback, both.2⟩ oneSource
  | false =>
      cases ready : params.enableSerial && serialOpen with
      | false => simp [setupRtcmClient, ready] at client
      | true => simp [setupPipelines, setupRtcmClient, ready, loopback, both.2]

theorem setupPipelines_client {params : UbloxDriverParams} {serialOpen : Bool}
    (oneSource : ¬ (params.enableRtcmTcpLoopback = true ∧ params.enableNtripRtcm = true))
    (started : (setupPipelines params serialOpen).rtcmClient.isSome = true) :
    params.enableRtcmTcpLoopback ≠ params.enableNtripRtcm := by
  cases loopback : params.enableRtcmTcpLoopback <;> cases ntrip : params.enableNtripRtcm
  · simp [setupPipelines, setupRtcmClient, loopback, ntrip] at started
  · simp
  · simp
  · exact absurd ⟨loopback, ntrip⟩ oneSource

/-- With loaded parameters no GLONASS or Galileo satellite is published, nothing is written to the
receiver unless one source of corrections is on, and sentences go to an NTRIP caster only. -/
theorem driver_configured {yaml : YamlLibrary} {files : FileSystem}
    {driverConfigFile receiverConfigOverride : List Char} {params : UbloxDriverParams}
    {serialOpen : Bool}
    (loaded : loadUbloxDriverParams yaml files driverConfigFile receiverConfigOverride = .ok params)
    (reached : Transition.Reaches (driverStep (setupPipelines params serialOpen)) (fun _ _ => True)
      .init s) :
    (∀ p ∈ publications s.trace, p.Supported) ∧
    (∀ e ∈ s.trace, serialOpen = true ∧
      (e.thread = .rtcm → params.enableRtcmTcpLoopback ≠ params.enableNtripRtcm) ∧
      (e.thread = .timer → ∃ server port mountpoint username password,
        (setupPipelines params serialOpen).rtcmClient =
          some (.ntrip server port mountpoint username password))) := by
  have admitted := loadUbloxDriverParams_ok loaded
  have started := trace_started reached
  refine ⟨fun p member => ?_, fun e member => ?_⟩
  · obtain ⟨outputs, processed, published⟩ := (driverInv_reached reached).serial.processed
    have among : p ∈ outputs.flatten := by
      rw [← published]
      exact List.mem_append_left _ member
    exact (trace_within processed p among).supported admitted.rawObservation admitted.ephemeris
  · have on := started e member
    have client (some : (setupPipelines params serialOpen).rtcmClient.isSome = true) :
        serialOpen = true := by
      cases serialOpen with
      | true => rfl
      | false => simp [setupPipelines, setupRtcmClient] at some
    cases thread : e.thread with
    | serial =>
        rw [thread] at on
        exact ⟨(Bool.and_eq_true_iff.mp on).2, by simp, by simp⟩
    | rtcm =>
        rw [thread] at on
        exact ⟨client on, fun _ => setupPipelines_client admitted.oneSource on, by simp⟩
    | timer =>
        rw [thread] at on
        exact ⟨client (Bool.and_eq_true_iff.mp on).1, by simp,
          fun _ => setupPipelines_timer admitted.oneSource on⟩

/-! A driver that gets its corrections over NTRIP. -/

def ntripLibrary : YamlLibrary where
  emptyIsDefined := true
  otherAsString _ := none
  asLong
    | .scalar text => (Text.stoll text).toOption
    | _ => none
  asUInt64
    | .scalar text => (Text.stoull 10 text).toOption
    | _ => none

def ntripConfig : YamlNode :=
  let entry (key value : String) : YamlNode × YamlNode := (.scalar key.toList, .scalar value.toList)
  .map [entry "enable_serial" "true", entry "serial_port" "/dev/ttyACM0",
    entry "serial_baud_rate" "921600", entry "enable_rtcm_tcp_loopback" "false",
    entry "enable_ntrip_rtcm" "true", entry "ntrip_server" "203.107.45.154", entry "ntrip_port" "8003",
    entry "ntrip_mountpoint" "RTCM32_GGB", entry "ntrip_username" "user", entry "ntrip_password" "pass",
    (.scalar "raw_observation_systems".toList, .sequence [.scalar "GPS".toList, .scalar "BDS".toList]),
    entry "ephemeris_systems" "beidou", entry "enable_config_bring" "false"]

def ntripFiles : FileSystem where
  home := none
  loadFile _ := some ntripConfig
  readFile _ := none
  parentPath path := path
  resolve _ path := path
  exists? _ := false
  extension _ := []

theorem driver_configured_ntrip :
    ∃ (params : UbloxDriverParams) (s : DriverState), s.trace.countP isSent = 1 ∧
      (∀ p ∈ publications s.trace, p.Supported) ∧
      ∀ e ∈ s.trace, true = true ∧
        (e.thread = .rtcm → params.enableRtcmTcpLoopback ≠ params.enableNtripRtcm) ∧
        (e.thread = .timer → ∃ server port mountpoint username password,
          (setupPipelines params true).rtcmClient =
            some (.ntrip server port mountpoint username password)) := by
  have ran : ((loadUbloxDriverParams ntripLibrary ntripFiles [] []).toOption.map fun params =>
      (Transition.run (driverStep (setupPipelines params true)) oneSentence .init).map
        fun s => s.trace.countP isSent) = some (some 1) := by
    decide +kernel
  obtain ⟨params, loaded, ran⟩ := Option.map_eq_some_iff.mp ran
  obtain ⟨s, reached, sent⟩ := Option.map_eq_some_iff.mp ran
  exact ⟨params, s, sent, driver_configured (Load.toOption_eq_some.mp loaded)
    (Transition.Reaches.refl.run reached)⟩

end GnssParser
