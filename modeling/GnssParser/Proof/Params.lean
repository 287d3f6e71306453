import GnssParser.Model.Params
import GnssParser.Proof.ConfigEncoding

/-!
# Parameters the driver starts with

What `LoadUbloxDriverParams` admits, whatever the documents hold and however the YAML library
converts them.
-/

namespace GnssParser
open Text

namespace Load
variable {α β : Type}

theorem bind_eq_ok {x : Load α} {f : α → Load β} {b : β} :
    x >>= f = .ok b ↔ ∃ a, x = .ok a ∧ f a = .ok b := by
  cases x with
  | ok a => simp [bind, Except.bind]
  | error e => simp [bind, Except.bind]

@[simp] theorem pure_eq (a : α) : (pure a : Load α) = .ok a := rfl

@[simp] theorem runtimeError_ne_ok (what : String) (a : α) :
    (runtimeError what : Load α) ≠ .ok a := by
  simp [runtimeError]

theorem toOption_eq_some {x : Load α} {a : α} : x.toOption = some a ↔ x = .ok a := by
  cases x <;> simp [Except.toOption]

end Load

open Load

variable {yaml : YamlLibrary} {files : FileSystem} {root : YamlNode}
  {params params' : UbloxDriverParams}

/-! ## Satellite systems -/

/-- GPS, BeiDou or both. -/
def SupportedMask (mask : Nat) : Prop :=
  mask = sysGps ∨ mask = sysBds ∨ mask = sysGps ||| sysBds

theorem SupportedMask.or {mask more : Nat} (first : SupportedMask mask)
    (second : SupportedMask more) : SupportedMask (mask ||| more) := by
  rcases first with rfl | rfl | rfl <;> rcases second with rfl | rfl | rfl <;>
    simp [SupportedMask, sysGps, sysBds]

theorem parseSupportedGnssSystemName_mask {text : List Char} {key : String} {mask : Nat}
    (parsed : parseSupportedGnssSystemName text key = .ok mask) : SupportedMask mask := by
  rw [parseSupportedGnssSystemName] at parsed
  split_ifs at parsed
  · cases parsed; exact .inl rfl
  · cases parsed; exact .inr (.inl rfl)
  · exact absurd parsed (runtimeError_ne_ok _ _)

theorem parseGnssSystemItems_mask {key : String} {items : List YamlNode} {start mask : Nat}
    (supported : start = 0 ∨ SupportedMask start)
    (parsed : items.foldlM (parseGnssSystemItem key) start = .ok mask) :
    mask = 0 ∨ SupportedMask mask := by
  induction items generalizing start with
  | nil =>
      cases parsed
      exact supported
  | cons item items ih =>
      rw [List.foldlM_cons, bind_eq_ok] at parsed
      obtain ⟨next, first, rest⟩ := parsed
      refine ih (.inr ?_) rest
      cases item with
      | scalar text =>
          rw [parseGnssSystemItem, bind_eq_ok] at first
          obtain ⟨more, name, same⟩ := first
          cases same
          have own := parseSupportedGnssSystemName_mask name
          rcases supported with rfl | supported
          · rwa [Nat.zero_or]
          · exact supported.or own
      | _ => exact absurd first (runtimeError_ne_ok _ _)

theorem parseGnssSystemMask_mask {key : String} {defaultMask mask : Nat}
    (default : SupportedMask defaultMask)
    (parsed : parseGnssSystemMask yaml root key defaultMask = .ok mask) : SupportedMask mask := by
  rw [parseGnssSystemMask] at parsed
  split_ifs at parsed
  · cases parsed
    exact default
  · rw [bind_eq_ok] at parsed
    obtain ⟨read, values, nonzero⟩ := parsed
    split_ifs at nonzero with zero
    · exact absurd nonzero (runtimeError_ne_ok _ _)
    · cases nonzero
      unfold parseGnssSystemNode at values
      split at values
      case h_1 text _ =>
        rw [bind_eq_ok] at values
        obtain ⟨own, name, same⟩ := values
        cases same
        rw [Nat.zero_or]
        exact parseSupportedGnssSystemName_mask name
      case h_2 items _ => exact (parseGnssSystemItems_mask (.inl rfl) values).resolve_left zero
      case h_3 => exact absurd values (runtimeError_ne_ok _ _)

/-! ## Sections -/

/-- A source of corrections that is off has its default parameters. -/
structure RtcmSources (params : UbloxDriverParams) : Prop where
  loopback : params.enableRtcmTcpLoopback = false → params.rtcmTcpPort = 0
  ntrip : params.enableNtripRtcm = false → params.ntripServer = [] ∧ params.ntripPort = 0 ∧
    params.ntripMountpoint = [] ∧ params.ntripUsername = [] ∧ params.ntripPassword = []

theorem loadSerial_ok (loaded : loadSerial yaml root {} = .ok params) :
    ∃ serialPort serialBaudRate, params = { serialPort, serialBaudRate } := by
  rw [loadSerial, bind_eq_ok] at loaded
  obtain ⟨enableSerial, _, loaded⟩ := loaded
  cases enableSerial with
  | false => exact absurd loaded (runtimeError_ne_ok _ _)
  | true =>
      simp only [Bool.not_true, Bool.false_eq_true, if_false, bind_eq_ok] at loaded
      obtain ⟨serialPort, _, serialBaudRate, _, loaded⟩ := loaded
      cases loaded
      exact ⟨serialPort, serialBaudRate, rfl⟩

theorem loadRtcmTcp_ok (loaded : loadRtcmTcp yaml root params = .ok params')
    (unset : params.rtcmTcpPort = 0) :
    ∃ enableRtcmTcpLoopback rtcmTcpPort, (enableRtcmTcpLoopback = false → rtcmTcpPort = 0) ∧
      params' = { params with enableRtcmTcpLoopback, rtcmTcpPort } := by
  rw [loadRtcmTcp, bind_eq_ok] at loaded
  obtain ⟨enableRtcmTcpLoopback, _, loaded⟩ := loaded
  cases enableRtcmTcpLoopback with
  | false =>
      cases loaded
      exact ⟨false, params.rtcmTcpPort, fun _ => unset, rfl⟩
  | true =>
      simp only [if_true, bind_eq_ok] at loaded
      obtain ⟨rtcmTcpPort, _, loaded⟩ := loaded
      cases loaded
      exact ⟨true, rtcmTcpPort, fun off => (by cases off), rfl⟩

theorem loadNtrip_ok (loaded : loadNtrip yaml root params = .ok params') :
    (params' = { params with enableNtripRtcm := false } ∨
      ∃ ntripServer ntripPort ntripMountpoint ntripUsername ntripPassword, params' =
        { params with
          enableNtripRtcm := true
          ntripServer, ntripPort, ntripMountpoint, ntripUsername, ntripPassword }) := by
  rw [loadNtrip, bind_eq_ok] at loaded
  obtain ⟨enableNtripRtcm, _, loaded⟩ := loaded
  cases enableNtripRtcm with
  | false =>
      cases loaded
      exact .inl rfl
  | true =>
      simp only [if_true, bind_eq_ok] at loaded
      obtain ⟨server, _, port, _, mountpoint, _, username, _, password, _, loaded⟩ := loaded
      cases loaded
      exact .inr ⟨server, port, mountpoint, username, password, rfl⟩

theorem loadMasks_ok (loaded : loadMasks yaml root params = .ok params') :
    ¬ (params.enableRtcmTcpLoopback = true ∧ params.enableNtripRtcm = true) ∧
      ∃ rawObservationSystemMask ephemerisSystemMask, SupportedMask rawObservationSystemMask ∧
        SupportedMask ephemerisSystemMask ∧
        params' = { params with rawObservationSystemMask, ephemerisSystemMask } := by
  rw [loadMasks, bind_eq_ok] at loaded
  obtain ⟨raw, rawRead, loaded⟩ := loaded
  rw [bind_eq_ok] at loaded
  obtain ⟨ephemeris, ephemerisRead, loaded⟩ := loaded
  split_ifs at loaded with both
  · exact absurd loaded (runtimeError_ne_ok _ _)
  · cases loaded
    have default : SupportedMask (sysGps ||| sysBds) := .inr (.inr rfl)
    refine ⟨fun ⟨loopback, ntrip⟩ => both ?_, raw, ephemeris,
      parseGnssSystemMask_mask default rawRead, parseGnssSystemMask_mask default ephemerisRead, rfl⟩
    rw [loopback, ntrip]
    rfl

theorem resolvePath_exists {path baseDir resolved : List Char}
    (loaded : resolvePath files path baseDir = .ok resolved) : files.exists? resolved = true := by
  cases path with
  | nil => exact absurd loaded (runtimeError_ne_ok _ _)
  | cons c rest =>
      have found : ∀ expanded : List Char, (if !files.exists? (files.resolve baseDir expanded) then
          runtimeError ("Configured path does not exist: " ++
            String.ofList (files.resolve baseDir expanded))
        else pure (files.resolve baseDir expanded) : Load (List Char)) = .ok resolved →
          files.exists? resolved = true := by
        intro expanded accepted
        split_ifs at accepted with missing
        · exact absurd accepted (runtimeError_ne_ok _ _)
        · cases accepted
          simpa using missing
      rw [resolvePath] at loaded
      split_ifs at loaded
      · cases home : files.home with
        | none =>
            rw [home] at loaded
            exact absurd loaded (by simp [runtimeError, bind, Except.bind])
        | some homeDir =>
            rw [home] at loaded
            exact found _ loaded
      · exact found _ loaded

theorem yamlRecords_named {node : YamlNode} {records : List RcvConfigRecord}
    (loaded : yamlRecords yaml node = .ok records) :
    ∃ items : List (List Char × List Char), records = items.map fun item => .named item.1 item.2 := by
  have pairs : ∀ (entries : List (YamlNode × YamlNode)) (records : List RcvConfigRecord),
      yamlRecords yaml (.map entries) = .ok records →
      ∃ items : List (List Char × List Char), records = items.map fun item => .named item.1 item.2 := by
    intro entries
    induction entries with
    | nil =>
        intro records loaded
        cases loaded
        exact ⟨[], rfl⟩
    | cons entry entries ih =>
        intro records loaded
        rw [yamlRecords, List.mapM_cons, bind_eq_ok] at loaded
        obtain ⟨record, first, loaded⟩ := loaded
        rw [bind_eq_ok] at first
        obtain ⟨name, _, first⟩ := first
        rw [bind_eq_ok] at first
        obtain ⟨value, _, same⟩ := first
        cases same
        rw [bind_eq_ok] at loaded
        obtain ⟨others, rest, same⟩ := loaded
        cases same
        obtain ⟨items, rfl⟩ := ih others rest
        exact ⟨(name, value) :: items, rfl⟩
  cases node with
  | map entries => exact pairs entries records loaded
  | sequence items =>
      cases items with
      | nil => cases loaded; exact ⟨[], rfl⟩
      | cons item items => cases loaded
  | _ => cases loaded; exact ⟨[], rfl⟩

theorem loadReceiverConfigs_accepted {path : List Char} {records : List RcvConfigRecord}
    (loaded : loadReceiverConfigs yaml files path = .ok records) : AcceptedConfig records := by
  rw [loadReceiverConfigs] at loaded
  split_ifs at loaded
  · rw [bind_eq_ok] at loaded
    obtain ⟨node, _, read⟩ := loaded
    obtain ⟨items, rfl⟩ := yamlRecords_named read
    exact .yaml items
  · rw [loadUCenterConfig] at loaded
    split at loaded
    case h_1 => exact absurd loaded (runtimeError_ne_ok _ _)
    case h_2 text _ =>
      split at loaded
      case h_1 => cases loaded
      case h_2 parsed =>
        cases loaded
        exact .ucenter parsed

theorem loadReceiverConfig_ok {receiverConfigOverride configDir : List Char}
    (loaded : loadReceiverConfig yaml files root receiverConfigOverride configDir params = .ok params') :
    params' = { params with enableConfigBring := false } ∨
      ∃ receiverConfigPath receiverConfigs, files.exists? receiverConfigPath = true ∧
        AcceptedConfig receiverConfigs ∧ params' =
          { params with enableConfigBring := true, receiverConfigPath, receiverConfigs } := by
  rw [loadReceiverConfig, bind_eq_ok] at loaded
  obtain ⟨enableConfigBring, _, loaded⟩ := loaded
  cases enableConfigBring with
  | false =>
      cases loaded
      exact .inl rfl
  | true =>
      simp only [if_true, bind_eq_ok] at loaded
      obtain ⟨path, _, resolved, found, records, accepted, loaded⟩ := loaded
      cases loaded
      exact .inr ⟨resolved, records, resolvePath_exists found, loadReceiverConfigs_accepted accepted,
        rfl⟩

/-! ## The whole file -/

structure LoadedParams (files : FileSystem) (params : UbloxDriverParams) : Prop where
  serial : params.enableSerial = true
  oneSource : ¬ (params.enableRtcmTcpLoopback = true ∧ params.enableNtripRtcm = true)
  sources : RtcmSources params
  rawObservation : SupportedMask params.rawObservationSystemMask
  ephemeris : SupportedMask params.ephemerisSystemMask
  unconfigured : params.enableConfigBring = false →
    params.receiverConfigPath = [] ∧ params.receiverConfigs = []
  configured : params.enableConfigBring = true →
    files.exists? params.receiverConfigPath = true ∧ AcceptedConfig params.receiverConfigs

theorem loadUbloxDriverParams_ok {driverConfigFile receiverConfigOverride : List Char}
    (loaded : loadUbloxDriverParams yaml files driverConfigFile receiverConfigOverride = .ok params) :
    LoadedParams files params := by
  rw [loadUbloxDriverParams, bind_eq_ok] at loaded
  obtain ⟨root, _, loaded⟩ := loaded
  simp only [bind_eq_ok] at loaded
  obtain ⟨p1, serial, p2, rtcm, p3, ntrip, p4, masks, config⟩ := loaded
  obtain ⟨serialPort, serialBaudRate, rfl⟩ := loadSerial_ok serial
  obtain ⟨loopback, port, off, rfl⟩ := loadRtcmTcp_ok rtcm rfl
  obtain ⟨oneSource, raw, ephemeris, rawMask, ephemerisMask, rfl⟩ := loadMasks_ok masks
  rcases loadNtrip_ok ntrip with rfl | ⟨server, ntripPort, mountpoint, username, password, rfl⟩
  · rcases loadReceiverConfig_ok config with rfl | ⟨path, records, found, accepted, rfl⟩
    · exact ⟨rfl, oneSource, ⟨off, fun _ => ⟨rfl, rfl, rfl, rfl, rfl⟩⟩, rawMask, ephemerisMask,
        fun _ => ⟨rfl, rfl⟩, fun on => (by cases on)⟩
    · exact ⟨rfl, oneSource, ⟨off, fun _ => ⟨rfl, rfl, rfl, rfl, rfl⟩⟩, rawMask, ephemerisMask,
        fun off => (by cases off), fun _ => ⟨found, accepted⟩⟩
  · rcases loadReceiverConfig_ok config with rfl | ⟨path, records, found, accepted, rfl⟩
    · exact ⟨rfl, oneSource, ⟨off, fun none => (by cases none)⟩, rawMask, ephemerisMask,
        fun _ => ⟨rfl, rfl⟩, fun on => (by cases on)⟩
    · exact ⟨rfl, oneSource, ⟨off, fun none => (by cases none)⟩, rawMask, ephemerisMask,
        fun off => (by cases off), fun _ => ⟨found, accepted⟩⟩

end GnssParser
