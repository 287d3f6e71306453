import GnssParser.Model.ReceiverConfig

/-!
# Parameters of the driver

`LoadUbloxDriverParams` over the nodes of a YAML document. The conversions of the YAML library and
the file system are parameters.
-/

namespace GnssParser
open Text

inductive YamlNode where
  | null
  | scalar (text : List Char)
  | sequence (items : List YamlNode)
  | map (entries : List (YamlNode × YamlNode))

structure YamlLibrary where
  /-- `YAML::Node().IsDefined()` -/
  emptyIsDefined : Bool
  /-- `as<std::string>()` of a node that is no scalar -/
  otherAsString : YamlNode → Option (List Char)
  asLong : YamlNode → Option Int64
  asUInt64 : YamlNode → Option UInt64

structure FileSystem where
  home : Option (List Char)
  /-- `YAML::LoadFile` -/
  loadFile : List Char → Option YamlNode
  /-- the text behind an `std::ifstream` that is good -/
  readFile : List Char → Option (List Char)
  /-- `absolute(path).parent_path()` -/
  parentPath : List Char → List Char
  /-- the normal form of a path, below the directory if it is relative -/
  resolve : List Char → List Char → List Char
  exists? : List Char → Bool
  extension : List Char → List Char

inductive ParamsError where
  | runtimeError (what : String)
  /-- an exception of the YAML library -/
  | yaml
  /-- `ParseUCenterConfig` does not return -/
  | receiverConfig (halt : Halt)

abbrev Load := Except ParamsError

def runtimeError {α : Type} (what : String) : Load α := .error (.runtimeError what)

def orThrow {α : Type} : Option α → Load α
  | none => .error .yaml
  | some value => .ok value

/-- `value.as<std::string>()`; no node is the empty one. -/
def YamlLibrary.asString (yaml : YamlLibrary) : Option YamlNode → Load (List Char)
  | some (.scalar text) => pure text
  | value => orThrow (yaml.otherAsString (value.getD .null))

def YamlLibrary.isDefined (yaml : YamlLibrary) (value : Option YamlNode) : Bool :=
  value.isSome || yaml.emptyIsDefined

/-! ## Fields -/

def toLower (value : List Char) : List Char := value.map Char.toLower

def parseBoolScalar (rawValue : List Char) (fieldName : String) : Load Bool :=
  let normalized := String.ofList (toLower (trim rawValue))
  if normalized = "1" ∨ normalized = "true" ∨ normalized = "yes" ∨ normalized = "on" then pure true
  else if normalized = "0" ∨ normalized = "false" ∨ normalized = "no" ∨ normalized = "off" then
    pure false
  else runtimeError ("Invalid boolean config value for '" ++ fieldName ++ "': " ++ String.ofList rawValue)

/-- The value of the first of the keys; none is the empty node. -/
def findFirstNode (keys : List String) : YamlNode → Option YamlNode
  | .map entries => entries.findSome? fun (key, value) =>
      match key with
      | .scalar currentKey => if String.ofList currentKey ∈ keys then some value else none
      | _ => none
  | _ => none

section
variable (yaml : YamlLibrary) (root : YamlNode)

def readRequiredAny {α : Type} (convert : Option YamlNode → Load α) (keys : List String)
    (fieldName : String) : Load α :=
  let value := findFirstNode keys root
  if !yaml.isDefined value then runtimeError ("Missing required config field: " ++ fieldName)
  else convert value

def readOptionalAny {α : Type} (convert : Option YamlNode → Load α) (keys : List String)
    (defaultValue : α) : Load α :=
  let value := findFirstNode keys root
  if !yaml.isDefined value then pure defaultValue else convert value

def readRequired {α : Type} (convert : Option YamlNode → Load α) (key : String) : Load α :=
  readRequiredAny yaml root convert [key] key

def readBoolNode (value : Option YamlNode) (fieldName : String) : Load Bool :=
  if !yaml.isDefined value then pure false
  else match value with
    | some (.scalar text) => parseBoolScalar text fieldName
    | _ => runtimeError ("Config field '" ++ fieldName ++ "' must be a scalar boolean value.")

def readBoolAny (keys : List String) (defaultValue required : Bool) (fieldName : String) :
    Load Bool :=
  let value := findFirstNode keys root
  if !yaml.isDefined value then
    if required then runtimeError ("Missing required config field: " ++ fieldName)
    else pure defaultValue
  else readBoolNode yaml value (if fieldName.isEmpty then keys.headD "" else fieldName)

def readBool (key : String) (defaultValue required : Bool) : Load Bool :=
  readBoolAny yaml root [key] defaultValue required key

def asLong (value : Option YamlNode) : Load Int64 := orThrow (yaml.asLong (value.getD .null))

def asUInt64 (value : Option YamlNode) : Load UInt64 := orThrow (yaml.asUInt64 (value.getD .null))

/-! ## Satellite systems -/

def parseSupportedGnssSystemName (rawValue : List Char) (fieldName : String) : Load Nat :=
  let normalized := String.ofList (toLower (trim rawValue))
  if normalized = "gps" then pure sysGps
  else if normalized = "bds" ∨ normalized = "beidou" then pure sysBds
  else runtimeError ("Config field '" ++ fieldName ++
    "' currently only supports GPS and BDS, but got: " ++ String.ofList rawValue)

def parseGnssSystemItem (key : String) (mask : Nat) : YamlNode → Load Nat
  | .scalar text => do pure (mask ||| (← parseSupportedGnssSystemName text key))
  | _ => runtimeError ("Config field '" ++ key ++ "' must contain scalar GNSS system names.")

def parseGnssSystemNode (key : String) : Option YamlNode → Load Nat
  | some (.scalar text) => do pure (0 ||| (← parseSupportedGnssSystemName text key))
  | some (.sequence items) => items.foldlM (parseGnssSystemItem key) 0
  | _ => runtimeError ("Config field '" ++ key ++ "' must be a scalar or sequence.")

def parseGnssSystemMask (key : String) (defaultMask : Nat) : Load Nat :=
  let value := findFirstNode [key] root
  if !yaml.isDefined value then pure defaultMask
  else do
    let mask ← parseGnssSystemNode key value
    if mask = 0 then runtimeError ("Config field '" ++ key ++ "' cannot be empty.") else pure mask

end

/-! ## Parameters -/

structure UbloxDriverParams where
  enableSerial : Bool := true
  serialPort : List Char := []
  serialBaudRate : Int64 := 921600
  enableRtcmTcpLoopback : Bool := false
  rtcmTcpPort : UInt64 := 0
  enableNtripRtcm : Bool := false
  ntripServer : List Char := []
  ntripPort : UInt64 := 0
  ntripMountpoint : List Char := []
  ntripUsername : List Char := []
  ntripPassword : List Char := []
  rawObservationSystemMask : Nat := sysGps ||| sysBds
  ephemerisSystemMask : Nat := sysGps ||| sysBds
  enableConfigBring : Bool := false
  receiverConfigPath : List Char := []
  receiverConfigs : List RcvConfigRecord := []

def resolvePath (files : FileSystem) (path baseDir : List Char) : Load (List Char) :=
  match path with
  | [] => runtimeError "Config path value cannot be empty."
  | c :: rest => do
      let expandedPath ← if c = '~' then
          match files.home with
          | none => runtimeError ("HOME is not set, cannot expand '~' in path: " ++ String.ofList path)
          | some homeDir => pure (homeDir ++ rest)
        else pure path
      let resolvedPath := files.resolve baseDir expandedPath
      if !files.exists? resolvedPath then
        runtimeError ("Configured path does not exist: " ++ String.ofList resolvedPath)
      else pure resolvedPath

section
variable (yaml : YamlLibrary) (files : FileSystem) (root : YamlNode)

def loadSerial (params : UbloxDriverParams) : Load UbloxDriverParams := do
  let enableSerial ← readBool yaml root "enable_serial" true true
  if !enableSerial then
    runtimeError ("Current driver_config.yaml only supports serial input. " ++
      "Please keep 'enable_serial' set to true/1.")
  else
    let serialPort ← readRequired yaml root yaml.asString "serial_port"
    let serialBaudRate ← readRequired yaml root (asLong yaml) "serial_baud_rate"
    pure { params with enableSerial, serialPort, serialBaudRate }

def loadRtcmTcp (params : UbloxDriverParams) : Load UbloxDriverParams := do
  let enableRtcmTcpLoopback ← readBoolAny yaml root ["enable_rtcm_tcp_loopback"] false false ""
  if enableRtcmTcpLoopback then
    let rtcmTcpPort ← readRequiredAny yaml root (asUInt64 yaml) ["rtcm_tcp_port"] "rtcm_tcp_port"
    pure { params with enableRtcmTcpLoopback, rtcmTcpPort }
  else pure { params with enableRtcmTcpLoopback }

def loadNtrip (params : UbloxDriverParams) : Load UbloxDriverParams := do
  let enableNtripRtcm ← readBoolAny yaml root ["enable_ntrip_rtcm"] false false ""
  if enableNtripRtcm then
    let ntripServer ← readRequiredAny yaml root yaml.asString ["ntrip_server"] "ntrip_server"
    let ntripPort ← readRequiredAny yaml root (asUInt64 yaml) ["ntrip_port"] "ntrip_port"
    let ntripMountpoint ←
      readRequiredAny yaml root yaml.asString ["ntrip_mountpoint"] "ntrip_mountpoint"
    let ntripUsername ← readOptionalAny yaml root yaml.asString ["ntrip_username"] []
    let ntripPassword ← readOptionalAny yaml root yaml.asString ["ntrip_password"] []
    pure { params with
      enableNtripRtcm, ntripServer, ntripPort, ntripMountpoint, ntripUsername, ntripPassword }
  else pure { params with enableNtripRtcm }

def loadMasks (params : UbloxDriverParams) : Load UbloxDriverParams := do
  let rawObservationSystemMask ←
    parseGnssSystemMask yaml root "raw_observation_systems" (sysGps ||| sysBds)
  let ephemerisSystemMask ←
    parseGnssSystemMask yaml root "ephemeris_systems" (sysGps ||| sysBds)
  if params.enableRtcmTcpLoopback && params.enableNtripRtcm then
    runtimeError "RTCM input cannot enable both loopback TCP and NTRIP at the same time."
  else pure { params with rawObservationSystemMask, ephemerisSystemMask }

/-- The records of a YAML map; the items of a sequence are no pairs. -/
def yamlRecords : YamlNode → Load (List RcvConfigRecord)
  | .map entries => entries.mapM fun (key, value) => do
      let name ← yaml.asString (some key)
      pure (.named name (← yaml.asString (some value)))
  | .sequence (_ :: _) => .error .yaml
  | _ => pure []

/-- `ParseUCenterConfig` of a path. -/
def loadUCenterConfig (path : List Char) : Load (List RcvConfigRecord) :=
  match files.readFile path with
  | none => runtimeError ("Unable to open receiver config file: " ++ String.ofList path)
  | some text =>
      match parseUCenterConfig text with
      | .error halt => .error (.receiverConfig halt)
      | .ok records => pure records

def loadReceiverConfigs (path : List Char) : Load (List RcvConfigRecord) :=
  let extension := String.ofList (toLower (files.extension path))
  if extension = ".yaml" ∨ extension = ".yml" then do
    yamlRecords yaml (← orThrow (files.loadFile path))
  else loadUCenterConfig files path

def configuredPath (receiverConfigOverride : List Char) : Load (List Char) :=
  if receiverConfigOverride.isEmpty then readRequired yaml root yaml.asString "config_path"
  else pure receiverConfigOverride

def loadReceiverConfig (receiverConfigOverride configDir : List Char) (params : UbloxDriverParams) :
    Load UbloxDriverParams := do
  let enableConfigBring ← readBool yaml root "enable_config_bring" false false
  if enableConfigBring then
    let path ← configuredPath yaml root receiverConfigOverride
    let receiverConfigPath ← resolvePath files path configDir
    let receiverConfigs ← loadReceiverConfigs yaml files receiverConfigPath
    pure { params with enableConfigBring, receiverConfigPath, receiverConfigs }
  else pure { params with enableConfigBring }

end

def loadUbloxDriverParams (yaml : YamlLibrary) (files : FileSystem)
    (driverConfigFile receiverConfigOverride : List Char) : Load UbloxDriverParams := do
  let root ← orThrow (files.loadFile driverConfigFile)
  let configDir := files.parentPath driverConfigFile
  let params ← loadSerial yaml root {}
  let params ← loadRtcmTcp yaml root params
  let params ← loadNtrip yaml root params
  let params ← loadMasks yaml root params
  loadReceiverConfig yaml files root receiverConfigOverride configDir params

end GnssParser
