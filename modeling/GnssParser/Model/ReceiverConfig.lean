import GnssParser.Lib.Text
import GnssParser.Model.Processor

/-!
# Receiver configuration

`ParseUCenterConfig` reads the records of a configuration file, `build_config_msg` writes them into
a UBX-CFG-VALSET message.
-/

namespace GnssParser
open Text Text.Run Checked

structure RcvConfigRecord where
  keyName : List Char := []
  valueText : List Char := []
  keyId : UInt32 := 0
  valueBytes : List UInt8 := []
  useRawKeyValue : Bool := false
  deriving DecidableEq

def RcvConfigRecord.named (name value : List Char) : RcvConfigRecord :=
  { keyName := name, valueText := value }

def RcvConfigRecord.raw (key : UInt32) (value : List UInt8) : RcvConfigRecord :=
  { keyId := key, valueBytes := value, useRawKeyValue := true }

/-- The size code of a key. -/
def valueSize (keyId : UInt32) : Nat := ((keyId >>> 28) &&& 0x07).toNat

def getValueByteCount (keyId : UInt32) : Nat :=
  if valueSize keyId > 2 then 1 <<< (valueSize keyId - 2) else 1

/-! ## u-center files -/

def trim (value : List Char) : List Char :=
  let blank (c : Char) : Bool := c = ' ' || c = '\t' || c = '\r' || c = '\n'
  ((value.dropWhile blank).reverse.dropWhile blank).reverse

def parseHexBytes (hexPayload : List Char) : Except Exception (List UInt8) :=
  (tokens hexPayload).mapM fun token => do
    let value ← stoull 16 token
    if value > 0xFF then .error .runtimeError else pure value.toUInt8

/-- The records from `offset` on and the offset at which the loop ends. -/
def walkRecords (bytes : List UInt8) (payloadEnd : Nat) :
    Nat → Nat → List RcvConfigRecord → Run (List RcvConfigRecord × Nat)
  | 0, offset, records => pure (records, offset)
  | fuel + 1, offset, records =>
      if offset + 4 ≤ payloadEnd then do
        let keyId ← checked (u32 (BytePtr.add (loadAt bytes) offset))
        let offset := offset + 4
        let valueByteCount := getValueByteCount keyId
        if offset + valueByteCount > payloadEnd then .error (.thrown .runtimeError)
        else
          let value := (bytes.drop offset).take valueByteCount
          walkRecords bytes payloadEnd fuel (offset + valueByteCount) (records ++ [.raw keyId value])
      else pure (records, offset)

/-- The hexadecimal text of a line that is a configuration message. -/
def cfgPayload (line : List Char) : Option (List Char) :=
  let trimmed := trim line
  match find " - ".toList trimmed with
  | none => none
  | some separator =>
      let messageName := trimmed.take separator
      if messageName ≠ "CFG-VALGET".toList ∧ messageName ≠ "CFG-VALSET".toList then none
      else some (trimmed.drop (separator + 3))

/-- The records of one line, after those of the lines before it. -/
def parseCfgLine (records : List RcvConfigRecord) (line : List Char) :
    Run (List RcvConfigRecord) :=
  match cfgPayload line with
  | none => pure records
  | some payload => do
      let bytes ← throwing (parseHexBytes payload)
      let byte (i : Nat) := bytes.getD i 0
      if bytes.length < 8 ∨ byte 0 ≠ 0x06 ∨ (byte 1 ≠ 0x8A ∧ byte 1 ≠ 0x8B) then
        .error (.thrown .runtimeError)
      else
        let payloadLen := ((byte 2).toUInt16 ||| ((byte 3).toUInt16 <<< 8)).toNat
        if bytes.length ≠ payloadLen + 4 then .error (.thrown .runtimeError)
        else if payloadLen < 4 then pure records
        else do
          let payloadEnd := payloadLen + 4
          let (records, offset) ← walkRecords bytes payloadEnd bytes.length 8 records
          if offset ≠ payloadEnd then .error (.thrown .runtimeError) else pure records

/-- The records of the text of a file. -/
def parseUCenterConfig (file : List Char) : Run (List RcvConfigRecord) := do
  let records ← (lines file).foldlM parseCfgLine []
  if records.isEmpty then .error (.thrown .runtimeError) else pure records

/-! ## UBX-CFG-VALSET -/

/-- `memcpy(buff + p, bytes.data(), bytes.size())` -/
def copyTo (buff : List UInt8) (p : Nat) (bytes : List UInt8) : Checked (List UInt8) :=
  if p + bytes.length ≤ buff.length then
    .ok (buff.take p ++ bytes ++ buff.drop (p + bytes.length))
  else .error (.outOfBounds (p + bytes.length) buff.length)

def littleEndian : Nat → Nat → List UInt8
  | 0, _ => []
  | n + 1, value => UInt8.ofNat value :: littleEndian n (value / 256)

/-- The buffer, the place of the next record and the length of the payload. -/
structure ConfigBuffer where
  buff : List UInt8
  p : Nat
  payloadLen : UInt16

def appendRecord (s : ConfigBuffer) (code : UInt32) (valueBytes : List UInt8)
    (valueNumBytes : UInt8) : Checked ConfigBuffer := do
  let n := valueNumBytes.toNat
  if valueBytes.length < n then .error (.outOfBounds n valueBytes.length)
  else do
    let buff ← copyTo s.buff s.p (littleEndian 4 code.toNat)
    let buff ← copyTo buff (s.p + 4) (valueBytes.take n)
    pure { buff, p := s.p + 4 + n, payloadLen := s.payloadLen + 4 + valueNumBytes.toUInt16 }

def rcvConfigItem2code : List (String × UInt32 × String) := [
  ("CFG-MSGOUT-UBX_NAV_HPPOSECEF", 0x2091002f, "U1"),
  ("CFG-MSGOUT-UBX_NAV_HPPOSLLH", 0x20910034, "U1"),
  ("CFG-MSGOUT-UBX_NAV_POSECEF", 0x20910025, "U1"),
  ("CFG-MSGOUT-UBX_NAV_POSLLH", 0x2091002A, "U1"),
  ("CFG-MSGOUT-UBX_NAV_PVT", 0x20910007, "U1"),
  ("CFG-MSGOUT-UBX_NAV_SAT", 0x20910016, "U1"),
  ("CFG-MSGOUT-UBX_NAV_STATUS", 0x2091001B, "U1"),
  ("CFG-MSGOUT-UBX_NAV_VELECEF", 0x2091003E, "U1"),
  ("CFG-MSGOUT-UBX_NAV_VELNED", 0x20910043, "U1"),
  ("CFG-MSGOUT-UBX_RXM_RAWX", 0x209102A5, "U1"),
  ("CFG-MSGOUT-UBX_RXM_SFRBX", 0x20910232, "U1"),
  ("CFG-NAVSPG-DYNMODEL", 0x20110021, "E1"),
  ("CFG-RATE-MEAS", 0x30210001, "U2"),
  ("CFG-RATE-NAV", 0x30210002, "U2"),
  ("CFG-RATE-TIMEREF", 0x20210003, "E1"),
  ("CFG-SIGNAL-GPS_ENA", 0x1031001F, "L"),
  ("CFG-SIGNAL-GPS_L1CA_ENA", 0x10310001, "L"),
  ("CFG-SIGNAL-GPS_L2CA_ENA", 0x10310003, "L"),
  ("CFG-SIGNAL-GAL_ENA", 0x10310021, "L"),
  ("CFG-SIGNAL-GAL_E1_ENA", 0x10310007, "L"),
  ("CFG-SIGNAL-GAL_E5B_ENA", 0x1031000A, "L"),
  ("CFG-SIGNAL-BDS_ENA", 0x10310022, "L"),
  ("CFG-SIGNAL-BDS_B1_ENA", 0x1031000D, "L"),
  ("CFG-SIGNAL-BDS_B2_ENA", 0x1031000E, "L"),
  ("CFG-SIGNAL-QZSS_ENA", 0x10310024, "L"),
  ("CFG-SIGNAL-QZSS_L1CA_ENA", 0x10310012, "L"),
  ("CFG-SIGNAL-QZSS_L2C_ENA", 0x10310015, "L"),
  ("CFG-SIGNAL-GLO_ENA", 0x10310025, "L"),
  ("CFG-SIGNAL-GLO_L1_ENA", 0x10310018, "L"),
  ("CFG-SIGNAL-GLO_L2_ENA", 0x1031001A, "L"),
  ("CFG-UART1-BAUDRATE", 0x40520001, "U4"),
  ("CFG-UART1-STOPBITS", 0x20520002, "E1"),
  ("CFG-UART1-DATABITS", 0x20520003, "E1"),
  ("CFG-UART1-PARITY", 0x20520004, "E1"),
  ("CFG-UART1-ENABLED", 0x10520005, "L"),
  ("CFG-UART1INPROT-UBX", 0x10730001, "L"),
  ("CFG-UART1INPROT-NMEA", 0x10730002, "L"),
  ("CFG-UART1INPROT-RTCM3X", 0x10730004, "L"),
  ("CFG-UART1OUTPROT-UBX", 0x10740001, "L"),
  ("CFG-UART1OUTPROT-NMEA", 0x10740002, "L"),
  ("CFG-UART1OUTPROT-RTCM3X", 0x10740004, "L"),
  ("CFG-UART2-BAUDRATE", 0x40530001, "U4"),
  ("CFG-UART2-STOPBITS", 0x20530002, "E1"),
  ("CFG-UART2-DATABITS", 0x20530003, "E1"),
  ("CFG-UART2-PARITY", 0x20530004, "E1"),
  ("CFG-UART2-ENABLED", 0x10530005, "L"),
  ("CFG-UART2INPROT-UBX", 0x10750001, "L"),
  ("CFG-UART2INPROT-NMEA", 0x10750002, "L"),
  ("CFG-UART2INPROT-RTCM3X", 0x10750004, "L"),
  ("CFG-UART2OUTPROT-UBX", 0x10760001, "L"),
  ("CFG-UART2OUTPROT-NMEA", 0x10760002, "L"),
  ("CFG-UART2OUTPROT-RTCM3X", 0x10760004, "L"),
  ("CFG-USB-ENABLED", 0x10650001, "L"),
  ("CFG-USBINPROT-UBX", 0x10770001, "L"),
  ("CFG-USBINPROT-NMEA", 0x10770002, "L"),
  ("CFG-USBINPROT-RTCM3X", 0x10770004, "L"),
  ("CFG-USBOUTPROT-UBX", 0x10780001, "L"),
  ("CFG-USBOUTPROT-NMEA", 0x10780002, "L"),
  ("CFG-USBOUTPROT-RTCM3X", 0x10780004, "L"),
  ("CFG-TP-PULSE_DEF", 0x20050023, "E1")]

def rcvConfigType2code : List (String × Nat) := [
  ("U1", 1), ("U2", 2), ("U4", 3), ("U8", 4), ("E1", 5), ("E2", 6), ("E4", 7), ("X1", 8), ("X2", 9),
  ("X4", 10), ("X8", 11), ("L", 12), ("I1", 13), ("I2", 14), ("I4", 15), ("I8", 16), ("R4", 17),
  ("R8", 18)]

def findItem (name : List Char) : Option (UInt32 × String) :=
  rcvConfigItem2code.lookup (String.ofList name)

/-- The key and the type of a named record; none if the command is not supported. -/
def recordCode (keyName : List Char) : Option (UInt32 × String) :=
  match findItem keyName with
  | some item => some item
  | none =>
      if "CFG-MSGOUT-UBX_NAV_".toList.isPrefixOf keyName then
        -- the parts before and after the last underscore
        let port := keyName.reverse.takeWhile (· ≠ '_') |>.reverse
        let msgoutType := keyName.take (keyName.length - port.length - 1)
        match findItem msgoutType with
        | none => none
        | some (base, dataType) =>
            if port = "UART1".toList then some (base, dataType)
            else if port = "UART2".toList then some (base + 1, dataType)
            else if port = "USB".toList then some (base + 2, dataType)
            else some (0, dataType)
      else none

/-- The eight bytes of the value of a named record. No item of the table has a floating-point
type. -/
def recordValue (dataType : String) (valueText : List Char) : Run (List UInt8) :=
  match rcvConfigType2code.lookup dataType with
  | none => .error (.thrown .outOfRange)
  | some type =>
      if type ≤ 12 then do
        let value ← throwing (stoull 10 valueText)
        pure (littleEndian 8 value.toNat)
      else if type ≤ 16 then do
        let value ← throwing (stoll valueText)
        pure (littleEndian 8 value.toUInt64.toNat)
      else .error (.undefined .badConversion)

/-- Appends one record; none is a failure. -/
def configRecord (s : ConfigBuffer) (record : RcvConfigRecord) : Run (Option ConfigBuffer) :=
  if record.useRawKeyValue then
    if record.valueBytes.isEmpty then pure none
    else do
      let n := UInt8.ofNat record.valueBytes.length
      pure (some (← checked (appendRecord s record.keyId record.valueBytes n)))
  else if record.keyName.isEmpty then pure none
  else
    match recordCode record.keyName with
    | none => pure none
    | some (code, dataType) => do
        let value ← recordValue dataType record.valueText
        let n := UInt8.ofNat (getValueByteCount code)
        pure (some (← checked (appendRecord s code value n)))

/-- The loop over the records; none is a failure. -/
def configRecords (s : ConfigBuffer) : List RcvConfigRecord → Run (Option ConfigBuffer)
  | [] => pure (some s)
  | record :: rest => do
      match ← configRecord s record with
      | none => pure none
      | some s => configRecords s rest

/-- `set_checksum` of the first `size` bytes. -/
def setChecksum (data : List UInt8) (size : Nat) : Checked (List UInt8) := do
  let (cka, ckb) ← forRange (fun i (cka, ckb) => do
    let cka := cka + (← loadAt data i)
    pure (cka, ckb + cka)) 2 (size - 2 - 2) ((0 : UInt8), (0 : UInt8))
  let data ← copyTo data (size - 2) [cka]
  copyTo data (size - 1) [ckb]

def kReceiverConfigBufferCapacity : Nat := 8192

def ubxCfgValsetHeader : List UInt8 :=
  -- the length at 4 and 5 is written last
  [ubxSync1, ubxSync2, 0x06, 0x8A]

/-- The code of the call, the buffer and `msg_len`. -/
def buildConfigMsg (rcvConfigs : List RcvConfigRecord) (buff : List UInt8) (msgLen : UInt32) :
    Run (Int × List UInt8 × UInt32) := do
  let buff ← checked (copyTo buff 0 ubxCfgValsetHeader)
  -- message version 0, RAM layer
  let buff ← checked (copyTo buff 6 [0, 1, 0, 0])
  match ← configRecords { buff, p := 10, payloadLen := 4 } rcvConfigs with
  | none => pure (-1, buff, msgLen)
  | some s => do
      let buff ← checked (copyTo s.buff 4 (littleEndian 2 s.payloadLen.toNat))
      let msgLen := 6 + s.payloadLen.toUInt32 + 2
      let buff ← checked (setChecksum buff msgLen.toNat)
      pure (0, buff, msgLen)

end GnssParser
