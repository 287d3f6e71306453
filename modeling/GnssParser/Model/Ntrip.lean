import GnssParser.Lib.Checked
import GnssParser.Lib.Search

/-!
# NTRIP client

The request of `NtripClient`, its handshake and the reading of `TcpClient` after it. A string is the
list of its bytes.
-/

namespace GnssParser
open Search

def ascii (text : String) : List UInt8 := text.toList.map fun c => UInt8.ofNat c.toNat

/-! ## Request -/

def kAlphabet : List UInt8 :=
  ascii "ABCDEFGHIJKLMNOPQRSTUVWXYZabcdefghijklmnopqrstuvwxyz0123456789+/"

def alphabetAt (bits : UInt32) : UInt8 := kAlphabet.getD (bits &&& 0x3F).toNat 0

/-- The characters of the loop over `bit_count` and the bits it leaves. -/
def emitSextets (accumulator : UInt32) : Nat → List UInt8 × Nat
  | bitCount + 6 =>
      let (output, left) := emitSextets accumulator bitCount
      (alphabetAt (accumulator >>> UInt32.ofNat bitCount) :: output, left)
  | bitCount => ([], bitCount)

structure Base64State where
  output : List UInt8
  accumulator : UInt32
  bitCount : Nat

def base64Step (s : Base64State) (ch : UInt8) : Base64State :=
  let accumulator := (s.accumulator <<< 8) ||| ch.toUInt32
  let (output, bitCount) := emitSextets accumulator (s.bitCount + 8)
  { output := s.output ++ output, accumulator, bitCount }

/-- The statements after the loop over the input. -/
def base64Finish (s : Base64State) : List UInt8 :=
  let output :=
    if s.bitCount > 0 then
      s.output ++ [alphabetAt (s.accumulator <<< UInt32.ofNat (6 - s.bitCount))]
    else s.output
  -- while (output.size() % 4 != 0)
  output ++ List.replicate ((4 - output.length % 4) % 4) 0x3D

def base64Encode (input : List UInt8) : List UInt8 :=
  base64Finish (input.foldl base64Step ⟨[], 0, 0⟩)

structure NtripClient where
  mountpoint : List UInt8
  username : List UInt8
  password : List UInt8

def crlf : List UInt8 := [0x0D, 0x0A]

def requestHead (client : NtripClient) : List UInt8 :=
  let mountpoint :=
    if ¬ client.mountpoint.isEmpty ∧ client.mountpoint.head? ≠ some 0x2F then
      0x2F :: client.mountpoint
    else client.mountpoint
  ascii "GET " ++ mountpoint ++ ascii " HTTP/1.0" ++ crlf ++
    ascii "User-Agent: NTRIP ublox_driver/1.0" ++ crlf ++
    ascii "Accept: */*" ++ crlf ++
    ascii "Connection: close" ++ crlf ++
    ascii "Ntrip-Version: Ntrip/2.0" ++ crlf

def buildRequest (client : NtripClient) : List UInt8 :=
  requestHead client ++
    (if ¬ client.username.isEmpty ∨ ¬ client.password.isEmpty then
      ascii "Authorization: Basic " ++
        base64Encode (client.username ++ 0x3A :: client.password) ++ crlf
    else []) ++ crlf

/-! ## Handshake -/

/-- The bytes one call of `recv` brings; at the end of a list of reads the peer has closed. -/
structure Read where
  bytes : List UInt8
  nonempty : bytes ≠ []

def kMaxNtripHeaderBytes : Nat := 8192

/-- The result of the call, the buffer and the reads that are left. -/
def readUntil (delimiter : List UInt8) (maxBytes : Nat) :
    List UInt8 → List Read → Bool × List UInt8 × List Read
  | buffer, [] => ((find delimiter buffer).isSome, buffer, [])
  | buffer, read :: reads =>
      if (find delimiter buffer).isSome then (true, buffer, read :: reads)
      else if buffer.length ≥ maxBytes then (false, buffer, read :: reads)
      else readUntil delimiter maxBytes (buffer ++ read.bytes) reads

def headerEnd : List UInt8 := crlf ++ crlf
def bareHeaderEnd : List UInt8 := [0x0A, 0x0A]

/-- The length of the header and that of its delimiter. -/
def headerBounds (response : List UInt8) : Option (Nat × Nat) :=
  match find headerEnd response with
  | some position => some (position, 4)
  | none => (find bareHeaderEnd response).map fun position => (position, 2)

/-- The bytes passed to the callbacks; none if the response is refused. -/
def parseResponse (response : List UInt8) : Option (List (List UInt8)) :=
  match headerBounds response with
  | none => none
  | some (headerLen, delimiterLen) =>
      let header := response.take headerLen
      let firstLine := header.takeWhile fun b => b ≠ 0x0D ∧ b ≠ 0x0A
      if ¬ (ascii "ICY 200").isPrefixOf firstLine ∧ ¬ (ascii "HTTP/1.0 200").isPrefixOf firstLine ∧
          ¬ (ascii "HTTP/1.1 200").isPrefixOf firstLine then none
      else
        let payloadOffset := headerLen + delimiterLen
        if payloadOffset < response.length then some [response.drop payloadOffset] else some []

/-- The dispatched bytes and the reads that are left once the request is written; none if the
handshake fails. -/
def onConnected (written : Bool) (reads : List Read) :
    Option (List (List UInt8)) × List Read :=
  if ¬ written then (none, reads)
  else
    match readUntil headerEnd kMaxNtripHeaderBytes [] reads with
    | (true, response, reads) => (parseResponse response, reads)
    | (false, response, reads) =>
        match readUntil bareHeaderEnd kMaxNtripHeaderBytes response reads with
        | (true, response, reads) => (parseResponse response, reads)
        | (false, _, reads) => (none, reads)

/-- The bytes `readLoop` dispatches until the peer closes. -/
def NtripClient.readLoop : List Read → List (List UInt8)
  | [] => []
  | read :: reads => read.bytes :: NtripClient.readLoop reads

end GnssParser
