import GnssParser.Lib.Checked

/-!
# Serial framing

`SerialHandler::read_loop` on a port whose bytes arrive in pieces, while `read_running_` stays true.
-/

namespace GnssParser
open Checked

def msgHeaderLen : Nat := 6

def dataBufSize : Nat := 8192

/-- A thread in `read_loop`. The unread bytes of the port arrive in `pieces`; `position` counts the
bytes read. -/
structure SerialReader (bufSize : Nat) where
  pieces : List (List UInt8)
  position : Nat
  dataBuf : Vector UInt8 bufSize

variable {n : Nat} {ι : Type}

/-! ## `read_exact` -/

/-- What `::read` does to the buffer. -/
def storeBytes (dataBuf : Vector UInt8 n) (off : Nat) : List UInt8 → Checked (Vector UInt8 n)
  | [] => pure dataBuf
  | b :: bytes => do
      let dataBuf ← writeAt dataBuf off b
      storeBytes dataBuf (off + 1) bytes

/-- The loop of `read_exact` into `data_buf_ + off`, with `total` bytes read. A call of `::read`
returns what it can of the next piece. An empty piece is a call to be repeated (`EINTR`, `EAGAIN`);
after the last one the stream has ended. -/
def readExactFrom (off len : Nat) : List (List UInt8) → Nat → Nat → Vector UInt8 n →
    Checked (Bool × SerialReader n)
  | [], total, position, dataBuf => pure (total = len, ⟨[], position, dataBuf⟩)
  | piece :: pieces, total, position, dataBuf =>
      if total < len then do
        let bytes := piece.take (len - total)
        let dataBuf ← storeBytes dataBuf (off + total) bytes
        let total := total + bytes.length
        let position := position + bytes.length
        if bytes.length < piece.length then
          -- the request is filled
          pure (total = len, ⟨piece.drop bytes.length :: pieces, position, dataBuf⟩)
        else readExactFrom off len pieces total position dataBuf
      else pure (total = len, ⟨piece :: pieces, position, dataBuf⟩)

def readExact (off len : Nat) (r : SerialReader n) : Checked (Bool × SerialReader n) :=
  readExactFrom off len r.pieces 0 r.position r.dataBuf

/-! ## `read_loop` -/

/-- The first index of the preamble among the `k` from `i` on, or `i + k`. -/
def preamIdx (dataBuf : Vector UInt8 n) (i : Nat) : Nat → Checked Nat
  | 0 => pure i
  | k + 1 => do
      if (← readAt dataBuf i) = 0xB5 then
        if (← readAt dataBuf (i + 1)) = 0x62 then pure i else preamIdx dataBuf (i + 1) k
      else preamIdx dataBuf (i + 1) k

/-- `memmove(data_buf_, data_buf_ + pream_idx, len)` -/
def moveDown (dataBuf : Vector UInt8 n) (preamIdx len : Nat) : Checked (Vector UInt8 n) :=
  forRange (fun i buf => do
    let b ← readAt buf (preamIdx + i)
    writeAt buf i b) 0 len dataBuf

/-- The search for a header, for at most `fuel` rounds. A failed read leaves it like a header. -/
def searchHeader : Nat → SerialReader n → Checked (Option (SerialReader n))
  | 0, _ => pure none
  | fuel + 1, r => do
      let headerRemains ← preamIdx r.dataBuf 0 (msgHeaderLen - 1)
      if headerRemains = 0 then pure (some r)
      else do
        let dataBuf ← moveDown r.dataBuf headerRemains (msgHeaderLen - headerRemains)
        let (ok, r) ← readExact (msgHeaderLen - headerRemains) headerRemains { r with dataBuf }
        if ok then searchHeader fuel r else pure (some r)

/-- What one round of `read_loop` ends with. -/
inductive ReadRound (n : Nat) where
  | left
  | outOfFuel
  | message (len : Nat) (r : SerialReader n)

def msgLen (r : SerialReader n) : Checked Nat := do
  pure (← u16 (BytePtr.add (readAt r.dataBuf) 4)).toNat

def readRound (fuel : Nat) (r : SerialReader n) : Checked (ReadRound n) := do
  let (ok, r) ← readExact 0 msgHeaderLen r
  if !ok then pure .left
  else
    match ← searchHeader fuel r with
    | none => pure .outOfFuel
    | some r => do
        let (ok, r) ← readExact msgHeaderLen ((← msgLen r) + 2) r
        if !ok then pure .left else pure (.message (msgHeaderLen + (← msgLen r) + 2) r)

/-- A call of a data callback, with the stream position of the bytes it gets. -/
structure Delivery (ι : Type) where
  callback : ι
  start : Nat
  data : List UInt8

/-- How a run of `read_loop` ends. -/
inductive Stop where
  | left
  | outOfFuel
  | fault (e : Fault)
  deriving DecidableEq

/-- The calls of `data_callbacks_` until the loop is left or a statement is undefined. -/
def readLoop (dataCallbacks : List ι) : Nat → SerialReader n → List (Delivery ι) × Stop
  | 0, _ => ([], .outOfFuel)
  | fuel + 1, r =>
      match readRound (fuel + 1) r with
      | .error e => ([], .fault e)
      | .ok .left => ([], .left)
      | .ok .outOfFuel => ([], .outOfFuel)
      | .ok (.message len r) =>
          let calls := dataCallbacks.map fun c => ⟨c, r.position - len, r.dataBuf.toList.take len⟩
          let rest := readLoop dataCallbacks fuel r
          (calls ++ rest.1, rest.2)

/-- A run on a stream that arrives in `pieces`; every round reads a byte at least. -/
def readStream (dataCallbacks : List ι) (dataBuf : Vector UInt8 n) (pieces : List (List UInt8)) :
    List (Delivery ι) × Stop :=
  readLoop dataCallbacks (pieces.flatten.length + 1) ⟨pieces, 0, dataBuf⟩

end GnssParser
