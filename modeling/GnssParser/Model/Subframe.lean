import GnssParser.Model.BitField
import GnssParser.Model.Ephemeris

/-!
# Navigation words

The loops shared by the subframe decoders: the words of an SFRBX payload and their bytes.
-/

namespace GnssParser
open Checked

/-- A message as a `const uint8_t *`. -/
def msgData (msg : List UInt8) : BytePtr := loadAt msg

/-- The ten navigation words of an SFRBX message, each passed through `trim`. -/
def navWords (trim : UInt32 → UInt32) (msg : List UInt8) : Checked (Vector UInt32 10) :=
  forRange (fun i words => do
    let word ← u32 ((msgData msg).add (14 + 4 * i))
    writeAt words i (trim word)) 0 10 (Vector.replicate 10 0)

/-- Stores the low `width` bits of ten words from byte `base` of a satellite's row on. -/
def storeWords (row : Row) (base width : Nat) (words : Vector UInt32 10) : Checked Row :=
  forRange (fun i row => do
    let word ← readAt words i
    setbitu row base (i * width) width word) 0 10 row

/-- The bytes of `count` navigation words, most significant first. -/
def navBytes {n : Nat} (count : Nat) (msg : List UInt8) (buff : Vector UInt8 n) :
    Checked (Vector UInt8 n) :=
  forRange (fun i buff =>
    forRange (fun j buff => do
      let b ← (msgData msg).add (14 + 4 * i) (3 - j)
      writeAt buff (4 * i + j) b) 0 4 buff) 0 count buff

end GnssParser
