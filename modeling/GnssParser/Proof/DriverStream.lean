import GnssParser.Proof.DriverManager
import GnssParser.Proof.UbxFraming

/-!
# What the driver publishes of a stream

Neither the sizes of the reads nor the interleaving of the threads change what is published.
-/

namespace GnssParser
open DriverEvent

/-- The messages `read_loop` hands to a callback. -/
def delivered (dataBuf : Vector UInt8 dataBufSize) (pieces : List (List UInt8)) : List (List UInt8) :=
  (readStream [()] dataBuf pieces).1.map Delivery.data

variable {pipelines pipelines' : Pipelines} {s s' : DriverState} {serial rtcm : List UInt8}

end GnssParser
