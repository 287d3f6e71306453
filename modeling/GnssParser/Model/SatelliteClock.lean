import GnssParser.Lib.ImplicitOffset
import GnssParser.Model.GloOrbit
import GnssParser.Model.Orbit

/-!
# Satellite clocks

`eph2svdt`, `geph2svdt` and the time of transmission that `sat_states` computes with them.
-/

namespace GnssParser
open ImplicitOffset

end GnssParser
