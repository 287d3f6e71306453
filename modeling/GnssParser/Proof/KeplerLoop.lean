import GnssParser.Lib.Kepler
import GnssParser.Model.Orbit
import GnssParser.Proof.Eccentricity
import GnssParser.Proof.Published

/-!
# Convergence of Kepler's loop

`Kepler` on broadcast eccentricities, over the reals.
-/

namespace GnssParser
open Checked Elementary

section
variable {mk es x b : ℝ}

end

/-! ## Broadcast ephemerides -/

end GnssParser
