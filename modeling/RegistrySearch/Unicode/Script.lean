import RegistrySearch.Unicode.Script.AdlamToGeorgian
import RegistrySearch.Unicode.Script.GlagoliticToMiao
import RegistrySearch.Unicode.Script.ModiToZanabazar

/-!
# All scripts

The scripts in the order of their names.
-/

namespace RegistrySearch.Unicode

/-- All scripts. -/
def scripts : List Script :=
  scriptsAdlamToGeorgian ++ scriptsGlagoliticToMiao ++ scriptsModiToZanabazar

end RegistrySearch.Unicode
