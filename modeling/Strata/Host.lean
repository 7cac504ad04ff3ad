import Strata.Host.Network

/-!
What sources draw from: files, the table of system properties, the environment, and servers.
-/

namespace Strata

/-- The origins of properties outside of sources. -/
structure Host where
  files : Files := {}
  properties : Table String := .empty
  environment : Table String := .empty
  network : Network := {}

end Strata
