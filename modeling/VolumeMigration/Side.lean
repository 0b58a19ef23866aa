/-!
# The sides of a transfer
-/

namespace VolumeMigration

inductive Side where
  /-- The destination, which takes the data. -/
  | server
  /-- The source, which sends it. -/
  | client
deriving DecidableEq, Repr

namespace Side

def name : Side → String
  | server => "server"
  | client => "client"

instance : ToString Side := ⟨name⟩

end Side

end VolumeMigration
