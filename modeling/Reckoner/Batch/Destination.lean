import Reckoner.Settings

/-!
# Destinations

Where the answers of a batch are written. A command line may name a path, leave it to the settings,
or put a divider where the path belongs, which leaves no place to write to.

**Results.**
* `path?_eq_none_iff`: only the destination `nowhere` has no path.
-/

namespace Reckoner
namespace Batch

/-- Where the answers of a batch are written. -/
inductive Destination where
  /-- To the path of the settings. -/
  | ofSettings
  | path (p : String)
  | nowhere
  deriving DecidableEq, Repr

namespace Destination

/-- The destination for a path that may be given. -/
def ofPath? : Option String → Destination
  | some p => path p
  | none => ofSettings

/-- The path to write to. -/
def path? (s : Settings) : Destination → Option String
  | ofSettings => some s.outputPath
  | path p => some p
  | nowhere => none

theorem path?_eq_none_iff (s : Settings) (d : Destination) : d.path? s = none ↔ d = nowhere := by
  cases d <;> simp [path?]

end Destination
end Batch
end Reckoner
