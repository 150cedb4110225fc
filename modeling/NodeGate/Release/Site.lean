import NodeGate.Capacity.Defaults
import NodeGate.Cluster.Cache
import NodeGate.Settings

/-!
# The site of a pass

What a pass over a pod or over the pool sees: the cache and the settings of the
machines it may have to make.
-/

namespace NodeGate

/-- The cache, the join settings and the namespace of the pool. -/
structure Site where
  cache : Cache := {}
  join : JoinSettings := {}
  poolNamespace : String := controlNamespace

/-- The settings of machines under the configuration in effect. -/
def Site.defaults (site : Site) : MachineDefaults :=
  MachineDefaults.ofConfig site.cache.activeConfig?

end NodeGate
