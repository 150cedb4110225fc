import NodeGate.Resource.Node
import NodeGate.Resource.Pod

/-!
# Tolerance of taints

Which tolerations let a pod run on a node in spite of a taint. A toleration
matches a taint by key, effect and value; without a key it matches every key,
but only by mere existence, and without an effect it matches every effect.
-/

namespace NodeGate

namespace Toleration

/-- Whether the mere existence of the taint is enough. -/
def isOfExistence (toleration : Toleration) : Bool :=
  toleration.operator == some "Exists"

/-- Whether the value of the taint must be the one of the toleration, which is
so without an operator too. -/
def isOfValue (toleration : Toleration) : Bool :=
  toleration.operator.getD "" == "" || toleration.operator == some "Equal"

/-- Whether the keys match. -/
def matchesKey (toleration : Toleration) (taint : Taint) : Bool :=
  if toleration.key.getD "" = "" then toleration.isOfExistence
  else toleration.key == some taint.key

/-- Whether the effects match. -/
def matchesEffect (toleration : Toleration) (taint : Taint) : Bool :=
  toleration.effect.getD "" == "" || toleration.effect == some taint.effect

/-- Whether the values match. -/
def matchesValue (toleration : Toleration) (taint : Taint) : Bool :=
  toleration.isOfExistence ||
    (toleration.isOfValue && toleration.value.getD "" == taint.value.getD "")

/-- Whether the toleration lets a pod run in spite of the taint. -/
def tolerates (toleration : Toleration) (taint : Taint) : Bool :=
  toleration.matchesKey taint && toleration.matchesEffect taint && toleration.matchesValue taint

end Toleration

/-- Whether a pod may run on nodes with the taint. -/
def Pod.tolerates (pod : Pod) (taint : Taint) : Bool :=
  ((pod.spec.bind PodSpec.tolerations).getD []).any (·.tolerates taint)

end NodeGate
