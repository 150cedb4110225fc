import NodeGate.Json.Decode
import NodeGate.Time.Instant

/-!
# Object metadata

The part of an object that identifies and versions it, tells its owners and who
manages which of its fields. Every field may be absent; times are kept to the
second when written.
-/

namespace NodeGate

/-- A decoder of points in time. -/
def Instant.decode (json : Json) : Option Instant :=
  json.asText.bind Instant.parse

/-- An object that another one belongs to. -/
structure OwnerReference where
  apiVersion : String := ""
  kind : String := ""
  name : String := ""
  uid : String := ""
  /-- Whether the owner may not be gone before the object is. -/
  blockOwnerDeletion : Option Bool := none
  /-- Whether the owner controls the object. -/
  controller : Option Bool := none
deriving DecidableEq

/-- Who manages which fields of an object. -/
structure FieldManagement where
  manager : Option String := none
  operation : Option String := none
  subresource : Option String := none
  apiVersion : Option String := none
  /-- The form of the set of fields. -/
  fieldsType : Option String := none
  /-- The set of fields, whatever it looks like. -/
  fields : Option Json := none
  time : Option Instant := none
deriving DecidableEq

/-- What identifies and versions an object. -/
structure ObjectMeta where
  name : Option String := none
  /-- The namespace. -/
  space : Option String := none
  uid : Option String := none
  resourceVersion : Option String := none
  labels : Option (Entries String) := none
  annotations : Option (Entries String) := none
  finalizers : Option (List String) := none
  generateName : Option String := none
  generation : Option Int := none
  selfLink : Option String := none
  creationTimestamp : Option Instant := none
  deletionTimestamp : Option Instant := none
  deletionGracePeriodSeconds : Option Int := none
  owners : Option (List OwnerReference) := none
  management : Option (List FieldManagement) := none
deriving DecidableEq

open Json

/-- Decodes a reference to an owner. -/
def OwnerReference.decode (json : Json) : Option OwnerReference := do
  let fields ← asFields json
  some {
    apiVersion := ← orEmpty "apiVersion" "" asText fields
    kind := ← orEmpty "kind" "" asText fields
    name := ← orEmpty "name" "" asText fields
    uid := ← orEmpty "uid" "" asText fields
    blockOwnerDeletion := ← optional "blockOwnerDeletion" asBool fields
    controller := ← optional "controller" asBool fields }

/-- A reference to an owner, whose four names are always written. -/
def OwnerReference.toJson (owner : OwnerReference) : Json :=
  .obj <|
    ("apiVersion", .str owner.apiVersion) ::
    (present "blockOwnerDeletion" (owner.blockOwnerDeletion.map .bool) ++
      present "controller" (owner.controller.map .bool) ++
      [("kind", .str owner.kind), ("name", .str owner.name), ("uid", .str owner.uid)])

/-- Decodes who manages fields; the set of fields is kept as it is. -/
def FieldManagement.decode (json : Json) : Option FieldManagement := do
  let members ← asFields json
  some {
    manager := ← optional "manager" asText members
    operation := ← optional "operation" asText members
    subresource := ← optional "subresource" asText members
    apiVersion := ← optional "apiVersion" asText members
    fieldsType := ← optional "fieldsType" asText members
    fields := ← optional "fieldsV1" settled? members
    time := ← optional "time" Instant.decode members }

/-- What is told about the management of fields. -/
def FieldManagement.toJson (management : FieldManagement) : Json :=
  .obj <|
    present "apiVersion" (management.apiVersion.map .str) ++
    present "fieldsType" (management.fieldsType.map .str) ++
    present "fieldsV1" management.fields ++
    present "manager" (management.manager.map .str) ++
    present "operation" (management.operation.map .str) ++
    present "subresource" (management.subresource.map .str) ++
    present "time" (management.time.map (.str ·.textInSeconds))

namespace ObjectMeta

/-- A decoder of whole numbers of 64 bits. -/
def asLong : Json → Option Int :=
  asInt (-(Int.pow 2 63)) (Int.pow 2 63 - 1)

/-- Decodes metadata. -/
def decode (json : Json) : Option ObjectMeta := do
  let fields ← asFields json
  some {
    name := ← optional "name" asText fields
    space := ← optional "namespace" asText fields
    uid := ← optional "uid" asText fields
    resourceVersion := ← optional "resourceVersion" asText fields
    labels := ← optional "labels" asTextEntries fields
    annotations := ← optional "annotations" asTextEntries fields
    finalizers := ← optional "finalizers" asTexts fields
    generateName := ← optional "generateName" asText fields
    generation := ← optional "generation" asLong fields
    selfLink := ← optional "selfLink" asText fields
    creationTimestamp := ← optional "creationTimestamp" Instant.decode fields
    deletionTimestamp := ← optional "deletionTimestamp" Instant.decode fields
    deletionGracePeriodSeconds := ← optional "deletionGracePeriodSeconds" asLong fields
    owners := ← optional "ownerReferences" (asList OwnerReference.decode) fields
    management := ← optional "managedFields" (asList FieldManagement.decode) fields }

/-- The fields that are set. -/
def toJson (metadata : ObjectMeta) : Json :=
  .obj <|
    present "annotations" (metadata.annotations.map textEntries) ++
    present "creationTimestamp" (metadata.creationTimestamp.map (.str ·.textInSeconds)) ++
    present "deletionGracePeriodSeconds" (metadata.deletionGracePeriodSeconds.map .int) ++
    present "deletionTimestamp" (metadata.deletionTimestamp.map (.str ·.textInSeconds)) ++
    present "finalizers" (metadata.finalizers.map strings) ++
    present "generateName" (metadata.generateName.map .str) ++
    present "generation" (metadata.generation.map .int) ++
    present "labels" (metadata.labels.map textEntries) ++
    present "managedFields" (metadata.management.map fun management =>
      .arr (management.map FieldManagement.toJson)) ++
    present "name" (metadata.name.map .str) ++
    present "namespace" (metadata.space.map .str) ++
    present "ownerReferences" (metadata.owners.map fun owners =>
      .arr (owners.map OwnerReference.toJson)) ++
    present "resourceVersion" (metadata.resourceVersion.map .str) ++
    present "selfLink" (metadata.selfLink.map .str) ++
    present "uid" (metadata.uid.map .str)

/-- The value of a label. -/
def label? (key : String) (metadata : ObjectMeta) : Option String :=
  metadata.labels.bind (Entries.get? key)

/-- The name, or the empty text without one. -/
def nameOrEmpty (metadata : ObjectMeta) : String :=
  metadata.name.getD ""

end ObjectMeta

end NodeGate
