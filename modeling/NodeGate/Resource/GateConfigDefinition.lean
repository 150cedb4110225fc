import NodeGate.Resource.Schema

/-!
# The definition of the configuration

What the API server has to know to keep configurations: their names, the schema
of their settings and counts, and the columns in which they are listed.
-/

namespace NodeGate.GateConfigDefinition

open Json

/-- The group of the configuration's interface. -/
def group : String := "maroonedpods.io"

/-- The version of the configuration's interface. -/
def version : String := "v1alpha1"

/-- The kind of a configuration. -/
def kind : String := "MaroonedPodsConfig"

/-- The name of one configuration in paths. -/
def singular : String := "maroonedpodsconfig"

/-- The name of several configurations in paths. -/
def plural : String := "maroonedpodsconfigs"

/-- A field that has to be there. -/
def needed (name description : String) (schema : Schema) : String × FieldRole × Schema :=
  (name, { description := some description, required := true }, schema)

/-- A field that may be null or left out. -/
def optional (name description : String) (schema : Schema) : String × FieldRole × Schema :=
  (name, { description := some description, nullable := true }, schema)

/-- A count, zero when it is left out. -/
def counted (name description : String) (schema : Schema) : String × FieldRole × Schema :=
  (name, { description := some description, default := some 0 }, schema)

/-- The schema of a machine size. -/
def sizeSchema : Schema :=
  .record [
    needed "cpu" "Virtual CPU cores" (.natural "uint32"),
    needed "memoryMi" "Guest memory in MiB" (.natural "uint64")]

/-- The schema of what a node needs for itself. -/
def overheadSchema : Schema :=
  .record [
    needed "cpuMillis" "CPU in millicores" (.natural "uint64"),
    needed "memoryMi" "Memory in MiB" (.natural "uint64")]

/-- The schema of the settings. -/
def specSchema : Schema :=
  .record [
    counted "warmPoolSize" "Number of unclaimed pool VMIs to keep (creating + available)"
      (.natural "uint32"),
    optional "baseVMResources" "Minimum size of every VMI and the exact size of pool VMIs"
      sizeSchema,
    optional "overheadResources" "Added on top of the summed container requests of a pod"
      overheadSchema,
    optional "nodeImage" "Container disk image the node VMs boot from" (.text none),
    optional "nodeTaintKey" "Suffix of the per-pod node taint key" (.text none)]

/-- The schema of the counts. -/
def statusSchema : Schema :=
  .record [
    counted "warmPoolTotal" "Unclaimed pool VMIs (creating + available)" (.whole "int32"),
    counted "warmPoolAvailable" "Pool VMIs ready to be claimed" (.whole "int32"),
    counted "warmPoolClaimed" "Pool VMIs bound to a pod" (.whole "int32"),
    optional "lastPoolUpdate" "Last time the pool counts changed" (.text (some "date-time"))]

/-- The schema of a configuration. -/
def schema : Schema :=
  .record [
    ("spec", { required := true }, specSchema),
    ("status", { nullable := true }, statusSchema)]

/-- The document of the schema, with its title and description. -/
def schemaDocument : Json :=
  .obj <| Entries.ofPairs <|
    schema.members ++
      [("title", .str kind),
        ("description",
          .str ("Auto-generated derived type for " ++ kind ++ "Spec via `CustomResource`"))]

/-- A column of whole numbers in a listing. -/
def column (name path : String) : Json :=
  .obj [("jsonPath", .str path), ("name", .str name), ("type", .str "integer")]

/-- The version that is served and stored. -/
def servedVersion : Json :=
  .obj [
    ("additionalPrinterColumns", .arr [
      column "Desired" ".spec.warmPoolSize",
      column "Available" ".status.warmPoolAvailable",
      column "Claimed" ".status.warmPoolClaimed"]),
    ("name", .str version),
    ("schema", .obj [("openAPIV3Schema", schemaDocument)]),
    ("served", .bool true),
    ("storage", .bool true),
    ("subresources", .obj [("status", .obj [])])]

/-- The names by which configurations are known. -/
def names : Json :=
  .obj [
    ("categories", .arr []),
    ("kind", .str kind),
    ("plural", .str plural),
    ("shortNames", strings ["mpc"]),
    ("singular", .str singular)]

/-- The definition. -/
def document : Json :=
  .obj [
    ("apiVersion", .str "apiextensions.k8s.io/v1"),
    ("kind", .str "CustomResourceDefinition"),
    ("metadata", .obj [("name", .str (plural ++ "." ++ group))]),
    ("spec", .obj [
      ("group", .str group),
      ("names", names),
      ("scope", .str "Cluster"),
      ("versions", .arr [servedVersion])])]

end NodeGate.GateConfigDefinition
