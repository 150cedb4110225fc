import NodeGate.Telemetry.Counters
import NodeGate.Text.Shortest

/-!
# The text exposition of the counters

Each family of series is introduced by a help line and a type line. Families
come in the order of their names and series in the order of their label values.
A labelled family has a series for each label value that was ever recorded, and
is left out without one. Values stop at the largest number of 64 bits with sign
and are written at double precision.
-/

namespace NodeGate.Telemetry

/-- A family of series: its name, its help text, its type, and the label part
and the value of each series. -/
structure Family where
  name : String
  help : String
  kind : String
  series : List (String × Nat)

/-- A value as exposed. -/
def exposedValue (value : Nat) : String :=
  Text.doubleText (min value (Nat.pow 2 63 - 1))

/-- The lines of a family. -/
def Family.text (family : Family) : String :=
  if family.series.isEmpty then ""
  else
    "# HELP " ++ family.name ++ " " ++ family.help ++ "\n" ++
      "# TYPE " ++ family.name ++ " " ++ family.kind ++ "\n" ++
      String.join (family.series.map fun (labels, value) =>
        family.name ++ labels ++ " " ++ exposedValue value ++ "\n")

/-- The label part of a series. -/
def labelPart (name value : String) : String :=
  "\x7b" ++ name ++ "=\"" ++ value ++ "\"\x7d"

/-- The series of label values that were recorded at least once. -/
def recorded (name : String) (counts : List (String × Nat)) : List (String × Nat) :=
  (counts.filter fun (_, count) => 0 < count).map fun (value, count) =>
    (labelPart name value, count)

/-- The families of the counters. -/
def families (counters : Counters) : List Family :=
  [ { name := "maroonedpods_queue_depth"
      help := "Pod keys waiting in the work queue"
      kind := "gauge"
      series := [("", counters.queueLength)] },
    { name := "maroonedpods_reconcile_total"
      help := "Pod reconciliations grouped by disposition"
      kind := "counter"
      series := recorded "disposition"
        ([Disposition.backOff, .forget, .immediate].map fun disposition =>
          (disposition.name, counters.passes disposition)) },
    { name := "maroonedpods_vmis_created_total"
      help := "VMIs created grouped by kind"
      kind := "counter"
      series := recorded "kind"
        [("dedicated", counters.created .dedicated), ("pool", counters.created .pool)] },
    { name := "maroonedpods_vmis_returned_total"
      help := "Claimed VMIs returned to the warm pool"
      kind := "counter"
      series := [("", counters.returned)] },
    { name := "maroonedpods_warm_pool_vmis"
      help := "Pool VMIs grouped by warm pool state"
      kind := "gauge"
      series :=
        match counters.pool with
        | none => []
        | some tally =>
          [(labelPart "state" PoolState.available.label, tally.available),
            (labelPart "state" PoolState.claimed.label, tally.claimed),
            (labelPart "state" PoolState.creating.label, tally.creating)] } ]

/-- The text exposition of the counters. -/
def exposition (counters : Counters) : String :=
  String.join ((families counters).map Family.text)

end NodeGate.Telemetry
