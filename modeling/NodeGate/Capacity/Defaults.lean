import NodeGate.Resource.GateConfig

/-!
# Defaults of machines

The settings every machine starts from: those of the configuration, with each
one that is absent, zero or empty replaced by a built-in value.
-/

namespace NodeGate

/-- The settings that machines are built with. -/
structure MachineDefaults where
  baseCores : Nat := 2
  baseMemoryMi : Nat := 3072
  overheadCpuMillis : Nat := 500
  overheadMemoryMi : Nat := 512
  nodeImage : String := "quay.io/capk/ubuntu-2004-container-disk:v1.26.0"
  taintKey : String := standardTaintKey
deriving DecidableEq, Repr

namespace MachineDefaults

/-- The configured number, or the built-in one for zero. -/
def positiveOr (builtin configured : Nat) : Nat :=
  if configured = 0 then builtin else configured

/-- The configured text, or the built-in one when it is absent or empty. -/
def textOr (builtin : String) : Option String → String
  | some configured => if configured.isEmpty then builtin else configured
  | none => builtin

/-- The settings under a configuration, or without one. -/
def ofConfig (config : Option GateConfig) : MachineDefaults :=
  let builtin : MachineDefaults := {}
  match config with
  | none => builtin
  | some config =>
    let spec := config.spec
    { baseCores := positiveOr builtin.baseCores ((spec.base.map SizeSetting.cores).getD 0)
      baseMemoryMi :=
        positiveOr builtin.baseMemoryMi ((spec.base.map SizeSetting.memoryMi).getD 0)
      overheadCpuMillis :=
        positiveOr builtin.overheadCpuMillis
          ((spec.overhead.map OverheadSetting.cpuMillis).getD 0)
      overheadMemoryMi :=
        positiveOr builtin.overheadMemoryMi
          ((spec.overhead.map OverheadSetting.memoryMi).getD 0)
      nodeImage := textOr builtin.nodeImage spec.nodeImage
      taintKey := textOr builtin.taintKey spec.taintKey }

end MachineDefaults

end NodeGate
