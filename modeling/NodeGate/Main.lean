import NodeGate.Json.Printer
import NodeGate.Resource.GateConfigDefinition

/-!
# The definition on standard output

Prints the definition of the configuration, to be handed to the API server.
-/

/-- Prints the definition of the configuration. -/
def main : IO Unit :=
  IO.println NodeGate.GateConfigDefinition.document.text
