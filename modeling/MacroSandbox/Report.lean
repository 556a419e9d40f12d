import MacroSandbox.State
import MacroSandbox.Encoding.Sha256

/-! What a run found out. -/

namespace MacroSandbox

structure Report where
  entryPoints : List String := []
  actions : List Action := []
  indicators : List String := []
  /-- What was written to memory, in the order of the addresses. -/
  memory : List UInt8 := []
  /-- The files that were closed, in the order of their names, with the digests of their
  contents. -/
  droppedFiles : List (String × String) := []
  errors : Nat := 0
  deriving Repr, DecidableEq, Inhabited

def Report.ofRun (run : Run) (entryPoints : List String) : Report :=
  { entryPoints
    actions := run.actions.toList
    indicators := run.indicators.toList
    memory := run.memory.image.data.toList
    droppedFiles := run.files.closed.toList.map fun (name, contents) =>
      (name, Sha256.digest contents)
    errors := run.errorCount }

end MacroSandbox
