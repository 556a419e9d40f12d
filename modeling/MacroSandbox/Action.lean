/-! What an emulated program did that an analyst cares about. -/

namespace MacroSandbox

structure Action where
  kind : String
  value : String
  description : String
  deriving Repr, DecidableEq, Inhabited

end MacroSandbox
