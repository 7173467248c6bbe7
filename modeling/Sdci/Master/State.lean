/-!
# Connection states

A master begins in startup. A successful startup sequence leads to preoperate, the transition
command to established, and the first valid cycle behind it to operate.
-/

namespace Sdci

/-- How far the connection to the device has come. -/
inductive ConnectionState
  | startup
  /-- The transition command is out, and no valid cycle has confirmed it yet. -/
  | established
  | preoperate
  | operate
deriving DecidableEq, Repr

namespace ConnectionState

instance : Inhabited ConnectionState := ⟨startup⟩

/-- The name of the state. -/
def name : ConnectionState → String
  | startup => "STARTUP"
  | established => "ESTAB_COM"
  | preoperate => "PREOPERATE"
  | operate => "OPERATE"

end ConnectionState

end Sdci
