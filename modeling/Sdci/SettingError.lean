import Sdci.SequenceType.Basic

/-!
# Rejected settings

A setting of a session is read from a text or a number, or changed while the session runs. A
rejected setting says which rule it breaks.
-/

namespace Sdci

/-- Why a setting is rejected. -/
inductive SettingError
  | unknownSequenceType
  | lengthNotAllowed (type : SequenceType) (inputLength outputLength : Nat)
  | lengthFixed (type : SequenceType)
  | unknownBaudRate
  | unknownPhyMode
deriving DecidableEq, Repr

namespace SettingError

/-- The sentence shown to the user. -/
def message : SettingError → String
  | unknownSequenceType => "Invalid M-sequence type"
  | lengthNotAllowed type inputLength outputLength =>
    s!"Invalid PD length for {type.name}: in={inputLength}, out={outputLength}"
  | lengthFixed type => s!"PD length is fixed for {type.name}"
  | unknownBaudRate => "Invalid baud rate"
  | unknownPhyMode => "Invalid PHY mode"

end SettingError

end Sdci
