import Sdci.SettingError
import Sdci.Text.Blank

/-!
# Settings of the physical link

The transmission rate, and the mode of the line: communication (SDCI) or a plain switching signal
(SIO). Both are read from their names, whatever the letter case and the blanks around them.
-/

namespace Sdci

open Text

/-- The transmission rates. -/
inductive BaudRate
  | com1
  | com2
  | com3
deriving DecidableEq, Repr

namespace BaudRate

instance : Inhabited BaudRate := ⟨com2⟩

/-- Bits per second. -/
def bitsPerSecond : BaudRate → Nat
  | com1 => 4800
  | com2 => 38400
  | com3 => 230400

/-- The name of the rate. -/
def name : BaudRate → String
  | com1 => "COM1"
  | com2 => "COM2"
  | com3 => "COM3"

/-- The rate with the given name. -/
def ofText (text : String) : Except SettingError BaudRate :=
  match [com1, com2, com3].find? (·.name.toList == normalize text) with
  | some rate => .ok rate
  | none => .error .unknownBaudRate

end BaudRate

/-- The modes of the line. -/
inductive PhyMode
  | sdci
  | sio
deriving DecidableEq, Repr

namespace PhyMode

instance : Inhabited PhyMode := ⟨sdci⟩

/-- The name of the mode, as reports write it. -/
def name : PhyMode → String
  | sdci => "Sdci"
  | sio => "Sio"

/-- The name of the mode, as it is typed. -/
def keyword : PhyMode → String
  | sdci => "SDCI"
  | sio => "SIO"

/-- The mode with the given name. -/
def ofText (text : String) : Except SettingError PhyMode :=
  match [sdci, sio].find? (·.keyword.toList == normalize text) with
  | some mode => .ok mode
  | none => .error .unknownPhyMode

end PhyMode

end Sdci
