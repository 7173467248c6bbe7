import Sdci.Isdu.Request
import Sdci.Link
import Sdci.Master.State
import Sdci.Text.Hex

/-!
# Notices

A master reports what it does in notices. A notice is a value; `Notice.level` and `Notice.text`
give its line in a log.
-/

namespace Sdci

open Text Isdu

/-- How much a notice matters. -/
inductive Notice.Level
  | debug
  | info
  | warn
deriving DecidableEq, Repr

/-- The name of the level. -/
def Notice.Level.name : Notice.Level → String
  | debug => "DEBUG"
  | info => "INFO"
  | warn => "WARN"

/-- What a master reports. -/
inductive Notice
  | stateChanged (source target : ConnectionState)
  | sending (frame : List UInt8)
  | received (octets : List UInt8)
  | silence
  | checksumMismatch (expected actual : UInt8)
  | startupBegins
  | communicationEstablished (attempt : Nat)
  | startupFailed
  | operateCommand
  | operateNotConfirmed
  | cycleBeforeStartup
  | processDataResized (source target : Nat)
  | faultsBegin (count : Nat)
  | faultsAnswered (answered count : Nat)
  | lengthsChanged (inputLength outputLength : Nat)
  | reconfigured (type : SequenceType) (inputLength outputLength : Nat)
  | phyModeChanged (source target : PhyMode)
  | baudRateRejected (name : String)
  | baudRateSet (rate : BaudRate)
  | eventBeforeStartup
  | eventReply (octets : List UInt8)
  | eventChecksumMismatch
  | eventReceived (code : UInt16)
  | readBegins (index : UInt16) (subindex : UInt8)
  | readEnds (length : Nat)
  | writeBegins (index : UInt16) (subindex : UInt8) (data : List UInt8)
  | writeEnds (acknowledgement : UInt8)
  | transferFailed (error : TransferError)
deriving DecidableEq, Repr

namespace Notice

/-- How much the notice matters. -/
def level : Notice → Level
  | sending _ | received _ | silence | processDataResized .. | eventBeforeStartup | eventReply _
  | readEnds _ | writeEnds _ => .debug
  | checksumMismatch .. | startupFailed | operateNotConfirmed | cycleBeforeStartup
  | faultsAnswered .. | baudRateRejected _ | eventChecksumMismatch | transferFailed _ => .warn
  | _ => .info

/-- The sentence in the log. -/
def text : Notice → String
  | stateChanged source target => s!"State {source.name} -> {target.name}"
  | sending frame => s!"Sending {hexList frame}"
  | received octets => s!"Received {hexList octets}"
  | silence => "No response (timeout)"
  | checksumMismatch expected actual =>
    s!"Dropped response with bad checksum (expected 0x{hexOctet expected}, "
      ++ s!"got 0x{hexOctet actual})"
  | startupBegins => "Starting startup sequence"
  | communicationEstablished attempt => s!"Communication established (attempt {attempt})"
  | startupFailed => "Startup failed, no valid response"
  | operateCommand => "Sending OPERATE transition command"
  | operateNotConfirmed => "No valid cyclic response after the transition command"
  | cycleBeforeStartup => "Cycle requested before startup, nothing sent"
  | processDataResized source target => s!"PD out resized from {source} to {target} bytes"
  | faultsBegin count => s!"Injecting {count} frames with bad checksums"
  | faultsAnswered answered count => s!"{answered} of {count} corrupted frames were answered"
  | lengthsChanged inputLength outputLength =>
    s!"PD length changed: in={inputLength}, out={outputLength}"
  | reconfigured type inputLength outputLength =>
    s!"Reconfigured to {type.name} (in={inputLength}, out={outputLength})"
  | phyModeChanged source target => s!"PHY mode {source.name} -> {target.name}"
  | baudRateRejected name => s!"Invalid baud rate: {name}"
  | baudRateSet rate => s!"Baud rate set to {rate.name} ({rate.bitsPerSecond} bit/s)"
  | eventBeforeStartup => "No event request before startup"
  | eventReply octets => s!"Event response {hexList octets}"
  | eventChecksumMismatch => "Dropped event response with bad checksum"
  | eventReceived code => s!"Event received: 0x{hexWord code}"
  | readBegins index subindex => s!"ISDU read {addressText index subindex}"
  | readEnds length => s!"ISDU read collected {length} bytes"
  | writeBegins index subindex data =>
    s!"ISDU write {addressText index subindex} {hexList data}"
  | writeEnds acknowledgement => s!"ISDU write acknowledged with 0x{hexOctet acknowledgement}"
  | transferFailed error => error.message

/-- The line in the log. -/
def line (notice : Notice) : String :=
  notice.level.name ++ " " ++ notice.text

end Notice

end Sdci
