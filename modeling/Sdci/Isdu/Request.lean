import Sdci.Text.Hex

/-!
# Parameter requests

A request reads or writes one parameter of the device, addressed by index and subindex. Its service
octets tell the device what to do: the service, the length of the data, the address and the data.
-/

namespace Sdci.Isdu

/-- What a request does with a parameter. -/
inductive Service
  | read
  | write
deriving DecidableEq, Repr

/-- The name of the service. -/
def Service.name : Service → String
  | read => "read"
  | write => "write"

/-- The service of a request and the parameter it is for. -/
structure Target where
  service : Service
  index : UInt16
  subindex : UInt8
deriving DecidableEq, Repr

/-- The address as reports write it. -/
def addressText (index : UInt16) (subindex : UInt8) : String :=
  s!"0x{Text.hexWord index}/{subindex.toNat}"

/-- The target as reports write it. -/
def Target.text (target : Target) : String :=
  s!"ISDU {target.service.name} {addressText target.index target.subindex}"

/-- The longest data of a write request, for its length must fit an octet. -/
def maxWriteLength : Nat := 255

/-- Why a parameter transfer fails. -/
inductive TransferError
  /-- A cycle of the transfer got no valid response. -/
  | noResponse (target : Target)
  /-- The device did not begin its answer. -/
  | noStart (target : Target) (polls : Nat)
  /-- The answer did not end. -/
  | overrun (target : Target) (length : Nat)
  /-- The device did not acknowledge a write. -/
  | noAcknowledgement (target : Target) (polls : Nat)
  /-- The data of a write is too long. -/
  | dataTooLong (length : Nat)
deriving DecidableEq, Repr

/-- The sentence shown to the user. -/
def TransferError.message : TransferError → String
  | noResponse target => s!"{target.text}: no valid response"
  | noStart target polls => s!"{target.text}: no start marker within {polls} polls"
  | overrun target length => s!"{target.text}: no last marker after {length} bytes"
  | noAcknowledgement target polls => s!"{target.text}: no acknowledgement within {polls} polls"
  | dataTooLong length => s!"ISDU write of {length} bytes, at most {maxWriteLength} allowed"

/-- A request for one parameter. -/
inductive Request
  | read (index : UInt16) (subindex : UInt8)
  | write (index : UInt16) (subindex : UInt8) (data : List UInt8)
    (length_le : data.length ≤ maxWriteLength)
deriving DecidableEq, Repr

namespace Request

/-- The request that writes `data`, unless it is too long. -/
def ofData (index : UInt16) (subindex : UInt8) (data : List UInt8) :
    Except TransferError Request :=
  if h : data.length ≤ maxWriteLength then
    .ok (.write index subindex data h)
  else
    .error (.dataTooLong data.length)

/-- What the request does and with which parameter. -/
def target : Request → Target
  | read index subindex => ⟨.read, index, subindex⟩
  | write index subindex .. => ⟨.write, index, subindex⟩

/-- The data to be written; a read has none. -/
def data : Request → List UInt8
  | read .. => []
  | write _ _ data _ => data

/-- The service octet of a read request. -/
def readService : UInt8 := 0x90

/-- The service octet of a write request with its length in the next octet. -/
def writeService : UInt8 := 0xA0

/-- The longest data whose length fits the service octet. -/
def maxShortLength : Nat := 15

/-- The octets of an address. -/
def addressOctets (index : UInt16) (subindex : UInt8) : List UInt8 :=
  [(index >>> 8).toUInt8, index.toUInt8, subindex]

/-- The octets of the request. The length of the data of a write is in the lower half of the
service octet when it is one to fifteen, and in an octet of its own otherwise. -/
def serviceOctets : Request → List UInt8
  | read index subindex => readService :: addressOctets index subindex
  | write index subindex data _ =>
    let length := data.length.toUInt8
    if 1 ≤ data.length ∧ data.length ≤ maxShortLength then
      (writeService ||| length) :: addressOctets index subindex ++ data
    else
      writeService :: length :: addressOctets index subindex ++ data

end Request

end Sdci.Isdu
