import Sdci.Bounded
import Sdci.Checksum
import Sdci.OnRequestData
import Sdci.SequenceType.Basic

/-!
# Replies of the device

A reply of two octets is on-request data and its checksum. A longer one is a status octet, process
data, on-request data and the checksum; the process data is what the other fields leave.
`Reply.decode?` finds the fields and `Reply.octets` puts them back. A response is a reply or the
absence of one. The width of the on-request data is a number of the caller; `Response.decode?` is
decoding with a sum that has to be a length.
-/

namespace Sdci

/-- The fields of a received reply. -/
inductive Reply
  /-- The form of two octets, without status and process data. -/
  | short (od checksum : UInt8)
  /-- The form of a cyclic exchange. -/
  | cyclic (status : UInt8) (processData : List UInt8) (od : OnRequestData) (checksum : UInt8)
deriving DecidableEq, Repr

namespace Reply

/-- The status octet; the short form stands for status zero. -/
def status : Reply → UInt8
  | short .. => 0
  | cyclic status .. => status

/-- The payload; that of the short form is its on-request data. -/
def payload : Reply → List UInt8
  | short od _ => [od]
  | cyclic _ processData .. => processData

/-- The on-request data. -/
def onRequestData : Reply → OnRequestData
  | short od _ => .one od
  | cyclic _ _ od _ => od

/-- The checksum as it was received. -/
def checksum : Reply → UInt8
  | short _ checksum | cyclic _ _ _ checksum => checksum

/-- The octets that the checksum covers. -/
def body : Reply → List UInt8
  | short od _ => [od]
  | cyclic status processData od _ => status :: processData ++ od.toList

/-- All octets of the reply. -/
def octets (reply : Reply) : List UInt8 :=
  reply.body ++ [reply.checksum]

/-- The longest reply of any geometry. -/
def maxLength : Nat := 1 + SequenceType.maxLength + 2 + 1

/-- The octets around the process data and the on-request data, and these. -/
def overhead (odWidth : Nat) : Nat := 2 + odWidth

/-- The fields behind the process data. Every width but two counts as one. -/
def trailer? (odWidth : Nat) : List UInt8 → Option (OnRequestData × UInt8)
  | [od, checksum] => if odWidth = 2 then none else some (.one od, checksum)
  | [first, second, checksum] => if odWidth = 2 then some (.two first second, checksum) else none
  | _ => none

/-- The fields behind a status octet, if they are those of a reply that is not too long. All but
`overhead` octets of the reply are process data. -/
def cyclic? (odWidth overhead : Nat) (status : UInt8) (rest : List UInt8) : Option Reply :=
  let length := rest.length + 1 - overhead
  match trailer? odWidth (rest.drop length) with
  | none => none
  | some (od, checksum) =>
    if rest.length + 1 ≤ maxLength ∧ length ≤ SequenceType.maxLength then
      some (.cyclic status (rest.take length) od checksum)
    else
      none

/-- The fields of a list of octets, if it has the form of a reply with on-request data of the given
width and is not too long. -/
def decode? (odWidth : Nat) : List UInt8 → Option Reply
  | [] => none
  | [od, checksum] => some (.short od checksum)
  | status :: rest => cyclic? odWidth (overhead odWidth) status rest

end Reply

/-- What came back in an exchange. -/
inductive Response
  /-- No usable reply, in a session with on-request data of the given width. -/
  | missing (odWidth : Nat)
  | received (reply : Reply)
deriving DecidableEq, Repr

/-- The outcome of comparing a response's checksum with its octets. -/
inductive Verdict
  | intact
  | mismatch (expected received : UInt8)
  | notReceived
deriving DecidableEq, Repr

namespace Response

/-- The response with a reply, or without one. -/
@[simp]
def ofReply? (odWidth : Nat) : Option Reply → Response
  | some reply => .received reply
  | none => .missing odWidth

/-- The response that a list of octets makes, where sums have no bound. -/
def decode (odWidth : Nat) (octets : List UInt8) : Response :=
  ofReply? odWidth (Reply.decode? odWidth octets)

/-- The response that a list of octets makes; `none` if the width is too large for a length to be
two more than it, and the form of the octets asks for that. -/
def decode? (odWidth : Nat) : List UInt8 → Option Response
  | status :: second :: third :: rest => do
    let overhead ← Bounded.add 2 odWidth
    return ofReply? odWidth (Reply.cyclic? odWidth overhead status (second :: third :: rest))
  | octets => some (decode odWidth octets)

/-- A reply was received. -/
def isValid : Response → Bool
  | missing _ => false
  | received _ => true

/-- The status octet, zero when there is none. -/
def status : Response → UInt8
  | missing _ => 0
  | received reply => reply.status

/-- The payload, empty when there is none. -/
def payload : Response → List UInt8
  | missing _ => []
  | received reply => reply.payload

/-- The on-request data, zeros of the session's width when there is none. -/
def onRequestData : Response → OnRequestData
  | missing odWidth => .ofFirst odWidth 0
  | received reply => reply.onRequestData

/-- The checksum as it was received, zero when there is none. -/
def checksum : Response → UInt8
  | missing _ => 0
  | received reply => reply.checksum

/-- The octets as they were received. -/
def octets : Response → List UInt8
  | missing _ => []
  | received reply => reply.octets

/-- The device has an event to report: the lowest bit of the status is set. -/
def hasEvent (response : Response) : Bool :=
  response.isValid && response.status &&& 0x01 ≠ 0

/-- Compare the checksum with the octets before it. -/
def verdict : Response → Verdict
  | missing _ => .notReceived
  | received reply =>
    if Checksum.of reply.body = reply.checksum then .intact
    else .mismatch (Checksum.of reply.body) reply.checksum

end Response

end Sdci
