import Sdci.Proofs.Master.Actions
import Sdci.Proofs.Reply

/-!
# Frames and replies within bounds

Frames are built octet by octet in a buffer of fixed size, and replies are taken apart by position.
Each of these operations has a range; `none` stands for leaving it. The frames and replies of every
geometry stay within all of them, and come out as they do without bounds.
-/

namespace Sdci.Bounded

variable {α : Type}

/-! ### Operations with a range -/

/-- The first elements, if there are as many. -/
def first (count : Nat) (list : List α) : Option (List α) :=
  if count ≤ list.length then some (list.take count) else none

/-- Put an element behind those in a buffer, if there is room for it. -/
def push (capacity : Nat) (buffer : List α) (element : α) : Option (List α) :=
  if buffer.length < capacity then some (buffer ++ [element]) else none

/-- Put elements behind those in a buffer, one after the other. -/
def pushAll (capacity : Nat) (buffer : List α) : List α → Option (List α)
  | [] => some buffer
  | element :: rest => do pushAll capacity (← push capacity buffer element) rest

theorem first_of_le {count : Nat} {list : List α} (h : count ≤ list.length) :
    first count list = some (list.take count) :=
  if_pos h

theorem push_of_lt {capacity : Nat} {buffer : List α} (h : buffer.length < capacity)
    (element : α) : push capacity buffer element = some (buffer ++ [element]) :=
  if_pos h

/-- Elements that fit into a buffer end up behind those that are there. -/
theorem pushAll_of_le {capacity : Nat} {buffer elements : List α}
    (h : buffer.length + elements.length ≤ capacity) :
    pushAll capacity buffer elements = some (buffer ++ elements) := by
  induction elements generalizing buffer with
  | nil => rw [pushAll, List.append_nil]
  | cons element rest ih =>
    rw [List.length_cons] at h
    rw [pushAll, push_of_lt (by omega), Option.bind_eq_bind, Option.bind_some, ih, List.append_assoc]
    · rfl
    · rw [List.length_append, List.length_singleton]
      omega

/-! ### Frames -/

/-- The frame without process data. -/
def plain (command typeOctet : UInt8) : Option (List UInt8) := do
  let frame ← push Frame.maxLength [] command
  push Frame.maxLength frame (Frame.plainChecksum command typeOctet)

theorem plain_eq (command typeOctet : UInt8) :
    plain command typeOctet = some (Frame.plain command typeOctet) := rfl

/-- The cyclic frame with the given fields. -/
def cyclic (geometry : Geometry) (command typeOctet : UInt8) (processData : List UInt8)
    (od : OnRequestData) : Option (Except FrameError (List UInt8)) :=
  if !geometry.isCyclic then
    some (.error .notCyclic)
  else if processData.length ≠ geometry.outputLength then
    some (.error (.processDataLength processData.length geometry.outputLength))
  else if od.width ≠ geometry.odWidth then
    some (.error (.onRequestDataLength od.width geometry.odWidth))
  else do
    let frame ← pushAll Frame.maxLength [] [command, typeOctet]
    let frame ← pushAll Frame.maxLength frame processData
    let frame ← pushAll Frame.maxLength frame od.toList
    let frame ← push Frame.maxLength frame (Frame.cyclicChecksum command typeOctet processData od)
    return .ok frame

/-- The longest cyclic frame fits into the buffer. -/
theorem cyclic_eq (geometry : Geometry) (command typeOctet : UInt8) (processData : List UInt8)
    (od : OnRequestData) :
    cyclic geometry command typeOctet processData od =
      some (Frame.cyclic geometry command typeOctet processData od) := by
  rw [cyclic, Frame.cyclic]
  split
  · rfl
  split
  · rfl
  split
  · rfl
  next hlength hwidth =>
  have hdata : processData.length ≤ 32 := by
    rw [Decidable.not_not.mp hlength]
    exact geometry.outputLength_le
  have hod : od.toList.length ≤ 2 := by cases od <;> simp [OnRequestData.toList]
  have hcapacity : Frame.maxLength = 37 := rfl
  have hhead : pushAll Frame.maxLength [] [command, typeOctet] = some [command, typeOctet] := rfl
  have hmiddle : pushAll Frame.maxLength [command, typeOctet] processData =
      some (command :: typeOctet :: processData) := by
    apply pushAll_of_le
    simp only [List.length_cons, List.length_nil]
    omega
  have htail : pushAll Frame.maxLength (command :: typeOctet :: processData) od.toList =
      some (command :: typeOctet :: processData ++ od.toList) := by
    apply pushAll_of_le
    simp only [List.length_cons]
    omega
  have hlast (checksum : UInt8) :
      push Frame.maxLength (command :: typeOctet :: processData ++ od.toList) checksum =
        some (command :: typeOctet :: processData ++ od.toList ++ [checksum]) := by
    apply push_of_lt
    simp only [List.length_append, List.length_cons]
    omega
  simp only [hhead, hmiddle, htail, hlast, Option.bind_eq_bind, Option.bind_some]
  rfl

/-- Process data cut, or filled up with zeros, to the given length. -/
def fitLength (length : Nat) (processData : List UInt8) : Option (List UInt8) := do
  let kept ← first (min processData.length length) processData
  return if processData.length ≠ length then kept.rightpad length 0 else kept

theorem fitLength_eq (length : Nat) (processData : List UInt8) :
    fitLength length processData = some (Master.fitLength length processData) := by
  have hkept : processData.take (min processData.length length) = processData.take length := by
    rw [Nat.min_comm, ← List.take_take, List.take_length]
  rw [fitLength, first_of_le (Nat.min_le_left ..), Option.bind_eq_bind, Option.bind_some, hkept,
    Master.fitLength]
  split
  · rfl
  · next hlength =>
    obtain rfl : processData.length = length := Decidable.not_not.mp hlength
    simp [List.rightpad]

/-! ### Replies -/

/-- The response that a list of octets makes. The payload of two octets is the first of them. -/
def decode (odWidth : Nat) (octets : List UInt8) : Option Response := do
  if octets.length = 2 then
    let _ ← first 1 octets
  Response.decode? odWidth octets

theorem decode_eq_decode? (odWidth : Nat) (octets : List UInt8) :
    decode odWidth octets = Response.decode? odWidth octets := by
  rw [decode]
  split
  · next h =>
    rw [first_of_le (by omega)]
    rfl
  · rfl

theorem decode_eq (geometry : Geometry) (octets : List UInt8) :
    decode geometry.odWidth octets = some (Response.decode geometry.odWidth octets) := by
  have htwo : geometry.odWidth = 1 ∨ geometry.odWidth = 2 := geometry.odWidth_eq_one_or_two
  rw [decode_eq_decode?, Response.decode?_of_lt]
  rw [Reply.lengthModulus]
  omega

/-- Compare the checksum with the octets before it. -/
def verdict : Response → Option Verdict
  | .missing _ => some .notReceived
  | .received reply => do
    let length ← sub reply.octets.length 1
    let body ← first length reply.octets
    return if Checksum.of body = reply.checksum then .intact
      else .mismatch (Checksum.of body) reply.checksum

/-- A reply that was received has an octet to compare. -/
theorem verdict_eq (response : Response) : verdict response = some response.verdict := by
  cases response with
  | missing odWidth => rfl
  | received reply =>
    have hlength : reply.octets.length - 1 = reply.body.length := by
      rw [Reply.octets, List.length_append, List.length_singleton]
      rfl
    have hbody : reply.octets.take reply.body.length = reply.body := List.take_left
    rw [verdict, sub_of_le (by simp [Reply.octets]), Option.bind_eq_bind, Option.bind_some, hlength,
      first_of_le (by simp [Reply.octets]), Option.bind_eq_bind, Option.bind_some, hbody]
    rfl

/-! ### Events -/

/-- The checksum of a reply to an event request is wrong, if that is looked at. -/
def eventMismatch (enforceChecksum : Bool) (octets : List UInt8) : Option Bool :=
  if enforceChecksum then do
    let body ← first 3 octets
    let checksum ← octets[3]?
    return decide (Checksum.of body ≠ checksum)
  else
    some false

/-- The event code in a reply to an event request. -/
def eventCode (octets : List UInt8) : Option UInt16 := do
  let upper ← octets[0]?
  let lower ← octets[1]?
  return upper.toUInt16 <<< 8 ||| lower.toUInt16

theorem eventMismatch_eq (enforceChecksum : Bool) (upper lower status checksum : UInt8) :
    eventMismatch enforceChecksum [upper, lower, status, checksum] =
      some (decide (enforceChecksum ∧ Checksum.of [upper, lower, status] ≠ checksum)) := by
  cases enforceChecksum with
  | false => rfl
  | true => simp [eventMismatch, first]

theorem eventCode_eq (upper lower status checksum : UInt8) :
    eventCode [upper, lower, status, checksum] =
      some (upper.toUInt16 <<< 8 ||| lower.toUInt16) := rfl

end Sdci.Bounded
