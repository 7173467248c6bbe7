import Sdci.Proofs.Device.Assembly
import Sdci.Proofs.Master.Run
import Sdci.Proofs.Reply

/-!
# Frames and replies between a master and a device

The device takes the first on-request data octet out of every frame that is in order, and the master
finds the one that it gave back in the response (`Master.Reaches`). An idle device takes some frames
of two octets for commands, and no device takes any notice of a damaged frame.
-/

namespace Sdci

open Isdu

/-- The same width of on-request data with another first octet. -/
def OnRequestData.withFirst (od : OnRequestData) (octet : UInt8) : OnRequestData :=
  match od with
  | one _ => one octet
  | two _ second => two octet second

section WithFirst

variable (od : OnRequestData) (octet : UInt8)

@[simp]
theorem OnRequestData.width_withFirst : (od.withFirst octet).width = od.width := by
  cases od <;> rfl

@[simp]
theorem OnRequestData.first_withFirst : (od.withFirst octet).first = octet := by
  cases od <;> rfl

end WithFirst

/-! ### Frames -/

namespace Frame

theorem xor_ne (checksum : UInt8) : checksum ^^^ 0xFF ≠ checksum := by
  intro heq
  have hzero : checksum ^^^ 0xFF ^^^ checksum = 0 := by rw [heq, UInt8.xor_self]
  rw [UInt8.xor_comm checksum, UInt8.xor_assoc, UInt8.xor_self, UInt8.xor_zero] at hzero
  cases hzero

end Frame

namespace Device

variable (device : Device)

theorem handle_plain (command : UInt8) :
    device.handle (Frame.plain command 0) = device.handlePlain command := by
  simp [handle, Frame.plain]

theorem handle_damage_plain (command : UInt8) :
    device.handle (Frame.damage (Frame.plain command 0)) = (none, device) := by
  have hne : Frame.plainChecksum command 0 ^^^ 0xFF ≠ Frame.plainChecksum command 0 :=
    Frame.xor_ne _
  simp [handle, Frame.plain, Frame.damage, hne]

/-- A frame of more than two octets has to have the length of the geometry and a right checksum. -/
theorem handle_append {body : List UInt8} (h : 2 ≤ body.length) (checksum : UInt8) :
    device.handle (body ++ [checksum]) =
      if body.length + 1 = device.geometry.requestLength ∧ checksum = Checksum.of body then
        device.handleCyclic body
      else
        (none, device) := by
  have hlast : (body ++ [checksum]).getLast? = some checksum := by simp
  have hinit : (body ++ [checksum]).dropLast = body := by simp
  have hlength : (body ++ [checksum]).length = body.length + 1 := by simp
  unfold handle
  split
  · next heq =>
    have hshort := congrArg List.length heq
    rw [hlength, List.length_cons, List.length_singleton] at hshort
    omega
  · simp only [hlast, hinit, hlength, Option.some.injEq]

/-- A damaged frame is dropped. -/
theorem handle_damage {body : List UInt8} (h : 2 ≤ body.length) :
    device.handle (Frame.damage (Checksum.attach body)) = (none, device) := by
  rw [Checksum.attach, Frame.damage_append, handle_append device h, if_neg]
  rintro ⟨-, heq⟩
  exact Frame.xor_ne _ heq

variable {device}

theorem handle_wakeUp (hidle : device.intake = .idle) :
    device.handle (Frame.plain Command.wakeUp.octet 0) = (none, device.reset) := by
  rw [handle_plain, handlePlain, if_pos hidle, if_pos rfl]

theorem handle_operate (hidle : device.intake = .idle) :
    device.handle (Frame.plain Command.operate.octet 0) = (none, device) := by
  rw [handle_plain, handlePlain, if_pos hidle, if_neg (by decide), if_pos rfl]

theorem handle_event (hidle : device.intake = .idle) :
    device.handle (Frame.plain Command.event.octet 0) = device.reportEvent := by
  rw [handle_plain, handlePlain, if_pos hidle, if_neg (by decide), if_neg (by decide), if_pos rfl]

end Device

namespace Geometry

variable (geometry : Geometry)

/-- The octets of a cyclic frame in front of the checksum. -/
def cyclicBody (processData : List UInt8) (od : OnRequestData) : List UInt8 :=
  Command.idle.octet :: 0 :: Master.fitLength geometry.outputLength processData ++ od.toList

theorem cyclicFrame_eq (processData : List UInt8) (od : OnRequestData) :
    geometry.cyclicFrame processData od = Checksum.attach (geometry.cyclicBody processData od) :=
  rfl

theorem length_cyclicBody (processData : List UInt8) (od : OnRequestData) :
    (geometry.cyclicBody processData od).length = 2 + geometry.outputLength + od.width := by
  simp [cyclicBody]
  omega

theorem drop_cyclicBody (processData : List UInt8) (od : OnRequestData) :
    (geometry.cyclicBody processData od).drop (2 + geometry.outputLength) = od.toList := by
  rw [cyclicBody, List.drop_left']
  simp
  omega

end Geometry

/-! ### Exchanges -/

namespace Master

open Master.Action

variable {master : Master} {device : Device}

/-- A well-formed reply is received. -/
theorem responseTo_octets {reply : Reply}
    (hdecode : Reply.decode? master.geometry.odWidth reply.octets = some reply)
    (hsum : Checksum.of reply.body = reply.checksum) :
    master.responseTo (some reply.octets) = .received reply := by
  simp [responseTo, checked, decoded, Response.decode, hdecode, Response.verdict, hsum]

/-- The frame brings an octet to the device, and what the device gives back to the master. -/
def Reaches (master : Master) (device : Device) (frame : List UInt8) (octet : UInt8) : Prop :=
  ∃ reply, device.handle frame = (some reply.octets, (device.exchange octet).2) ∧
    master.responseTo (some reply.octets) = .received reply ∧
    reply.onRequestData.first = (device.exchange octet).1

/-- An idle device does not take the octet for a command. -/
def Spares (device : Device) (octet : UInt8) : Prop :=
  device.intake = .idle → ∀ command : Command, command ≠ .idle → octet ≠ command.octet

theorem spares_zero (device : Device) : Spares device 0 := by
  rintro - command hcommand
  cases command <;> simp_all <;> decide

theorem handle_of_spares {octet : UInt8} (h : Spares device octet) :
    device.handle (Frame.plain octet 0) = device.answerPlain octet := by
  rw [Device.handle_plain, Device.handlePlain]
  by_cases hidle : device.intake = .idle
  · simp [hidle, h hidle .wakeUp, h hidle .operate, h hidle .event]
  · simp [hidle]

theorem reaches_plain {octet : UInt8} (h : Spares device octet) :
    master.Reaches device (Frame.plain octet 0) octet := by
  refine ⟨.short (device.exchange octet).1 (Checksum.of [(device.exchange octet).1]), ?_, ?_, rfl⟩
  · rw [handle_of_spares h]
    rfl
  · exact responseTo_octets rfl rfl

theorem reaches_cyclic (hgeometry : device.geometry = master.geometry)
    (hcyclic : master.geometry.isCyclic) {od : OnRequestData}
    (hwidth : od.width = master.geometry.odWidth) (processData : List UInt8) :
    master.Reaches device (master.geometry.cyclicFrame processData od) od.first := by
  let body := master.geometry.cyclicBody processData od
  have hlength : body.length + 1 = device.geometry.requestLength := by
    rw [hgeometry, Geometry.requestLength, if_pos hcyclic, ← hwidth,
      master.geometry.length_cyclicBody]
  have htwo : 2 ≤ body.length := by
    rw [master.geometry.length_cyclicBody]
    omega
  have hhandle : device.handle (master.geometry.cyclicFrame processData od) =
      device.handleCyclic body := by
    rw [Geometry.cyclicFrame_eq, Checksum.attach, Device.handle_append device htwo,
      if_pos ⟨hlength, rfl⟩]
  let answer := od.withFirst (device.exchange od.first).1
  let data := fitLength device.geometry.inputLength device.processData
  let reply : Reply := .cyclic (Device.status device.events) data answer
    (Checksum.of (Device.status device.events :: data ++ answer.toList))
  have hreply : device.handleCyclic body = (some reply.octets, (device.exchange od.first).2) := by
    have hod : body.drop (2 + device.geometry.outputLength) = od.toList := by
      rw [hgeometry, master.geometry.drop_cyclicBody]
    rw [Device.handleCyclic, hod]
    cases od <;> rfl
  have hdecode : Reply.decode? master.geometry.odWidth reply.octets = some reply := by
    have hfits : data.length ≤ SequenceType.maxLength := by
      rw [length_fitLength]
      exact device.geometry.inputLength_le
    have hanswer : answer.width = master.geometry.odWidth := by
      rw [OnRequestData.width_withFirst, hwidth]
    rw [← hanswer]
    exact Reply.decode?_cyclic _ answer _ hfits
  exact ⟨reply, hhandle.trans hreply, responseTo_octets hdecode rfl,
    OnRequestData.first_withFirst od _⟩

/-- The frame of an octet of a transfer brings that octet to the device. -/
theorem reaches_octetFrame (hgeometry : device.geometry = master.geometry) {octet : UInt8}
    (h : Spares device octet) : master.Reaches device (master.octetFrame octet) octet := by
  by_cases hcyclic : master.geometry.isCyclic
  · have hframe : master.octetFrame octet = master.geometry.cyclicFrame []
        (.ofFirst master.geometry.odWidth octet) := by
      rw [octetFrame, if_pos hcyclic, Geometry.cyclicFrame, fitLength_nil]
    have hreaches := reaches_cyclic hgeometry hcyclic (master.geometry.width_ofFirst octet) []
    rw [OnRequestData.first_ofFirst] at hreaches
    rw [hframe]
    exact hreaches
  · rw [octetFrame, if_neg hcyclic]
    exact reaches_plain h

/-! ### Events -/

/-- The master finds the next event in the reply of the device. -/
theorem eventIn_reportEvent (master : Master) (device : Device) :
    master.eventIn device.reportEvent.1 = device.events.head? := by
  rcases hevents : device.events with _ | ⟨code, events⟩
  · rw [Device.reportEvent, hevents]
    rfl
  · rw [Device.reportEvent, hevents]
    show (if _ ∧ _ then none else some (Device.word (code >>> 8).toUInt8 code.toUInt8)) = some code
    rw [Device.word_octets, if_neg]
    rintro ⟨-, hne⟩
    exact hne rfl

theorem snd_reportEvent (device : Device) :
    device.reportEvent.2 = { device with events := device.events.tail } := by
  rcases device with ⟨-, -, _ | ⟨code, events⟩, -, -, -, -, -⟩
  · rfl
  · rfl

end Master

end Sdci
