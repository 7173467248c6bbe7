import Sdci.Proofs.Device.Frames
import Sdci.Proofs.Master.Transfer

/-!
# Transfers over the line to a device

A transfer over the line to a device is the device's exchange of the octets of the request, and then
of zeros, so it makes the device serve the request (`Master.play_transfer`).
-/

namespace Sdci

open Isdu

namespace Master

open Master.Action

variable {α : Type} {master : Master} {line : Device.Line}

/-- What the device does with a frame is all that a call does to it. -/
theorem play_send {frame : List UInt8} {next : Except Failure Unit → Dialogue α} :
    (Dialogue.ask (.send frame) next).play line =
      (next (.ok ())).play ⟨(line.device.handle frame).2, (line.device.handle frame).1⟩ := rfl

/-- In a round trip the device handles the frame, and its reply is what comes in. -/
theorem play_roundTrip {frame : List UInt8} {count timeout : Nat}
    {next : Option (List UInt8) → Dialogue (Except MasterError α × Master)} :
    (roundTrip master frame count timeout next).play line =
      (next (line.device.handle frame).1).play ⟨(line.device.handle frame).2, none⟩ := rfl

theorem play_announce {command : Command} {next : Dialogue (Except MasterError α × Master)} :
    (announce master command next).play line =
      next.play ⟨(line.device.handle (Frame.plain command.octet 0)).2, none⟩ := rfl

variable {origin : Master}

/-- An exchange over the line is one of the device. -/
theorem play_transferOctet (h : origin.Linked master)
    (hgeometry : line.device.geometry = origin.geometry) {octet : UInt8}
    (hspares : Spares line.device octet) (target : Target) :
    ∃ after, origin.Linked after ∧
      ((wire (transferOctet target octet) master).play line).1 =
        (.ok (line.device.exchange octet).1, after) ∧
      ((wire (transferOctet target octet) master).play line).2.device =
        (line.device.exchange octet).2 := by
  have hlinked := h
  obtain ⟨state, hstate, rfl⟩ := h
  obtain ⟨reply, hhandle, hresponse, hfirst⟩ := reaches_octetFrame hgeometry hspares
  refine ⟨_, hlinked.advance (.received reply), ?_⟩
  rw [wire_transferOctet _ hstate, octetFrame_enter, responseTo_enter, play_roundTrip, hhandle]
  simp [hresponse, Response.isValid, Response.onRequestData, hfirst]

/-- The device does not take any of the octets for a command, one after the other. -/
def SparesAll (device : Device) : List UInt8 → Prop
  | [] => True
  | octet :: rest => Spares device octet ∧ SparesAll (device.exchange octet).2 rest

theorem play_sendOctets (h : origin.Linked master)
    (hgeometry : line.device.geometry = origin.geometry) {octets : List UInt8}
    (hspares : SparesAll line.device octets) (target : Target) (answer : UInt8) :
    ∃ after, origin.Linked after ∧
      ((wire (sendOctets target answer octets) master).play line).1 =
        (.ok (line.device.exchangeAll answer octets).1, after) ∧
      ((wire (sendOctets target answer octets) master).play line).2.device =
        (line.device.exchangeAll answer octets).2 := by
  induction octets generalizing master line answer with
  | nil => exact ⟨master, h, rfl, rfl⟩
  | cons octet rest ih =>
    obtain ⟨middle, hmiddle, hresult, hdevice⟩ := play_transferOctet h hgeometry hspares.1 target
    have hgeometry' : ((wire (transferOctet target octet) master).play line).2.device.geometry =
        origin.geometry := by
      rw [hdevice, Device.geometry_exchange, hgeometry]
    obtain ⟨after, hafter, hrest, hend⟩ :=
      ih hmiddle hgeometry' (hdevice ▸ hspares.2) (line.device.exchange octet).1
    refine ⟨after, hafter, ?_⟩
    rw [sendOctets, wire_bind, Dialogue.play_bind, hresult, andThen_ok, hrest, hend, hdevice]
    exact ⟨rfl, rfl⟩

/-- The receiver of an idle device gets what the device has queued, and zeros behind it. -/
theorem play_listen {ρ : Type} [Receiver ρ α] (h : origin.Linked master)
    (hgeometry : line.device.geometry = origin.geometry) (hidle : line.device.intake = .idle)
    (target : Target) {receiver : ρ} {octet : UInt8} {zeros taken : Nat}
    {answer : Except TransferError α}
    (hfeed : Receiver.feedAll receiver (octet :: (line.device.outbound ++ List.replicate zeros 0)) =
      (taken + 1, some answer)) :
    ∃ after, origin.Linked after ∧
      ((wire (listen target receiver octet) master).play line).1 =
        (answer.mapError .transfer, after) ∧
      ((wire (listen target receiver octet) master).play line).2.device =
        { line.device with outbound := line.device.outbound.drop taken } := by
  induction receiver, octet using Receiver.feed_induction
    generalizing master line taken zeros with
  | done receiver octet result hdone =>
    rw [Receiver.feedAll_cons_of_done hdone] at hfeed
    cases hfeed
    rw [wire_listen_of_done master target hdone]
    exact ⟨master, h, rfl, rfl⟩
  | needData receiver octet next hneed ih =>
    rw [Receiver.feedAll_cons_of_needData hneed] at hfeed
    -- The octet that comes back next, be it queued or not, is the first one the receiver is fed.
    obtain ⟨more, hcoming⟩ : ∃ more, line.device.outbound ++ List.replicate zeros 0 =
        line.device.outbound.headD 0 :: (line.device.outbound.tail ++ List.replicate more 0) := by
      rcases hout : line.device.outbound with _ | ⟨value, queued⟩
      · cases zeros with
        | zero =>
          rw [hout] at hfeed
          cases hfeed
        | succ more => exact ⟨more, rfl⟩
      · exact ⟨zeros, rfl⟩
    rw [hcoming] at hfeed
    have hpos := Receiver.taken_cons_pos next (line.device.outbound.headD 0)
      (line.device.outbound.tail ++ List.replicate more 0)
    obtain ⟨htaken, hanswer⟩ := Prod.mk.inj hfeed
    obtain ⟨taken, rfl⟩ : ∃ fewer, taken = fewer + 1 := ⟨taken - 1, by omega⟩
    have hexchange : line.device.exchange 0 = (line.device.outbound.headD 0,
        { line.device with outbound := line.device.outbound.tail }) :=
      Device.exchange_of_idle hidle rfl
    obtain ⟨middle, hmiddle, hresult, hdevice⟩ :=
      play_transferOctet h hgeometry (spares_zero line.device) target
    rw [hexchange] at hresult hdevice
    have hqueued : ((wire (transferOctet target 0) master).play line).2.device.outbound =
        line.device.outbound.tail := by
      rw [hdevice]
    have hfeed' : Receiver.feedAll next (line.device.outbound.headD 0 ::
        (((wire (transferOctet target 0) master).play line).2.device.outbound ++
          List.replicate more 0)) = (taken + 1, some answer) := by
      rw [hqueued]
      exact Prod.ext (by omega) hanswer
    obtain ⟨after, hafter, hrest, hend⟩ :=
      ih _ hmiddle (by rw [hdevice]; exact hgeometry) (by rw [hdevice]; exact hidle) hfeed'
    refine ⟨after, hafter, ?_⟩
    rw [listen_of_needData target hneed, wire_bind, Dialogue.play_bind, hresult, andThen_ok, hrest,
      hend, hdevice, List.drop_tail]
    exact ⟨rfl, rfl⟩

theorem sparesAll_data {rest : List UInt8} {device : Device}
    (hintake : device.intake = .data rest.isEmpty) (octet : UInt8) (taken : Nat) :
    SparesAll device (octet :: (Segments.listFrom taken rest).flatMap Segment.octets) := by
  induction rest generalizing device octet taken with
  | nil =>
    refine ⟨fun hidle => ?_, trivial⟩
    cases hintake.symm.trans hidle
  | cons second rest ih =>
    have hdata : device.intake = .data false := hintake
    refine ⟨fun hidle => (by cases hdata.symm.trans hidle), ?_⟩
    rw [Segments.flatMap_octets_cons]
    have hcontrol : (device.exchange octet).2.intake = .control := by
      simp [Device.exchange, Device.takeOctet, hdata]
    refine ⟨fun hidle => (by cases hcontrol.symm.trans hidle), ih ?_ _ _⟩
    simp [Device.exchange, Device.takeOctet, hdata]

/-- No octet of a request is one that an idle device takes for a command. -/
theorem sparesAll_odOctets {device : Device} (hidle : device.intake = .idle) (request : Request) :
    SparesAll device request.odOctets := by
  obtain ⟨octet, rest, -, hoctets⟩ := request.exists_odOctets_eq
  rw [hoctets]
  refine ⟨fun _ command _ => ?_, ?_⟩
  · cases rest.isEmpty <;> cases command <;> decide
  · apply sparesAll_data
    simp [Device.exchange, Device.takeOctet, hidle]

/-- A transfer over the line to a device makes the device serve the request. Its result is that of
the receiver, which looks at what the device has queued then and at zeros behind it; what it does
not take stays queued. -/
theorem play_transfer {ρ : Type} [Receiver ρ α] (h : origin.Linked master)
    (hgeometry : line.device.geometry = origin.geometry) (hidle : line.device.intake = .idle)
    {request : Request} {receiver : ρ} {zeros taken : Nat} {answer : Except TransferError α}
    {served : Device} (hserved : (line.device.flushed request).serve request = served)
    (hqueued : served.outbound ≠ [])
    (hfeed : Receiver.feedAll receiver (served.outbound ++ List.replicate zeros 0) =
      (taken, some answer)) :
    ∃ after, origin.Linked after ∧
      ((wire (transfer request receiver) master).play line).1 =
        (answer.mapError .transfer, after) ∧
      ((wire (transfer request receiver) master).play line).2.device =
        { served with outbound := served.outbound.drop taken } := by
  obtain ⟨middle, hmiddle, hresult, hdevice⟩ := play_sendOctets h hgeometry
    (sparesAll_odOctets hidle request) request.target 0
  rw [Device.exchangeAll_odOctets hidle 0 hserved] at hresult hdevice
  obtain ⟨value, queued, hvalue⟩ := List.exists_cons_of_ne_nil hqueued
  have hgeometry' : served.geometry = origin.geometry := by
    rw [← hserved, Device.geometry_serve]
    exact hgeometry
  have hidle' : served.intake = .idle := by
    rw [← hserved, Device.intake_serve]
    rfl
  rw [hvalue] at hresult hdevice hfeed
  have hpos := Receiver.taken_cons_pos receiver value (queued ++ List.replicate zeros 0)
  rw [List.cons_append] at hfeed
  rw [hfeed] at hpos
  obtain ⟨taken, rfl⟩ : ∃ fewer, taken = fewer + 1 := ⟨taken - 1, (Nat.sub_add_cancel hpos).symm⟩
  have hheard : Receiver.feedAll receiver
      (value :: (((wire (sendOctets request.target 0 request.odOctets) master).play
        line).2.device.outbound ++ List.replicate zeros 0)) = (taken + 1, some answer) := by
    rw [hdevice]
    exact hfeed
  obtain ⟨after, hafter, hend, hleft⟩ := play_listen hmiddle (by rw [hdevice]; exact hgeometry')
    (by rw [hdevice]; exact hidle') request.target hheard
  refine ⟨after, hafter, ?_⟩
  rw [transfer, wire_bind, Dialogue.play_bind, hresult, andThen_ok]
  rw [hdevice] at hleft
  rw [hvalue]
  exact ⟨hend, hleft⟩

end Master

end Sdci
