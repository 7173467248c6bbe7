import Sdci.Device
import Sdci.Proofs.Isdu.Answers

/-!
# How a device takes a request

The octets of a request, given to an idle device one after the other, make it execute the request
(`Device.exchangeAll_odOctets`): a read queues the value of the parameter, and a write sets it and
queues a zero.
-/

namespace Sdci.Device

open Isdu

/-! ### Service octets -/

/-- The octets of a number make the number. -/
@[simp]
theorem word_octets (number : UInt16) : word (number >>> 8).toUInt8 number.toUInt8 = number := by
  apply UInt16.toNat_inj.mp
  have hlt := number.toNat_lt
  have hlower : number.toNat % 256 < 2 ^ 8 := Nat.mod_lt _ (by decide)
  have hupper : number.toNat / 256 % 256 * 256 % 65536 = (number.toNat / 256) <<< 8 := by
    rw [Nat.shiftLeft_eq]
    omega
  simp [word, Nat.shiftLeft_eq, Nat.shiftRight_eq_div_pow]
  rw [hupper, ← Nat.shiftLeft_add_eq_or_of_lt hlower, Nat.shiftLeft_eq]
  omega

theorem readKey?_read (index : UInt16) (subindex : UInt8) :
    readKey? (Request.read index subindex).serviceOctets = some (index, subindex) := by
  simp [Request.serviceOctets, Request.addressOctets, readKey?]

/-- The service octet of a short write states the service and the length. -/
theorem short_service {length : Nat} (h : 1 ≤ length ∧ length ≤ Request.maxShortLength) :
    (Request.writeService ||| length.toUInt8) &&& 0xF0 = Request.writeService ∧
      (Request.writeService ||| length.toUInt8) &&& 0x0F ≠ 0 ∧
      ((Request.writeService ||| length.toUInt8) &&& 0x0F).toNat = length := by
  obtain ⟨hpos, hle⟩ := h
  have hall : ∀ length : Fin 16, 1 ≤ length.val →
      (Request.writeService ||| length.val.toUInt8) &&& 0xF0 = Request.writeService ∧
        (Request.writeService ||| length.val.toUInt8) &&& 0x0F ≠ 0 ∧
        ((Request.writeService ||| length.val.toUInt8) &&& 0x0F).toNat = length.val := by
    decide
  exact hall ⟨length, by rw [Request.maxShortLength] at hle; omega⟩ hpos

theorem readKey?_of_service {service : UInt8} (h : service &&& 0xF0 = Request.writeService)
    (rest : List UInt8) : readKey? (service :: rest) = none := by
  unfold readKey?
  split
  · next heq =>
    cases heq
    rw [if_neg]
    rintro rfl
    exact absurd h (by decide)
  · rfl

theorem writtenValue?_write (index : UInt16) (subindex : UInt8) {data : List UInt8}
    (h : data.length ≤ maxWriteLength) :
    readKey? (Request.write index subindex data h).serviceOctets = none ∧
      writtenValue? (Request.write index subindex data h).serviceOctets =
        some ((index, subindex), data) := by
  rw [Request.serviceOctets]
  by_cases hshort : 1 ≤ data.length ∧ data.length ≤ Request.maxShortLength
  · obtain ⟨hservice, hne, hlength⟩ := short_service hshort
    simp only [hshort, and_self, if_true, List.cons_append]
    refine ⟨readKey?_of_service hservice _, ?_⟩
    simp [writtenValue?, writeLength, hservice, hne, hlength, Request.addressOctets]
  · simp only [hshort, if_false, List.cons_append]
    refine ⟨readKey?_of_service rfl _, ?_⟩
    have hlength : data.length.toUInt8.toNat = data.length := by
      rw [maxWriteLength] at h
      simp
      omega
    have hservice : Request.writeService &&& 0x0F = 0 := rfl
    have hservice' : Request.writeService &&& 0xF0 = Request.writeService := rfl
    simp [writtenValue?, writeLength, hservice, hservice', hlength, Request.addressOctets]

variable (device : Device)

/-- What the device does with a request: it queues the value of a parameter, or sets it and queues a
zero. -/
def serve (device : Device) : Request → Device
  | .read index subindex => device.queue ((device.parameters (index, subindex)).getD [])
  | .write index subindex data _ =>
    { device with parameters := device.parameters.set (index, subindex) data }.queue [0]

theorem execute_serviceOctets (request : Request) :
    device.execute request.serviceOctets = device.serve request := by
  cases request with
  | read index subindex => simp [execute, readKey?_read, serve]
  | write index subindex data length_le =>
    obtain ⟨hkey, hwritten⟩ := writtenValue?_write index subindex length_le
    simp [execute, hkey, hwritten, serve]

/-! ### On-request data octets -/

/-- Exchange octets one after the other; the result is what comes back with the last one, or
`answer` if there are none. -/
def exchangeAll (device : Device) (answer : UInt8) : List UInt8 → UInt8 × Device
  | [] => (answer, device)
  | octet :: rest =>
    let (answer, device) := device.exchange octet
    device.exchangeAll answer rest

variable {device}

theorem exchangeAll_cons {octet value : UInt8} {after : Device}
    (h : device.exchange octet = (value, after)) (answer : UInt8) (rest : List UInt8) :
    device.exchangeAll answer (octet :: rest) = after.exchangeAll value rest := by
  rw [exchangeAll, h]

@[simp]
theorem geometry_serve (request : Request) : (device.serve request).geometry = device.geometry := by
  cases request <;> rfl

@[simp]
theorem intake_serve (request : Request) : (device.serve request).intake = device.intake := by
  cases request <;> rfl

@[simp]
theorem geometry_execute (request : List UInt8) :
    (device.execute request).geometry = device.geometry := by
  rw [execute]
  split
  · rfl
  · split <;> rfl

@[simp]
theorem geometry_exchange (octet : UInt8) :
    (device.exchange octet).2.geometry = device.geometry := by
  simp only [exchange, takeOctet]
  split
  · split <;> rfl
  · rfl
  · split
    · rw [geometry_execute]
    · rfl

/-- An idle device takes no notice of an octet without a start mark. -/
theorem exchange_of_idle (hidle : device.intake = .idle) {octet : UInt8}
    (h : (ControlByte.mk octet).isStart = false) :
    device.exchange octet =
      (device.outbound.headD 0, { device with outbound := device.outbound.tail }) := by
  simp [exchange, takeOctet, hidle, h]

theorem exchange_of_data (hintake : device.intake = .data false) (octet : UInt8) :
    device.exchange octet =
      (device.outbound.headD 0, { device with
        intake := .control, request := device.request ++ [octet],
        outbound := device.outbound.tail }) := by
  simp [exchange, takeOctet, hintake]

/-- From a service octet on, the octets of a request complete it. Each of them but the last one lets
an octet of the queue out first. -/
theorem exchangeAll_data {rest : List UInt8} (hintake : device.intake = .data rest.isEmpty)
    (answer octet : UInt8) (taken : Nat) :
    device.exchangeAll answer
        (octet :: (Segments.listFrom taken rest).flatMap Segment.octets) =
      let after := { device with
        intake := .idle, request := [],
        outbound := device.outbound.drop (2 * rest.length) }.execute (device.request ++ octet :: rest)
      (after.outbound.headD 0, { after with outbound := after.outbound.tail }) := by
  induction rest generalizing device answer octet taken with
  | nil =>
    have hlast : device.intake = .data true := hintake
    simp [exchangeAll, exchange, takeOctet, hlast, Segments.listFrom]
  | cons second rest ih =>
    have hdata : device.intake = .data false := hintake
    let waiting : Device := { device with
      intake := .control, request := device.request ++ [octet], outbound := device.outbound.tail }
    let filling : Device := { waiting with
      intake := .data rest.isEmpty, outbound := device.outbound.tail.tail }
    have hcontrol : waiting.exchange
        (ControlByte.make (taken == 0) rest.isEmpty (taken % 64).toUInt8).octet =
          (device.outbound.tail.headD 0, filling) := by
      simp [exchange, takeOctet, waiting, filling]
    have hrest := @ih filling rfl (device.outbound.tail.headD 0) second (taken + 1)
    have hdrop : device.outbound.tail.tail.drop (2 * rest.length) =
        device.outbound.drop (2 * (rest.length + 1)) := by
      rw [← List.drop_one, ← List.drop_one, List.drop_drop, List.drop_drop]
      exact congrArg (device.outbound.drop ·) (by omega)
    rw [exchangeAll_cons (exchange_of_data hdata _), Segments.flatMap_octets_cons,
      exchangeAll_cons hcontrol, hrest]
    simp [filling, waiting, hdrop]

/-- The device that a request finds when its last octet comes in: each of the others has let an
octet of the queue out. -/
def flushed (device : Device) (request : Request) : Device :=
  { device.reset with outbound := device.outbound.drop (request.odOctets.length - 1) }

/-- The octets of a request, given to an idle device, make it execute the request. -/
theorem exchangeAll_odOctets (hidle : device.intake = .idle) (answer : UInt8) {request : Request}
    {served : Device} (h : (device.flushed request).serve request = served) :
    device.exchangeAll answer request.odOctets =
      (served.outbound.headD 0, { served with outbound := served.outbound.tail }) := by
  obtain ⟨octet, rest, hservice, hoctets⟩ := request.exists_odOctets_eq
  have hstart : device.exchange (ControlByte.make true rest.isEmpty 0).octet =
      (device.outbound.headD 0, { device with
        intake := .data rest.isEmpty, request := [], outbound := device.outbound.tail }) := by
    simp [exchange, takeOctet, hidle]
  have hflushed : { device with
      intake := .idle, request := [], outbound := device.outbound.tail.drop (2 * rest.length) } =
        device.flushed request := by
    rw [flushed, hoctets, ← List.drop_one, List.drop_drop, List.length_cons, List.length_cons,
      Segments.length_flatMap_octets, reset]
    simp [Nat.add_comm]
  rw [← execute_serviceOctets, hservice] at h
  rw [hoctets, exchangeAll_cons hstart, exchangeAll_data rfl, ← h, ← hflushed]
  rfl

end Sdci.Device
