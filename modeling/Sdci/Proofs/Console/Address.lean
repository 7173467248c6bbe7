import Sdci.Proofs.Console.Request
import Sdci.Proofs.Master.Frames
import Sdci.Proofs.Text.Numeral

/-!
# The address that a line names

The numbers on a line that reads or writes a parameter are its address. They are read exactly if
they have sixteen bits (`readNumber_eq_ok_iff`), and the request that the line starts carries all of
the index and the lower eight bits of the subindex (`Console.address_sent`). Any other word in their
place is complained about, and nothing is sent.
-/

namespace Sdci

namespace Isdu.Request

/-- The service octets of the request have the address behind the service, and the data of a write
behind the address. -/
def Carries (request : Request) (index subindex : Nat) : Prop :=
  ∃ service, service.length ≤ 2 ∧ request.serviceOctets =
    service ++ [(index / 256).toUInt8, (index % 256).toUInt8, subindex.toUInt8] ++ request.data

theorem addressOctets_eq (index : UInt16) (subindex : UInt8) :
    addressOctets index subindex = [(index.toNat / 256).toUInt8, (index.toNat % 256).toUInt8,
      subindex.toNat.toUInt8] := by
  have hupper : (index >>> 8).toUInt8 = (index.toNat / 256).toUInt8 := by
    rw [← UInt8.toNat_inj]
    simp [Nat.shiftRight_eq_div_pow]
  have hlower : index.toUInt8 = (index.toNat % 256).toUInt8 := by
    rw [← UInt8.toNat_inj]
    simp
  have hsubindex : subindex.toNat.toUInt8 = subindex := UInt8.ofNat_toNat
  rw [addressOctets, hupper, hlower, hsubindex]

/-- A request carries the address of its target. -/
theorem carries_target (request : Request) :
    request.Carries request.target.index.toNat request.target.subindex.toNat := by
  rw [Carries, ← addressOctets_eq]
  cases request with
  | read index subindex => exact ⟨[readService], by decide, rfl⟩
  | write index subindex data length_le =>
    rw [serviceOctets]
    split
    · exact ⟨[_], Nat.le_of_ble_eq_true rfl, rfl⟩
    · exact ⟨[_, _], Nat.le_refl 2, rfl⟩

end Isdu.Request

namespace Console

open Text Isdu

/-! ### Numbers -/

/-- The word is a number: decimal, or hexadecimal behind `0x`. -/
def IsNumber (word : Word) (number : Nat) : Prop :=
  Numeral.Spells 10 word number ∨
    ∃ digits, word = '0' :: 'x' :: digits ∧ Numeral.Spells 16 digits number

theorem isNumber_of_read {word : Word} {number : Nat}
    (h : Numeral.read 10 Numeral.maxWord word = .ok number) : IsNumber word number :=
  .inl ((Numeral.read_eq_ok_iff (by decide) (by decide)).mp h).1

theorem isNumber_of_read_hexadecimal {digits : List Char} {number : Nat}
    (h : Numeral.read 16 Numeral.maxWord digits = .ok number) :
    IsNumber ('0' :: 'x' :: digits) number :=
  .inr ⟨digits, rfl, ((Numeral.read_eq_ok_iff (by decide) (by decide)).mp h).1⟩

/-- What begins as a hexadecimal number is no decimal one. -/
theorem not_spells_hexadecimal (digits : List Char) (number : Nat) :
    ¬Numeral.Spells 10 ('0' :: 'x' :: digits) number := by
  intro h
  have hread : Numeral.read 10 number ('0' :: 'x' :: digits) = .ok number :=
    (Numeral.read_eq_ok_iff (by decide) (by decide)).mpr ⟨h, Nat.le_refl number⟩
  have hzero : Numeral.digit? 10 '0' = some 0 := rfl
  have hx : Numeral.digit? 10 'x' = none := rfl
  simp [Numeral.read, Numeral.readDigits, hzero, hx] at hread

/-- A number is read as the numeral that it is or that it has behind `0x`. -/
theorem exists_numeral (word : Word) : ∃ radix digits, 0 < radix ∧ radix ≤ 16 ∧
    (∀ number, IsNumber word number ↔ Numeral.Spells radix digits number) ∧
      readNumber word = match Numeral.read radix Numeral.maxWord digits with
        | .ok value => .ok value.toUInt16
        | .error cause => .error (.notANumber word cause) := by
  by_cases hprefix : ∃ digits, word = '0' :: 'x' :: digits
  · obtain ⟨digits, rfl⟩ := hprefix
    refine ⟨16, digits, by decide, by decide, fun number => ?_, rfl⟩
    simp [IsNumber, not_spells_hexadecimal]
  · refine ⟨10, word, by decide, by decide, fun number => ?_, ?_⟩
    · rw [IsNumber, or_iff_left]
      rintro ⟨digits, hword, -⟩
      exact hprefix ⟨digits, hword⟩
    · unfold readNumber
      split
      next digits => exact absurd ⟨digits, rfl⟩ hprefix
      next => rfl

/-- A word is at most one number. -/
theorem IsNumber.unique {word : Word} {number other : Nat} (h : IsNumber word number)
    (h' : IsNumber word other) : number = other := by
  obtain ⟨radix, digits, hpos, hradix, hnumber, -⟩ := exists_numeral word
  exact ((hnumber number).mp h).unique hpos hradix ((hnumber other).mp h')

/-- A number is read exactly if it has sixteen bits. -/
theorem readNumber_eq_ok_iff {word : Word} {value : UInt16} :
    readNumber word = .ok value ↔
      ∃ number, IsNumber word number ∧ number ≤ 0xFFFF ∧ value = number.toUInt16 := by
  obtain ⟨radix, digits, hpos, hradix, hnumber, hread⟩ := exists_numeral word
  simp only [hread, hnumber, ← and_assoc]
  constructor
  · intro h
    split at h
    · next number hvalue =>
      cases h
      exact ⟨number, (Numeral.read_eq_ok_iff hpos hradix).mp hvalue, rfl⟩
    · cases h
  · rintro ⟨number, hspells, rfl⟩
    have hvalue : Numeral.read radix Numeral.maxWord digits = .ok number :=
      (Numeral.read_eq_ok_iff hpos hradix).mpr hspells
    rw [hvalue]

/-- A complaint about a number names the word. -/
theorem eq_notANumber {word : Word} {complaint : Complaint}
    (h : readNumber word = .error complaint) : ∃ cause, complaint = .notANumber word cause := by
  obtain ⟨radix, digits, -, -, -, hread⟩ := exists_numeral word
  rw [hread] at h
  split at h
  · cases h
  · next cause _ =>
    cases h
    exact ⟨cause, rfl⟩

/-- Any word that is no number of sixteen bits is complained about. -/
theorem readNumber_eq_error_iff {word : Word} :
    (∃ cause, readNumber word = .error (.notANumber word cause)) ↔
      ∀ number ≤ 0xFFFF, ¬IsNumber word number := by
  constructor
  · rintro ⟨cause, hword⟩ number hle hnumber
    have hread := readNumber_eq_ok_iff.mpr ⟨number, hnumber, hle, rfl⟩
    cases hword.symm.trans hread
  · intro h
    cases hread : readNumber word with
    | ok value =>
      obtain ⟨number, hnumber, hle, -⟩ := readNumber_eq_ok_iff.mp hread
      exact absurd hnumber (h number hle)
    | error complaint =>
      obtain ⟨cause, rfl⟩ := eq_notANumber hread
      exact ⟨cause, rfl⟩

/-! ### Arguments -/

namespace Scanner

variable {α β : Type} (read : Word → Except Complaint α) (default : α) (next : α → Scanner β)
  (word : Word) (rest : List Word)

/-- A scan goes on behind the word that was read. -/
theorem run_value_bind : (value read >>= next).run (word :: rest) =
    read word >>= fun value => (next value).run rest := by
  rw [StateT.run_bind, run_value_cons]
  cases read word <;> rfl

theorem run_valueD_bind_cons : (valueD read default >>= next).run (word :: rest) =
    read word >>= fun value => (next value).run rest :=
  run_value_bind read next word rest

theorem run_octets_bind (next : List UInt8 → Scanner β) (words : List Word) :
    (octets >>= next).run words = readAllOctets words >>= fun data => (next data).run words := by
  rw [StateT.run_bind, run_octets]
  cases readAllOctets words <;> rfl

end Scanner

namespace Verb

/-- The service that a verb asks the device for. -/
def service? : Verb → Option Service
  | readParameter => some .read
  | writeParameter => some .write
  | _ => none

/-- The arguments of a verb begin with the index and the subindex of a parameter. A read may leave
out the subindex, which is zero then. -/
def Addresses : Verb → List Word → Nat → Nat → Prop
  | readParameter, [word], index, subindex => IsNumber word index ∧ subindex = 0
  | readParameter, first :: second :: _, index, subindex
  | writeParameter, first :: second :: _, index, subindex =>
    IsNumber first index ∧ IsNumber second subindex
  | _, _, _, _ => False

variable {arguments rest : List Word} {first second : Word} {request : Request}

theorem run_scan_read_one : readParameter.scan.run [first] =
    readNumber first >>= fun index => .ok (.operation (.readParameter index 0), []) :=
  Scanner.run_value_bind ..

theorem run_scan_read : readParameter.scan.run (first :: second :: rest) =
    readNumber first >>= fun index => readNumber second >>= fun subindex =>
      .ok (.operation (.readParameter index subindex.toUInt8), rest) := by
  simp only [scan, Scanner.run_value_bind, Scanner.run_valueD_bind_cons]
  rfl

theorem run_scan_write : writeParameter.scan.run (first :: second :: rest) =
    readNumber first >>= fun index => readNumber second >>= fun subindex =>
      readAllOctets rest >>= fun data =>
        .ok (.operation (.writeParameter index subindex.toUInt8 data), rest) := by
  simp only [scan, Scanner.run_value_bind, Scanner.run_octets_bind]
  rfl

theorem toUInt8_toUInt16 (number : Nat) : number.toUInt16.toUInt8 = number.toUInt8 := by
  rw [← UInt8.toNat_inj]
  simp

/-- The arguments of a read are taken if they begin with an address of sixteen bit numbers. -/
theorem scan_read_iff : (∃ rest, readParameter.scan.run arguments = .ok (request, rest)) ↔
    ∃ index subindex, readParameter.Addresses arguments index subindex ∧ index ≤ 0xFFFF ∧
      subindex ≤ 0xFFFF ∧
        request = .operation (.readParameter index.toUInt16 subindex.toUInt8) := by
  obtain _ | ⟨first, _ | ⟨second, rest⟩⟩ := arguments
  · exact ⟨nofun, nofun⟩
  · simp only [run_scan_read_one, bind_eq_ok, readNumber_eq_ok_iff, Addresses]
    constructor
    · rintro ⟨_, _, ⟨index, hindex, hle, rfl⟩, h⟩
      cases h
      exact ⟨index, 0, ⟨hindex, rfl⟩, hle, by decide, rfl⟩
    · rintro ⟨index, _, ⟨hindex, rfl⟩, hle, -, rfl⟩
      exact ⟨[], _, ⟨index, hindex, hle, rfl⟩, rfl⟩
  · simp only [run_scan_read, bind_eq_ok, readNumber_eq_ok_iff, Addresses]
    constructor
    · rintro ⟨_, _, ⟨index, hindex, hle, rfl⟩, _, ⟨subindex, hsubindex, hle', rfl⟩, h⟩
      cases h
      exact ⟨index, subindex, ⟨hindex, hsubindex⟩, hle, hle', by rw [toUInt8_toUInt16]⟩
    · rintro ⟨index, subindex, ⟨hindex, hsubindex⟩, hle, hle', rfl⟩
      refine ⟨rest, _, ⟨index, hindex, hle, rfl⟩, _, ⟨subindex, hsubindex, hle', rfl⟩, ?_⟩
      rw [toUInt8_toUInt16]

/-- The arguments of a write are taken if octets follow such an address. -/
theorem scan_write_iff : (∃ rest, writeParameter.scan.run arguments = .ok (request, rest)) ↔
    ∃ index subindex data, writeParameter.Addresses arguments index subindex ∧ index ≤ 0xFFFF ∧
      subindex ≤ 0xFFFF ∧ readAllOctets (arguments.drop 2) = .ok data ∧
        request = .operation (.writeParameter index.toUInt16 subindex.toUInt8 data) := by
  obtain _ | ⟨first, _ | ⟨second, rest⟩⟩ := arguments
  · exact ⟨nofun, nofun⟩
  · refine ⟨fun ⟨rest, h⟩ => ?_, nofun⟩
    rw [scan, Scanner.run_value_bind, bind_eq_ok] at h
    obtain ⟨_, -, h⟩ := h
    cases h
  · simp only [run_scan_write, bind_eq_ok, readNumber_eq_ok_iff, Addresses]
    constructor
    · rintro ⟨_, _, ⟨index, hindex, hle, rfl⟩, _, ⟨subindex, hsubindex, hle', rfl⟩, data, hdata, h⟩
      cases h
      exact ⟨index, subindex, data, ⟨hindex, hsubindex⟩, hle, hle', hdata, by rw [toUInt8_toUInt16]⟩
    · rintro ⟨index, subindex, data, ⟨hindex, hsubindex⟩, hle, hle', hdata, rfl⟩
      refine ⟨rest, _, ⟨index, hindex, hle, rfl⟩, _, ⟨subindex, hsubindex, hle', rfl⟩, data, hdata,
        ?_⟩
      rw [toUInt8_toUInt16]

variable {verb : Verb} {service : Service} {complaint : Complaint}

/-- The first word that is no number is complained about. -/
theorem run_scan_of_first (hverb : verb.service? = some service)
    (hfirst : readNumber first = .error complaint) :
    verb.scan.run (first :: rest) = .error complaint := by
  cases verb with
  | readParameter | writeParameter =>
    rw [scan, Scanner.run_value_bind, hfirst]
    rfl
  | _ => cases hverb

theorem run_scan_of_second (hverb : verb.service? = some service) {index : UInt16}
    (hfirst : readNumber first = .ok index) (hsecond : readNumber second = .error complaint) :
    verb.scan.run (first :: second :: rest) = .error complaint := by
  cases verb with
  | readParameter =>
    rw [run_scan_read, hfirst, hsecond]
    rfl
  | writeParameter =>
    rw [run_scan_write, hfirst, hsecond]
    rfl
  | _ => cases hverb

/-- A word in the place of an address that is no number of sixteen bits stops the scan. -/
theorem run_scan_of_refused (hverb : verb.service? = some service) {word : Word}
    (hmem : word ∈ arguments.take 2) (hword : ∀ number ≤ 0xFFFF, ¬IsNumber word number) :
    ∃ refused ∈ arguments.take 2, (∀ number ≤ 0xFFFF, ¬IsNumber refused number) ∧ ∃ cause,
      verb.scan.run arguments = .error (.notANumber refused cause) := by
  obtain ⟨cause, hread⟩ := readNumber_eq_error_iff.mpr hword
  obtain _ | ⟨first, rest⟩ := arguments
  · cases hmem
  cases hfirst : readNumber first with
  | error complaint =>
    obtain ⟨cause, rfl⟩ := eq_notANumber hfirst
    exact ⟨first, List.mem_cons_self .., readNumber_eq_error_iff.mp ⟨cause, hfirst⟩, cause,
      run_scan_of_first hverb hfirst⟩
  | ok index =>
    obtain _ | ⟨second, rest⟩ := rest
    · obtain rfl := List.mem_singleton.mp hmem
      cases hread.symm.trans hfirst
    · obtain rfl | rfl : word = first ∨ word = second := by simpa using hmem
      · cases hread.symm.trans hfirst
      · exact ⟨word, hmem, hword, cause, run_scan_of_second hverb hfirst hread⟩

/-- What the arguments of a transfer are read as: the operation of a request with their address, or
a write of too much data. -/
theorem transfer_of_scan (hverb : verb.service? = some service)
    (hscan : verb.scan.run arguments = .ok (request, rest)) :
    ∃ index subindex, verb.Addresses arguments index subindex ∧ index ≤ 0xFFFF ∧
      subindex ≤ 0xFFFF ∧
      ((∃ sent : Isdu.Request, sent.target = ⟨service, index.toUInt16, subindex.toUInt8⟩ ∧
          request = .operation sent.operation) ∨
        verb = writeParameter ∧ ∃ data, readAllOctets (arguments.drop 2) = .ok data ∧
          maxWriteLength < data.length ∧
            request = .operation (.writeParameter index.toUInt16 subindex.toUInt8 data)) := by
  cases verb with
  | readParameter =>
    cases hverb
    obtain ⟨index, subindex, haddress, hindex, hsubindex, rfl⟩ := scan_read_iff.mp ⟨rest, hscan⟩
    exact ⟨index, subindex, haddress, hindex, hsubindex, .inl ⟨.read _ _, rfl, rfl⟩⟩
  | writeParameter =>
    cases hverb
    obtain ⟨index, subindex, data, haddress, hindex, hsubindex, hdata, rfl⟩ :=
      scan_write_iff.mp ⟨rest, hscan⟩
    refine ⟨index, subindex, haddress, hindex, hsubindex, ?_⟩
    by_cases hlength : data.length ≤ maxWriteLength
    · exact .inl ⟨.write _ _ data hlength, rfl, rfl⟩
    · exact .inr ⟨rfl, data, hdata, Nat.not_le.mp hlength, rfl⟩
  | _ => cases hverb

/-- Arguments that begin with an address of sixteen bit numbers are taken, if a write has octets
behind it. -/
theorem exists_scan (hverb : verb.service? = some service) {index subindex : Nat}
    (haddress : verb.Addresses arguments index subindex) (hindex : index ≤ 0xFFFF)
    (hsubindex : subindex ≤ 0xFFFF)
    (hdata : verb = writeParameter → ∃ data, readAllOctets (arguments.drop 2) = .ok data) :
    ∃ request rest, verb.scan.run arguments = .ok (request, rest) := by
  cases verb with
  | readParameter =>
    exact ⟨_, scan_read_iff.mpr ⟨index, subindex, haddress, hindex, hsubindex, rfl⟩⟩
  | writeParameter =>
    obtain ⟨data, hdata⟩ := hdata rfl
    exact ⟨_, scan_write_iff.mpr ⟨index, subindex, data, haddress, hindex, hsubindex, hdata, rfl⟩⟩
  | _ => cases hverb

end Verb

/-! ### Lines -/

/-- What happens to the master and on the line when an operation is performed is a step. -/
theorem exists_step {master : Master} {operation : Operation} {events : List Event}
    {reaction : Reaction} (path : (perform master operation).Path events reaction) :
    ∃ step : Step, step.source = master ∧ step.operation = operation ∧ step.events = events := by
  obtain ⟨first, ⟨result, target⟩, second, hfirst, hsecond, rfl⟩ := Dialogue.path_bind_iff.mp path
  have hnil : second = [] := by
    cases result with
    | ok outcome => exact (Dialogue.path_done_iff.mp hsecond).1
    | error error => exact (Dialogue.path_done_iff.mp hsecond).1
  rw [hnil, List.append_nil]
  exact ⟨⟨master, operation, first, result, target, hfirst⟩, rfl, rfl, rfl⟩

section

variable {line : String} {word : Word} {arguments rest : List Word} {verb : Verb}
  (hwords : words line.toList = word :: arguments) (hword : Verb.ofWord? word = some verb)

include hwords hword

/-- A line asks for what its arguments are read as. -/
theorem react_of_scan {request : Request} (hscan : verb.scan.run arguments = .ok (request, rest))
    (master : Master) : react master line = reactTo master request := by
  refine react_of_request ?_ master
  rw [ofLine_cons hwords, hword]
  exact congrArg (Except.map _) hscan

/-- Arguments that cannot be read are complained about. -/
theorem react_of_scan_error {complaint : Complaint}
    (hscan : verb.scan.run arguments = .error complaint) (master : Master) :
    react master line = .done ⟨master, endLine complaint.message, .prompt⟩ := by
  have hline : Request.ofLine line = .error complaint := by
    rw [ofLine_cons hwords, hword]
    exact congrArg (Except.map _) hscan
  rw [react, hline]
  rfl

end

/-- What the arguments of a transfer are read as is sent in a connection, unless it is a write of
too much data. -/
theorem sent_of_scan {master : Master} (hstate : master.state ≠ .startup) {verb : Verb}
    {service : Service} (hverb : verb.service? = some service) {arguments rest : List Word}
    {request : Request} (hscan : verb.scan.run arguments = .ok (request, rest))
    {events : List Event} {reaction : Reaction}
    (path : (reactTo master request).Path events reaction) :
    ∃ index subindex, verb.Addresses arguments index subindex ∧ index ≤ 0xFFFF ∧
      subindex ≤ 0xFFFF ∧
      ((∃ sent : Isdu.Request, sent.target.service = service ∧
          sent.Carries index (subindex % 256) ∧ master.Transmits sent (traffic events)) ∨
        verb = .writeParameter ∧ traffic events = [] ∧
          ∃ data, readAllOctets (arguments.drop 2) = .ok data ∧ maxWriteLength < data.length) := by
  obtain ⟨index, subindex, haddress, hindex, hsubindex, hrequest⟩ :=
    Verb.transfer_of_scan hverb hscan
  refine ⟨index, subindex, haddress, hindex, hsubindex, ?_⟩
  obtain ⟨sent, htarget, rfl⟩ | ⟨hwrite, data, hdata, hlength, rfl⟩ := hrequest
  · obtain ⟨step, rfl, hop, rfl⟩ := exists_step path
    have hsixteen : index.toUInt16.toNat = index := Nat.mod_eq_of_lt (Nat.lt_succ_of_le hindex)
    have hcarries := sent.carries_target
    rw [htarget, hsixteen] at hcarries
    exact .inl ⟨sent, by rw [htarget], hcarries, step.transmits hop hstate⟩
  · obtain ⟨step, rfl, hop, rfl⟩ := exists_step path
    exact .inr ⟨hwrite, step.traffic_of_tooLong hop hlength, data, hdata, hlength⟩

/-- In a connection, a line that reads or writes a parameter sends nothing but a request that
carries the index on the line and the lower eight bits of the subindex. It does send that if the
numbers have sixteen bits and the octets of a write can be sent. If a word in their place is no such
number, like `65536`, `-5` or `0X10`, one of those is complained about, and nothing is sent. -/
theorem address_sent {master : Master} (hstate : master.state ≠ .startup) {line : String}
    {word : Word} {arguments : List Word} (hwords : words line.toList = word :: arguments)
    {verb : Verb} (hword : Verb.ofWord? word = some verb) {service : Service}
    (hverb : verb.service? = some service) {events : List Event} {reaction : Reaction}
    (path : (react master line).Path events reaction) :
    (traffic events ≠ [] → ∃ index subindex, ∃ request : Isdu.Request,
        verb.Addresses arguments index subindex ∧ index ≤ 0xFFFF ∧ subindex ≤ 0xFFFF ∧
          request.target.service = service ∧ request.Carries index (subindex % 256) ∧
            master.Transmits request (traffic events)) ∧
      (∀ index subindex, verb.Addresses arguments index subindex → index ≤ 0xFFFF →
        subindex ≤ 0xFFFF →
        (verb = .writeParameter → ∃ data, readAllOctets (arguments.drop 2) = .ok data ∧
          data.length ≤ maxWriteLength) → traffic events ≠ []) ∧
      ∀ number ∈ arguments.take 2, (∀ value ≤ 0xFFFF, ¬IsNumber number value) →
        traffic events = [] ∧
          ∃ refused ∈ arguments.take 2, (∀ value ≤ 0xFFFF, ¬IsNumber refused value) ∧ ∃ cause,
            reaction = ⟨master, endLine (Complaint.notANumber refused cause).message, .prompt⟩ := by
  cases hscan : verb.scan.run arguments with
  | error complaint =>
    rw [react_of_scan_error hwords hword hscan] at path
    obtain ⟨rfl, rfl⟩ := Dialogue.path_done_iff.mp path
    refine ⟨fun h => absurd rfl h, fun index subindex haddress hindex hsubindex hdata => ?_,
      fun number hmem hnumber => ?_⟩
    · obtain ⟨request, rest, htaken⟩ := Verb.exists_scan hverb haddress hindex hsubindex
        fun h => (hdata h).imp fun _ => And.left
      cases htaken.symm.trans hscan
    · obtain ⟨refused, hrefused, hvalue, cause, herror⟩ :=
        Verb.run_scan_of_refused hverb hmem hnumber
      cases herror.symm.trans hscan
      exact ⟨rfl, refused, hrefused, hvalue, cause, rfl⟩
  | ok result =>
    obtain ⟨request, rest⟩ := result
    rw [react_of_scan hwords hword hscan] at path
    obtain ⟨index, subindex, haddress, hindex, hsubindex, hsent⟩ :=
      sent_of_scan hstate hverb hscan path
    refine ⟨fun hne => ?_, fun _ _ _ _ _ hdata hnil => ?_,
      fun number hmem hnumber => ?_⟩
    · obtain ⟨sent, hsent⟩ | ⟨-, hnil, -⟩ := hsent
      · exact ⟨index, subindex, sent, haddress, hindex, hsubindex, hsent⟩
      · exact absurd hnil hne
    · obtain ⟨sent, -, -, hsent⟩ | ⟨hwrite, -, data, hread, hlength⟩ := hsent
      · exact hsent.ne_nil hnil
      · obtain ⟨other, hother, hle⟩ := hdata hwrite
        cases hother.symm.trans hread
        exact Nat.not_le.mpr hlength hle
    · obtain ⟨_, -, -, _, herror⟩ := Verb.run_scan_of_refused hverb hmem hnumber
      cases herror.symm.trans hscan

/-- A write whose address has a hexadecimal number and one with a sign and zeros. -/
theorem address_sent_of_write :
    let master := (Master.new .type0).enter .preoperate
    let line := "w 0x0010 +005 4142"
    let events := ((react master line).run ({ replies := [] } : Script)).2.2
    traffic events ≠ [] ∧ ∃ request : Isdu.Request,
      request.target.service = .write ∧ request.Carries 16 5 ∧
        master.Transmits request (traffic events) := by
  intro master line events
  have hwords : words line.toList =
      "w".toList :: ["0x0010".toList, "+005".toList, "4142".toList] := by decide
  have hindex : IsNumber "0x0010".toList 16 := isNumber_of_read_hexadecimal (by decide)
  have hsubindex : IsNumber "+005".toList 5 := isNumber_of_read (by decide)
  have hstate : master.state ≠ .startup := by decide
  have hword : Verb.ofWord? "w".toList = some .writeParameter := by decide
  have hverb : Verb.service? .writeParameter = some .write := rfl
  have path : (react master line).Path events _ := Dialogue.path_run _ _
  obtain ⟨hcarries, hsent, -⟩ := address_sent hstate hwords hword hverb path
  have hdata : readAllOctets ["4142".toList] = .ok [0x41, 0x42] := by decide
  have htraffic := hsent 16 5 ⟨hindex, hsubindex⟩ (by decide) (by decide)
    fun _ => ⟨_, hdata, by decide⟩
  obtain ⟨index, subindex, request, ⟨hindex', hsubindex'⟩, -, -, hservice, haddress, htransmits⟩ :=
    hcarries htraffic
  obtain rfl := hindex.unique hindex'
  obtain rfl := hsubindex.unique hsubindex'
  exact ⟨htraffic, request, hservice, haddress, htransmits⟩

/-- A subindex of nine bits is taken for another one. -/
theorem subindex_cut :
    let master := (Master.new .type0).enter .preoperate
    IsNumber "256".toList 256 ∧ react master "read 16 256" = react master "read 16 0" ∧
      traffic ((react master "read 16 256").run ({ replies := [] } : Script)).2.2 ≠ [] := by
  intro master
  have hnumber : IsNumber "256".toList 256 := isNumber_of_read (by decide)
  have hline : Request.ofLine "read 16 256" = Request.ofLine "read 16 0" := by decide
  exact ⟨hnumber, by rw [react, react, hline], by decide⟩

end Console

end Sdci
