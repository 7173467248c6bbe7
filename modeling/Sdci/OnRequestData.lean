/-!
# On-request data

The on-request data (OD) of a frame is one or two octets wide. Requests use its first octet; a
second one is there when the M-sequence type has room for it.
-/

namespace Sdci

/-- The on-request data octets of one frame. -/
inductive OnRequestData
  | one (first : UInt8)
  | two (first second : UInt8)
deriving DecidableEq, Repr

namespace OnRequestData

/-- On-request data of the given width with `octet` in its first place and zero in the second.
Every width but two counts as one. -/
def ofFirst (width : Nat) (octet : UInt8) : OnRequestData :=
  if width = 2 then two octet 0 else one octet

/-- The first octet. -/
def first : OnRequestData → UInt8
  | one octet | two octet _ => octet

/-- The second octet, if there is room for one. -/
def second? : OnRequestData → Option UInt8
  | one _ => none
  | two _ octet => some octet

/-- The octets in the order of transmission. -/
def toList : OnRequestData → List UInt8
  | one octet => [octet]
  | two octet second => [octet, second]

/-- The number of octets. -/
def width : OnRequestData → Nat
  | one _ => 1
  | two _ _ => 2

variable (od : OnRequestData)

@[simp]
theorem length_toList : od.toList.length = od.width := by
  cases od <;> rfl

@[simp]
theorem first_ofFirst (width : Nat) (octet : UInt8) : (ofFirst width octet).first = octet := by
  unfold ofFirst
  split <;> rfl

/-- A width of one or two is kept. -/
theorem width_ofFirst {width : Nat} (h : width = 1 ∨ width = 2) (octet : UInt8) :
    (ofFirst width octet).width = width := by
  obtain rfl | rfl := h <;> rfl

end OnRequestData

end Sdci
