/-!
# Lengths and counts

A length or a count is a number below `Reply.lengthModulus`. A sum or a difference that is none ends
the program; `none` stands for that.
-/

namespace Sdci

/-- One more than the largest value of a length. -/
def Reply.lengthModulus : Nat := 0x10000000000000000

namespace Bounded

variable {m n : Nat}

/-- The sum of two lengths, if it is one. -/
def add (m n : Nat) : Option Nat :=
  if m + n < Reply.lengthModulus then some (m + n) else none

/-- The difference of two lengths, if it is one. -/
def sub (m n : Nat) : Option Nat :=
  if n ≤ m then some (m - n) else none

theorem add_of_lt (h : m + n < Reply.lengthModulus) : add m n = some (m + n) :=
  if_pos h

theorem add_of_le (h : Reply.lengthModulus ≤ m + n) : add m n = none :=
  if_neg (Nat.not_lt.mpr h)

theorem eq_of_add {sum : Nat} (h : add m n = some sum) : m + n = sum := by
  rw [add] at h
  split at h
  · exact Option.some.inj h
  · cases h

theorem sub_of_le (h : n ≤ m) : sub m n = some (m - n) :=
  if_pos h

theorem eq_of_sub {difference : Nat} (h : sub m n = some difference) : m - n = difference := by
  rw [sub] at h
  split at h
  · exact Option.some.inj h
  · cases h

end Bounded

end Sdci
