/-! # Lengths and offsets

Lengths and offsets are 64-bit. A product or a sum that leaves that range has no value;
the operation that needed it stops there. What can be stored is less: the bytes of a list of
numbers are counted by a signed integer of the same width.
-/

namespace FieldMesh

namespace Length

/-- The first number that is no length. -/
def limit : Nat := 0x10000000000000000

/-- The length of the longest list of numbers that can be stored. -/
def capacity : Nat := 0xfffffffffffffff

def mul? (a b : Nat) : Option Nat := if a * b < limit then some (a * b) else none

def add? (a b : Nat) : Option Nat := if a + b < limit then some (a + b) else none

theorem mul?_of_lt {a b : Nat} (h : a * b < limit) : mul? a b = some (a * b) := if_pos h

theorem add?_of_lt {a b : Nat} (h : a + b < limit) : add? a b = some (a + b) := if_pos h

theorem capacity_lt_limit : capacity < limit := by decide

end Length

end FieldMesh
