/-!
Integers of fixed width.

The least and the greatest numbers that fit into 8 to 64 bits, with a sign or without.
-/

namespace Reminders.Width

/-- The greatest number of 8 bits. -/
def maxWord8 : Nat := 255

/-- The greatest number of 16 bits. -/
def maxWord16 : Nat := 65535

/-- The greatest number of 32 bits. -/
def maxWord32 : Nat := 4294967295

/-- The greatest number of 64 bits. -/
def maxWord64 : Nat := 18446744073709551615

/-- The least integer of 32 bits with a sign. -/
def minInt32 : Int := -2147483648

/-- The greatest integer of 32 bits with a sign. -/
def maxInt32 : Int := 2147483647

/-- The least integer of 64 bits with a sign. -/
def minInt64 : Int := -9223372036854775808

/-- The greatest integer of 64 bits with a sign. -/
def maxInt64 : Int := 9223372036854775807

/-- The integers of 32 bits with a sign. -/
def IsInt32 (n : Int) : Prop := minInt32 ≤ n ∧ n ≤ maxInt32

instance (n : Int) : Decidable (IsInt32 n) := inferInstanceAs (Decidable (_ ∧ _))

/-- The integers of 64 bits with a sign. -/
def IsInt64 (n : Int) : Prop := minInt64 ≤ n ∧ n ≤ maxInt64

instance (n : Int) : Decidable (IsInt64 n) := inferInstanceAs (Decidable (_ ∧ _))

end Reminders.Width
