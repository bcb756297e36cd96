/-!
# Words

Integers of a fixed number of bits, and the integers that they are.
-/

namespace Tabula

/-- The signed word of 64 bits that an integer is, if it is one. -/
def signedWord? (n : Int) : Option Int64 :=
  if -9223372036854775808 ≤ n ∧ n ≤ 9223372036854775807 then some (Int64.ofInt n) else none

/-- The unsigned word of 64 bits that an integer is, if it is one. -/
def unsignedWord? (n : Int) : Option UInt64 :=
  if 0 ≤ n ∧ n ≤ 18446744073709551615 then some (UInt64.ofNat n.toNat) else none

/-- The unsigned word of 32 bits that an integer is, if it is one. -/
def shortWord? (n : Int) : Option UInt32 :=
  if 0 ≤ n ∧ n ≤ 4294967295 then some (UInt32.ofNat n.toNat) else none

end Tabula
