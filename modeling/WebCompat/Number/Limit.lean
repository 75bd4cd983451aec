/-!
The largest numbers of 32 and 64 bits, with and without a bit for the sign.
-/

namespace WebCompat.Number

def largest32 : Nat := 4294967295

def largest64 : Nat := 18446744073709551615

/-- The largest number of 32 bits, one of which is for the sign. -/
def largestSigned32 : Nat := 2147483647

/-- The largest number of 64 bits, one of which is for the sign. -/
def largestSigned64 : Nat := 9223372036854775807

end WebCompat.Number
