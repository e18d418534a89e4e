/-
# Beatsheet.Number.Share — shares

The binary64 number nearest to a share `a / b`, where `0 < a ≤ b`; of two numbers at the same
distance the one with the even significand. The significand is the share in units of the last binary
place: so many places that it has 53 bits, or 1074 places where the numbers end. The fields of the
number lie behind each other, so a significand that is rounded up to 54 bits counts the exponent up
by itself.
-/

set_option autoImplicit false

namespace Beatsheet.Share

/-- The whole number nearest to `n / d`, the even one of two at the same distance. -/
def roundHalfEven (n d : Nat) : Nat :=
  if d < 2 * (n % d) || (2 * (n % d) == d && n / d % 2 == 1) then n / d + 1 else n / d

/-- The least number of 53 bits. -/
def leadingBit : Nat := 0x10000000000000

/-- The number of binary places in the significand of `a / b`. -/
def places (a b : Nat) : Nat :=
  let few := 52 + (b.log2 - a.log2)
  min 1074 (if a <<< few < b * leadingBit then few + 1 else few)

/-- The bits of the number nearest to `a / b`. -/
def bits (a b : Nat) : Nat :=
  (1074 - places a b) * leadingBit + roundHalfEven (a <<< places a b) b

/-- The share of a whole is one, whose bits these are. -/
theorem bits_self {n : Nat} (h : 0 < n) : bits n n = 0x3FF0000000000000 := by
  have hp : places n n = 52 := by simp [places, leadingBit, Nat.shiftLeft_eq]
  simp [bits, hp, roundHalfEven, Nat.shiftLeft_eq, Nat.mul_div_cancel_left _ h, leadingBit]

def toFloat (a b : Nat) : Float :=
  Float.ofBits (UInt64.ofNat (bits a b))

end Beatsheet.Share
