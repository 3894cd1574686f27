/-!
# `PinTypes.Number.Power` — powers of two and of ten

The powers that scales are made of. A scale with a signed exponent `e` is kept as the fraction
`twoTo e.toNat / twoTo (-e).toNat`, of which one side is always one.

## Contents
- **Powers.** `twoTo`, `tenTo`, and that they are positive.
- **Limits.** `bits52`, `bits53`, `int64Limit`, `nat64Limit`: the powers of two that bound significands and
  words.
-/

namespace PinTypes.Number

/-! ## Powers -/

/-- The power of two with that exponent. -/
def twoTo (e : Nat) : Nat := Nat.pow 2 e

/-- The power of ten with that exponent. -/
def tenTo (e : Nat) : Nat := Nat.pow 10 e

theorem twoTo_pos (e : Nat) : 0 < twoTo e := Nat.pow_pos (by decide)

theorem tenTo_pos (e : Nat) : 0 < tenTo e := Nat.pow_pos (by decide)

/-! ## Limits -/

/-- The least number of 53 bits. -/
def bits52 : Nat := 4503599627370496

/-- The least number of 54 bits. -/
def bits53 : Nat := 9007199254740992

/-- The least natural number that 64 signed bits cannot hold. -/
def int64Limit : Int := 9223372036854775808

/-- The least natural number that 64 bits without a sign cannot hold. -/
def nat64Limit : Int := 18446744073709551616

theorem bits52_eq : bits52 = twoTo 52 := rfl

theorem bits53_eq : bits53 = twoTo 53 := rfl

theorem int64Limit_eq : int64Limit = twoTo 63 := rfl

theorem nat64Limit_eq : nat64Limit = twoTo 64 := rfl

end PinTypes.Number
