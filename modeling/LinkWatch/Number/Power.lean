/-
# Powers of two and of ten

The powers that number formats are built from, and the bounds of the whole numbers of 64 bits.
-/
namespace LinkWatch

/-- The power `2 ^ n`. -/
abbrev twoPow (n : Nat) : Nat := Nat.pow 2 n

/-- The power `10 ^ n`. -/
abbrev tenPow (n : Nat) : Nat := Nat.pow 10 n

theorem twoPow_pos (n : Nat) : 0 < twoPow n := Nat.two_pow_pos n

theorem twoPow_add (m n : Nat) : twoPow (m + n) = twoPow m * twoPow n := Nat.pow_add 2 m n

theorem twoPow_le_twoPow {m n : Nat} (h : m ≤ n) : twoPow m ≤ twoPow n :=
  Nat.pow_le_pow_right (by decide) h

/-- The largest whole number of 64 bits without a sign. -/
abbrev maxWord : Nat := 18446744073709551615

/-- The largest whole number of 64 bits with a sign; the smallest one is less than its negation by
one. -/
abbrev maxSigned : Nat := 9223372036854775807

end LinkWatch
