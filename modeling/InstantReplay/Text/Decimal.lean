import InstantReplay.Text.Numeral

/-!
# Quotients in binary and decimal places

`Binary.ofRatio` is the binary fraction of 53 bits nearest to a quotient, ties to the even one;
`Binary.text` writes such a fraction with a fixed number of decimal places.
-/

namespace InstantReplay

/-- The integer nearest to `num / den`, a half to the even neighbour. -/
def roundEven (num den : Nat) : Nat :=
  let quotient := num / den
  let rest := num % den
  if 2 * rest > den ∨ (2 * rest = den ∧ quotient % 2 = 1) then quotient + 1 else quotient

/-- The number `mantissa · 2 ^ exponent`. -/
structure Binary where
  mantissa : Nat
  exponent : Int

namespace Binary

/-- `num / den` as a binary fraction with 53 significant bits. -/
def ofRatio (num den : Nat) : Binary :=
  if num = 0 then ⟨0, 0⟩
  else
    let guess : Int := (num.log2 : Int) - den.log2 - 52
    let small := num * Nat.pow 2 (-guess).toNat < Nat.pow 2 52 * (den * Nat.pow 2 guess.toNat)
    let exponent := if small then guess - 1 else guess
    ⟨roundEven (num * Nat.pow 2 (-exponent).toNat) (den * Nat.pow 2 exponent.toNat), exponent⟩

/-- The number with `places` decimal places, a half to the even neighbour. -/
def text (value : Binary) (places : Nat) : String :=
  let units := roundEven (value.mantissa * Nat.pow 2 value.exponent.toNat * Nat.pow 10 places)
    (Nat.pow 2 (-value.exponent).toNat)
  let fraction := Numeral.padded '0' places (units % Nat.pow 10 places)
  toString (units / Nat.pow 10 places) ++ (if places = 0 then "" else "." ++ fraction)

end Binary

/-- Microseconds as seconds with one decimal place. Both the count and the quotient are first
rounded to 53 bits. -/
def secondsText (micros : Int64) : String :=
  let count := Binary.ofRatio micros.toInt.natAbs 1
  let seconds := Binary.ofRatio (count.mantissa * Nat.pow 2 count.exponent.toNat)
    (1000000 * Nat.pow 2 (-count.exponent).toNat)
  (if micros < 0 then "-" else "") ++ seconds.text 1

end InstantReplay
