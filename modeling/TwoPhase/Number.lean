import TwoPhase.Decimal.Shortest

/-!
# Numbers

A number is a double-precision floating-point value, held by its 64 bits. The program stores,
moves, compares and prints numbers and never computes with them, so the bits are the whole
representation: two numbers are the same value exactly when their bits are.

`Number.agrees` is the comparison that arithmetic uses instead. It differs from equality of
bits twice: the two zeros agree, and a value that is not a number agrees with nothing.
-/

namespace TwoPhase

/-- A double-precision floating-point value. -/
structure Number where
  bits : UInt64
deriving DecidableEq, Repr, Inhabited

namespace Number

/-- Positive zero. -/
def zero : Number := ⟨0⟩

/-- Whether the sign bit is set. -/
def negative (n : Number) : Bool := n.bits.toNat / Nat.pow 2 63 == 1

/-- The eleven bits of the biased exponent. -/
def biased (n : Number) : Nat := n.bits.toNat / Nat.pow 2 52 % Nat.pow 2 11

/-- The 52 bits of the fraction. -/
def fraction (n : Number) : Nat := n.bits.toNat % Nat.pow 2 52

/-- Whether the value is an infinity. -/
def isInfinite (n : Number) : Bool := n.biased == 2047 && n.fraction == 0

/-- Whether the value is not a number. -/
def isNaN (n : Number) : Bool := n.biased == 2047 && n.fraction != 0

/-- Whether the value is one of the two zeros. -/
def isZero (n : Number) : Bool := n.biased == 0 && n.fraction == 0

/-- Arithmetical comparison: zeros agree whatever their sign, and a value that is not a number
agrees with nothing, itself included. -/
def agrees (a b : Number) : Bool :=
  !a.isNaN && !b.isNaN && (a == b || (a.isZero && b.isZero))

/-- The absolute value as a positive binary value, for a finite number other than zero. Below
the smallest normal number the exponent stays put and the significand has no leading one. -/
def magnitude (n : Number) : Decimal.Binary :=
  if n.biased = 0 then ⟨n.fraction, -1074, false⟩
  else ⟨n.fraction + Nat.pow 2 52, (n.biased : Int) - 1075, n.fraction == 0 && n.biased != 1⟩

/-- The text of the absolute value. -/
def magnitudeText (n : Number) : List Char :=
  if n.isInfinite then "inf".toList
  else if n.isZero then ['0']
  else Decimal.positional n.magnitude.shortest.1 n.magnitude.shortest.2

/-- The text of a number: the fewest digits that read back as the same value, in positional
notation, without a point in an integer. -/
def text (n : Number) : String :=
  if n.isNaN then "NaN"
  else String.ofList (if n.negative then '-' :: n.magnitudeText else n.magnitudeText)

end Number
end TwoPhase
