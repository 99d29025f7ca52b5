/-!
Decimal numbers and the doubles they stand for. A decimal is read as the double nearest to its exact
value; a double is taken apart into the integer times a power of two that it is.
-/
namespace AgentWire

/-- The number `digits * 10 ^ exponent`. -/
structure Decimal where
  digits : Nat
  exponent : Int
  deriving DecidableEq, Repr

namespace Decimal

/-- Moves up to `fuel` factors of ten from the digits to the exponent. -/
def strip : Nat → Nat → Int → Decimal
  | 0, d, e => ⟨d, e⟩
  | fuel + 1, d, e => if d % 10 = 0 then strip fuel (d / 10) (e + 1) else ⟨d, e⟩

/-- The same number with no zero at the end of its digits; zero has exponent zero. -/
def normalize (d : Decimal) : Decimal :=
  if d.digits = 0 then ⟨0, 0⟩ else strip (Nat.toDigits 10 d.digits).length d.digits d.exponent

/-- The double nearest to a decimal, ties to even. Beyond the range of doubles it is infinite, below
it zero; the two early exits only keep the powers of ten small. -/
def toFloat (d : Decimal) : Float :=
  let n := d.normalize
  let magnitude := (Nat.toDigits 10 n.digits).length + n.exponent
  if n.digits = 0 then Float.ofBits 0
  else if magnitude > 310 then Float.ofBits 0x7FF0000000000000
  else if magnitude < -330 then Float.ofBits 0
  else Float.ofScientific n.digits (n.exponent < 0) n.exponent.natAbs

end Decimal

/-- The number `mantissa * 2 ^ exponent`. -/
structure Dyadic where
  mantissa : Nat
  exponent : Int
  deriving DecidableEq, Repr

/-- The magnitude of a finite double. An infinity or a number that is none has no such value: ask
first. -/
def Dyadic.ofFloat (x : Float) : Dyadic :=
  let e := ((x.toBits >>> 52) &&& 0x7FF).toNat
  let f := (x.toBits &&& 0xFFFFFFFFFFFFF).toNat
  if e = 0 then ⟨f, -1074⟩ else ⟨0x10000000000000 + f, (e : Int) - 1075⟩

def signBit (x : Float) : Bool :=
  x.toBits >>> 63 = 1

def isInteger (x : Float) (i : Int) : Bool :=
  let v := Dyadic.ofFloat x
  x.isFinite &&
    (if signBit x then decide (i ≤ 0) else decide (0 ≤ i)) &&
      v.mantissa <<< v.exponent.toNat == i.natAbs <<< (-v.exponent).toNat

end AgentWire
