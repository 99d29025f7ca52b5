import AgentWire.Number.Decimal
/-!
The shortest decimal that is read back as a given double, and its text. Of the decimals with the
fewest digits the nearest to the double is taken, on a tie the one with an even last digit.
-/
namespace AgentWire

def Dyadic.quotient (v : Dyadic) : Nat × Nat :=
  (v.mantissa <<< v.exponent.toNat, 1 <<< (-v.exponent).toNat)

/-- The magnitude written out in full: a double is a finite decimal. -/
def Dyadic.toDecimal (v : Dyadic) : Decimal :=
  if v.exponent < 0 then ⟨v.mantissa * Nat.pow 5 (-v.exponent).toNat, v.exponent⟩
  else ⟨v.mantissa <<< v.exponent.toNat, 0⟩

namespace Shortest

/-- `num / den < 10 ^ k`. -/
def below (num den : Nat) (k : Int) : Bool :=
  num * Nat.pow 10 (-k).toNat < den * Nat.pow 10 k.toNat

/-- The least `k` with `num / den < 10 ^ k`, found next to an estimate from the binary length. -/
def scale (num den : Nat) : Int :=
  let guess := ((Nat.log2 num : Int) - Nat.log2 den) * 30103 / 100000
  ([-1, 0, 1, 2].map (guess + ·)).find? (below num den) |>.getD (guess + 3)

/-- The two neighbours of `num / den` on the grid of multiples of `10 ^ e`, the nearer first. -/
def neighbours (num den : Nat) (e : Int) : List Decimal :=
  let top := num * Nat.pow 10 (-e).toNat
  let unit := den * Nat.pow 10 e.toNat
  let low := top / unit
  let twice := 2 * (top % unit)
  if twice < unit || (twice == unit && low % 2 == 0) then [⟨low, e⟩, ⟨low + 1, e⟩]
  else [⟨low + 1, e⟩, ⟨low, e⟩]

/-- The first neighbour on the grid of `n` significant digits that is read back as `v`. -/
def withDigits (v : Dyadic) (k : Int) (n : Nat) : Option Decimal :=
  let (num, den) := v.quotient
  (neighbours num den (k - n)).find? fun d => Dyadic.ofFloat d.toFloat == v

/-- The shortest decimal for the magnitude of a finite double. Seventeen digits are tried; should
none do, the magnitude is written out in full. -/
def ofMagnitude (v : Dyadic) : Decimal :=
  if v.mantissa = 0 then ⟨0, 0⟩
  else
    let (num, den) := v.quotient
    let k := scale num den
    (((List.range 17).findSome? fun n => withDigits v k (n + 1)).getD v.toDecimal).normalize

end Shortest

structure NumberText.Layout where
  /-- Least decimal exponent of the leading digit that is still written without an exponent. -/
  plainFrom : Int
  /-- Least decimal exponent of the leading digit that is written with an exponent again. -/
  plainBelow : Int
  exponentWidth : Nat

/-- Numbers are written positionally from 0.0001 up to, but not including, 10 ^ 16; otherwise with a
signed exponent of at least two digits. A number without fraction keeps `.0` in positional form
only. -/
def NumberText.number : NumberText.Layout := ⟨-4, 16, 2⟩

namespace NumberText

def padded (width n : Nat) : List Char :=
  let ds := Nat.toDigits 10 n
  List.replicate (width - ds.length) '0' ++ ds

/-- Digits with the point after the first `k` of them, `k` any integer; zeros are filled in. -/
def positional (ds : List Char) (k : Int) : List Char :=
  if k ≤ 0 then '0' :: '.' :: (List.replicate (-k).toNat '0' ++ ds)
  else if ds.length ≤ k.toNat then ds ++ List.replicate (k.toNat - ds.length) '0' ++ ['.', '0']
  else ds.take k.toNat ++ '.' :: ds.drop k.toNat

def layOut (l : Layout) (d : Decimal) : List Char :=
  let ds := Nat.toDigits 10 d.digits
  let lead := ds.length + d.exponent - 1
  if l.plainFrom ≤ lead && lead < l.plainBelow then positional ds (lead + 1)
  else
    let mantissa := match ds with
      | [] => []
      | [c] => [c]
      | c :: rest => c :: '.' :: rest
    mantissa ++ 'e' :: (if lead < 0 then '-' else '+') :: padded l.exponentWidth lead.natAbs

def finite (x : Float) : List Char :=
  (if signBit x then ['-'] else []) ++ layOut number (Shortest.ofMagnitude (Dyadic.ofFloat x))

end NumberText

end AgentWire
