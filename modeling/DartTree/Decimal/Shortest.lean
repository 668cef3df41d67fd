/-! The shortest decimal of a binary floating-point number: the fewest digits
that read back as the number, and of those the ones nearest to it. -/
namespace DartTree

structure Decimal where
  digits : Nat
  exponent : Int
deriving DecidableEq, Repr, Inhabited

namespace Decimal

structure Binary where
  mantissa : Nat
  exponent : Int
  /-- The next number below is only half as far away as the next one above. -/
  narrow : Bool
deriving DecidableEq, Repr, Inhabited

namespace Binary

def hiddenBit : Nat := 0x10000000000000

def ofBits (bits : UInt64) : Binary :=
  let fraction : Nat := bits.toNat % hiddenBit
  let biased : Nat := bits.toNat / hiddenBit % 0x800
  if biased = 0 then ⟨fraction,-1074,false⟩
  else ⟨hiddenBit + fraction,(biased : Int) - 1075,fraction = 0 && biased ≠ 1⟩

end Binary

structure Ratio where
  numerator : Nat
  denominator : Nat

namespace Ratio

def power (base : Nat) (exponent : Int) : Ratio :=
  if exponent < 0 then ⟨1,base.pow exponent.natAbs⟩ else ⟨base.pow exponent.natAbs,1⟩

def scale (ratio : Ratio) (factor : Nat) : Ratio := ⟨ratio.numerator * factor,ratio.denominator⟩

def div (left right : Ratio) : Ratio :=
  ⟨left.numerator * right.denominator,left.denominator * right.numerator⟩

def floor (ratio : Ratio) : Nat := ratio.numerator / ratio.denominator

def le (left right : Ratio) : Bool :=
  left.numerator * right.denominator ≤ right.numerator * left.denominator

def lt (left right : Ratio) : Bool :=
  left.numerator * right.denominator < right.numerator * left.denominator

end Ratio

structure Interval where
  low : Ratio
  value : Ratio
  high : Ratio
  closed : Bool

namespace Interval

/-- Everything nearer to the number than to its neighbours; of a tie the even
mantissa has both ends. -/
def ofBinary (binary : Binary) : Interval :=
  let quarter := Ratio.power 2 (binary.exponent - 2)
  let middle := 4 * binary.mantissa
  { low := quarter.scale (middle - if binary.narrow then 1 else 2)
    value := quarter.scale middle
    high := quarter.scale (middle + 2)
    closed := binary.mantissa % 2 = 0 }

def contains (interval : Interval) (point : Ratio) : Bool :=
  if interval.closed then interval.low.le point && point.le interval.high
  else interval.low.lt point && point.lt interval.high

def leading (interval : Interval) : Int :=
  ((Nat.toDigits 10 (interval.value.scale (Nat.pow 10 400)).floor).length : Int) - 401

/-- The nearest multiple of `10 ^ exponent` that reads back. A tie goes to the
even multiple. -/
def nearest? (interval : Interval) (exponent : Int) : Option Nat :=
  let unit := Ratio.power 10 exponent
  let below := (interval.value.div unit).floor
  let above := below + 1
  match interval.contains (unit.scale below), interval.contains (unit.scale above) with
  | false, false => none
  | true, false => some below
  | false, true => some above
  | true, true =>
    let middle := unit.scale (below + above)
    let double := interval.value.scale 2
    some (if double.lt middle then below
      else if middle.lt double then above
      else if below % 2 = 0 then below else above)

end Interval

def strip (decimal : Decimal) : Nat → Decimal
  | 0 => decimal
  | count + 1 =>
    if decimal.digits % 10 = 0 then
      strip ⟨decimal.digits / 10,decimal.exponent + 1⟩ count
    else decimal

/-- The shortest decimal of a positive number. Seventeen digits always read
back. -/
def shortest (binary : Binary) : Decimal :=
  let interval := Interval.ofBinary binary
  let leading := interval.leading
  let found := (List.range 17).findSome? fun (further : Nat) =>
    (interval.nearest? (leading - further)).map fun digits => Decimal.mk digits (leading - further)
  (found.getD ⟨0,0⟩).strip 17

end Decimal
end DartTree
