import DartTree.Decimal.Shortest

/-! Decimal numbers as text: with a point where the number has few places, with
an exponent where it has many. -/
namespace DartTree.Decimal

structure Style where
  /-- The least position of the point, counted from the first digit, at which
  no exponent is written. -/
  leastPoint : Int
  mostPoint : Int

def writtenExponent (exponent : Int) : String :=
  (if exponent < 0 then "e-" else "e+") ++ toString exponent.natAbs

/-- The text of a decimal. A whole number keeps a zero behind the point. -/
def written (style : Style) (decimal : Decimal) : String :=
  let digits := Nat.toDigits 10 decimal.digits
  let point : Int := digits.length + decimal.exponent
  if point < style.leastPoint || style.mostPoint < point then
    match digits with
    | [] => ""
    | first :: rest =>
      String.ofList (if rest.isEmpty then [first] else first :: '.' :: rest)
        ++ writtenExponent (point - 1)
  else if point ≤ 0 then
    String.ofList ('0' :: '.' :: List.replicate point.natAbs '0' ++ digits)
  else if 0 ≤ decimal.exponent then
    String.ofList (digits ++ List.replicate decimal.exponent.natAbs '0' ++ ['.','0'])
  else
    String.ofList (digits.take point.natAbs ++ '.' :: digits.drop point.natAbs)

def signBit : Nat := 0x8000000000000000

def writtenFloat (style : Style) (number : Float) : String :=
  let bits := number.toBits
  let sign := if bits.toNat < signBit then "" else "-"
  if bits.toNat % signBit = 0 then sign ++ "0.0"
  else sign ++ (shortest (.ofBits bits)).written style

end DartTree.Decimal
