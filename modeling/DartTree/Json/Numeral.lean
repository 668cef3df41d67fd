import DartTree.Decimal.Written

/-! Numbers as JSON writes them, read digit by digit. The significand takes as
many digits as fit into 64 bits; further digits only count towards the scale. -/
namespace DartTree.Json

def significandBound : Nat := 0x10000000000000000

def integerBound : Nat := 0x8000000000000000

/-- A number that was read: `significand * 10 ^ exponent` with a sign. -/
structure Numeral where
  negative : Bool
  significand : Nat
  exponent : Int
  /-- Written without point and exponent, and held by the significand. -/
  integral : Bool
deriving DecidableEq, Repr, Inhabited

inductive Number where
  | natural (value : Nat)
  | negative (magnitude : Nat)
  | floating (value : Float)
  | tooLarge

namespace Numeral

def scaleDown (number : Float) (exponent : Nat) : Float :=
  if exponent ≤ 308 then number / Float.ofScientific 1 false exponent
  else if number == 0 then number
  else scaleDown (number / Float.ofScientific 1 false 308) (exponent - 308)
termination_by exponent

def scaleUp? (number : Float) (exponent : Nat) : Option Float :=
  if exponent ≤ 308 then
    let scaled := number * Float.ofScientific 1 false exponent
    if scaled.isInf then none else some scaled
  else if number == 0 then some number
  else none

def magnitude? (numeral : Numeral) : Option Float :=
  let number := numeral.significand.toUInt64.toFloat
  if numeral.exponent < 0 then some (scaleDown number numeral.exponent.natAbs)
  else scaleUp? number numeral.exponent.natAbs

/-- An integral numeral is a natural number, or below zero an integer of 64
bits; all others are floating-point numbers, minus zero among them. -/
def number (numeral : Numeral) : Number :=
  if numeral.integral && !numeral.negative then .natural numeral.significand
  else if numeral.integral && 0 < numeral.significand && numeral.significand ≤ integerBound then
    .negative numeral.significand
  else match numeral.magnitude? with
    | none => .tooLarge
    | some magnitude => .floating (if numeral.negative then -magnitude else magnitude)

end Numeral

inductive NumberPhase where
  | sign
  | zero
  | integer
  | point
  | fraction
  | mark
  | markSign
  | power
deriving DecidableEq, Repr, Inhabited

structure NumberScan where
  phase : NumberPhase
  negative : Bool := false
  significand : Nat := 0
  scale : Int := 0
  /-- The significand takes no further digit. -/
  full : Bool := false
  integral : Bool := true
  powerNegative : Bool := false
  power : Nat := 0
deriving DecidableEq, Repr, Inhabited

inductive NumberStep where
  | more (scan : NumberScan)
  | ended
  | malformed

namespace NumberScan

def digitValue (char : Char) : Nat := char.toNat - '0'.toNat

/-- A digit before the point. One that does not fit scales the number. -/
def integerDigit (scan : NumberScan) (digit : Nat) : NumberScan :=
  if !scan.full && 10 * scan.significand + digit < significandBound then
    { scan with phase := .integer, significand := 10 * scan.significand + digit }
  else { scan with phase := .integer, full := true, integral := false, scale := scan.scale + 1 }

/-- A digit after the point. One that does not fit is dropped. -/
def fractionDigit (scan : NumberScan) (digit : Nat) : NumberScan :=
  if !scan.full && 10 * scan.significand + digit < significandBound then
    { scan with
      phase := .fraction, significand := 10 * scan.significand + digit, scale := scan.scale - 1 }
  else { scan with phase := .fraction, full := true }

def powerDigit (scan : NumberScan) (digit : Nat) : NumberScan :=
  { scan with phase := .power, power := 10 * scan.power + digit }

def afterInteger (scan : NumberScan) (char : Char) : NumberStep :=
  if char = '.' then .more { scan with phase := .point, full := false, integral := false }
  else if char = 'e' || char = 'E' then .more { scan with phase := .mark, integral := false }
  else .ended

def step (scan : NumberScan) (char : Char) : NumberStep :=
  match scan.phase with
  | .sign =>
    if char = '0' then .more { scan with phase := .zero }
    else if char.isDigit then .more (scan.integerDigit (digitValue char))
    else .malformed
  | .zero => if char.isDigit then .malformed else scan.afterInteger char
  | .integer =>
    if char.isDigit then .more (scan.integerDigit (digitValue char)) else scan.afterInteger char
  | .point =>
    if char.isDigit then .more (scan.fractionDigit (digitValue char)) else .malformed
  | .fraction =>
    if char.isDigit then .more (scan.fractionDigit (digitValue char))
    else if char = 'e' || char = 'E' then .more { scan with phase := .mark }
    else .ended
  | .mark =>
    if char = '+' then .more { scan with phase := .markSign }
    else if char = '-' then .more { scan with phase := .markSign, powerNegative := true }
    else if char.isDigit then .more (scan.powerDigit (digitValue char))
    else .malformed
  | .markSign => if char.isDigit then .more (scan.powerDigit (digitValue char)) else .malformed
  | .power => if char.isDigit then .more (scan.powerDigit (digitValue char)) else .ended

def numeral? (scan : NumberScan) : Option Numeral :=
  match scan.phase with
  | .sign | .point | .mark | .markSign => none
  | .zero | .integer | .fraction | .power =>
    some {
      negative := scan.negative
      significand := scan.significand
      exponent := scan.scale + if scan.powerNegative then -(scan.power : Int) else scan.power
      integral := scan.integral }

end NumberScan
end DartTree.Json
