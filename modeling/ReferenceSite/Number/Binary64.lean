/-! Numbers of double precision. Such a number is a mantissa below two to the fifty-third power times
a power of two, or it is infinite or undefined. A decimal is read as the nearest such number, and a
number is written with the fewest decimal digits that read back as it. -/
namespace ReferenceSite.Number

inductive Binary64 where
  | finite (negative : Bool) (mantissa : Nat) (exponent : Int)
  | infinite (negative : Bool)
  | undefined
deriving DecidableEq

def above (base : Nat) (power : Int) : Nat := Nat.pow base power.toNat

def below (base : Nat) (power : Int) : Nat := Nat.pow base (-power).toNat

/-- The nearest whole number; of two equally near ones the even one. -/
def roundEven (numerator denominator : Nat) : Nat :=
  let whole := numerator / denominator
  let rest := 2 * (numerator % denominator)
  if rest < denominator ∨ (rest = denominator ∧ whole % 2 = 0) then whole else whole + 1

def nearest (negative : Bool) (numerator denominator : Nat) : Binary64 :=
  if numerator = 0 then .finite negative 0 0
  else
    let guess : Int := (numerator.log2 : Int) - denominator.log2 - 52
    let scaled (e : Int) : Nat × Nat := (numerator * below 2 e,denominator * above 2 e)
    let fits (e : Int) : Bool := (scaled e).1 < 0x20000000000000 * (scaled e).2
    let e := max (-1074) (if fits (guess - 1) then guess - 1 else if fits guess then guess else guess + 1)
    let m := roundEven (scaled e).1 (scaled e).2
    let (m,e) := if m = 0x20000000000000 then (0x10000000000000,e + 1) else (m,e)
    if e > 971 then .infinite negative else .finite negative m e

namespace Binary64

def ofDecimal (negative : Bool) (digits : Nat) (power : Int) : Binary64 :=
  -- powers beyond these bounds make every number zero or infinite
  if digits = 0 then .finite negative 0 0
  else if power > 400 then .infinite negative
  else if power < -400 - (digits.log2 : Int) then .finite negative 0 0
  else nearest negative (digits * above 10 power) (below 10 power)

/-- The nearest whole number; of two equally near ones the one farther from zero. -/
def round? : Binary64 → Option Int
  | finite negative m e =>
    let n : Int := (2 * (m * above 2 e) + below 2 e) / (2 * below 2 e)
    some (if negative then -n else n)
  | _ => none

/-- The digits of a grid point that reads back as a positive number, if the grid of powers of ten has
one. The nearer of the two neighbours on the grid wins. -/
def onGrid? (m : Nat) (e power : Int) : Option Nat :=
  -- all in quarters of the last place
  let unit := above 2 (e - 2) * below 10 power
  let grid := above 10 power * below 2 (e - 2)
  let value := 4 * m * unit
  let low := (if m = 0x10000000000000 ∧ e > -1074 then 4 * m - 1 else 4 * m - 2) * unit
  let high := (4 * m + 2) * unit
  let reads (d : Nat) : Bool :=
    if m % 2 = 0 then low ≤ d * grid && d * grid ≤ high else low < d * grid && d * grid < high
  let d := value / grid
  match reads d,reads (d + 1) with
  | true,true => some (if 2 * (value - d * grid) ≤ grid then d else d + 1)
  | true,false => some d
  | false,true => some (d + 1)
  | false,false => none

def magnitude (m : Nat) (e : Int) : Int :=
  let guess : Int := ((m.log2 : Int) + e) * 30103 / 100000
  let isBelow (k : Int) : Bool := m * above 2 e * below 10 k < above 10 k * below 2 e
  if isBelow guess then guess else if isBelow (guess + 1) then guess + 1 else guess + 2

def shortest (m : Nat) (e : Int) : Nat × Int :=
  let top := magnitude m e
  let found := (List.range 17).findSome? fun n : Nat =>
    let power : Int := top - (n + 1)
    (onGrid? m e power).map (·,power)
  found.getD (0,0)

def positional (digits : Nat) (power : Int) : String :=
  let ds := (toString digits).toList
  if 0 ≤ power then .ofList (ds ++ List.replicate power.toNat '0')
  else
    let places := (-power).toNat
    let padded := List.replicate (places + 1 - ds.length) '0' ++ ds
    .ofList (padded.take (padded.length - places) ++ '.' :: padded.drop (padded.length - places))

def text : Binary64 → String
  | finite negative m e =>
    (if negative then "-" else "") ++
      if m = 0 then "0"
      else
        let (digits,power) := shortest m e
        positional digits power
  | infinite negative => if negative then "-inf" else "inf"
  | undefined => "NaN"

end Binary64
end ReferenceSite.Number
