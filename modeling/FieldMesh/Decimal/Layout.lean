import FieldMesh.Decimal.Shortest

/-! # Layouts of numbers

How a floating-point number is written once its digits are known. A layout says whether a
whole number shows a point, which magnitudes are written with an exponent, how that is written,
and which of two equally short and near decimals stands for a number.
-/

namespace FieldMesh

/-- The choices in writing a number. -/
structure NumberLayout where
  /-- A whole number ends in a point and a zero. -/
  point : Bool
  /-- Magnitudes at or above this power of ten have an exponent. -/
  large : Option Int
  /-- Magnitudes below this power of ten have an exponent. -/
  small : Option Int
  /-- A positive exponent has a sign. -/
  sign : Bool
  tie : Tie
deriving Inhabited

namespace NumberLayout

/-- Log lines: no exponents, and a whole number has no point. -/
def plain : NumberLayout := ⟨false, none, none, false, .up⟩

/-- Lists of coordinates: every number has a point, and extreme ones have an exponent. -/
def listed : NumberLayout := ⟨true, some 16, some (-4), false, .up⟩

/-- Data files, and error texts about them: every number has a point or an exponent with its
sign, and of two decimals the even one is taken. -/
def data : NumberLayout := ⟨true, some 16, some (-5), true, .even⟩

end NumberLayout

namespace Decimal

def zeros (n : Nat) : String := String.ofList (List.replicate n '0')

def positional (d : Decimal) (point : Bool) : String :=
  let text := Nat.toDigits 10 d.digits
  if 0 ≤ d.exponent then
    String.ofList text ++ zeros d.exponent.toNat ++ if point then ".0" else ""
  else
    let places := (-d.exponent).toNat
    if text.length ≤ places then
      "0." ++ zeros (places - text.length) ++ String.ofList text
    else
      String.ofList (text.take (text.length - places)) ++ "." ++
        String.ofList (text.drop (text.length - places))

/-- One digit, the others after a point, and the exponent of the first. -/
def scientific (d : Decimal) (sign : Bool) : String :=
  let text := Nat.toDigits 10 d.digits
  let exponent := d.exponent + (text.length - 1 : Nat)
  let rest := text.drop 1
  String.ofList (text.take 1) ++ (if rest.isEmpty then "" else "." ++ String.ofList rest) ++ "e" ++
    (if sign && 0 < exponent then "+" else "") ++ toString exponent

/-- The power of ten just above the leading digit. -/
def magnitude (d : Decimal) : Int := d.exponent + (Nat.toDigits 10 d.digits).length

end Decimal

namespace NumberLayout

/-- Writes a decimal other than zero. -/
def writeDecimal (l : NumberLayout) (d : Decimal) : String :=
  if l.large.any (· < d.magnitude) || l.small.any (d.magnitude ≤ ·) then
    d.scientific l.sign
  else d.positional l.point

def write (l : NumberLayout) (x : Float) : String :=
  if x.isNaN then "NaN"
  else
    let sign := if 0x8000000000000000 ≤ x.toBits.toNat then "-" else ""
    if x.isInf then sign ++ "inf"
    else if x == 0.0 then sign ++ if l.point then "0.0" else "0"
    else sign ++ l.writeDecimal ((Binary.ofBits x.toBits).shortest l.tie)

end NumberLayout

end FieldMesh
