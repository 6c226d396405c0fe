/-!
# Fractions in messages

Where a JSON text holds a fraction and something else is wanted, the message shows the
fraction as the library `serde_json` does, which reads and prints it as a binary number
of 64 bits.  The definitions of this module stand for that behaviour.  Nothing is proved
about them, and no theorem depends on what they compute.

A binary number is a whole number below 2^53 times a power of two that is not
below 2^-1074.  Such numbers are taken here without a sign and as the ratios
that they are.  Rounding goes to the nearest of them; from halfway between two
it goes to the even multiple.  All else is exact arithmetic, so a result is
rounded where a definition says so and nowhere else.
-/

namespace MarkedTree.Number

def power (base : Nat) (exponent : Int) : Rat :=
  mkRat (Nat.pow base exponent.toNat) (Nat.pow base (-exponent).toNat)

/-- The nearest whole number to a ratio, the even one of two that are equally
near. -/
def nearestWhole (x : Rat) : Int :=
  let low := x.floor
  let rest := 2 * (x - low)
  if rest < 1 then low
  else if 1 < rest then low + 1
  else if low % 2 == 0 then low
  else low + 1

/-- The distance between the binary numbers around a ratio.  A positive ratio
is at least 2^52 and less than 2^53 of these distances, unless they would have
to be smaller than 2^-1074. -/
def spacing (x : Rat) : Rat :=
  let guess : Int := x.num.toNat.log2 - x.den.log2
  let leading := if x < power 2 guess then guess - 1 else guess
  power 2 (max (leading - 52) (-1074))

/-- The binary number that is nearest to a ratio.  There is no upper end
here. -/
def rounded (x : Rat) : Rat := nearestWhole (x / spacing x) * spacing x

/-- Whether a rounded ratio is a number of 64 bits. -/
def isFinite (x : Rat) : Bool := x < power 2 1024

/-- The binary number next to a power of ten. -/
def tenTo (places : Nat) : Rat := rounded (power 10 places)

/-- A binary number times a power of ten, if that is not too large.  From
10^309 on, no power is a number of 64 bits. -/
def scaledUp (x : Rat) (places : Nat) : Option Rat :=
  if x == 0 then some 0
  else if places ≤ 308 then
    let product := rounded (x * tenTo places)
    if isFinite product then some product else none
  else none

/-- A binary number over a power of ten.  A power beyond 10^308 is divided out
in steps, and each step rounds. -/
def scaledDown (x : Rat) (places : Nat) : Rat :=
  if x == 0 then 0
  else if places ≤ 308 then rounded (x / tenTo places)
  else scaledDown (rounded (x / tenTo 308)) (places - 308)
termination_by places

/-!
## The fewest digits that stand for a binary number

Many decimals round to the same binary number.  The one that stands for it has
as few digits as any of them, and of those with so few it is the nearest.  It
is looked for on ever finer grids: on each grid, one of the two points beside
the number rounds to it if any point does.
-/

/-- The number `digits * 10 ^ exponent`. -/
structure Decimal where
  digits : Nat
  exponent : Int
deriving DecidableEq, Repr

namespace Decimal

def value (decimal : Decimal) : Rat := decimal.digits * power 10 decimal.exponent

/-- Whether a decimal rounds to the binary number given. -/
def standsFor (decimal : Decimal) (x : Rat) : Bool := rounded decimal.value == x

end Decimal

def digitCount (n : Nat) : Nat := (Nat.toDigits 10 n).length

/-- The least exponent of a power of ten that a positive ratio is below. -/
def magnitude (x : Rat) : Int :=
  if x < 1 then 1 - digitCount ((x.den - 1) / x.num.toNat) else digitCount x.floor.toNat

/-- The decimal with a given exponent that is nearest to a ratio, the even one
of two that are equally near. -/
def nearestDecimal (x : Rat) (exponent : Int) : Decimal :=
  ⟨(nearestWhole (x / power 10 exponent)).toNat, exponent⟩

/-- The two decimals with a given exponent beside a ratio, the nearer one
first. -/
def neighbours (x : Rat) (exponent : Int) : List Decimal :=
  let low := (x / power 10 exponent).floor.toNat
  let nearest := nearestDecimal x exponent
  [nearest, if nearest.digits = low then ⟨low + 1, exponent⟩ else ⟨low, exponent⟩]

/-- The decimal that stands for a positive binary number.  The first grid is
coarser than the number, and seventeen digits are always enough. -/
def shortest (x : Rat) : Decimal :=
  let finest := magnitude x - 17
  let grids := (List.range 18).map fun finer : Nat => magnitude x - finer
  ((grids.flatMap (neighbours x)).find? (·.standsFor x)).getD (nearestDecimal x finest)

/-!
## How binary numbers are written

A number is written with the fewest digits that stand for it.  Numbers from
0.00001 up to below 10^16 have a decimal point in its place and a digit behind
it at least.  All others have it behind the first digit, if there are more, and
an exponent with its sign.
-/

/-- Digits with the point in its place, that many digits from the left. -/
def positional (digits : List Char) (point : Int) : List Char :=
  if point ≤ 0 then ['0', '.'] ++ List.replicate (-point).toNat '0' ++ digits
  else if digits.length ≤ point then
    digits ++ List.replicate (point.toNat - digits.length) '0' ++ ['.', '0']
  else digits.take point.toNat ++ ['.'] ++ digits.drop point.toNat

/-- Digits with the point behind the first one, and an exponent. -/
def scientific (digits : List Char) (exponent : Int) : List Char :=
  let rest := digits.drop 1
  digits.take 1 ++ (if rest.isEmpty then [] else '.' :: rest) ++
    ['e', if exponent < 0 then '-' else '+'] ++ Nat.toDigits 10 exponent.natAbs

def Decimal.text (decimal : Decimal) : List Char :=
  let digits := Nat.toDigits 10 decimal.digits
  let point : Int := digits.length + decimal.exponent
  if -5 < point ∧ point ≤ 16 then positional digits point else scientific digits (point - 1)

/-- The text of a binary number with a sign.  Zero may be negative. -/
def text (negative : Bool) (x : Rat) : String :=
  String.ofList ((if negative then ['-'] else []) ++
    if x == 0 then ['0', '.', '0'] else (shortest x).text)

end MarkedTree.Number
