/-!
# Doubles as decimals

A double is a sign and `mantissa * 2 ^ exponent`. A decimal is read as the double nearest to it, of two equally near
ones that with the even mantissa. A double is written with the fewest digits that are read back as itself, as the
nearest such decimal, and never with an exponent. All of it is exact arithmetic on natural numbers.
-/

namespace BridgeLedger

inductive Binary64 where
  | finite (negative : Bool) (mantissa : Nat) (exponent : Int)
  | infinite (negative : Bool)
  | nan
deriving DecidableEq, Repr

structure Ratio where
  num : Nat
  den : Nat

namespace Ratio

def scaled (n base : Nat) (e : Int) : Ratio :=
  match e with
  | .ofNat e => ⟨n * Nat.pow base e, 1⟩
  | .negSucc e => ⟨n, Nat.pow base (e + 1)⟩

def mul (x y : Ratio) : Ratio := ⟨x.num * y.num, x.den * y.den⟩

def floor (x : Ratio) : Nat := x.num / x.den

/-- The nearest natural number, of two equally near ones the even one. -/
def round (x : Ratio) : Nat :=
  let whole := x.num / x.den
  let twice := 2 * (x.num % x.den)
  if twice < x.den then whole
  else if x.den < twice then whole + 1
  else whole + whole % 2

def log2 (x : Ratio) : Int :=
  let guess : Int := (x.num.log2 : Int) - x.den.log2
  let scale := scaled 1 2 guess
  if scale.num * x.den ≤ x.num * scale.den then guess else guess - 1

def lt (x y : Ratio) : Bool := x.num * y.den < y.num * x.den

def le (x y : Ratio) : Bool := x.num * y.den ≤ y.num * x.den

end Ratio

namespace Binary64

/-- The least mantissa of 53 binary digits, which is as many as a double has. -/
def leastFull : Nat := 4503599627370496

def minExponent : Int := -1074

def maxExponent : Int := 971

/-- The double nearest to `digits * 10 ^ exponent`, or an infinite one beyond the largest. -/
def ofDecimal (negative : Bool) (digits : Nat) (exponent : Int) : Binary64 :=
  let magnitude : Int := (Nat.toDigits 10 digits).length + exponent
  if digits = 0 || magnitude < -400 then .finite negative 0 minExponent
  else if 400 < magnitude then .infinite negative
  else
    let x := Ratio.scaled digits 10 exponent
    let e := max minExponent (x.log2 - 52)
    let m := (x.mul (.scaled 1 2 (-e))).round
    let (m, e) := if m = 2 * leastFull then (leastFull, e + 1) else (m, e)
    if maxExponent < e then .infinite negative else .finite negative m e

/-! ## Writing -/

structure Decimal where
  digits : Nat
  exponent : Int

def Decimal.ratio (d : Decimal) : Ratio := .scaled d.digits 10 d.exponent

/-- Whether the decimal is read back as `mantissa * 2 ^ exponent`: it lies between the midpoints to the neighbours,
which count where the mantissa is even. -/
def isReadBack (mantissa : Nat) (exponent : Int) (d : Decimal) : Bool :=
  let x := d.ratio
  let below : Ratio :=
    if mantissa = leastFull && minExponent < exponent then .scaled (4 * mantissa - 1) 2 (exponent - 2)
    else .scaled (2 * mantissa - 1) 2 (exponent - 1)
  let above : Ratio := .scaled (2 * mantissa + 1) 2 (exponent - 1)
  if mantissa % 2 = 0 then below.le x && x.le above else below.lt x && x.lt above

def log10 (x : Ratio) : Int :=
  let guess := x.log2 * 30103 / 100000 - 1
  ([guess, guess + 1, guess + 2].filter fun k => (Ratio.scaled 1 10 k).le x).getLastD guess

/-- The two decimals of `count` digits around the number, the nearer one first, of two equally near ones the upper. -/
def neighbours (x : Ratio) (count : Nat) : List Decimal :=
  let exponent := log10 x - (count - 1)
  let grid := x.mul (.scaled 1 10 (-exponent))
  let low := grid.floor
  let lower : Decimal := ⟨low, exponent⟩
  let upper : Decimal := ⟨low + 1, exponent⟩
  if 2 * (grid.num % grid.den) < grid.den then [lower, upper] else [upper, lower]

/-- The decimal with the fewest digits that is read back as the double. -/
def shortest (mantissa : Nat) (exponent : Int) : Decimal :=
  if mantissa = 0 then ⟨0, 0⟩
  else
    let x := Ratio.scaled mantissa 2 exponent
    let candidates := (List.range 17).flatMap fun i => neighbours x (i + 1)
    (candidates.find? (isReadBack mantissa exponent)).getD ⟨mantissa * Nat.pow 2 exponent.toNat, 0⟩

def Decimal.text (d : Decimal) : List Char :=
  let digits := Nat.toDigits 10 d.digits
  match d.exponent with
  | .ofNat e => (if d.digits = 0 then ['0'] else digits ++ List.replicate e '0') ++ ['.', '0']
  | .negSucc e =>
    let digits := List.replicate (e + 2 - digits.length) '0' ++ digits
    let whole := digits.length - (e + 1)
    let fraction := ((digits.drop whole).reverse.dropWhile (· == '0')).reverse
    digits.take whole ++ '.' :: (if fraction.isEmpty then ['0'] else fraction)

def text : Binary64 → String
  | finite negative mantissa exponent =>
    String.ofList ((if negative then ['-'] else []) ++ (shortest mantissa exponent).text)
  | infinite negative => if negative then "-inf" else "inf"
  | nan => "NaN"

end Binary64

end BridgeLedger
