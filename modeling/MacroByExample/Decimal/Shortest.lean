/-!
# The shortest decimal of a floating-point number

Among the decimals that read back as a given number, the shortest has the fewest digits, and of
those it is the nearest. The number is taken as `m * 2 ^ q`; the reals that round to it form an
interval around it, with its ends if `m` is even. For one digit, two digits and so on, the two
decimals next to the number on the grid with that many digits are tried until one lies inside.
Errors of JSON texts show a number that they found in this way.

Main definitions:
* `Decimal`: digits with a power of ten.
* `Binary`, `Binary.shortest`: a number in binary, and its shortest decimal.
* `Binary.ofFloat`: the sign and the binary form of a finite double.
* `Style`, `Style.chars`: how a decimal is written.
-/

namespace MacroByExample

/-! ## Numbers -/

/-- The number `digits * 10 ^ exponent`. -/
structure Decimal where
  digits : Nat
  exponent : Int
deriving DecidableEq, Repr

namespace Decimal

/-- The positive number `mantissa * 2 ^ exponent`; its lower neighbour is nearer than its upper one
    if `narrowBelow` holds. -/
structure Binary where
  mantissa : Nat
  exponent : Int
  narrowBelow : Bool
deriving DecidableEq, Repr

/-- A positive fraction. -/
structure Fraction where
  num : Nat
  den : Nat

/-- The fraction `n * base ^ e`. -/
def Fraction.scaled (n base : Nat) (e : Int) : Fraction :=
  ⟨n * Nat.pow base e.toNat, Nat.pow base (-e).toNat⟩

/-- Whether one fraction is at most another. -/
def Fraction.le (a b : Fraction) : Bool :=
  a.num * b.den ≤ b.num * a.den

/-- Whether one fraction is less than another. -/
def Fraction.lt (a b : Fraction) : Bool :=
  a.num * b.den < b.num * a.den

namespace Binary

/-- The number itself. -/
def value (x : Binary) : Fraction :=
  .scaled x.mantissa 2 x.exponent

/-- The lower end of the interval that rounds to the number. -/
def lower (x : Binary) : Fraction :=
  .scaled (4 * x.mantissa - if x.narrowBelow then 1 else 2) 2 (x.exponent - 2)

/-- The upper end of the interval that rounds to the number. -/
def upper (x : Binary) : Fraction :=
  .scaled (4 * x.mantissa + 2) 2 (x.exponent - 2)

/-- Whether the fraction rounds to the number. -/
def contains (x : Binary) (f : Fraction) : Bool :=
  if x.mantissa % 2 = 0 then x.lower.le f && f.le x.upper else x.lower.lt f && f.lt x.upper

/-- The exponent of ten of the first digit of a fraction below one, counted down from `e`. -/
def leadingExponentBelow (f : Fraction) : Nat → Int → Int
  | 0, e => e
  | fuel + 1, e => if (Fraction.scaled 1 10 e).le f then e else leadingExponentBelow f fuel (e - 1)

/-- The exponent of ten of the first digit of a fraction. -/
def leadingExponent (f : Fraction) : Int :=
  if f.den ≤ f.num then ((Nat.repr (f.num / f.den)).length : Int) - 1
  else leadingExponentBelow f 400 (-1)

/-- Of the two decimals around the number with the last digit at `10 ^ e`, the nearer of those
    that round to it; of two equally near ones the even one. -/
def onGrid? (x : Binary) (e : Int) : Option Decimal :=
  let v := x.value
  let quotient := v.num * Nat.pow 10 (-e).toNat
  let divisor := v.den * Nat.pow 10 e.toNat
  let below := quotient / divisor
  let remainder := quotient % divisor
  let belowFits := x.contains (.scaled below 10 e)
  let aboveFits := x.contains (.scaled (below + 1) 10 e)
  let preferBelow := 2 * remainder < divisor || (2 * remainder == divisor && below % 2 == 0)
  if belowFits && (preferBelow || !aboveFits) then some ⟨below, e⟩
  else if aboveFits then some ⟨below + 1, e⟩
  else none

/-- The decimal on the first grid that has one, from `digits` digits on. -/
def shortestFrom (x : Binary) (lead : Int) : Nat → Nat → Decimal
  | 0, _ => ⟨x.mantissa, 0⟩
  | fuel + 1, digits =>
    match x.onGrid? (lead - digits + 1) with
    | some d => d
    | none => shortestFrom x lead fuel (digits + 1)

/-- The shortest decimal of a positive number. -/
def shortest (x : Binary) : Decimal :=
  shortestFrom x (leadingExponent x.value) 17 1

/-- Whether a finite double is negative, and the binary form of its absolute value. -/
def ofFloat (x : Float) : Bool × Binary :=
  let bits := x.toBits.toNat
  let fraction := bits % Nat.pow 2 52
  let biased : Nat := bits / Nat.pow 2 52 % Nat.pow 2 11
  let negative := bits / Nat.pow 2 63 == 1
  if biased = 0 then (negative, ⟨fraction, -1074, false⟩)
  else (negative, ⟨fraction + Nat.pow 2 52, (biased : Int) - 1075, fraction == 0 && biased != 1⟩)

end Binary

/-! ## Writing -/

/-- How a decimal is written: positionally while the exponent of its first digit lies between the
    bounds, and with a signed exponent of at least two digits otherwise. -/
structure Style where
  least : Int
  most : Int

/-- The digits without the zeros at their end. -/
def trimZeros (ds : List Char) : List Char :=
  (ds.reverse.dropWhile (· == '0')).reverse

/-- An exponent with its sign. -/
def exponentChars (e : Int) : List Char :=
  let ds := (Nat.repr e.natAbs).toList
  (if e < 0 then '-' else '+') :: if ds.length < 2 then '0' :: ds else ds

/-- The text of a positive decimal. -/
def Style.chars (style : Style) (d : Decimal) : List Char :=
  let all := (Nat.repr d.digits).toList
  let lead := (all.length : Int) - 1 + d.exponent
  let ds := trimZeros all
  if lead < style.least || style.most < lead then
    match ds with
    | [] => []
    | [first] => first :: 'e' :: exponentChars lead
    | first :: rest => first :: '.' :: rest ++ 'e' :: exponentChars lead
  else if lead < 0 then
    '0' :: '.' :: List.replicate (-lead - 1).toNat '0' ++ ds
  else
    let whole := lead.toNat + 1
    if ds.length ≤ whole then ds ++ List.replicate (whole - ds.length) '0' ++ ['.', '0']
    else ds.take whole ++ '.' :: ds.drop whole

/-- The text of a finite double, the shortest that reads back. -/
def Style.floatChars (style : Style) (x : Float) : List Char :=
  match Binary.ofFloat x with
  | (negative, b) =>
    (if negative then ['-'] else [])
      ++ if b.mantissa = 0 then ['0', '.', '0'] else style.chars b.shortest

end Decimal

end MacroByExample
