/-!
# Floating-point numbers as decimals

The decimal that is shown for a number of 64 bits is the shortest that reads back as that
number, and of several the one nearest to it.

A number is `mantissa * 2 ^ exponent`, and the reals that round to it form an interval with
the halfway points to its neighbours as ends. For one digit, two digits and so on the two
decimals on either side of the number are tried; the first that lies in the interval is the
shortest. Seventeen digits always do.

- `shortest`: digits and power of ten for a positive number.
- `floatText`: a number as text.
-/

namespace StreamNames.Text

/-- A number `digits * 10 ^ power`. -/
structure Decimal where
  digits : Nat
  power : Int
  deriving DecidableEq, Repr

/-- A positive number with the interval of reals that round to it, all as multiples of
`2 ^ exponent`: `value` lies between `lower` and `upper`, which belong to the interval if
`closed`. -/
structure Rounding where
  lower : Nat
  value : Nat
  upper : Nat
  exponent : Int
  closed : Bool

/-- The interval around the finite positive number with the given bits. The interval is
narrower below a power of two, where the numbers lie closer together. -/
def Rounding.ofBits (bits : Nat) : Rounding :=
  let fraction := bits % Nat.pow 2 52
  let biased := bits / Nat.pow 2 52 % Nat.pow 2 11
  let mantissa := if biased = 0 then fraction else fraction + Nat.pow 2 52
  let exponent : Int := (max biased 1 : Nat) - 1075
  let narrow := fraction = 0 ∧ 1 < biased
  { lower := if narrow then 4 * mantissa - 1 else 4 * mantissa - 2
    value := 4 * mantissa
    upper := 4 * mantissa + 2
    exponent := exponent - 2
    closed := mantissa % 2 = 0 }

/-- The two sides of the comparison of `a * 2 ^ e` with `b * 10 ^ p`, as natural numbers. -/
def commonScale (a : Nat) (e : Int) (b : Nat) (p : Int) : Nat × Nat :=
  (a * Nat.pow 2 e.toNat * Nat.pow 10 (-p).toNat, b * Nat.pow 10 p.toNat * Nat.pow 2 (-e).toNat)

/-- Whether a decimal lies in an interval. -/
def Rounding.admits (r : Rounding) (d : Decimal) : Bool :=
  let (lower, x) := commonScale r.lower r.exponent d.digits d.power
  let (upper, y) := commonScale r.upper r.exponent d.digits d.power
  if r.closed then lower ≤ x && y ≤ upper else lower < x && y < upper

/-- The greatest number of units `10 ^ power` that does not exceed the value. -/
def Rounding.unitsBelow (r : Rounding) (power : Int) : Nat :=
  let (value, unit) := commonScale r.value r.exponent 1 power
  value / unit

/-- Whether the value is nearer to `n + 1` units `10 ^ power` than to `n`, or, at the same
distance, `n` is odd. -/
def Rounding.prefersAbove (r : Rounding) (n : Nat) (power : Int) : Bool :=
  let (value, unit) := commonScale (2 * r.value) r.exponent 1 power
  let middle := (2 * n + 1) * unit
  middle < value || (middle = value && n % 2 = 1)

/-- The decimal with units `10 ^ power` that reads back as the number and is nearest to it,
if there is one. -/
def Rounding.onGrid? (r : Rounding) (power : Int) : Option Decimal :=
  let n := r.unitsBelow power
  let below : Decimal := ⟨n, power⟩
  let above : Decimal := ⟨n + 1, power⟩
  match r.admits below && n ≠ 0, r.admits above with
  | true, true => some (if r.prefersAbove n power then above else below)
  | true, false => some below
  | false, true => some above
  | false, false => none

/-- The first decimal found while the units get smaller. -/
def Rounding.search (r : Rounding) : (bound : Nat) → (power : Int) → Decimal
  | 0, power => ⟨r.unitsBelow power, power⟩
  | bound + 1, power =>
    match r.onGrid? power with
    | some d => d
    | none => search r bound (power - 1)

/-- The decimal without zeros at its end. -/
def Decimal.trim : (bound : Nat) → Decimal → Decimal
  | 0, d => d
  | bound + 1, d =>
    if d.digits ≠ 0 ∧ d.digits % 10 = 0 then trim bound ⟨d.digits / 10, d.power + 1⟩ else d

/-- The shortest decimal that reads back as the positive number with the given bits. Its
units are at most `10 ^ 309` and at least `10 ^ (-324)`. -/
def shortest (bits : Nat) : Decimal :=
  ((Rounding.ofBits bits).search 640 309).trim 20

/-- A positive decimal as text: positional if its first digit stands from `10 ^ (-5)` up to
`10 ^ 15`, with a fraction of at least one digit; otherwise with an exponent and its sign. -/
def Decimal.text (d : Decimal) : String :=
  let digits := (toString d.digits).toList
  let point : Int := digits.length + d.power
  let zeros (n : Int) : List Char := List.replicate n.toNat '0'
  let text :=
    if 0 ≤ d.power ∧ point ≤ 16 then digits ++ zeros d.power ++ ['.', '0']
    else if 0 < point ∧ point ≤ 16 then
      digits.take point.toNat ++ '.' :: digits.drop point.toNat
    else if -5 < point ∧ point ≤ 0 then ['0', '.'] ++ zeros (-point) ++ digits
    else
      let exponent := point - 1
      let sign := if 0 ≤ exponent then '+' else '-'
      let fraction := if digits.length = 1 then [] else '.' :: digits.drop 1
      digits.take 1 ++ fraction ++ 'e' :: sign :: (toString exponent.natAbs).toList
  String.ofList text

/-- A finite number as text. -/
def floatText (f : Float) : String :=
  let bits := f.toBits.toNat
  let magnitude := bits % Nat.pow 2 63
  let sign := if bits / Nat.pow 2 63 = 1 then "-" else ""
  sign ++ (if magnitude = 0 then "0.0" else (shortest magnitude).text)

end StreamNames.Text
