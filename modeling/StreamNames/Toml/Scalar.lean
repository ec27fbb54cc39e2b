import StreamNames.Toml.Value

/-!
# TOML words

Numbers, truth values, dates and times are written without quotes, as one word.

- `Toml.integer?`, `Toml.float?`, `Toml.isMoment`: the kinds of words.
- `Toml.ofWord?`: the value of a word.
-/

namespace StreamNames.Toml

/-! ## Integers -/

/-- The value of a digit below a base of at most 16, of either case. -/
def digit? (base : Nat) (c : Char) : Option Nat :=
  let value? :=
    if '0' ≤ c ∧ c ≤ '9' then some (c.toNat - '0'.toNat)
    else if 'a' ≤ c ∧ c ≤ 'f' then some (c.toNat - 'a'.toNat + 10)
    else if 'A' ≤ c ∧ c ≤ 'F' then some (c.toNat - 'A'.toNat + 10)
    else none
  value?.bind fun value => if value < base then some value else none

/-- Digits, at least one. A single underscore may stand between two of them. -/
def digits? (base : Nat) : List Char → Option (List Nat)
  | [] => none
  | [c] => (digit? base c).map ([·])
  | c :: '_' :: rest => do return (← digit? base c) :: (← digits? base rest)
  | c :: rest => do return (← digit? base c) :: (← digits? base rest)

/-- The number that digits spell. -/
def ofDigits (base : Nat) (digits : List Nat) : Nat :=
  digits.foldl (fun n d => base * n + d) 0

/-- Decimal digits without a zero at their front, unless it is all there is. -/
def wholeDigits? (word : List Char) : Option (List Nat) := do
  let digits ← digits? 10 word
  if digits.head? = some 0 ∧ 1 < digits.length then none else return digits

/-- Whether a word has a minus sign, and the word without its sign. -/
def splitSign : List Char → Bool × List Char
  | '-' :: rest => (true, rest)
  | '+' :: rest => (false, rest)
  | word => (false, word)

/-- An integer. Only decimal ones have a sign. -/
def integer? (word : List Char) : Option Int :=
  match word with
  | '0' :: 'x' :: rest => (digits? 16 rest).map fun digits => ofDigits 16 digits
  | '0' :: 'o' :: rest => (digits? 8 rest).map fun digits => ofDigits 8 digits
  | '0' :: 'b' :: rest => (digits? 2 rest).map fun digits => ofDigits 2 digits
  | _ =>
    let (isNegative, rest) := splitSign word
    (wholeDigits? rest).map fun digits =>
      let n : Int := ofDigits 10 digits
      if isNegative then -n else n

/-! ## Floating-point numbers -/

/-- The least real that is rounded to infinity: half a unit above the largest finite number
of 64 bits. -/
def overflowBound : Nat := Nat.pow 2 1024 - Nat.pow 2 970

/-- Whether `n * 10 ^ power` is rounded to a finite number. -/
def isInRange (n : Nat) (power : Int) : Bool :=
  let magnitude : Int := (toString n).length + power
  if n = 0 || magnitude < 300 then true
  else if 310 < magnitude then false
  else n * Nat.pow 10 power.toNat < overflowBound * Nat.pow 10 (-power).toNat

/-- The number after the letter of an exponent. -/
def exponent? (word : List Char) : Option Int :=
  let (isNegative, rest) := splitSign word
  (digits? 10 rest).map fun digits =>
    let n : Int := ofDigits 10 digits
    if isNegative then -n else n

/-- Whether a character is the letter of an exponent. -/
def isExponentLetter (c : Char) : Bool := c = 'e' || c = 'E'

/-- A floating-point number: whether it is in range. It has a fraction, an exponent or
both, or is infinite or not a number by its name. -/
def float? (word : List Char) : Option Bool :=
  let (_, rest) := splitSign word
  if rest = ['i', 'n', 'f'] ∨ rest = ['n', 'a', 'n'] then some true
  else do
    let mantissa := rest.takeWhile (!isExponentLetter ·)
    let power ← match rest.dropWhile (!isExponentLetter ·) with
      | [] => pure 0
      | _ :: exponent => exponent? exponent
    let whole ← wholeDigits? (mantissa.takeWhile (· ≠ '.'))
    let fraction ← match mantissa.dropWhile (· ≠ '.') with
      | [] => if rest.any isExponentLetter then pure [] else none
      | _ :: fraction => digits? 10 fraction
    return isInRange (ofDigits 10 (whole ++ fraction)) (power - fraction.length)

/-! ## Dates and times -/

/-- The number that exactly two decimal digits at the front of a word spell, if it lies
between bounds, and the rest of the word. -/
def twoDigits? (low high : Nat) : List Char → Option (Nat × List Char)
  | a :: b :: rest => do
    let n := 10 * (← digit? 10 a) + (← digit? 10 b)
    if low ≤ n ∧ n ≤ high then return (n, rest) else none
  | _ => none

/-- The rest of a word after a character. -/
def after? (c : Char) : List Char → Option (List Char)
  | d :: rest => if c = d then some rest else none
  | [] => none

/-- The number of days in a month. -/
def daysIn (year month : Nat) : Nat :=
  if month = 2 then
    if year % 4 = 0 ∧ (year % 100 ≠ 0 ∨ year % 400 = 0) then 29 else 28
  else if month = 4 ∨ month = 6 ∨ month = 9 ∨ month = 11 then 30
  else 31

/-- The rest of a word after a date. -/
def afterDate? (word : List Char) : Option (List Char) := do
  let (century, rest) ← twoDigits? 0 99 word
  let (year, rest) ← twoDigits? 0 99 rest
  let (month, rest) ← twoDigits? 1 12 (← after? '-' rest)
  let (_, rest) ← twoDigits? 1 (daysIn (100 * century + year) month) (← after? '-' rest)
  return rest

/-- The rest of a word after parts of a second, if there are any. -/
def afterFraction? : List Char → Option (List Char)
  | '.' :: rest =>
    if rest.head?.any Char.isDigit then some (rest.dropWhile Char.isDigit) else none
  | word => some word

/-- The rest of a word after a time, in which seconds may be missing. -/
def afterTime? (word : List Char) : Option (List Char) := do
  let (_, rest) ← twoDigits? 0 23 word
  let (_, rest) ← twoDigits? 0 59 (← after? ':' rest)
  match rest with
  | ':' :: rest =>
    let (_, rest) ← twoDigits? 0 60 rest
    afterFraction? rest
  | _ => return rest

/-- Whether a word is a distance from universal time, or nothing. -/
def isOffset : List Char → Bool
  | [] | ['Z'] | ['z'] => true
  | sign :: rest =>
    let afterOffset? := do
      let (_, rest) ← twoDigits? 0 23 rest
      let (_, rest) ← twoDigits? 0 59 (← after? ':' rest)
      return rest
    (sign = '+' || sign = '-') && afterOffset? = some []

/-- Whether a word is a date, a time, or both. -/
def isMoment (word : List Char) : Bool :=
  match afterDate? word with
  | some [] => true
  | some (separator :: rest) =>
    [' ', 'T', 't'].contains separator && (afterTime? rest).any isOffset
  | none => afterTime? word = some []

/-! ## Words -/

/-- The value of a word. -/
def ofWord? (word : List Char) : Option Toml :=
  if word = ['t', 'r', 'u', 'e'] then some (boolean true)
  else if word = ['f', 'a', 'l', 's', 'e'] then some (boolean false)
  else if isMoment word then some moment
  else
    match integer? word with
    | some n => some (integer n)
    | none => (float? word).map float

end StreamNames.Toml
