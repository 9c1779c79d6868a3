import DataShelf.Number.Double

/-!
# Shortest decimal text of a double

The digits are the fewest that read back: for one digit, two digits, and so on, the value's two
neighbours on that decimal grid are tried against the interval of reals that round to the value.
The text is positional from `10^-5` up to below `10^16` and has an exponent elsewhere.
-/

namespace DataShelf.Number
set_option autoImplicit false

/-- A decimal `digits · 10^exponent`. -/
structure Decimal where
  digits : Nat
  exponent : Int
  deriving DecidableEq, Repr

/-- How many digits the decimal numeral of a natural has. -/
def digitCount (n : Nat) : Nat := (Nat.repr n).length

/-- The greatest `k` with `10^k ≤ num / den`, for a positive ratio. -/
def decimalOrder (num den : Nat) : Int :=
  if den ≤ num then (digitCount (num / den) : Int) - 1
  else -(digitCount ((den - 1) / num) : Int)

namespace Double

/-- The reals that round to a finite positive double, as three numerators over one denominator:
the lower end, the value and the upper end. Below a power of two the spacing is half as wide. -/
structure Interval where
  lower : Nat
  value : Nat
  upper : Nat
  denominator : Nat
  closed : Bool

/-- The interval of a finite positive double; its ends belong to it iff the mantissa is even. -/
def interval (x : Double) : Interval :=
  let m := x.mantissa
  let narrow := x.fraction == 0 && 1 < x.exponentField
  let scale := ratio 1 (x.exponent - 2)
  { lower := (4 * m - if narrow then 1 else 2) * scale.1
    value := 4 * m * scale.1
    upper := (4 * m + 2) * scale.1
    denominator := scale.2
    closed := m % 2 == 0 }

/-- Whether `digits · 10^k` lies in the interval. -/
def Interval.holds (i : Interval) (digits : Nat) (k : Int) : Bool :=
  let p := if 0 ≤ k then (digits * Nat.pow 10 k.toNat * i.denominator, 1)
           else (digits * i.denominator, Nat.pow 10 (-k).toNat)
  if i.closed then i.lower * p.2 ≤ p.1 && p.1 ≤ i.upper * p.2
  else i.lower * p.2 < p.1 && p.1 < i.upper * p.2

/-- The neighbour on the grid of step `10^k` that reads back and is nearest, if one reads back. -/
def Interval.onGrid? (i : Interval) (k : Int) : Option Decimal :=
  let p := if 0 ≤ k then (i.value, i.denominator * Nat.pow 10 k.toNat)
           else (i.value * Nat.pow 10 (-k).toNat, i.denominator)
  let below := p.1 / p.2
  let twice := 2 * (p.1 % p.2)
  let down := i.holds below k
  let up := i.holds (below + 1) k
  if down && up then
    if twice < p.2 || (twice == p.2 && below % 2 == 0) then some ⟨below, k⟩
    else some ⟨below + 1, k⟩
  else if down then some ⟨below, k⟩
  else if up then some ⟨below + 1, k⟩
  else none

/-- The first grid, from the coarsest on, that holds a decimal which reads back. -/
def Interval.search (i : Interval) (order : Int) : (tries : Nat) → (count : Nat) → Decimal
  | 0, count =>
    ⟨i.value * Nat.pow 10 (count : Int).toNat / i.denominator, -(count : Int)⟩
  | tries + 1, count =>
    match i.onGrid? (order + 1 - (count : Int)) with
    | some d => d
    | none => i.search order tries (count + 1)

/-- The shortest decimal that reads back as a finite positive double; seventeen digits suffice. -/
def shortest (x : Double) : Decimal :=
  let i := x.interval
  i.search (decimalOrder i.value i.denominator) 17 1

/-- The digits of a decimal without zeros at the end, and the order of the first one. -/
def Decimal.normal (d : Decimal) : List Char × Int :=
  let all := (Nat.repr d.digits).toList
  let kept := (all.reverse.dropWhile (· == '0')).reverse
  (kept, d.exponent + (all.length : Int) - 1)

/-- Positional notation with a point and at least one digit on both sides of it. -/
def positional (digits : List Char) (order : Int) : List Char :=
  if order < 0 then '0' :: '.' :: List.replicate ((-order).toNat - 1) '0' ++ digits
  else
    let places := order.toNat + 1
    let whole := digits.take places
    let whole := whole ++ List.replicate (places - whole.length) '0'
    let rest := digits.drop places
    whole ++ '.' :: (if rest.isEmpty then ['0'] else rest)

/-- One digit, the other digits after a point, and the exponent with its sign. -/
def scientific (digits : List Char) (order : Int) : List Char :=
  let sign := if order < 0 then '-' else '+'
  let exponent := (Nat.repr order.natAbs).toList
  match digits with
  | [] => []
  | [d] => d :: 'e' :: sign :: exponent
  | d :: more => d :: '.' :: more ++ 'e' :: sign :: exponent

/-- The text of a finite double. -/
def render (x : Double) : String :=
  let text :=
    if x.isZero then ['0', '.', '0']
    else
      let (digits, order) := Decimal.normal x.shortest
      if -5 ≤ order && order < 16 then positional digits order else scientific digits order
  String.ofList (if x.negative then '-' :: text else text)

/-- The words for the doubles that no decimal denotes. -/
def nonFiniteWord (x : Double) : String :=
  if x.isNaN then "NaN" else if x.negative then "-inf" else "inf"

end Double
end DataShelf.Number
