/-!
# Binary floating point of 64 bits

A double is its bit pattern. A finite one denotes `±m · 2^e` with a natural mantissa; the operations
here compute exactly on numerator and denominator and round once, to nearest with ties to even
(`ofRatio`), so that nothing depends on machine arithmetic.
-/

namespace DataShelf.Number
set_option autoImplicit false

/-- A 64-bit floating point number, given by its bits. -/
structure Double where
  bits : UInt64
  deriving DecidableEq, Inhabited, Repr

namespace Double

/-- The sign bit. -/
def negative (x : Double) : Bool := x.bits.toNat / Nat.pow 2 63 % 2 == 1

/-- The eleven exponent bits. -/
def exponentField (x : Double) : Nat := x.bits.toNat / Nat.pow 2 52 % Nat.pow 2 11

/-- The fifty-two fraction bits. -/
def fraction (x : Double) : Nat := x.bits.toNat % Nat.pow 2 52

def isNaN (x : Double) : Bool := x.exponentField == 2047 && x.fraction != 0

def isInfinite (x : Double) : Bool := x.exponentField == 2047 && x.fraction == 0

def isFinite (x : Double) : Bool := x.exponentField != 2047

/-- The natural `m` of the magnitude `m · 2^e`. -/
def mantissa (x : Double) : Nat :=
  if x.exponentField = 0 then x.fraction else x.fraction + Nat.pow 2 52

/-- The exponent `e` of the magnitude `m · 2^e`. -/
def exponent (x : Double) : Int :=
  if x.exponentField = 0 then -1074 else (x.exponentField : Int) - 1075

def isZero (x : Double) : Bool := x.exponentField == 0 && x.fraction == 0

/-- A magnitude's bits with a sign in front. -/
def withSign (negative : Bool) (magnitude : Nat) : Double :=
  ⟨UInt64.ofNat (magnitude + if negative then Nat.pow 2 63 else 0)⟩

/-- The bits of positive infinity. -/
def infinityBits : Nat := 2047 * Nat.pow 2 52

def infinity (negative : Bool) : Double := withSign negative infinityBits

def zero (negative : Bool) : Double := withSign negative 0

/-- The quotient of two naturals rounded to the nearest natural, a tie to the even one. -/
def roundDiv (num den : Nat) : Nat :=
  let q := num / den
  let twice := 2 * (num % den)
  if twice < den then q else if den < twice then q + 1 else if q % 2 = 0 then q else q + 1

/-- `num · 2^(-e) / den` as a numerator and a denominator. -/
def scaled (num den : Nat) (e : Int) : Nat × Nat :=
  if e ≤ 0 then (num * Nat.pow 2 (-e).toNat, den) else (num, den * Nat.pow 2 e.toNat)

/-- The exponent at which `num / den` has a mantissa of fifty-three bits, or the least exponent. -/
def exponentFor (num den : Nat) : Int :=
  let guess : Int := (Nat.log2 num : Int) - (Nat.log2 den : Int) - 52
  let s := scaled num den guess
  let e := if s.1 < s.2 * Nat.pow 2 52 then guess - 1 else guess
  max e (-1074)

/-- The double nearest to `num / den`, ties to even; infinite beyond the largest double. -/
def ofRatio (negative : Bool) (num den : Nat) : Double :=
  if num = 0 then zero negative
  else
    let e := exponentFor num den
    let s := scaled num den e
    let magnitude := (e + 1074).toNat * Nat.pow 2 52 + roundDiv s.1 s.2
    if infinityBits ≤ magnitude then infinity negative else withSign negative magnitude

/-- The double nearest to a natural number. -/
def ofNat (n : Nat) : Double := ofRatio false n 1

/-- The double nearest to an integer. -/
def ofInt (n : Int) : Double := ofRatio (n < 0) n.natAbs 1

/-- `m · 2^e` as a numerator and a denominator. -/
def ratio (m : Nat) (e : Int) : Nat × Nat :=
  if 0 ≤ e then (m * Nat.pow 2 e.toNat, 1) else (m, Nat.pow 2 (-e).toNat)

/-- The magnitude of a finite double as a numerator and a denominator. -/
def magnitude (x : Double) : Nat × Nat := ratio x.mantissa x.exponent

/-- The sum of two finite doubles that are not negative, rounded once. -/
def add (x y : Double) : Double :=
  let a := x.magnitude
  let b := y.magnitude
  ofRatio false (a.1 * b.2 + b.1 * a.2) (a.2 * b.2)

/-- The product of two finite doubles that are not negative, rounded once. -/
def mul (x y : Double) : Double :=
  let p := ratio (x.mantissa * y.mantissa) (x.exponent + y.exponent)
  ofRatio false p.1 p.2

/-- The quotient of two finite doubles that are not negative, rounded once. -/
def div (x y : Double) : Double :=
  let a := x.magnitude
  let b := y.magnitude
  ofRatio false (a.1 * b.2) (a.2 * b.1)

/-- Whether one of two finite doubles that are not negative is at most the other one. -/
def le (x y : Double) : Bool :=
  let a := x.magnitude
  let b := y.magnitude
  a.1 * b.2 ≤ b.1 * a.2

def neg (x : Double) : Double := ⟨x.bits ^^^ 0x8000000000000000⟩

/-- Widens a 32-bit floating point number, given by its bits. Every such number is a double. -/
def ofSingleBits (bits : UInt32) : Double :=
  let n := bits.toNat
  let negative := n / Nat.pow 2 31 % 2 == 1
  let field : Nat := n / Nat.pow 2 23 % Nat.pow 2 8
  let fraction : Nat := n % Nat.pow 2 23
  if field = 255 then withSign negative (infinityBits + fraction * Nat.pow 2 29)
  else
    let m : Nat := if field = 0 then fraction else fraction + Nat.pow 2 23
    let e : Int := if field = 0 then -149 else (field : Int) - 150
    let p := ratio m e
    ofRatio negative p.1 p.2

end Double
end DataShelf.Number
