set_option autoImplicit false

/-! # Double-precision numbers

A number of a JSON text that is no integer of 64 bits is kept as a double. Its text is the
shortest decimal that reads back as the same double. -/

namespace ControllerCompanion.Json

/-- A finite double, by the bits of its IEEE 754 form. -/
structure Double where
  bits : UInt64
  deriving Repr, DecidableEq

namespace Double

/-! ## From a decimal -/

/-- The double nearest to `10 ^ n`. -/
def powerOfTen (n : Nat) : Float := Float.ofScientific 1 false n

/-- `significand * 10 ^ exponent` in double arithmetic: the significand is rounded first, then
    multiplied or divided by a power of ten, twice where one power is out of range. There is no
    result when the product is too large. -/
def scaled (significand : Nat) (exponent : Int) : Option Float :=
  let f := significand.toUInt64.toFloat
  if 0 ≤ exponent then
    if exponent ≤ 308 then
      let product := f * powerOfTen exponent.toNat
      if product.isInf then none else some product
    else if significand = 0 then some f
    else none
  else if -308 ≤ exponent then some (f / powerOfTen (-exponent).toNat)
  else if -616 ≤ exponent then some (f / powerOfTen 308 / powerOfTen (-exponent - 308).toNat)
  else some 0

/-- The double of a decimal with a significand of at most 64 bits. -/
def ofDecimal (negative : Bool) (significand : Nat) (exponent : Int) : Option Double :=
  (scaled significand exponent).map fun f => ⟨(if negative then -f else f).toBits⟩

/-! ## Parts of a double -/

/-- Whether the sign bit is set. -/
def isNegative (d : Double) : Bool := d.bits.toNat / Nat.pow 2 63 == 1

/-- The biased exponent. -/
def biased (d : Double) : Nat := d.bits.toNat / Nat.pow 2 52 % Nat.pow 2 11

/-- The stored part of the significand. -/
def fraction (d : Double) : Nat := d.bits.toNat % Nat.pow 2 52

/-- The significand `m` of the absolute value `m * 2 ^ q`. -/
def significand (d : Double) : Nat :=
  if d.biased = 0 then d.fraction else Nat.pow 2 52 + d.fraction

/-- The exponent `q` of the absolute value `m * 2 ^ q`. -/
def exponent (d : Double) : Int :=
  if d.biased = 0 then -1074 else (d.biased : Int) - 1075

/-! ## The shortest decimal -/

/-- A positive rational. -/
structure Ratio where
  num : Nat
  den : Nat

/-- `n * 2 ^ q`. -/
def Ratio.ofBinary (n : Nat) (q : Int) : Ratio :=
  if 0 ≤ q then ⟨n * Nat.pow 2 q.toNat, 1⟩ else ⟨n, Nat.pow 2 (-q).toNat⟩

/-- `n * 10 ^ k`. -/
def Ratio.ofDecimal (n : Nat) (k : Int) : Ratio :=
  if 0 ≤ k then ⟨n * Nat.pow 10 k.toNat, 1⟩ else ⟨n, Nat.pow 10 (-k).toNat⟩

/-- Whether `a ≤ b`. -/
def Ratio.le (a b : Ratio) : Bool := a.num * b.den ≤ b.num * a.den

/-- Whether `a < b`. -/
def Ratio.lt (a b : Ratio) : Bool := a.num * b.den < b.num * a.den

/-- The whole part of `a / 10 ^ k`. -/
def Ratio.floorAt (a : Ratio) (k : Int) : Nat :=
  if 0 ≤ k then a.num / (a.den * Nat.pow 10 k.toNat) else a.num * Nat.pow 10 (-k).toNat / a.den

/-- The number of digits before the point of a positive rational; for one below `1`, less the
    number of zeros behind the point. -/
def Ratio.magnitude (a : Ratio) : Int :=
  ((Nat.toDigits 10 (a.floorAt (-400))).length : Int) - 400

/-- The decimals `n * 10 ^ k` that read as a given double: its neighbourhood, with the two ends
    if the double is even. -/
structure Neighbourhood where
  low : Ratio
  high : Ratio
  closed : Bool

/-- Whether a decimal lies in a neighbourhood. -/
def Neighbourhood.contains (h : Neighbourhood) (a : Ratio) : Bool :=
  if h.closed then h.low.le a && a.le h.high else h.low.lt a && a.lt h.high

/-- The neighbourhood of a positive double reaches half way to the doubles next to it; below a
    power of two the next one is half as far. -/
def neighbourhood (d : Double) : Neighbourhood :=
  let m := d.significand
  let q := d.exponent - 2
  let below := if d.fraction = 0 ∧ 1 < d.biased then 1 else 2
  ⟨.ofBinary (4 * m - below) q, .ofBinary (4 * m + 2) q, m % 2 == 0⟩

/-- Whether `2 * a` is nearer to `m` and `m + 1` together from below: `a - m ≤ m + 1 - a`, both
    in units of `10 ^ k`; a tie goes to the even one. -/
def preferLower (a : Ratio) (m : Nat) (k : Int) : Bool :=
  let middle := Ratio.ofDecimal (10 * m + 5) (k - 1)
  a.lt middle || (a.le middle && m % 2 == 0)

/-- The decimal of at most `n` digits that reads as the double, if there is one: the nearer of the
    two decimals next to it. -/
def withDigits? (d : Double) (n : Nat) : Option (Nat × Int) :=
  let value := Ratio.ofBinary d.significand d.exponent
  let k := value.magnitude - n
  let m := value.floorAt k
  let lower := d.neighbourhood.contains (.ofDecimal m k)
  let upper := d.neighbourhood.contains (.ofDecimal (m + 1) k)
  if lower && (!upper || preferLower value m k) then some (m, k)
  else if upper then some (m + 1, k)
  else none

/-- The shortest decimal `n * 10 ^ k` that reads as a positive double: seventeen digits always
    do. -/
def shortest (d : Double) : Nat × Int :=
  ((List.range 17).findSome? fun n => d.withDigits? (n + 1)).getD (0, 0)

/-- The digits without the zeros at their end, which pass into the exponent. -/
def normalize : Nat × Int → List Char × Int
  | (n, k) =>
    let digits := Nat.toDigits 10 n
    let kept := (digits.reverse.dropWhile (· == '0')).reverse
    (kept, k + (digits.length - kept.length : Nat))

/-! ## The text -/

/-- An exponent with its sign. -/
def exponentText (n : Int) : List Char :=
  if 0 ≤ n then '+' :: Nat.toDigits 10 n.toNat else '-' :: Nat.toDigits 10 (-n).toNat

/-- The text of a decimal by its digits and exponent. From `10 ^ -5` up to below `10 ^ 16` it is
    written with a point and at least one digit on each side, else with an exponent. -/
def layout (digits : List Char) (exponent : Int) : List Char :=
  let point := (digits.length : Int) + exponent
  if 0 ≤ exponent ∧ point ≤ 16 then
    digits ++ List.replicate exponent.toNat '0' ++ ['.', '0']
  else if 0 < point ∧ point ≤ 16 then
    digits.take point.toNat ++ '.' :: digits.drop point.toNat
  else if -5 < point ∧ point ≤ 0 then
    ['0', '.'] ++ List.replicate (-point).toNat '0' ++ digits
  else
    digits.take 1 ++ (if digits.length = 1 then [] else '.' :: digits.drop 1)
      ++ 'e' :: exponentText (point - 1)

/-- The text of a double. -/
def text (d : Double) : String :=
  let sign := if d.isNegative then ['-'] else []
  let body :=
    if d.significand = 0 then ['0', '.', '0']
    else
      let (digits, exponent) := normalize d.shortest
      layout digits exponent
  String.ofList (sign ++ body)

end Double

end ControllerCompanion.Json
