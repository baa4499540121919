/-!
# Decimal digits of binary numbers

A finite double is exactly `± mantissa · 2 ^ exponent`, so its decimal digits are a matter of whole
numbers. Two questions are answered here: the digits at a fixed number of places, where a half goes
to the even neighbour, and the fewest digits that still read back as the same double.
-/

namespace Phrasebook

/-- A finite double: `mantissa · 2 ^ exponent`, negated when `negative`. -/
structure Binary where
  negative : Bool
  mantissa : Nat
  exponent : Int

namespace Binary

/-- The bit of the mantissa that is not stored, `2 ^ 52`. Only doubles close to zero lack it. -/
def hiddenBit : Nat := 0x10000000000000

/-- The double taken apart, or `none` for the infinities and for what is not a number. -/
def ofFloat? (x : Float) : Option Binary :=
  let bits := x.toBits.toNat
  let negative := bits / hiddenBit / 2048 == 1
  let biased : Nat := bits / hiddenBit % 2048
  let fraction := bits % hiddenBit
  if biased = 2047 then none
  else if biased = 0 then some ⟨negative, fraction, -1074⟩
  else some ⟨negative, fraction + hiddenBit, (biased : Int) - 1075⟩

/-- Numerator and denominator of `mantissa · 2 ^ exponent`. -/
def ratio (mantissa : Nat) (exponent : Int) : Nat × Nat :=
  (mantissa * Nat.pow 2 exponent.toNat, Nat.pow 2 (-exponent).toNat)

end Binary

namespace Decimal

/-- The whole number nearest to `num / den`; a half goes to the even neighbour. -/
def roundHalfEven (num den : Nat) : Nat :=
  let low := num / den
  let twice := 2 * (num % den)
  if twice < den ∨ (twice = den ∧ low % 2 = 0) then low else low + 1

/-- Decimal digits of `n`, with zeros in front up to `width`. -/
def paddedDigits (width n : Nat) : List Char :=
  let digits := Nat.toDigits 10 n
  List.replicate (width - digits.length) '0' ++ digits

/-- `x` with exactly `places` digits after the point. -/
def fixed (places : Nat) (x : Float) : String :=
  match Binary.ofFloat? x with
  | none => if x.isNaN then "NaN" else if x < 0 then "-inf" else "inf"
  | some b =>
    let (num, den) := Binary.ratio b.mantissa b.exponent
    let digits := paddedDigits (places + 1) (roundHalfEven (num * Nat.pow 10 places) den)
    let whole := digits.take (digits.length - places)
    let rest := digits.drop (digits.length - places)
    String.ofList ((if b.negative then ['-'] else []) ++ whole ++
      (if places = 0 then [] else '.' :: rest))

/-! ## The fewest digits that read back -/

/-- The doubles that round to a positive one fill an interval; this is it, over the denominator
`den`, together with the value itself. The ends belong to it exactly when the mantissa is even. -/
structure Interval where
  low : Nat
  value : Nat
  high : Nat
  den : Nat
  closed : Bool

/-- The interval of a positive double. Below a power of two the neighbours lie twice as close. -/
def Interval.ofBinary (mantissa : Nat) (exponent : Int) : Interval :=
  let below := if mantissa = Binary.hiddenBit ∧ exponent > -1074 then 1 else 2
  let (unit, den) := Binary.ratio 1 (exponent - 2)
  ⟨(4 * mantissa - below) * unit, 4 * mantissa * unit, (4 * mantissa + 2) * unit, den,
    mantissa % 2 = 0⟩

/-- Whether `num / den'` lies in the interval, for a number given over the interval's own
denominator times `scale`. -/
def Interval.holds (i : Interval) (num scale : Nat) : Bool :=
  if i.closed then i.low * scale ≤ num && num ≤ i.high * scale
  else i.low * scale < num && num < i.high * scale

/-- The exponent of the leading digit: the `e` with `10 ^ e ≤ num / den < 10 ^ (e + 1)`. -/
def leadingExponent (num den : Nat) : Int :=
  if den ≤ num then ((Nat.toDigits 10 (num / den)).length : Int) - 1
  else descend 400 1
where
  /-- Looks for the first power of ten that lifts the quotient to at least one. -/
  descend : Nat → Nat → Int
    | 0, k => -(k : Int)
    | fuel + 1, k => if den ≤ num * Nat.pow 10 k then -(k : Int) else descend fuel (k + 1)

/-- The multiple of `10 ^ k` in the interval that is nearest to the value, as a multiplier. -/
def onGrid (i : Interval) (k : Int) : Option Nat :=
  let scale := Nat.pow 10 (-k).toNat
  let step := Nat.pow 10 k.toNat
  let low := i.value * scale / (i.den * step)
  let at' := fun (c : Nat) ↦ c * step * i.den
  let lowIn := i.holds (at' low) scale
  let highIn := i.holds (at' (low + 1)) scale
  let down := i.value * scale - at' low
  let up := at' (low + 1) - i.value * scale
  if lowIn && highIn then
    if down < up ∨ (down = up ∧ low % 2 = 0) then some low else some (low + 1)
  else if lowIn then some low
  else if highIn then some (low + 1)
  else none

/-- The coarsest grid with a point in the interval, from `count` digits on. -/
def coarsest (i : Interval) (lead : Int) : Nat → Nat → Nat × Int
  | 0, _ => (0, 0)
  | fuel + 1, count =>
    let k := lead - count + 1
    match onGrid i k with
    | some c => (c, k)
    | none => coarsest i lead fuel (count + 1)

/-- `c · 10 ^ k` without trailing zeros in `c`. -/
def dropZeros : Nat → Nat × Int → Nat × Int
  | 0, r => r
  | fuel + 1, (c, k) => if c ≠ 0 ∧ c % 10 = 0 then dropZeros fuel (c / 10, k + 1) else (c, k)

/-- The fewest digits that read back as the positive double `mantissa · 2 ^ exponent`, and the
exponent of ten that goes with them. -/
def shortest (mantissa : Nat) (exponent : Int) : List Char × Int :=
  let i := Interval.ofBinary mantissa exponent
  let (c, k) := dropZeros 20 (coarsest i (leadingExponent i.value i.den) 17 1)
  (Nat.toDigits 10 c, k)

/-- How a number with the given digits and exponent of ten is written: positional notation while
the point stays within sixteen digits, and at most five zeros follow it; scientific otherwise. -/
def layout (digits : List Char) (k : Int) : List Char :=
  let point : Int := digits.length + k
  if 0 ≤ k ∧ point ≤ 16 then digits ++ List.replicate k.toNat '0' ++ ['.', '0']
  else if 0 < point ∧ point ≤ 16 then
    digits.take point.toNat ++ '.' :: digits.drop point.toNat
  else if -5 < point ∧ point ≤ 0 then
    ['0', '.'] ++ List.replicate (-point).toNat '0' ++ digits
  else
    let e := point - 1
    let mark := (if e < 0 then ['e', '-'] else ['e', '+']) ++ Nat.toDigits 10 e.natAbs
    match digits with
    | [] => mark
    | [d] => d :: mark
    | d :: rest => d :: '.' :: rest ++ mark

/-- The shortest text of a finite double that reads back as the same double. -/
def shortestText (b : Binary) : List Char :=
  (if b.negative then ['-'] else []) ++
    if b.mantissa = 0 then ['0', '.', '0']
    else
      let (digits, k) := shortest b.mantissa b.exponent
      layout digits k

end Decimal

end Phrasebook
