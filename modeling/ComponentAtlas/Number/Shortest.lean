/-!
# Shortest decimal digits of a number

A finite number is `m · 2 ^ q`. The reals that round to it form an interval, which contains its ends
exactly when `m` is even.

* `Binary.ofFloat?`: sign, `m` and `q` of a finite number;
* `Binary.shortest`: the fewest decimal digits that read back as the number, with the exponent of
  ten that belongs to them;
* `positional`: these digits written out without an exponent.
-/

namespace ComponentAtlas.Number

/-- A finite number `± mantissa · 2 ^ exponent`. -/
structure Binary where
  negative : Bool
  mantissa : Nat
  exponent : Int
  /-- Whether the gap to the next smaller number is half the gap to the next larger one. -/
  narrowBelow : Bool
  deriving DecidableEq, Repr

/-- The parts of a finite number, `none` for infinities and NaN. -/
def Binary.ofFloat? (x : Float) : Option Binary :=
  let bits := x.toBits.toNat
  let negative := bits / Nat.pow 2 63 == 1
  let biased := bits / Nat.pow 2 52 % Nat.pow 2 11
  let fraction := bits % Nat.pow 2 52
  if biased == 2047 then none
  else if biased == 0 then some ⟨negative, fraction, -1074, false⟩
  else some ⟨negative, Nat.pow 2 52 + fraction, Int.ofNat biased - 1075, fraction == 0 && biased > 1⟩

/-- Number of decimal digits of a natural number. -/
def digitCount (n : Nat) : Nat := (Nat.toDigits 10 n).length

/-- The least `j` up to the given bound with `den ≤ num · 10 ^ j`. -/
def leadingZeros (num den : Nat) : Nat → Nat → Nat
  | 0, j => j
  | fuel + 1, j => if den ≤ num * Nat.pow 10 j then j else leadingZeros num den fuel (j + 1)

/-- The exponent `e` with `10 ^ (e - 1) ≤ num / den < 10 ^ e`, for a positive quotient. -/
def decimalExponent (num den : Nat) : Int :=
  if den ≤ num then Int.ofNat (digitCount (num / den))
  else 1 - Int.ofNat (leadingZeros num den 400 1)

/-- The digits of the shortest decimal that reads back as a positive number, and the power of ten of
the last of them. The quotients `lo / den`, `mid / den` and `hi / den` are the lower end of the
interval, the number and the upper end. -/
def shortestFrom (lo mid hi den : Nat) (closed : Bool) (top : Int) : Nat → Nat → Nat × Int
  | 0, k => (mid / den, top - Int.ofNat k)
  | fuel + 1, k =>
    let scale := top - Int.ofNat k
    -- comparisons are made after multiplication by `up` and division by `down`
    let up := Nat.pow 10 (-scale).toNat
    let down := Nat.pow 10 scale.toNat
    let unit := den * down
    let n := mid * up / unit
    let inside (c : Nat) : Bool :=
      let v := c * unit
      if closed then lo * up ≤ v && v ≤ hi * up else lo * up < v && v < hi * up
    let below := n != 0 && inside n
    let above := inside (n + 1)
    let downward := 2 * (mid * up) ≤ (2 * n + 1) * unit
    if below && (!above || downward) then (n, scale)
    else if above then (n + 1, scale)
    else shortestFrom lo mid hi den closed top fuel (k + 1)

/-- The fewest decimal digits that read back as the number, with the power of ten of the last
digit. -/
def Binary.shortest (b : Binary) : Nat × Int :=
  if b.mantissa == 0 then (0, 0)
  else
    let q := b.exponent - 2
    let num (n : Nat) : Nat := n * Nat.pow 2 q.toNat
    let den := Nat.pow 2 (-q).toNat
    let mid := num (4 * b.mantissa)
    let lo := num (4 * b.mantissa - (if b.narrowBelow then 1 else 2))
    let hi := num (4 * b.mantissa + 2)
    shortestFrom lo mid hi den (b.mantissa % 2 == 0) (decimalExponent mid den) 17 1

/-- The digits of `n · 10 ^ scale` without an exponent. -/
def positional (n : Nat) (scale : Int) : String :=
  let digits := Nat.toDigits 10 n
  if scale ≥ 0 then String.ofList (digits ++ List.replicate scale.toNat '0')
  else
    let places := (-scale).toNat
    let padded := List.replicate (places + 1 - digits.length) '0' ++ digits
    let whole := padded.take (padded.length - places)
    -- a shortest decimal has no trailing zeros, but its last digit may be cleared by a carry
    let fraction := ((padded.drop (padded.length - places)).reverse.dropWhile (· == '0')).reverse
    String.ofList whole ++ (if fraction.isEmpty then "" else "." ++ String.ofList fraction)

/-- A number in the fewest digits that read back, never with an exponent. -/
def render (x : Float) : String :=
  match Binary.ofFloat? x with
  | none => if x.isNaN then "NaN" else if x < 0 then "-inf" else "inf"
  | some b =>
    let (n, scale) := b.shortest
    (if b.negative then "-" else "") ++ positional n scale

/-- The integer that a number is, if it is one. -/
def toInt? (x : Float) : Option Int :=
  match Binary.ofFloat? x with
  | none => none
  | some b =>
    let magnitude : Option Nat :=
      if b.exponent ≥ 0 then some (b.mantissa * Nat.pow 2 b.exponent.toNat)
      else
        let den := Nat.pow 2 (-b.exponent).toNat
        if b.mantissa % den == 0 then some (b.mantissa / den) else none
    magnitude.map fun n => if b.negative then -Int.ofNat n else Int.ofNat n

/-- A number as it appears in evaluated text: integers below `10 ^ 15` in magnitude without sign of
zero, everything else as `render` writes it. -/
def display (x : Float) : String :=
  match toInt? x with
  | some i => if i.natAbs < Nat.pow 10 15 then toString i else render x
  | none => render x

/-- The number `± m · 2 ^ q` for `m` and `q` of a finite number. -/
def ofParts (negative : Bool) (m : Nat) (q : Int) : Float :=
  let magnitude := Float.scaleB (Float.ofNat m) q
  if negative then -magnitude else magnitude

/-- The remainder of a division that is truncated towards zero; it has the sign of the dividend. -/
def remainder (x y : Float) : Float :=
  match Binary.ofFloat? x, Binary.ofFloat? y with
  | some a, some b =>
    if b.mantissa == 0 then 0.0 / 0.0
    else
      let q := min a.exponent b.exponent
      let m := a.mantissa * Nat.pow 2 (a.exponent - q).toNat
      let n := b.mantissa * Nat.pow 2 (b.exponent - q).toNat
      ofParts a.negative (m % n) q
  | some _, none => if y.isNaN then y else x
  | none, _ => 0.0 / 0.0

end ComponentAtlas.Number
