import CommentTasks.Number.Binary64
import CommentTasks.Text.Basic

/-!
# Shortest decimal text

The text of a floating-point number has the fewest digits that read back as the same number, and of
these the digits nearest to it. A number between `10 ^ -4` and `10 ^ 16` is written with a point,
with at least one digit on both sides; any other is written with one digit before the point and an
exponent of at least two digits.
-/

namespace CommentTasks.Binary64

/-- The place of the first digit of `n / d`, as the power of ten above it. -/
def decimalPlace (n d : Nat) : Int :=
  if d ≤ n then (Nat.toDigits 10 (n / d)).length
  else
    let k := (Nat.toDigits 10 (d / n)).length
    if d ≤ n * Nat.pow 10 (k - 1) then 2 - (k : Int) else 1 - (k : Int)

/-- The fraction `n / d` divided by `10 ^ e`, as a fraction. -/
def scaleByTens (n d : Nat) (e : Int) : Nat × Nat :=
  match e with
  | .ofNat k => (n, d * Nat.pow 10 k)
  | .negSucc k => (n * Nat.pow 10 (k + 1), d)

/-- The reals that read back as a positive number, as fractions over one denominator: the number
itself, the least and the greatest of them, and whether these two ends belong to them. -/
structure Interval where
  value : Nat
  low : Nat
  high : Nat
  denominator : Nat
  closed : Bool

/-- The interval of the number `m * 2 ^ e`, in quarters of its last place. -/
def intervalOf (m : Nat) (e : Int) : Interval :=
  let low := if m = Nat.pow 2 52 ∧ e > -1074 then 4 * m - 1 else 4 * m - 2
  let (factor, denominator) := scale 1 1 (2 - e)
  ⟨4 * m * factor, low * factor, (4 * m + 2) * factor, denominator, m % 2 = 0⟩

/-- A multiple of `10 ^ e` lies in the interval. -/
def Interval.holds (i : Interval) (c : Nat) (e : Int) : Bool :=
  let (n, d) := scaleByTens c 1 (-e)
  let point := n * i.denominator
  if i.closed then i.low * d ≤ point && point ≤ i.high * d
  else i.low * d < point && point < i.high * d

/-- The multiple of `10 ^ e` in the interval that is nearest to the value, if there is one. -/
def Interval.nearest? (i : Interval) (e : Int) : Option Nat :=
  let (n, d) := scaleByTens i.value i.denominator e
  let below := n / d
  match i.holds below e, i.holds (below + 1) e with
  | true, true => some (roundQuotient n d)
  | true, false => some below
  | false, true => some (below + 1)
  | false, false => none

/-- The digits of the shortest decimal in the interval, and the power of ten above its first
digit, trying `count`, `count + 1`, ... digits. -/
def Interval.shortest (i : Interval) (place : Int) (count : Nat) : Nat → Text × Int
  | 0 => (['0'], 1)
  | tries + 1 =>
    let e := place - count
    match i.nearest? e with
    | some c =>
      let digits := Text.ofNat c
      (digits, e + digits.length)
    | none => i.shortest place (count + 1) tries

/-- The digits of a finite positive number without zeros at their end, and the power of ten above
the first. -/
def shortestDigits (m : Nat) (e : Int) : Text × Int :=
  let i := intervalOf m e
  let (digits, place) := i.shortest (decimalPlace i.value i.denominator) 1 17
  ((digits.reverse.dropWhile (· == '0')).reverse, place)

/-- Digits in positional notation, where `place` digits stand before the point. -/
def positional (digits : Text) (place : Int) : Text :=
  if place ≤ 0 then
    '0' :: '.' :: (List.replicate (-place).toNat '0' ++ digits)
  else
    let n := place.toNat
    if digits.length ≤ n then digits ++ List.replicate (n - digits.length) '0' ++ ['.', '0']
    else digits.take n ++ '.' :: digits.drop n

/-- Digits with an exponent. -/
def scientific (digits : Text) (place : Int) : Text :=
  let e := place - 1
  let point : Text := if digits.length ≤ 1 then [] else ['.']
  digits.take 1 ++ point ++ digits.drop 1 ++ 'e' :: (if e < 0 then '-' else '+') ::
    Text.ofNatPadded 2 e.natAbs

/-- The text of a number without its sign. -/
def magnitudeText : Binary64 → Text
  | .nan => "nan".toList
  | .infinite _ => "inf".toList
  | .finite _ m e =>
    if m = 0 then "0.0".toList
    else
      let (digits, place) := shortestDigits m e
      if -4 < place ∧ place ≤ 16 then positional digits place else scientific digits place

/-- The text of a number. -/
def toText (x : Binary64) : Text :=
  if x.isNegative then '-' :: magnitudeText x else magnitudeText x

end CommentTasks.Binary64
