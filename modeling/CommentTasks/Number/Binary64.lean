/-!
# Binary floating-point numbers

The numbers of the 64-bit binary format as exact values. A finite number is `m * 2 ^ e` with
`m < 2 ^ 53` and `-1074 ≤ e ≤ 971`, and `2 ^ 52 ≤ m` unless `e = -1074`, so every number but zero
has one form. Rounding is to the nearest number, and a tie goes to the even neighbour.
-/

namespace CommentTasks

/-- A number of the 64-bit binary format. -/
inductive Binary64
  /-- The number `mantissa * 2 ^ exponent`, or its opposite. -/
  | finite (negative : Bool) (mantissa : Nat) (exponent : Int)
  | infinite (negative : Bool)
  | nan
  deriving DecidableEq, Repr

namespace Binary64

/-- The nearest integer to `n / d`, and the even one of two. -/
def roundQuotient (n d : Nat) : Nat :=
  let q := n / d
  let r := n % d
  if d < 2 * r ∨ (2 * r = d ∧ q % 2 = 1) then q + 1 else q

/-- The fraction `n / d` divided by `2 ^ e`, as a fraction. -/
def scale (n d : Nat) (e : Int) : Nat × Nat :=
  match e with
  | .ofNat k => (n, d * Nat.pow 2 k)
  | .negSucc k => (n * Nat.pow 2 (k + 1), d)

/-- The number nearest to `n / d`. -/
def ofFraction (negative : Bool) (n d : Nat) : Binary64 :=
  if n = 0 then .finite negative 0 (-1074)
  else
    let guess : Int := (Nat.log2 n : Int) - Nat.log2 d - 52
    let (gn, gd) := scale n d guess
    let e := max (if gn < Nat.pow 2 52 * gd then guess - 1 else guess) (-1074)
    let (sn, sd) := scale n d e
    let m := roundQuotient sn sd
    let (m, e) := if m = Nat.pow 2 53 then (Nat.pow 2 52, e + 1) else (m, e)
    if e > 971 then .infinite negative else .finite negative m e

/-- The number nearest to `digits * 10 ^ exponent`. -/
def ofDecimal (negative : Bool) (digits : Nat) (exponent : Int) : Binary64 :=
  let magnitude : Int := Nat.log2 digits + 3 * exponent
  if digits = 0 then .finite negative 0 (-1074)
  else if 0 ≤ exponent ∧ magnitude > 1100 then .infinite negative
  else if exponent < 0 ∧ (Nat.log2 digits : Int) + 1 + 3 * exponent < -1100 then
    .finite negative 0 (-1074)
  else
    match exponent with
    | .ofNat k => ofFraction negative (digits * Nat.pow 10 k) 1
    | .negSucc k => ofFraction negative digits (Nat.pow 10 (k + 1))

/-- The number nearest to an integer. -/
def ofInt (n : Int) : Binary64 := ofFraction (n < 0) n.natAbs 1

/-- The value of a finite number as a fraction: numerator and denominator. -/
def toFraction? : Binary64 → Option (Int × Nat)
  | .finite negative m e =>
    let (n, d) := scale m 1 (-e)
    some (if negative then -(n : Int) else n, d)
  | _ => none

/-- The number is below zero, or is the zero with a minus. -/
def isNegative : Binary64 → Bool
  | .finite negative _ _ => negative
  | .infinite negative => negative
  | .nan => false

/-- The opposite number. -/
def neg : Binary64 → Binary64
  | .finite negative m e => .finite (!negative) m e
  | .infinite negative => .infinite (!negative)
  | .nan => .nan

/-- The number nearest to a fraction; a zero has the sign that is given. -/
def ofSignedFraction (zeroNegative : Bool) (n : Int) (d : Nat) : Binary64 :=
  ofFraction (if n = 0 then zeroNegative else n < 0) n.natAbs d

/-- The sum, rounded. -/
def add : Binary64 → Binary64 → Binary64
  | .nan, _ => .nan
  | _, .nan => .nan
  | .infinite a, .infinite b => if a = b then .infinite a else .nan
  | .infinite a, _ => .infinite a
  | _, .infinite b => .infinite b
  | x, y =>
    match x.toFraction?, y.toFraction? with
    | some (n, d), some (n', d') =>
      ofSignedFraction (x.isNegative && y.isNegative) (n * d' + n' * d) (d * d')
    | _, _ => .nan

/-- The product, rounded. -/
def mul (x y : Binary64) : Binary64 :=
  let negative := x.isNegative != y.isNegative
  match x, y with
  | .nan, _ => .nan
  | _, .nan => .nan
  | .infinite _, .finite _ m _ => if m = 0 then .nan else .infinite negative
  | .finite _ m _, .infinite _ => if m = 0 then .nan else .infinite negative
  | .infinite _, .infinite _ => .infinite negative
  | _, _ =>
    match x.toFraction?, y.toFraction? with
    | some (n, d), some (n', d') => ofSignedFraction negative (n * n') (d * d')
    | _, _ => .nan

/-- The integer part of a finite number: what is left without the digits behind the point. -/
def truncate? (x : Binary64) : Option Int :=
  x.toFraction?.map fun (n, d) => Int.tdiv n d

/-- The integer that a finite number equals. -/
def integer? (x : Binary64) : Option Int :=
  match x.toFraction? with
  | some (n, d) => if n % d = 0 then some (n / d) else none
  | none => none

end Binary64

end CommentTasks
