/-
Numbers in JSON text. `Numeral.parse?` is the grammar (no leading zero, no leading `+`, at least one digit on each side
of the point and after the exponent mark) and `Numeral.value` the number.

A numeral without point and exponent is whole if it fits 64 bits, signed for a negative one; `-0` is a decimal. Any
other is the double that one scaling gives: as many leading digits as fit an unsigned 64-bit word, as a double, times or
divided by a power of ten. Past the largest double there is no value; below the smallest one it is zero.
-/
import Stagecraft.Json.Basic
import Stagecraft.Number.Digits

namespace Stagecraft.Json

/-- the parts of a numeral, digits most significant first -/
structure Numeral where
  negative : Bool
  whole : List Nat
  fraction : Option (List Nat)
  exponent : Option Int

namespace Numeral

/-- the longest run of digits in front, and what follows it -/
def digits : List Char → List Nat × List Char
  | [] => ([], [])
  | c :: cs =>
    match Digits.digit? c with
    | some d => ((digits cs).1.cons d, (digits cs).2)
    | none => ([], c :: cs)

/-- the digits after an exponent mark, with an optional sign -/
def exponent? (cs : List Char) : Option Int :=
  let (negative, cs) := match cs with
    | '-' :: rest => (true, rest)
    | '+' :: rest => (false, rest)
    | cs => (false, cs)
  (Digits.nat? cs).map fun n => if negative then -Int.ofNat n else Int.ofNat n

/-- what follows the digits before the exponent -/
def tail? : List Char → Option (Option Int)
  | [] => some none
  | c :: cs => if c = 'e' ∨ c = 'E' then (exponent? cs).map some else none

/-- the numeral that a text spells -/
def parse? (cs : List Char) : Option Numeral := do
  let (negative, cs) := match cs with
    | '-' :: rest => (true, rest)
    | cs => (false, cs)
  let (whole, cs) := digits cs
  if whole.isEmpty ∨ (whole.head? = some 0 ∧ whole.length > 1) then none
  match cs with
  | '.' :: rest =>
    let (fraction, rest) := digits rest
    if fraction.isEmpty then none
    return ⟨negative, whole, some fraction, ← tail? rest⟩
  | rest => return ⟨negative, whole, none, ← tail? rest⟩

/-- the leading digits that a 64-bit word takes after `n`, and the digits left over -/
def fill : Nat → List Nat → Nat × List Nat
  | n, [] => (n, [])
  | n, d :: ds => if 10 * n + d < Digits.wordEnd then fill (10 * n + d) ds else (n, d :: ds)

/-- a power of ten as a double -/
def powerOfTen (n : Nat) : Float := Float.ofScientific 1 false n

/-- the number `x * 10 ^ e`, by one product or quotient where a double holds the power; none past the largest double -/
def scale (x : Float) (e : Int) : Option Float :=
  if e.natAbs ≤ 308 then
    if 0 ≤ e then
      let y := x * powerOfTen e.natAbs
      if y.isInf then none else some y
    else some (x / powerOfTen e.natAbs)
  else if x == 0 then some x
  else if 0 ≤ e then none
  else scale (x / powerOfTen 308) (e + 308)
termination_by e.natAbs
decreasing_by omega

/-- the double of a numeral, none if it is too large for one -/
def decimal (n : Numeral) : Option Float :=
  let (significand, dropped) := fill 0 n.whole
  let fraction := n.fraction.getD []
  let (significand, unused) := fill significand fraction
  let taken := fraction.length - unused.length
  let magnitude := scale (Float.ofNat significand) (dropped.length - taken + n.exponent.getD 0)
  if n.negative then magnitude.map Float.neg else magnitude

/-- whether a numeral is a whole number of at most 64 bits -/
def whole? (n : Numeral) : Option Int :=
  let m := Digits.ofList n.whole
  if n.fraction.isSome ∨ n.exponent.isSome then none
  else if n.negative then if 0 < m ∧ m ≤ Nat.pow 2 63 then some (-Int.ofNat m) else none
  else if m < Digits.wordEnd then some (Int.ofNat m) else none

def value (n : Numeral) : Json :=
  match n.whole?, n.decimal with
  | some m, _ => .whole m
  | none, some x => .decimal x
  | none, none => .unreadable

end Numeral

end Stagecraft.Json
