/-
Shortest decimals. `shortest` writes a double with the fewest decimal digits that still read back as the same double,
and never uses an exponent: `5`, `1.5`, `-0.000001`, `1000000000000000000000`.

A double is a mantissa times a power of two, so the reals that round to it form an interval whose ends are whole
multiples of a quarter of its last place. The ends belong to it when the mantissa is even, and below a power of two the
lower half is only half as wide. `Decimal.nearest` tries one decimal grid after the other, coarse ones first, and takes
the closer of the two neighbours on the first grid that meets the interval; a tie goes up.
-/
namespace Stagecraft.Decimal

open Float.Model

/-- the reals that round to one positive double, in quarters of its last place: `unit = 2 ^ exponent` -/
structure Interval where
  lower : Nat
  value : Nat
  upper : Nat
  closed : Bool
  exponent : Int

/-- the interval of `mantissa * 2 ^ exponent` -/
def Interval.of (mantissa : Nat) (exponent : Int) : Interval :=
  { lower := if mantissa = Nat.pow 2 52 then 4 * mantissa - 1 else 4 * mantissa - 2
    value := 4 * mantissa
    upper := 4 * mantissa + 2
    closed := mantissa % 2 = 0
    exponent := exponent - 2 }

/-- the numbers `a * 2 ^ e` and `c * 10 ^ p`, brought to a common denominator -/
def common (a : Nat) (e : Int) (c : Nat) (p : Int) : Nat × Nat :=
  (a * Nat.pow 2 e.toNat * Nat.pow 10 (-p).toNat, c * Nat.pow 10 p.toNat * Nat.pow 2 (-e).toNat)

/-- whether `c * 10 ^ p` lies in the interval -/
def Interval.contains (i : Interval) (c : Nat) (p : Int) : Bool :=
  let (lo, x) := common i.lower i.exponent c p
  let (hi, _) := common i.upper i.exponent c p
  if i.closed then lo ≤ x && x ≤ hi else lo < x && x < hi

/-- the neighbour of the value on the grid of step `10 ^ p` that reads back, the closer one if both do -/
def Interval.onGrid (i : Interval) (p : Int) : Option Nat :=
  let (v, step) := common i.value i.exponent 1 p
  let below := v / step
  match i.contains below p, i.contains (below + 1) p with
  | true, true => some (if 2 * (v % step) < step then below else below + 1)
  | true, false => some below
  | false, true => some (below + 1)
  | false, false => none

/-- the grids on which some double has a decimal, coarse ones first -/
def grids : List Int := (List.range 1400).map fun k => 310 - Int.ofNat k

/-- digits and decimal exponent of the shortest decimal of `mantissa * 2 ^ exponent` -/
def nearest (mantissa : Nat) (exponent : Int) : Nat × Int :=
  let i := Interval.of mantissa exponent
  (grids.findSome? fun p => (i.onGrid p).map (·, p)).getD (0, 0)

/-- the number `digits * 10 ^ p`, written without an exponent -/
def positional (digits : Nat) (p : Int) : String :=
  let ds := Nat.toDigits 10 digits
  if 0 ≤ p then String.ofList (ds ++ List.replicate p.toNat '0')
  else
    let places := (-p).toNat
    let ds := List.replicate (places + 1 - ds.length) '0' ++ ds
    String.ofList (ds.take (ds.length - places) ++ '.' :: ds.drop (ds.length - places))

/-- the shortest text of a double that reads back as it -/
def shortest (x : Float) : String :=
  let sign : UnpackedFloat.Sign → String
    | .negative => "-"
    | .positive => ""
  match x.toModel.unpack with
  | .notANumber => "NaN"
  | .infinity s => sign s ++ "inf"
  | .zero s => sign s ++ "0"
  | .finite s m e _ =>
    let (digits, p) := nearest m e
    sign s ++ positional digits p

end Stagecraft.Decimal
