/-
Cycle variables. A name `off_on_more..._cycle` is a square wave of the world tick: off for `off` ticks, on for the next
`on`, and the further segments lengthen the period. The wave is on strictly after `off`, so the first tick of the on
window still reads 0.

A segment is one or more ASCII digits, with an optional `+` in front, of value below `2 ^ 64`. The period is the sum of
all segments, capped at the largest 64-bit word.
-/
import Stagecraft.Number.Digits

namespace Stagecraft

/-- why a name spells no cycle -/
inductive CycleFault where
  /-- a segment is no 64-bit word -/
  | malformed (name segment : String)
  /-- no suffix, or no off and on segment before it -/
  | tooShort (name : String)
  /-- all segments are zero -/
  | empty (name : String)
deriving DecidableEq, Repr

def CycleFault.message : CycleFault → String
  | .malformed name segment => s!"cycle variable '{name}' has non-numeric segment '{segment}'"
  | .tooShort name => s!"cycle variable '{name}' needs at least an off and an on segment"
  | .empty name => s!"cycle variable '{name}' has a total length of zero ticks"

/-- the timing of a cycle, in whole ticks -/
structure Cycle where
  off : Nat
  on : Nat
  total : Nat
deriving DecidableEq, Repr

namespace Cycle

/-- what every cycle name ends in -/
def suffix : List Char := "_cycle".toList

/-- any name with the suffix, well formed or not -/
def isName (name : String) : Bool := suffix.isSuffixOf name.toList

/-- the parts between underscores; never empty -/
def segments : List Char → List (List Char)
  | [] => [[]]
  | c :: cs =>
    if c = '_' then [] :: segments cs
    else match segments cs with
      | [] => [[c]]
      | s :: ss => (c :: s) :: ss

def segment? : List Char → Option Nat
  | '+' :: cs => Digits.word? cs
  | cs => Digits.word? cs

/-- the sum of the segments, capped at the largest 64-bit word -/
def period (ns : List Nat) : Nat := min (ns.foldr (· + ·) 0) (Digits.wordEnd - 1)

/-- the first segment that is no word -/
def firstBad? (parts : List (List Char)) : Option (List Char) := parts.find? fun s => (segment? s).isNone

/-- the cycle that a name spells -/
def parse (name : String) : Except CycleFault Cycle :=
  if !isName name then .error (.tooShort name)
  else
    let parts := segments (name.toList.take (name.toList.length - suffix.length))
    match firstBad? parts with
    | some s => .error (.malformed name (String.ofList s))
    | none =>
      match parts.filterMap segment? with
      | off :: on :: more =>
        let total := period (off :: on :: more)
        if total = 0 then .error (.empty name) else .ok ⟨off, on, total⟩
      | _ => .error (.tooShort name)

/-- whether the wave is on at a tick -/
def isOn (c : Cycle) (tick : Nat) : Bool :=
  let t := tick % c.total
  c.off < t && t - c.off < c.on

/-- the wave at a tick, 0 or 1 -/
def valueAt (c : Cycle) (tick : Nat) : Float := if c.isOn tick then Float.ofNat 1 else Float.ofNat 0

end Cycle

end Stagecraft
