/-
Whole numbers written in decimal digits, and the word bound that variable names put on them.
-/
namespace Stagecraft.Digits

/-- one past the largest 64-bit word -/
def wordEnd : Nat := Nat.pow 2 64

/-- the value of one ASCII digit -/
def digit? (c : Char) : Option Nat :=
  if '0' ≤ c ∧ c ≤ '9' then some (c.toNat - '0'.toNat) else none

/-- the number that a list of digits spells, most significant first -/
def ofList (ds : List Nat) : Nat := ds.foldl (fun n d => 10 * n + d) 0

/-- a non-empty run of ASCII digits; leading zeros are allowed -/
def nat? (cs : List Char) : Option Nat :=
  if cs.isEmpty then none else (cs.mapM digit?).map ofList

/-- a non-empty run of ASCII digits whose value fits a 64-bit word -/
def word? (cs : List Char) : Option Nat := (nat? cs).filter (· < wordEnd)

end Stagecraft.Digits
