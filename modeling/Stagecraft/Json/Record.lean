/-
Reading records and scalars from JSON values.

A record is an object, or an array of its fields in their order. In an object, unknown keys are skipped and a known key
that stands twice is an error; an array may leave out fields at its end and may not have extra ones. A field that may be
missing has a default, and `null` does not count as missing. A variant without data is its name, or an object with the
name as its only key and `null` under it.
-/
import Stagecraft.Json.Basic
import Stagecraft.Number.Single

namespace Stagecraft.Json

/-- the value under a key; none if the key stands twice -/
def member? (members : List (String × Json)) (name : String) : Option (Option Json) :=
  match members.filter (·.1 = name) with
  | [] => some none
  | [m] => some (some m.2)
  | _ => none

/-- the fields of a record by their names, in the order of the names -/
def fields? (names : List String) : Json → Option (List (Option Json))
  | .object members => names.mapM (member? members)
  | .array items =>
    if items.length ≤ names.length then some ((List.range names.length).map (items[·]?)) else none
  | _ => none

/-- a field that must be there -/
def required {β : Type} (read : Json → Option β) (field : Option Json) : Option β := field.bind read

/-- a field with a default -/
def optional {β : Type} (read : Json → Option β) (default : β) : Option Json → Option β
  | none => some default
  | some v => read v

/-- a field that may be missing or `null` -/
def nullable {β : Type} (read : Json → Option β) : Option Json → Option (Option β)
  | none | some .null => some none
  | some v => (read v).map some

/-- the items of an array, all read alike -/
def list? {β : Type} (read : Json → Option β) : Json → Option (List β)
  | .array items => items.mapM read
  | _ => none

def bool? : Json → Option Bool
  | .bool b => some b
  | _ => none

def string? : Json → Option String
  | .string s => some s
  | _ => none

/-- a double; whole numbers count -/
def float? : Json → Option Float
  | .whole n => some (Float.ofInt n)
  | .decimal x => some x
  | _ => none

/-- a single; a whole number is rounded once -/
def single? : Json → Option Float32
  | .whole n => some (Single.ofInt n)
  | .decimal x => some (Single.nearest x)
  | _ => none

/-- a whole number from `lo` to `hi`; a decimal is none, whatever its value -/
def within? (lo hi : Int) : Json → Option Int
  | .whole n => if lo ≤ n ∧ n ≤ hi then some n else none
  | _ => none

def int32? (v : Json) : Option Int32 := (v.within? (-0x80000000) 0x7fffffff).map Int32.ofInt

def uint32? (v : Json) : Option UInt32 := (v.within? 0 0xffffffff).map fun n => UInt32.ofNat n.toNat

/-- an unsigned 64-bit number -/
def word? (v : Json) : Option Nat := (v.within? 0 0xffffffffffffffff).map Int.toNat

/-- the name of a variant without data -/
def variant? : Json → Option String
  | .string s => some s
  | .object [(s, .null)] => some s
  | _ => none

end Stagecraft.Json
