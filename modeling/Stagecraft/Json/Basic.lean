/-
JSON values as packs and settings hold them.

Three decisions. A whole number and a decimal one are different values, because a tick count may not be written `5.0`.
An object keeps its members in order and keeps repeated keys: whether a repeat is an error is for the reader of the
record to say. A text whose spelling is fine but that stands for nothing (a number past the largest double, a string
or a key with half a surrogate pair) is `unreadable`: it may be skipped over, and reads as no type.

A double is written by `Json.number`. Only a finite one has a numeral, so only a finite one reads back.
-/
namespace Stagecraft

inductive Json where
  | null
  | bool (b : Bool)
  | whole (n : Int)
  | decimal (x : Float)
  | string (s : String)
  | array (items : List Json)
  | object (members : List (String × Json))
  | unreadable
deriving Inhabited

/-- a double as a value, `null` for an infinity or a NaN -/
def Json.number (x : Float) : Json := if x.isFinite then .decimal x else .null

end Stagecraft
