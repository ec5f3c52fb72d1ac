/-
From tokens to a value. `Json.ofText?` reads a text that holds exactly one JSON value and blanks around it.

The reader is a stack machine: one step per token, so it ends with the tokens, however deeply the text nests. An object
with an unreadable key is unreadable as a whole.
-/
import Stagecraft.Json.Token

namespace Stagecraft.Json

namespace Reader

/-- an unclosed array or object, with what it holds so far in reverse; an object also waits for a value under a key -/
inductive Frame where
  | array (items : List Json)
  | object (members : List (String × Json)) (readable : Bool) (key : Option String)

/-- what the next token may be -/
inductive Expect where
  | value
  | itemOrClose
  | keyOrClose
  | key
  | colon
  | commaOrClose
  | nothing (result : Json)

/-- the machine: enclosing arrays and objects, innermost first -/
structure State where
  stack : List Frame := []
  expect : Expect := .value

/-- a finished value goes into the innermost unclosed array or object -/
def State.put (stack : List Frame) (v : Json) : State :=
  match stack with
  | [] => ⟨[], .nothing v⟩
  | .array items :: outer => ⟨.array (v :: items) :: outer, .commaOrClose⟩
  | .object members readable none :: outer => ⟨.object members readable none :: outer, .commaOrClose⟩
  | .object members readable (some key) :: outer =>
    ⟨.object ((key, v) :: members) readable none :: outer, .commaOrClose⟩

/-- a key, none for one that names no string -/
def State.putKey (stack : List Frame) (key : Option String) : Option State :=
  match stack with
  | .object members readable _ :: outer => some ⟨.object members (readable && key.isSome) key :: outer, .colon⟩
  | _ => none

/-- the end of the innermost array or object -/
def State.close (stack : List Frame) (c : Char) : Option State :=
  match stack, c with
  | .array items :: outer, ']' => some (put outer (.array items.reverse))
  | .object members readable _ :: outer, '\x7d' =>
    some (put outer (if readable then .object members.reverse else .unreadable))
  | _, _ => none

/-- a token where a value may begin -/
def State.open? (stack : List Frame) : Token → Option State
  | .scalar v => some (put stack v)
  | .text s => some (put stack ((s.map Json.string).getD .unreadable))
  | .mark '[' => some ⟨.array [] :: stack, .itemOrClose⟩
  | .mark '\x7b' => some ⟨.object [] true none :: stack, .keyOrClose⟩
  | .mark _ => none

/-- the machine after one token, none where the token may not stand -/
def State.step? (s : State) (t : Token) : Option State :=
  match s.expect, t with
  | .value, t => open? s.stack t
  | .itemOrClose, .mark ']' => close s.stack ']'
  | .itemOrClose, t => open? s.stack t
  | .keyOrClose, .mark '\x7d' => close s.stack '\x7d'
  | .keyOrClose, .text key => putKey s.stack key
  | .key, .text key => putKey s.stack key
  | .colon, .mark ':' => some { s with expect := .value }
  | .commaOrClose, .mark ',' =>
    match s.stack with
    | .array _ :: _ => some { s with expect := .value }
    | .object .. :: _ => some { s with expect := .key }
    | [] => none
  | .commaOrClose, .mark c => close s.stack c
  | _, _ => none

end Reader

/-- the value of a JSON text, none if the text is not one JSON value -/
def ofText? (text : String) : Option Json := do
  let tokens ← Token.scan? text
  let last ← tokens.foldlM Reader.State.step? {}
  match last.expect with
  | .nothing v => return v
  | _ => none

end Stagecraft.Json
