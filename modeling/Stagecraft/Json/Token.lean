/-
The tokens of a JSON text. `Token.scan?` walks the characters once; its state says what the characters read so far
have begun. A string token is `none` when an escape in it names half of a surrogate pair; control characters in a
string, unknown escapes and unclosed strings make the text no JSON at all.
-/
import Stagecraft.Json.Numeral

namespace Stagecraft.Json

/-- one token of a JSON text; a mark is a bracket, a comma or a colon -/
inductive Token where
  | mark (c : Char)
  | scalar (v : Json)
  | text (s : Option String)

namespace Token

/-- the part of a string read so far: characters in reverse, a first surrogate waiting for its second, and whether
every escape so far named a character -/
structure Partial where
  chars : List Char := []
  pending : Option Nat := none
  sound : Bool := true

namespace Partial

/-- a character that is not the second half of a pair -/
def push (p : Partial) (c : Char) : Partial :=
  { chars := c :: p.chars, sound := p.sound && p.pending.isNone }

/-- a `\u` escape -/
def pushUnit (p : Partial) (unit : Nat) : Partial :=
  match p.pending with
  | some high =>
    if 0xDC00 ≤ unit ∧ unit < 0xE000 then
      { p with chars := Char.ofNat (0x10000 + (high - 0xD800) * 0x400 + (unit - 0xDC00)) :: p.chars, pending := none }
    else { p with pending := none, sound := false }
  | none =>
    if 0xD800 ≤ unit ∧ unit < 0xDC00 then { p with pending := some unit }
    else if 0xDC00 ≤ unit ∧ unit < 0xE000 then { p with sound := false }
    else { p with chars := Char.ofNat unit :: p.chars }

def finish (p : Partial) : Option String :=
  if p.sound && p.pending.isNone then some (String.ofList p.chars.reverse) else none

end Partial

/-- what the characters read so far have begun -/
inductive Mode where
  | between
  | word (reversed : List Char)
  | numeral (reversed : List Char)
  | text (soFar : Partial)
  | escape (soFar : Partial)
  | unit (soFar : Partial) (left : Nat) (value : Nat)

def hexDigit? (c : Char) : Option Nat :=
  if 'a' ≤ c ∧ c ≤ 'f' then some (c.toNat - 'a'.toNat + 10)
  else if 'A' ≤ c ∧ c ≤ 'F' then some (c.toNat - 'A'.toNat + 10)
  else Digits.digit? c

/-- the character that a one-letter escape names -/
def escaped? : Char → Option Char
  | '"' => some '"'
  | '\\' => some '\\'
  | '/' => some '/'
  | 'b' => some '\x08'
  | 'f' => some '\x0c'
  | 'n' => some '\n'
  | 'r' => some '\r'
  | 't' => some '\t'
  | _ => none

/-- blank between tokens -/
def isBlank (c : Char) : Bool := c = ' ' || c = '\n' || c = '\t' || c = '\r'

/-- a bracket, a comma or a colon -/
def isMark (c : Char) : Bool := ['\x7b', '\x7d', '[', ']', ',', ':'].contains c

/-- a letter of `true`, `false` and `null` -/
def isWordChar (c : Char) : Bool := 'a' ≤ c && c ≤ 'z'

/-- a character that may stand in a numeral -/
def isNumeralChar (c : Char) : Bool := c.isDigit || ['-', '+', '.', 'e', 'E'].contains c

def ofWord? : List Char → Option Token
  | ['t', 'r', 'u', 'e'] => some (.scalar (.bool true))
  | ['f', 'a', 'l', 's', 'e'] => some (.scalar (.bool false))
  | ['n', 'u', 'l', 'l'] => some (.scalar .null)
  | _ => none

def ofNumeral? (cs : List Char) : Option Token := (Numeral.parse? cs).map fun n => .scalar n.value

/-- the mode after a character that begins something new, and the mark that it is if it is one -/
def start? (c : Char) : Option (Mode × List Token) :=
  if isBlank c then some (.between, [])
  else if isMark c then some (.between, [.mark c])
  else if c = '"' then some (.text {}, [])
  else if isWordChar c then some (.word [c], [])
  else if isNumeralChar c then some (.numeral [c], [])
  else none

/-- the mode after one more character, and the tokens that it finishes, last one first -/
def step? (mode : Mode) (c : Char) : Option (Mode × List Token) :=
  match mode with
  | .between => start? c
  | .word cs =>
    if isWordChar c then some (.word (c :: cs), [])
    else do
      let t ← ofWord? cs.reverse
      let (mode, ts) ← start? c
      return (mode, ts ++ [t])
  | .numeral cs =>
    if isNumeralChar c then some (.numeral (c :: cs), [])
    else do
      let t ← ofNumeral? cs.reverse
      let (mode, ts) ← start? c
      return (mode, ts ++ [t])
  | .text p =>
    if c = '"' then some (.between, [.text p.finish])
    else if c = '\\' then some (.escape p, [])
    else if c.toNat < 0x20 then none
    else some (.text (p.push c), [])
  | .escape p =>
    if c = 'u' then some (.unit p 3 0, []) else (escaped? c).map fun c => (.text (p.push c), [])
  | .unit p left value => do
    let d ← hexDigit? c
    let value := 16 * value + d
    match left with
    | 0 => return (.text (p.pushUnit value), [])
    | left + 1 => return (.unit p left value, [])

/-- the tokens that the end of the text finishes -/
def finish? : Mode → Option (List Token)
  | .between => some []
  | .word cs => (ofWord? cs.reverse).map fun t => [t]
  | .numeral cs => (ofNumeral? cs.reverse).map fun t => [t]
  | .text _ | .escape _ | .unit .. => none

/-- the tokens of a text, none if it is not made of JSON tokens -/
def scan? (text : String) : Option (List Token) := do
  let (mode, reversed) ← text.toList.foldlM
    (fun (mode, done) c => (step? mode c).map fun (mode, ts) => (mode, ts ++ done)) (Mode.between, [])
  return ((← finish? mode) ++ reversed).reverse

end Token

end Stagecraft.Json
