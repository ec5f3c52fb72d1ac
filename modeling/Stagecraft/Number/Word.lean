/-
Arithmetic in machine words, with every step checked. A word of so many bits is a number below `2 ^ bits`; a sum past the last
word, a difference below zero and a remainder by zero are no words.
-/
namespace Stagecraft.Word

/-- the last word of so many bits -/
def last (bits : Nat) : Nat := Nat.pow 2 bits - 1

def add? (bits a b : Nat) : Option Nat := if a + b ≤ last bits then some (a + b) else none

def sub? (a b : Nat) : Option Nat := if b ≤ a then some (a - b) else none

def rem? (a b : Nat) : Option Nat := if b = 0 then none else some (a % b)

variable {bits a b : Nat}

theorem add?_of_le (h : a + b ≤ last bits) : add? bits a b = some (a + b) := if_pos h

theorem sub?_of_le (h : b ≤ a) : sub? a b = some (a - b) := if_pos h

theorem rem?_of_pos (h : 0 < b) : rem? a b = some (a % b) := if_neg (Nat.ne_of_gt h)

end Stagecraft.Word
