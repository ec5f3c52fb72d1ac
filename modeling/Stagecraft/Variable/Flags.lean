/-
Flags of an entity: switches, one-shot inputs, and the constants of its definition.

A flag that is on reads 1; one that was ever declared and is off reads 0; any other name is unknown. One-shot flags are
dropped after the tick that saw them. Constants are the flags that the current definition keeps on: a new definition
turns off those of the old one that it does not repeat, and leaves all other flags alone.

Each list is a set: order and repeats mean nothing.
-/
namespace Stagecraft

structure Flags where
  on : List String := []
  declared : List String := []
  oneShot : List String := []
  constants : List String := []
deriving Repr

namespace Flags

/-- make a name known without turning it on -/
def declare (f : Flags) (name : String) : Flags := { f with declared := f.declared.insert name }

def set (f : Flags) (name : String) : Flags :=
  let f := f.declare name
  { f with on := f.on.insert name }

/-- turn a flag on for one tick -/
def setOneShot (f : Flags) (name : String) : Flags :=
  let f := f.set name
  { f with oneShot := f.oneShot.insert name }

def isSet (f : Flags) (name : String) : Bool := f.on.contains name

/-- whether a name was ever declared -/
def isDeclared (f : Flags) (name : String) : Bool := f.declared.contains name

/-- whether a flag is one of the current constants -/
def isConstant (f : Flags) (name : String) : Bool := f.constants.contains name

/-- turn a flag off for good, also as a one-shot and as a constant -/
def clear (f : Flags) (name : String) : Flags :=
  { f with
    on := f.on.filter (· ≠ name)
    oneShot := f.oneShot.filter (· ≠ name)
    constants := f.constants.filter (· ≠ name) }

def toggle (f : Flags) (name : String) : Flags := if f.isSet name then f.clear name else (f.clear name).set name

/-- turn on one constant of a definition -/
def setConstant (f : Flags) (name : String) : Flags :=
  let f := f.set name
  { f with constants := f.constants.insert name }

/-- take the constants of a new definition in place of the old ones -/
def replaceConstants (f : Flags) (names : List String) : Flags :=
  let new := names.foldl setConstant { f with constants := [] }
  { new with on := new.on.filter fun n => !f.constants.contains n || new.constants.contains n }

/-- drop the one-shot flags; once at the end of a tick -/
def clearOneShots (f : Flags) : Flags :=
  { f with on := f.on.filter fun n => !f.oneShot.contains n, oneShot := [] }

/-- the value of a flag, none for an unknown name -/
def value? (f : Flags) (name : String) : Option Float :=
  if f.isSet name then some (Float.ofNat 1)
  else if f.isDeclared name then some (Float.ofNat 0)
  else none

end Flags

end Stagecraft
