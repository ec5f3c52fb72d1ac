/-
The fixtures by name: presentations to load and scenarios to drive them with.
-/
import Stagecraft.Fixture.BeaconDrive
import Stagecraft.Fixture.BeaconVehicle
import Stagecraft.Fixture.MalformedChannels

namespace Stagecraft.Fixture

/-- what a fixture is for -/
inductive Purpose where
  | presentation
  | scenario
deriving DecidableEq, Repr

def Purpose.name : Purpose → String
  | .presentation => "presentation"
  | .scenario => "scenario"

/-- the names and lines of the fixtures of one purpose -/
def entries : Purpose → List (String × List String)
  | .presentation => [("beacon-vehicle", beaconVehicleLines), ("malformed-channels", malformedChannelsLines)]
  | .scenario => [("beacon-drive", beaconDriveLines)]

/-- a name that no fixture has -/
structure NotFound where
  purpose : Purpose
  name : String
deriving DecidableEq, Repr

def NotFound.message (e : NotFound) : String := "unknown " ++ e.purpose.name ++ " fixture '" ++ e.name ++ "'"

def text (purpose : Purpose) (name : String) : Except NotFound String :=
  match (entries purpose).lookup name with
  | some lines => .ok ("\n".intercalate lines)
  | none => .error ⟨purpose, name⟩

end Stagecraft.Fixture
