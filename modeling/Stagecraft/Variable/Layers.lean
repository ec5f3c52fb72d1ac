/-
The variables of one entity, in three layers: what the host says of the entity shadows what the world drives, which
shadows the flags.
-/
import Stagecraft.Variable.Flags
import Stagecraft.Variable.World

namespace Stagecraft

/-- the layered scope of an entity -/
def Scope.layered (own : Option Scope) (world : World) (flags : Flags) : Scope := fun partialTick name =>
  (own.bind fun s => s partialTick name) <|> world.scope partialTick name <|> flags.value? name

end Stagecraft
