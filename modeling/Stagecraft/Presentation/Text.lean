/-
A presentation from a text. Only a text that is no presentation fails; faulty channels are emptied and reported.
-/
import Stagecraft.Json.Reader
import Stagecraft.Log
import Stagecraft.Presentation.Json

namespace Stagecraft.Presentation

/-- the presentation with its faulty channels emptied, the reports on them, and a warning for each -/
def sanitize (p : Presentation) : Turn Presentation (List Rejection) := ⟨p.sanitized, p.rejections, p.rejectionEvents⟩

/-- the presentation of a text, sanitized -/
def ofText? (text : String) : Option (Turn Presentation (List Rejection)) :=
  ((Json.ofText? text).bind ofJson?).map sanitize

end Stagecraft.Presentation
