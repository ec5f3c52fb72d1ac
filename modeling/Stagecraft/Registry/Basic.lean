/-
The registry of active entities over all worlds, each with its presenter and its flags.

Entries stand in the order of their activation, so the outputs of a tick come in that order, world by world. An entity
is active at most once in a world; a call about an entity that is not there is refused, and so is the activation of one
that is, and neither changes anything.
-/
import Stagecraft.Registry.Entry

namespace Stagecraft

/-- why a call is refused -/
inductive Refusal where
  | alreadyActive (world : WorldId) (entity : EntityId)
  | unknownEntity (world : WorldId) (entity : EntityId)
deriving DecidableEq, Repr

def Refusal.message : Refusal → String
  | .alreadyActive world entity => s!"entity {entity.label} is already active in world {world.label}"
  | .unknownEntity world entity => s!"entity {entity.label} is not registered in world {world.label}"

/-- every active entity, in the order of activation -/
structure Registry where
  settings : Settings
  entries : List Entry := []

namespace Registry

/-- the entries of a world, in order -/
def inWorld (r : Registry) (world : WorldId) : List Entry := r.entries.filter (·.world = world)

def entities (r : Registry) (world : WorldId) : List EntityId := (r.inWorld world).map (·.entity)

def size (r : Registry) (world : WorldId) : Nat := (r.inWorld world).length

def get? (r : Registry) (world : WorldId) (entity : EntityId) : Option Entry :=
  r.entries.find? (Entry.isFor world entity)

/-- the registry with an entry changed -/
def set (r : Registry) (world : WorldId) (entity : EntityId) (e : Entry) : Registry :=
  { r with entries := r.entries.map fun old => if old.isFor world entity then e else old }

/-- what a call on an active entity does -/
def onEntry {ρ : Type} (r : Registry) (world : WorldId) (entity : EntityId) (act : Entry → Turn Entry ρ) :
    Except Refusal (Turn Registry ρ) :=
  match r.get? world entity with
  | none => .error (.unknownEntity world entity)
  | some e =>
    let t := act e
    .ok ⟨r.set world entity t.state, t.output, t.events⟩

/-- take an entity in, with the constants of its definition as flags -/
def activate (world : WorldId) (entity : EntityId) (presentation : Presentation) (tick : Nat) (r : Registry) :
    Except Refusal (Turn Registry Unit) :=
  match r.get? world entity with
  | some _ => .error (.alreadyActive world entity)
  | none =>
    let t := (Presenter.new entity r.settings).activate presentation tick
    let flags := Flags.replaceConstants {} presentation.constants
    .ok ⟨{ r with entries := r.entries ++ [⟨world, t.state, flags⟩] }, (), t.events ++ [.registered world entity]⟩

/-- give an entity another definition; flags that the host set stay -/
def reload (world : WorldId) (entity : EntityId) (presentation : Presentation) (tick : Nat) (r : Registry) :
    Except Refusal (Turn Registry TickOutput) :=
  r.onEntry world entity fun e =>
    let t := e.presenter.reload presentation tick
    ⟨{ e with presenter := t.state, flags := e.flags.replaceConstants presentation.constants }, t.output, t.events⟩

/-- let an entity go and stop its sounds -/
def remove (world : WorldId) (entity : EntityId) (r : Registry) : Except Refusal (Turn Registry TickOutput) :=
  match r.get? world entity with
  | none => .error (.unknownEntity world entity)
  | some e =>
    let t := e.presenter.teardown
    .ok ⟨{ r with entries := r.entries.filter fun old => !old.isFor world entity }, t.output,
      t.events ++ [.unregistered world entity]⟩

/-- let entities of a world go one after the other, and count them -/
def removeEach (world : WorldId) (r : Registry) : List EntityId → Turn Registry (Nat × TickOutput)
  | [] => ⟨r, (0, {}), []⟩
  | entity :: rest =>
    match r.remove world entity with
    | .error _ => r.removeEach world rest
    | .ok first =>
      let t := first.state.removeEach world rest
      ⟨t.state, (t.output.1 + 1, first.output ++ t.output.2), first.events ++ t.events⟩

/-- let every entity of a world go, in order, and count them -/
def removeAll (world : WorldId) (r : Registry) : Turn Registry (Nat × TickOutput) :=
  r.removeEach world (r.entities world)

def updateFlags {ρ : Type} (world : WorldId) (entity : EntityId) (act : Flags → Flags × ρ) (r : Registry) :
    Except Refusal (Turn Registry ρ) :=
  r.onEntry world entity fun e =>
    let (flags, result) := act e.flags
    ⟨{ e with flags }, result, []⟩

/-- the audio host has finished a voice of a sound of an entity -/
def soundFinished (world : WorldId) (entity : EntityId) (sound : SoundId) (r : Registry) :
    Except Refusal (Turn Registry Bool) :=
  r.onEntry world entity fun e =>
    let (presenter, wasPlaying) := e.presenter.soundFinished sound
    ⟨{ e with presenter }, wasPlaying, []⟩

/-- entries one after the other, those of other worlds left alone; `nothing` is the output of no entry -/
def stepEach {ρ : Type} [Append ρ] (nothing : ρ) (world : WorldId) (act : Entry → Turn Entry ρ) :
    List Entry → Turn (List Entry) ρ
  | [] => ⟨[], nothing, []⟩
  | e :: rest =>
    let others := stepEach nothing world act rest
    if e.world = world then
      let t := act e
      ⟨t.state :: others.state, t.output ++ others.output, t.events ++ others.events⟩
    else ⟨e :: others.state, others.output, others.events⟩

def tick (world : WorldId) (tick : Nat) (host : Host) (r : Registry) : Turn Registry TickOutput :=
  let t := stepEach {} world (Entry.tick tick host) r.entries
  ⟨{ r with entries := t.state }, t.output, t.events⟩

def frame (world : WorldId) (partialTick : Float32) (host : Host) (r : Registry) : Turn Registry FrameOutput :=
  let t := stepEach {} world (Entry.frame partialTick host) r.entries
  ⟨{ r with entries := t.state }, t.output, t.events⟩

end Registry

end Stagecraft
