/-
Ticks and frames of a presenter.

A tick moves clocks: first sounds, then emitters, lights and moving objects, each in order. An emitter spawns when its
gate is open and moved, or, if it spawns on every tick, when its gate is open in a later tick than the last spawn. A
frame reads clocks, lights and moving objects only, and moves nothing. Names without a value are noted in the order in
which they were asked for.
-/
import Stagecraft.Presenter.Basic
import Stagecraft.Presenter.Sounds
import Stagecraft.Variable.Scope

namespace Stagecraft

namespace LiveEmitter

/-- whether an emitter spawns at a tick under its gate -/
def spawns (tick : Nat) (l : LiveEmitter) (g : Gate) : Bool :=
  g.isOpen && (g.moved || (l.emitter.everyTick && l.lastSpawn < tick))

def tick (s : Sampling) (entity : EntityId) (tick index : Nat) (l : LiveEmitter) : Reading LiveEmitter Spawn :=
  let gate := l.active.gate s
  let l := { l with active := gate.channel }
  if l.spawns tick gate.result then
    ⟨{ l with lastSpawn := tick }, [⟨entity, .ofIndex index, l.emitter.spawnCount⟩], gate.asked⟩
  else ⟨l, [], gate.asked⟩

end LiveEmitter

namespace Presenter

/-- the names that have no value -/
def unresolved (s : Sampling) (asked : List String) : List String := asked.filter fun name => (s.resolve name).isNone

/-- one simulation tick -/
def tick (tick : Nat) (scope : Scope) (observer : Observer) (p : Presenter) : Turn Presenter TickOutput :=
  match p.stage with
  | none => ⟨p, {}, []⟩
  | some stage =>
    let s : Sampling := ⟨.tick, scope 0⟩
    let sounds := LiveSound.tickAll ⟨s, p.entity, observer, p.settings.enclosedAttenuation⟩ 0 p.playing stage.sounds
    let emitters := Reading.all (LiveEmitter.tick s p.entity tick) 0 stage.emitters
    let lights := stage.readLights s
    let objects := stage.readObjects s
    let noted := p.unanswered.noteAll (unresolved s (sounds.asked ++ emitters.asked ++ lights.asked ++ objects.asked))
    let stage := { stage with
      sounds := sounds.state.1
      emitters := emitters.state
      lights := lights.state
      objects := objects.state }
    ⟨{ p with
        stage := some stage
        playing := sounds.state.2
        brightness := lights.output
        unanswered := noted.state },
      ⟨sounds.output, emitters.output⟩, noted.events⟩

/-- one render frame -/
def frame (partialTick : Float32) (scope : Scope) (p : Presenter) : Turn Presenter FrameOutput :=
  match p.stage with
  | none => ⟨p, {}, []⟩
  | some stage =>
    let s : Sampling := ⟨.frame, scope partialTick⟩
    let lights := stage.readLights s
    let objects := stage.readObjects s
    let noted := p.unanswered.noteAll (unresolved s (lights.asked ++ objects.asked))
    ⟨{ p with brightness := lights.output, unanswered := noted.state },
      { lights := lights.output.zipIdx.map fun (b, index) => ⟨p.entity, .ofIndex index, b⟩
        poses := objects.output.zipIdx.map fun (m, index) => ⟨p.entity, .ofIndex index, m⟩ },
      noted.events⟩

end Presenter

end Stagecraft
