/-
One tick of the sounds of a stage.

A sound plays in a tick if the observer hears it, its gate is open, and it is looping or forced or its gate moved: a
sound that plays once needs an edge, or it would start again on every tick. A looping sound that does not play loses its
oldest voice. A sound that plays starts unless it plays already (a forced one always starts), and every voice of it
takes the volume and the pitch of the tick, the volume muffled by the enclosure around the observer.
-/
import Stagecraft.Observer
import Stagecraft.Presenter.Voice
import Stagecraft.Presenter.Stage

namespace Stagecraft

/-- what a tick of sounds depends on -/
structure Hearing where
  sampling : Sampling
  entity : EntityId
  observer : Observer
  /-- what a muffled volume is multiplied by -/
  attenuation : Float32

namespace LiveSound

/-- the gate of a sound, closed and not asked for while it is not heard -/
def heardGate (h : Hearing) (l : LiveSound) : Evaluation Gate :=
  if h.observer.hears l.sound.interior l.sound.exterior then l.active.gate h.sampling
  else ⟨⟨false, false, false⟩, l.active, []⟩

/-- whether a sound plays under its gate -/
def plays (s : Sound) (g : Gate) : Bool := g.isOpen && (s.looping || s.forced || g.moved)

/-- a sound that does not play -/
def silence (h : Hearing) (id : SoundId) (s : Sound) (playing : List Voice) :
    List Voice × List Cue :=
  if s.looping then
    match Voices.oldest? playing id with
    | some i => (Voices.dropOldest playing id, [.stop h.entity id i.name])
    | none => (playing, [])
  else (playing, [])

/-- a sound that plays is started unless it plays already -/
def start (h : Hearing) (id : SoundId) (s : Sound) (playing : List Voice) :
    List Voice × List Cue :=
  if !s.forced && Voices.has playing id then (playing, [])
  else (playing ++ [{ sound := id, name := s.name, looping := s.looping }], [.start h.entity id s.name s.looping])

/-- the volume that reaches the observer -/
def volumeOf (h : Hearing) (level : Float) : Float32 :=
  let volume := Single.nearest level
  if h.observer.isMuffled then volume * h.attenuation else volume

def tick (h : Hearing) (id : SoundId) (playing : List Voice) (l : LiveSound) :
    Reading (LiveSound × List Voice) Cue :=
  let gate := l.heardGate h
  let l := { l with active := gate.channel }
  if plays l.sound gate.result then
    let (playing, started) := start h id l.sound playing
    let volume := l.volume.level h.sampling
    let pitch := l.pitch.level h.sampling
    let (v, p) := (volumeOf h volume.result, Single.nearest pitch.result)
    ⟨({ l with volume := volume.channel, pitch := pitch.channel }, Voices.setLevels playing id v p),
      started ++ [.update h.entity id v p], gate.asked ++ volume.asked ++ pitch.asked⟩
  else
    let (playing, stopped) := silence h id l.sound playing
    ⟨(l, playing), stopped, gate.asked⟩

/-- one tick of the sounds from a place on -/
def tickAll (h : Hearing) (index : Nat) (playing : List Voice) :
    List LiveSound → Reading (List LiveSound × List Voice) Cue
  | [] => ⟨([], playing), [], []⟩
  | l :: ls =>
    let first := l.tick h (.ofIndex index) playing
    let rest := tickAll h (index + 1) first.state.2 ls
    ⟨(first.state.1 :: rest.state.1, rest.state.2), first.output ++ rest.output, first.asked ++ rest.asked⟩

end LiveSound

end Stagecraft
