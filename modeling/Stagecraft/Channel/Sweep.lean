/-
A sweep goes over the tracks of a channel one after the other.

- an inhibitor, while the channel is not inhibited, inhibits it when its sample passes;
- an activator, while the channel is inhibited, frees it when its sample passes;
- a visibility, while the channel is not inhibited, closes the gate when its sample fails, and nothing after it is read;
- a moving track, while the channel is not inhibited, adds to the sum of the evaluation that uses its kind.

A track that is not read is left as it is and its variable is not asked for.
-/
import Stagecraft.Channel.Track

namespace Stagecraft

/-- how an evaluation uses the moving tracks -/
structure Use (σ : Type) where
  reads : Kind → Bool
  /-- what the sample of a moving track rides on -/
  stacking : σ → Animation Float → Float
  /-- the sum with the value of one more track, at its place in the channel -/
  add : σ → Nat → Animation Float → Float → σ

structure Gate where
  isOpen : Bool
  /-- inhibited when the sweep ended -/
  inhibited : Bool
  /-- whether a visibility that was read moved -/
  moved : Bool
deriving DecidableEq, Repr

/-- how far a sweep has come -/
structure Progress (σ : Type) where
  sum : σ
  inhibited : Bool := false
  moved : Bool := false

/-- the end of a sweep: gate, sum, the channel after it, and the names asked for in order -/
structure Outcome (σ : Type) where
  gate : Gate
  sum : σ
  channel : Channel
  asked : List String

namespace Sweep

variable {σ : Type}

/-- whether a track of a kind is read -/
def reads (use : Use σ) (inhibited : Bool) : Kind → Bool
  | .activator => inhibited
  | .inhibitor | .visibility => !inhibited
  | kind => !inhibited && use.reads kind

/-- what the sample of the next track rides on; gates ride on nothing -/
def stacking (use : Use σ) (sum : σ) (a : Animation Float) : Float :=
  if a.kind.isGate then Float.ofNat 0 else use.stacking sum a

/-- the progress after one sample, and whether the gate is still open -/
def after (use : Use σ) (p : Progress σ) (index : Nat) (a : Animation Float) (s : Sample) : Progress σ × Bool :=
  match a.kind with
  | .inhibitor => ({ p with inhibited := a.passes s.value }, true)
  | .activator => ({ p with inhibited := !a.passes s.value }, true)
  | .visibility => ({ p with moved := p.moved || s.moved }, a.passes s.value)
  | .translation | .rotation | .scaling => ({ p with sum := use.add p.sum index a s.value }, true)

/-- the sweep from the track at `index` on -/
def run (s : Sampling) (use : Use σ) (p : Progress σ) (index : Nat) : Channel → Outcome σ
  | [] => ⟨⟨true, p.inhibited, p.moved⟩, p.sum, [], []⟩
  | t :: rest =>
    if reads use p.inhibited t.animation.kind then
      let (t, sample) := t.sample s (stacking use p.sum t.animation)
      match after use p index t.animation sample with
      | (p, false) => ⟨⟨false, p.inhibited, p.moved⟩, p.sum, t :: rest, [t.animation.source]⟩
      | (p, true) =>
        let o := run s use p (index + 1) rest
        { o with channel := t :: o.channel, asked := t.animation.source :: o.asked }
    else
      let o := run s use p (index + 1) rest
      { o with channel := t :: o.channel }

end Sweep

end Stagecraft
