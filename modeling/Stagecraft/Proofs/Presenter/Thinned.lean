/-
Runs with frames left out. A frame reads clocks and moves none; all that it leaves behind are the brightnesses that it read and
the names that it met, and neither decides anything but what is read of them next. So a host that renders less sees, in every
call that it still makes, what it would have seen.

- `call_dim`: the brightnesses kept decide nothing.
- `frame_leaves`: a frame leaves nothing else but names met.
- `frames_leave_no_trace`: a run with any of its frames left out, call by call.
-/
import Mathlib.Tactic
import Stagecraft.Proofs.Presenter.Restart

namespace Stagecraft

/-! ## Calls kept and left out -/

namespace Call

def isFrame : Call → Bool
  | .frame .. => true
  | _ => false

/-- a call after which all brightnesses are new, or gone -/
def relights : Call → Bool
  | .activate .. => false
  | .soundFinished _ => false
  | _ => true

end Call

/-- a call of a run, kept or left out; only frames may be left out -/
structure Cut where
  call : Call
  kept : Bool := true
  isFrame_of_left : kept = false → call.isFrame = true

namespace Cut

/-- the calls before anything is left out -/
def whole (cuts : List Cut) : List Call := cuts.map (·.call)

/-- the calls that are kept -/
def rest (cuts : List Cut) : List Call := (cuts.filter (·.kept)).map (·.call)

end Cut

namespace Presenter

/-- one call of a run, its answer, what was reported, and the state after it -/
structure Step where
  call : Call
  answer : Answer
  events : List Event
  after : Presenter

/-- a run, step by step -/
def steps (p : Presenter) : List Call → List Step
  | [] => []
  | c :: calls => ⟨c, (p.call c).output, (p.call c).events, (p.call c).state⟩ :: (p.call c).state.steps calls

/-- of a whole run, the steps of the calls that are kept -/
def keptSteps (p : Presenter) (cuts : List Cut) : List Step :=
  ((cuts.zip (p.steps (Cut.whole cuts))).filter (·.1.kept)).map (·.2)

/-- the same call with the same answer, the same reports but for warnings, and the same state afterwards but for the names met
and, unless the call makes them new, the brightnesses -/
structure Step.Matches (a b : Step) : Prop where
  call : a.call = b.call
  answer : a.answer = b.answer
  reports : notices a.events = notices b.events
  stage : a.after.stage = b.after.stage
  playing : a.after.playing = b.after.playing
  brightness : a.call.relights = true → ∀ light, a.after.brightnessOf? light = b.after.brightnessOf? light

/-! ## Brightnesses decide nothing -/

/-- the presenter as if it had kept no brightness -/
def dim (p : Presenter) : Presenter := { p with brightness := [] }

/-- **One call.** A presenter that kept no brightness answers and reports as before, and comes to the same state but for the
brightnesses. -/
theorem call_dim (p : Presenter) (c : Call) :
    (p.dim.call c).output = (p.call c).output ∧ (p.dim.call c).events = (p.call c).events ∧
      (p.dim.call c).state.dim = (p.call c).state.dim := by
  have hstage : p.dim.stage = p.stage := rfl
  cases c with
  | activate d t =>
    simp only [call, activate, hstage]
    split <;> exact ⟨rfl, rfl, rfl⟩
  | tick n scope o =>
    simp only [call, tick, hstage]
    split <;> exact ⟨rfl, rfl, rfl⟩
  | frame q scope =>
    simp only [call, frame, hstage]
    split <;> exact ⟨rfl, rfl, rfl⟩
  | _ => exact ⟨rfl, rfl, rfl⟩

/-- off stage nothing is lit -/
def Dark (p : Presenter) : Prop := p.stage = none → p.brightness = []

theorem Dark.call {p : Presenter} (h : p.Dark) (c : Call) : (p.call c).state.Dark := by
  cases c with
  | activate d t =>
    simp only [Presenter.call, activate]
    split
    · exact h
    · intro hoff
      cases hoff
  | reload d t => exact fun _ => rfl
  | teardown => exact fun _ => rfl
  | tick n scope o =>
    simp only [Presenter.call, tick]
    split
    · exact h
    · intro hoff
      cases hoff
  | frame q scope =>
    simp only [Presenter.call, frame]
    split
    · exact h
    · next hstage => exact fun hoff => absurd (hstage.symm.trans hoff) (by simp)
  | soundFinished sound => exact h

/-- a call that relights does not look at the brightnesses before it -/
theorem Dark.brightness_call {p : Presenter} (h : p.Dark) (c : Call) (hc : c.relights = true) :
    (p.dim.call c).state.brightness = (p.call c).state.brightness := by
  have hstage : p.dim.stage = p.stage := rfl
  cases c with
  | activate d t => cases hc
  | soundFinished sound => cases hc
  | reload d t => rfl
  | teardown => rfl
  | tick n scope o =>
    simp only [Presenter.call, tick, hstage]
    split
    · next hoff => exact (h hoff).symm
    · rfl
  | frame q scope =>
    simp only [Presenter.call, frame, hstage]
    split
    · next hoff => exact (h hoff).symm
    · rfl

/-! ## Frames leave nothing else -/

/-- presenters that differ at most in the names met and in the brightnesses -/
def AlikeInTheDark (p q : Presenter) : Prop := Alike p.dim q.dim

theorem Alike.dim {p q : Presenter} (h : Alike p q) : AlikeInTheDark p q := congrArg Presenter.dim h

theorem AlikeInTheDark.stage_eq {p q : Presenter} (h : AlikeInTheDark p q) : p.stage = q.stage := by
  have hsame : p.dim.forget.stage = q.dim.forget.stage := by rw [show p.dim.forget = q.dim.forget from h]
  exact hsame

theorem AlikeInTheDark.playing_eq {p q : Presenter} (h : AlikeInTheDark p q) : p.playing = q.playing := by
  have hsame : p.dim.forget.playing = q.dim.forget.playing := by rw [show p.dim.forget = q.dim.forget from h]
  exact hsame

/-- a frame leaves nothing but names met and brightnesses -/
theorem frame_leaves (p : Presenter) (q : Float32) (scope : Scope) : AlikeInTheDark (p.frame q scope).state p := by
  unfold frame
  split
  · rfl
  · simp only [AlikeInTheDark, Alike, forget, dim, Unanswered.noteAll_enabled]

/-- in the dark, presenters that are alike cannot be told apart by any call -/
theorem AlikeInTheDark.call {p q : Presenter} (h : AlikeInTheDark p q) (c : Call) :
    (p.call c).output = (q.call c).output ∧ notices (p.call c).events = notices (q.call c).events ∧
      AlikeInTheDark (p.call c).state (q.call c).state := by
  obtain ⟨hpanswer, hpreports, hpstate⟩ := p.call_dim c
  obtain ⟨hqanswer, hqreports, hqstate⟩ := q.call_dim c
  obtain ⟨hanswer, hreports, hstate⟩ := Alike.call h c
  rw [hpanswer, hqanswer] at hanswer
  rw [hpreports, hqreports] at hreports
  have hdark := hstate.dim
  rw [AlikeInTheDark, hpstate, hqstate] at hdark
  exact ⟨hanswer, hreports, hdark⟩

/-- and after a call that relights, not by their brightnesses either -/
theorem AlikeInTheDark.brightness_call {p q : Presenter} (h : AlikeInTheDark p q) (hp : p.Dark) (hq : q.Dark) (c : Call)
    (hc : c.relights = true) : (p.call c).state.brightness = (q.call c).state.brightness := by
  obtain ⟨-, -, hstate⟩ := Alike.call h c
  have hsame : (p.dim.call c).state.forget.brightness = (q.dim.call c).state.forget.brightness := by
    rw [show (p.dim.call c).state.forget = (q.dim.call c).state.forget from hstate]
  change (p.dim.call c).state.brightness = (q.dim.call c).state.brightness at hsame
  rwa [hp.brightness_call c hc, hq.brightness_call c hc] at hsame

/-! ## Main result -/

theorem matches_of_alikeInTheDark {p q : Presenter} (h : AlikeInTheDark p q) (hp : p.Dark) (hq : q.Dark)
    (cuts : List Cut) :
    List.Forall₂ Step.Matches (p.keptSteps cuts) (q.steps (Cut.rest cuts)) ∧
      AlikeInTheDark (p.run (Cut.whole cuts)).state (q.run (Cut.rest cuts)).state := by
  induction cuts generalizing p q with
  | nil => exact ⟨.nil, h⟩
  | cons cut cuts ih =>
    obtain ⟨c, kept, hleft⟩ := cut
    cases kept with
    | true =>
      obtain ⟨hanswer, hreports, hafter⟩ := h.call c
      obtain ⟨hsteps, hend⟩ := ih hafter (hp.call c) (hq.call c)
      refine ⟨.cons ⟨rfl, hanswer, hreports, hafter.stage_eq, hafter.playing_eq, fun hc light => ?_⟩ hsteps, hend⟩
      have hlit : (p.call c).state.brightness = (q.call c).state.brightness := h.brightness_call hp hq c hc
      simp only [brightnessOf?, hlit]
    | false =>
      -- what is left out is a frame, after which the two are as much alike as before
      cases c with
      | frame partialTick scope =>
        exact ih ((p.frame_leaves partialTick scope).trans h) (hp.call (.frame partialTick scope)) hq
      | _ => exact absurd (hleft rfl) Bool.false_ne_true

/-- **Frames leave no trace.** Leave any frames out of a run of calls on a new presenter. Every call that is kept gives the same
answer and the same reports but for warnings, and leaves the same stage, with every clock and every last spawn on it, and the
same voices; and if it is a tick, a frame, a reload or a teardown, the same brightnesses. At the end of the run, too, the stage
and the voices are the same. -/
theorem frames_leave_no_trace (entity : EntityId) (settings : Settings) (cuts : List Cut) :
    let p := new entity settings
    List.Forall₂ Step.Matches (p.keptSteps cuts) (p.steps (Cut.rest cuts)) ∧
      (p.run (Cut.whole cuts)).state.stage = (p.run (Cut.rest cuts)).state.stage ∧
      (p.run (Cut.whole cuts)).state.playing = (p.run (Cut.rest cuts)).state.playing := by
  intro p
  have hdark : p.Dark := fun _ => rfl
  obtain ⟨hsteps, hend⟩ := matches_of_alikeInTheDark (p := p) (q := p) rfl hdark hdark cuts
  exact ⟨hsteps, hend.stage_eq, hend.playing_eq⟩

/-- a lamp that shines as bright as its variable says -/
def lantern : Presentation := ⟨[⟨"lantern", [Animation.plain .translation "oil"]⟩], [], [], [], []⟩

/-- the brightness of a frame stands until the next tick, here over the report of a finished sound -/
example :
    let bright : Scope := fun _ _ => some 1
    let dull : Scope := fun _ _ => some 0
    let cuts : List Cut := [⟨.activate lantern 0, true, nofun⟩, ⟨.tick 1 bright {}, true, nofun⟩,
      ⟨.frame 0.5 dull, false, fun _ => rfl⟩, ⟨.soundFinished ⟨0⟩, true, nofun⟩, ⟨.tick 2 bright {}, true, nofun⟩]
    ((new ⟨7⟩ {}).keptSteps cuts).map (·.after.brightness) = [[], [1], [0], [1]] ∧
      ((new ⟨7⟩ {}).steps (Cut.rest cuts)).map (·.after.brightness) = [[], [1], [1], [1]] := by
  decide +kernel

end Presenter

end Stagecraft
