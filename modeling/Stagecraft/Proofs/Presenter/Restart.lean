/-
Starting over. A reload, or a teardown and another activation, leaves a presenter that nothing a host can see tells from a
new one. Only the names met before are remembered, and they decide nothing but which names are reported again.

- `call_forget`: with the names met forgotten, every call answers and reports the same, and leads to the same.
- `restart_eq_fresh`: from any state that calls lead to, a reload is a fresh start for every later run of calls, and so are a
  teardown and an activation.
-/
import Mathlib.Tactic
import Stagecraft.Proofs.Presenter.Run
import Stagecraft.Proofs.Presenter.Unanswered

namespace Stagecraft.Presenter

/-! ## What a host sees -/

/-- what a host can ask a presenter between calls -/
structure Standing where
  presentation : Option Presentation
  playing : List Voice
  clockCount : Nat
  brightness : LightId → Option Float32

def standing (p : Presenter) : Standing := ⟨p.presentation?, p.playing, p.clockCount, p.brightnessOf?⟩

/-- what a host sees of one call: the answer, the reports other than warnings, and how things stand afterwards -/
structure Exchange where
  answer : Answer
  reports : List Event
  standing : Standing

/-- reports that are no warnings -/
def notices (events : List Event) : List Event := events.filter (·.severity = .debug)

/-- what a host sees of calls, in order -/
def trace (p : Presenter) : List Call → List Exchange
  | [] => []
  | c :: calls =>
    let t := p.call c
    ⟨t.output, notices t.events, t.state.standing⟩ :: t.state.trace calls

/-! ## The names met do not matter -/

/-- the presenter as if it had met no name -/
def forget (p : Presenter) : Presenter := { p with unanswered := { p.unanswered with seen := [] } }

theorem notices_noteAll (u : Unanswered) (names : List String) : notices (u.noteAll names).events = [] := by
  rw [notices, List.filter_eq_nil_iff]
  intro e he
  simp [u.severity_noteAll names e he]

/-- **One call.** A presenter that forgot the names met answers as before, reports as before but for warnings, and comes to
the same state but for the names met. -/
theorem call_forget (p : Presenter) (c : Call) :
    (p.forget.call c).output = (p.call c).output ∧
      notices (p.forget.call c).events = notices (p.call c).events ∧
      (p.forget.call c).state.forget = (p.call c).state.forget := by
  cases c with
  | activate d t =>
    have hstage : p.forget.stage = p.stage := rfl
    simp only [call, activate, hstage]
    split <;> exact ⟨rfl, rfl, rfl⟩
  | tick n scope o =>
    have hstage : p.forget.stage = p.stage := rfl
    simp only [call, tick, hstage]
    split
    · exact ⟨rfl, rfl, rfl⟩
    · simp only [notices_noteAll]
      exact ⟨rfl, trivial, by simp [forget, Unanswered.noteAll_enabled]⟩
  | frame q scope =>
    have hstage : p.forget.stage = p.stage := rfl
    simp only [call, frame, hstage]
    split
    · exact ⟨rfl, rfl, rfl⟩
    · simp only [notices_noteAll]
      exact ⟨rfl, trivial, by simp [forget, Unanswered.noteAll_enabled]⟩
  | _ => exact ⟨rfl, rfl, rfl⟩

/-- presenters that differ at most in the names met -/
def Alike (p q : Presenter) : Prop := p.forget = q.forget

theorem Alike.standing_eq {p q : Presenter} (h : Alike p q) : p.standing = q.standing := by
  change p.forget.standing = q.forget.standing
  rw [h]

theorem Alike.call {p q : Presenter} (h : Alike p q) (c : Call) :
    (p.call c).output = (q.call c).output ∧ notices (p.call c).events = notices (q.call c).events ∧
      Alike (p.call c).state (q.call c).state := by
  obtain ⟨hp1, hp2, hp3⟩ := p.call_forget c
  obtain ⟨hq1, hq2, hq3⟩ := q.call_forget c
  rw [show p.forget = q.forget from h] at hp1 hp2 hp3
  exact ⟨hp1.symm.trans hq1, hp2.symm.trans hq2, hp3.symm.trans hq3⟩

/-- presenters that are alike cannot be told apart by any calls, and stay alike -/
theorem Alike.run {p q : Presenter} (h : Alike p q) (calls : List Call) :
    p.trace calls = q.trace calls ∧ Alike (p.run calls).state (q.run calls).state := by
  induction calls generalizing p q with
  | nil => exact ⟨rfl, h⟩
  | cons c calls ih =>
    obtain ⟨hanswer, hreports, hstate⟩ := h.call c
    obtain ⟨htrace, hend⟩ := ih hstate
    exact ⟨by simp only [trace, hanswer, hreports, hstate.standing_eq, htrace], hend⟩

/-! ## Starting over -/

/-- a reload forgets all but the names met -/
theorem alike_reload {entity : EntityId} {settings : Settings} {p : Presenter} (hp : Reachable entity settings p)
    (d : Presentation) (t : Nat) : Alike (p.reload d t).state ((new entity settings).activate d t).state := by
  simp only [Alike, forget, reload, activate, new, hp.entity_eq, hp.settings_eq, hp.enabled_eq]

/-- and so do a teardown and an activation -/
theorem alike_teardown_activate {entity : EntityId} {settings : Settings} {p : Presenter}
    (hp : Reachable entity settings p) (d : Presentation) (t : Nat) :
    Alike (p.teardown.state.activate d t).state ((new entity settings).activate d t).state := by
  simp only [Alike, forget, teardown, activate, new, hp.entity_eq, hp.settings_eq, hp.enabled_eq]

/-- **Starting over is starting.** After a reload in any state that calls lead to, or a teardown and an activation, a host
sees what it would see of a new presenter that was activated: at once, and with every answer to every later run of calls.
The presenters differ at most in the names met, and the reports at most in warnings. -/
theorem restart_eq_fresh (entity : EntityId) (settings : Settings) (p : Presenter) (hp : Reachable entity settings p)
    (d : Presentation) (t : Nat) (calls : List Call) :
    let fresh := ((new entity settings).activate d t).state
    let reloaded := (p.reload d t).state
    let reactivated := (p.teardown.state.activate d t).state
    (reloaded.standing = fresh.standing ∧ reloaded.trace calls = fresh.trace calls ∧
      Alike (reloaded.run calls).state (fresh.run calls).state) ∧
    reactivated.standing = fresh.standing ∧ reactivated.trace calls = fresh.trace calls ∧
      Alike (reactivated.run calls).state (fresh.run calls).state := by
  intro fresh reloaded reactivated
  have hreload : Alike reloaded fresh := alike_reload hp d t
  have hteardown : Alike reactivated fresh := alike_teardown_activate hp d t
  exact ⟨⟨hreload.standing_eq, hreload.run calls⟩, hteardown.standing_eq, hteardown.run calls⟩

/-- an engine that always runs, and a lamp on a variable that nobody answers -/
def engineAndLamp : Presentation :=
  ⟨[⟨"lamp", [Animation.plain .translation "lamp"]⟩], [⟨"engine", true, false, false, false, [], [], []⟩], [], [], []⟩

/-- a presenter with a running engine, a lamp that was read and a name met starts over -/
theorem restart_eq_fresh_engine :
    let calls := [.activate engineAndLamp 0, .tick 1 (fun _ _ => none) {}]
    let p := ((new ⟨7⟩ {}).run calls).state
    let later : List Call := [.tick 5 (fun _ _ => some 1) {}, .frame 0.5 (fun _ _ => none), .soundFinished ⟨0⟩]
    Reachable ⟨7⟩ {} p ∧ p.playing.length = 1 ∧ p.brightness = [0] ∧ p.unanswered.seen = ["lamp"] ∧
      (p.reload engineAndLamp 4).state.trace later = ((new ⟨7⟩ {}).activate engineAndLamp 4).state.trace later := by
  intro calls p later
  have hp : Reachable ⟨7⟩ {} p := ⟨calls, rfl⟩
  refine ⟨hp, by decide +kernel, by decide +kernel, by decide +kernel, ?_⟩
  exact (restart_eq_fresh ⟨7⟩ {} p hp engineAndLamp 4 later).1.2.1

end Stagecraft.Presenter
