/-
Names without a value, reported once. The variables of the tracks that a call reads and that have no answer in it are missed. A
presenter remembers the names that were ever missed, each where it was missed first, through reloads and teardowns as well, and
reports each of them once as it is remembered.

- `Presenter.tracksRead`, `missed`, `missedIn`: what a call reads, what it misses, and what a run misses.
- `call_notes`, `run_notes`: a call, and a run, meets the names that it misses and reports nothing else as a warning.
- `call_reporting`: with reporting on or off, all else is the same.
- `reports_once`: any run.
-/
import Stagecraft.Proofs.Presenter.Asked
import Stagecraft.Proofs.Presenter.NoEdge
import Stagecraft.Proofs.Presenter.Restart

namespace Stagecraft

/-! ## What is missed -/

/-- the answers that a call gives -/
def Call.lookup : Call → String → Option Float
  | .tick _ scope _ => scope 0
  | .frame q scope => scope q
  | _ => fun _ => none

namespace Presenter

/-- the tracks that a call reads, in order -/
def tracksRead (p : Presenter) : Call → List Track
  | .tick _ scope o => (p.stage.map (·.tracksTicked (p.hearing scope o))).getD []
  | .frame q scope => (p.stage.map (·.tracksShown ⟨.frame, scope q⟩)).getD []
  | _ => []

/-- the variables of the tracks that a call reads and that have no answer in it, in order -/
def missed (p : Presenter) (c : Call) : List String := unresolved ⟨.tick, c.lookup⟩ (askedFor (p.tracksRead c))

/-- the names that a run misses, call by call -/
def missedIn (p : Presenter) : List Call → List String
  | [] => []
  | c :: calls => p.missed c ++ (p.call c).state.missedIn calls

theorem mem_missed (p : Presenter) (c : Call) (name : String) :
    name ∈ p.missed c ↔ ∃ t ∈ p.tracksRead c, t.animation.source = name ∧ Unknown c.lookup name := by
  rw [missed, mem_unresolved]
  simp only [Sampling.resolve_eq_none_iff]

theorem mem_missedIn (p : Presenter) (calls : List Call) (name : String) :
    name ∈ p.missedIn calls ↔
      ∃ before c after, calls = before ++ c :: after ∧ name ∈ (p.run before).state.missed c := by
  induction calls generalizing p with
  | nil => simp [missedIn]
  | cons c calls ih =>
    rw [missedIn, List.mem_append, ih]
    constructor
    · rintro (hnow | ⟨before, c', after, rfl, hlater⟩)
      · exact ⟨[], c, calls, rfl, hnow⟩
      · exact ⟨c :: before, c', after, rfl, hlater⟩
    · rintro ⟨before, c', after, hcalls, hmissed⟩
      cases before with
      | nil =>
        obtain ⟨rfl, rfl⟩ := List.cons.inj hcalls
        exact .inl hmissed
      | cons first before =>
        obtain ⟨rfl, rfl⟩ := List.cons.inj hcalls
        exact .inr ⟨before, c', after, rfl, hmissed⟩

/-! ## Notes -/

/-- reports that are warnings -/
def warnings (events : List Event) : List Event := events.filter (·.severity = .warn)

theorem warnings_noteAll (u : Unanswered) (names : List String) : warnings (u.noteAll names).events = (u.noteAll names).events := by
  rw [warnings, List.filter_eq_self]
  intro e he
  simp [u.severity_noteAll names e he]

/-- **One call.** It meets the names that it misses, and reports nothing else as a warning. -/
theorem call_notes (p : Presenter) (c : Call) :
    (p.call c).state.unanswered = (p.unanswered.noteAll (p.missed c)).state ∧
      warnings (p.call c).events = (p.unanswered.noteAll (p.missed c)).events := by
  cases c with
  | activate d n =>
    simp only [call, activate]
    split <;> exact ⟨rfl, rfl⟩
  | teardown =>
    refine ⟨rfl, ?_⟩
    simp only [call, teardown]
    split <;> rfl
  | reload d n | soundFinished sound => exact ⟨rfl, rfl⟩
  | tick n scope o =>
    cases hp : p.stage with
    | none =>
      simp only [call, tick, hp, missed, tracksRead]
      exact ⟨rfl, rfl⟩
    | some stage =>
      have hmissed : p.missed (.tick n scope o) =
          unresolved ⟨.tick, scope 0⟩ (askedFor (stage.tracksTicked (p.hearing scope o))) := by
        simp only [missed, tracksRead, hp]
        rfl
      rw [hmissed, ← stage.asked_ticked (p.hearing scope o) p.playing p.entity n]
      simp only [call, tick, hp]
      exact ⟨rfl, warnings_noteAll _ _⟩
  | frame q scope =>
    cases hp : p.stage with
    | none =>
      simp only [call, frame, hp, missed, tracksRead]
      exact ⟨rfl, rfl⟩
    | some stage =>
      have hmissed : p.missed (.frame q scope) =
          unresolved ⟨.frame, scope q⟩ (askedFor (stage.tracksShown ⟨.frame, scope q⟩)) := by
        simp only [missed, tracksRead, hp]
        rfl
      rw [hmissed, ← stage.asked_shown]
      simp only [call, frame, hp]
      exact ⟨trivial, warnings_noteAll _ _⟩

/-- **Any calls.** They meet the names that they miss, one after the other. -/
theorem run_notes (p : Presenter) (calls : List Call) :
    (p.run calls).state.unanswered = (p.unanswered.noteAll (p.missedIn calls)).state ∧
      warnings (p.run calls).events = (p.unanswered.noteAll (p.missedIn calls)).events := by
  induction calls generalizing p with
  | nil => exact ⟨rfl, rfl⟩
  | cons c calls ih =>
    obtain ⟨hstate, hevents⟩ := p.call_notes c
    obtain ⟨hlater, hreported⟩ := ih (p.call c).state
    obtain ⟨hall, hreports⟩ := p.unanswered.noteAll_append (p.missed c) ((p.call c).state.missedIn calls)
    rw [hstate] at hlater hreported
    rw [missedIn, hall, hreports, ← hlater, ← hreported, ← hevents, run_cons, warnings, List.filter_append]
    exact ⟨rfl, rfl⟩

/-! ## With reporting on or off -/

/-- the presenter with its reporting turned on or off -/
def reporting (b : Bool) (p : Presenter) : Presenter :=
  { p with settings := { p.settings with logUnknown := b }, unanswered := { p.unanswered with enabled := b } }

/-- **One call.** It answers and reports the same, but for warnings, and leads to the same. -/
theorem call_reporting (b : Bool) (p : Presenter) (c : Call) :
    ((p.reporting b).call c).output = (p.call c).output ∧
      notices ((p.reporting b).call c).events = notices (p.call c).events ∧
      ((p.reporting b).call c).state = (p.call c).state.reporting b := by
  have hstage : (p.reporting b).stage = p.stage := rfl
  cases c with
  | activate d t =>
    simp only [call, activate, hstage]
    split <;> exact ⟨rfl, rfl, rfl⟩
  | tick n scope o =>
    simp only [call, tick, hstage]
    split
    · exact ⟨rfl, rfl, rfl⟩
    · simp only [notices_noteAll]
      exact ⟨rfl, trivial, by simp [reporting, Unanswered.noteAll_with_enabled]⟩
  | frame q scope =>
    simp only [call, frame, hstage]
    split
    · exact ⟨rfl, rfl, rfl⟩
    · simp only [notices_noteAll]
      exact ⟨rfl, trivial, by simp [reporting, Unanswered.noteAll_with_enabled]⟩
  | _ => exact ⟨rfl, rfl, rfl⟩

theorem trace_reporting (b : Bool) (p : Presenter) (calls : List Call) :
    (p.reporting b).trace calls = p.trace calls ∧ ((p.reporting b).run calls).state = (p.run calls).state.reporting b := by
  induction calls generalizing p with
  | nil => exact ⟨rfl, rfl⟩
  | cons c calls ih =>
    obtain ⟨hanswer, hreports, hstate⟩ := p.call_reporting b c
    obtain ⟨htrace, hend⟩ := ih (p.call c).state
    refine ⟨?_, ?_⟩
    · simp only [trace, hanswer, hreports, hstate, htrace]
      rfl
    · rw [run_cons, run_cons, hstate]
      exact hend

/-! ## Any run -/

/-- **Reported once.** After any calls, a presenter remembers as unknown the variables of the tracks that a call so far has read and
for which the call had no value or a NaN, each once and in the order in which they were first missed. With reporting on, the
warnings are one for each of them, in that order and all different; with reporting off there is none. And with the one or the other
setting a host sees the same answers, other reports and standing after every call, and the same names are remembered. -/
theorem reports_once (entity : EntityId) (settings : Settings) (calls : List Call) :
    let p := new entity settings
    let t := p.run calls
    let seen := t.state.unanswered.seen
    (∀ name, name ∈ seen ↔ ∃ before c after, calls = before ++ c :: after ∧
      ∃ track ∈ (p.run before).state.tracksRead c, track.animation.source = name ∧ Unknown c.lookup name) ∧
    seen.Nodup ∧ seen = (p.missedIn calls).eraseDups ∧
    (warnings t.events = if settings.logUnknown then seen.map .unanswered else []) ∧ (warnings t.events).Nodup ∧
    ∀ b, let other := new entity { settings with logUnknown := b }
      other.trace calls = p.trace calls ∧ (other.run calls).state.unanswered.seen = seen := by
  intro p t seen
  obtain ⟨hstate, hevents⟩ := p.run_notes calls
  have hseen : seen = (p.missedIn calls).eraseDups :=
    (congrArg Unanswered.seen hstate).trans (Unanswered.seen_noteAll rfl _)
  have hnodup : seen.Nodup := by
    rw [show seen = _ from congrArg Unanswered.seen hstate]
    exact Unanswered.nodup_noteAll List.nodup_nil _
  have hwarnings : warnings t.events = if settings.logUnknown then seen.map .unanswered else [] := by
    rw [hevents]
    split_ifs with hlog
    · rw [show seen = _ from congrArg Unanswered.seen hstate, ← Unanswered.reported_noteAll hlog]
      rfl
    · exact Unanswered.silent_noteAll (Bool.eq_false_iff.2 hlog) _
  refine ⟨fun name => ?_, hnodup, hseen, hwarnings, ?_, fun b => ?_⟩
  · rw [hseen, List.mem_eraseDups, mem_missedIn]
    simp only [mem_missed]
  · rw [hwarnings]
    split_ifs
    · exact hnodup.map fun _ _ => Event.unanswered.inj
    · exact List.nodup_nil
  · obtain ⟨htrace, hend⟩ := p.trace_reporting b calls
    exact ⟨htrace, congrArg (·.unanswered.seen) hend⟩

/-- a lamp that nothing drives is reported once, through a frame and a reload -/
example :
    let lamp : Presentation := ⟨[⟨"lamp", [Animation.plain .translation "bogus"]⟩], [], [], [], []⟩
    let empty : Scope := fun _ _ => none
    warnings ((new ⟨7⟩ {}).run
      [.activate lamp 0, .tick 1 empty {}, .frame 0.5 empty, .reload lamp 2, .tick 3 empty {}]).events =
        [.unanswered "bogus"] := by
  decide +kernel

end Presenter

end Stagecraft
