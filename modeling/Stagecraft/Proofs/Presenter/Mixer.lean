/-
The audio log and the voices. A mixer knows nothing but the cues that a presenter gives and the reports that the audio
host sends back; replaying them in order, it holds the very voices that the presenter holds.

- `replay_log`: after any calls on a new presenter, its voices are those of the replayed log. Every stop in the log is for
  a voice that is live at that point and carries its name, every update is for a sound that is live at that point, and a
  log that ends in a reload or a teardown leaves no voice.
-/
import Mathlib.Tactic
import Stagecraft.Proofs.Presenter.Run

namespace Stagecraft

/-! ## The mixer -/

/-- what passes between a presenter and the audio host -/
inductive Message where
  | cue (cue : Cue)
  /-- the host has finished a voice -/
  | finished (sound : SoundId)
deriving DecidableEq

namespace Mixer

/-- the live voices after one message -/
def hear (live : List Voice) : Message → List Voice
  | .cue (.start _ sound name looping) => live ++ [{ sound, name, looping, volume := 1, pitch := 1 }]
  | .cue (.stop _ sound _) => live.eraseP (·.sound = sound)
  | .cue (.update _ sound volume pitch) =>
    live.map fun v => if v.sound = sound then { v with volume, pitch } else v
  | .finished sound => live.eraseP (·.sound = sound)

/-- the live voices after messages in order, none before the first -/
def replay (messages : List Message) : List Voice := messages.foldl hear []

/-- a stop is for a live voice and carries its name, an update is for a sound with a live voice -/
def Fits (live : List Voice) : Message → Prop
  | .cue (.stop _ sound name) => ∃ v, live.find? (·.sound = sound) = some v ∧ v.name = name
  | .cue (.update _ sound _ _) => ∃ v ∈ live, v.sound = sound
  | _ => True

/-- messages lead from live voices to others, and each of them fits where it stands -/
structure Leads (live : List Voice) (messages : List Message) (after : List Voice) : Prop where
  heard : messages.foldl hear live = after
  fits : ∀ pre m post, messages = pre ++ m :: post → Fits (pre.foldl hear live) m

theorem Leads.nil (live : List Voice) : Leads live [] live := by
  refine ⟨rfl, fun pre m post h => ?_⟩
  simp at h

theorem Leads.cons {live after : List Voice} {m : Message} {messages : List Message} (hm : Fits live m)
    (h : Leads (hear live m) messages after) : Leads live (m :: messages) after := by
  refine ⟨h.heard, fun pre m' post he => ?_⟩
  cases pre with
  | nil =>
    obtain ⟨rfl, -⟩ := List.cons.inj he
    exact hm
  | cons first pre =>
    obtain ⟨rfl, hrest⟩ := List.cons.inj he
    exact h.fits pre m' post hrest

theorem Leads.tail {live after : List Voice} {m : Message} {messages : List Message}
    (h : Leads live (m :: messages) after) : Leads (hear live m) messages after :=
  ⟨h.heard, fun pre m' post he => h.fits (m :: pre) m' post (by rw [he]; rfl)⟩

theorem Leads.append {live mid after : List Voice} {first rest : List Message} (h1 : Leads live first mid)
    (h2 : Leads mid rest after) : Leads live (first ++ rest) after := by
  induction first generalizing live with
  | nil =>
    obtain rfl : live = mid := h1.heard
    exact h2
  | cons m first ih => exact Leads.cons (h1.fits [] m first rfl) (ih h1.tail)

end Mixer

/-! ## The log -/

namespace Presenter

/-- what passes between a presenter and the audio host in one call with an answer -/
def messages (c : Call) (answer : Answer) : List Message :=
  match c with
  | .soundFinished sound => [.finished sound]
  | _ => answer.audio.map .cue

/-- what passes between a presenter and the audio host in calls, in order -/
def log (p : Presenter) : List Call → List Message
  | [] => []
  | c :: calls => messages c (p.call c).output ++ (p.call c).state.log calls

end Presenter

/-! ## Each cue fits -/

open Mixer

namespace Voices

theorem leads_stopAll (entity : EntityId) (playing : List Voice) :
    Leads playing ((stopAll entity playing).map .cue) [] := by
  induction playing with
  | nil => exact Leads.nil []
  | cons v playing ih =>
    -- the first voice of the list is the oldest of its sound, so its stop ends it and no other
    have hfind : (v :: playing).find? (·.sound = v.sound) = some v := by simp
    have hheard : hear (v :: playing) (.cue (.stop entity v.sound v.name)) = playing := by simp [hear]
    refine Leads.cons ⟨v, hfind, rfl⟩ ?_
    rw [hheard]
    exact ih

theorem mem_of_has {playing : List Voice} {sound : SoundId} (h : has playing sound = true) :
    ∃ v ∈ playing, v.sound = sound := by
  simpa [has] using h

end Voices

namespace LiveSound

theorem leads_silence (h : Hearing) (id : SoundId) (s : Sound) (playing : List Voice) :
    Leads playing ((silence h id s playing).2.map .cue) (silence h id s playing).1 := by
  unfold silence
  split_ifs with hl
  · cases ho : Voices.oldest? playing id with
    | none => exact Leads.nil playing
    | some v => exact Leads.cons ⟨v, ho, rfl⟩ (Leads.nil _)
  · exact Leads.nil playing

theorem leads_start (h : Hearing) (id : SoundId) (s : Sound) (playing : List Voice) :
    Leads playing ((start h id s playing).2.map .cue) (start h id s playing).1 := by
  unfold start
  split_ifs
  · exact Leads.nil playing
  · exact Leads.cons trivial (Leads.nil _)

/-- a sound that was started, or needed no start, has a live voice -/
theorem exists_of_start (h : Hearing) (id : SoundId) (s : Sound) (playing : List Voice) :
    ∃ v ∈ (start h id s playing).1, v.sound = id := by
  unfold start
  split_ifs with hs
  · simp only [Bool.and_eq_true] at hs
    exact Voices.mem_of_has hs.2
  · exact ⟨_, List.mem_append_right _ (List.mem_singleton_self _), rfl⟩

theorem leads_tick (h : Hearing) (id : SoundId) (playing : List Voice) (l : LiveSound) :
    Leads playing ((l.tick h id playing).output.map .cue) (l.tick h id playing).state.2 := by
  unfold tick
  simp only
  split_ifs
  · rw [List.map_append]
    exact (leads_start h id l.sound playing).append
      (Leads.cons (exists_of_start h id l.sound playing) (Leads.nil _))
  · exact leads_silence h id l.sound playing

theorem leads_tickAll (h : Hearing) (index : Nat) (playing : List Voice) (ls : List LiveSound) :
    Leads playing ((tickAll h index playing ls).output.map .cue) (tickAll h index playing ls).state.2 := by
  induction ls generalizing index playing with
  | nil => exact Leads.nil playing
  | cons l ls ih =>
    simp only [tickAll, List.map_append]
    exact (leads_tick h _ playing l).append (ih _ _)

end LiveSound

namespace Presenter

/-- **One call.** The messages of a call lead from the voices before it to the voices after it. -/
theorem leads_call (p : Presenter) (c : Call) :
    Leads p.playing (messages c (p.call c).output) (p.call c).state.playing := by
  cases c with
  | activate d t =>
    simp only [call, activate]
    split <;> exact Leads.nil p.playing
  | reload d t => exact Voices.leads_stopAll p.entity p.playing
  | teardown => exact Voices.leads_stopAll p.entity p.playing
  | tick n scope o =>
    simp only [call, tick]
    split
    · exact Leads.nil p.playing
    · exact LiveSound.leads_tickAll _ 0 p.playing _
  | frame q scope =>
    simp only [call, frame]
    split <;> exact Leads.nil p.playing
  | soundFinished sound => exact Leads.cons trivial (Leads.nil _)

theorem leads_run (p : Presenter) (calls : List Call) :
    Leads p.playing (p.log calls) (p.run calls).state.playing := by
  induction calls generalizing p with
  | nil => exact Leads.nil p.playing
  | cons c calls ih => exact (p.leads_call c).append (ih _)

/-- **The log keeps the voices.** Whatever the calls on a new presenter, its voices are those that a mixer holds after the
log of the calls, element by element and in order; every message of the log fits the voices live at that point; and a log
that ends in a reload or a teardown leaves no voice live. -/
theorem replay_log (entity : EntityId) (settings : Settings) (calls : List Call) :
    ((new entity settings).run calls).state.playing = replay ((new entity settings).log calls) ∧
    (∀ pre m post, (new entity settings).log calls = pre ++ m :: post → Fits (replay pre) m) ∧
    (∀ d t, replay ((new entity settings).log (calls ++ [.reload d t])) = []) ∧
    replay ((new entity settings).log (calls ++ [.teardown])) = [] := by
  have h : ∀ calls, Leads [] ((new entity settings).log calls) ((new entity settings).run calls).state.playing :=
    (new entity settings).leads_run
  refine ⟨(h calls).heard.symm, (h calls).fits, fun d t => ?_, ?_⟩
  · refine (h (calls ++ [.reload d t])).heard.trans ?_
    rw [run_snoc_state]
    rfl
  · refine (h (calls ++ [.teardown])).heard.trans ?_
    rw [run_snoc_state]
    rfl

/-- an engine that always runs, and a horn that sounds over and over again -/
def engineAndHorn : Presentation :=
  ⟨[], [⟨"engine", true, false, false, false, [], [], []⟩, ⟨"horn", false, true, false, false, [], [], []⟩], [], [], []⟩

/-- two ticks leave one engine and two horns; a horn that is finished in between leaves the newer one, and the stop of the
teardown finds it -/
theorem replay_log_horn :
    let p := new ⟨7⟩ {}
    let calls := [.activate engineAndHorn 0, .tick 1 (fun _ _ => none) {}, .tick 2 (fun _ _ => none) {},
      .soundFinished ⟨1⟩, .teardown]
    let before : List Message := [.cue (.start ⟨7⟩ ⟨0⟩ "engine" true), .cue (.update ⟨7⟩ ⟨0⟩ 1 1),
      .cue (.start ⟨7⟩ ⟨1⟩ "horn" false), .cue (.update ⟨7⟩ ⟨1⟩ 1 1), .cue (.update ⟨7⟩ ⟨0⟩ 1 1),
      .cue (.start ⟨7⟩ ⟨1⟩ "horn" false), .cue (.update ⟨7⟩ ⟨1⟩ 1 1), .finished ⟨1⟩, .cue (.stop ⟨7⟩ ⟨0⟩ "engine")]
    p.log calls = before ++ .cue (.stop ⟨7⟩ ⟨1⟩ "horn") :: [] ∧
      Fits (replay before) (.cue (.stop ⟨7⟩ ⟨1⟩ "horn")) ∧ replay (p.log calls) = [] := by
  intro p calls before
  have hlog : p.log calls = before ++ .cue (.stop ⟨7⟩ ⟨1⟩ "horn") :: [] := by decide +kernel
  obtain ⟨-, hfits, -⟩ := replay_log ⟨7⟩ {} calls
  refine ⟨hlog, hfits before _ [] hlog, ?_⟩
  exact (replay_log ⟨7⟩ {} calls.dropLast).2.2.2

end Presenter

end Stagecraft
