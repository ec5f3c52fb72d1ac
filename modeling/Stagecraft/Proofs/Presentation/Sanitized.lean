/-
Sanitizing. Over the list of all channels it says one thing: a channel without a faulty animation stays as it is, and any other is
emptied and reported, once and in order, with the first fault in it. Beside the channels nothing changes, and what is left has
nothing to report.

- `channels_sanitized`, `bare_sanitized`: what becomes of the channels, and of everything else.
- `rejections_eq`: the reports are those on the channels, one after the other.
- `sanitized_sanitized`, `rejections_sanitized`: a sanitized presentation comes back as it is, and without a report.
- `sanitizes_by_channel`: all of it, with the warnings.
-/
import Mathlib.Tactic
import Stagecraft.Presentation.Channels
import Stagecraft.Presentation.Text

namespace Stagecraft

/-! ## One channel -/

/-- what is kept once is kept -/
theorem keepValid_keepValid (as : List (Animation Float)) : keepValid (keepValid as) = keepValid as := by
  by_cases hfault : (firstFault? as).isSome = true
  · have hempty : keepValid as = [] := if_pos hfault
    rw [hempty]
    rfl
  · have hsame : keepValid as = as := if_neg hfault
    rw [hsame, hsame]

namespace ListedChannel

variable (c : ListedChannel)

/-- the channel after sanitizing -/
def kept : ListedChannel := if c.isFaulty then c.emptied else c

/-- the report on the channel -/
def report? : Option Rejection := rejection? c.owner c.role c.animations

theorem isSome_firstFault? : (firstFault? c.animations).isSome = c.isFaulty := by
  rw [firstFault?, isFaulty, Bool.eq_iff_iff, List.findSome?_isSome_iff, List.any_eq_true]
  refine exists_congr fun a => and_congr_right fun _ => ?_
  rw [Bool.not_eq_true', ← Bool.not_eq_true, a.isValid_iff, ← Option.not_isSome_iff_eq_none, not_not]

/-- a channel is kept as its list is -/
theorem keepValid_eq : { c with animations := keepValid c.animations } = c.kept := by
  rw [keepValid, isSome_firstFault?, kept]
  split_ifs <;> rfl

theorem isFaulty_kept : c.kept.isFaulty = false := by
  unfold kept
  split_ifs with h
  · rfl
  · exact Bool.eq_false_iff.2 h

theorem report?_eq_none_iff : c.report? = none ↔ c.isFaulty = false := by
  rw [report?, rejection?, Option.map_eq_none_iff, ← c.isSome_firstFault?, ← Bool.not_eq_true, Option.not_isSome_iff_eq_none]

/-- a report tells the channel, and the fault of the first animation in it that has one -/
structure Reports (c : ListedChannel) (r : Rejection) : Prop where
  owner : r.owner = c.owner
  role : r.role = c.role
  first : ∃ before a after, c.animations = before ++ a :: after ∧ (∀ b ∈ before, b.fault? = none) ∧ a.fault? = some r.fault

theorem reports_of_report? {r : Rejection} (h : c.report? = some r) : c.Reports r := by
  obtain ⟨fault, hfault, rfl⟩ := Option.map_eq_some_iff.1 h
  obtain ⟨before, a, after, hsplit, hlast, hbefore⟩ := List.findSome?_eq_some_iff.1 hfault
  exact ⟨rfl, rfl, before, a, after, hsplit, hbefore, hlast⟩

end ListedChannel

/-- channels that are gone over are reported once if they are faulty, in their order -/
theorem reports_filterMap (cs : List ListedChannel) :
    List.Forall₂ ListedChannel.Reports (cs.filter (·.isFaulty)) (cs.filterMap (·.report?)) := by
  induction cs with
  | nil => exact .nil
  | cons c cs ih =>
    cases hfaulty : c.isFaulty with
    | false =>
      rw [List.filter_cons_of_neg (by rw [hfaulty]; exact Bool.false_ne_true),
        List.filterMap_cons_none (c.report?_eq_none_iff.2 hfaulty)]
      exact ih
    | true =>
      have hreport : c.report? ≠ none := fun hnone =>
        Bool.false_ne_true ((c.report?_eq_none_iff.1 hnone).symm.trans hfaulty)
      obtain ⟨r, hr⟩ := Option.ne_none_iff_exists'.1 hreport
      rw [List.filter_cons_of_pos hfaulty, List.filterMap_cons_some hr]
      exact .cons (c.reports_of_report? hr) ih

/-! ## One presentation -/

theorem Light.reports_eq : (fun l : Light => l.channels.filterMap (·.report?)) = Light.rejections := by
  funext l
  rw [rejections, channels, List.filterMap_eq_flatMap_toList]
  simp [ListedChannel.report?]

theorem Sound.reports_eq : (fun s : Sound => s.channels.filterMap (·.report?)) = Sound.rejections := by
  funext s
  rw [rejections, channels, List.filterMap_eq_flatMap_toList]
  simp [ListedChannel.report?]

theorem Emitter.reports_eq (e : Emitter) (index : Nat) :
    (e.channels index).filterMap (·.report?) = e.rejections index := by
  rw [rejections, channels, List.filterMap_eq_flatMap_toList]
  simp [ListedChannel.report?]

theorem MovingObject.reports_eq :
    (fun o : MovingObject => o.channels.filterMap (·.report?)) = MovingObject.rejections := by
  funext o
  rw [rejections, channels, List.filterMap_eq_flatMap_toList]
  simp [ListedChannel.report?]

namespace Presentation

variable (p : Presentation)

/-- channels are kept one by one -/
theorem channels_sanitized : p.sanitized.channels = p.channels.map ListedChannel.kept := by
  simp only [channels, sanitized, List.map_append, List.map_flatMap, List.flatMap_map, List.zipIdx_map, Prod.map,
    Light.channels, Sound.channels, Emitter.channels, MovingObject.channels, Light.sanitized, Sound.sanitized,
    Emitter.sanitized, MovingObject.sanitized, List.map_cons, List.map_nil, ← ListedChannel.keepValid_eq, id]

/-- nothing but channels changes -/
theorem bare_sanitized : p.sanitized.bare = p.bare := by
  simp only [bare, sanitized, List.map_map, Function.comp_def, Light.sanitized, Sound.sanitized, Emitter.sanitized,
    MovingObject.sanitized]

/-- the reports are those on the channels -/
theorem rejections_eq : p.rejections = p.channels.filterMap (·.report?) := by
  simp only [rejections, channels, List.filterMap_append, List.filterMap_flatMap, Light.reports_eq, Sound.reports_eq,
    Emitter.reports_eq, MovingObject.reports_eq]

/-- every animation that is left is one that a pack may hold -/
theorem all_isValid_sanitized : p.sanitized.animations.all Animation.isValid = true := by
  rw [animations, channels_sanitized, List.all_eq_true]
  intro a ha
  obtain ⟨_, hkept, ha⟩ := List.mem_flatMap.1 ha
  obtain ⟨c, -, rfl⟩ := List.mem_map.1 hkept
  have hunfaulty := List.any_eq_false.1 c.isFaulty_kept a ha
  simpa using hunfaulty

/-- sanitized once is sanitized for good -/
theorem sanitized_sanitized : p.sanitized.sanitized = p.sanitized := by
  have hlight : ∀ l : Light, l.sanitized.sanitized = l.sanitized := fun l => by
    simp only [Light.sanitized, keepValid_keepValid]
  have hsound : ∀ s : Sound, s.sanitized.sanitized = s.sanitized := fun s => by
    simp only [Sound.sanitized, keepValid_keepValid]
  have hemitter : ∀ e : Emitter, e.sanitized.sanitized = e.sanitized := fun e => by
    simp only [Emitter.sanitized, keepValid_keepValid]
  have hobject : ∀ o : MovingObject, o.sanitized.sanitized = o.sanitized := fun o => by
    simp only [MovingObject.sanitized, keepValid_keepValid]
  simp only [sanitized, List.map_map, Function.comp_def, hlight, hsound, hemitter, hobject]

theorem rejections_sanitized : p.sanitized.rejections = [] := by
  rw [rejections_eq, channels_sanitized, List.filterMap_map, List.filterMap_eq_nil_iff]
  intro c _
  exact c.kept.report?_eq_none_iff.2 c.isFaulty_kept

theorem sanitize_sanitized : p.sanitized.sanitize = ⟨p.sanitized, [], []⟩ := by
  simp only [sanitize, rejectionEvents, sanitized_sanitized, rejections_sanitized, List.map_nil]

/-! ## Main result -/

/-- **Sanitizing by channel.** Of every presentation, a channel all of whose animations are valid is left as it is, and one with a
faulty animation is emptied; nothing else changes, so that every animation that is left is valid. The reports are one for every
channel with a faulty animation, in the order lights, sounds (active, volume, pitch), emitters, moving objects, each with the owner
of the channel and the fault of the first faulty animation in it; and there is one warning for every report, in the same order.
Sanitizing what came out once more changes nothing, and reports and logs nothing. -/
theorem sanitizes_by_channel (p : Presentation) :
    let t := p.sanitize
    t.state.channels = p.channels.map (fun c => if c.animations.all Animation.isValid then c else c.emptied) ∧
      t.state.bare = p.bare ∧ t.state.animations.all Animation.isValid = true ∧
      List.Forall₂ ListedChannel.Reports (p.channels.filter fun c => !c.animations.all Animation.isValid) t.output ∧
      t.events.map (fun e => (e.severity, e.message)) = t.output.map (fun r =>
        (.warn, "rejecting " ++ r.role.name ++ " animations of " ++ r.owner ++ ": " ++ r.fault.message ++
          " - channel falls back to no animations")) ∧
      t.state.sanitize = ⟨t.state, [], []⟩ := by
  intro t
  have hfaulty : ∀ c : ListedChannel, c.isFaulty = !c.animations.all Animation.isValid := fun c => by
    rw [ListedChannel.isFaulty, List.not_all_eq_any_not]
  have hkept : ListedChannel.kept = fun c => if c.animations.all Animation.isValid then c else c.emptied := by
    funext c
    rw [ListedChannel.kept, hfaulty]
    cases c.animations.all Animation.isValid <;> rfl
  refine ⟨?_, p.bare_sanitized, p.all_isValid_sanitized, ?_, ?_, p.sanitize_sanitized⟩
  · rw [← hkept]
    exact p.channels_sanitized
  · simp only [← hfaulty]
    change List.Forall₂ _ _ p.rejections
    rw [p.rejections_eq]
    exact reports_filterMap p.channels
  · change (p.rejections.map Event.rejected).map _ = p.rejections.map _
    rw [List.map_map]
    rfl

/-- of two faulty animations in one channel the first counts, and of two faults in one animation the name -/
example :
    let rpm : Animation Float := Animation.plain .translation "rpm"
    let engine : Sound := ⟨"engine", true, false, false, false, [{ rpm with source := "5_cycle", delay := -1 }], [rpm],
      [rpm, { rpm with duration := -1 }, { rpm with source := "" }]⟩
    (Presentation.sanitized ⟨[], [engine], [], [], []⟩).sounds = [{ engine with active := [], pitch := [] }] ∧
      (Presentation.rejections ⟨[], [engine], [], [], []⟩).map (fun r => (r.role, r.fault)) =
        [(.active, .name (.cycle (.tooShort "5_cycle"))), (.pitch, .negativeTiming "rpm" (-1) 0)] := by
  decide +kernel

end Presentation

end Stagecraft
