/-
Saving and loading. A presentation whose numbers are finite reads back from what it is written as, part by part; what is read from a
text has finite numbers, since a text can spell no others, and sanitizing only empties channels. So a presentation that was loaded
once is loaded again as it is, and there is nothing more to reject.

- `ofJson?_toJson`: what was written reads back, for animations, the parts of a presentation, and presentations.
- `yields_ofJson?`: what is read from a bounded value has finite numbers, likewise.
- `loads_what_it_saved`: both, with what a text gives.
-/
import Mathlib.Tactic
import Stagecraft.Proofs.Json.Record
import Stagecraft.Proofs.Presentation.Sanitized

namespace Stagecraft

/-- the numbers in an animation -/
def Animation.numbers (a : Animation Float) : List Float :=
  (match a.axis with
    | some axis => [axis.x, axis.y, axis.z]
    | none => []) ++ [a.offset, a.clampMin, a.clampMax]

/-- the numbers in a presentation -/
def Presentation.numbers (p : Presentation) : List Float := p.animations.flatMap Animation.numbers

/-- an animation that a pack can spell -/
def Animation.IsFinite (a : Animation Float) : Prop := ∀ x ∈ a.numbers, x.isFinite = true

/-! ## What was written -/

theorem Kind.ofJson?_name (kind : Kind) : Kind.ofJson? (.string kind.name) = some kind := by cases kind <;> rfl

theorem Axis.ofJson?_toJson {axis : Axis Float} (hx : axis.x.isFinite = true) (hy : axis.y.isFinite = true)
    (hz : axis.z.isFinite = true) : Axis.ofJson? axis.toJson = some axis := by
  simp only [Axis.toJson, Axis.ofJson?, Json.float?_number hx, Json.float?_number hy, Json.float?_number hz]
  rfl

/-- the fields of an animation as they are written; without an axis, that one is left out -/
theorem Animation.fields?_toJson (a : Animation Float) : Json.fields? fieldNames a.toJson =
    some [some (.string a.kind.name), some (.string a.source), a.axis.map Axis.toJson, some (.number a.offset),
      some (.number a.clampMin), some (.number a.clampMax), some (.bool a.absolute), some (.whole a.duration.toInt),
      some (.whole a.delay.toInt), some (.bool a.rides)] := by
  obtain ⟨⟨axis, offset, clampMin, clampMax, absolute⟩, ⟨duration, delay⟩, kind, source, rides⟩ := a
  cases axis <;> exact Json.fields?_of_written (by decide) rfl rfl

theorem Animation.ofJson?_toJson {a : Animation Float} (ha : a.IsFinite) : Animation.ofJson? a.toJson = some a := by
  simp only [IsFinite, numbers, List.forall_mem_append, List.forall_mem_cons] at ha
  obtain ⟨haxis, hoffset, hmin, hmax, -⟩ := ha
  have haxis : Json.nullable Axis.ofJson? (a.axis.map Axis.toJson) = some a.axis := by
    cases h : a.axis with
    | none => rfl
    | some axis =>
      simp only [h, List.forall_mem_cons] at haxis
      change (Axis.ofJson? axis.toJson).map some = some (some axis)
      rw [Axis.ofJson?_toJson haxis.1 haxis.2.1 haxis.2.2.1, Option.map_some]
  rw [ofJson?, a.fields?_toJson]
  simp [Json.required, Kind.ofJson?_name, Json.string?, haxis, Json.optional, Json.float?_number hoffset,
    Json.float?_number hmin, Json.float?_number hmax, Json.bool?, Json.int32?_whole]

theorem animations?_json {as : List (Animation Float)} (has : ∀ a ∈ as, a.IsFinite) :
    animations? (some (animationsJson as)) = some as :=
  Json.list?_array fun a ha => Animation.ofJson?_toJson (has a ha)

theorem Light.ofJson?_toJson {l : Light} (h : ∀ a ∈ l.brightness, a.IsFinite) : Light.ofJson? l.toJson = some l := by
  have hfields : Json.fields? fieldNames l.toJson = some [some (.string l.objectName), some (animationsJson l.brightness)] :=
    Json.fields?_of_written (by decide) rfl rfl
  rw [ofJson?, hfields]
  simp [Json.required, Json.string?, animations?_json h]

theorem Sound.ofJson?_toJson {s : Sound} (h : ∀ a ∈ s.active ++ s.volume ++ s.pitch, a.IsFinite) :
    Sound.ofJson? s.toJson = some s := by
  simp only [List.forall_mem_append] at h
  obtain ⟨⟨hactive, hvolume⟩, hpitch⟩ := h
  have hfields : Json.fields? fieldNames s.toJson =
      some [some (.string s.name), some (.bool s.looping), some (.bool s.forced), some (.bool s.interior), some (.bool s.exterior),
        some (animationsJson s.active), some (animationsJson s.volume), some (animationsJson s.pitch)] :=
    Json.fields?_of_written (by decide) rfl rfl
  rw [ofJson?, hfields]
  simp [Json.required, Json.string?, Json.optional, Json.bool?, animations?_json hactive,
    animations?_json hvolume, animations?_json hpitch]

theorem Emitter.ofJson?_toJson {e : Emitter} (h : ∀ a ∈ e.active, a.IsFinite) : Emitter.ofJson? e.toJson = some e := by
  have hfields : Json.fields? fieldNames e.toJson = some [some (.string e.particle), some (.whole e.quantity.toNat),
      some (.bool e.everyTick), some (animationsJson e.active)] := Json.fields?_of_written (by decide) rfl rfl
  rw [ofJson?, hfields]
  simp [Json.required, Json.string?, Json.optional, Json.bool?, Json.uint32?_whole, animations?_json h]

theorem MovingObject.ofJson?_toJson {o : MovingObject} (h : ∀ a ∈ o.motion, a.IsFinite) :
    MovingObject.ofJson? o.toJson = some o := by
  have hfields : Json.fields? fieldNames o.toJson = some [some (.string o.name), some (animationsJson o.motion)] :=
    Json.fields?_of_written (by decide) rfl rfl
  rw [ofJson?, hfields]
  simp [Json.required, Json.string?, animations?_json h]

theorem Presentation.ofJson?_toJson {p : Presentation} (h : ∀ a ∈ p.animations, a.IsFinite) :
    Presentation.ofJson? p.toJson = some p := by
  simp only [animations_eq, List.forall_mem_append, List.forall_mem_flatMap] at h
  obtain ⟨⟨⟨hlights, hsounds⟩, hemitters⟩, hobjects⟩ := h
  have hsound : ∀ s ∈ p.sounds, Sound.ofJson? s.toJson = some s := fun s hs =>
    Sound.ofJson?_toJson (by simpa only [List.forall_mem_append] using hsounds s hs)
  have hconstants : Json.list? Json.string? (.array (p.constants.map Json.string)) = some p.constants :=
    Json.list?_array fun _ _ => rfl
  have hfields : Json.fields? fieldNames p.toJson =
      some [some (.array (p.lights.map Light.toJson)), some (.array (p.sounds.map Sound.toJson)),
        some (.array (p.emitters.map Emitter.toJson)), some (.array (p.objects.map MovingObject.toJson)),
        some (.array (p.constants.map Json.string))] := Json.fields?_of_written (by decide) rfl rfl
  rw [ofJson?, hfields]
  simp [Json.optional, hconstants,
    Json.list?_array fun l hl => Light.ofJson?_toJson (hlights l hl), Json.list?_array hsound,
    Json.list?_array fun e he => Emitter.ofJson?_toJson (hemitters e he),
    Json.list?_array fun o ho => MovingObject.ofJson?_toJson (hobjects o ho)]

/-! ## What is read -/

open Json (Yields FieldBounded)

theorem Axis.yields_ofJson? : Yields Axis.ofJson? fun axis => ∀ x ∈ [axis.x, axis.y, axis.z], x.isFinite = true := by
  intro v axis hv h
  unfold ofJson? at h
  split at h
  next x y z =>
    cases hv with
    | array _ hitems =>
      simp only [Option.bind_eq_bind, Option.bind_eq_some_iff, Option.pure_def, Option.some.injEq] at h
      obtain ⟨x', hx, y', hy, z', hz, rfl⟩ := h
      simp only [List.forall_mem_cons] at hitems ⊢
      exact ⟨Json.yields_float? hitems.1 hx, Json.yields_float? hitems.2.1 hy, Json.yields_float? hitems.2.2.1 hz, by simp⟩
  · cases h

theorem Animation.yields_ofJson? : Yields Animation.ofJson? Animation.IsFinite := by
  refine Json.yields_record fun fields a hbounded h => ?_
  split at h
  · simp only [List.forall_mem_cons] at hbounded
    obtain ⟨-, -, haxis, hoffset, hmin, hmax, -⟩ := hbounded
    simp only [Option.bind_eq_bind, Option.bind_eq_some_iff, Option.pure_def, Option.some.injEq] at h
    obtain ⟨_, -, _, -, axis, haxis', offset, hoffset', clampMin, hmin', clampMax, hmax', _, -, _, -, _, -, _, -, rfl⟩ := h
    have hnumber {field : Option Json} (hfield : FieldBounded field) {x : Float}
        (hx : Json.optional Json.float? (Float.ofNat 0) field = some x) : x.isFinite = true :=
      Json.yields_float?.optional rfl hfield hx
    simp only [IsFinite, numbers, List.forall_mem_append, List.forall_mem_cons]
    refine ⟨?_, hnumber hoffset hoffset', hnumber hmin hmin', hnumber hmax hmax', by simp⟩
    cases axis with
    | none => simp
    | some axis => exact Axis.yields_ofJson?.nullable haxis haxis' axis rfl
  · cases h

/-- the animations of a channel, or none -/
theorem isFinite_animations? {field : Option Json} (hfield : FieldBounded field) {as : List (Animation Float)}
    (h : animations? field = some as) : ∀ a ∈ as, a.IsFinite :=
  Animation.yields_ofJson?.list.optional (by simp) hfield h

theorem Light.yields_ofJson? : Yields Light.ofJson? fun l => ∀ a ∈ l.brightness, a.IsFinite := by
  refine Json.yields_record fun fields l hbounded h => ?_
  split at h
  · simp only [List.forall_mem_cons] at hbounded
    simp only [Option.bind_eq_bind, Option.bind_eq_some_iff, Option.pure_def, Option.some.injEq] at h
    obtain ⟨_, -, _, hbrightness, rfl⟩ := h
    exact isFinite_animations? hbounded.2.1 hbrightness
  · cases h

theorem Sound.yields_ofJson? : Yields Sound.ofJson? fun s => ∀ a ∈ s.active ++ s.volume ++ s.pitch, a.IsFinite := by
  refine Json.yields_record fun fields s hbounded h => ?_
  split at h
  · simp only [List.forall_mem_cons] at hbounded
    obtain ⟨-, -, -, -, -, hactive, hvolume, hpitch, -⟩ := hbounded
    simp only [Option.bind_eq_bind, Option.bind_eq_some_iff, Option.pure_def, Option.some.injEq] at h
    obtain ⟨_, -, _, -, _, -, _, -, _, -, _, hactive', _, hvolume', _, hpitch', rfl⟩ := h
    simp only [List.forall_mem_append]
    exact ⟨⟨isFinite_animations? hactive hactive', isFinite_animations? hvolume hvolume'⟩, isFinite_animations? hpitch hpitch'⟩
  · cases h

theorem Emitter.yields_ofJson? : Yields Emitter.ofJson? fun e => ∀ a ∈ e.active, a.IsFinite := by
  refine Json.yields_record fun fields e hbounded h => ?_
  split at h
  · simp only [List.forall_mem_cons] at hbounded
    simp only [Option.bind_eq_bind, Option.bind_eq_some_iff, Option.pure_def, Option.some.injEq] at h
    obtain ⟨_, -, _, -, _, -, _, hactive, rfl⟩ := h
    exact isFinite_animations? hbounded.2.2.2.1 hactive
  · cases h

theorem MovingObject.yields_ofJson? : Yields MovingObject.ofJson? fun o => ∀ a ∈ o.motion, a.IsFinite := by
  refine Json.yields_record fun fields o hbounded h => ?_
  split at h
  · simp only [List.forall_mem_cons] at hbounded
    simp only [Option.bind_eq_bind, Option.bind_eq_some_iff, Option.pure_def, Option.some.injEq] at h
    obtain ⟨_, -, _, hmotion, rfl⟩ := h
    exact isFinite_animations? hbounded.2.1 hmotion
  · cases h

namespace Presentation

theorem yields_ofJson? : Yields ofJson? fun p => ∀ a ∈ p.animations, a.IsFinite := by
  refine Json.yields_record fun fields p hbounded h => ?_
  split at h
  · simp only [List.forall_mem_cons] at hbounded
    obtain ⟨hlights, hsounds, hemitters, hobjects, -⟩ := hbounded
    simp only [Option.bind_eq_bind, Option.bind_eq_some_iff, Option.pure_def, Option.some.injEq] at h
    obtain ⟨_, hlights', _, hsounds', _, hemitters', _, hobjects', _, -, rfl⟩ := h
    have hsound := Sound.yields_ofJson?.list.optional (by simp) hsounds hsounds'
    simp only [animations_eq, List.forall_mem_append, List.forall_mem_flatMap] at hsound ⊢
    exact ⟨⟨⟨Light.yields_ofJson?.list.optional (by simp) hlights hlights', hsound⟩,
      Emitter.yields_ofJson?.list.optional (by simp) hemitters hemitters'⟩,
      MovingObject.yields_ofJson?.list.optional (by simp) hobjects hobjects'⟩
  · cases h

/-! ## Main result -/

/-- sanitizing adds no animations -/
theorem animations_sanitized_subset (p : Presentation) : p.sanitized.animations ⊆ p.animations := by
  intro a ha
  rw [animations, channels_sanitized] at ha
  obtain ⟨_, hkept, ha⟩ := List.mem_flatMap.1 ha
  obtain ⟨c, hc, rfl⟩ := List.mem_map.1 hkept
  unfold ListedChannel.kept at ha
  split at ha
  · cases ha
  · exact List.mem_flatMap.2 ⟨c, hc, ha⟩

/-- what a text gives reads back from what it is written as -/
theorem ofJson?_toJson_of_ofText? {text : String} {turn : Turn Presentation (List Rejection)} (h : ofText? text = some turn) :
    ofJson? turn.state.toJson = some turn.state ∧ turn.state.sanitize = ⟨turn.state, [], []⟩ := by
  obtain ⟨p, hp, rfl⟩ := Option.map_eq_some_iff.1 h
  obtain ⟨v, hv, hp⟩ := Option.bind_eq_some_iff.1 hp
  have hfinite := yields_ofJson? (Json.bounded_ofText? hv) hp
  exact ⟨ofJson?_toJson fun a ha => hfinite a (p.animations_sanitized_subset ha), p.sanitize_sanitized⟩

/-- **Saved and loaded again.** A presentation with finite numbers reads back as itself from what it is written as. What a text gives,
sanitized, reads back from what it is written as, and sanitizing it again changes nothing, rejects nothing and logs nothing; so that
every text that spells it gives the same presentation, without a report. -/
theorem loads_what_it_saved :
    (∀ p : Presentation, p.numbers.all Float.isFinite = true → ofJson? p.toJson = some p) ∧
      ∀ text turn, ofText? text = some turn →
        (ofJson? turn.state.toJson).map sanitize = some ⟨turn.state, [], []⟩ ∧
          ∀ saved, Json.ofText? saved = some turn.state.toJson → ofText? saved = some ⟨turn.state, [], []⟩ := by
  refine ⟨fun p hp => ofJson?_toJson fun a ha x hx => ?_, fun text turn hturn => ?_⟩
  · exact List.all_eq_true.1 hp x (List.mem_flatMap.2 ⟨a, ha, hx⟩)
  · obtain ⟨hread, hsanitize⟩ := ofJson?_toJson_of_ofText? hturn
    have hloaded : (ofJson? turn.state.toJson).map sanitize = some ⟨turn.state, [], []⟩ := by
      rw [hread, Option.map_some, hsanitize]
    refine ⟨hloaded, fun saved hsaved => ?_⟩
    rw [ofText?, hsaved]
    exact hloaded

/-- a presentation with an axis and bounds; and a funnel whose smoke has a faulty gate, loaded, saved without it, and loaded again -/
theorem loads_what_it_saved_steamer :
    let wheel : Animation Float :=
      { Animation.plain .rotation "rpm" with
        axis := some ⟨0.5, Float.ofNat 0, Float.neg (Float.ofNat 0)⟩, offset := 0.1, clampMax := 1e300, duration := -7, rides := true }
    let steamer : Presentation :=
      ⟨[⟨"lamp", []⟩], [⟨"paddle", true, false, true, false, [], [wheel], []⟩], [], [⟨"wheel", [wheel, wheel]⟩], ["afloat"]⟩
    let funnel : Presentation := ⟨[], [], [⟨"smoke", 3, true, []⟩], [], ["lit"]⟩
    let text := "[[],[],[[\"smoke\",3,true,[[\"visibility\",\"5_cycle\"]]]],[],[\"lit\"]]"
    let saved := "\x7b\"lightObjects\":[],\"sounds\":[],\"particles\":[\x7b\"type\":\"smoke\",\"quantity\":3," ++
      "\"spawnEveryTick\":true,\"activeAnimations\":[]\x7d],\"animatedObjects\":[],\"constants\":[\"lit\"]\x7d"
    (steamer.numbers.all Float.isFinite = true ∧ ofJson? steamer.toJson = some steamer) ∧
      (ofText? text).map (fun turn => (turn.state, turn.output.length)) = some (funnel, 1) ∧
        Json.ofText? saved = some funnel.toJson ∧ ofText? saved = some ⟨funnel, [], []⟩ := by
  intro wheel steamer funnel text saved
  have hfinite : steamer.numbers.all Float.isFinite = true := by decide +kernel
  have htext : (ofText? text).map (fun turn => (turn.state, turn.output.length)) = some (funnel, 1) := by decide +kernel
  have hsaved : Json.ofText? saved = some funnel.toJson := by
    dsimp only [saved, funnel, String.reduceAppend]
    set_option maxRecDepth 100000 in rfl
  obtain ⟨turn, hturn, hstate⟩ := Option.map_eq_some_iff.1 htext
  have hfunnel : turn.state = funnel := congrArg Prod.fst hstate
  have hloaded := (loads_what_it_saved.2 text turn hturn).2 saved (by rw [hsaved, hfunnel])
  rw [hfunnel] at hloaded
  exact ⟨⟨hfinite, loads_what_it_saved.1 steamer hfinite⟩, htext, hsaved, hloaded⟩

end Presentation

end Stagecraft
