/-
Entities on their own. Whatever else the registry serves, in the same world or in others, before or in between, an entity
presents from its activation to its removal what a new presenter with new flags presents that is driven by nothing but what
concerns the entity; and the tick or the frame of a world is that of its entities, one after the other.

- `solos_run`: the entities of a world after requests are their lives, each on its own.
- `presented_follow`: what the registry presents of one entity.
- `isolated`: both together, for runs from an empty registry.
-/
import Mathlib.Tactic
import Stagecraft.Proofs.Registry.Serve

namespace Stagecraft

/-! ## What requests keep -/

/-- no entity is taken in twice -/
theorem Solo.nodup_next (settings : Settings) (world : WorldId) {ss : List Solo} (h : (ss.map Solo.entity).Nodup)
    (q : Request) : ((Solo.next settings world ss q).map Solo.entity).Nodup := by
  rw [Solo.entities_next, List.nodup_append]
  refine ⟨h.filter _, ?_, ?_⟩
  · cases q.birth? world (ss.map Solo.entity) <;> simp
  · intro e he e' he' hsame
    have hliving := (List.mem_filter.1 he).1
    cases q with
    | activate w entity d n =>
      simp only [Request.birth?] at he'
      split_ifs at he' with hfree
      · obtain rfl : e' = entity := by simpa using he'
        exact hfree.2 (hsame ▸ hliving)
      · simp at he'
    | _ => simp [Request.birth?] at he'

namespace Registry

variable {r : Registry}

theorem settings_settle {ρ : Type} (respond : ρ → Response) {x : Except Refusal (Turn Registry ρ)}
    (h : ∀ t, x = .ok t → t.state.settings = r.settings) : (r.settle respond x).state.settings = r.settings := by
  cases x with
  | error why => rfl
  | ok t => exact h t rfl

theorem settings_remove {w : WorldId} {entity : EntityId} {t : Turn Registry TickOutput}
    (h : r.remove w entity = .ok t) : t.state.settings = r.settings := by
  unfold remove at h
  split at h
  · cases h
  · cases h
    rfl

theorem settings_removeEach (r : Registry) (w : WorldId) (entities : List EntityId) :
    (r.removeEach w entities).state.settings = r.settings := by
  induction entities generalizing r with
  | nil => rfl
  | cons entity entities ih =>
    unfold removeEach
    split
    · exact ih r
    · rename_i first hfirst
      exact (ih first.state).trans (settings_remove hfirst)

theorem settings_onEntry {ρ : Type} {w : WorldId} {entity : EntityId} {act : Entry → Turn Entry ρ} {t : Turn Registry ρ}
    (h : r.onEntry w entity act = .ok t) : t.state.settings = r.settings := by
  unfold onEntry at h
  split at h
  · cases h
  · cases h
    rfl

theorem settings_serve (r : Registry) (q : Request) : (r.serve q).state.settings = r.settings := by
  cases q with
  | activate w entity d n =>
    refine settings_settle _ fun t ht => ?_
    unfold activate at ht
    split at ht
    · cases ht
    · cases ht
      rfl
  | remove w entity => exact settings_settle _ fun t ht => settings_remove ht
  | removeAll w => exact r.settings_removeEach w _
  | reload w entity d n => exact settings_settle _ fun t ht => settings_onEntry ht
  | updateFlags w entity act => exact settings_settle _ fun t ht => settings_onEntry ht
  | soundFinished w entity sound => exact settings_settle _ fun t ht => settings_onEntry ht
  | tick w n host => rfl
  | frame w q host => rfl

theorem distinct_serve (h : ∀ world, r.Distinct world) (q : Request) (world : WorldId) :
    (r.serve q).state.Distinct world := by
  rw [Distinct, solos_serve h]
  exact Solo.nodup_next _ world (h world) q

/-! ## Runs -/

/-- what every request keeps, a run keeps -/
theorem run_keeps {P : Registry → Prop} (hP : ∀ r q, P r → P (r.serve q).state) (r : Registry) (requests : List Request)
    (h : P r) : P (r.run requests).state := by
  induction requests generalizing r with
  | nil => exact h
  | cons q requests ih => exact ih _ (hP r q h)

theorem distinct_new (settings : Settings) (world : WorldId) : (new settings).Distinct world := List.nodup_nil

theorem distinct_run (settings : Settings) (requests : List Request) (world : WorldId) :
    ((new settings).run requests).state.Distinct world :=
  run_keeps (P := fun r => ∀ world, r.Distinct world) (fun _ q h => distinct_serve h q) _ requests
    (distinct_new settings) world

theorem settings_run (settings : Settings) (requests : List Request) :
    ((new settings).run requests).state.settings = settings :=
  run_keeps (P := fun r => r.settings = settings) (fun r q h => (r.settings_serve q).trans h) _ requests rfl

/-- the entities of a world after requests are their lives, each on its own -/
theorem solos_run_from (r : Registry) (h : ∀ world, r.Distinct world) (world : WorldId) (ls : List Life)
    (hls : r.solos world = ls.map (Life.solo r.settings)) (requests : List Request) :
    (r.run requests).state.solos world = (requests.foldl (Life.next world) ls).map (Life.solo r.settings) := by
  induction requests generalizing r ls with
  | nil => exact hls
  | cons q requests ih =>
    have hnext : (r.serve q).state.solos world = (Life.next world ls q).map (Life.solo (r.serve q).state.settings) := by
      rw [solos_serve h, hls, Life.next_solo, settings_serve]
    have hrest := ih _ (distinct_serve h q) _ hnext
    rw [settings_serve] at hrest
    exact hrest

theorem solos_run (settings : Settings) (world : WorldId) (requests : List Request) :
    ((new settings).run requests).state.solos world = (lives world requests).map (Life.solo settings) :=
  solos_run_from (new settings) (distinct_new settings) world [] rfl requests

/-! ## One entity -/

/-- what responses say of an entity, over the requests that concern it -/
def presented (r : Registry) (world : WorldId) (entity : EntityId) : List Request → List Response
  | [] => []
  | q :: requests =>
    match q.concern? world entity with
    | some _ => (r.serve q).output.about entity :: (r.serve q).state.presented world entity requests
    | none => (r.serve q).state.presented world entity requests

/-- an entity that is not let go is there after a request, each on its own -/
theorem follow_mem (h : ∀ world, r.Distinct world) {world : WorldId} {s : Solo} (hs : s ∈ r.solos world) {q : Request}
    (hstays : q.ends world s.entity = false) : s.follow (q.concern? world s.entity) ∈ (r.serve q).state.solos world := by
  rw [solos_serve h, Solo.next]
  refine List.mem_append_left _ (List.mem_map.2 ⟨s, List.mem_filter.2 ⟨hs, ?_⟩, rfl⟩)
  rw [hstays]
  rfl

theorem presented_follow (h : ∀ world, r.Distinct world) {world : WorldId} {s : Solo} (hs : s ∈ r.solos world)
    (during : List Request) (hstays : ∀ q ∈ during, q.ends world s.entity = false) (last : Request) :
    r.presented world s.entity (during ++ [last]) =
      (s.run ((during ++ [last]).filterMap (·.concern? world s.entity))).output := by
  induction during generalizing r s with
  | nil =>
    cases hc : last.concern? world s.entity with
    | none => simp [presented, hc, Solo.run]
    | some c => simp [presented, hc, Solo.run, about_serve h hs hc]
  | cons q during ih =>
    have hnext := follow_mem h hs (hstays q List.mem_cons_self)
    have hrest := ih (distinct_serve h q) hnext fun q' hq' => by
      rw [Solo.entity_follow]
      exact hstays q' (List.mem_cons_of_mem q hq')
    rw [Solo.entity_follow] at hrest
    cases hc : q.concern? world s.entity with
    | none =>
      rw [hc] at hrest
      simp only [List.cons_append, presented, hc, List.filterMap_cons]
      exact hrest
    | some c =>
      rw [hc] at hrest
      simp only [List.cons_append, presented, hc, List.filterMap_cons, Solo.run, about_serve h hs hc]
      rw [hrest]
      rfl

/-- **Isolation.** After any requests, an entity that is activated presents, up to and with the request that lets it go,
what a new presenter with new flags presents that is driven by nothing but what concerns the entity; what does not concern it
presents nothing of it. And the tick or the frame of a world asks for what its entities ask for in theirs, each on its own, one
after the other in order of activation, and for nothing else. -/
theorem isolated (settings : Settings) (past : List Request) (world : WorldId) :
    let r := ((new settings).run past).state
    (∀ entity d n during last, r.get? world entity = none → (∀ q ∈ during, q.ends world entity = false) →
      (r.serve (.activate world entity d n)).state.presented world entity (during ++ [last]) =
        ((Solo.start settings entity d n).run ((during ++ [last]).filterMap (·.concern? world entity))).output) ∧
    (∀ entity q, q.world = world → q.concern? world entity = none →
      ((r.serve q).output.about entity).isSilent = true) ∧
    (∀ n host, (r.serve (.tick world n host)).output =
      .effects (.concat ((lives world past).map fun l =>
        ((l.solo settings).tick n (host.own l.entity) (host.world l.entity) (host.observer l.entity)).output))) ∧
    ∀ partialTick host, (r.serve (.frame world partialTick host)).output =
      .picture (.concat ((lives world past).map fun l =>
        ((l.solo settings).frame partialTick (host.own l.entity) (host.world l.entity)).output)) := by
  intro r
  have hdistinct := distinct_run settings past
  have hsolos := solos_run settings world past
  refine ⟨fun entity d n during last hfree hstays => ?_, fun entity q hw hc => r.silent_serve entity hw hc,
    fun n host => ?_, fun partialTick host => ?_⟩
  · -- the entity that is taken in comes last, and is new
    have hstart : Solo.start settings entity d n ∈ (r.serve (.activate world entity d n)).state.solos world := by
      rw [← settings_run settings past]
      refine (r.solos_activate world world entity d n).symm ▸ List.mem_append_right _ ?_
      rw [if_pos ⟨rfl, get?_none.1 hfree⟩]
      exact List.mem_singleton_self _
    exact presented_follow (distinct_serve hdistinct _) hstart during hstays last
  · refine (congrArg Response.effects (r.tick_output world n host)).trans ?_
    rw [hsolos, List.map_map]
    simp only [Function.comp_def, Life.entity_solo]
  · refine (congrArg Response.picture (r.frame_output world partialTick host)).trans ?_
    rw [hsolos, List.map_map]
    simp only [Function.comp_def, Life.entity_solo]

/-- a bell that rings when it is clicked, with sparks as long as it is powered -/
def doorbell : Presentation where
  lights := []
  sounds := [⟨"ring", false, false, false, false, [{ Animation.plain .visibility "clicked" with clampMin := 1, clampMax := 1 }],
    [], []⟩]
  emitters := [⟨"spark", 1, true, [{ Animation.plain .visibility "powered" with clampMin := 1, clampMax := 1 }]⟩]
  objects := []
  constants := ["powered"]

/-- a world without weather, and an observer outside -/
def still : Host := { world := fun _ => {}, observer := fun _ => {} }

/-- an earlier life of the bell, another bell beside it, and a bell of the same name in another world -/
def bells : List Request :=
  [.activate ⟨1⟩ ⟨7⟩ doorbell 0, .activate ⟨2⟩ ⟨7⟩ doorbell 0, .activate ⟨1⟩ ⟨8⟩ doorbell 0,
    .updateFlags ⟨1⟩ ⟨7⟩ (·.setOneShot "clicked"), .tick ⟨1⟩ 1 still, .remove ⟨1⟩ ⟨7⟩]

/-- what the new bell lives through among the others -/
def clicks : List Request :=
  [.updateFlags ⟨1⟩ ⟨8⟩ (·.setOneShot "clicked"), .tick ⟨1⟩ 2 still, .updateFlags ⟨2⟩ ⟨7⟩ (·.setOneShot "clicked"),
    .updateFlags ⟨1⟩ ⟨7⟩ (·.setOneShot "clicked"), .tick ⟨2⟩ 3 still, .tick ⟨1⟩ 3 still]

/-- the new bell sparks in both ticks and rings in the one that it is clicked in, as it would alone, and stops when its world is
unloaded -/
theorem isolated_doorbell :
    let r := ((new {}).run bells).state
    let shown := (r.serve (.activate ⟨1⟩ ⟨7⟩ doorbell 1)).state.presented ⟨1⟩ ⟨7⟩ (clicks ++ [Request.removeAll ⟨1⟩])
    r.get? ⟨1⟩ ⟨7⟩ = none ∧ (∀ q ∈ clicks, q.ends ⟨1⟩ ⟨7⟩ = false) ∧
      shown = ((Solo.start {} ⟨7⟩ doorbell 1).run ((clicks ++ [Request.removeAll ⟨1⟩]).filterMap (·.concern? ⟨1⟩ ⟨7⟩))).output ∧
      shown = [.effects ⟨[], [⟨⟨7⟩, ⟨0⟩, 1⟩]⟩, .done,
        .effects ⟨[.start ⟨7⟩ ⟨0⟩ "ring" false, .update ⟨7⟩ ⟨0⟩ 1 1], [⟨⟨7⟩, ⟨0⟩, 1⟩]⟩,
        .effects ⟨[.stop ⟨7⟩ ⟨0⟩ "ring"], []⟩] := by
  intro r shown
  have hfree : r.get? ⟨1⟩ ⟨7⟩ = none := by
    rw [get?_none]
    decide +kernel
  have hstays : ∀ q ∈ clicks, q.ends ⟨1⟩ ⟨7⟩ = false := by decide +kernel
  exact ⟨hfree, hstays, (isolated {} bells ⟨1⟩).1 ⟨7⟩ doorbell 1 clicks (.removeAll ⟨1⟩) hfree hstays,
    by decide +kernel⟩

end Registry

end Stagecraft
