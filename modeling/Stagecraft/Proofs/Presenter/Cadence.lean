/-
The cadence of an emitter. From activation or reload on, while ticks do not go back, the tick of its last spawn is that of the
activation or of the latest tick in which it has spawned. So an emitter that goes on spawning while its gate is open does so once for
each number, however often a host hands in the number again, and not for the number of the activation; what an edge spawns comes on
top of that.

- `lastSpawn?_call`, `lastSpawn?_run`: the tick of the last spawn, after one call and after a run.
- `spawnsOf_run`: what an emitter spawns, in terms of its gate and of what it has spawned before.
- `emitter_cadence`: how often it spawns, in what order and how much.
-/
import Mathlib.Tactic
import Stagecraft.Proofs.History
import Stagecraft.Proofs.Presenter.Edge

namespace Stagecraft

/-- the particles of a spawn are the quantity, and one if that is none -/
theorem Emitter.spawnCount_eq_max (e : Emitter) : e.spawnCount = max e.quantity 1 := by
  change (if e.quantity = 0 then 1 else e.quantity) = if e.quantity ≤ 1 then 1 else e.quantity
  grind

/-- the numbers of the ticks among some calls -/
def tickNumbers (calls : List Call) : List ℕ :=
  calls.filterMap fun
    | .tick n .. => some n
    | _ => none

theorem tickNumbers_append (a b : List Call) : tickNumbers (a ++ b) = tickNumbers a ++ tickNumbers b := List.filterMap_append

theorem tickNumbers_snoc (calls : List Call) (n : ℕ) (scope : Scope) (o : Observer) :
    tickNumbers (calls ++ [.tick n scope o]) = tickNumbers calls ++ [n] := tickNumbers_append calls _

/-- the last of some numbers in a row, the first of which comes before all calls -/
theorem pairwise_snoc {r : ℕ → ℕ → Prop} {t n : ℕ} {ns : List ℕ} :
    (t :: (ns ++ [n])).Pairwise r ↔ (t :: ns).Pairwise r ∧ ∀ m ∈ t :: ns, r m n := by
  rw [← List.cons_append, List.pairwise_append]
  simp

theorem mem_tickNumbers {calls : List Call} {n : ℕ} {scope : Scope} {o : Observer} (h : .tick n scope o ∈ calls) :
    n ∈ tickNumbers calls := List.mem_filterMap.2 ⟨_, h, rfl⟩

/-! ## One emitter -/

/-- every part is read at its place -/
theorem Reading.getElem?_all {τ ω : Type} (read : ℕ → τ → Reading τ ω) (index : ℕ) (parts : List τ) (k : ℕ) :
    (Reading.all read index parts).state[k]? = parts[k]?.map fun part => (read (index + k) part).state := by
  induction parts generalizing index k with
  | nil => rfl
  | cons first parts ih =>
    cases k with
    | zero => rfl
    | succ k =>
      rw [Reading.all, List.getElem?_cons_succ, List.getElem?_cons_succ, ih, Nat.add_assoc, Nat.add_comm 1]

namespace LiveEmitter

variable (s : Sampling) (entity : EntityId) (n index : ℕ) (l : LiveEmitter)

theorem output_tick :
    (l.tick s entity n index).output =
      if l.spawns n (l.active.gate s).result then [⟨entity, .ofIndex index, l.emitter.spawnCount⟩] else [] := by
  unfold tick spawns
  simp only
  split_ifs <;> rfl

/-- the tick of a spawn is the last one -/
theorem lastSpawn_tick :
    (l.tick s entity n index).state.lastSpawn = if (l.tick s entity n index).output = [] then l.lastSpawn else n := by
  rw [output_tick]
  unfold tick spawns
  simp only
  split_ifs <;> simp_all

end LiveEmitter

namespace Presenter

/-- the tick of the last spawn of the emitter at a place -/
def lastSpawn? (p : Presenter) (k : ℕ) : Option ℕ := p.emitters[k]?.map (·.lastSpawn)

theorem emitters_tick (p : Presenter) (n : ℕ) (scope : Scope) (o : Observer) :
    (p.tick n scope o).state.emitters = (Reading.all (LiveEmitter.tick ⟨.tick, scope 0⟩ p.entity n) 0 p.emitters).state := by
  cases hp : p.stage with
  | none =>
    simp only [tick, emitters, hp]
    rfl
  | some stage => simp only [tick, emitters, hp, Option.map_some, Option.getD_some]

/-- a tick moves the last spawn of those emitters that spawn -/
theorem lastSpawn?_tick (p : Presenter) (n : ℕ) (scope : Scope) (o : Observer) (k : ℕ) :
    (p.tick n scope o).state.lastSpawn? k = if p.spawnsOf n scope k = [] then p.lastSpawn? k else some n := by
  rw [lastSpawn?, lastSpawn?, emitters_tick, Reading.getElem?_all, Nat.zero_add]
  cases hl : p.emitters[k]? with
  | none =>
    have hnone : p.spawnsOf n scope k = [] := by simp only [spawnsOf, Reading.part, hl]
    rw [if_pos hnone]
    rfl
  | some l =>
    rw [p.spawnsOf_emitter n scope hl, Option.map_some, Option.map_some, l.lastSpawn_tick, Option.map_some]
    split_ifs <;> rfl

/-- no other call that keeps the stage moves any -/
theorem lastSpawn?_still (p : Presenter) {stage : Stage} (hp : p.stage = some stage) {c : Call} (hc : c.keepsStage)
    (hstill : ∀ n scope o, c ≠ .tick n scope o) (k : ℕ) : (p.call c).state.lastSpawn? k = p.lastSpawn? k := by
  have hemitters : (p.call c).state.emitters = p.emitters := by
    cases c with
    | activate d t => simp only [call, activate, emitters, hp]
    | reload d t => exact absurd hc Bool.false_ne_true
    | teardown => exact absurd hc Bool.false_ne_true
    | tick n scope o => exact absurd rfl (hstill n scope o)
    | frame q scope => simp only [call, frame, emitters, hp]
    | soundFinished sound => rfl
  rw [lastSpawn?, lastSpawn?, hemitters]

/-! ## Runs -/

/-- the emitter at a place has spawned in a tick of a number among some calls -/
def SpawnedAt (p : Presenter) (k n : ℕ) (calls : List Call) : Prop :=
  ∃ before scope o after, calls = before ++ .tick n scope o :: after ∧ (p.run before).state.spawnsOf n scope k ≠ []

theorem SpawnedAt.mem_tickNumbers {p : Presenter} {k n : ℕ} {calls : List Call} (h : p.SpawnedAt k n calls) :
    n ∈ tickNumbers calls := by
  obtain ⟨before, scope, o, after, rfl, -⟩ := h
  exact Stagecraft.mem_tickNumbers (List.mem_append_right _ List.mem_cons_self)

theorem not_spawnedAt_nil (p : Presenter) (k n : ℕ) : ¬p.SpawnedAt k n [] := fun h => by cases h.mem_tickNumbers

/-- it has spawned if it does so in the last call, or had done so before it -/
theorem spawnedAt_snoc (p : Presenter) (k n : ℕ) (calls : List Call) (c : Call) :
    p.SpawnedAt k n (calls ++ [c]) ↔
      (∃ scope o, c = .tick n scope o ∧ (p.run calls).state.spawnsOf n scope k ≠ []) ∨ p.SpawnedAt k n calls := by
  have hsince : ∀ calls, p.SpawnedAt k n calls ↔
      Since (fun before c => ∃ scope o, c = .tick n scope o ∧ (p.run before).state.spawnsOf n scope k ≠ []) (fun _ => True)
        calls := by
    intro calls
    constructor
    · rintro ⟨before, scope, o, after, hsplit, hspawns⟩
      exact ⟨before, _, after, hsplit, ⟨scope, o, rfl, hspawns⟩, fun _ _ => trivial⟩
    · rintro ⟨before, _, after, hsplit, ⟨scope, o, rfl, hspawns⟩, -⟩
      exact ⟨before, scope, o, after, hsplit, hspawns⟩
  rw [hsince, hsince, since_snoc, and_true]

/-- what the tick of the last spawn says about a run: it is that of the activation or of a spawn, and none is later -/
structure IsLast (p : Presenter) (k t : ℕ) (calls : List Call) (last : ℕ) : Prop where
  origin : last = t ∨ p.SpawnedAt k last calls
  started : t ≤ last
  latest : ∀ n, p.SpawnedAt k n calls → n ≤ last

namespace IsLast

variable {p : Presenter} {k t last : ℕ} {calls : List Call}

theorem nil (p : Presenter) (k t : ℕ) : p.IsLast k t [] t where
  origin := .inl rfl
  started := le_rfl
  latest n hn := absurd hn (p.not_spawnedAt_nil k n)

/-- a spawn is the last one, unless ticks go back -/
theorem of_spawn {n : ℕ} {scope : Scope} {o : Observer} (hn : ∀ m ∈ t :: tickNumbers calls, m ≤ n)
    (hspawns : (p.run calls).state.spawnsOf n scope k ≠ []) : p.IsLast k t (calls ++ [.tick n scope o]) n where
  origin := .inr ((p.spawnedAt_snoc k n calls _).2 (.inl ⟨scope, o, rfl, hspawns⟩))
  started := hn t List.mem_cons_self
  latest m hm := by
    rcases (p.spawnedAt_snoc k m calls _).1 hm with ⟨scope', o', hcall, -⟩ | hbefore
    · obtain ⟨rfl, -, -⟩ := Call.tick.inj hcall
      exact le_rfl
    · exact hn m (List.mem_cons_of_mem _ hbefore.mem_tickNumbers)

/-- a call in which it does not spawn leaves the last spawn what it was -/
theorem of_still (h : p.IsLast k t calls last) {c : Call}
    (hstill : ∀ n scope o, c = .tick n scope o → (p.run calls).state.spawnsOf n scope k = []) :
    p.IsLast k t (calls ++ [c]) last := by
  have hsame : ∀ m, p.SpawnedAt k m (calls ++ [c]) ↔ p.SpawnedAt k m calls := fun m =>
    (p.spawnedAt_snoc k m calls c).trans (or_iff_right fun ⟨scope, o, hcall, hspawns⟩ => hspawns (hstill m scope o hcall))
  constructor
  · rw [hsame]
    exact h.origin
  · exact h.started
  · intro m hm
    exact h.latest m ((hsame m).1 hm)

/-- whether a later tick is past the last spawn -/
theorem lt_iff (h : p.IsLast k t calls last) {n : ℕ} (hn : ∀ m ∈ t :: tickNumbers calls, m ≤ n) :
    last < n ↔ t < n ∧ ¬p.SpawnedAt k n calls := by
  constructor
  · intro hless
    refine ⟨h.started.trans_lt hless, ?_⟩
    intro hspawned
    exact absurd (h.latest n hspawned) (not_le.2 hless)
  · rintro ⟨hstart, hnone⟩
    rcases h.origin with rfl | hspawned
    · exact hstart
    · apply lt_of_le_of_ne (hn last (List.mem_cons_of_mem _ hspawned.mem_tickNumbers))
      rintro rfl
      exact hnone hspawned

end IsLast

/-- **The last spawn.** While ticks do not go back, an emitter knows the tick of its last spawn. -/
theorem lastSpawn?_run (p : Presenter) (d : Presentation) (t : ℕ) (hp : p.stage = some (Stage.build p.settings.curve d t))
    (k : ℕ) (e : Emitter) (he : d.emitters[k]? = some e) (calls : List Call) (hc : ∀ c ∈ calls, c.keepsStage)
    (hforward : (t :: tickNumbers calls).Pairwise (· ≤ ·)) :
    ∃ last, (p.run calls).state.lastSpawn? k = some last ∧ p.IsLast k t calls last := by
  induction calls using List.reverseRecOn with
  | nil =>
    refine ⟨t, ?_, .nil p k t⟩
    simp [run, lastSpawn?, emitters, hp, Stage.build, Stage.liveEmitter, he]
  | append_singleton calls c ih =>
    have hkeeps : ∀ c' ∈ calls, c'.keepsStage := fun c' hc' => hc c' (List.mem_append_left _ hc')
    rw [run_snoc_state]
    cases c with
    | tick n scope o =>
      rw [tickNumbers_snoc, pairwise_snoc] at hforward
      obtain ⟨hearlier, hn⟩ := hforward
      obtain ⟨last, hlast, hbefore⟩ := ih hkeeps hearlier
      have hmoves := (p.run calls).state.lastSpawn?_tick n scope o k
      by_cases hspawns : (p.run calls).state.spawnsOf n scope k = []
      · refine ⟨last, (hmoves.trans (if_pos hspawns)).trans hlast, hbefore.of_still ?_⟩
        intro m scope' o' hcall
        obtain ⟨rfl, rfl, -⟩ := Call.tick.inj hcall
        exact hspawns
      · exact ⟨n, hmoves.trans (if_neg hspawns), .of_spawn hn hspawns⟩
    | _ =>
      rw [tickNumbers_append] at hforward
      obtain ⟨last, hlast, hbefore⟩ := ih hkeeps (by simpa [tickNumbers] using hforward)
      obtain ⟨stage, hstage, -⟩ := p.stage_run _ hp calls hkeeps
      refine ⟨last, (lastSpawn?_still _ hstage (hc _ (by simp)) (by simp) k).trans hlast, hbefore.of_still ?_⟩
      intro n scope o hcall
      cases hcall

/-- **What an emitter spawns.** In a tick after a run that does not go back, it spawns if its gate is open and moved; and, if it goes
on spawning, if its gate is open, the tick is past the activation, and it has not spawned in a tick of this number yet. -/
theorem spawnsOf_run (p : Presenter) (d : Presentation) (t : ℕ) (hp : p.stage = some (Stage.build p.settings.curve d t))
    (calls : List Call) (hc : ∀ c ∈ calls, c.keepsStage) (n : ℕ) (scope : Scope)
    (hforward : (t :: (tickNumbers calls ++ [n])).Pairwise (· ≤ ·)) (k : ℕ) (e : Emitter) (he : d.emitters[k]? = some e) :
    let g := (((Channel.ofAnimations p.settings.curve e.active).afterGates (ticks calls)).gate ⟨.tick, scope 0⟩).result
    let share := (p.run calls).state.spawnsOf n scope k
    (share = [] ∨ share = [⟨p.entity, .ofIndex k, e.spawnCount⟩]) ∧
      (share ≠ [] ↔ g.isOpen = true ∧ (g.moved = true ∨ e.everyTick = true ∧ t < n ∧ ¬p.SpawnedAt k n calls)) := by
  intro g share
  obtain ⟨hearlier, hn⟩ := pairwise_snoc.1 hforward
  -- the emitter as it is by then: its gate after the ticks, and its last spawn
  obtain ⟨l, hl, rfl, hactive⟩ := p.emitter_run d t hp calls hc he
  obtain ⟨last, hlast, hislast⟩ := p.lastSpawn?_run d t hp k l.emitter he calls hc hearlier
  obtain rfl : l.lastSpawn = last := by simpa [lastSpawn?, hl] using hlast
  have hshare : share = if l.spawns n g then [⟨p.entity, .ofIndex k, l.emitter.spawnCount⟩] else [] := by
    simp only [share, g, (p.run calls).state.spawnsOf_emitter n scope hl, l.output_tick, ← hactive, run_entity]
  rw [hshare, ← hislast.lt_iff hn]
  refine ⟨?_, ?_⟩
  · split_ifs
    · exact .inr rfl
    · exact .inl rfl
  · cases hspawns : l.spawns n g <;> simp_all [LiveEmitter.spawns]

/-! ## Main result -/

/-- an activation off stage and a reload set up a stage -/
theorem stage_start (p : Presenter) (d : Presentation) (t : ℕ) {start : Call}
    (h : start = .activate d t ∧ p.stage = none ∨ start = .reload d t) :
    (p.call start).state.stage = some (Stage.build (p.call start).state.settings.curve d t) := by
  rw [call_settings]
  rcases h with ⟨rfl, hp⟩ | rfl
  · simp only [call, activate, hp]
  · rfl

/-- **The cadence of emitters.** Set up a stage, by activation or reload, and let the ticks that follow never go back, nor before
that; calls that keep the stage may come between them. Then every tick spawns the shares of the emitters in the order of their
definitions. The share of an emitter is nothing, or one spawn of its quantity and at least of one, and that while its gate is open.
It spawns just if its gate is open and has moved, or is open and the emitter goes on spawning, the number of the tick is past that of
the setting up, and it has spawned nothing yet in a tick of this number. So without an edge it spawns at most once for each number.
And if the ticks get ahead each time, from the setting up on, an emitter that goes on spawning does so in every tick in which its
gate is open. -/
theorem emitter_cadence (q : Presenter) (d : Presentation) (t : ℕ) (start : Call)
    (hstart : start = .activate d t ∧ q.stage = none ∨ start = .reload d t) (calls : List Call)
    (hc : ∀ c ∈ calls, c.keepsStage) (n : ℕ) (scope : Scope) (o : Observer)
    (hforward : (t :: tickNumbers (calls ++ [.tick n scope o])).Pairwise (· ≤ ·)) :
    let p := (q.call start).state
    let now := (p.run calls).state
    (now.tick n scope o).output.spawns = (List.range d.emitters.length).flatMap (now.spawnsOf n scope) ∧
      ∀ k e, d.emitters[k]? = some e →
        let gate := (Channel.ofAnimations q.settings.curve e.active).afterGates (ticks calls)
        let g := (gate.gate ⟨.tick, scope 0⟩).result
        let share := now.spawnsOf n scope k
        (share = [] ∨ g.isOpen = true ∧ share = [⟨q.entity, .ofIndex k, max e.quantity 1⟩]) ∧
          (share ≠ [] ↔ g.isOpen = true ∧ (g.moved = true ∨ e.everyTick = true ∧ t < n ∧ ¬p.SpawnedAt k n calls)) ∧
          (e.everyTick = true → (t :: tickNumbers (calls ++ [.tick n scope o])).Pairwise (· < ·) →
            (share ≠ [] ↔ g.isOpen = true)) := by
  intro p now
  have hp := q.stage_start d t hstart
  have hcurve : p.settings.curve = q.settings.curve := congrArg Settings.curve (q.call_settings start)
  have hentity : p.entity = q.entity := q.call_entity start
  rw [tickNumbers_snoc] at hforward ⊢
  refine ⟨?_, ?_⟩
  · have hlength := congrArg List.length (p.emitters_run d t hp calls hc)
    rw [List.length_map, List.length_map] at hlength
    rw [← hlength]
    exact tick_spawns _ n scope o
  · intro k e he gate g share
    obtain ⟨hshare, hspawns⟩ := p.spawnsOf_run d t hp calls hc n scope hforward k e he
    rw [hcurve] at hspawns
    rw [hentity, Emitter.spawnCount_eq_max] at hshare
    refine ⟨?_, hspawns, ?_⟩
    · rcases hshare with hnone | hone
      · exact .inl hnone
      · exact .inr ⟨(hspawns.1 (by rw [hone]; exact List.cons_ne_nil _ _)).1, hone⟩
    · intro hevery hahead
      obtain ⟨-, hn⟩ := pairwise_snoc.1 hahead
      refine hspawns.trans (and_iff_left (.inr ⟨hevery, hn t List.mem_cons_self, ?_⟩))
      intro hspawned
      exact absurd (hn n (List.mem_cons_of_mem _ hspawned.mem_tickNumbers)) (lt_irrefl n)

/-- an exhaust that goes on while the engine runs, and a backfire when it starts -/
def engine : Presentation :=
  let runs : List (Animation Float) := [{ Animation.plain .visibility "engine" with clampMin := 1, clampMax := 1 }]
  ⟨[], [], [⟨"exhaust", 2, true, runs⟩, ⟨"backfire", 0, false, runs⟩, ⟨"haze", 1, true, []⟩], [], []⟩

/-- set up at 5, with the engine started in that very tick: the exhaust and the backfire spawn on the edge, the haze waits for 6 and
spawns there once, though 6 is handed in twice; and in the second 6 the engine starts again, so that the others spawn again -/
theorem emitter_cadence_engine :
    let on := (Table.ofList [("engine", 1)]).scope
    let off := (Table.ofList [("engine", 0)]).scope
    let q := new ⟨7⟩ {}
    let p := (q.call (.activate engine 5)).state
    let calls := [.tick 5 on {}, .frame 0.5 off, .tick 6 off {}]
    let now := (p.run calls).state
    q.stage = none ∧ (∀ c ∈ calls, c.keepsStage) ∧ (5 :: tickNumbers (calls ++ [.tick 6 on {}])).Pairwise (· ≤ ·) ∧
      (now.tick 6 on {}).output.spawns = [⟨⟨7⟩, ⟨0⟩, 2⟩, ⟨⟨7⟩, ⟨1⟩, 1⟩] ∧
      now.spawnsOf 6 on 2 = [] ∧ p.SpawnedAt 2 6 calls ∧
      (5 :: tickNumbers [.tick 8 off {}]).Pairwise (· < ·) ∧ p.spawnsOf 8 off 2 ≠ [] ∧ p.spawnsOf 8 off 0 = [] := by
  intro on off q p calls now
  have hkeeps : ∀ c ∈ calls, c.keepsStage := by simp [calls, Call.keepsStage]
  have hforward : (5 :: tickNumbers (calls ++ [.tick 6 on {}])).Pairwise (· ≤ ·) := by decide
  have hahead : (5 :: tickNumbers [.tick 8 off {}]).Pairwise (· < ·) := by decide
  have hspawned : p.SpawnedAt 2 6 calls := ⟨[.tick 5 on {}, .frame 0.5 off], off, {}, [], rfl, by decide +kernel⟩
  obtain ⟨hspawns, hshares⟩ := emitter_cadence q engine 5 _ (.inl ⟨rfl, rfl⟩) calls hkeeps 6 on {} hforward
  obtain ⟨-, hlater⟩ := emitter_cadence q engine 5 _ (.inl ⟨rfl, rfl⟩) [] (by simp) 8 off {} (by decide)
  refine ⟨rfl, hkeeps, hforward, hspawns.trans (by decide +kernel), ?_, hspawned, hahead, ?_, ?_⟩
  · -- the gate of the haze has no clock that could move
    obtain ⟨-, hlaw, -⟩ := hshares 2 _ rfl
    by_contra hshare
    rcases (hlaw.1 hshare).2 with hmoved | ⟨-, -, hnone⟩
    · exact absurd hmoved (by decide +kernel)
    · exact hnone hspawned
  · exact ((hlater 2 _ rfl).2.2 rfl hahead).2 (by decide +kernel)
  · by_contra hshare
    exact absurd (((hlater 0 _ rfl).2.2 rfl hahead).1 hshare) (by decide +kernel)

end Presenter

end Stagecraft
