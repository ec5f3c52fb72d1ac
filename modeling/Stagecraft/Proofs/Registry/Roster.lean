/-
The registry as an ordered map. Who is active in a world can be read off the calls that were served: whoever was taken in and
not let go since, in the order of being taken in. A call is served or refused as a whole, and touches no entity but its own;
and unloading a world is letting its entities go one by one.

- `entities_run`: the entities of a world after requests are its roster.
- `atomic`: which calls are refused, what a refused call leaves as it was, and what a served one does.
- `unloads_each`: unloading, compared with the removals one by one.
- `ordered_and_atomic`: all of it, for runs from an empty registry.
-/
import Mathlib.Tactic
import Stagecraft.Proofs.Registry.Isolation

namespace Stagecraft

/-! ## The roster -/

def Response.isRefused : Response → Bool
  | .refused _ => true
  | _ => false

/-- what a response adds to the outputs of a tick -/
def Response.added : Response → TickOutput
  | .effects o => o
  | .unloaded _ o => o
  | _ => {}

namespace Request

/-- the entity that a request takes into a world -/
def joins? (world : WorldId) : Request → Option EntityId
  | .activate w e _ _ => if w = world then some e else none
  | _ => none

/-- the entity of a world that a request is a call on; the other requests are about a world as a whole -/
def subject? : Request → Option (WorldId × EntityId)
  | .activate w e _ _ | .reload w e _ _ | .remove w e | .updateFlags w e _ | .soundFinished w e _ => some (w, e)
  | .removeAll _ | .tick _ _ _ | .frame _ _ _ => none

end Request

/-- who was taken into a world by requests and not let go by a later one, in the order of being taken in -/
def roster (world : WorldId) : List Request → List EntityId
  | [] => []
  | q :: later =>
    ((q.joins? world).toList.filter fun e => later.all fun q' => !q'.ends world e) ++ roster world later

/-- one request more lets some go, and who it takes in comes last -/
theorem roster_snoc (world : WorldId) (log : List Request) (q : Request) :
    roster world (log ++ [q]) = (roster world log).filter (fun e => !q.ends world e) ++ (q.joins? world).toList := by
  induction log with
  | nil => simp [roster]
  | cons first later ih =>
    have hstays : ∀ e, (later ++ [q]).all (fun q' => !q'.ends world e) =
        (!q.ends world e && later.all fun q' => !q'.ends world e) := fun e => by
      rw [List.all_append, List.all_cons, List.all_nil, Bool.and_true, Bool.and_comm]
    simp only [List.cons_append, roster, hstays, ih, List.filter_append, List.filter_filter, List.append_assoc]

namespace Registry

variable {r : Registry} {w : WorldId} {e : EntityId}

/-- the requests that are not refused -/
def served (r : Registry) : List Request → List Request
  | [] => []
  | q :: requests =>
    (if (r.serve q).output.isRefused then [] else [q]) ++ (r.serve q).state.served requests

theorem run_snoc_state (r : Registry) (requests : List Request) (q : Request) :
    (r.run (requests ++ [q])).state = ((r.run requests).state.serve q).state := by
  induction requests generalizing r with
  | nil => rfl
  | cons first requests ih => exact ih _

theorem served_snoc (r : Registry) (requests : List Request) (q : Request) :
    r.served (requests ++ [q]) =
      r.served requests ++ if ((r.run requests).state.serve q).output.isRefused then [] else [q] := by
  induction requests generalizing r with
  | nil => exact List.append_nil _
  | cons first requests ih => exact (congrArg _ (ih _)).trans (List.append_assoc _ _ _).symm

/-! ## Which calls are refused -/

theorem get?_eq_none_iff : r.get? w e = none ↔ e ∉ r.entities w := by
  rw [get?_none, entities_eq]

theorem exists_get?_iff : (∃ found, r.get? w e = some found) ↔ e ∈ r.entities w := by
  rw [← Option.ne_none_iff_exists', ne_eq, get?_eq_none_iff, not_not]

/-- an activation is refused if the entity is active -/
theorem activate_refused {d : Presentation} {n : Nat} {why : Refusal} :
    (r.serve (.activate w e d n)).output = .refused why ↔ why = .alreadyActive w e ∧ e ∈ r.entities w := by
  cases hfound : r.get? w e with
  | none =>
    have hfree : e ∉ r.entities w := get?_eq_none_iff.1 hfound
    simp [serve, activate, hfound, settle, hfree]
  | some found =>
    have hactive : e ∈ r.entities w := exists_get?_iff.1 ⟨found, hfound⟩
    simp [serve, activate, hfound, settle, hactive, eq_comm]

/-- a call on an entry is refused if there is none -/
theorem onEntry_refused {ρ : Type} {respond : ρ → Response} (hrespond : ∀ a why, respond a ≠ .refused why)
    {act : Entry → Turn Entry ρ} {why : Refusal} :
    (r.settle respond (r.onEntry w e act)).output = .refused why ↔ why = .unknownEntity w e ∧ e ∉ r.entities w := by
  cases hfound : r.get? w e with
  | none =>
    have hfree : e ∉ r.entities w := get?_eq_none_iff.1 hfound
    simp [onEntry, hfound, settle, hfree, eq_comm]
  | some found =>
    have hactive : e ∈ r.entities w := exists_get?_iff.1 ⟨found, hfound⟩
    simp [onEntry, hfound, settle, hactive, hrespond]

theorem remove_refused {why : Refusal} :
    (r.serve (.remove w e)).output = .refused why ↔ why = .unknownEntity w e ∧ e ∉ r.entities w := by
  cases hfound : r.get? w e with
  | none =>
    have hfree : e ∉ r.entities w := get?_eq_none_iff.1 hfound
    simp [serve, remove, hfound, settle, hfree, eq_comm]
  | some found =>
    have hactive : e ∈ r.entities w := exists_get?_iff.1 ⟨found, hfound⟩
    simp [serve, remove, hfound, settle, hactive]

/-! ## What a refused call does -/

theorem settle_refused {ρ : Type} {respond : ρ → Response} (hrespond : ∀ a why, respond a ≠ .refused why)
    {x : Except Refusal (Turn Registry ρ)} {why : Refusal} (h : (r.settle respond x).output = .refused why) :
    r.settle respond x = ⟨r, .refused why, []⟩ := by
  cases x with
  | error why' =>
    obtain rfl : why' = why := Response.refused.inj h
    rfl
  | ok t => exact absurd h (hrespond _ _)

/-- a refused call does nothing -/
theorem serve_refused {q : Request} {why : Refusal} (h : (r.serve q).output = .refused why) :
    r.serve q = ⟨r, .refused why, []⟩ := by
  cases q with
  | activate w e d n => exact settle_refused (fun _ _ => by simp) h
  | reload w e d n => exact settle_refused (fun _ _ => by simp) h
  | remove w e => exact settle_refused (fun _ _ => by simp) h
  | updateFlags w e act => exact settle_refused (fun _ _ => by simp) h
  | soundFinished w e sound => exact settle_refused (fun _ _ => by simp) h
  -- the others are never refused
  | removeAll w => cases h
  | tick w n host => cases h
  | frame w q host => cases h

/-! ## Order -/

theorem entities_serve (h : ∀ world, r.Distinct world) (q : Request) (world : WorldId) :
    (r.serve q).state.entities world =
      (r.entities world).filter (fun e => !q.ends world e) ++
        (q.birth? world (r.entities world)).toList.map Life.entity := by
  rw [entities_eq, solos_serve h, Solo.entities_next, ← entities_eq]

/-- a request that is served lets some go, and who it takes in comes last -/
theorem entities_served (h : ∀ world, r.Distinct world) {q : Request} (hq : (r.serve q).output.isRefused = false)
    (world : WorldId) :
    (r.serve q).state.entities world =
      (r.entities world).filter (fun e => !q.ends world e) ++ (q.joins? world).toList := by
  rw [entities_serve h]
  congr 1
  cases q with
  | activate w e d n =>
    by_cases hw : w = world
    · have hfree : e ∉ r.entities world := by
        intro hactive
        have hrefused := activate_refused (d := d) (n := n).2 ⟨rfl, hw ▸ hactive⟩
        rw [hrefused] at hq
        cases hq
      simp [Request.birth?, Request.joins?, hw, hfree]
    · simp [Request.birth?, Request.joins?, hw]
  | _ => rfl

/-- **Order.** The entities of a world after requests are the roster of the requests that were served. -/
theorem entities_run (settings : Settings) (requests : List Request) (world : WorldId) :
    ((new settings).run requests).state.entities world = roster world ((new settings).served requests) := by
  induction requests using List.reverseRecOn with
  | nil => rfl
  | append_singleton requests q ih =>
    rw [run_snoc_state, served_snoc]
    cases ha : (((new settings).run requests).state.serve q).output with
    | refused why =>
      rw [serve_refused ha, ih]
      exact congrArg _ (List.append_nil _).symm
    | _ =>
      have hq : (((new settings).run requests).state.serve q).output.isRefused = false := by rw [ha]; rfl
      rw [entities_served (distinct_run settings requests) hq, ih]
      exact (roster_snoc _ _ _).symm

/-! ## The others -/

/-- every entry but that of an entity, over all worlds -/
def others (r : Registry) (w : WorldId) (e : EntityId) : List Entry := r.entries.filter fun x => !x.isFor w e

/-- an entity is found among the others of another -/
theorem get?_others (r : Registry) {w w' : WorldId} {e e' : EntityId} (hne : (w', e') ≠ (w, e)) :
    r.get? w' e' = (r.others w e).find? (Entry.isFor w' e') := by
  rw [get?, others, List.find?_filter]
  congr 1
  funext x
  cases hx : x.isFor w' e' with
  | false => simp
  | true =>
    have hother : x.isFor w e = false := by
      rw [Entry.isFor_eq, decide_eq_true_eq] at hx
      rw [Entry.isFor_eq, decide_eq_false_iff_not]
      rintro ⟨hw, he⟩
      exact hne (Prod.ext (hx.1.trans hw.symm) (hx.2.trans he.symm))
    simp [hother]

theorem others_set (r : Registry) {x : Entry} (hx : x.isFor w e = true) : (r.set w e x).others w e = r.others w e := by
  have hkept : (fun y : Entry => !y.isFor w e) ∘ (fun old => if old.isFor w e then x else old) =
      fun old => !old.isFor w e := by
    funext old
    by_cases hold : old.isFor w e = true <;> simp [hold, hx]
  simp only [others, set, List.filter_map, hkept]
  refine (List.map_congr_left fun old hold => ?_).trans (List.map_id' _)
  have hother : old.isFor w e = false := by simpa using (List.mem_filter.1 hold).2
  rw [hother]
  rfl

theorem others_onEntry {ρ : Type} (respond : ρ → Response) {act : Entry → Turn Entry ρ}
    (hact : ∀ x, (act x).state.isFor w e = x.isFor w e) :
    (r.settle respond (r.onEntry w e act)).state.others w e = r.others w e := by
  cases hfound : r.get? w e with
  | none => simp only [onEntry, hfound, settle]
  | some found =>
    simp only [onEntry, hfound, settle]
    exact r.others_set ((hact found).trans (List.find?_some hfound))

theorem others_remove (r : Registry) (w : WorldId) (e : EntityId) :
    (r.serve (.remove w e)).state.others w e = r.others w e := by
  cases hfound : r.get? w e with
  | none => simp only [serve, remove, hfound, settle]
  | some found => simp [serve, remove, hfound, settle, others]

theorem others_activate (r : Registry) (w : WorldId) (e : EntityId) (d : Presentation) (n : Nat) :
    (r.serve (.activate w e d n)).state.others w e = r.others w e := by
  cases hfound : r.get? w e with
  | some found => simp only [serve, activate, hfound, settle]
  | none =>
    simp only [serve, activate, hfound, settle, others, List.filter_append]
    simp [Entry.isFor, Entry.entity, Presenter.activate, Presenter.new]

/-- a call on an entity leaves the entries of all others as they are -/
theorem others_serve {q : Request} (hq : q.subject? = some (w, e)) : (r.serve q).state.others w e = r.others w e := by
  cases q with
  | activate w e d n => cases hq; exact r.others_activate w e d n
  | reload w e d n => cases hq; exact others_onEntry _ fun _ => rfl
  | remove w e => cases hq; exact r.others_remove w e
  | updateFlags w e act => cases hq; exact others_onEntry _ fun _ => rfl
  | soundFinished w e sound => cases hq; exact others_onEntry _ fun _ => rfl
  | removeAll w => cases hq
  | tick w n host => cases hq
  | frame w p host => cases hq

/-- what a call on an entity is to a registry: refused without a trace, or done to that entity alone -/
structure Atomic (r : Registry) : Prop where
  /-- who is active already is not taken in -/
  taken : ∀ w e d n why,
    (r.serve (.activate w e d n)).output = .refused why ↔ why = .alreadyActive w e ∧ e ∈ r.entities w
  /-- the other calls need an entity that is active -/
  unknown : ∀ w e d n act sound,
    ∀ q ∈ [Request.reload w e d n, .remove w e, .updateFlags w e act, .soundFinished w e sound], ∀ why,
      (r.serve q).output = .refused why ↔ why = .unknownEntity w e ∧ e ∉ r.entities w
  /-- a refused call changes nothing, adds no output and reports nothing -/
  refused : ∀ q why, (r.serve q).output = .refused why →
    (r.serve q).state = r ∧ (r.serve q).output.added = {} ∧ (r.serve q).events = []
  /-- a call leaves every other entity of every world as it is -/
  others : ∀ q w e, q.subject? = some (w, e) → ∀ w' e', (w', e') ≠ (w, e) →
    (r.serve q).state.get? w' e' = r.get? w' e'

theorem atomic (r : Registry) : r.Atomic where
  taken w e d n why := activate_refused
  unknown w e d n act sound q hq why := by
    simp only [List.mem_cons, List.not_mem_nil, or_false] at hq
    rcases hq with rfl | rfl | rfl | rfl
    · exact onEntry_refused fun _ _ => by simp
    · exact remove_refused
    · exact onEntry_refused fun _ _ => by simp
    · exact onEntry_refused fun _ _ => by simp
  refused q why h := by
    rw [serve_refused h]
    exact ⟨rfl, rfl, rfl⟩
  others q w e hq w' e' hne := by
    rw [get?_others _ hne, others_serve hq, ← get?_others _ hne]

/-! ## Unloading a world -/

/-- the removal of every entity of a world, in order -/
def removals (r : Registry) (w : WorldId) : List Request := (r.entities w).map (.remove w)

theorem length_run_output (r : Registry) (requests : List Request) :
    (r.run requests).output.length = requests.length := by
  induction requests generalizing r with
  | nil => rfl
  | cons q requests ih => exact congrArg (· + 1) (ih _)

/-- letting entities go one after the other is a run of removals; those that are not refused are counted -/
theorem removeEach_run (r : Registry) (w : WorldId) (ids : List EntityId) :
    r.removeEach w ids =
      ⟨(r.run (ids.map (.remove w))).state,
        ((r.run (ids.map (.remove w))).output.countP (!·.isRefused),
          .concat ((r.run (ids.map (.remove w))).output.map Response.added)),
        (r.run (ids.map (.remove w))).events⟩ := by
  induction ids generalizing r with
  | nil => rfl
  | cons e ids ih =>
    have hserve : r.serve (.remove w e) = r.settle .effects (r.remove w e) := rfl
    simp only [removeEach, List.map_cons, run, hserve]
    cases r.remove w e with
    | error why =>
      simp only [ih, settle]
      rfl
    | ok first =>
      have hcounted (as : List Response) : (Response.effects first.output :: as).countP (!·.isRefused) =
          as.countP (!·.isRefused) + 1 := List.countP_cons_of_pos rfl
      simp only [ih, settle, hcounted]
      rfl

/-- entities that are active, each named once, are all let go -/
theorem removals_served (h : ∀ world, r.Distinct world) {ids : List EntityId} (hids : ids.Nodup)
    (hactive : ∀ e ∈ ids, e ∈ r.entities w) :
    ∀ a ∈ (r.run (ids.map (.remove w))).output, a.isRefused = false := by
  induction ids generalizing r with
  | nil => simp [run]
  | cons e ids ih =>
    obtain ⟨hnew, hids⟩ := List.nodup_cons.1 hids
    have hleft : ∀ e' ∈ ids, e' ∈ (r.serve (.remove w e)).state.entities w := by
      intro e' he'
      rw [entities_serve h]
      refine List.mem_append_left _ (List.mem_filter.2 ⟨hactive e' (List.mem_cons_of_mem e he'), ?_⟩)
      have hne : e ≠ e' := fun hsame => hnew (hsame ▸ he')
      simp [Request.ends, hne]
    rw [List.map_cons, run, List.forall_mem_cons]
    refine ⟨?_, ih (distinct_serve h _) hids hleft⟩
    cases ha : (r.serve (.remove w e)).output with
    | refused why => exact absurd (hactive e List.mem_cons_self) (remove_refused.1 ha).2
    | _ => rfl

theorem inWorld_remove (r : Registry) (w : WorldId) (e : EntityId) {other : WorldId} (hne : other ≠ w) :
    (r.serve (.remove w e)).state.inWorld other = r.inWorld other := by
  cases hfound : r.get? w e with
  | none => simp only [serve, remove, hfound, settle]
  | some found =>
    simp only [serve, remove, hfound, settle, inWorld, List.filter_filter]
    refine List.filter_congr fun x _ => ?_
    cases hx : decide (x.world = other) with
    | false => simp
    | true =>
      have hother : x.isFor w e = false := by
        rw [Entry.isFor_eq, decide_eq_false_iff_not]
        exact fun hw => hne ((of_decide_eq_true hx).symm.trans hw.1.symm)
      simp [hother]

theorem inWorld_removals (r : Registry) (w : WorldId) (ids : List EntityId) {other : WorldId} (hne : other ≠ w) :
    (r.run (ids.map (.remove w))).state.inWorld other = r.inWorld other := by
  induction ids generalizing r with
  | nil => rfl
  | cons e ids ih => exact (ih _).trans (r.inWorld_remove w e hne)

/-- what unloading a world is to a registry: the removals of its entities, one by one -/
structure UnloadsEach (r : Registry) (w : WorldId) : Prop where
  state : (r.serve (.removeAll w)).state = (r.run (r.removals w)).state
  events : (r.serve (.removeAll w)).events = (r.run (r.removals w)).events
  /-- every one of the removals is served -/
  served : ∀ a ∈ (r.run (r.removals w)).output, a.isRefused = false
  /-- what they add one by one is added, and their number is counted -/
  output : (r.serve (.removeAll w)).output =
    .unloaded (r.size w) (.concat ((r.run (r.removals w)).output.map Response.added))
  /-- every voice of the world is stopped once, and nothing else is asked for -/
  stops : (r.serve (.removeAll w)).output.added =
    { audio := (r.inWorld w).flatMap fun x => x.presenter.playing.map fun v => .stop x.entity v.sound v.name }
  empty : (r.serve (.removeAll w)).state.entities w = []
  elsewhere : ∀ other, other ≠ w → (r.serve (.removeAll w)).state.inWorld other = r.inWorld other

theorem unloads_each (h : ∀ world, r.Distinct world) (w : WorldId) : r.UnloadsEach w := by
  have heach := r.removeEach_run w (r.entities w)
  obtain ⟨hsolos, hstops⟩ := removeEach_all (h w) rfl
  rw [← entities_eq] at hsolos hstops
  have hserved : ∀ a ∈ (r.run (r.removals w)).output, a.isRefused = false :=
    removals_served h (r.entities_eq w ▸ h w) fun _ he => he
  have hcount : (r.run (r.removals w)).output.countP (!·.isRefused) = r.size w := by
    rw [List.countP_eq_length.2 fun a ha => by simpa using hserved a ha, length_run_output]
    simp [removals, entities, size]
  have houtput : (r.serve (.removeAll w)).output =
      .unloaded (r.size w) (.concat ((r.run (r.removals w)).output.map Response.added)) := by
    rw [← hcount]
    exact congrArg (fun t => Response.unloaded t.output.1 t.output.2) heach
  -- what is added is what the teardowns of the entities ask for, and that is to stop what plays
  have hadded : (r.serve (.removeAll w)).output.added =
      { audio := (r.inWorld w).flatMap fun x => x.presenter.playing.map fun v => .stop x.entity v.sound v.name } := by
    refine hstops.trans ?_
    rw [solos, List.map_map, TickOutput.concat, List.flatMap_map, List.flatMap_map]
    exact congrArg (TickOutput.mk _) (by simp [Presenter.teardown])
  have hempty : (r.serve (.removeAll w)).state.entities w = [] := by
    have hnone := hsolos w
    rw [if_pos rfl] at hnone
    rw [entities_eq]
    exact congrArg (List.map Solo.entity) hnone
  refine ⟨congrArg Turn.state heach, congrArg Turn.events heach, hserved, houtput, hadded, hempty, ?_⟩
  intro other hne
  exact (congrArg (fun t => t.state.inWorld other) heach).trans (r.inWorld_removals w (r.entities w) hne)

/-! ## Runs -/

/-- **The registry is an ordered map.** After any requests to an empty registry, the entities of a world are its roster, no
two of them the same; a request that is served lets some go, without moving the others, and takes one in at the end at most; a
call is refused or done to one entity alone; and unloading a world is the removal of its entities, one by one. -/
theorem ordered_and_atomic (settings : Settings) (past : List Request) :
    let r := ((new settings).run past).state
    (∀ world, (r.entities world).Nodup ∧ r.entities world = roster world ((new settings).served past)) ∧
      (∀ q world, (r.serve q).output.isRefused = false → (r.serve q).state.entities world =
        (r.entities world).filter (fun e => !q.ends world e) ++ (q.joins? world).toList) ∧
      r.Atomic ∧ ∀ world, r.UnloadsEach world := by
  intro r
  have hdistinct := distinct_run settings past
  refine ⟨fun world => ⟨?_, entities_run settings past world⟩, fun q world hq => entities_served hdistinct hq world,
    r.atomic, unloads_each hdistinct⟩
  rw [entities_eq]
  exact hdistinct world

/-- a horn that sounds all the time -/
def foghorn : Presentation where
  lights := []
  sounds := [⟨"fog", true, false, false, false, [Animation.plain .visibility "always"], [], []⟩]
  emitters := []
  objects := []
  constants := []

def harbour : Host := { world := fun _ => {}, observer := fun _ => {} }

/-- three horns sound in one harbour and one lies silent in another; then the second horn is taken down and put up again, and
two calls go wrong -/
def watch : List Request :=
  [.activate ⟨1⟩ ⟨7⟩ foghorn 0, .activate ⟨1⟩ ⟨8⟩ foghorn 0, .activate ⟨2⟩ ⟨7⟩ foghorn 0, .activate ⟨1⟩ ⟨9⟩ foghorn 0,
    .tick ⟨1⟩ 1 harbour, .remove ⟨1⟩ ⟨8⟩, .remove ⟨1⟩ ⟨8⟩, .activate ⟨1⟩ ⟨8⟩ foghorn 1, .activate ⟨1⟩ ⟨7⟩ foghorn 1]

/-- the horn that was put up again comes last; unloading the harbour stops the two that sound -/
theorem ordered_and_atomic_harbour :
    let r := ((new {}).run watch).state
    let twice := Request.activate ⟨1⟩ ⟨9⟩ foghorn 2
    let early := Request.remove ⟨1⟩ ⟨7⟩
    r.entities ⟨1⟩ = [⟨7⟩, ⟨9⟩, ⟨8⟩] ∧ roster ⟨1⟩ ((new {}).served watch) = [⟨7⟩, ⟨9⟩, ⟨8⟩] ∧
      (r.serve early).output.isRefused = false ∧ (r.serve early).state.entities ⟨1⟩ = [⟨9⟩, ⟨8⟩] ∧
      (r.serve early).state.get? ⟨2⟩ ⟨7⟩ = r.get? ⟨2⟩ ⟨7⟩ ∧
      (r.serve (.soundFinished ⟨2⟩ ⟨9⟩ ⟨0⟩)).output = .refused (.unknownEntity ⟨2⟩ ⟨9⟩) ∧
      (r.serve twice).output = .refused (.alreadyActive ⟨1⟩ ⟨9⟩) ∧ (r.serve twice).state = r ∧
      (r.serve (.removeAll ⟨1⟩)).output = .unloaded 3 ⟨[.stop ⟨7⟩ ⟨0⟩ "fog", .stop ⟨9⟩ ⟨0⟩ "fog"], []⟩ ∧
      (r.serve (.removeAll ⟨1⟩)).state = (r.run (r.removals ⟨1⟩)).state := by
  intro r twice early
  obtain ⟨hordered, hserved, hatomic, hunloads⟩ := ordered_and_atomic {} watch
  have hentities : r.entities ⟨1⟩ = [⟨7⟩, ⟨9⟩, ⟨8⟩] := by decide +kernel
  have hearly : (r.serve early).output.isRefused = false := by decide +kernel
  have htwice : (r.serve twice).output = .refused (.alreadyActive ⟨1⟩ ⟨9⟩) :=
    (hatomic.taken _ _ _ _ _).2 ⟨rfl, by rw [hentities]; decide⟩
  have hunknown : (r.serve (.soundFinished ⟨2⟩ ⟨9⟩ ⟨0⟩)).output = .refused (.unknownEntity ⟨2⟩ ⟨9⟩) :=
    (hatomic.unknown ⟨2⟩ ⟨9⟩ foghorn 0 id ⟨0⟩ _ (by simp) _).2 ⟨rfl, by decide +kernel⟩
  refine ⟨hentities, (hordered ⟨1⟩).2.symm.trans hentities, hearly, ?_, ?_, hunknown, htwice, ?_, ?_, ?_⟩
  · rw [hserved early ⟨1⟩ hearly, hentities]
    decide
  · exact hatomic.others early ⟨1⟩ ⟨7⟩ rfl ⟨2⟩ ⟨7⟩ (by decide)
  · exact (hatomic.refused twice _ htwice).1
  · decide +kernel
  · exact (hunloads ⟨1⟩).state

end Registry

end Stagecraft
