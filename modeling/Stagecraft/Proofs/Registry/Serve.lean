/-
One request, as the entities of a world see it.

- `solos_serve`: each entity of the world takes what the request means for it, those that it lets go are gone, and an entity
  that it takes in comes last.
- `about_serve`, `silent_serve`: what the response says of an entity is the response of the entity on its own, or nothing
  if the request does not concern it.
-/
import Mathlib.Tactic
import Stagecraft.Proofs.Registry.Solo

namespace Stagecraft

/-- an entry without its world -/
def Entry.solo (e : Entry) : Solo := ⟨e.presenter, e.flags⟩

theorem Entry.isFor_eq (world : WorldId) (entity : EntityId) (e : Entry) :
    e.isFor world entity = decide (world = e.world ∧ entity = e.solo.entity) := by
  rw [Bool.eq_iff_iff]
  simp only [isFor, Bool.and_eq_true, decide_eq_true_eq]
  exact and_congr eq_comm eq_comm

namespace Registry

/-- the entities of a world, each on its own, in order of activation -/
def solos (r : Registry) (world : WorldId) : List Solo := (r.inWorld world).map Entry.solo

/-- an entity is active at most once in a world -/
def Distinct (r : Registry) (world : WorldId) : Prop := ((r.solos world).map Solo.entity).Nodup

variable {r : Registry} {world : WorldId}

theorem entities_eq (r : Registry) (world : WorldId) : r.entities world = (r.solos world).map Solo.entity := by
  rw [solos, List.map_map]
  rfl

theorem Distinct.eq_of_entity (h : r.Distinct world) {s s' : Solo} (hs : s ∈ r.solos world) (hs' : s' ∈ r.solos world)
    (he : s.entity = s'.entity) : s = s' := List.inj_on_of_nodup_map h hs hs' he

/-! ## Finding an entity -/

theorem mem_solos {s : Solo} : s ∈ r.solos world ↔ ∃ e ∈ r.entries, e.world = world ∧ e.solo = s := by
  simp [solos, inWorld, and_assoc]

theorem get?_none {entity : EntityId} : r.get? world entity = none ↔ entity ∉ (r.solos world).map Solo.entity := by
  simp only [get?, List.find?_eq_none, List.mem_map, mem_solos, Entry.isFor, Bool.and_eq_true, decide_eq_true_eq]
  constructor
  · rintro hnone ⟨s, ⟨e, he, hw, rfl⟩, hs⟩
    exact hnone e he ⟨hw, hs⟩
  · rintro hnone e he ⟨hw, hs⟩
    exact hnone ⟨e.solo, ⟨e, he, hw, rfl⟩, hs⟩

/-- a call that is refused is about none of the entities -/
theorem not_concerned {w : WorldId} {entity : EntityId} (he : r.get? w entity = none) :
    ∀ s ∈ r.solos world, ¬(w = world ∧ entity = s.entity) := by
  rintro s hs ⟨rfl, rfl⟩
  exact get?_none.1 he (List.mem_map_of_mem hs)

/-- the entry that is found is the entity on its own -/
theorem get?_some {entity : EntityId} {e : Entry} (he : r.get? world entity = some e) :
    e.world = world ∧ e.solo.entity = entity ∧ e.solo ∈ r.solos world := by
  have hfor := List.find?_some he
  simp only [Entry.isFor, Bool.and_eq_true, decide_eq_true_eq] at hfor
  exact ⟨hfor.1, hfor.2, mem_solos.2 ⟨e, List.mem_of_find?_eq_some he, hfor.1, rfl⟩⟩

theorem exists_get? (h : r.Distinct world) {s : Solo} (hs : s ∈ r.solos world) :
    ∃ e, r.get? world s.entity = some e ∧ e.world = world ∧ e.solo = s := by
  cases he : r.get? world s.entity with
  | none => exact absurd (List.mem_map_of_mem hs) (get?_none.1 he)
  | some e =>
    obtain ⟨hw, hentity, hmem⟩ := get?_some he
    exact ⟨e, rfl, hw, h.eq_of_entity hmem hs hentity⟩

/-! ## Changing entries -/

/-- entries changed one by one, seen from a world -/
theorem solos_map (r : Registry) (world : WorldId) {f : Entry → Entry} {g : Solo → Solo} (hworld : ∀ e, (f e).world = e.world)
    (hf : ∀ e, e.world = world → (f e).solo = g e.solo) :
    ({ r with entries := r.entries.map f } : Registry).solos world = (r.solos world).map g := by
  have hkept : (fun e : Entry => decide (e.world = world)) ∘ f = fun e => decide (e.world = world) := by
    funext e
    simp [hworld]
  simp only [solos, inWorld, List.filter_map, hkept, List.map_map]
  refine List.map_congr_left fun e he => ?_
  exact hf e (by simpa using (List.mem_filter.1 he).2)

/-- entries left out, seen from a world -/
theorem solos_filter (r : Registry) (world : WorldId) {keep : Entry → Bool} {keep' : Solo → Bool}
    (hkeep : ∀ e, e.world = world → keep e = keep' e.solo) :
    ({ r with entries := r.entries.filter keep } : Registry).solos world = (r.solos world).filter keep' := by
  simp only [solos, inWorld, List.filter_map, List.filter_filter]
  congr 1
  refine List.filter_congr fun e he => ?_
  cases hw : decide (e.world = world) with
  | false => simp
  | true => simpa using hkeep e (of_decide_eq_true hw)

/-- an entry that comes last, seen from a world -/
theorem solos_push (r : Registry) (world : WorldId) (e : Entry) :
    ({ r with entries := r.entries ++ [e] } : Registry).solos world =
      r.solos world ++ if e.world = world then [e.solo] else [] := by
  simp only [solos, inWorld, List.filter_append, List.map_append]
  by_cases hw : e.world = world <;> simp [hw]

/-- a call on one entity, seen from a world -/
theorem solos_onEntry (h : r.Distinct world) {ρ : Type} (respond : ρ → Response) (w : WorldId) (entity : EntityId)
    {act : Entry → Turn Entry ρ} {f : Solo → Solo} (hworld : ∀ e, (act e).state.world = e.world)
    (hact : ∀ e, (act e).state.solo = f e.solo) :
    (r.settle respond (r.onEntry w entity act)).state.solos world =
      (r.solos world).map fun s => if w = world ∧ entity = s.entity then f s else s := by
  cases he : r.get? w entity with
  | none =>
    simp only [onEntry, he, settle]
    rw [List.map_congr_left fun s hs => if_neg (not_concerned he s hs), List.map_id']
  | some e =>
    obtain ⟨hw, hentity, hmem⟩ := get?_some he
    simp only [onEntry, he, settle, set]
    have hset : ∀ old : Entry, old.world = world →
        (if old.isFor w entity then (act e).state else old).solo =
          if w = world ∧ entity = old.solo.entity then (act e).state.solo else old.solo := by
      intro old hold
      simp only [Entry.isFor_eq, hold, decide_eq_true_eq]
      split_ifs <;> rfl
    refine (r.solos_map world (g := fun s => if w = world ∧ entity = s.entity then (act e).state.solo else s) ?_
      hset).trans ?_
    · intro old
      split_ifs with hfor
      · rw [Entry.isFor_eq, decide_eq_true_eq] at hfor
        rw [hworld, hw, hfor.1]
      · rfl
    · refine List.map_congr_left fun s hs => ?_
      split_ifs with hs'
      · obtain ⟨rfl, rfl⟩ := hs'
        rw [hact, h.eq_of_entity hmem hs hentity]
      · rfl

/-- a call that lets an entity go, seen from a world -/
theorem solos_remove (r : Registry) (world w : WorldId) (entity : EntityId) :
    (r.settle .effects (r.remove w entity)).state.solos world =
      (r.solos world).filter fun s => !decide (w = world ∧ entity = s.entity) := by
  cases he : r.get? w entity with
  | none =>
    simp only [remove, he, settle]
    rw [List.filter_eq_self.2 fun s hs => by rw [decide_eq_false (not_concerned he s hs)]; rfl]
  | some e =>
    simp only [remove, he, settle]
    refine r.solos_filter world fun old hold => ?_
    rw [Entry.isFor_eq, hold]

/-- what is done to the entries of a world, one after the other -/
theorem stepEach_state {ρ : Type} [Append ρ] (nothing : ρ) (w : WorldId) (act : Entry → Turn Entry ρ)
    (es : List Entry) :
    (stepEach nothing w act es).state = es.map fun e => if e.world = w then (act e).state else e := by
  induction es with
  | nil => rfl
  | cons e es ih =>
    simp only [stepEach, List.map_cons]
    split_ifs <;> simp only [ih]

theorem stepEach_output {ρ : Type} [Append ρ] (nothing : ρ) (w : WorldId) (act : Entry → Turn Entry ρ)
    (es : List Entry) :
    (stepEach nothing w act es).output =
      ((es.filter (·.world = w)).map fun e => (act e).output).foldr (· ++ ·) nothing := by
  induction es with
  | nil => rfl
  | cons e es ih =>
    simp only [stepEach, List.filter_cons, decide_eq_true_eq]
    split_ifs <;> simp only [ih, List.map_cons, List.foldr_cons]

/-- a call on every entity of a world, seen from a world -/
theorem solos_stepEach (r : Registry) (world w : WorldId) {ρ : Type} [Append ρ] (nothing : ρ)
    {act : Entry → Turn Entry ρ} {f : Solo → Solo} (hworld : ∀ e, (act e).state.world = e.world)
    (hact : ∀ e, (act e).state.solo = f e.solo) :
    ({ r with entries := (stepEach nothing w act r.entries).state } : Registry).solos world =
      (r.solos world).map fun s => if w = world then f s else s := by
  rw [stepEach_state]
  refine r.solos_map world ?_ ?_
  · intro e
    split_ifs
    · exact hworld e
    · rfl
  · intro e he
    simp only [he, eq_comm (a := world)]
    split_ifs
    · exact hact e
    · rfl

/-- letting every entity of a world go, seen from a world, and what it asks for -/
theorem removeEach_all {w : WorldId} {ss : List Solo} {r : Registry} (h : r.Distinct w) (hss : r.solos w = ss) :
    (∀ world, (r.removeEach w (ss.map Solo.entity)).state.solos world = if w = world then [] else r.solos world) ∧
      (r.removeEach w (ss.map Solo.entity)).output.2 =
        TickOutput.concat (ss.map fun s => s.presenter.teardown.output) := by
  induction ss generalizing r with
  | nil =>
    refine ⟨fun world => ?_, rfl⟩
    split_ifs with hw
    · rw [← hw]
      exact hss
    · rfl
  | cons s ss ih =>
    obtain ⟨e, he, -, hsolo⟩ := exists_get? h (by rw [hss]; exact List.mem_cons_self : s ∈ r.solos w)
    -- the registry without the first entity
    have hfirst := fun world => r.solos_remove world w s.entity
    have hdistinct := h
    simp only [Distinct, hss, List.map_cons, List.nodup_cons, List.mem_map, not_exists, not_and] at hdistinct
    simp only [remove, he, settle] at hfirst
    have hrest : ∀ other ∈ ss, s.entity ≠ other.entity := fun other hother => (hdistinct.1 other hother ·.symm)
    have hleft : (r.solos w).filter (fun other => !decide (w = w ∧ s.entity = other.entity)) = ss := by
      rw [hss, List.filter_cons_of_neg (by simp), List.filter_eq_self]
      intro other hother
      simpa using hrest other hother
    obtain ⟨hsolos, houtput⟩ := ih (by rw [Distinct, hfirst, hleft]; exact hdistinct.2) ((hfirst w).trans hleft)
    simp only [List.map_cons, removeEach, remove, he]
    refine ⟨fun world => ?_, ?_⟩
    · rw [hsolos, hfirst]
      split_ifs with hw
      · rfl
      · rw [List.filter_eq_self.2 fun other _ => by simp [hw]]
    · rw [houtput, ← hsolo]
      rfl

/-! ## One request -/

/-- a request that lets nobody go and takes nobody in -/
theorem next_of_kept (settings : Settings) (world : WorldId) (ss : List Solo) {q : Request}
    (hends : ∀ entity, q.ends world entity = false) (hbirth : ∀ living, q.birth? world living = none) :
    Solo.next settings world ss q = ss.map fun s => s.follow (q.concern? world s.entity) := by
  simp [Solo.next, hends, hbirth]

/-- a request that lets some go, and is nothing to the others -/
theorem next_of_left (settings : Settings) (world : WorldId) (ss : List Solo) {q : Request}
    (hconcern : ∀ entity, q.ends world entity = false → q.concern? world entity = none)
    (hbirth : ∀ living, q.birth? world living = none) :
    Solo.next settings world ss q = ss.filter fun s => !q.ends world s.entity := by
  rw [Solo.next, hbirth, Option.toList_none, List.map_nil, List.append_nil]
  refine (List.map_congr_left fun s hs => ?_).trans (List.map_id' _)
  rw [hconcern s.entity (by simpa using (List.mem_filter.1 hs).2)]
  rfl

theorem follow_ite (s : Solo) (p : Prop) [Decidable p] (c : Concern) :
    s.follow (if p then some c else none) = if p then (s.step c).state else s := by
  split_ifs <;> rfl

theorem solos_activate (r : Registry) (world w : WorldId) (entity : EntityId) (d : Presentation) (n : Nat) :
    (r.settle (fun _ => .done) (r.activate w entity d n)).state.solos world =
      r.solos world ++ if w = world ∧ entity ∉ (r.solos world).map Solo.entity then
        [Solo.start r.settings entity d n] else [] := by
  cases he : r.get? w entity with
  | none =>
    simp only [activate, he, settle]
    refine (r.solos_push world _).trans ?_
    by_cases hw : w = world
    · obtain rfl := hw
      rw [if_pos rfl, if_pos ⟨rfl, get?_none.1 he⟩]
      rfl
    · rw [if_neg hw, if_neg fun hw' => hw hw'.1]
  | some e =>
    obtain ⟨-, hentity, hmem⟩ := get?_some he
    have hliving : ¬(w = world ∧ entity ∉ (r.solos world).map Solo.entity) := by
      rintro ⟨rfl, hfree⟩
      exact hfree (hentity ▸ List.mem_map_of_mem hmem)
    simp only [activate, he, settle]
    rw [if_neg hliving, List.append_nil]

/-- **One request.** Each entity of a world takes what the request means for it, those that it lets go are gone, and an entity
that it takes in comes last. -/
theorem solos_serve (h : ∀ world, r.Distinct world) (world : WorldId) (q : Request) :
    (r.serve q).state.solos world = Solo.next r.settings world (r.solos world) q := by
  cases q with
  | activate w entity d n =>
    refine (r.solos_activate world w entity d n).trans ?_
    have hall : (r.solos world).filter (fun s => !(Request.activate w entity d n).ends world s.entity) = r.solos world :=
      List.filter_eq_self.2 fun _ _ => rfl
    rw [Solo.next, hall]
    congr 1
    · exact (List.map_id' _).symm
    · simp only [Request.birth?]
      split_ifs <;> rfl
  | reload w entity d n =>
    rw [next_of_kept _ _ _ (fun _ => rfl) (fun _ => rfl)]
    simp only [Request.concern?, follow_ite]
    exact solos_onEntry (h world) _ w entity (fun _ => rfl) (fun _ => rfl)
  | remove w entity =>
    have hstays : ∀ e, (Request.remove w entity).ends world e = false →
        (Request.remove w entity).concern? world e = none := fun e he => if_neg (of_decide_eq_false he)
    rw [next_of_left _ _ _ hstays (fun _ => rfl)]
    exact r.solos_remove world w entity
  | removeAll w =>
    have hstays : ∀ e, (Request.removeAll w).ends world e = false →
        (Request.removeAll w).concern? world e = none := fun e he => if_neg (of_decide_eq_false he)
    rw [next_of_left _ _ _ hstays (fun _ => rfl)]
    have hleft := (removeEach_all (h w) rfl).1 world
    rw [← entities_eq] at hleft
    refine hleft.trans ?_
    by_cases hw : w = world <;> simp [Request.ends, hw]
  | updateFlags w entity act =>
    rw [next_of_kept _ _ _ (fun _ => rfl) (fun _ => rfl)]
    simp only [Request.concern?, follow_ite]
    exact solos_onEntry (h world) _ w entity (fun _ => rfl) (fun _ => rfl)
  | soundFinished w entity sound =>
    rw [next_of_kept _ _ _ (fun _ => rfl) (fun _ => rfl)]
    simp only [Request.concern?, follow_ite]
    exact solos_onEntry (h world) _ w entity (fun _ => rfl) (fun _ => rfl)
  | tick w n host =>
    rw [next_of_kept _ _ _ (fun _ => rfl) (fun _ => rfl)]
    simp only [Request.concern?, follow_ite]
    exact solos_stepEach r world w _ (fun _ => rfl) (fun _ => rfl)
  | frame w q host =>
    rw [next_of_kept _ _ _ (fun _ => rfl) (fun _ => rfl)]
    simp only [Request.concern?, follow_ite]
    exact solos_stepEach r world w _ (fun _ => rfl) (fun _ => rfl)

/-! ## Its response -/

/-- the tick of a world is that of its entities, each on its own, one after the other -/
theorem tick_output (r : Registry) (world : WorldId) (n : Nat) (host : Host) :
    (r.tick world n host).output = TickOutput.concat ((r.solos world).map fun s =>
      (s.tick n (host.own s.entity) (host.world s.entity) (host.observer s.entity)).output) := by
  rw [← TickOutput.foldr_append, solos, List.map_map]
  exact stepEach_output _ _ _ _

/-- and so is a frame -/
theorem frame_output (r : Registry) (world : WorldId) (partialTick : Float32) (host : Host) :
    (r.frame world partialTick host).output = FrameOutput.concat ((r.solos world).map fun s =>
      (s.frame partialTick (host.own s.entity) (host.world s.entity)).output) := by
  rw [← FrameOutput.foldr_append, solos, List.map_map]
  exact stepEach_output _ _ _ _

end Registry

/-- what a response says of one entity -/
def Response.about (entity : EntityId) : Response → Response
  | .effects o => .effects (o.about entity)
  | .unloaded _ o => .effects (o.about entity)
  | .picture o => .picture (o.about entity)
  | a => a

/-- a response that asks for nothing and shows nothing -/
def Response.isSilent : Response → Bool
  | .effects o => o.isEmpty
  | .unloaded _ o => o.isEmpty
  | .picture o => o.isEmpty
  | _ => true

/-- all that is stopped is its own -/
theorem Solo.stopped_about (s : Solo) :
    (Response.effects { audio := Voices.stopAll s.entity s.presenter.playing }).about s.entity =
      .effects { audio := Voices.stopAll s.entity s.presenter.playing } :=
  congrArg Response.effects (Voices.stopAll_entity _ _).about_self

/-- and nothing of another entity -/
theorem Solo.stopped_silent (s : Solo) {other : EntityId} (hne : s.entity ≠ other) :
    ((Response.effects { audio := Voices.stopAll s.entity s.presenter.playing }).about other).isSilent = true := by
  rw [Response.about, (Voices.stopAll_entity _ _).about_other hne]
  rfl

namespace Registry

variable {r : Registry} {world : WorldId}

/-- **One response.** What the response says of an entity that the request concerns is the response of the entity on its
own. -/
theorem about_serve (h : ∀ world, r.Distinct world) {s : Solo} (hs : s ∈ r.solos world) {q : Request} {c : Concern}
    (hc : q.concern? world s.entity = some c) : (r.serve q).output.about s.entity = (s.step c).output := by
  obtain ⟨e, he, -, rfl⟩ := exists_get? (h world) hs
  cases q with
  | activate w entity d n => cases hc
  | reload w entity d n =>
    obtain ⟨⟨rfl, rfl⟩, ⟨⟩⟩ := Option.ite_none_right_eq_some.1 hc
    simp only [serve, reload, onEntry, he, settle]
    exact e.solo.stopped_about
  | remove w entity =>
    obtain ⟨⟨rfl, rfl⟩, ⟨⟩⟩ := Option.ite_none_right_eq_some.1 hc
    simp only [serve, remove, he, settle]
    exact e.solo.stopped_about
  | removeAll w =>
    obtain ⟨rfl, ⟨⟩⟩ := Option.ite_none_right_eq_some.1 hc
    have hall := (removeEach_all (h w) rfl).2
    rw [← entities_eq] at hall
    refine (congrArg (fun o => Response.effects (o.about e.solo.entity)) hall).trans (congrArg Response.effects ?_)
    exact TickOutput.about_concat (fun s => s.presenter.teardown.output) Solo.entity
      (fun s _ => Voices.stopAll_entity _ _) (h w) hs
  | updateFlags w entity act =>
    obtain ⟨⟨rfl, rfl⟩, ⟨⟩⟩ := Option.ite_none_right_eq_some.1 hc
    simp only [serve, updateFlags, onEntry, he, settle]
    rfl
  | soundFinished w entity sound =>
    obtain ⟨⟨rfl, rfl⟩, ⟨⟩⟩ := Option.ite_none_right_eq_some.1 hc
    simp only [serve, soundFinished, onEntry, he, settle]
    rfl
  | tick w n host =>
    obtain ⟨rfl, ⟨⟩⟩ := Option.ite_none_right_eq_some.1 hc
    refine (congrArg (fun o => Response.effects (o.about e.solo.entity)) (r.tick_output w n host)).trans
      (congrArg Response.effects ?_)
    exact TickOutput.about_concat _ Solo.entity (fun s _ => s.presenter.tick_entity _ _ _) (h w) hs
  | frame w q host =>
    obtain ⟨rfl, ⟨⟩⟩ := Option.ite_none_right_eq_some.1 hc
    refine (congrArg (fun o => Response.picture (o.about e.solo.entity)) (r.frame_output w q host)).trans
      (congrArg Response.picture ?_)
    exact FrameOutput.about_concat _ Solo.entity (fun s _ => s.presenter.frame_entity _ _) (h w) hs

/-- **Other responses.** A request to the world that does not concern an entity presents nothing of it. -/
theorem silent_serve (r : Registry) (entity : EntityId) {q : Request} (hw : q.world = world)
    (hc : q.concern? world entity = none) : ((r.serve q).output.about entity).isSilent = true := by
  cases q with
  | activate w e d n =>
    simp only [serve]
    cases r.activate w e d n <;> rfl
  | reload w e d n =>
    obtain rfl : w = world := hw
    have hne : e ≠ entity := fun he => by simp [Request.concern?, he] at hc
    cases hget : r.get? w e with
    | none =>
      simp only [serve, reload, onEntry, hget, settle]
      rfl
    | some found =>
      simp only [serve, reload, onEntry, hget, settle]
      exact found.solo.stopped_silent ((get?_some hget).2.1 ▸ hne)
  | remove w e =>
    obtain rfl : w = world := hw
    have hne : e ≠ entity := fun he => by simp [Request.concern?, he] at hc
    cases hget : r.get? w e with
    | none =>
      simp only [serve, remove, hget, settle]
      rfl
    | some found =>
      simp only [serve, remove, hget, settle]
      exact found.solo.stopped_silent ((get?_some hget).2.1 ▸ hne)
  | updateFlags w e act =>
    simp only [serve]
    cases r.updateFlags w e fun flags => (act flags, ()) <;> rfl
  | soundFinished w e sound =>
    simp only [serve]
    cases r.soundFinished w e sound <;> rfl
  -- the others concern every entity of the world
  | removeAll w => cases (if_pos hw).symm.trans hc
  | tick w n host => cases (if_pos hw).symm.trans hc
  | frame w q host => cases (if_pos hw).symm.trans hc

end Registry

end Stagecraft
