/-
An entity on its own: a presenter and flags, driven by nothing but what concerns the entity. A request to the registry
concerns an entity of a world if it names both, or names the world as a whole; of the host's answers, those about the entity
are all that is left of them.

- `Solo`, `Concern`: the pair, and what may happen to it.
- `Request.concern?`: what a request means for one entity of a world.
- `Life`, `lives`: who is active in a world after requests, in order of activation, and what concerned each of them since. Both
  are read off the requests alone.
-/
import Mathlib.Tactic
import Stagecraft.Proofs.Presenter.Run
import Stagecraft.Proofs.Presenter.Tag
import Stagecraft.Registry.Request

namespace Stagecraft

/-! ## On its own -/

/-- what may happen to one entity -/
inductive Concern where
  | reload (presentation : Presentation) (tick : Nat)
  | flags (act : Flags → Flags)
  | soundFinished (sound : SoundId)
  | tick (tick : Nat) (own : Option Scope) (around : World) (observer : Observer)
  | frame (partialTick : Float32) (own : Option Scope) (around : World)
  | leave

/-- a presenter and the flags of its entity -/
structure Solo where
  presenter : Presenter
  flags : Flags

namespace Solo

def entity (s : Solo) : EntityId := s.presenter.entity

/-- a new presenter, activated, with the constants of its definition as flags -/
def start (settings : Settings) (entity : EntityId) (d : Presentation) (tick : Nat) : Solo :=
  ⟨((Presenter.new entity settings).activate d tick).state, Flags.replaceConstants {} d.constants⟩

/-- one tick; one-shot flags end with it -/
def tick (n : Nat) (own : Option Scope) (around : World) (observer : Observer) (s : Solo) : Turn Solo TickOutput :=
  let t := s.presenter.tick n (Scope.layered own around s.flags) observer
  ⟨⟨t.state, s.flags.clearOneShots⟩, t.output, t.events⟩

def frame (partialTick : Float32) (own : Option Scope) (around : World) (s : Solo) : Turn Solo FrameOutput :=
  let t := s.presenter.frame partialTick (Scope.layered own around s.flags)
  ⟨⟨t.state, s.flags⟩, t.output, t.events⟩

def step (s : Solo) : Concern → Turn Solo Response
  | .reload d n =>
    let t := s.presenter.reload d n
    ⟨⟨t.state, s.flags.replaceConstants d.constants⟩, .effects t.output, t.events⟩
  | .flags act => ⟨⟨s.presenter, act s.flags⟩, .done, []⟩
  | .soundFinished sound => ⟨⟨(s.presenter.soundFinished sound).1, s.flags⟩, .flag (s.presenter.soundFinished sound).2, []⟩
  | .tick n own around observer =>
    let t := s.tick n own around observer
    ⟨t.state, .effects t.output, t.events⟩
  | .frame partialTick own around =>
    let t := s.frame partialTick own around
    ⟨t.state, .picture t.output, t.events⟩
  | .leave => ⟨⟨s.presenter.teardown.state, s.flags⟩, .effects s.presenter.teardown.output, s.presenter.teardown.events⟩

/-- what happens to it, one after the other, with its responses -/
def run (s : Solo) : List Concern → Turn Solo (List Response)
  | [] => ⟨s, [], []⟩
  | c :: concerns =>
    let first := s.step c
    let rest := first.state.run concerns
    ⟨rest.state, first.output :: rest.output, first.events ++ rest.events⟩

/-- the pair after something that may have happened to it -/
def follow (s : Solo) (concern : Option Concern) : Solo := (s.run concern.toList).state

theorem entity_step (s : Solo) (c : Concern) : (s.step c).state.entity = s.entity := by
  cases c with
  | tick n own around observer => exact s.presenter.call_entity (.tick n (Scope.layered own around s.flags) observer)
  | frame q own around => exact s.presenter.call_entity (.frame q (Scope.layered own around s.flags))
  | _ => rfl

theorem entity_run (s : Solo) (concerns : List Concern) : (s.run concerns).state.entity = s.entity := by
  induction concerns generalizing s with
  | nil => rfl
  | cons c concerns ih => exact (ih _).trans (s.entity_step c)

theorem entity_follow (s : Solo) (concern : Option Concern) : (s.follow concern).entity = s.entity := s.entity_run _

theorem run_append_state (s : Solo) (first rest : List Concern) :
    (s.run (first ++ rest)).state = ((s.run first).state.run rest).state := by
  induction first generalizing s with
  | nil => rfl
  | cons c first ih => exact ih _

end Solo

/-! ## What a request concerns -/

namespace Request

/-- the world that a request is about -/
def world : Request → WorldId
  | .activate w _ _ _ | .reload w _ _ _ | .remove w _ | .removeAll w => w
  | .updateFlags w _ _ | .soundFinished w _ _ | .tick w _ _ | .frame w _ _ => w

/-- what a request means for an entity of a world -/
def concern? (world : WorldId) (entity : EntityId) : Request → Option Concern
  | .activate _ _ _ _ => none
  | .reload w e d n => if w = world ∧ e = entity then some (.reload d n) else none
  | .remove w e => if w = world ∧ e = entity then some .leave else none
  | .removeAll w => if w = world then some .leave else none
  | .updateFlags w e act => if w = world ∧ e = entity then some (.flags act) else none
  | .soundFinished w e sound => if w = world ∧ e = entity then some (.soundFinished sound) else none
  | .tick w n host =>
    if w = world then some (.tick n (host.own entity) (host.world entity) (host.observer entity)) else none
  | .frame w q host => if w = world then some (.frame q (host.own entity) (host.world entity)) else none

/-- whether a request lets an entity of a world go -/
def ends (world : WorldId) (entity : EntityId) : Request → Bool
  | .remove w e => w = world ∧ e = entity
  | .removeAll w => w = world
  | _ => false

end Request

/-! ## Lives -/

/-- one activation of an entity, and what concerned it since -/
structure Life where
  entity : EntityId
  presentation : Presentation
  /-- the tick of the activation -/
  since : Nat
  concerns : List Concern

namespace Life

/-- the entity on its own, as it is by now -/
def solo (settings : Settings) (l : Life) : Solo :=
  ((Solo.start settings l.entity l.presentation l.since).run l.concerns).state

/-- the life after one more request -/
def note (world : WorldId) (q : Request) (l : Life) : Life :=
  { l with concerns := l.concerns ++ (q.concern? world l.entity).toList }

theorem entity_solo (settings : Settings) (l : Life) : (l.solo settings).entity = l.entity := Solo.entity_run _ _

theorem solo_note (settings : Settings) (world : WorldId) (q : Request) (l : Life) :
    (l.note world q).solo settings = (l.solo settings).follow (q.concern? world l.entity) :=
  Solo.run_append_state _ _ _

end Life

/-- the life that a request begins in a world, where some entities live already -/
def Request.birth? (world : WorldId) (living : List EntityId) : Request → Option Life
  | .activate w e d n => if w = world ∧ e ∉ living then some ⟨e, d, n, []⟩ else none
  | _ => none

/-- the lives in a world after one more request -/
def Life.next (world : WorldId) (ls : List Life) (q : Request) : List Life :=
  (ls.filter fun l => !q.ends world l.entity).map (·.note world q) ++ (q.birth? world (ls.map (·.entity))).toList

/-- the entities of a world, each on its own, after one request -/
def Solo.next (settings : Settings) (world : WorldId) (ss : List Solo) (q : Request) : List Solo :=
  (ss.filter fun s => !q.ends world s.entity).map (fun s => s.follow (q.concern? world s.entity)) ++
    (q.birth? world (ss.map Solo.entity)).toList.map (Life.solo settings)

theorem Life.next_solo (settings : Settings) (world : WorldId) (ls : List Life) (q : Request) :
    (Life.next world ls q).map (Life.solo settings) = Solo.next settings world (ls.map (Life.solo settings)) q := by
  simp [Life.next, Solo.next, List.filter_map, Function.comp_def, Life.solo_note, Life.entity_solo]

/-- whoever is not let go stays in its place, and who is taken in comes last -/
theorem Solo.entities_next (settings : Settings) (world : WorldId) (ss : List Solo) (q : Request) :
    (Solo.next settings world ss q).map Solo.entity =
      (ss.map Solo.entity).filter (fun e => !q.ends world e) ++
        (q.birth? world (ss.map Solo.entity)).toList.map Life.entity := by
  simp [Solo.next, List.filter_map, Function.comp_def, Solo.entity_follow, Life.entity_solo]

/-- the lives in a world after requests, in order of activation -/
def lives (world : WorldId) (requests : List Request) : List Life := requests.foldl (Life.next world) []

theorem lives_snoc (world : WorldId) (requests : List Request) (q : Request) :
    lives world (requests ++ [q]) = Life.next world (lives world requests) q := by
  rw [lives, List.foldl_append]
  rfl

/-- what lets an entity go concerns none that lives on -/
theorem leave_not_mem_of_lives {world : WorldId} {requests : List Request} {l : Life} (hl : l ∈ lives world requests) :
    .leave ∉ l.concerns := by
  induction requests using List.reverseRecOn generalizing l with
  | nil => cases hl
  | append_singleton requests q ih =>
    rw [lives_snoc, Life.next, List.mem_append] at hl
    rcases hl with hl | hl
    · obtain ⟨l', hl', rfl⟩ := List.mem_map.1 hl
      obtain ⟨hlives, hstays⟩ := List.mem_filter.1 hl'
      have hconcern : q.concern? world l'.entity ≠ some .leave := by
        cases q with
        | remove w e => simpa [Request.concern?, Request.ends, imp_iff_not_or] using hstays
        | removeAll w => simpa [Request.concern?, Request.ends] using hstays
        | _ => simp [Request.concern?]
      simp only [Life.note, List.mem_append, Option.mem_toList, not_or]
      exact ⟨ih hlives, hconcern⟩
    · cases q with
      | activate w e d n =>
        simp only [Request.birth?] at hl
        split_ifs at hl
        · rw [List.mem_singleton.1 hl]
          exact List.not_mem_nil
        · cases hl
      | _ => cases hl

end Stagecraft
