/-
The steps of a pose, said without the sweep that makes them. Of the tracks of a channel, those that move something and are reached
while nothing inhibits the channel give a step each, in the order of the channel. A step shapes the value of its track; if its
animation rides, the shaped value rides on that of the nearest step of the same kind before it. So a chain of riding steps adds up
link by link, each through its own bounds, and passes over inhibited tracks and over steps of other kinds.

- `Channel.Moves`, `Rides`, `Channel.Stacked`: which tracks give a step, what it rides on, and the steps as a whole.
- `Stacked.skip`, `Stacked.push`: one more track, without a step and with one.
- `Stacked.unique`: a channel has its steps and no others.
- `isOpen_run`, `run_stacked`: how far a sweep goes, and the steps that it has then.
- `pose_stacked`: the pose of a channel, in a tick or in a frame.
-/
import Mathlib.Tactic
import Stagecraft.Proofs.Channel.Sweep

namespace Stagecraft

/-! ## Steps without a sweep -/

/-- the value of a track before it is shaped; in a tick, its clock has taken the tick -/
def Track.unshaped (s : Sampling) (t : Track) : Float :=
  let (raw, signal) := t.input (s.resolve t.animation.source)
  let clock := match s.view with
    | .tick => t.clock.advance t.animation.toTiming signal
    | .frame => t.clock
  clock.effective t.curve t.animation.toTiming raw

theorem Track.sample_value (s : Sampling) (stacking : Float) (t : Track) :
    (t.sample s stacking).2.value = t.animation.apply stacking (t.unshaped s) := rfl

/-- the gate test of a track -/
def Track.passes (s : Sampling) (t : Track) : Bool :=
  t.animation.passes (t.animation.apply (Float.ofNat 0) (t.unshaped s))

/-- whether a channel is inhibited behind one more track -/
def Track.inhibits (s : Sampling) (inhibited : Bool) (t : Track) : Bool :=
  match t.animation.kind with
  | .inhibitor => inhibited || t.passes s
  | .activator => inhibited && !t.passes s
  | _ => inhibited

namespace Channel

/-- whether a channel is inhibited behind all of its tracks -/
def isInhibited (s : Sampling) (ts : Channel) : Bool := ts.foldl (Track.inhibits s) false

/-- no visibility that is reached while the channel is not inhibited fails -/
def Shows (s : Sampling) (ts : Channel) : Prop :=
  ∀ i t, ts[i]? = some t → t.animation.kind = .visibility → isInhibited s (ts.take i) = false → t.passes s = true

/-- there is a moving track at a place, and it is reached while the channel is not inhibited -/
def Moves (s : Sampling) (ts : Channel) (i : ℕ) : Prop :=
  ∃ t, ts[i]? = some t ∧ t.animation.kind.isGate = false ∧ isInhibited s (ts.take i) = false

end Channel

/-- the value of the last step of a kind among some steps, and 0 if there is none -/
def Rides (steps : List PoseStep) (kind : Kind) (value : Float) : Prop :=
  (∃ before q after, steps = before ++ q :: after ∧ q.kind = kind ∧ q.value = value ∧ ∀ r ∈ after, r.kind ≠ kind) ∨
    (∀ q ∈ steps, q.kind ≠ kind) ∧ value = Float.ofNat 0

/-- the step of a track at a place, which rides on a value -/
def Track.step (s : Sampling) (t : Track) (i : ℕ) (riding : Float) : PoseStep where
  animation := i
  kind := t.animation.kind
  axis := t.animation.axisOrZero
  value := t.animation.apply riding (t.unshaped s)
  stacked := t.animation.rides

/-- the steps of a channel: one for each track that moves, in order, each on what it rides on among the steps before it -/
structure Channel.Stacked (s : Sampling) (ts : Channel) (steps : List PoseStep) : Prop where
  ordered : steps.Pairwise fun q r => q.animation < r.animation
  places : ∀ i, (∃ q ∈ steps, q.animation = i) ↔ ts.Moves s i
  shaped : ∀ before q after, steps = before ++ q :: after →
    ∃ t riding, ts[q.animation]? = some t ∧ q = t.step s q.animation riding ∧
      if t.animation.rides then Rides before t.animation.kind riding else riding = Float.ofNat 0

/-! ## One more track -/

namespace Channel

variable {s : Sampling} {ts : Channel} {t : Track} {steps : List PoseStep}

theorem isInhibited_snoc (s : Sampling) (ts : Channel) (t : Track) :
    isInhibited s (ts ++ [t]) = t.inhibits s (isInhibited s ts) := by
  simp [isInhibited]

/-- what is reached before the last track does not hang on it -/
theorem moves_snoc (i : ℕ) :
    Moves s (ts ++ [t]) i ↔
      Moves s ts i ∨ i = ts.length ∧ t.animation.kind.isGate = false ∧ isInhibited s ts = false := by
  rcases lt_trichotomy i ts.length with hlt | rfl | hgt
  · simp [Moves, List.getElem?_append_left hlt, List.take_append_of_le_length hlt.le, hlt.ne]
  · simp [Moves]
  · have hpast : ¬i < (ts ++ [t]).length := by simp; omega
    simp [Moves, List.getElem?_eq_none (not_lt.1 hpast), List.getElem?_eq_none hgt.le, hgt.ne']

/-- the steps of a channel are at places of the channel -/
theorem Stacked.lt_length (h : ts.Stacked s steps) {q : PoseStep} (hq : q ∈ steps) : q.animation < ts.length := by
  obtain ⟨t, ht, -⟩ := (h.places q.animation).1 ⟨q, hq, rfl⟩
  exact (List.getElem?_eq_some_iff.1 ht).1

/-- every step has its track where it was -/
theorem Stacked.track_snoc (h : ts.Stacked s steps) {q : PoseStep} (hq : q ∈ steps) (t : Track) :
    (ts ++ [t])[q.animation]? = ts[q.animation]? :=
  List.getElem?_append_left (h.lt_length hq)

theorem stacked_nil (s : Sampling) : Stacked s [] [] where
  ordered := List.Pairwise.nil
  places i := by simp [Moves]
  shaped before q after hsplit := by simp at hsplit

/-- a track that gives no step -/
theorem Stacked.skip (h : ts.Stacked s steps) (hstill : t.animation.kind.isGate = true ∨ isInhibited s ts = true) :
    (ts ++ [t]).Stacked s steps where
  ordered := h.ordered
  places i := by
    rw [h.places i, moves_snoc]
    constructor
    · exact .inl
    · rintro (hmoves | ⟨-, hmoving, hfree⟩)
      · exact hmoves
      · rcases hstill with hgate | hinhibited
        · exact absurd (hgate.symm.trans hmoving) (by decide)
        · exact absurd (hinhibited.symm.trans hfree) (by decide)
  shaped before q after hsplit := by
    obtain ⟨t', riding, ht', hq⟩ := h.shaped before q after hsplit
    refine ⟨t', riding, ?_, hq⟩
    rw [h.track_snoc (hsplit ▸ by simp) t]
    exact ht'

/-- a track that gives a step -/
theorem Stacked.push (h : ts.Stacked s steps) (hmoving : t.animation.kind.isGate = false)
    (hfree : isInhibited s ts = false) {riding : Float}
    (hriding : if t.animation.rides then Rides steps t.animation.kind riding else riding = Float.ofNat 0) :
    (ts ++ [t]).Stacked s (steps ++ [t.step s ts.length riding]) where
  ordered := by
    rw [List.pairwise_append]
    refine ⟨h.ordered, List.pairwise_singleton _ _, ?_⟩
    intro q hq r hr
    rw [List.mem_singleton.1 hr]
    exact h.lt_length hq
  places i := by
    rw [moves_snoc, ← h.places i]
    constructor
    · rintro ⟨q, hq, rfl⟩
      rcases List.mem_append.1 hq with hq | hq
      · exact .inl ⟨q, hq, rfl⟩
      · rw [List.mem_singleton.1 hq]
        exact .inr ⟨rfl, hmoving, hfree⟩
    · rintro (⟨q, hq, rfl⟩ | ⟨rfl, -, -⟩)
      · exact ⟨q, List.mem_append_left _ hq, rfl⟩
      · exact ⟨_, List.mem_append_right _ (List.mem_singleton_self _), rfl⟩
  shaped before q after hsplit := by
    rcases List.eq_nil_or_concat after with rfl | ⟨after, last, rfl⟩
    · -- the step is the new one
      obtain ⟨rfl, hlast⟩ := List.append_inj' hsplit rfl
      obtain rfl := List.singleton_inj.1 hlast
      exact ⟨t, riding, by simp [Track.step], rfl, hriding⟩
    · -- it is one of the steps before
      have hinit : steps = before ++ q :: after := by
        rw [List.concat_eq_append, ← List.cons_append, ← List.append_assoc] at hsplit
        exact (List.append_inj' hsplit rfl).1
      obtain ⟨t', riding', ht', hq⟩ := h.shaped before q after hinit
      refine ⟨t', riding', ?_, hq⟩
      rw [h.track_snoc (hinit ▸ by simp) t]
      exact ht'

end Channel

/-! ## What a step rides on -/

/-- the search from the last step back finds what a step rides on -/
theorem rides_lastOfKind (steps : List PoseStep) (kind : Kind) : Rides steps kind (Use.lastOfKind steps kind) := by
  unfold Use.lastOfKind
  cases hfind : steps.reverse.find? (·.kind = kind) with
  | none =>
    refine .inr ⟨fun q hq => ?_, rfl⟩
    simpa using List.find?_eq_none.1 hfind q (List.mem_reverse.2 hq)
  | some q =>
    obtain ⟨hkind, behind, before, hsplit, hbehind⟩ := List.find?_eq_some_iff_append.1 hfind
    refine .inl ⟨before.reverse, q, behind.reverse, ?_, by simpa using hkind, rfl, fun r hr => ?_⟩
    · rw [← steps.reverse_reverse, hsplit]
      simp
    · simpa using hbehind r (List.mem_reverse.1 hr)

/-- and a step rides on nothing else -/
theorem Rides.eq_lastOfKind {steps : List PoseStep} {kind : Kind} {value : Float} (h : Rides steps kind value) :
    value = Use.lastOfKind steps kind := by
  unfold Use.lastOfKind
  rcases h with ⟨before, q, after, rfl, hkind, rfl, hafter⟩ | ⟨hnone, rfl⟩
  · have hfind : (before ++ q :: after).reverse.find? (·.kind = kind) = some q := by
      rw [List.find?_eq_some_iff_append]
      refine ⟨by simpa using hkind, after.reverse, before.reverse, by simp, fun r hr => ?_⟩
      simpa using hafter r (List.mem_reverse.1 hr)
    rw [hfind]
    rfl
  · have hfind : steps.reverse.find? (·.kind = kind) = none :=
      List.find?_eq_none.2 fun q hq => by simpa using hnone q (List.mem_reverse.1 hq)
    rw [hfind]
    rfl

namespace Channel.Stacked

variable {s : Sampling} {ts : Channel} {steps others : List PoseStep}

/-- the tracks that move say at which places there are steps -/
theorem animations_eq (h : ts.Stacked s steps) (h' : ts.Stacked s others) :
    steps.map (·.animation) = others.map (·.animation) := by
  refine List.Pairwise.eq_of_mem_iff (List.pairwise_map.2 h.ordered) (List.pairwise_map.2 h'.ordered) fun i => ?_
  rw [List.mem_map, List.mem_map, h.places i, h'.places i]

/-- and then the steps before it say what a step is -/
theorem step_eq {before after after' : List PoseStep} {q q' : PoseStep} (h : ts.Stacked s (before ++ q :: after))
    (h' : ts.Stacked s (before ++ q' :: after')) (hplace : q.animation = q'.animation) : q = q' := by
  obtain ⟨t, riding, ht, hq, hriding⟩ := h.shaped before q after rfl
  obtain ⟨t', riding', ht', hq', hriding'⟩ := h'.shaped before q' after' rfl
  obtain rfl : t = t' := Option.some.inj (ht.symm.trans (hplace ▸ ht'))
  have hsame : riding = riding' := by
    by_cases hrides : t.animation.rides = true
    · rw [if_pos hrides] at hriding hriding'
      exact hriding.eq_lastOfKind.trans hriding'.eq_lastOfKind.symm
    · rw [if_neg hrides] at hriding hriding'
      exact hriding.trans hriding'.symm
  rw [hq, hq', hsame, hplace]

/-- a channel has no other steps than its steps -/
theorem unique (h : ts.Stacked s steps) (h' : ts.Stacked s others) : steps = others := by
  -- the steps up to a place agree, from the first on
  suffices hbehind : ∀ before after after', steps = before ++ after → others = before ++ after' → after = after' from
    hbehind [] steps others rfl rfl
  intro before after
  induction after generalizing before with
  | nil =>
    rintro after' rfl rfl
    simpa using h.animations_eq h'
  | cons q after ih =>
    rintro after' rfl rfl
    have hplaces := h.animations_eq h'
    cases after' with
    | nil => simp at hplaces
    | cons q' after' =>
      have hplace : q.animation = q'.animation := by
        simp only [List.map_append, List.map_cons, List.append_cancel_left_eq, List.cons.injEq] at hplaces
        exact hplaces.1
      obtain rfl := h.step_eq h' hplace
      rw [ih (before ++ [q]) after' (List.append_cons _ _ _) (List.append_cons _ _ _)]

end Channel.Stacked

/-! ## Sweeps -/

namespace Sweep

variable {σ : Type} {s : Sampling} {use : Use σ} {p : Progress σ} {t : Track}

/-- a gate that is read is tested at what it rides on anywhere, which is nothing -/
theorem passes_sampled (s : Sampling) (use : Use σ) (p : Progress σ) (hgate : t.animation.kind.isGate = true) :
    t.animation.passes (sampled s use p t).2.value = t.passes s := by
  rw [sampled, stacking, if_pos hgate]
  rfl

/-- a track that is not read inhibits and frees nothing -/
theorem inhibits_of_not_read (s : Sampling) (hr : reads use p.inhibited t.animation.kind = false) :
    t.inhibits s p.inhibited = p.inhibited := by
  unfold Track.inhibits
  cases hkind : t.animation.kind <;> simp_all [reads]

/-- a track that is read inhibits and frees as it does at its place in the channel -/
theorem inhibited_next (s : Sampling) (index : ℕ) (hr : reads use p.inhibited t.animation.kind = true) :
    (next s use p index t).1.inhibited = t.inhibits s p.inhibited := by
  have hpasses : t.animation.kind.isGate = true → t.animation.passes (sampled s use p t).2.value = t.passes s :=
    passes_sampled s use p
  unfold next after Track.inhibits
  cases hkind : t.animation.kind with
  | inhibitor =>
    have hfree : p.inhibited = false := by simpa [reads, hkind] using hr
    simp only [hpasses (by rw [hkind]; rfl), hfree, Bool.false_or]
  | activator =>
    have hinhibited : p.inhibited = true := by simpa [reads, hkind] using hr
    simp only [hpasses (by rw [hkind]; rfl), hinhibited, Bool.true_and]
  | visibility => rfl
  | translation => rfl
  | rotation => rfl
  | scaling => rfl

/-- only a visibility that fails closes the gate -/
theorem open_next (s : Sampling) (use : Use σ) (p : Progress σ) (index : ℕ) (t : Track) :
    (next s use p index t).2 = true ↔ (t.animation.kind = .visibility → t.passes s = true) := by
  unfold next after
  cases hkind : t.animation.kind with
  | visibility => simp only [passes_sampled s use p (by rw [hkind]; rfl), forall_const]
  | _ => simp only [reduceCtorEq, false_implies]

/-- the gate stays open at a track, read or not, unless it is a visibility that fails while the channel is not inhibited -/
theorem open_iff (s : Sampling) (use : Use σ) (p : Progress σ) (index : ℕ) (t : Track) :
    (reads use p.inhibited t.animation.kind = true → (next s use p index t).2 = true) ↔
      (t.animation.kind = .visibility → p.inhibited = false → t.passes s = true) := by
  rw [open_next]
  constructor
  · intro hopen hkind hfree
    refine hopen ?_ hkind
    simp [reads, hkind, hfree]
  · intro hpasses hr hkind
    refine hpasses hkind ?_
    simpa [reads, hkind] using hr

/-- **How far a sweep goes.** It ends with an open gate if and only if no visibility that it reaches while not inhibited fails. -/
theorem isOpen_run (s : Sampling) (use : Use σ) (p : Progress σ) (index : ℕ) (ts : Channel) :
    (run s use p index ts).gate.isOpen = true ↔
      ∀ i t, ts[i]? = some t → t.animation.kind = .visibility →
        (ts.take i).foldl (Track.inhibits s) p.inhibited = false → t.passes s = true := by
  induction ts generalizing p index with
  | nil => simp [run]
  | cons t rest ih =>
    -- the first track, and the others with what the first leaves
    rw [← Nat.and_forall_add_one]
    simp only [List.getElem?_cons_zero, Option.some.injEq, List.take_zero, List.foldl_nil, forall_eq',
      List.getElem?_cons_succ, List.take_succ_cons, List.foldl_cons]
    rw [← open_iff s use p index t]
    cases hr : reads use p.inhibited t.animation.kind with
    | false =>
      rw [run_skip s use p index t rest hr, inhibits_of_not_read s hr]
      refine (ih p (index + 1)).trans (iff_and_self.2 fun _ hread => ?_)
      exact absurd hread Bool.false_ne_true
    | true =>
      cases hn : (next s use p index t).2 with
      | false =>
        rw [run_close s use p index t rest hr hn]
        exact ⟨fun hopen => absurd hopen Bool.false_ne_true, fun hall => hall.1 rfl⟩
      | true =>
        rw [run_go s use p index t rest hr hn, ← inhibited_next s index hr]
        exact (ih _ (index + 1)).trans (iff_and_self.2 fun _ _ => rfl)

/-! ## The steps of a sweep -/

/-- what a pose does not read gives no step -/
theorem still_of_not_read {inhibited : Bool} {kind : Kind} (hr : reads Use.pose inhibited kind = false) :
    kind.isGate = true ∨ inhibited = true := by
  cases kind <;> simp_all [reads, Use.pose, Kind.isGate]

/-- a pose reads a moving track only while the channel is not inhibited -/
theorem free_of_read {inhibited : Bool} {kind : Kind} (hmoving : kind.isGate = false)
    (hr : reads Use.pose inhibited kind = true) : inhibited = false := by
  cases kind <;> simp_all [reads, Use.pose, Kind.isGate]

/-- of what it reads, the moving tracks give a step each -/
theorem sum_next (s : Sampling) (p : Progress (List PoseStep)) (index : ℕ) (t : Track) :
    (next s Use.pose p index t).1.sum =
      if t.animation.kind.isGate then p.sum
      else p.sum ++ [t.step s index (Use.pose.stacking p.sum t.animation)] := by
  cases hgate : t.animation.kind.isGate with
  | true =>
    unfold next after
    cases hkind : t.animation.kind <;> simp_all [Kind.isGate]
  | false =>
    have hvalue : (sampled s Use.pose p t).2.value =
        t.animation.apply (Use.pose.stacking p.sum t.animation) (t.unshaped s) := by
      rw [sampled, stacking, if_neg (by rw [hgate]; exact Bool.false_ne_true), Track.sample_value]
    have hsum : (next s Use.pose p index t).1.sum =
        Use.pose.add p.sum index t.animation (sampled s Use.pose p t).2.value := by
      unfold next after
      cases hkind : t.animation.kind <;> simp_all [Kind.isGate]
    rw [hsum, hvalue]
    rfl

/-- the steps behind one more track that is read -/
theorem stacked_next {part : Channel} {p : Progress (List PoseStep)} (hinhibited : p.inhibited = part.isInhibited s)
    (hstacked : part.Stacked s p.sum) (hr : reads Use.pose p.inhibited t.animation.kind = true) :
    (part ++ [t]).Stacked s (next s Use.pose p part.length t).1.sum := by
  rw [sum_next]
  cases hgate : t.animation.kind.isGate with
  | true =>
    rw [if_pos rfl]
    exact hstacked.skip (.inl hgate)
  | false =>
    rw [if_neg Bool.false_ne_true]
    refine hstacked.push hgate (hinhibited ▸ free_of_read hgate hr) ?_
    by_cases hrides : t.animation.rides = true
    · simp only [Use.pose, hrides, if_true]
      exact rides_lastOfKind p.sum t.animation.kind
    · simp only [Use.pose, hrides, Bool.false_eq_true, if_false]

/-- **The steps of a sweep.** A sweep that goes on from a part of a channel to its end with an open gate has the steps of the
channel, if it had those of the part. -/
theorem run_stacked (s : Sampling) (p : Progress (List PoseStep)) (part rest : Channel)
    (hinhibited : p.inhibited = part.isInhibited s) (hstacked : part.Stacked s p.sum)
    (hopen : (run s Use.pose p part.length rest).gate.isOpen = true) :
    (part ++ rest).Stacked s (run s Use.pose p part.length rest).sum := by
  induction rest generalizing p part with
  | nil =>
    rw [List.append_nil]
    exact hstacked
  | cons t rest ih =>
    have hpart : part ++ t :: rest = (part ++ [t]) ++ rest := List.append_cons _ _ _
    have hlength : part.length + 1 = (part ++ [t]).length := by simp
    cases hr : reads Use.pose p.inhibited t.animation.kind with
    | false =>
      rw [run_skip s Use.pose p part.length t rest hr] at hopen ⊢
      simp only [hpart, hlength] at hopen ⊢
      refine ih p (part ++ [t]) ?_ (hstacked.skip (hinhibited ▸ still_of_not_read hr)) hopen
      rw [Channel.isInhibited_snoc, ← hinhibited, inhibits_of_not_read s hr]
    | true =>
      cases hn : (next s Use.pose p part.length t).2 with
      | false =>
        rw [run_close s Use.pose p part.length t rest hr hn] at hopen
        cases hopen
      | true =>
        rw [run_go s Use.pose p part.length t rest hr hn] at hopen ⊢
        simp only [hpart, hlength] at hopen ⊢
        refine ih (next s Use.pose p part.length t).1 (part ++ [t]) ?_ (stacked_next hinhibited hstacked hr) hopen
        rw [Channel.isInhibited_snoc, ← hinhibited, inhibited_next s part.length hr]

end Sweep

/-! ## Poses -/

/-- **The steps of a pose.** In a tick or in a frame, whatever the tracks of a channel, their clocks and the answers: the pose is
visible if and only if no visibility that is reached while the channel is not inhibited fails. If it is not visible, it has no
steps. If it is, it has the steps of the channel and no others: in the order of the channel, one for each moving track that is
reached while the channel is not inhibited, with the kind, the axis and the riding of its animation, and with its value shaped on
top of the last step of the same kind before it if it rides, and on top of 0 if there is none or it does not ride. -/
theorem Channel.pose_stacked (s : Sampling) (ts : Channel) :
    let pose := (ts.pose s).result
    (pose.visible = true ↔ ts.Shows s) ∧ (pose.visible = false → pose.steps = []) ∧
      (pose.visible = true → ∀ steps, ts.Stacked s steps ↔ steps = pose.steps) := by
  intro pose
  refine ⟨Sweep.isOpen_run s Use.pose { sum := [] } 0 ts, fun hhidden => ?_, fun hvisible steps => ?_⟩
  · have hclosed : (Sweep.run s Use.pose { sum := [] } 0 ts).gate.isOpen = false := hhidden
    simp only [pose, Channel.pose, evaluate, settlePose, hclosed, Bool.false_eq_true, if_false]
  · have hopen : (Sweep.run s Use.pose { sum := [] } 0 ts).gate.isOpen = true := hvisible
    have hsteps : pose.steps = (Sweep.run s Use.pose { sum := [] } 0 ts).sum := by
      simp only [pose, Channel.pose, evaluate, settlePose, hopen, if_true]
    have hstacked : ts.Stacked s pose.steps := by
      rw [hsteps]
      exact Sweep.run_stacked s { sum := [] } [] ts rfl (stacked_nil s) hopen
    exact ⟨fun hother => hother.unique hstacked, fun heq => heq ▸ hstacked⟩

/-- a crane that shows while it has power: its arm turns by 30 at most, its hook goes up, and its cabin turns on top of the arm, together
by 45 at most; while it is locked its lamp does not turn, but a key frees what comes after -/
def Channel.crane : Channel :=
  let turn : Animation Float := { Animation.plain .rotation "wind" with axis := some ⟨0, 1, 0⟩, rides := true }
  .ofAnimations .linear
    [{ Animation.plain .visibility "power" with clampMin := 1, clampMax := 1 }, { turn with clampMax := 30 },
      { Animation.plain .translation "hook" with axis := some ⟨0, 1, 0⟩ },
      { Animation.plain .inhibitor "locked" with clampMin := 1, clampMax := 1 }, turn,
      { Animation.plain .activator "key" with clampMin := 1, clampMax := 1 }, { turn with clampMax := 45 }]

/-- locked and with the key in, at a wind of 40: the arm stops at 30 and the cabin at 45, past the hook and the lamp; without power,
there are no steps -/
theorem Channel.pose_stacked_crane :
    let lookup : String → Option Float := fun name => if name = "wind" then some 40 else some 1
    let pose := (crane.pose ⟨.tick, lookup⟩).result
    pose.visible = true ∧ crane.Stacked ⟨.tick, lookup⟩ pose.steps ∧
      pose.steps.map (fun q => (q.animation, q.value, q.stacked)) = [(1, 30, true), (2, 1, false), (6, 45, true)] ∧
      (crane.pose ⟨.frame, fun _ => none⟩).result.steps = [] := by
  intro lookup pose
  obtain ⟨-, -, hsteps⟩ := pose_stacked ⟨.tick, lookup⟩ crane
  obtain ⟨-, hnone, -⟩ := pose_stacked ⟨.frame, fun _ => none⟩ crane
  have hvisible : pose.visible = true := by decide +kernel
  exact ⟨hvisible, (hsteps hvisible pose.steps).2 rfl, by decide +kernel, hnone (by decide +kernel)⟩

end Stagecraft
