/-
Turns of a smoothed gate. A clock moves when the variable of its animation enters its range, and just as well when it leaves
it; but a smoothed gate follows its variable late, or not at all. So while a gate stays open, it fires in the passes in which
the variable of a smoothed animation turns, either way, and in no others: an animation that does not smooth closes the gate
when its variable leaves.

- `signalAt`: whether the variable of an animation is in its range in a pass.
- `fires_iff_turns`: one pass after an open one.
- `fires_again`: of two passes in which a gate fires, either it was closed in between, or the later one is such a turn.
-/
import Mathlib.Tactic
import Stagecraft.Proofs.Channel.Edge

namespace Stagecraft

/-! ## Signals -/

/-- whether the variable of an animation is in its range, as a lookup answers it; none without an answer -/
def Animation.signal? (a : Animation Float) (lookup : String → Option Float) : Option Bool :=
  ((⟨.tick, lookup⟩ : Sampling).resolve a.source).map a.signal

/-- whether the variable of an animation is in its range in a pass -/
def Animation.signalAt (a : Animation Float) (lookups : List (String → Option Float)) (i : Nat) : Option Bool :=
  lookups[i]?.bind a.signal?

/-- an answered track takes the signal over, and moves if that turns its clock over -/
theorem Track.sample_answered (t : Track) (lookup : String → Option Float) (stacking : Float)
    (ha : ((⟨.tick, lookup⟩ : Sampling).resolve t.animation.source).isSome) :
    let r := t.sample ⟨.tick, lookup⟩ stacking
    t.animation.signal? lookup = some r.1.clock.engaged ∧ r.2.moved = (r.1.clock.engaged != t.clock.engaged) := by
  obtain ⟨raw, hraw⟩ := Option.isSome_iff_exists.1 ha
  simp [t.sample_answer stacking hraw, hraw, Animation.signal?]

/-- an answered visibility that does not smooth passes just if its variable is in its range -/
theorem Track.passes_unsmoothed (t : Track) (hkind : t.animation.kind = .visibility)
    (hsmooth : t.animation.smooths = false) (lookup : String → Option Float)
    (ha : ((⟨.tick, lookup⟩ : Sampling).resolve t.animation.source).isSome) :
    t.animation.signal? lookup =
      some (t.animation.passes (t.sample ⟨.tick, lookup⟩ (Float.ofNat 0)).2.value) := by
  obtain ⟨raw, hraw⟩ := Option.isSome_iff_exists.1 ha
  rw [t.sample_answer _ hraw, Animation.signal?, hraw, Option.map_some, t.animation.signal_gate (by rw [hkind]; rfl)]
  simp only [Clock.effective_of_not_smooths _ hsmooth]

/-! ## One pass -/

namespace Sweep

/-- an open sweep over answered visibilities has read every one of them -/
theorem run_open (lookup : String → Option Float) (p : Progress Unit) (hp : p.inhibited = false) (index : Nat)
    (c : Channel) (hc : ∀ t ∈ c, t.animation.kind = .visibility)
    (ha : ∀ name ∈ (run ⟨.tick, lookup⟩ Use.gate p index c).asked,
      ((⟨.tick, lookup⟩ : Sampling).resolve name).isSome)
    (hopen : (run ⟨.tick, lookup⟩ Use.gate p index c).gate.isOpen = true) :
    let o := run ⟨.tick, lookup⟩ Use.gate p index c
    (∀ t ∈ o.channel, t.animation.signal? lookup = some t.clock.engaged) ∧
      (o.gate.moved = true ↔
        p.moved = true ∨ ∃ t ∈ c, t.animation.signal? lookup ≠ some t.clock.engaged) ∧
      ∀ t ∈ c, t.animation.smooths = false → t.animation.signal? lookup = some true := by
  induction c generalizing p index with
  | nil => simp [run]
  | cons t rest ih =>
    have hkind := hc t List.mem_cons_self
    have hr : reads Use.gate p.inhibited t.animation.kind = true := by rw [hkind, hp]; rfl
    have hanswer := ha _ (source_mem_asked _ _ p index t rest hr)
    have hsampled := t.sample_answered lookup (Float.ofNat 0) hanswer
    have hunsmoothed := fun hsmooth => t.passes_unsmoothed hkind hsmooth lookup hanswer
    have hnext := next_visibility ⟨.tick, lookup⟩ p index t hkind
    rw [← sampled_gate _ p] at hsampled hunsmoothed
    rcases hq : sampled ⟨.tick, lookup⟩ Use.gate p t with ⟨t', sample⟩
    simp only [hq] at hsampled hnext hunsmoothed
    have hsame : t'.animation = t.animation := by
      have := congrArg (·.1.animation) hq
      exact this.symm.trans (Track.sample_animation _ _ t)
    cases hpass : t.animation.passes sample.value with
    | false =>
      -- a visibility that fails closes the gate
      rw [run_close _ _ p index t rest hr (by rw [hnext]; exact hpass)] at hopen
      exact absurd hopen Bool.false_ne_true
    | true =>
      rw [hpass] at hnext hunsmoothed
      have hgo := run_go ⟨.tick, lookup⟩ Use.gate p index t rest hr (by rw [hnext])
      simp only [hnext, hq] at hgo
      rw [hgo] at ha hopen ⊢
      obtain ⟨hengaged, hmoved, hin⟩ := ih { p with moved := p.moved || sample.moved } hp (index + 1)
        (fun other hother => hc other (List.mem_cons_of_mem _ hother))
        (fun name hname => ha name (List.mem_cons_of_mem _ hname)) hopen
      refine ⟨?_, ?_, ?_⟩
      · intro other hother
        rcases List.mem_cons.1 hother with rfl | hother
        · rw [hsame]
          exact hsampled.1
        · exact hengaged other hother
      · have hturn : sample.moved = true ↔ t.animation.signal? lookup ≠ some t.clock.engaged := by
          rw [hsampled.1, hsampled.2]
          simp
        refine hmoved.trans ?_
        simp only [Bool.or_eq_true, hturn, List.mem_cons, exists_eq_or_imp, or_assoc]
      · intro other hother hsmooth
        rcases List.mem_cons.1 hother with rfl | hother
        · exact hunsmoothed hsmooth
        · exact hin other hother hsmooth

end Sweep

/-! ## One pass after another -/

namespace Channel

/-- the pass at a place reads the channel that the passes before it left -/
theorem gates_getElem? (c : Channel) (lookups : List (String → Option Float)) (i : Nat) :
    (c.gates lookups)[i]? = lookups[i]?.map fun lookup => (c.afterGates (lookups.take i)).gate ⟨.tick, lookup⟩ := by
  induction lookups generalizing c i with
  | nil => simp [gates]
  | cons lookup lookups ih =>
    cases i with
    | zero => simp [gates, afterGates]
    | succ i => simpa [gates, afterGates] using ih _ i

/-- every name that a pass asks for has an answer -/
theorem Answered.pass {c : Channel} {lookups : List (String → Option Float)} (h : c.Answered lookups) {i : Nat}
    {lookup : String → Option Float} (hi : lookups[i]? = some lookup) :
    ∀ name ∈ ((c.afterGates (lookups.take i)).gate ⟨.tick, lookup⟩).asked,
      ((⟨.tick, lookup⟩ : Sampling).resolve name).isSome := by
  induction lookups generalizing c i with
  | nil => simp at hi
  | cons first lookups ih =>
    cases i with
    | zero =>
      obtain rfl : first = lookup := by simpa using hi
      exact h.1
    | succ i => exact ih h.2 (by simpa using hi)

theorem afterGates_animations (c : Channel) (lookups : List (String → Option Float)) :
    (c.afterGates lookups).map (·.animation) = c.map (·.animation) := by
  induction lookups generalizing c with
  | nil => rfl
  | cons lookup lookups ih => exact (ih _).trans (Sweep.run_animations _ Use.gate _ 0 c)

theorem animations_ofAnimations (curve : Curve) (as : List (Animation Float)) :
    (ofAnimations curve as).map (·.animation) = as := by
  simp [ofAnimations, Function.comp_def]

/-- the tracks of a channel, as passes leave it, are those of its animations -/
theorem exists_track_iff (curve : Curve) (as : List (Animation Float)) (lookups : List (String → Option Float))
    (a : Animation Float) : (∃ t ∈ (ofAnimations curve as).afterGates lookups, t.animation = a) ↔ a ∈ as := by
  rw [← List.mem_map, afterGates_animations, animations_ofAnimations]

/-- an open pass over answered visibilities has read every one of them -/
theorem gate_open (c : Channel) (hc : ∀ t ∈ c, t.animation.kind = .visibility) (lookup : String → Option Float)
    (ha : ∀ name ∈ (c.gate ⟨.tick, lookup⟩).asked, ((⟨.tick, lookup⟩ : Sampling).resolve name).isSome)
    (hopen : (c.gate ⟨.tick, lookup⟩).result.isOpen = true) :
    (∀ t ∈ (c.gate ⟨.tick, lookup⟩).channel, t.animation.signal? lookup = some t.clock.engaged) ∧
      ((c.gate ⟨.tick, lookup⟩).result.moved = true ↔
        ∃ t ∈ c, t.animation.signal? lookup ≠ some t.clock.engaged) ∧
      ∀ t ∈ c, t.animation.smooths = false → t.animation.signal? lookup = some true := by
  obtain ⟨hengaged, hmoved, hin⟩ := Sweep.run_open lookup { sum := () } rfl 0 c hc ha hopen
  refine ⟨hengaged, hmoved.trans ?_, hin⟩
  simp

/-- **One pass after an open one.** A gate of answered visibilities that was open and still is fires if and only if the
variable of one of its smoothed animations has turned. -/
theorem fires_iff_turns (curve : Curve) (as : List (Animation Float)) (has : ∀ a ∈ as, a.kind = .visibility)
    (lookups : List (String → Option Float)) (ha : (ofAnimations curve as).Answered lookups) (i : Nat)
    (hbefore : openAt ((ofAnimations curve as).gates lookups) i = true)
    (hnow : openAt ((ofAnimations curve as).gates lookups) (i + 1) = true) :
    firesAt ((ofAnimations curve as).gates lookups) (i + 1) = true ↔
      ∃ a ∈ as, a.smooths = true ∧ a.signalAt lookups i ≠ a.signalAt lookups (i + 1) := by
  have hkinds : ∀ passed, ∀ t ∈ (ofAnimations curve as).afterGates passed, t.animation.kind = .visibility :=
    fun passed t ht => has _ ((exists_track_iff curve as passed t.animation).1 ⟨t, ht, rfl⟩)
  simp only [openAt, firesAt, gates_getElem?] at hbefore hnow ⊢
  cases hi : lookups[i]? with
  | none => simp [hi] at hbefore
  | some before =>
    cases hi' : lookups[i + 1]? with
    | none => simp [hi'] at hnow
    | some now =>
      simp only [hi, hi', Option.map_some, Option.getD_some] at hbefore hnow ⊢
      simp only [Animation.signalAt, hi, hi', Option.bind_some]
      obtain ⟨hengaged, -, hin⟩ := gate_open _ (hkinds _) before (ha.pass hi) hbefore
      obtain ⟨-, hmoved, hin'⟩ := gate_open _ (hkinds _) now (ha.pass hi') hnow
      have hleft : (ofAnimations curve as).afterGates (lookups.take (i + 1)) =
          (((ofAnimations curve as).afterGates (lookups.take i)).gate ⟨.tick, before⟩).channel := by
        rw [List.take_add_one, hi, afterGates_append]
        rfl
      rw [hnow, Bool.true_and, hmoved]
      constructor
      · rintro ⟨t, ht, hturn⟩
        have hmem := (exists_track_iff curve as _ t.animation).1 ⟨t, ht, rfl⟩
        rw [← hengaged t (hleft ▸ ht)] at hturn
        refine ⟨t.animation, hmem, ?_, hturn.symm⟩
        -- what does not smooth is in its range as long as the gate is open
        by_contra hsmooth
        rw [Bool.not_eq_true] at hsmooth
        obtain ⟨t', ht', hsame⟩ := (exists_track_iff curve as (lookups.take i) t.animation).2 hmem
        have hbefore := hin t' ht' (hsame ▸ hsmooth)
        rw [hsame] at hbefore
        exact hturn ((hin' t ht hsmooth).trans hbefore.symm)
      · rintro ⟨a, hmem, -, hturn⟩
        obtain ⟨t, ht, rfl⟩ := (exists_track_iff curve as (lookups.take (i + 1)) a).2 hmem
        refine ⟨t, ht, ?_⟩
        rw [← hengaged t (hleft ▸ ht)]
        exact hturn.symm

theorem openAt_of_firesAt {passes : List (Evaluation Gate)} {i : Nat} (h : firesAt passes i = true) :
    openAt passes i = true := by
  unfold firesAt at h
  unfold openAt
  cases hi : passes[i]? with
  | none => simp [hi] at h
  | some e =>
    simp only [hi, Option.map_some, Option.getD_some, Bool.and_eq_true] at h ⊢
    exact h.1

/-- **Two passes in which a gate fires.** Either the gate was closed in between, or the variable of a smoothed animation
turned in the later one. -/
theorem fires_again (curve : Curve) (as : List (Animation Float)) (has : ∀ a ∈ as, a.kind = .visibility)
    (lookups : List (String → Option Float)) (ha : (ofAnimations curve as).Answered lookups) (i j : Nat) (hij : i < j)
    (hi : firesAt ((ofAnimations curve as).gates lookups) i = true)
    (hj : firesAt ((ofAnimations curve as).gates lookups) j = true) :
    (∃ k, i < k ∧ k < j ∧ openAt ((ofAnimations curve as).gates lookups) k = false) ∨
      ∃ a ∈ as, a.smooths = true ∧ a.signalAt lookups (j - 1) ≠ a.signalAt lookups j := by
  obtain ⟨j, rfl⟩ : ∃ j', j = j' + 1 := ⟨j - 1, by omega⟩
  rw [Nat.add_sub_cancel]
  cases hbefore : openAt ((ofAnimations curve as).gates lookups) j with
  | true => exact .inr ((fires_iff_turns curve as has lookups ha j hbefore (openAt_of_firesAt hj)).1 hj)
  | false =>
    refine .inl ⟨j, lt_of_le_of_ne (by omega) ?_, j.lt_succ_self, hbefore⟩
    rintro rfl
    rw [openAt_of_firesAt hi] at hbefore
    cases hbefore

end Channel

end Stagecraft
