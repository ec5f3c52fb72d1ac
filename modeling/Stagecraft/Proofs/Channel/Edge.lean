/-
Edges of an untimed gate. A channel of visibilities without smoothing has one signal for its gate: the clocks of a pass that
was open are all engaged, and a pass that was not left the clock that failed disengaged, whatever is stale behind it. So a
gate that is open and moved is one that was not open in the pass before.

- `gate_untimed`: one pass.
- `gates_untimed`: any passes, one after the other.
-/
import Mathlib.Tactic
import Stagecraft.Proofs.Channel.Sweep
import Stagecraft.Proofs.Clock.Advance

namespace Stagecraft

/-! ## Passes -/

namespace Channel

/-- the gate read in one tick after the other, each time over the clocks that the tick before left -/
def gates (c : Channel) : List (String → Option Float) → List (Evaluation Gate)
  | [] => []
  | lookup :: lookups => c.gate ⟨.tick, lookup⟩ :: (c.gate ⟨.tick, lookup⟩).channel.gates lookups

/-- the channel that those ticks leave -/
def afterGates (c : Channel) : List (String → Option Float) → Channel
  | [] => c
  | lookup :: lookups => (c.gate ⟨.tick, lookup⟩).channel.afterGates lookups

/-- every name that those ticks ask for has an answer, and none a NaN -/
def Answered (c : Channel) : List (String → Option Float) → Prop
  | [] => True
  | lookup :: lookups =>
    (∀ name ∈ (c.gate ⟨.tick, lookup⟩).asked, ((⟨.tick, lookup⟩ : Sampling).resolve name).isSome) ∧
      (c.gate ⟨.tick, lookup⟩).channel.Answered lookups

instance decidableAnswered (c : Channel) : (lookups : List (String → Option Float)) → Decidable (c.Answered lookups)
  | [] => .isTrue trivial
  | lookup :: lookups =>
    have := decidableAnswered (c.gate ⟨.tick, lookup⟩).channel lookups
    inferInstanceAs (Decidable (_ ∧ _))

theorem afterGates_append (c : Channel) (first rest : List (String → Option Float)) :
    c.afterGates (first ++ rest) = (c.afterGates first).afterGates rest := by
  induction first generalizing c with
  | nil => rfl
  | cons lookup first ih => exact ih _

/-- later passes read the channel that the earlier ones leave -/
theorem gates_append (c : Channel) (first rest : List (String → Option Float)) :
    c.gates (first ++ rest) = c.gates first ++ (c.afterGates first).gates rest := by
  induction first generalizing c with
  | nil => rfl
  | cons lookup first ih => simp only [List.cons_append, gates, ih, afterGates]

theorem length_gates (c : Channel) (lookups : List (String → Option Float)) :
    (c.gates lookups).length = lookups.length := by
  induction lookups generalizing c with
  | nil => rfl
  | cons lookup lookups ih => simp only [gates, List.length_cons, ih]

end Channel

/-- whether the gate was open in a pass -/
def openAt (passes : List (Evaluation Gate)) (i : Nat) : Bool := (passes[i]?.map (·.result.isOpen)).getD false

/-- whether the gate opened in a pass: it is open there, and was not in the pass before, if there was one -/
def opensAt (passes : List (Evaluation Gate)) (i : Nat) : Bool := openAt passes i && (i = 0 || !openAt passes (i - 1))

/-- whether the gate was open in a pass and one of its clocks moved there, which is what one-shot effects go by -/
def firesAt (passes : List (Evaluation Gate)) (i : Nat) : Bool :=
  (passes[i]?.map fun e => e.result.isOpen && e.result.moved).getD false

/-- a pass is what it is, whatever passes follow it -/
theorem Channel.firesAt_append (c : Channel) (first rest : List (String → Option Float)) (i : Nat)
    (hi : i < first.length) : firesAt (c.gates (first ++ rest)) i = firesAt (c.gates first) i := by
  rw [← c.length_gates first] at hi
  rw [firesAt, firesAt, c.gates_append, List.getElem?_append_left hi]

theorem Channel.firesAt_last (c : Channel) (lookups : List (String → Option Float)) (lookup : String → Option Float) :
    firesAt (c.gates (lookups ++ [lookup])) lookups.length =
      (((c.afterGates lookups).gate ⟨.tick, lookup⟩).result.isOpen &&
        ((c.afterGates lookups).gate ⟨.tick, lookup⟩).result.moved) := by
  rw [firesAt, c.gates_append, ← c.length_gates lookups]
  simp [gates]

/-! ## One track -/

/-- an animation that gates and does not smooth -/
def Animation.PlainGate (a : Animation Float) : Prop := a.kind = .visibility ∧ a.duration ≤ 0 ∧ a.delay ≤ 0

instance : DecidablePred Animation.PlainGate := fun _ => inferInstanceAs (Decidable (_ ∧ _ ∧ _))

/-- at least one animation, and all of them plain gates -/
structure PlainGates (as : List (Animation Float)) : Prop where
  nonempty : as ≠ []
  all : ∀ a ∈ as, a.PlainGate

/-- an answered plain gate decides by its signal, and moves if that turns the clock over -/
theorem Track.sample_plainGate (t : Track) (ht : t.animation.PlainGate) (lookup : String → Option Float)
    (ha : ((⟨.tick, lookup⟩ : Sampling).resolve t.animation.source).isSome) :
    let r := t.sample ⟨.tick, lookup⟩ (Float.ofNat 0)
    r.1.clock.engaged = t.animation.passes r.2.value ∧ r.2.moved = (t.animation.passes r.2.value != t.clock.engaged) := by
  obtain ⟨hkind, hduration, hdelay⟩ := ht
  obtain ⟨raw, hraw⟩ := Option.isSome_iff_exists.1 ha
  have hsmooth := Timing.smooths_eq_false hduration hdelay
  -- without smoothing the gate tests the very value that gave the signal
  rw [t.sample_answer _ hraw, t.animation.signal_gate (by rw [hkind]; rfl)]
  simp [Clock.effective_of_not_smooths _ hsmooth]

/-! ## One pass -/

/-- whether every clock of a channel is engaged -/
def Channel.allEngaged (c : Channel) : Bool := c.all (·.clock.engaged)

theorem Sweep.sampled_gate (s : Sampling) (p : Progress Unit) (t : Track) :
    sampled s Use.gate p t = t.sample s (Float.ofNat 0) := by
  unfold sampled stacking
  split_ifs <;> rfl

theorem Sweep.next_visibility (s : Sampling) (p : Progress Unit) (index : Nat) (t : Track)
    (hkind : t.animation.kind = .visibility) :
    next s Use.gate p index t = ({ p with moved := p.moved || (sampled s Use.gate p t).2.moved },
      t.animation.passes (sampled s Use.gate p t).2.value) := by
  simp only [next, after, hkind]

theorem Sweep.run_plainGates (lookup : String → Option Float) (p : Progress Unit) (hp : p.inhibited = false)
    (index : Nat) (c : Channel) (hc : ∀ t ∈ c, t.animation.PlainGate)
    (ha : ∀ name ∈ (run ⟨.tick, lookup⟩ Use.gate p index c).asked,
      ((⟨.tick, lookup⟩ : Sampling).resolve name).isSome) :
    let o := run ⟨.tick, lookup⟩ Use.gate p index c
    o.gate.isOpen = o.channel.allEngaged ∧ (o.gate.isOpen = true → o.gate.moved = (p.moved || !c.allEngaged)) := by
  induction c generalizing p index with
  | nil => simp [run, Channel.allEngaged]
  | cons t rest ih =>
    have ht := hc t List.mem_cons_self
    have hr : reads Use.gate p.inhibited t.animation.kind = true := by rw [ht.1, hp]; rfl
    have hsampled := t.sample_plainGate ht lookup (ha _ (source_mem_asked _ _ p index t rest hr))
    have hnext := next_visibility ⟨.tick, lookup⟩ p index t ht.1
    rw [← sampled_gate _ p] at hsampled
    rcases hq : sampled ⟨.tick, lookup⟩ Use.gate p t with ⟨t', sample⟩
    simp only [hq] at hsampled hnext
    obtain ⟨hengaged, hmoved⟩ := hsampled
    cases hpass : t.animation.passes sample.value with
    | false =>
      rw [run_close _ _ p index t rest hr (by rw [hnext]; exact hpass), hq]
      simp [Channel.allEngaged, hengaged, hpass]
    | true =>
      rw [hpass] at hengaged hmoved hnext
      have hgo := run_go ⟨.tick, lookup⟩ Use.gate p index t rest hr (by rw [hnext])
      simp only [hnext, hq] at hgo
      rw [hgo] at ha ⊢
      obtain ⟨hopen, hedge⟩ := ih { p with moved := p.moved || sample.moved } hp (index + 1)
        (fun other hother => hc other (List.mem_cons_of_mem _ hother))
        (fun name hname => ha name (List.mem_cons_of_mem _ hname))
      refine ⟨?_, fun hisOpen => ?_⟩
      · simpa [Channel.allEngaged, hengaged] using hopen
      · refine (hedge hisOpen).trans ?_
        simp only [hmoved, Channel.allEngaged, List.all_cons]
        generalize rest.all (·.clock.engaged) = others
        cases p.moved <;> cases t.clock.engaged <;> cases others <;> rfl

namespace Channel

/-- **One pass.** An answered gate of plain gates is open just if it leaves every clock engaged, and is open and moved just if
it is open and did not find every clock engaged. -/
theorem gate_untimed (c : Channel) (hc : ∀ t ∈ c, t.animation.PlainGate) (lookup : String → Option Float)
    (ha : ∀ name ∈ (c.gate ⟨.tick, lookup⟩).asked, ((⟨.tick, lookup⟩ : Sampling).resolve name).isSome) :
    (c.gate ⟨.tick, lookup⟩).result.isOpen = (c.gate ⟨.tick, lookup⟩).channel.allEngaged ∧
      ((c.gate ⟨.tick, lookup⟩).result.isOpen && (c.gate ⟨.tick, lookup⟩).result.moved) =
        ((c.gate ⟨.tick, lookup⟩).result.isOpen && !c.allEngaged) := by
  obtain ⟨hopen, hedge⟩ := Sweep.run_plainGates lookup { sum := () } rfl 0 c hc ha
  refine ⟨hopen, ?_⟩
  cases h : (c.gate ⟨.tick, lookup⟩).result.isOpen with
  | false => rfl
  | true =>
    rw [Bool.true_and, Bool.true_and]
    exact hedge h

theorem gate_plainGates (c : Channel) (hc : ∀ t ∈ c, t.animation.PlainGate) (s : Sampling) :
    ∀ t ∈ (c.gate s).channel, t.animation.PlainGate := by
  intro t ht
  have hmem : t.animation ∈ (c.gate s).channel.map (·.animation) := List.mem_map_of_mem ht
  have hsame : (c.gate s).channel.map (·.animation) = c.map (·.animation) := Sweep.run_animations s Use.gate _ 0 c
  rw [hsame] at hmem
  obtain ⟨t', ht', he⟩ := List.mem_map.1 hmem
  exact he ▸ hc t' ht'

/-! ## Many passes -/

/-- a gate that is open and moved was not open before: before the first pass, that is to say that not every clock was
engaged -/
theorem gates_untimed_from (c : Channel) (hc : ∀ t ∈ c, t.animation.PlainGate) (lookups : List (String → Option Float))
    (ha : c.Answered lookups) (i : Nat) (e : Evaluation Gate) (he : (c.gates lookups)[i]? = some e) :
    (e.result.isOpen && e.result.moved) =
      (e.result.isOpen && !(if i = 0 then c.allEngaged else openAt (c.gates lookups) (i - 1))) := by
  induction lookups generalizing c i with
  | nil => simp [gates] at he
  | cons lookup lookups ih =>
    obtain ⟨hopen, hedge⟩ := c.gate_untimed hc lookup ha.1
    cases i with
    | zero =>
      obtain rfl : c.gate ⟨.tick, lookup⟩ = e := by simpa [gates] using he
      exact hedge
    | succ i =>
      have hrest := ih (c.gate ⟨.tick, lookup⟩).channel (c.gate_plainGates hc _) ha.2 i (by simpa [gates] using he)
      rw [hrest]
      cases i with
      | zero => simp [gates, openAt, hopen]
      | succ i => simp [gates, openAt]

theorem allEngaged_ofAnimations (curve : Curve) (as : List (Animation Float)) (hne : as ≠ []) :
    (ofAnimations curve as).allEngaged = false := by
  cases as with
  | nil => exact absurd rfl hne
  | cons a as => rfl

/-- **Passes from the start.** Over new clocks of at least one plain gate, the gate is open and moved in exactly the passes
in which it opens. -/
theorem gates_untimed (curve : Curve) (as : List (Animation Float)) (has : PlainGates as)
    (lookups : List (String → Option Float)) (ha : (ofAnimations curve as).Answered lookups) (i : Nat)
    (e : Evaluation Gate) (he : ((ofAnimations curve as).gates lookups)[i]? = some e) :
    (e.result.isOpen && e.result.moved) = opensAt ((ofAnimations curve as).gates lookups) i := by
  have hc : ∀ t ∈ ofAnimations curve as, t.animation.PlainGate := by
    intro t ht
    obtain ⟨a, ha, rfl⟩ := List.mem_map.1 ht
    exact has.all a ha
  have hnow : openAt ((ofAnimations curve as).gates lookups) i = e.result.isOpen := by simp [openAt, he]
  rw [gates_untimed_from _ hc lookups ha i e he, opensAt, hnow, allEngaged_ofAnimations curve as has.nonempty]
  split_ifs with h <;> simp [h]

/-- an untimed gate fires in exactly the passes in which it opens -/
theorem firesAt_eq_opensAt (curve : Curve) (as : List (Animation Float)) (has : PlainGates as)
    (lookups : List (String → Option Float)) (ha : (ofAnimations curve as).Answered lookups) (i : Nat) :
    firesAt ((ofAnimations curve as).gates lookups) i = opensAt ((ofAnimations curve as).gates lookups) i := by
  cases he : ((ofAnimations curve as).gates lookups)[i]? with
  | none => simp [firesAt, opensAt, openAt, he]
  | some e =>
    rw [← gates_untimed curve as has lookups ha i e he]
    simp [firesAt, he]

end Channel

end Stagecraft
