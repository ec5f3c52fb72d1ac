/-
Gates apart from moving tracks. The mode of a scan follows gates alone, so whatever a reading makes of the moving tracks, the
gate of the channel and the clocks of its gates come out the same, and the same once more without the moving tracks.

- `tickConsulted_gate`: a gate at its place, after any reading.
- `scannedGate_gatesOf`, `tickConsulted_gatesOf`: the channel without its moving tracks.
- `gates_apart`: the four readings.
-/
import Mathlib.Tactic
import Stagecraft.Proofs.Channel.Scan

namespace Stagecraft

/-- the tracks of a channel that gate -/
def Channel.gatesOf (c : Channel) : Channel := c.filter (·.animation.kind.isGate)

variable {lookup : String → Option Float}

/-! ## A gate at its place -/

namespace Channel

theorem tickConsulted_getElem? (used : List Kind) (m : Mode) (ts : Channel) (i : Nat) :
    (ts.tickConsulted used lookup m)[i]? =
      ts[i]?.map fun t => if (m.behind lookup (ts.take i)).consults used t.animation.kind then t.ticked lookup else t := by
  induction ts generalizing m i with
  | nil => rfl
  | cons t rest ih =>
    cases i with
    | zero => rfl
    | succ i => exact ih (m.after lookup t) i

/-- a reading ticks the gate at a place or leaves it, as the gates before it decide -/
theorem tickConsulted_gate {used : List Kind} (hused : ∀ kind ∈ used, kind.isGate = false) (m : Mode) (ts : Channel)
    (i : Nat) (t : Track) (ht : ts[i]? = some t) (hgate : t.animation.kind.isGate = true) :
    (ts.tickConsulted used lookup m)[i]? = (ts.tickConsulted [] lookup m)[i]? := by
  rw [tickConsulted_getElem?, tickConsulted_getElem?, ht]
  simp only [Option.map_some, Mode.consults_gate hused _ hgate]

/-! ## Without the moving tracks -/

theorem gatesOf_cons_gate {t : Track} (h : t.animation.kind.isGate = true) (rest : Channel) :
    gatesOf (t :: rest) = t :: gatesOf rest := List.filter_cons_of_pos h

theorem gatesOf_cons_moving {t : Track} (h : t.animation.kind.isGate = false) (rest : Channel) :
    gatesOf (t :: rest) = gatesOf rest := List.filter_cons_of_neg (by rw [h]; exact Bool.false_ne_true)

theorem behind_gatesOf (m : Mode) (c : Channel) : m.behind lookup c.gatesOf = m.behind lookup c := by
  induction c generalizing m with
  | nil => rfl
  | cons t rest ih =>
    cases hgate : t.animation.kind.isGate with
    | true =>
      rw [gatesOf_cons_gate hgate, Mode.behind_cons, Mode.behind_cons]
      exact ih _
    | false =>
      rw [gatesOf_cons_moving hgate, Mode.behind_cons, Mode.after_of_moving hgate]
      exact ih m

/-- a reading that uses no moving kind consults gates only -/
theorem consulted_gatesOf (m : Mode) (c : Channel) : c.gatesOf.consulted [] lookup m = c.consulted [] lookup m := by
  induction c generalizing m with
  | nil => rfl
  | cons t rest ih =>
    cases hgate : t.animation.kind.isGate with
    | true => rw [gatesOf_cons_gate hgate, consulted_cons, consulted_cons, ih]
    | false =>
      rw [gatesOf_cons_moving hgate, consulted_cons, Mode.consults_moving m hgate, Mode.after_of_moving hgate,
        if_neg Bool.false_ne_true]
      exact ih m

theorem scannedGate_gatesOf (m : Mode) (moved : Bool) (c : Channel) :
    c.gatesOf.scannedGate [] lookup m moved = c.scannedGate [] lookup m moved := by
  rw [scannedGate, scannedGate, behind_gatesOf, consulted_gatesOf]

theorem tickConsulted_gatesOf (m : Mode) (c : Channel) :
    c.gatesOf.tickConsulted [] lookup m = (c.tickConsulted [] lookup m).gatesOf := by
  induction c generalizing m with
  | nil => rfl
  | cons t rest ih =>
    cases hgate : t.animation.kind.isGate with
    | true =>
      have hticked : (if m.consults [] t.animation.kind then t.ticked lookup else t).animation.kind.isGate = true := by
        split_ifs <;> exact hgate
      rw [gatesOf_cons_gate hgate, tickConsulted_cons, tickConsulted_cons, gatesOf_cons_gate hticked, ih]
    | false =>
      rw [gatesOf_cons_moving hgate, tickConsulted_cons, Mode.consults_moving m hgate, Mode.after_of_moving hgate,
        if_neg Bool.false_ne_true, gatesOf_cons_moving hgate]
      exact ih m

/-! ## Readings -/

/-- a reading makes of the gate what it makes of the gate of the scan -/
theorem exists_result {σ ρ : Type} (lookup : String → Option Float) {use : Use σ} {used : List Kind}
    (huse : Sweep.Uses use used) (start : σ) (settle : Gate → σ → ρ) (c : Channel) :
    ∃ sum, (c.evaluate ⟨.tick, lookup⟩ use start settle).result =
      settle (c.scannedGate used lookup .free false) sum := by
  have hgate := (Sweep.run_scan lookup huse { sum := start } 0 c).gate
  exact ⟨_, congrArg (settle · _) hgate⟩

/-- every reading leaves a gate at its place as the gate of the channel leaves it -/
theorem left_gate {σ ρ : Type} {use : Use σ} {used : List Kind} (huse : Sweep.Uses use used)
    (hused : ∀ kind ∈ used, kind.isGate = false) (start : σ) (settle : Gate → σ → ρ) (ts : Channel) (i : Nat) (t : Track)
    (ht : ts[i]? = some t) (hkind : t.animation.kind.isGate = true) :
    (ts.evaluate ⟨.tick, lookup⟩ use start settle).channel[i]? = (ts.gate ⟨.tick, lookup⟩).channel[i]? := by
  have hleft := (consults_evaluate lookup huse start settle ts).channel
  have hgate := (consults_evaluate lookup Sweep.uses_gate () (fun g _ => g) ts).channel
  calc (ts.evaluate ⟨.tick, lookup⟩ use start settle).channel[i]?
      = (ts.tickConsulted used lookup .free)[i]? := by rw [hleft]
    _ = (ts.tickConsulted [] lookup .free)[i]? := tickConsulted_gate hused _ ts i t ht hkind
    _ = (ts.gate ⟨.tick, lookup⟩).channel[i]? := congrArg (·[i]?) hgate.symm

theorem gate_result (c : Channel) : (c.gate ⟨.tick, lookup⟩).result = c.scannedGate [] lookup .free false := by
  obtain ⟨-, h⟩ := c.exists_result lookup Sweep.uses_gate () fun g _ => g
  exact h

theorem settleBrightness_closed {g : Gate} (h : g.isOpen = false) (sum : Option Float) : settleBrightness g sum = 0 := by
  cases sum <;> simp [settleBrightness, h]

theorem settleLevel_closed {g : Gate} (h : g.isOpen = false) (sum : Option Float) :
    settleLevel g sum = Float.ofNat 0 := by
  simp [settleLevel, h]

/-- **Gates apart from moving tracks.** In a tick over one channel: the pose is visible just if the gate is open; each of the
four readings leaves every gate of the channel in the same state; without its moving tracks, the channel has the same gate and
its gates are left in the same states; and behind a closed gate, brightness and level are 0. -/
theorem gates_apart (lookup : String → Option Float) (ts : Channel) :
    let s : Sampling := ⟨.tick, lookup⟩
    (ts.pose s).result.visible = (ts.gate s).result.isOpen ∧
      (∀ (i : Nat) (t : Track), ts[i]? = some t → t.animation.kind.isGate = true →
        (ts.brightness s).channel[i]? = (ts.gate s).channel[i]? ∧ (ts.level s).channel[i]? = (ts.gate s).channel[i]? ∧
          (ts.pose s).channel[i]? = (ts.gate s).channel[i]?) ∧
      (ts.gatesOf.gate s).result = (ts.gate s).result ∧ (ts.gatesOf.gate s).channel = (ts.gate s).channel.gatesOf ∧
      ((ts.gate s).result.isOpen = false → (ts.brightness s).result = 0 ∧ (ts.level s).result = 0) := by
  intro s
  refine ⟨?_, fun i t ht hkind => ⟨?_, ?_, ?_⟩, ?_, ?_, fun hclosed => ⟨?_, ?_⟩⟩
  · rw [gate_result]
    obtain ⟨sum, hresult⟩ := ts.exists_result lookup Sweep.uses_pose [] settlePose
    exact congrArg Pose.visible hresult
  · exact left_gate Sweep.uses_brightness (by decide) none settleBrightness ts i t ht hkind
  · exact left_gate Sweep.uses_level (by decide) none settleLevel ts i t ht hkind
  · exact left_gate Sweep.uses_pose (by decide) [] settlePose ts i t ht hkind
  · rw [gate_result, gate_result, scannedGate_gatesOf]
  · have hgates := consults_evaluate lookup Sweep.uses_gate () (fun g _ => g) ts.gatesOf
    have hgate := consults_evaluate lookup Sweep.uses_gate () (fun g _ => g) ts
    exact hgates.channel.trans ((tickConsulted_gatesOf _ ts).trans (congrArg gatesOf hgate.channel.symm))
  · rw [gate_result] at hclosed
    obtain ⟨sum, hresult⟩ := ts.exists_result lookup Sweep.uses_brightness none settleBrightness
    exact hresult.trans (settleBrightness_closed hclosed sum)
  · rw [gate_result] at hclosed
    obtain ⟨sum, hresult⟩ := ts.exists_result lookup Sweep.uses_level none settleLevel
    exact hresult.trans (settleLevel_closed hclosed sum)

/-- a lantern that sways and dims, unless somebody is near; it takes two ticks of power to show -/
def lantern : Channel :=
  .ofAnimations .linear
    [{ Animation.plain .rotation "wind" with axis := some ⟨0, 1, 0⟩ },
      { Animation.plain .inhibitor "near" with clampMin := 1, clampMax := 1 },
      { Animation.plain .translation "oil" with axis := some ⟨1, 0, 0⟩ },
      { Animation.plain .visibility "power" with clampMin := 1, clampMax := 1, duration := 2 }]

/-- in the first tick of power it does not show yet, though it has oil; whatever is read of it, the clock of the power is on -/
theorem gates_apart_lantern :
    let lookup : String → Option Float := fun name => if name = "near" then some 0 else some 1
    let s : Sampling := ⟨.tick, lookup⟩
    (∃ t : Track, lantern[3]? = some t ∧ t.animation.kind.isGate = true) ∧ (lantern.gate s).result.isOpen = false ∧
      (lantern.pose s).channel[3]? = (lantern.gate s).channel[3]? ∧
      ((lantern.gate s).channel[3]?.map (·.clock.ramp)) = some 1 ∧
      (lantern.brightness s).result = 0 ∧ (lantern.level s).result = 0 := by
  intro lookup s
  obtain ⟨-, hplaces, -, -, hdark⟩ := gates_apart lookup lantern
  have hclosed : (lantern.gate s).result.isOpen = false := by decide +kernel
  refine ⟨⟨_, rfl, rfl⟩, hclosed, (hplaces 3 _ rfl rfl).2.2, by decide +kernel, hdark hclosed⟩

end Channel

end Stagecraft
