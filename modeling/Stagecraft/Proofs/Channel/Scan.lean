/-
Which tracks a reading consults. A scan of the channel, apart from any reading, says it: it goes through the tracks in one of
two modes, free or inhibited, until a visibility closes the gate.

- free, it consults inhibitors, visibilities, and the moving kinds that the reading uses; an inhibitor that passes inhibits it,
  a visibility that fails closes the gate;
- inhibited, it consults activators; one that passes frees it;
- behind a closed gate it consults nothing.

`run_scan`: a sweep in a tick asks for what the scan consults, ticks the clocks of what it consults, and takes its gate from
the mode at the end. `consults_as_scanned` is this for the four readings of a channel.
-/
import Mathlib.Tactic
import Stagecraft.Proofs.Channel.Settle

namespace Stagecraft

/-! ## The scan -/

/-- how a channel stands while it is gone through -/
inductive Mode where
  | free
  | inhibited
  | closed
deriving DecidableEq

namespace Mode

def ofInhibited (inhibited : Bool) : Mode := if inhibited then .inhibited else .free

/-- whether a track of a kind is consulted, by a reading that uses some of the moving kinds -/
def consults (used : List Kind) (m : Mode) (kind : Kind) : Bool :=
  match m with
  | .free => kind = .inhibitor || kind = .visibility || kind ∈ used
  | .inhibited => kind = .activator
  | .closed => false

/-- the mode behind one more track -/
def after (lookup : String → Option Float) (m : Mode) (t : Track) : Mode :=
  match m, t.animation.kind with
  | .free, .inhibitor => if t.test lookup then .inhibited else .free
  | .free, .visibility => if t.test lookup then .free else .closed
  | .inhibited, .activator => if t.test lookup then .free else .inhibited
  | m, _ => m

/-- the mode behind some tracks -/
def behind (lookup : String → Option Float) (m : Mode) (c : Channel) : Mode := c.foldl (after lookup) m

end Mode

/-- the track after one tick of its clock, with the signal of the answer, or its own without one -/
def Track.ticked (lookup : String → Option Float) (t : Track) : Track :=
  { t with
    clock := t.clock.advance t.animation.toTiming
      (t.input ((⟨.tick, lookup⟩ : Sampling).resolve t.animation.source)).2 }

namespace Channel

/-- the tracks of a channel, each with whether it is consulted -/
def scan (used : List Kind) (lookup : String → Option Float) (m : Mode) : Channel → List (Track × Bool)
  | [] => []
  | t :: rest => (t, m.consults used t.animation.kind) :: scan used lookup (m.after lookup t) rest

/-- the tracks that are consulted, in order -/
def consulted (used : List Kind) (lookup : String → Option Float) (m : Mode) (c : Channel) : List Track :=
  ((c.scan used lookup m).filter (·.2)).map (·.1)

/-- the channel with a tick for every clock that is consulted, and no other -/
def tickConsulted (used : List Kind) (lookup : String → Option Float) (m : Mode) (c : Channel) : Channel :=
  (c.scan used lookup m).map fun (t, hit) => if hit then t.ticked lookup else t

/-- the gate of a channel, with a move before or without -/
def scannedGate (used : List Kind) (lookup : String → Option Float) (m : Mode) (moved : Bool) (c : Channel) : Gate :=
  { isOpen := m.behind lookup c ≠ .closed
    inhibited := m.behind lookup c = .inhibited
    moved := moved || (c.consulted used lookup m).any fun t =>
      t.animation.kind = .visibility && (t.ticked lookup).clock.moved }

end Channel

/-! ## The scan by itself -/

namespace Mode

variable {lookup : String → Option Float}

/-- what is not consulted does not change the mode -/
theorem after_of_not_consults {used : List Kind} {m : Mode} {t : Track}
    (h : m.consults used t.animation.kind = false) : m.after lookup t = m := by
  unfold after
  cases m with
  | free => cases hkind : t.animation.kind <;> simp_all [consults]
  | inhibited => cases hkind : t.animation.kind <;> simp_all [consults]
  | closed => rfl

/-- a moving track does not change it either -/
theorem after_of_moving {m : Mode} {t : Track} (h : t.animation.kind.isGate = false) : m.after lookup t = m := by
  unfold after
  cases m <;> cases hkind : t.animation.kind <;> simp_all [Kind.isGate]

/-- of the gates, every reading consults the same -/
theorem consults_gate {used : List Kind} (hused : ∀ kind ∈ used, kind.isGate = false) (m : Mode) {kind : Kind}
    (h : kind.isGate = true) : m.consults used kind = m.consults [] kind := by
  have hother : kind ∉ used := by
    intro hmem
    rw [hused kind hmem] at h
    cases h
  cases m <;> simp [consults, hother]

/-- and a reading that uses none of the moving kinds does not consult it -/
theorem consults_moving (m : Mode) {kind : Kind} (h : kind.isGate = false) : m.consults [] kind = false := by
  cases m <;> cases kind <;> simp_all [consults, Kind.isGate]

theorem behind_cons (m : Mode) (t : Track) (rest : Channel) :
    m.behind lookup (t :: rest) = (m.after lookup t).behind lookup rest := rfl

theorem behind_closed (c : Channel) : Mode.closed.behind lookup c = .closed := by
  induction c with
  | nil => rfl
  | cons t rest ih => exact ih

end Mode

namespace Channel

variable {lookup : String → Option Float}

theorem scan_closed (used : List Kind) (c : Channel) : c.scan used lookup .closed = c.map fun t => (t, false) := by
  induction c with
  | nil => rfl
  | cons t rest ih =>
    rw [List.map_cons, ← ih]
    rfl

theorem consulted_closed (used : List Kind) (c : Channel) : c.consulted used lookup .closed = [] := by
  simp [consulted, scan_closed]

theorem tickConsulted_closed (used : List Kind) (c : Channel) : c.tickConsulted used lookup .closed = c := by
  simp [tickConsulted, scan_closed, Function.comp_def]

theorem consulted_cons (used : List Kind) (m : Mode) (t : Track) (rest : Channel) :
    consulted used lookup m (t :: rest) =
      if m.consults used t.animation.kind then t :: consulted used lookup (m.after lookup t) rest
      else consulted used lookup (m.after lookup t) rest := by
  unfold consulted
  rw [scan, List.filter_cons]
  split_ifs <;> rfl

theorem tickConsulted_cons (used : List Kind) (m : Mode) (t : Track) (rest : Channel) :
    tickConsulted used lookup m (t :: rest) =
      (if m.consults used t.animation.kind then t.ticked lookup else t) ::
        tickConsulted used lookup (m.after lookup t) rest := rfl

end Channel

/-! ## Sweeps -/

/-- what a tick makes of a track does not hang on what its sample rides on -/
theorem Track.sample_ticked (lookup : String → Option Float) (stacking : Float) (t : Track) :
    (t.sample ⟨.tick, lookup⟩ stacking).1 = t.ticked lookup := rfl

namespace Sweep

variable {σ : Type}

/-- a sweep that uses these of the moving kinds -/
def Uses (use : Use σ) (used : List Kind) : Prop :=
  ∀ inhibited kind, reads use inhibited kind = (Mode.ofInhibited inhibited).consults used kind

theorem uses_gate : Uses Use.gate [] := by
  intro inhibited kind
  cases inhibited <;> cases kind <;> rfl

theorem uses_brightness : Uses Use.brightness [.translation] := by
  intro inhibited kind
  cases inhibited <;> cases kind <;> rfl

theorem uses_level : Uses Use.level [.translation, .rotation] := by
  intro inhibited kind
  cases inhibited <;> cases kind <;> rfl

theorem uses_pose : Uses Use.pose [.translation, .rotation, .scaling] := by
  intro inhibited kind
  cases inhibited <;> cases kind <;> rfl

/-- the sweep goes on in the mode of the scan, and stops where the scan closes the gate -/
theorem after_next (lookup : String → Option Float) (use : Use σ) (p : Progress σ) (index : Nat) (t : Track)
    (hr : reads use p.inhibited t.animation.kind = true) :
    (Mode.ofInhibited p.inhibited).after lookup t =
      if (next ⟨.tick, lookup⟩ use p index t).2 then
        .ofInhibited (next ⟨.tick, lookup⟩ use p index t).1.inhibited
      else .closed := by
  have hgate : t.animation.kind.isGate = true →
      t.animation.passes (sampled ⟨.tick, lookup⟩ use p t).2.value = t.test lookup := by
    intro h
    rw [sampled, stacking, if_pos h]
    rfl
  unfold Mode.after next after
  cases hkind : t.animation.kind with
  | visibility =>
    have hfree : p.inhibited = false := by simpa [reads, hkind] using hr
    simp only [hkind, Kind.isGate, forall_const] at hgate
    simp [hfree, Mode.ofInhibited, hgate]
  | inhibitor =>
    have hfree : p.inhibited = false := by simpa [reads, hkind] using hr
    simp only [hkind, Kind.isGate, forall_const] at hgate
    simp [hfree, Mode.ofInhibited, hgate]
  | activator =>
    have hheld : p.inhibited = true := by simpa [reads, hkind] using hr
    simp only [hkind, Kind.isGate, forall_const] at hgate
    simp only [hheld, Mode.ofInhibited, hgate]
    cases t.test lookup <;> rfl
  | translation => cases p.inhibited <;> rfl
  | rotation => cases p.inhibited <;> rfl
  | scaling => cases p.inhibited <;> rfl

/-- the clock of a visibility that was read may have moved; nothing else counts as a move -/
theorem moved_next (lookup : String → Option Float) (use : Use σ) (p : Progress σ) (index : Nat) (t : Track) :
    (next ⟨.tick, lookup⟩ use p index t).1.moved =
      (p.moved || (t.animation.kind = .visibility && (t.ticked lookup).clock.moved)) := by
  unfold next after
  cases hkind : t.animation.kind <;> simp [sampled, Track.sample, Track.ticked]

/-- an outcome as a scan has it that begins in a mode, with a move before or without -/
structure AsScanned (used : List Kind) (lookup : String → Option Float) (m : Mode) (moved : Bool) (c : Channel)
    (o : Outcome σ) : Prop where
  asked : o.asked = (c.consulted used lookup m).map (·.animation.source)
  channel : o.channel = c.tickConsulted used lookup m
  gate : o.gate = c.scannedGate used lookup m moved

namespace AsScanned

variable {used : List Kind} {lookup : String → Option Float} {m : Mode} {moved : Bool} {t : Track} {rest : Channel}
  {o : Outcome σ}

/-- behind a closed gate -/
theorem shut (sum : σ) : AsScanned used lookup .closed moved rest ⟨⟨false, false, moved⟩, sum, rest, []⟩ := by
  refine ⟨?_, ?_, ?_⟩
  · rw [Channel.consulted_closed]
    rfl
  · rw [Channel.tickConsulted_closed]
  · rw [Channel.scannedGate, Mode.behind_closed, Channel.consulted_closed, List.any_nil, Bool.or_false]
    rfl

/-- a track in front that is not consulted -/
theorem skip (h : AsScanned used lookup m moved rest o) (hconsults : m.consults used t.animation.kind = false) :
    AsScanned used lookup m moved (t :: rest) { o with channel := t :: o.channel } := by
  have hafter : m.after lookup t = m := Mode.after_of_not_consults hconsults
  have hconsulted : Channel.consulted used lookup m (t :: rest) = Channel.consulted used lookup m rest := by
    rw [Channel.consulted_cons, hafter, hconsults, if_neg Bool.false_ne_true]
  refine ⟨?_, ?_, ?_⟩
  · rw [hconsulted]
    exact h.asked
  · rw [Channel.tickConsulted_cons, hafter, hconsults, if_neg Bool.false_ne_true, ← h.channel]
  · rw [Channel.scannedGate, hconsulted, Mode.behind_cons, hafter]
    exact h.gate

/-- a track in front that is consulted, and behind which the scan goes on as `h` says -/
theorem go {m' : Mode} {moved' : Bool} (h : AsScanned used lookup m' moved' rest o)
    (hconsults : m.consults used t.animation.kind = true) (hafter : m.after lookup t = m')
    (hmoved : moved' = (moved || (t.animation.kind = .visibility && (t.ticked lookup).clock.moved))) :
    AsScanned used lookup m moved (t :: rest)
      { o with channel := t.ticked lookup :: o.channel, asked := t.animation.source :: o.asked } := by
  have hconsulted : Channel.consulted used lookup m (t :: rest) = t :: Channel.consulted used lookup m' rest := by
    rw [Channel.consulted_cons, hafter, hconsults, if_pos rfl]
  refine ⟨?_, ?_, ?_⟩
  · rw [hconsulted, List.map_cons, ← h.asked]
  · rw [Channel.tickConsulted_cons, hafter, hconsults, if_pos rfl, ← h.channel]
  · rw [Channel.scannedGate, hconsulted, Mode.behind_cons, hafter, List.any_cons, ← Bool.or_assoc, ← hmoved]
    exact h.gate

end AsScanned

/-- only a visibility closes the gate, and it is read while nothing is inhibited -/
theorem inhibited_of_close (s : Sampling) (use : Use σ) (p : Progress σ) (index : Nat) (t : Track)
    (hr : reads use p.inhibited t.animation.kind = true) (hn : (next s use p index t).2 = false) :
    (next s use p index t).1.inhibited = false := by
  unfold next after at hn ⊢
  cases hkind : t.animation.kind with
  | visibility => simpa [reads, hkind] using hr
  | _ => simp [hkind] at hn

/-- **A sweep is its scan.** What a tick asks for, what it makes of the clocks, and the gate are what the scan says. -/
theorem run_scan (lookup : String → Option Float) {use : Use σ} {used : List Kind} (huse : Uses use used)
    (p : Progress σ) (index : Nat) (c : Channel) :
    AsScanned used lookup (.ofInhibited p.inhibited) p.moved c (run ⟨.tick, lookup⟩ use p index c) := by
  induction c generalizing p index with
  | nil =>
    refine ⟨rfl, rfl, ?_⟩
    cases hp : p.inhibited <;>
      simp [run, Channel.scannedGate, Channel.consulted, Channel.scan, Mode.behind, Mode.ofInhibited, hp]
  | cons t rest ih =>
    have hconsults := huse p.inhibited t.animation.kind
    cases hr : reads use p.inhibited t.animation.kind with
    | false =>
      rw [hr, eq_comm] at hconsults
      rw [run_skip _ _ p index t rest hr]
      exact (ih p (index + 1)).skip hconsults
    | true =>
      rw [hr, eq_comm] at hconsults
      have hafter := after_next lookup use p index t hr
      have hmoved := moved_next lookup use p index t
      cases hn : (next ⟨.tick, lookup⟩ use p index t).2 with
      | false =>
        rw [hn, if_neg Bool.false_ne_true] at hafter
        rw [run_close _ _ p index t rest hr hn, inhibited_of_close _ use p index t hr hn]
        exact (AsScanned.shut _).go hconsults hafter hmoved
      | true =>
        rw [hn, if_pos rfl] at hafter
        rw [run_go _ _ p index t rest hr hn]
        exact (ih (next ⟨.tick, lookup⟩ use p index t).1 (index + 1)).go hconsults hafter hmoved

end Sweep

/-! ## Readings -/

/-- a reading in a tick that asks for the variables of the tracks that the scan consults, in order and once for each of them,
that ticks the clock of each of them once, and that leaves every other track as it is -/
structure Channel.Consults (c : Channel) (lookup : String → Option Float) (used : List Kind) {ρ : Type}
    (e : Evaluation ρ) : Prop where
  asked : e.asked = (c.consulted used lookup .free).map (·.animation.source)
  channel : e.channel = c.tickConsulted used lookup .free

theorem Channel.consults_evaluate {σ ρ : Type} (lookup : String → Option Float) {use : Use σ} {used : List Kind}
    (huse : Sweep.Uses use used) (start : σ) (settle : Gate → σ → ρ) (c : Channel) :
    c.Consults lookup used (c.evaluate ⟨.tick, lookup⟩ use start settle) := by
  have hscan := Sweep.run_scan lookup huse { sum := start } 0 c
  exact ⟨hscan.asked, hscan.channel⟩

/-- **What a reading consults.** In a tick, each of the four readings of a channel consults the tracks that the scan consults
for the moving kinds that it uses, and no others. -/
theorem Channel.consults_as_scanned (lookup : String → Option Float) (c : Channel) :
    let s : Sampling := ⟨.tick, lookup⟩
    c.Consults lookup [] (c.gate s) ∧ c.Consults lookup [.translation] (c.brightness s) ∧
      c.Consults lookup [.translation, .rotation] (c.level s) ∧
      c.Consults lookup [.translation, .rotation, .scaling] (c.pose s) := by
  intro s
  refine ⟨?_, ?_, ?_, ?_⟩
  · exact consults_evaluate lookup Sweep.uses_gate _ _ c
  · exact consults_evaluate lookup Sweep.uses_brightness _ _ c
  · exact consults_evaluate lookup Sweep.uses_level _ _ c
  · exact consults_evaluate lookup Sweep.uses_pose _ _ c

end Stagecraft
