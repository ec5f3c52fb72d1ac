/-
Which tracks a reading reads, in a tick or in a frame. A track is read if the channel is not closed before it and its kind is one
that counts as the channel then stands: gates and the moving kinds that the reading uses while nothing inhibits the channel,
activators alone while something does. What is read is asked for, once and in order, and nothing else is.

- `Channel.tracksRead`: the tracks that are read, said without the sweep.
- `asked_run`, `asked_eq`: a sweep, and with it a reading, asks for their variables.
- `tracksRead_subset`: they are tracks of the channel.
- `tracksRead_tick`: in a tick they are the tracks that the scan consults.
-/
import Mathlib.Tactic
import Stagecraft.Proofs.Channel.Scan
import Stagecraft.Proofs.Channel.Stack

namespace Stagecraft

namespace Channel

/-- the tracks that are read by a reading that uses some of the moving kinds, in order -/
def tracksRead (s : Sampling) (used : List Kind) (inhibited : Bool) : Channel → List Track
  | [] => []
  | t :: rest =>
    if (Mode.ofInhibited inhibited).consults used t.animation.kind then
      t :: if t.animation.kind = .visibility && !t.passes s then [] else tracksRead s used (t.inhibits s inhibited) rest
    else tracksRead s used inhibited rest

end Channel

/-- **A sweep asks for what it reads.** -/
theorem Sweep.asked_run {σ : Type} (s : Sampling) {use : Use σ} {used : List Kind} (huse : Uses use used) (p : Progress σ)
    (index : ℕ) (c : Channel) : (run s use p index c).asked = (c.tracksRead s used p.inhibited).map (·.animation.source) := by
  induction c generalizing p index with
  | nil => rfl
  | cons t rest ih =>
    have hreads := huse p.inhibited t.animation.kind
    cases hr : reads use p.inhibited t.animation.kind with
    | false =>
      rw [run_skip s use p index t rest hr, Channel.tracksRead, ← hreads, hr, if_neg Bool.false_ne_true]
      exact ih p (index + 1)
    | true =>
      have hopen := open_next s use p index t
      rw [Channel.tracksRead, ← hreads, hr, if_pos rfl]
      cases hn : (next s use p index t).2 with
      | false =>
        have hcloses : (t.animation.kind = .visibility && !t.passes s) = true := by
          rw [hn] at hopen
          simpa using hopen
        rw [run_close s use p index t rest hr hn, hcloses, if_pos rfl]
        rfl
      | true =>
        have hstays : (t.animation.kind = .visibility && !t.passes s) = false := by
          rw [hn] at hopen
          simpa using hopen
        rw [run_go s use p index t rest hr hn, hstays, if_neg Bool.false_ne_true, ← inhibited_next s index hr, List.map_cons,
          ← ih]

/-- behind a track that is read, a scan is in the mode in which a reading goes on, or has closed the gate -/
theorem Mode.after_of_consults (lookup : String → Option Float) {used : List Kind} {inhibited : Bool} {t : Track}
    (h : (ofInhibited inhibited).consults used t.animation.kind = true) :
    (ofInhibited inhibited).after lookup t =
      if t.animation.kind = .visibility && !t.passes ⟨.tick, lookup⟩ then .closed
      else .ofInhibited (t.inhibits ⟨.tick, lookup⟩ inhibited) := by
  have htest : t.test lookup = t.passes ⟨.tick, lookup⟩ := rfl
  unfold after Track.inhibits
  rw [htest]
  cases inhibited <;> cases hkind : t.animation.kind <;> cases t.passes ⟨.tick, lookup⟩ <;>
    simp_all [consults, ofInhibited]

namespace Channel

theorem asked_eq {σ ρ : Type} (s : Sampling) {use : Use σ} {used : List Kind} (huse : Sweep.Uses use used) (start : σ)
    (settle : Gate → σ → ρ) (c : Channel) :
    (c.evaluate s use start settle).asked = (c.tracksRead s used false).map (·.animation.source) :=
  Sweep.asked_run s huse { sum := start } 0 c

/-- what is read are tracks of the channel -/
theorem tracksRead_subset (s : Sampling) (used : List Kind) (inhibited : Bool) (c : Channel) :
    c.tracksRead s used inhibited ⊆ c := by
  induction c generalizing inhibited with
  | nil => exact List.Subset.refl []
  | cons t rest ih =>
    unfold tracksRead
    split_ifs
    · exact List.cons_subset_cons _ (List.nil_subset _)
    · exact List.cons_subset_cons _ (ih _)
    · exact List.subset_cons_of_subset _ (ih inhibited)

/-- in a tick, what is read is what the scan consults -/
theorem tracksRead_tick (lookup : String → Option Float) (used : List Kind) (inhibited : Bool) (c : Channel) :
    c.tracksRead ⟨.tick, lookup⟩ used inhibited = c.consulted used lookup (.ofInhibited inhibited) := by
  induction c generalizing inhibited with
  | nil => rfl
  | cons t rest ih =>
    rw [tracksRead, consulted_cons]
    cases hconsults : (Mode.ofInhibited inhibited).consults used t.animation.kind with
    | false => rw [Mode.after_of_not_consults hconsults, if_neg Bool.false_ne_true, if_neg Bool.false_ne_true, ih]
    | true =>
      rw [Mode.after_of_consults lookup hconsults, if_pos rfl, if_pos rfl]
      split_ifs
      · rw [consulted_closed]
      · rw [ih]

end Channel

end Stagecraft
