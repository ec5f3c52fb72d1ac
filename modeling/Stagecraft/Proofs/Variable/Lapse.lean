/-
The life of a one-shot. A flag that is turned on for one tick is on up to the end of the tick, unless a list of constants drops it
in between, which it does if the flag was a constant. The end of the tick turns it off, also if it is a constant by then. After
that it is a flag like any other: turned on for good, it outlives the ends of later ticks.

- `not_pending_since_sweep`: the end of a tick leaves nothing pending.
- `lasts_one_tick_unless_dropped`: a one-shot up to the end of its tick, at it, and after it.
-/
import Stagecraft.Proofs.Variable.Reload

namespace Stagecraft.Flags

theorem not_pending_since_sweep {name : String} (before after : List Change) (h : ∀ c ∈ after, c.marks name = false) :
    ¬Pending name (before ++ .clearOneShots :: after) := by
  induction after using List.reverseRecOn with
  | nil =>
    rw [Pending, since_snoc]
    simp [Change.marks]
  | append_singleton after c ih =>
    have hbefore := ih fun c' hc' => h c' (List.mem_append_left _ hc')
    rw [← List.cons_append, ← List.append_assoc, Pending, since_snoc, ← Pending]
    simp [h c (by simp), hbefore]

/-- a one-shot is pending as long as it is neither cleared nor toggled and its tick has not ended -/
theorem pending_since_mark (name : String) (before after : List Change)
    (h : ∀ c ∈ after, c.handles name = false ∧ c ≠ .clearOneShots) : Pending name (before ++ .setOneShot name :: after) :=
  ⟨before, .setOneShot name, after, rfl, by simp [Change.marks], fun c hc => by simp [h c hc]⟩

/-- **One tick.** Let the host turn a flag on as a one-shot and neither clear nor toggle it before the tick ends. Up to then the
flag is on, whatever is declared, turned on or listed in between, unless it was dropped: unless the last that was said of it is
that a list of constants lacks it, which came while it was a constant. When the tick ends it goes off, constant or not. And once
the host turns it on for good, it is on through the ends of later ticks, as long as it is not used as a one-shot, cleared or
toggled again, unless it was dropped. -/
theorem lasts_one_tick_unless_dropped (name : String) (before during later after : List Change)
    (hduring : ∀ c ∈ during, c.handles name = false ∧ c ≠ .clearOneShots)
    (hmarks : ∀ c ∈ later ++ after, c.marks name = false) (hafter : ∀ c ∈ after, c.handles name = false) :
    let marked := before ++ .setOneShot name :: during
    let ended := marked ++ [.clearOneShots]
    let again := ended ++ later ++ .set name :: after
    ((({} : Flags).run marked).isSet name = true ↔ ¬Dropped name marked) ∧
      (({} : Flags).run ended).isSet name = false ∧
      ((({} : Flags).run again).isSet name = true ↔ ¬Dropped name again) := by
  intro marked ended again
  refine ⟨?_, ?_, ?_⟩
  · refine isSet_since (by simp [Change.turnsOn]) before during (fun c hc => (hduring c hc).1) ?_
    rintro first rest rfl
    exact absurd rfl (hduring .clearOneShots (by simp)).2
  · have hpending := (isPending_run marked name).2 (pending_since_mark name before during hduring)
    rw [run_snoc, isSet_change, hpending]
    exact Bool.and_false _
  · refine isSet_since (by simp [Change.turnsOn]) (ended ++ later) after hafter ?_
    rintro first rest rfl
    have hrest : ∀ c ∈ later ++ .set name :: first, c.marks name = false := by
      intro c hc
      simp only [List.mem_append, List.mem_cons] at hc hmarks
      rcases hc with hc | rfl | hc
      · exact hmarks c (.inl hc)
      · rfl
      · exact hmarks c (.inr (.inl hc))
    simpa [ended] using not_pending_since_sweep marked _ hrest

/-- a whistle that is blown between two reloads, while it is turned on and a constant as well, is heard for its tick and then turned
on for good -/
theorem lasts_one_tick_unless_dropped_whistle :
    let during : List Change := [.declare "whistle", .replaceConstants ["whistle"], .set "whistle", .setOneShot "horn"]
    let marked : List Change := [.replaceConstants ["siren"], .setOneShot "whistle"] ++ during
    let ended := marked ++ [.clearOneShots]
    let again := ended ++ [.toggle "whistle"] ++ [.set "whistle", .clearOneShots, .setOneShot "horn", .clearOneShots]
    (∀ c ∈ during, c.handles "whistle" = false ∧ c ≠ .clearOneShots) ∧
      (({} : Flags).run marked).isSet "whistle" = true ∧
      (({} : Flags).run ended).isConstant "whistle" = true ∧ (({} : Flags).run ended).isSet "whistle" = false ∧
      (({} : Flags).run again).isSet "whistle" = true ∧ ¬Dropped "whistle" again := by
  intro during marked ended again
  have hduring : ∀ c ∈ during, c.handles "whistle" = false ∧ c ≠ .clearOneShots := by decide
  obtain ⟨-, hended, hagain⟩ := lasts_one_tick_unless_dropped "whistle" [.replaceConstants ["siren"]] during
    [.toggle "whistle"] [.clearOneShots, .setOneShot "horn", .clearOneShots] hduring (by decide) (by decide)
  have hset : (({} : Flags).run again).isSet "whistle" = true := by decide
  exact ⟨hduring, by decide, by decide, hended, hset, hagain.1 hset⟩

/-- but a whistle that was a constant when it was blown is lost with the reload that lacks it, before its tick has ended, though it
is pending still -/
theorem whistle_lost_on_reload :
    let during : List Change := [.replaceConstants []]
    let flags := ({} : Flags).run ([.replaceConstants ["whistle"], .setOneShot "whistle"] ++ during)
    (∀ c ∈ during, c.handles "whistle" = false ∧ c ≠ .clearOneShots) ∧
      flags.isPending "whistle" = true ∧ flags.isSet "whistle" = false := by
  decide

end Stagecraft.Flags
