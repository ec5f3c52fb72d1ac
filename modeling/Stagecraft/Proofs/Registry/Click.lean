/-
Clicks. A flag that is used as a one-shot and as nothing else is on in a tick if it was clicked before it. So a sound behind a
switch of that flag starts in the ticks that were clicked for and follow a tick that was not: of clicks before several ticks in
a row, the first alone is heard.
-/
import Stagecraft.Presentation.Sanitized
import Stagecraft.Proofs.Registry.Isolation
import Stagecraft.Proofs.Registry.Rise

namespace Stagecraft

/-- the flag was marked as a one-shot, and neither cleared, toggled nor dropped since -/
def Clicked (name : String) (deeds : List Deed) : Prop := Flags.Pending name (deeds.map Deed.change)

section OnlyMarked

variable {name : String} {deeds : List Deed} (h : ∀ a ∈ deeds, a.change.onlyMarks name = true)

include h

/-- a flag that is used as a one-shot at most is on if it was clicked -/
theorem lit_iff_clicked : Lit name deeds ↔ Clicked name deeds := by
  apply Flags.isSet_of_onlyMarked
  intro c hc
  obtain ⟨a, ha, rfl⟩ := List.mem_map.1 hc
  exact h a ha

theorem litAtLastTick_iff : AtLastTick (Lit name) deeds ↔ AtLastTick (Clicked name) deeds := by
  have hbefore : ∀ before a after, deeds = before ++ a :: after → (Lit name before ↔ Clicked name before) := by
    rintro before a after rfl
    exact lit_iff_clicked fun b hb => h b (List.mem_append_left _ hb)
  constructor
  · exact fun hlast => hlast.mono fun before a after hd ⟨htick, hlit⟩ => ⟨htick, (hbefore before a after hd).1 hlit⟩
  · exact fun hlast => hlast.mono fun before a after hd ⟨htick, hclick⟩ => ⟨htick, (hbefore before a after hd).2 hclick⟩

end OnlyMarked

namespace Registry

/-- **One-shots.** A sound that plays once is behind a switch, such as an untimed visibility from 1 to 1, whose flag is marked
as a one-shot now and then and never turned on otherwise. Whatever is requested of the registry: as long as the observer hears
the sound and nothing else says anything of the flag, the tick of its entity starts the sound just if the flag was clicked, was
not clicked in the last tick under the same definition, and no instance plays. -/
theorem starts_on_first_click (a : Animation Float) :
    (a.PlainGate → a.axis = none → a.offset = 0 → a.clampMin = 1 → a.clampMax = 1 → a.Switch) ∧
    ∀ (settings : Settings) (requests : List Request) (world : WorldId), ∀ l ∈ lives world requests,
      ∀ deeds d since, l.Deeds deeds → l.Presents d since →
      ∀ k sound, d.sounds[k]? = some sound → sound.looping = false → sound.forced = false → sound.active = [a] → a.Switch →
        (∀ deed ∈ deeds, deed.change.onlyMarks a.source = true) → (∀ c ∈ since, c.Shows sound a.source) →
      ∀ n host, Concern.Shows sound a.source (.tick n (host.own l.entity) (host.world l.entity) (host.observer l.entity)) →
        ∃ e out, ((new settings).run requests).state.get? world l.entity = some e ∧
          (((new settings).run requests).state.serve (.tick world n host)).output.about l.entity = .effects out ∧
          let scope := host.scope l.entity e.flags
          let o := host.observer l.entity
          let share := e.presenter.cuesOf scope o
          let first := Clicked a.source deeds ∧ ¬AtLastTick (Clicked a.source) deeds
          let plays := Voices.has (e.presenter.voicesBefore scope o k) (.ofIndex k)
          out.audio = (List.range d.sounds.length).flatMap share ∧
            (d.sounds.length ≤ 2 ^ 32 → out.audio.filter (·.sound = .ofIndex k) = share k ∧
              plays = Voices.has e.presenter.playing (.ofIndex k)) ∧
            (first ∧ plays = false → (share k).filter Cue.isStart = [.start l.entity (.ofIndex k) sound.name false]) ∧
            (¬(first ∧ plays = false) → (share k).filter Cue.isStart = []) := by
  refine ⟨a.switch_of_range, ?_⟩
  intro settings requests world l hl deeds d since hdeeds hd k sound hsound hlooping hforced hactive ha hmarks
    hshows n host hnow
  have hleave := leave_not_mem_of_lives hl
  have hsolo : l.solo settings ∈ ((new settings).run requests).state.solos world := by
    rw [solos_run]
    exact List.mem_map_of_mem hl
  have hdistinct := distinct_run settings requests
  have hentity := l.entity_solo settings
  obtain ⟨e, he, -, hsame⟩ := exists_get? (hdistinct world) hsolo
  have hconcern : (Request.tick world n host).concern? world (l.solo settings).entity =
      some (.tick n (host.own l.entity) (host.world l.entity) (host.observer l.entity)) := by
    rw [hentity]
    exact if_pos rfl
  have habout := about_serve hdistinct hsolo hconcern
  rw [hentity] at he habout
  have harmed := Life.armed_solo hd hleave hdeeds settings hsound hactive ha hshows
  have hrises := Life.starts_on_rise hd hleave hdeeds settings hsound hactive ha hshows hlooping hforced n _ _ _ hnow
  rw [litAtLastTick_iff hmarks, lit_iff_clicked hmarks, ← hsame] at hrises
  rw [← hsame] at harmed
  have hlength : e.presenter.sounds.length = d.sounds.length := by
    rw [← harmed.sounds, List.length_map]
    rfl
  refine ⟨e, _, he, habout, ?_, ?_, hrises⟩
  · rw [← hsame, ← hlength]
    exact e.presenter.tick_audio n _ _
  · intro hids
    rw [← hlength] at hids
    obtain ⟨live, -, hlive, -⟩ := harmed.gate
    have hk : k < e.presenter.sounds.length := (List.getElem?_eq_some_iff.1 hlive).1
    refine ⟨?_, e.presenter.has_voicesBefore _ _ k (by omega)⟩
    rw [e.presenter.cuesOf_sound _ _ hlive, ← hsame]
    exact (e.presenter.tick_sound hids n _ _ k live hlive).2

/-- a click -/
def click (entity : EntityId) : Request := .updateFlags ⟨1⟩ entity (Flags.run · [.setOneShot "clicked"])

/-- the bell of a door is clicked and rings, and is clicked again after a tick without a click -/
def ringing : List Request :=
  [.activate ⟨1⟩ ⟨7⟩ doorbell 0, click ⟨7⟩, .tick ⟨1⟩ 1 still, .soundFinished ⟨1⟩ ⟨7⟩ ⟨0⟩, .tick ⟨1⟩ 2 still, click ⟨7⟩]

/-- it rings again -/
theorem starts_on_first_click_doorbell :
    let deeds : List Deed :=
      [.install doorbell, .host (.setOneShot "clicked"), .tick, .tick, .host (.setOneShot "clicked")]
    ∃ l ∈ lives ⟨1⟩ ringing, ∃ since, l.Deeds deeds ∧ l.Presents doorbell since ∧ (∀ c ∈ since, c.keepsStage = true) ∧
      Clicked "clicked" deeds ∧ ¬AtLastTick (Clicked "clicked") deeds ∧
      ∃ e out, ((new {}).run ringing).state.get? ⟨1⟩ l.entity = some e ∧ e.presenter.playing = [] ∧
        (((new {}).run ringing).state.serve (.tick ⟨1⟩ 3 still)).output.about l.entity = .effects out ∧
        (out.audio.filter (·.sound = .ofIndex 0)).filter Cue.isStart = [.start ⟨7⟩ ⟨0⟩ "ring" false] := by
  intro deeds
  let since : List Concern := [.flags (Flags.run · [.setOneShot "clicked"]), .tick 1 none {} {}, .soundFinished ⟨0⟩,
    .tick 2 none {} {}, .flags (Flags.run · [.setOneShot "clicked"])]
  have hl : ⟨⟨7⟩, doorbell, 0, since⟩ ∈ lives ⟨1⟩ ringing := List.mem_singleton_self _
  have hdid : Did since deeds.tail :=
    .cons (.flags [.setOneShot "clicked"]) (.cons (.tick ..) (.cons (.soundFinished _)
      (.cons (.tick ..) (.cons (.flags [.setOneShot "clicked"]) .nil))))
  have hd : Life.Presents ⟨⟨7⟩, doorbell, 0, since⟩ doorbell since := ⟨.inl ⟨rfl, rfl⟩, by simp [since]⟩
  have hvisible : World.scope {} 0 "clicked" = none := by decide +kernel
  have hshows : ∀ c ∈ since, c.Shows doorbell.sounds[0] "clicked" := by
    simp [since, Concern.Shows, hvisible, Sound.heardBy, Observer.hears, doorbell]
  have hclicked : Clicked "clicked" deeds := (Flags.isPending_run _ _).1 (by decide)
  have hquiet : ¬AtLastTick (Clicked "clicked") deeds := by
    have hlast : deeds = deeds.take 3 ++ [.tick] ++ [Flags.Change.setOneShot "clicked"].map .host := rfl
    rw [hlast, atLastTick_host, atLastTick_tick, Clicked, ← Flags.isPending_run]
    decide
  let gate : Animation Float := { Animation.plain .visibility "clicked" with clampMin := 1, clampMax := 1 }
  obtain ⟨hrange, hstarts⟩ := starts_on_first_click gate
  obtain ⟨e, out, he, hout, -, hshare, hstart, -⟩ := hstarts {} ringing ⟨1⟩ _ hl deeds doorbell since ⟨_, hdid, rfl⟩ hd 0 _ rfl
    rfl rfl rfl (hrange ⟨rfl, by decide, by decide⟩ rfl rfl rfl rfl) (by decide) hshows 3 still ⟨rfl, rfl, hvisible⟩
  have hplaying : e.presenter.playing = [] := by
    have hfound : (((new {}).run ringing).state.get? ⟨1⟩ ⟨7⟩).map (·.presenter.playing) = some [] := by decide +kernel
    rw [he] at hfound
    simpa using hfound
  obtain ⟨hfilter, hplays⟩ := hshare (by decide)
  refine ⟨_, hl, since, ⟨_, hdid, rfl⟩, hd, by decide, hclicked, hquiet, e, out, he, hplaying, hout, ?_⟩
  rw [hfilter]
  refine hstart ⟨⟨hclicked, hquiet⟩, ?_⟩
  rw [hplays, hplaying]
  rfl

/-- **The second click in a row is lost.** A bell that is clicked before two ticks in a row, and whose first ring is reported
finished in between, rings in the first of them only. And from 1 to 1 is a switch only without axis and offset: with an offset,
a click rings nothing, and with an axis, the bell rings without a click. -/
theorem bell_misses_second_click :
    let gate : Animation Float := { Animation.plain .visibility "clicked" with clampMin := 1, clampMax := 1 }
    let bell (a : Animation Float) : Presentation := ⟨[], [⟨"ring", false, false, false, false, [a], [], []⟩], [], [], []⟩
    let twice : List Request := [click ⟨7⟩, .tick ⟨1⟩ 1 still, .soundFinished ⟨1⟩ ⟨7⟩ ⟨0⟩, click ⟨7⟩, .tick ⟨1⟩ 2 still]
    let answers (d : Presentation) (requests : List Request) := ((new {}).run (.activate ⟨1⟩ ⟨7⟩ d 0 :: requests)).output
    let rings : Response := .effects ⟨[.start ⟨7⟩ ⟨0⟩ "ring" false, .update ⟨7⟩ ⟨0⟩ 1 1], []⟩
    (bell gate).sanitized = bell gate ∧
      answers (bell gate) twice = [.done, .done, rings, .flag true, .done, .effects {}] ∧
      answers (bell { gate with offset := 1 }) twice = [.done, .done, .effects {}, .flag false, .done, .effects {}] ∧
      answers (bell { gate with axis := some ⟨1, 0, 0⟩ })
        [.updateFlags ⟨1⟩ ⟨7⟩ (Flags.run · [.declare "clicked"]), .tick ⟨1⟩ 1 still] = [.done, .done, rings] := by
  decide +kernel

end Registry

end Stagecraft
