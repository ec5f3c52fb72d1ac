/-
Names that are known for good. Whatever else becomes of a flag, it stays declared, so it reads 1 or 0 and never nothing. And a world
has a value for a name at any time or at none. So a name that has a value for an entity, by the world or by the flags, has one in
every later tick and frame of the entity, through reloads as well, until the entity is let go.

- `isSome_layered`, `isSome_scope`: which names have a value.
- `lives_on`: an entity that is not let go lives on.
- `known_for_good`: flags after any changes, and the entities of any registry.
-/
import Stagecraft.Proofs.Registry.Deed
import Stagecraft.Proofs.Registry.Isolation
import Stagecraft.Proofs.Variable.OneShot

namespace Stagecraft

/-! ## Layers -/

/-- a world has a value for a name at any time or at none -/
theorem World.isSome_scope (w w' : World) (q q' : Float32) (name : String) :
    (w.scope q name).isSome = (w'.scope q' name).isSome := by
  unfold scope
  cases builtins.lookup name with
  | some value => rfl
  | none =>
    simp only [cycle?]
    split_ifs
    · rw [Option.isSome_map, Option.isSome_map]
    · rfl

/-- a name has a value if one of the layers has one for it -/
theorem Scope.isSome_layered (own : Option Scope) (around : World) (flags : Flags) (q : Float32) (name : String) :
    (layered own around flags q name).isSome =
      ((own.bind fun s => s q name).isSome || (around.scope q name).isSome || (flags.value? name).isSome) := by
  unfold layered
  cases own.bind fun s => s q name <;> cases around.scope q name <;> simp

namespace Flags

theorem isSome_value? {f : Flags} {name : String} (h : f.Sound name) : (f.value? name).isSome = f.isDeclared name := by
  rw [value?_eq h]
  cases f.isDeclared name <;> rfl

/-- a name that has a value for an entity has one after more changes of its flags, whatever the entity itself says by then -/
theorem isSome_layered_run (changes more : List Change) {name : String} {around around' : World} {q q' : Float32}
    {own : Option Scope} (h : (Scope.layered none around (({} : Flags).run changes) q name).isSome = true) :
    (Scope.layered own around' ((({} : Flags).run changes).run more) q' name).isSome = true := by
  have hsound := sound_run changes name
  have hlater := sound_run (changes ++ more) name
  rw [run_append] at hlater
  simp only [Scope.isSome_layered, Option.bind_none, Option.isSome_none, Bool.false_or, Bool.or_eq_true,
    isSome_value? hsound] at h
  simp only [Scope.isSome_layered, Bool.or_eq_true, isSome_value? hlater, around'.isSome_scope around q' q]
  rcases h with hworld | hdeclared
  · exact .inl (.inr hworld)
  · exact .inr (isDeclared_run _ name more hdeclared)

end Flags

/-! ## Entities -/

/-- an entity that later requests do not let go lives on, and what they mean for it has concerned it by then -/
theorem lives_on {world : WorldId} {before : List Request} {l : Life} (hl : l ∈ lives world before) (later : List Request)
    (hstays : ∀ q ∈ later, q.ends world l.entity = false) :
    { l with concerns := l.concerns ++ later.filterMap (·.concern? world l.entity) } ∈ lives world (before ++ later) := by
  induction later using List.reverseRecOn with
  | nil => simpa using hl
  | append_singleton later q ih =>
    have hbefore := ih fun q' hq' => hstays q' (List.mem_append_left _ hq')
    have hq : q.ends world l.entity = false := hstays q (by simp)
    rw [← List.append_assoc, lives_snoc, Life.next]
    refine List.mem_append_left _ (List.mem_map.2 ⟨_, List.mem_filter.2 ⟨hbefore, by simp [hq]⟩, ?_⟩)
    cases hc : q.concern? world l.entity <;> simp [Life.note, hc]

namespace Registry

/-- whoever lives in a world is found there, with the flags that were made of what was done to them -/
theorem exists_entry (settings : Settings) {requests : List Request} {world : WorldId} {l : Life} {deeds : List Deed}
    (hl : l ∈ lives world requests) (hdeeds : l.Deeds deeds) :
    ∃ e, ((new settings).run requests).state.get? world l.entity = some e ∧
      e.flags = ({} : Flags).run (deeds.map Deed.change) := by
  have hsolo : l.solo settings ∈ ((new settings).run requests).state.solos world := by
    rw [solos_run]
    exact List.mem_map_of_mem hl
  obtain ⟨e, he, -, hsame⟩ := exists_get? (distinct_run settings requests world) hsolo
  rw [l.entity_solo settings] at he
  exact ⟨e, he, (congrArg Solo.flags hsame).trans (l.flags_solo hdeeds settings)⟩

/-- **Known for good.** After any changes, flags that are on, pending or constants are declared, no further change makes a declared
name unknown, and the declared names are those that have a value, which is 1 if the flag is on and 0 if it is off. So take an
entity of any registry, and any later requests that do not let it go: a name that had a value for it without what the host said of
the entity has a value for it now, in the tick or the frame that comes next, whatever the host says in it. -/
theorem known_for_good :
    (∀ changes more : List Flags.Change,
      let f := ({} : Flags).run changes
      f.on ⊆ f.declared ∧ f.oneShot ⊆ f.declared ∧ f.constants ⊆ f.declared ∧ f.declared ⊆ (f.run more).declared ∧
        ∀ name, f.value? name =
          if f.isDeclared name then some (if f.isSet name then Float.ofNat 1 else Float.ofNat 0) else none) ∧
    ∀ (settings : Settings) (before later : List Request) (world : WorldId), ∀ l ∈ lives world before, ∀ deeds more,
      l.Deeds deeds → Did (later.filterMap (·.concern? world l.entity)) more →
      (∀ q ∈ later, q.ends world l.entity = false) →
        ∃ e e', ((new settings).run before).state.get? world l.entity = some e ∧
          ((new settings).run (before ++ later)).state.get? world l.entity = some e' ∧
          ∀ name around q, (Scope.layered none around e.flags q name).isSome = true →
            ∀ (host : Host) (q' : Float32), (host.scope l.entity e'.flags q' name).isSome = true := by
  refine ⟨?_, ?_⟩
  · intro changes more f
    have hmem : ∀ {names : List String} {name}, name ∈ names ↔ names.contains name = true := by simp
    refine ⟨?_, ?_, ?_, ?_, fun name => Flags.value?_eq (Flags.sound_run changes name)⟩
    · exact fun name hname => hmem.2 ((Flags.sound_run changes name).isSet (hmem.1 hname))
    · exact fun name hname => hmem.2 ((Flags.sound_run changes name).isPending (hmem.1 hname))
    · exact fun name hname => hmem.2 ((Flags.sound_run changes name).isConstant (hmem.1 hname))
    · exact fun name hname => hmem.2 (f.isDeclared_run name more (hmem.1 hname))
  · rintro settings before later world l hl deeds more ⟨first, hfirst, rfl⟩ hmore hstays
    obtain ⟨e, he, hflags⟩ := exists_entry settings hl ⟨first, hfirst, rfl⟩
    obtain ⟨e', he', hflags'⟩ := exists_entry settings (lives_on hl later hstays) ⟨first ++ more, hfirst.append hmore, rfl⟩
    refine ⟨e, e', he, he', ?_⟩
    intro name around q hknown host q'
    rw [hflags] at hknown
    rw [hflags', ← List.cons_append, List.map_append, Flags.run_append]
    exact Flags.isSome_layered_run _ _ hknown

/-- the siren of a tram, a constant at first, is turned off by its driver and gone from the next definition, and has a value
still -/
theorem known_for_good_siren :
    let tram : Presentation := ⟨[], [], [], [], ["siren"]⟩
    let before : List Request := [.activate ⟨1⟩ ⟨7⟩ tram 0, .activate ⟨1⟩ ⟨8⟩ tram 0]
    let later : List Request := [.tick ⟨1⟩ 1 still,
      .updateFlags ⟨1⟩ ⟨7⟩ (Flags.run · [.toggle "siren", .setOneShot "bell"]),
      .reload ⟨1⟩ ⟨7⟩ { tram with constants := [] } 2, .remove ⟨1⟩ ⟨8⟩, .frame ⟨1⟩ 0.5 still]
    let l : Life := ⟨⟨7⟩, tram, 0, []⟩
    l ∈ lives ⟨1⟩ before ∧ l.Deeds [.install tram] ∧ (∀ q ∈ later, q.ends ⟨1⟩ ⟨7⟩ = false) ∧
      ∃ e e', ((new {}).run before).state.get? ⟨1⟩ ⟨7⟩ = some e ∧ e.flags.isSet "siren" = true ∧
        ((new {}).run (before ++ later)).state.get? ⟨1⟩ ⟨7⟩ = some e' ∧ e'.flags.isSet "siren" = false ∧
        ∀ (host : Host) (q : Float32), (host.scope ⟨7⟩ e'.flags q "siren").isSome = true := by
  intro tram before later l
  have hlives : lives ⟨1⟩ before = [l, ⟨⟨8⟩, tram, 0, []⟩] := rfl
  have hl : l ∈ lives ⟨1⟩ before := hlives ▸ List.mem_cons_self
  have hdeeds : l.Deeds [.install tram] := ⟨[], .nil, rfl⟩
  have hdid : Did (later.filterMap (·.concern? ⟨1⟩ ⟨7⟩))
      [.tick, .host (.toggle "siren"), .host (.setOneShot "bell"), .install { tram with constants := [] }] :=
    .cons (.tick 1 none {} {}) (.cons (.flags [.toggle "siren", .setOneShot "bell"])
      (.cons (.reload { tram with constants := [] } 2) (.cons (.frame 0.5 none {}) .nil)))
  have hstays : ∀ q ∈ later, q.ends ⟨1⟩ ⟨7⟩ = false := by decide +kernel
  obtain ⟨e, e', he, he', hknown⟩ := known_for_good.2 {} before later ⟨1⟩ l hl _ _ hdeeds hdid hstays
  have hset : (((new {}).run before).state.get? ⟨1⟩ ⟨7⟩).map (·.flags.isSet "siren") = some true := by decide +kernel
  have hset' : (((new {}).run (before ++ later)).state.get? ⟨1⟩ ⟨7⟩).map (·.flags.isSet "siren") = some false := by
    decide +kernel
  rw [he, Option.map_some, Option.some.injEq] at hset
  rw [he', Option.map_some, Option.some.injEq] at hset'
  refine ⟨hl, hdeeds, hstays, e, e', he, hset, he', hset', hknown "siren" {} 0 ?_⟩
  rw [Scope.isSome_layered, Flags.value?, if_pos hset, Option.isSome_some, Bool.or_true]

end Registry

end Stagecraft
