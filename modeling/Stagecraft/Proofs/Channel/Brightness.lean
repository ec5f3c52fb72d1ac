/-
The brightness of a channel. It is a number from 0 to 1 whatever the channel, its clocks and the answers: the level may be an infinity
or a NaN, but what is below 0 is shown as 0, and what is not below 1 as 1. And a translation that replaces the level wipes out what
came before it: with an open gate, the brightness follows from the last one that does and from the translations behind it.

- `isBrightness_settle`: the bounds, for every gate and every sum.
- `Shade`, `Channel.shades`: the translations that count and their values, said without the sweep.
- `sum_run`: the sum of a sweep is that of its shades.
- `brightness_of_replaced`: the brightness from a shade that replaces on.
- `last_replacing_decides`: channels that agree from there on are equally bright.
-/
import Mathlib.Tactic
import Stagecraft.Proofs.Channel.Stack
import Stagecraft.Proofs.Number.Overflow

namespace Stagecraft

/-! ## From 0 to 1 -/

/-- a number from 0 to 1 -/
def IsBrightness (v : Float32) : Prop := v.isNaN = false ∧ 0 ≤ v ∧ v ≤ 1

instance : DecidablePred IsBrightness := fun _ => inferInstanceAs (Decidable (_ ∧ _ ∧ _))

namespace Single

/-- what is not negative is not rounded to anything negative -/
theorem not_neg_nearest {x : Float} (hx : ¬x < Float.ofNat 0) : ¬nearest x < 0 := by
  have hzero : (Float.ofNat 0).toModel.unpack = .zero .positive := rfl
  by_cases hpos : Float.ofNat 0 < x
  · obtain ⟨hbelow, habove⟩ := isLevel_nearest (.inr hpos)
    by_cases hunder : x < halfway
    · exact (hbelow hunder).2.1
    · exact (of_infinity (habove hunder)).2.1
  · -- left are the two zeros and NaN
    rw [lt_double_iff, hzero] at hx hpos
    rw [nearest]
    rcases hu : x.toModel.unpack with (_ | _) | _ | (_ | _) | ⟨_ | _, m, e, h⟩ <;> rw [hu] at hx hpos
    case infinity.negative => exact absurd rfl hx
    case infinity.positive => exact absurd rfl hpos
    case finite.negative => exact absurd rfl hx
    case finite.positive => exact absurd rfl hpos
    all_goals decide

end Single

namespace Channel

/-- what is not negative is capped to a brightness, and so is a NaN -/
theorem isBrightness_capped {v : Float32} (hv : ¬v < 0) : IsBrightness (capped v) := by
  by_cases hbelow : v < 1
  · have hzero : (0 : Float32).toModel.unpack = .zero .positive := rfl
    have hone : (1 : Float32).toModel.unpack = .finite .positive (2 ^ 23) (-23) (by decide) := rfl
    have hnan : v.isNaN = v.toModel.unpack.isNaN := rfl
    rw [capped, if_pos hbelow]
    rw [Single.lt_iff, hzero] at hv
    rw [Single.lt_iff, hone] at hbelow
    rw [IsBrightness, Single.le_iff, Single.le_iff, hzero, hone, hnan]
    rcases hu : v.toModel.unpack with (_ | _) | _ | s | ⟨_ | _, m, e, h⟩ <;> rw [hu] at hv hbelow
    case zero => cases s <;> decide
    case finite.positive =>
      have hless := Single.lt_finite.1 hbelow
      exact ⟨rfl, rfl, Single.le_finite.2 (by omega)⟩
    case finite.negative => exact absurd rfl hv
    case infinity.negative => exact absurd rfl hv
    all_goals cases hbelow
  · rw [capped, if_neg hbelow]
    decide

/-- **Bounds.** Whatever the gate and the level, a brightness is a number from 0 to 1. -/
theorem isBrightness_settle (g : Gate) (sum : Option Float) : IsBrightness (settleBrightness g sum) := by
  cases sum with
  | none =>
    change IsBrightness (if g.isOpen && !g.inhibited then 1 else 0)
    split_ifs <;> decide
  | some level =>
    change IsBrightness (if !g.isOpen || decide (level < Float.ofNat 0) then 0 else capped (Single.nearest level))
    split_ifs with hdark
    · decide
    · rw [Bool.or_eq_true, not_or, decide_eq_true_iff] at hdark
      exact isBrightness_capped (Single.not_neg_nearest hdark.2)

theorem isBrightness (s : Sampling) (c : Channel) : IsBrightness (c.brightness s).result := isBrightness_settle _ _

end Channel

/-! ## Shades -/

/-- whether a translation replaces the level: its axis, if it names one, has neither an x nor a y -/
def Animation.replaces (a : Animation Float) : Bool := Scalar.isZero a.axisOrZero.x && Scalar.isZero a.axisOrZero.y

/-- a translation that counts for a brightness, and its value -/
structure Shade where
  animation : Animation Float
  value : Float
deriving DecidableEq, Repr

namespace Shade

/-- the level behind one more shade -/
def tint (level : Float) (q : Shade) : Float := Use.light (some level) q.animation q.value

/-- the sum behind one more shade -/
def add (sum : Option Float) (q : Shade) : Option Float := some (Use.light sum q.animation q.value)

/-- a shade that replaces takes nothing over from before -/
theorem add_of_replaces {q : Shade} (hq : q.animation.replaces = true) (sum : Option Float) : q.add sum = some q.value := by
  obtain ⟨hx, hy⟩ := (Bool.and_eq_true _ _).mp hq
  simp only [add, Use.light, hx, hy, Bool.not_true, Bool.false_eq_true, if_false]

theorem foldl_add (level : Float) (shades : List Shade) :
    shades.foldl add (some level) = some (shades.foldl tint level) :=
  List.foldl_hom some fun _ _ => rfl

end Shade

/-- the value of a translation and the translation -/
def Track.shade (s : Sampling) (t : Track) : Shade := ⟨t.animation, t.animation.apply (Float.ofNat 0) (t.unshaped s)⟩

/-- the translations of a channel that are reached while nothing inhibits it, in order, with their values -/
def Channel.shades (s : Sampling) (inhibited : Bool) : Channel → List Shade
  | [] => []
  | t :: rest =>
    let later := shades s (t.inhibits s inhibited) rest
    if t.animation.kind = .translation && !inhibited then t.shade s :: later else later

namespace Sweep

variable {s : Sampling} {t : Track}

/-- a track that is not read gives no shade -/
theorem shades_of_not_read (rest : Channel) {inhibited : Bool}
    (hr : reads Use.brightness inhibited t.animation.kind = false) :
    Channel.shades s inhibited (t :: rest) = rest.shades s inhibited := by
  have hnone : (t.animation.kind = .translation && !inhibited) = false := by
    cases hkind : t.animation.kind <;> simp_all [reads, Use.brightness]
  rw [Channel.shades, hnone, if_neg Bool.false_ne_true]
  rw [show t.inhibits s inhibited = inhibited from inhibits_of_not_read (p := ⟨none, inhibited, false⟩) s hr]

/-- a track that is read adds its shade, if it is a translation, and nothing otherwise -/
theorem foldl_shades_of_read (p : Progress (Option Float)) (index : ℕ) (rest : Channel)
    (hr : reads Use.brightness p.inhibited t.animation.kind = true) :
    let q := (next s Use.brightness p index t).1
    (Channel.shades s p.inhibited (t :: rest)).foldl Shade.add p.sum =
      (rest.shades s q.inhibited).foldl Shade.add q.sum := by
  intro q
  rw [Channel.shades, ← inhibited_next s index hr]
  by_cases hkind : t.animation.kind = .translation
  · have hfree : p.inhibited = false := by simpa [reads, Use.brightness, hkind] using hr
    have hsum : q.sum = (t.shade s).add p.sum := by
      simp only [q, next, after, hkind]
      simp only [sampled, stacking, hkind, Kind.isGate, Track.sample_value]
      rfl
    rw [if_pos (by simp [hkind, hfree]), List.foldl_cons, hsum]
  · have hsum : q.sum = p.sum := by
      simp only [q, next, after]
      cases hother : t.animation.kind <;> simp_all [reads, Use.brightness]
    rw [if_neg (by simp [hkind]), hsum]

/-- **The sum of a sweep.** With an open gate, it is made of the shades of the tracks, on top of what it was. -/
theorem sum_run (s : Sampling) (p : Progress (Option Float)) (index : ℕ) (ts : Channel)
    (hopen : (run s Use.brightness p index ts).gate.isOpen = true) :
    (run s Use.brightness p index ts).sum = (ts.shades s p.inhibited).foldl Shade.add p.sum := by
  induction ts generalizing p index with
  | nil => rfl
  | cons t rest ih =>
    cases hr : reads Use.brightness p.inhibited t.animation.kind with
    | false =>
      rw [run_skip s Use.brightness p index t rest hr] at hopen ⊢
      rw [shades_of_not_read rest hr]
      exact ih p (index + 1) hopen
    | true =>
      cases hn : (next s Use.brightness p index t).2 with
      | false =>
        rw [run_close s Use.brightness p index t rest hr hn] at hopen
        cases hopen
      | true =>
        rw [run_go s Use.brightness p index t rest hr hn] at hopen ⊢
        rw [foldl_shades_of_read p index rest hr]
        exact ih _ (index + 1) hopen

end Sweep

/-! ## Replacing -/

namespace Channel

/-- a level as it is shown: dark below 0, and fully bright unless it is below 1 -/
def shown (level : Float) : Float32 := if level < Float.ofNat 0 then 0 else capped (Single.nearest level)

/-- a brightness has the gate that the channel has -/
theorem isOpen_brightness (s : Sampling) (c : Channel) :
    (Sweep.run s Use.brightness { sum := none } 0 c).gate.isOpen = (c.gate s).result.isOpen := by
  rw [Bool.eq_iff_iff, Sweep.isOpen_run]
  exact (Sweep.isOpen_run s Use.gate { sum := () } 0 c).symm

/-- **From a shade on that replaces.** What came before it does not count. -/
theorem brightness_of_replaced {s : Sampling} {c : Channel} (hopen : (c.gate s).result.isOpen = true) {before after : List Shade}
    {q : Shade} (hsplit : c.shades s false = before ++ q :: after) (hq : q.animation.replaces = true) :
    (c.brightness s).result = shown (after.foldl Shade.tint q.value) := by
  rw [← isOpen_brightness] at hopen
  have hsum : (Sweep.run s Use.brightness { sum := none } 0 c).sum = some (after.foldl Shade.tint q.value) := by
    rw [Sweep.sum_run s _ 0 c hopen, hsplit, List.foldl_append, List.foldl_cons, Shade.add_of_replaces hq, Shade.foldl_add]
  simp only [brightness, evaluate, settleBrightness, hsum, hopen, Bool.not_true, Bool.false_or, decide_eq_true_eq, shown]

/-- the last shade of a channel that replaces, and the shades behind it -/
structure Decides (s : Sampling) (c : Channel) (q : Shade) (after : List Shade) : Prop where
  split : ∃ before, c.shades s false = before ++ q :: after
  replaces : q.animation.replaces = true
  last : ∀ r ∈ after, r.animation.replaces = false

/-- if a shade replaces, one is the last that does -/
theorem exists_decides {s : Sampling} {c : Channel} (h : ∃ q ∈ c.shades s false, q.animation.replaces = true) :
    ∃ q after, c.Decides s q after := by
  obtain ⟨r, hr, hreplaces⟩ := h
  have hfound : ((c.shades s false).reverse.find? (·.animation.replaces)).isSome = true :=
    List.find?_isSome.2 ⟨r, List.mem_reverse.2 hr, hreplaces⟩
  obtain ⟨q, hq⟩ := Option.isSome_iff_exists.1 hfound
  obtain ⟨hlast, behind, before, hsplit, hbehind⟩ := List.find?_eq_some_iff_append.1 hq
  refine ⟨q, behind.reverse, ⟨before.reverse, ?_⟩, hlast, ?_⟩
  · rw [← (c.shades s false).reverse_reverse, hsplit]
    simp
  · intro r hr
    simpa using hbehind r (List.mem_reverse.1 hr)

/-- **The last translation that replaces decides.** Read a channel whose gate is open, in a tick or a frame, and let a translation
with neither an x nor a y to its axis be reached while nothing inhibits the channel. Then there is a last such translation, and the
brightness is its value, changed by the translations behind it in turn and shown between 0 and 1. So any reading of any channel
whose gate is open, and that has the same translations with the same values from its last one on that replaces, is as bright:
whatever came before, and whatever was inhibited and freed on the way. -/
theorem last_replacing_decides (s : Sampling) (c : Channel) (hopen : (c.gate s).result.isOpen = true)
    (hsome : ∃ q ∈ c.shades s false, q.animation.replaces = true) :
    (∃ q after, c.Decides s q after) ∧
      ∀ q after, c.Decides s q after →
        (c.brightness s).result = shown (after.foldl Shade.tint q.value) ∧
          ∀ (s' : Sampling) (c' : Channel), (c'.gate s').result.isOpen = true → c'.Decides s' q after →
            (c'.brightness s').result = (c.brightness s).result := by
  refine ⟨exists_decides hsome, ?_⟩
  intro q after hdecides
  obtain ⟨before, hsplit⟩ := hdecides.split
  have hbright := brightness_of_replaced hopen hsplit hdecides.replaces
  refine ⟨hbright, ?_⟩
  intro s' c' hopen' hdecides'
  obtain ⟨before', hsplit'⟩ := hdecides'.split
  rw [brightness_of_replaced hopen' hsplit' hdecides'.replaces, hbright]

/-- a lamp as bright as its glow, dimmed -/
def lamp : List (Animation Float) :=
  [Animation.plain .translation "glow", { Animation.plain .translation "dim" with axis := some ⟨1, 0, 0⟩ }]

/-- the same lamp behind a blackout that a key ends, and behind light from the street -/
def streetLamp : List (Animation Float) :=
  let around : List (Animation Float) :=
    [{ Animation.plain .translation "street" with axis := some ⟨0, 1, 0⟩ },
      { Animation.plain .inhibitor "blackout" with clampMin := 1, clampMax := 1 }, Animation.plain .translation "flare",
      { Animation.plain .activator "key" with clampMin := 1, clampMax := 1 }]
  around ++ lamp

/-- at half a glow and half dimmed both show a quarter, the one in a tick and the other in a frame, in the light of a street that is
infinitely bright -/
theorem last_replacing_decides_lamps :
    let inside : Sampling := ⟨.tick, fun _ => some 0.5⟩
    let outside : Sampling := ⟨.frame, fun name => if name = "glow" ∨ name = "dim" then some 0.5 else
      if name = "street" then some (1 / 0) else some 1⟩
    let c := ofAnimations .linear lamp
    let c' := ofAnimations .smoothStep streetLamp
    let q : Shade := ⟨Animation.plain .translation "glow", 0.5⟩
    let dimmed : Shade := ⟨{ Animation.plain .translation "dim" with axis := some ⟨1, 0, 0⟩ }, 0.5⟩
    (c.gate inside).result.isOpen = true ∧ (c'.gate outside).result.isOpen = true ∧
      c.Decides inside q [dimmed] ∧ c'.Decides outside q [dimmed] ∧ (c'.shades outside false).length = 3 ∧
      (c.brightness inside).result = 0.25 ∧ (c'.brightness outside).result = 0.25 := by
  intro inside outside c c' q dimmed
  have hopen : (c.gate inside).result.isOpen = true := by decide +kernel
  have hopen' : (c'.gate outside).result.isOpen = true := by decide +kernel
  have hshades : c.shades inside false = [] ++ q :: [dimmed] := by decide +kernel
  have hdecides : c.Decides inside q [dimmed] := ⟨⟨[], hshades⟩, by decide +kernel, by decide +kernel⟩
  have hdecides' : c'.Decides outside q [dimmed] :=
    ⟨⟨[⟨{ Animation.plain .translation "street" with axis := some ⟨0, 1, 0⟩ }, 1 / 0⟩], by decide +kernel⟩,
      by decide +kernel, by decide +kernel⟩
  have hsome : ∃ q ∈ c.shades inside false, q.animation.replaces = true := ⟨q, hshades ▸ List.mem_cons_self, hdecides.replaces⟩
  obtain ⟨-, hlast⟩ := last_replacing_decides inside c hopen hsome
  obtain ⟨hbright, hagree⟩ := hlast q [dimmed] hdecides
  have hquarter : (c.brightness inside).result = 0.25 := hbright.trans (by decide +kernel)
  exact ⟨hopen, hopen', hdecides, hdecides', by decide +kernel, hquarter,
    (hagree outside c' hopen' hdecides').trans hquarter⟩

end Channel

end Stagecraft
