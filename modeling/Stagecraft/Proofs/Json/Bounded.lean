/-
What a text can spell. The numbers of a value that was read are bounded: a decimal is a finite double, and a whole number is one of
64 bits, so that it is finite as a double too.

- `isFinite_decimal`, `bounded_value`: numerals, from the digits that a word takes to the power of ten that scales them.
- `bounded_scan?`: tokens, one character after the other.
- `bounded_ofText?`: values, one token after the other; the machine holds bounded values only.
-/
import Mathlib.Tactic
import Stagecraft.Json.Reader
import Stagecraft.Proofs.Number.Finite

namespace Stagecraft.Json

/-- decimals are finite, whole numbers have 64 bits -/
inductive Bounded : Json → Prop
  | null : Bounded .null
  | bool (b : Bool) : Bounded (.bool b)
  | whole (n : Int) (hlow : -2 ^ 63 ≤ n) (hhigh : n < 2 ^ 64) : Bounded (.whole n)
  | decimal (x : Float) (hx : x.isFinite = true) : Bounded (.decimal x)
  | string (s : String) : Bounded (.string s)
  | array (items : List Json) (hitems : ∀ v ∈ items, Bounded v) : Bounded (.array items)
  | object (members : List (String × Json)) (hmembers : ∀ m ∈ members, Bounded m.2) : Bounded (.object members)
  | unreadable : Bounded .unreadable

/-- steps that may fail keep what each of them keeps -/
theorem foldlM_preserves {σ α : Type} {step : σ → α → Option σ} {P : σ → Prop} {Q : α → Prop}
    (hstep : ∀ {s a s'}, P s → Q a → step s a = some s' → P s') {as : List α} {s s' : σ} (hs : P s) (has : ∀ a ∈ as, Q a)
    (h : as.foldlM step s = some s') : P s' := by
  induction as generalizing s with
  | nil =>
    cases h
    exact hs
  | cons a as ih =>
    rw [List.foldlM_cons] at h
    obtain ⟨next, hnext, h⟩ := Option.bind_eq_some_iff.1 h
    exact ih (hstep hs (has a (by simp)) hnext) (fun b hb => has b (by simp [hb])) h

/-! ## Numerals -/

namespace Numeral

theorem fill_lt {n : Nat} {ds : List Nat} (hn : n < Digits.wordEnd) : (fill n ds).1 < Digits.wordEnd := by
  induction ds generalizing n with
  | nil => exact hn
  | cons d ds ih =>
    unfold fill
    split
    · exact ih ‹_›
    · exact hn

/-- a double holds the powers of ten up to the 308th: the first ones exactly, the others rounded -/
theorem isLarge_powerOfTen {n : Nat} (hpos : 0 < n) (hn : n ≤ 308) : Double.isLarge (powerOfTen n) = true := by
  by_cases hexact : n ≤ 22
  · have hall : ∀ k < 22, Double.isLarge (powerOfTen (k + 1)) = true := by decide +kernel
    obtain ⟨k, rfl⟩ := Nat.exists_eq_add_one.2 hpos
    exact hall k (Nat.lt_of_succ_le hexact)
  rcases Nat.lt_or_eq_of_le hn with hn | rfl
  · have hvalue : powerOfTen n = ⟨Float.Model.ofScientific 1 n⟩ := dif_neg fun h => hexact h.2
    have hlarge : 3 ≤ (10 ^ n).log2 := (Nat.le_log2 (by positivity)).2 <|
      calc 2 ^ 3 ≤ 10 ^ 1 := by decide
        _ ≤ 10 ^ n := Nat.pow_le_pow_right (by decide) hpos
    have hbelow : (10 ^ n).log2 < 1023 := (Nat.log2_lt (by positivity)).2 <|
      calc 10 ^ n ≤ 10 ^ 307 := Nat.pow_le_pow_right (by decide) (Nat.le_of_lt_succ hn)
        _ < 2 ^ 1023 := by decide +kernel
    rw [hvalue, Float.Model.ofScientific, Double.ofScientific_eq (by decide) (by omega), Nat.one_mul]
    have hlog := Double.log2_mul_two_pow (n := 10 ^ n) (by positivity) 53
    exact Double.isLarge_pack _ _ (by omega) (by omega) (by omega)
  · decide +kernel

theorem isFinite_powerOfTen {n : Nat} (hn : n ≤ 308) : (powerOfTen n).isFinite = true := by
  rcases Nat.eq_zero_or_pos n with rfl | hpos
  · decide +kernel
  · exact Double.isFinite_of_isLarge (isLarge_powerOfTen hpos hn)

theorem isFinite_scale {x y : Float} {e : Int} (hx : x.isFinite = true) (h : scale x e = some y) : y.isFinite = true := by
  induction x, e using scale.induct with
  | case1 x e he hsign product hinf =>
    rw [scale, if_pos he, if_pos hsign, if_pos hinf] at h
    cases h
  | case2 x e he hsign product hinf =>
    rw [scale, if_pos he, if_pos hsign, if_neg hinf] at h
    cases h
    exact Double.isFinite_mul hx (isFinite_powerOfTen he) (Bool.eq_false_iff.2 hinf)
  | case3 x e he hsign =>
    rw [scale, if_pos he, if_neg hsign] at h
    cases h
    exact Double.isFinite_div hx (isLarge_powerOfTen (by omega) he)
  | case4 x e he hzero =>
    rw [scale, if_neg he, if_pos hzero] at h
    cases h
    exact hx
  | case5 x e he hzero hsign =>
    rw [scale, if_neg he, if_neg hzero, if_pos hsign] at h
    cases h
  | case6 x e he hzero hsign ih =>
    -- far below the doubles, the number is brought nearer in steps of 308 places
    rw [scale, if_neg he, if_neg hzero, if_neg hsign] at h
    exact ih (Double.isFinite_div hx (isLarge_powerOfTen (by decide) le_rfl)) h

theorem isFinite_decimal {n : Numeral} {x : Float} (h : n.decimal = some x) : x.isFinite = true := by
  have hsignificand : (fill (fill 0 n.whole).1 (n.fraction.getD [])).1 < 2 ^ 64 := fill_lt (fill_lt (by decide))
  have hx : ∃ e, let magnitude := scale (Float.ofNat (fill (fill 0 n.whole).1 (n.fraction.getD [])).1) e
      (if n.negative then magnitude.map Float.neg else magnitude) = some x := ⟨_, h⟩
  obtain ⟨e, hx⟩ := hx
  dsimp only at hx
  split at hx
  · obtain ⟨y, hy, rfl⟩ := Option.map_eq_some_iff.1 hx
    exact Double.isFinite_neg (isFinite_scale (Double.isFinite_ofNat hsignificand) hy)
  · exact isFinite_scale (Double.isFinite_ofNat hsignificand) hx

theorem whole?_bounds {n : Numeral} {m : Int} (h : n.whole? = some m) : -2 ^ 63 ≤ m ∧ m < 2 ^ 64 := by
  unfold whole? Digits.wordEnd at h
  simp only [Nat.pow_eq] at h
  split_ifs at h
  all_goals
    cases h
    simp only [Int.ofNat_eq_natCast]
    omega

theorem bounded_value (n : Numeral) : n.value.Bounded := by
  unfold value
  split
  next m hm => exact .whole m (whole?_bounds hm).1 (whole?_bounds hm).2
  next x _ hx => exact .decimal x (isFinite_decimal hx)
  next => exact .unreadable

end Numeral

/-! ## Tokens -/

namespace Token

/-- a token whose value is bounded if it has one -/
def IsBounded : Token → Prop
  | .scalar v => v.Bounded
  | .mark _ | .text _ => True

variable {c : Char} {mode mode' : Mode} {ts : List Token}

theorem bounded_ofWord? {cs : List Char} {t : Token} (h : ofWord? cs = some t) : t.IsBounded := by
  unfold ofWord? at h
  split at h
  · cases h
    exact .bool true
  · cases h
    exact .bool false
  · cases h
    exact .null
  · cases h

theorem bounded_ofNumeral? {cs : List Char} {t : Token} (h : ofNumeral? cs = some t) : t.IsBounded := by
  obtain ⟨n, -, rfl⟩ := Option.map_eq_some_iff.1 h
  exact n.bounded_value

/-- a character that begins something is at most a mark -/
theorem bounded_start? (h : start? c = some (mode, ts)) : ∀ t ∈ ts, t.IsBounded := by
  unfold start? at h
  split_ifs at h
  all_goals
    cases h
    simp [IsBounded]

/-- what a character begins, together with a token that it finishes -/
theorem bounded_finishing {finished : Option Token} (hfinished : ∀ t, finished = some t → t.IsBounded)
    (h : (do
      let t ← finished
      let (mode, ts) ← start? c
      return (mode, ts ++ [t])) = some (mode, ts)) : ∀ t ∈ ts, t.IsBounded := by
  obtain ⟨t, ht, h⟩ := Option.bind_eq_some_iff.1 h
  obtain ⟨⟨mode', begun⟩, hbegun, h⟩ := Option.bind_eq_some_iff.1 h
  cases h
  intro s hs
  rcases List.mem_append.1 hs with hs | hs
  · exact bounded_start? hbegun s hs
  · rw [List.mem_singleton.1 hs]
    exact hfinished t ht

theorem bounded_step? (h : step? mode c = some (mode', ts)) : ∀ t ∈ ts, t.IsBounded := by
  cases mode with
  | between => exact bounded_start? h
  | word cs =>
    simp only [step?] at h
    split at h
    · cases h
      simp
    · exact bounded_finishing (fun _ => bounded_ofWord?) h
  | numeral cs =>
    simp only [step?] at h
    split at h
    · cases h
      simp
    · exact bounded_finishing (fun _ => bounded_ofNumeral?) h
  | text p =>
    simp only [step?] at h
    split_ifs at h
    all_goals
      cases h
      simp [IsBounded]
  | escape p =>
    simp only [step?] at h
    split at h
    · cases h
      simp
    · obtain ⟨_, -, h⟩ := Option.map_eq_some_iff.1 h
      cases h
      simp
  | unit p left value =>
    obtain ⟨d, -, h⟩ := Option.bind_eq_some_iff.1 h
    cases left <;>
    · cases h
      simp

theorem bounded_finish? (h : finish? mode = some ts) : ∀ t ∈ ts, t.IsBounded := by
  cases mode with
  | between =>
    cases h
    simp
  | word cs =>
    obtain ⟨t, ht, rfl⟩ := Option.map_eq_some_iff.1 h
    simpa using bounded_ofWord? ht
  | numeral cs =>
    obtain ⟨t, ht, rfl⟩ := Option.map_eq_some_iff.1 h
    simpa using bounded_ofNumeral? ht
  | text => cases h
  | escape => cases h
  | unit => cases h

theorem bounded_scan? {text : String} (h : scan? text = some ts) : ∀ t ∈ ts, t.IsBounded := by
  obtain ⟨⟨mode, reversed⟩, hwalk, h⟩ := Option.bind_eq_some_iff.1 h
  obtain ⟨last, hlast, h⟩ := Option.bind_eq_some_iff.1 h
  cases h
  have hreversed : ∀ t ∈ reversed, t.IsBounded := by
    refine foldlM_preserves (P := fun s => ∀ t ∈ s.2, t.IsBounded) (Q := fun _ => True) ?_ (by simp) (by simp) hwalk
    rintro ⟨mode, done⟩ c _ hdone - h
    obtain ⟨⟨mode', ts⟩, hstep, rfl⟩ := Option.map_eq_some_iff.1 h
    intro t ht
    rcases List.mem_append.1 ht with ht | ht
    · exact bounded_step? hstep t ht
    · exact hdone t ht
  intro t ht
  rcases List.mem_append.1 (List.mem_reverse.1 ht) with ht | ht
  · exact bounded_finish? hlast t ht
  · exact hreversed t ht

end Token

/-! ## Values -/

namespace Reader

/-- all that an unclosed array or object holds is bounded -/
def Frame.IsBounded : Frame → Prop
  | .array items => ∀ v ∈ items, v.Bounded
  | .object members _ _ => ∀ m ∈ members, m.2.Bounded

namespace State

/-- the machine holds bounded values only -/
structure IsBounded (s : State) : Prop where
  stack : ∀ f ∈ s.stack, f.IsBounded
  result : ∀ v, s.expect = .nothing v → v.Bounded

variable {stack : List Frame} {s s' : State}

theorem bounded_put {v : Json} (hstack : ∀ f ∈ stack, f.IsBounded) (hv : v.Bounded) : (put stack v).IsBounded := by
  unfold put
  split
  · refine ⟨by simp, fun w hw => ?_⟩
    cases hw
    exact hv
  · refine ⟨?_, by simp⟩
    simp only [List.forall_mem_cons, Frame.IsBounded] at hstack ⊢
    exact ⟨⟨hv, hstack.1⟩, hstack.2⟩
  · exact ⟨hstack, by simp⟩
  · refine ⟨?_, by simp⟩
    simp only [List.forall_mem_cons, Frame.IsBounded] at hstack ⊢
    exact ⟨⟨hv, hstack.1⟩, hstack.2⟩

theorem bounded_putKey {key : Option String} (hstack : ∀ f ∈ stack, f.IsBounded) (h : putKey stack key = some s) :
    s.IsBounded := by
  unfold putKey at h
  split at h
  · cases h
    refine ⟨?_, by simp⟩
    simpa [Frame.IsBounded] using hstack
  · cases h

theorem bounded_close {c : Char} (hstack : ∀ f ∈ stack, f.IsBounded) (h : close stack c = some s) : s.IsBounded := by
  unfold close at h
  split at h
  · cases h
    rw [List.forall_mem_cons] at hstack
    exact bounded_put hstack.2 (.array _ fun v hv => hstack.1 v (List.mem_reverse.1 hv))
  · cases h
    rw [List.forall_mem_cons] at hstack
    refine bounded_put hstack.2 ?_
    split
    · exact .object _ fun m hm => hstack.1 m (List.mem_reverse.1 hm)
    · exact .unreadable
  · cases h

theorem bounded_open? {t : Token} (hstack : ∀ f ∈ stack, f.IsBounded) (ht : t.IsBounded) (h : open? stack t = some s) :
    s.IsBounded := by
  unfold open? at h
  split at h
  · cases h
    exact bounded_put hstack ht
  next key =>
    cases h
    refine bounded_put hstack ?_
    cases key with
    | none => exact .unreadable
    | some key => exact .string key
  · cases h
    exact ⟨by simpa [Frame.IsBounded] using hstack, by simp⟩
  · cases h
    exact ⟨by simpa [Frame.IsBounded] using hstack, by simp⟩
  · cases h

theorem bounded_step? {t : Token} (hs : s.IsBounded) (ht : t.IsBounded) (h : s.step? t = some s') : s'.IsBounded := by
  unfold step? at h
  -- in the order of the machine: a value, an item or the end, a key or the end, a key, a colon, a comma, the end, nothing else
  split at h
  · exact bounded_open? hs.stack ht h
  · exact bounded_close hs.stack h
  · exact bounded_open? hs.stack ht h
  · exact bounded_close hs.stack h
  · exact bounded_putKey hs.stack h
  · exact bounded_putKey hs.stack h
  · cases h
    exact ⟨hs.stack, by simp⟩
  · split at h
    · cases h
      exact ⟨hs.stack, by simp⟩
    · cases h
      exact ⟨hs.stack, by simp⟩
    · cases h
  · exact bounded_close hs.stack h
  · cases h

end State

end Reader

/-- the value of a text is bounded -/
theorem bounded_ofText? {text : String} {v : Json} (h : ofText? text = some v) : v.Bounded := by
  obtain ⟨ts, hscan, h⟩ := Option.bind_eq_some_iff.1 h
  obtain ⟨last, hrun, h⟩ := Option.bind_eq_some_iff.1 h
  have hlast : last.IsBounded :=
    foldlM_preserves Reader.State.bounded_step? ⟨by simp, by simp⟩ (Token.bounded_scan? hscan) hrun
  split at h
  next w hw =>
    cases h
    exact hlast.result v hw
  · cases h

end Stagecraft.Json
