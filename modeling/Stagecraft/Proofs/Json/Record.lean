/-
Records from both sides. A record whose keys differ reads as the fields that were written, and scalars and lists read back as they
were written. In the other direction, what a reader makes of bounded values keeps what it makes of each of them: `Yields` passes
from scalars to lists and to fields with defaults.
-/
import Stagecraft.Json.Record
import Stagecraft.Proofs.Json.Bounded

namespace Stagecraft.Json

variable {β : Type}

/-! ## What was written -/

/-- the members of a record; a field that is none is left out -/
def written (names : List String) (fields : List (Option Json)) : List (String × Json) :=
  (names.zip fields).filterMap fun (name, field) => field.map (name, ·)

theorem written_cons (name : String) (names : List String) (field : Option Json) (fields : List (Option Json)) :
    written (name :: names) (field :: fields) = (field.map (name, ·)).toList ++ written names fields := by
  cases field <;> rfl

theorem mem_of_mem_written {names : List String} {fields : List (Option Json)} {m : String × Json}
    (h : m ∈ written names fields) : m.1 ∈ names := by
  obtain ⟨⟨name, field⟩, hmem, hfield⟩ := List.mem_filterMap.1 h
  obtain ⟨v, -, rfl⟩ := Option.map_eq_some_iff.1 hfield
  exact (List.of_mem_zip hmem).1

/-- a name of its own stands once or not at all, as its field is there or left out -/
theorem member?_written_self {name : String} {names : List String} (hname : name ∉ names) (field : Option Json)
    (fields : List (Option Json)) : member? (written (name :: names) (field :: fields)) name = some field := by
  have hrest : (written names fields).filter (·.1 = name) = [] := List.filter_eq_nil_iff.2 fun m hm heq =>
    hname (of_decide_eq_true heq ▸ mem_of_mem_written hm)
  rw [member?, written_cons, List.filter_append, hrest]
  cases field with
  | none => rfl
  | some v => simp

theorem member?_written_of_ne {name other : String} (hother : other ≠ name) (names : List String) (field : Option Json)
    (fields : List (Option Json)) :
    member? (written (name :: names) (field :: fields)) other = member? (written names fields) other := by
  have hskipped : (field.map (name, ·)).toList.filter (·.1 = other) = [] := by
    cases field with
    | none => rfl
    | some v => simp [Ne.symm hother]
  rw [member?, member?, written_cons, List.filter_append, hskipped, List.nil_append]

/-- a record reads as the fields that were written -/
theorem fields?_of_written {names : List String} {v : Json} {fields : List (Option Json)} (hnames : names.Nodup)
    (hlength : names.length = fields.length) (hv : v = .object (written names fields)) : fields? names v = some fields := by
  subst hv
  -- the names that are left look into all members, but find there what they find in the rest
  suffices ∀ members, (∀ name ∈ names, member? members name = member? (written names fields) name) →
      names.mapM (member? members) = some fields from this _ fun _ _ => rfl
  induction names generalizing fields with
  | nil =>
    intro _ _
    rw [List.eq_nil_of_length_eq_zero hlength.symm]
    rfl
  | cons name names ih =>
    intro members hmembers
    obtain ⟨field, fields, rfl⟩ := List.exists_cons_of_length_eq_add_one hlength.symm
    rw [List.nodup_cons] at hnames
    have hfirst : member? members name = some field :=
      (hmembers name (by simp)).trans (member?_written_self hnames.1 field fields)
    have hrest : names.mapM (member? members) = some fields := by
      refine ih hnames.2 (Nat.succ.inj hlength) members fun other hother => ?_
      rw [hmembers other (by simp [hother]), member?_written_of_ne (ne_of_mem_of_not_mem hother hnames.1)]
    rw [List.mapM_cons, hfirst, hrest]
    rfl

theorem list?_array {read : Json → Option β} {write : β → Json} {bs : List β}
    (h : ∀ b ∈ bs, read (write b) = some b) : list? read (.array (bs.map write)) = some bs := by
  change (bs.map write).mapM read = some bs
  induction bs with
  | nil => rfl
  | cons b bs ih =>
    rw [List.map_cons, List.mapM_cons, h b (by simp), ih fun b' hb' => h b' (by simp [hb'])]
    rfl

theorem float?_number {x : Float} (hx : x.isFinite = true) : (number x).float? = some x := by
  rw [number, if_pos hx]
  rfl

theorem int32?_whole (n : Int32) : (whole n.toInt).int32? = some n := by
  have hlow := n.le_toInt
  have hhigh := n.toInt_lt
  rw [int32?, within?, if_pos (by omega), Option.map_some, Int32.ofInt_toInt]

theorem uint32?_whole (n : UInt32) : (whole n.toNat).uint32? = some n := by
  have hhigh := n.toNat_lt
  rw [uint32?, within?, if_pos (by omega), Option.map_some, Int.toNat_natCast, UInt32.ofNat_toNat]

/-! ## What is read -/

/-- what a reader makes of bounded values has a property -/
def Yields (read : Json → Option β) (P : β → Prop) : Prop := ∀ ⦃v b⦄, v.Bounded → read v = some b → P b

/-- a field that holds a bounded value if it is there -/
def FieldBounded (field : Option Json) : Prop := ∀ v ∈ field, v.Bounded

/-- every value that was read was read off something -/
theorem exists_of_mapM {α : Type} {f : α → Option β} {as : List α} {bs : List β} (h : as.mapM f = some bs) :
    ∀ b ∈ bs, ∃ a ∈ as, f a = some b := by
  induction as generalizing bs with
  | nil =>
    cases h
    simp
  | cons a as ih =>
    rw [List.mapM_cons] at h
    obtain ⟨b, hb, h⟩ := Option.bind_eq_some_iff.1 h
    obtain ⟨bs, hbs, h⟩ := Option.bind_eq_some_iff.1 h
    cases h
    rw [List.forall_mem_cons]
    exact ⟨⟨a, by simp, hb⟩, fun c hc => (ih hbs c hc).imp fun _ hd => ⟨List.mem_cons_of_mem a hd.1, hd.2⟩⟩

theorem bounded_member? {members : List (String × Json)} (hmembers : ∀ m ∈ members, m.2.Bounded) {name : String}
    {field : Option Json} (h : member? members name = some field) : FieldBounded field := by
  unfold member? at h
  split at h
  · cases h
    simp [FieldBounded]
  next m hfilter =>
    cases h
    have hm : m ∈ members := List.mem_of_mem_filter (hfilter ▸ List.mem_singleton_self m)
    simpa [FieldBounded] using hmembers m hm
  · cases h

theorem bounded_fields? {names : List String} {v : Json} {fields : List (Option Json)} (hv : v.Bounded)
    (h : fields? names v = some fields) : ∀ field ∈ fields, FieldBounded field := by
  cases hv with
  | object members hmembers =>
    intro field hfield
    obtain ⟨name, -, hname⟩ := exists_of_mapM h field hfield
    exact bounded_member? hmembers hname
  | array items hitems =>
    rw [fields?] at h
    split at h
    · cases h
      intro field hfield
      obtain ⟨i, -, rfl⟩ := List.mem_map.1 hfield
      exact fun v hv => hitems v (List.mem_of_getElem? hv)
    · cases h
  | _ => cases h

theorem yields_float? : Yields float? (·.isFinite = true) := by
  intro v x hv h
  cases hv with
  | whole n hlow hhigh =>
    cases h
    exact Double.isFinite_ofInt (by omega) hhigh
  | decimal x hx =>
    cases h
    exact hx
  | _ => cases h

variable {read : Json → Option β} {P : β → Prop}

/-- a record, if it is made of its fields -/
theorem yields_record {names : List String} {make : List (Option Json) → Option β}
    (h : ∀ fields b, (∀ field ∈ fields, FieldBounded field) → make fields = some b → P b) :
    Yields (fun v => (fields? names v).bind make) P := by
  intro v b hv hb
  obtain ⟨fields, hfields, hmake⟩ := Option.bind_eq_some_iff.1 hb
  exact h fields b (bounded_fields? hv hfields) hmake

theorem Yields.list (hread : Yields read P) : Yields (list? read) (∀ b ∈ ·, P b) := by
  intro v bs hv h b hb
  cases hv with
  | array items hitems =>
    obtain ⟨item, hitem, hread'⟩ := exists_of_mapM h b hb
    exact hread (hitems item hitem) hread'
  | _ => cases h

theorem Yields.optional (hread : Yields read P) {default : β} (hdefault : P default) {field : Option Json}
    (hfield : FieldBounded field) {b : β} (h : Json.optional read default field = some b) : P b := by
  cases field with
  | none =>
    cases h
    exact hdefault
  | some v => exact hread (hfield v rfl) h

theorem Yields.nullable (hread : Yields read P) {field : Option Json} (hfield : FieldBounded field) {b : Option β}
    (h : Json.nullable read field = some b) : ∀ c ∈ b, P c := by
  unfold Json.nullable at h
  split at h
  · cases h
    simp
  · cases h
    simp
  · obtain ⟨c, hc, rfl⟩ := Option.map_eq_some_iff.1 h
    simpa using hread (hfield _ rfl) hc

end Stagecraft.Json
