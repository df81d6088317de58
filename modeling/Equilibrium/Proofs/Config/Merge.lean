import Equilibrium.Config.Named
import Equilibrium.Proofs.Config
import Equilibrium.Proofs.Search.Identity
import Mathlib.Tactic.FinCases

/-!
Merging.

A map of overrides gives names to values, or mentions a name without one. Settings, overrides and
maps are compared by what stands under each name: merging a map puts its values where it has one and
leaves the rest. Merging by name comes out field by field because the settings are determined by
what stands under their names, and then the laws of merging are laws of "the first value that there
is": two merges are one merge of the updated map, and maps that give no value to the same name can
change places.
-/

namespace Equilibrium

variable {α β : Type} {items : List (String × Option β)} {name : String}

/-! ### Values under names -/

def valueUnder (items : List (String × Option β)) (name : String) : Option β :=
  (items.lookup name).join

@[simp] theorem valueUnder_nil (name : String) : valueUnder ([] : List (String × Option β)) name =
    none := rfl

@[simp] theorem valueUnder_cons (item : String × Option β) (items : List (String × Option β))
    (name : String) :
    valueUnder (item :: items) name = if name = item.1 then item.2 else valueUnder items name := by
  obtain ⟨key, value⟩ := item
  by_cases h : name = key
  · subst h
    simp [valueUnder]
  · have hbeq : (name == key) = false := beq_false_of_ne h
    simp [valueUnder, List.lookup_cons, h, hbeq]

theorem valueUnder_eq_none (h : name ∉ items.map (·.1)) : valueUnder items name = none := by
  induction items with
  | nil => rfl
  | cons item items ih =>
      rw [List.map_cons, List.mem_cons, not_or] at h
      rw [valueUnder_cons, if_neg h.1, ih h.2]

theorem mem_of_valueUnder {value : β} (h : valueUnder items name = some value) :
    (name, some value) ∈ items := by
  induction items with
  | nil => cases h
  | cons item items ih =>
      rw [valueUnder_cons] at h
      split at h
      · next hname =>
          rw [hname, ← h]
          exact List.mem_cons_self
      · exact List.mem_cons_of_mem _ (ih h)

theorem valueUnder_of_mem {value : Option β} (nodup : (items.map (·.1)).Nodup)
    (h : (name, value) ∈ items) : valueUnder items name = value := by
  induction items with
  | nil => cases h
  | cons item items ih =>
      rw [List.map_cons, List.nodup_cons] at nodup
      rw [valueUnder_cons]
      obtain rfl | h := List.mem_cons.1 h
      · rw [if_pos rfl]
      · have hne : name ≠ item.1 := fun hname =>
          nodup.1 (hname ▸ List.mem_map.2 ⟨_, h, rfl⟩)
        rw [if_neg hne, ih nodup.2 h]

/-- Of two lists under the same names, the first value that there is. -/
theorem valueUnder_zipWith_or {items items' : List (String × Option β)}
    (h : items.map (·.1) = items'.map (·.1)) (name : String) :
    valueUnder (List.zipWith (fun p q => (p.1, p.2.or q.2)) items items') name =
      (valueUnder items name).or (valueUnder items' name) := by
  induction items generalizing items' with
  | nil =>
      cases items' with
      | nil => rfl
      | cons item' items' => cases h
  | cons item items ih =>
      cases items' with
      | nil => cases h
      | cons item' items' =>
          obtain ⟨hname, hrest⟩ := List.cons.inj h
          simp only [List.zipWith_cons_cons, valueUnder_cons, ih hrest, ← hname]
          split <;> rfl

theorem valueUnder_map_kinds {kinds : List (String × SettingKind)} (g : String → Option β)
    (name : String) :
    valueUnder (kinds.map fun p => (p.1, g p.1)) name =
      if name ∈ kinds.map (·.1) then g name else none := by
  induction kinds with
  | nil => rfl
  | cons p kinds ih =>
      rw [List.map_cons, valueUnder_cons, ih, List.map_cons]
      by_cases h : name = p.1
      · simp [h]
      · simp only [h, if_false, List.mem_cons, false_or]

/-! ### Settings and overrides by name -/

def SettingValue.kind : SettingValue α → SettingKind
  | .real _ => .real
  | .whole _ => .whole
  | .flag _ => .flag
  | .word _ => .word

def Settings.value? (s : Settings α) (name : String) : Option (SettingValue α) :=
  valueUnder s.named name

def Overrides.named (o : Overrides α) : List (String × Option (SettingValue α)) := [
  ("step", o.step.map .real), ("max_iterations", o.maxIterations.map .whole),
  ("inner_iterations", o.innerIterations.map .whole), ("tol", o.tol.map .real),
  ("inner_tol", o.innerTol.map .real), ("scale", o.scale.map .real),
  ("step_min", o.stepMin.map .real), ("max_step", o.stepMax.map .real),
  ("backoff", o.backoff.map .real), ("method", o.method.map .word),
  ("differentiation", o.derivative.map .word), ("verbose", o.verbose.map .flag),
  ("inner_verbose", o.innerVerbose.map .flag), ("ode_method", o.flowMethod.map .word),
  ("ode_rtol", o.flowRtol.map .real), ("ode_atol", o.flowAtol.map .real),
  ("horizon", o.horizon.map .real), ("ode_max_steps", o.flowSteps.map .whole)]

theorem Overrides.map_fst_named (o : Overrides α) :
    o.named.map (·.1) = settingKinds.map (·.1) := rfl

def Overrides.value? (o : Overrides α) (name : String) : Option (SettingValue α) :=
  valueUnder o.named name

theorem some_map_getD {γ δ : Type} (f : γ → δ) (x : Option γ) (y : γ) :
    some (f (x.getD y)) = (x.map f).or (some (f y)) := by
  cases x <;> rfl

theorem Settings.named_override (s : Settings α) (o : Overrides α) :
    (s.override o).named = List.zipWith (fun p q => (p.1, p.2.or q.2)) o.named s.named := by
  simp only [named, Overrides.named, override, List.zipWith_cons_cons, List.zipWith_nil_right,
    some_map_getD, Option.orElse_eq_orElse, Option.orElse_eq_or, Option.map_or]

theorem Overrides.named_andThen (a b : Overrides α) :
    (a.andThen b).named = List.zipWith (fun p q => (p.1, p.2.or q.2)) b.named a.named := by
  simp only [named, andThen, List.zipWith_cons_cons, List.zipWith_nil_right,
    Option.orElse_eq_orElse, Option.orElse_eq_or, Option.map_or]

theorem Settings.value?_override (s : Settings α) (o : Overrides α) (name : String) :
    (s.override o).value? name = (o.value? name).or (s.value? name) := by
  rw [value?, named_override]
  exact valueUnder_zipWith_or (o.map_fst_named.trans s.map_fst_named.symm) name

theorem Overrides.value?_andThen (a b : Overrides α) (name : String) :
    (a.andThen b).value? name = (b.value? name).or (a.value? name) := by
  rw [value?, named_andThen]
  exact valueUnder_zipWith_or (b.map_fst_named.trans a.map_fst_named.symm) name

theorem map_real_inj {x y : Option α} (h : x.map SettingValue.real = y.map .real) : x = y :=
  Option.map_injective (fun _ _ => SettingValue.real.inj) h

/-- Settings are determined by what stands under their names. -/
theorem Settings.ext_value {s s' : Settings α}
    (h : ∀ name, (settingKinds.lookup name).isSome → s.value? name = s'.value? name) : s = s' := by
  have hnamed : ∀ name ∈ settingKinds.map (·.1), s.value? name = s'.value? name := by
    intro name hname
    refine h name ?_
    revert name
    decide
  simp [settingKinds, value?, named] at hnamed
  obtain ⟨h₁, h₂, h₃, h₄, h₅, h₆, h₇, h₈, h₉, h₁₀, h₁₁, h₁₂, h₁₃, h₁₄, h₁₅, h₁₆, h₁₇, h₁₈⟩ := hnamed
  cases s
  cases s'
  rw [mk.injEq]
  exact ⟨h₁, h₂, h₃, h₄, map_real_inj h₅, h₆, h₇, h₈, h₉, h₁₀, h₁₁, h₁₂, h₁₃, h₁₄, h₁₅,
    map_real_inj h₁₆, h₁₇, h₁₈⟩

theorem mem_settingKinds {kind : SettingKind} (h : settingKinds.lookup name = some kind) :
    (name, kind) ∈ settingKinds := by
  obtain ⟨before, after, heq, -⟩ := List.lookup_eq_some_iff.1 h
  rw [heq]
  exact List.mem_append_right _ List.mem_cons_self

namespace Overrides

/-- The override of a setting holds its value and nothing else. -/
theorem single_of_mem {kind : SettingKind} (h : (name, kind) ∈ settingKinds)
    {value : SettingValue α} (hkind : value.kind = kind) :
    (single name value).named =
        settingKinds.map (fun p => (p.1, if p.1 = name then some value else none)) ∧
      (single name value).unknown = [] := by
  fin_cases h <;> cases value <;> cases hkind <;> exact ⟨rfl, rfl⟩

/-- A name that no setting has is unknown. -/
theorem single_of_unknown {value : SettingValue α} (h : settingKinds.lookup name = none) :
    single name value = { unknown := [name] } := by
  unfold single
  split
  all_goals first
    | cases h
    | rfl

theorem value?_of_blank {o : Overrides α} (h : o.named = settingKinds.map fun p => (p.1, none))
    (name : String) : o.value? name = none := by
  rw [value?, h, valueUnder_map_kinds fun _ => none]
  exact ite_self none

def ofItem : String × Option (SettingValue α) → Overrides α
  | (name, some value) => single name value
  | (name, none) => silent name

theorem ofNamed_eq_foldl (items : List (String × Option (SettingValue α))) :
    ofNamed items = items.foldl (fun acc item => acc.andThen (ofItem item)) .empty := by
  refine congrArg (fun step => items.foldl step Overrides.empty) ?_
  funext acc item
  obtain ⟨name, _ | value⟩ := item
  · rfl
  · rfl

/-- A setting that is given a value is given one that it takes. -/
def Typed (item : String × Option (SettingValue α)) : Prop :=
  ∀ value kind, item.2 = some value → settingKinds.lookup item.1 = some kind → value.kind = kind

variable {item : String × Option (SettingValue α)}

theorem value?_ofItem (typed : Typed item) (hname : (settingKinds.lookup name).isSome) :
    (ofItem item).value? name = if name = item.1 then item.2 else none := by
  obtain ⟨key, _ | value⟩ := item
  · have hsilent : (silent key : Overrides α).named = settingKinds.map fun p => (p.1, none) := by
      unfold silent
      split <;> rfl
    rw [ofItem, value?_of_blank hsilent, ite_self]
  · cases hkind : settingKinds.lookup key with
    | none =>
        have hne : name ≠ key := by
          rintro rfl
          simp [hkind] at hname
        rw [ofItem, single_of_unknown hkind, if_neg hne]
        exact value?_of_blank rfl name
    | some kind =>
        have hmem := mem_settingKinds hkind
        rw [ofItem, value?, (single_of_mem hmem (typed value kind rfl hkind)).1,
          valueUnder_map_kinds fun n => if n = key then some value else none]
        by_cases h : name = key
        · rw [h, if_pos (List.mem_map.2 ⟨_, hmem, rfl⟩)]
        · simp [h]

theorem unknown_ofItem (typed : Typed item) :
    (ofItem item).unknown = [] ↔
      ∀ value, item.2 = some value → (settingKinds.lookup item.1).isSome := by
  obtain ⟨key, _ | value⟩ := item
  · have hsilent : (silent key : Overrides α).unknown = [] := by
      unfold silent
      split <;> rfl
    simp [ofItem, hsilent]
  · cases hkind : settingKinds.lookup key with
    | none => simp [ofItem, single_of_unknown hkind]
    | some kind =>
        have hsingle := single_of_mem (mem_settingKinds hkind) (typed value kind rfl hkind)
        simp [ofItem, hsingle.2]

variable {items : List (String × Option (SettingValue α))}

theorem value?_ofNamed (nodup : (items.map (·.1)).Nodup) (typed : ∀ item ∈ items, Typed item)
    (hname : (settingKinds.lookup name).isSome) :
    (ofNamed items).value? name = valueUnder items name := by
  have hfold : ∀ acc : Overrides α,
      (items.foldl (fun acc item => acc.andThen (ofItem item)) acc).value? name =
        (valueUnder items name).or (acc.value? name) := by
    induction items with
    | nil => exact fun acc => rfl
    | cons item items ih =>
        intro acc
        rw [List.map_cons, List.nodup_cons] at nodup
        rw [List.foldl_cons,
          ih nodup.2 (fun item' h => typed item' (List.mem_cons_of_mem _ h)),
          value?_andThen, value?_ofItem (typed item List.mem_cons_self) hname, valueUnder_cons]
        by_cases h : name = item.1
        · -- The name does not come up again.
          rw [if_pos h, if_pos h, valueUnder_eq_none (h ▸ nodup.1), Option.none_or]
        · rw [if_neg h, if_neg h, Option.none_or]
  rw [ofNamed_eq_foldl, hfold, value?_of_blank rfl, Option.or_none]

theorem unknown_ofNamed (typed : ∀ item ∈ items, Typed item) :
    (ofNamed items).unknown = [] ↔
      ∀ name value, (name, some value) ∈ items → (settingKinds.lookup name).isSome := by
  have hfold : ∀ acc : Overrides α,
      (items.foldl (fun acc item => acc.andThen (ofItem item)) acc).unknown =
        acc.unknown ++ items.flatMap fun item => (ofItem item).unknown := by
    intro acc
    induction items generalizing acc with
    | nil => exact (List.append_nil _).symm
    | cons item items ih =>
        rw [List.foldl_cons, ih (fun item' h => typed item' (List.mem_cons_of_mem _ h)),
          List.flatMap_cons, ← List.append_assoc]
        rfl
  rw [ofNamed_eq_foldl, hfold, List.append_eq_nil_iff, List.flatMap_eq_nil_iff]
  constructor
  · rintro ⟨-, h⟩ name value hmem
    exact (unknown_ofItem (typed _ hmem)).1 (h _ hmem) value rfl
  · intro h
    refine ⟨rfl, fun item hmem => (unknown_ofItem (typed item hmem)).2 fun value hvalue => ?_⟩
    obtain ⟨name, _⟩ := item
    cases hvalue
    exact h name value hmem

end Overrides

/-! ### Maps -/

/-- A map of overrides. Each name is mentioned once, and a setting with a value that it takes. -/
structure OverrideMap (α : Type) where
  items : List (String × Option (SettingValue α))
  nodup : (items.map (·.1)).Nodup
  typed : ∀ item ∈ items, Overrides.Typed item

namespace OverrideMap

variable {a b : OverrideMap α}

def value? (m : OverrideMap α) (name : String) : Option (SettingValue α) := valueUnder m.items name

def overrides (m : OverrideMap α) : Overrides α := .ofNamed m.items

def NamesSettings (m : OverrideMap α) : Prop :=
  ∀ name value, m.value? name = some value → (settingKinds.lookup name).isSome

theorem value?_overrides (m : OverrideMap α) (hname : (settingKinds.lookup name).isSome) :
    m.overrides.value? name = m.value? name :=
  Overrides.value?_ofNamed m.nodup m.typed hname

theorem unknown_overrides (m : OverrideMap α) : m.overrides.unknown = [] ↔ m.NamesSettings := by
  rw [overrides, Overrides.unknown_ofNamed m.typed]
  constructor
  · intro h name value hvalue
    exact h name value (mem_of_valueUnder hvalue)
  · intro h name value hmem
    exact h name value (valueUnder_of_mem m.nodup hmem)

def names (m : OverrideMap α) : List String := m.items.map (·.1)

/-- The items of a map with the values of another put in their places, and the rest of these values
behind them. -/
def updatedItems (a b : OverrideMap α) : List (String × Option (SettingValue α)) :=
  (a.items.map fun item => (item.1, (b.value? item.1).or item.2)) ++
    b.items.filter fun item => item.2.isSome && item.1 ∉ a.names

theorem nodup_updatedItems (a b : OverrideMap α) : ((a.updatedItems b).map (·.1)).Nodup := by
  have hkept : ((a.items.map fun item => (item.1, (b.value? item.1).or item.2)).map (·.1)) =
      a.names := by
    rw [List.map_map]
    rfl
  rw [updatedItems, List.map_append, hkept, List.nodup_append']
  refine ⟨a.nodup, b.nodup.sublist (List.filter_sublist.map _), ?_⟩
  intro name hname hadded
  obtain ⟨item, hitem, rfl⟩ := List.mem_map.1 hadded
  have hnew := (List.mem_filter.1 hitem).2
  simp [hname] at hnew

theorem mem_updatedItems {value : Option (SettingValue α)} (h : (name, value) ∈ a.updatedItems b) :
    value = (b.value? name).or (a.value? name) := by
  obtain h | h := List.mem_append.1 h
  · obtain ⟨⟨key, old⟩, hmem, heq⟩ := List.mem_map.1 h
    cases heq
    rw [value?, value?, valueUnder_of_mem a.nodup hmem]
  · obtain ⟨hmem, hnew⟩ := List.mem_filter.1 h
    have hnew : name ∉ a.names := by
      intro hname
      simp [hname] at hnew
    rw [value?, value?, valueUnder_of_mem b.nodup hmem, valueUnder_eq_none hnew, Option.or_none]

def updated (a b : OverrideMap α) : OverrideMap α where
  items := a.updatedItems b
  nodup := nodup_updatedItems a b
  typed := by
    rintro ⟨name, value⟩ hmem v kind rfl hkind
    obtain hvalue | ⟨-, hvalue⟩ := Option.or_eq_some_iff.1 (mem_updatedItems hmem).symm
    · exact b.typed _ (mem_of_valueUnder hvalue) v kind rfl hkind
    · exact a.typed _ (mem_of_valueUnder hvalue) v kind rfl hkind

theorem value?_updated (a b : OverrideMap α) (name : String) :
    (a.updated b).value? name = (b.value? name).or (a.value? name) := by
  by_cases h : name ∈ (a.updatedItems b).map (·.1)
  · obtain ⟨⟨key, value⟩, hmem, rfl⟩ := List.mem_map.1 h
    rw [← mem_updatedItems hmem]
    exact valueUnder_of_mem (a.updated b).nodup hmem
  · have hmissing : (a.updated b).value? name = none := valueUnder_eq_none h
    rw [updatedItems, List.map_append, List.mem_append, not_or, List.map_map] at h
    have hkeys : name ∉ a.names := h.1
    have hold : a.value? name = none := valueUnder_eq_none hkeys
    rw [hmissing, hold, Option.or_none]
    cases hnew : b.value? name with
    | none => rfl
    | some value =>
        refine absurd (List.mem_map.2 ⟨(name, some value), ?_, rfl⟩) h.2
        exact List.mem_filter.2 ⟨mem_of_valueUnder hnew, by simp [hkeys]⟩

end OverrideMap

/-! ### Merging -/

/-- Settings are others with the values of a map in their places. -/
def Settings.Replaces (s old : Settings α) (m : OverrideMap α) : Prop :=
  ∀ name, (settingKinds.lookup name).isSome → s.value? name = (m.value? name).or (old.value? name)

theorem Settings.replaces_iff {s old : Settings α} {m : OverrideMap α} :
    s.Replaces old m ↔ s = old.override m.overrides := by
  constructor
  · intro h
    refine ext_value fun name hname => ?_
    rw [h name hname, value?_override, m.value?_overrides hname]
  · rintro rfl name hname
    rw [value?_override, m.value?_overrides hname]

namespace Config

variable [Scalar α] {c c' : Config α} {a b m : OverrideMap α}

theorem ext_settings (h : c.settings = c'.settings) : c = c' := by
  cases c
  cases c'
  cases h
  rfl

theorem merge_overrides_iff :
    c.merge m.overrides = .ok c' ↔ m.NamesSettings ∧ c'.settings.Replaces c.settings m := by
  rw [merge_eq_ok_iff, m.unknown_overrides, Settings.replaces_iff]

/-- A map can be merged exactly if it names settings and the replaced settings are valid, and these
are what comes of it. A map without values changes nothing, two maps one after the other are one
updated with the other, and maps without a value for the same name can change places. -/
theorem merge_laws (c : Config α) (a b : OverrideMap α) :
    ((∃ c', c.merge a.overrides = .ok c') ↔
      a.NamesSettings ∧ ∃ s : Settings α, s.Replaces c.settings a ∧ s.fault? = none) ∧
    (∀ c', c.merge a.overrides = .ok c' → c'.settings.Replaces c.settings a) ∧
    ((∀ name, a.value? name = none) → c.merge a.overrides = .ok c) ∧
    (∀ c₁ c₂, c.merge a.overrides = .ok c₁ → c₁.merge b.overrides = .ok c₂ →
      c.merge (a.updated b).overrides = .ok c₂) ∧
    ((∀ name, a.value? name = none ∨ b.value? name = none) → ∀ c₁ c₂ c₃ c₄,
      c.merge a.overrides = .ok c₁ → c₁.merge b.overrides = .ok c₂ →
        c.merge b.overrides = .ok c₃ → c₃.merge a.overrides = .ok c₄ → c₂ = c₄) := by
  refine ⟨⟨?_, ?_⟩, fun c' h => (merge_overrides_iff.1 h).2, fun hnone => ?_,
    fun c₁ c₂ h₁ h₂ => ?_, fun hdisjoint c₁ c₂ c₃ c₄ h₁ h₂ h₃ h₄ => ?_⟩
  · rintro ⟨c', h⟩
    obtain ⟨hnames, hreplaces⟩ := merge_overrides_iff.1 h
    exact ⟨hnames, c'.settings, hreplaces, c'.valid⟩
  · rintro ⟨hnames, s, hreplaces, valid⟩
    exact ⟨⟨s, valid⟩, merge_overrides_iff.2 ⟨hnames, hreplaces⟩⟩
  · refine merge_overrides_iff.2 ⟨fun name value hvalue => ?_, fun name hname => ?_⟩
    · rw [hnone] at hvalue
      cases hvalue
    · rw [hnone, Option.none_or]
  · obtain ⟨hnames₁, hreplaces₁⟩ := merge_overrides_iff.1 h₁
    obtain ⟨hnames₂, hreplaces₂⟩ := merge_overrides_iff.1 h₂
    refine merge_overrides_iff.2 ⟨fun name value hvalue => ?_, fun name hname => ?_⟩
    · rw [a.value?_updated b] at hvalue
      obtain hvalue | ⟨-, hvalue⟩ := Option.or_eq_some_iff.1 hvalue
      · exact hnames₂ name value hvalue
      · exact hnames₁ name value hvalue
    · rw [hreplaces₂ name hname, hreplaces₁ name hname, a.value?_updated b, Option.or_assoc]
  · refine ext_settings (Settings.ext_value fun name hname => ?_)
    rw [(merge_overrides_iff.1 h₂).2 name hname, (merge_overrides_iff.1 h₁).2 name hname,
      (merge_overrides_iff.1 h₄).2 name hname, (merge_overrides_iff.1 h₃).2 name hname]
    obtain hnone | hnone := hdisjoint name
    · rw [hnone, Option.none_or, Option.none_or]
    · rw [hnone, Option.none_or, Option.none_or]

end Config

/-! ### A few maps -/

def OverrideMap.coarse : OverrideMap Float where
  items := [("tol", some (.real 0.5)), ("step", none)]
  nodup := by decide
  typed := by
    intro item hmem value kind hvalue hkind
    fin_cases hmem
    · cases hvalue
      cases hkind
      rfl
    · cases hvalue

def OverrideMap.careful : OverrideMap Float where
  items := [("backoff", some (.real 16))]
  nodup := by decide
  typed := by
    intro item hmem value kind hvalue hkind
    fin_cases hmem
    cases hvalue
    cases hkind
    rfl

def OverrideMap.mute : OverrideMap Float where
  items := [("step", none), ("colour", none)]
  nodup := by decide
  typed := by
    intro item hmem value kind hvalue
    fin_cases hmem <;> cases hvalue

/-- The first two maps give no value to the same name. -/
theorem OverrideMap.coarse_or_careful (name : String) :
    coarse.value? name = none ∨ careful.value? name = none := by
  by_cases h : name = "tol"
  · subst h
    exact .inr rfl
  · refine .inl ?_
    simp [value?, coarse, h]

/-- The standard configuration with the first two maps merged into it in both orders, and with the
third. -/
theorem Config.double_merges :
    ∃ c₁ c₂ c₃ c₄ : Config Float, double.merge OverrideMap.coarse.overrides = .ok c₁ ∧
      c₁.merge OverrideMap.careful.overrides = .ok c₂ ∧
      double.merge OverrideMap.careful.overrides = .ok c₃ ∧
      c₃.merge OverrideMap.coarse.overrides = .ok c₄ ∧ c₂ = c₄ ∧
      double.merge (OverrideMap.coarse.updated .careful).overrides = .ok c₂ ∧
      c₁.settings.Replaces double.settings .coarse ∧
      double.merge OverrideMap.mute.overrides = .ok double := by
  obtain ⟨c₂, h₁₂, -⟩ := exists_ok_of_toOption (f := fun c : Config Float => c.settings.tol)
    (c := 0.5) (r := double.merge OverrideMap.coarse.overrides >>= fun c =>
      c.merge OverrideMap.careful.overrides) (by decide +kernel)
  obtain ⟨c₄, h₃₄, -⟩ := exists_ok_of_toOption (f := fun c : Config Float => c.settings.tol)
    (c := 0.5) (r := double.merge OverrideMap.careful.overrides >>= fun c =>
      c.merge OverrideMap.coarse.overrides) (by decide +kernel)
  obtain ⟨c₁, h₁, h₂⟩ := except_bind_eq_ok_iff.1 h₁₂
  obtain ⟨c₃, h₃, h₄⟩ := except_bind_eq_ok_iff.1 h₃₄
  obtain ⟨-, hreplaces, -, hupdated, hswapped⟩ := merge_laws double .coarse .careful
  obtain ⟨-, -, hmute, -, -⟩ := merge_laws double .mute .mute
  have hvalues : ∀ name, OverrideMap.mute.value? name = none := by
    intro name
    simp [OverrideMap.value?, OverrideMap.mute]
  exact ⟨c₁, c₂, c₃, c₄, h₁, h₂, h₃, h₄,
    hswapped OverrideMap.coarse_or_careful c₁ c₂ c₃ c₄ h₁ h₂ h₃ h₄, hupdated c₁ c₂ h₁ h₂,
    hreplaces c₁ h₁, hmute hvalues⟩

end Equilibrium
