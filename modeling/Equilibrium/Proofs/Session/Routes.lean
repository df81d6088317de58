import Equilibrium.Proofs.Search.Identity
import Equilibrium.Proofs.Session

/-!
The ways to supply settings.

Settings reach a solve by several ways: with the call, for that call or to be kept, by an update of
the session before it, by merging before the session is opened, and as parameters of a single
solve. All of them come down to one configuration, the session's own with the overrides merged into
it. A single solve has values of its own for some parameters; it agrees with the rest because these
values are the standard ones, whichever of them the overrides leave standing.
-/

namespace Equilibrium

variable {α : Type}

/-! ### Values that are already there -/

/-- An override says of some settings only what holds of them anyway. -/
structure Overrides.Restates (o : Overrides α) (s : Settings α) : Prop where
  override : s.override o = s
  unknown : o.unknown = []

namespace Overrides

variable {s : Settings α} {o : Overrides α}

theorem restates_empty (s : Settings α) : Overrides.empty.Restates s := ⟨rfl, rfl⟩

theorem Restates.andThen {a b : Overrides α} (ha : a.Restates s) (hb : b.Restates s) :
    (a.andThen b).Restates s := by
  constructor
  · rw [Settings.override_andThen, ha.override, hb.override]
  · simp [Overrides.andThen, ha.unknown, hb.unknown]

/-- An override by name restates settings if each of its values does. -/
theorem restates_ofNamed (values : List (String × SettingValue α))
    (h : ∀ p ∈ values, (single p.1 p.2).Restates s) :
    (ofNamed (values.map fun p => (p.1, some p.2))).Restates s := by
  unfold ofNamed
  refine List.foldlRecOn (motive := (Restates · s)) _ _ (restates_empty s)
    fun acc hacc item hitem => ?_
  obtain ⟨p, hp, rfl⟩ := List.mem_map.1 hitem
  exact hacc.andThen (h p hp)

/-- Parameters that restate some settings change nothing about what an override makes of them,
whichever of them it leaves out. -/
theorem override_withDefaults {parameters : List (String × SettingValue α)}
    (h : ∀ p ∈ parameters, (single p.1 p.2).Restates s) (o : Overrides α) :
    s.override (o.withDefaults parameters) = s.override o ∧
      (o.withDefaults parameters).unknown = o.unknown := by
  have hrestates := restates_ofNamed (parameters.filter fun p => p.1 ∉ o.blank)
    fun p hp => h p (List.mem_filter.1 hp).1
  constructor
  · rw [withDefaults, Settings.override_andThen, hrestates.override]
  · rw [withDefaults, Overrides.andThen, hrestates.unknown, List.nil_append]

end Overrides

variable [Scalar α]

/-- The parameters of the single solves have the values of the standard settings. -/
theorem pseudoTransientDefaults_restate :
    ∀ p ∈ pseudoTransientDefaults (α := α), (Overrides.single p.1 p.2).Restates .standard := by
  intro p hp
  simp only [pseudoTransientDefaults, List.mem_cons, List.not_mem_nil, or_false] at hp
  rcases hp with rfl | rfl | rfl | rfl | rfl | rfl | rfl | rfl | rfl <;> exact ⟨rfl, rfl⟩

theorem horizonDefaults_restate :
    ∀ p ∈ horizonDefaults (α := α), (Overrides.single p.1 p.2).Restates .standard := by
  intro p hp
  simp only [horizonDefaults, List.mem_cons, List.not_mem_nil, or_false] at hp
  rcases hp with rfl | rfl | rfl | rfl | rfl | rfl <;> exact ⟨rfl, rfl⟩

theorem relaxationDefaults_restate :
    ∀ p ∈ relaxationDefaults (α := α), (Overrides.single p.1 p.2).Restates .standard := by
  intro p hp
  simp only [relaxationDefaults, List.mem_cons, List.not_mem_nil, or_false] at hp
  rcases hp with rfl | rfl | rfl | rfl <;> exact ⟨rfl, rfl⟩

theorem Config.merge_withDefaults {c : Config α} {parameters : List (String × SettingValue α)}
    (h : ∀ p ∈ parameters, (Overrides.single p.1 p.2).Restates c.settings) (o : Overrides α) :
    c.merge (o.withDefaults parameters) = c.merge o := by
  obtain ⟨hoverride, hunknown⟩ := Overrides.override_withDefaults h o
  rw [merge, merge, hoverride, hunknown]

/-! ### Routes through a session -/

namespace Session

def opened (i : Interface α) (tools : Toolbox α) (c : Config α) : Session α :=
  ⟨c, ⟨i.strategy, tools⟩, i.bind, none, 0⟩

variable {s : Session α} {r : Request α} {o : Overrides α}

/-- The configuration that is stored makes no difference to a solve that brings its own. -/
theorem solveWith_snd (s : Session α) (c stored : Config α) (r : Request α) :
    (solveWith { s with config := stored } c r).2 = (s.solveWith c r).2 := by
  cases h : Problem.create s.interface.strategy c r with
  | error fault => simp only [solveWith, Interface.create, h]
  | ok problem =>
      simp only [solveWith, Interface.create, h, run_snd]
      rfl

/-- Overrides that name settings only are merged into the configuration, and the solve goes by what
comes of that, whether it is kept or not. -/
theorem solve_of_settings (settings : o.strayNames = []) (keep : Bool) :
    (s.solve r o keep).2 =
      Traced.lift (s.config.merge o) >>= fun c => (s.solveWith c r).2 := by
  have effective : s.effective o = s.config.merge o := by rw [effective, settings]
  cases hmerge : s.config.merge o with
  | error fault =>
      rw [solve_of_error (effective.trans hmerge)]
      rfl
  | ok c =>
      rw [solve_of_ok (effective.trans hmerge)]
      cases keep with
      | false => rfl
      | true => exact solveWith_snd s c c r

theorem solve_empty (s : Session α) (r : Request α) :
    (s.solve r .empty false).2 = (s.solveWith s.config r).2 := by
  rw [solve_of_settings rfl, Config.merge_empty]
  rfl

/-- A solve after an update goes by the configuration that the update has left. -/
theorem solve_of_update (s : Session α) (r : Request α) (o : Overrides α) :
    (Traced.lift (s.update o).2 >>= fun _ => ((s.update o).1.solve r .empty false).2) =
      Traced.lift (s.config.merge o) >>= fun c => (s.solveWith c r).2 := by
  unfold update
  cases s.config.merge o with
  | error fault => rfl
  | ok c => exact (solve_empty _ r).trans (solveWith_snd s c c r)

/-- How overrides reach a solve. -/
inductive Route where
  | passing
  | kept
  | updated
  | merged

/-- Open a session and solve a request in it, with overrides that take some route. -/
def Route.solve (route : Route) (i : Interface α) (tools : Toolbox α) (c : Config α)
    (r : Request α) (o : Overrides α) : Traced α (Result α) :=
  match route with
  | passing => do
    let s ← openWith i tools (.config c)
    (s.solve r o false).2
  | kept => do
    let s ← openWith i tools (.config c)
    (s.solve r o true).2
  | updated => do
    let s ← openWith i tools (.config c)
    let (s, answer) := s.update o
    answer
    (s.solve r .empty false).2
  | merged => do
    let c ← c.merge o
    let s ← openWith i tools (.config c)
    (s.solve r .empty false).2

theorem Route.solve_merged (i : Interface α) (tools : Toolbox α) (c : Config α) (r : Request α)
    (o : Overrides α) :
    merged.solve i tools c r o =
      Traced.lift (c.merge o) >>= fun c' => ((opened i tools c).solveWith c' r).2 := by
  change (Traced.lift (c.merge o) >>= fun c' => ((opened i tools c').solve r .empty false).2) = _
  congr 1
  funext c'
  exact (solve_empty _ r).trans (solveWith_snd (opened i tools c) c' c' r)

/-- Every route comes to a solve with the overrides merged into the configuration. -/
theorem Route.solve_eq (route : Route) (i : Interface α) (tools : Toolbox α) (c : Config α)
    (r : Request α) (settings : o.strayNames = []) :
    route.solve i tools c r o =
      Traced.lift (c.merge o) >>= fun c' => ((opened i tools c).solveWith c' r).2 := by
  cases route with
  | passing => exact solve_of_settings settings false
  | kept => exact solve_of_settings settings true
  | updated => exact solve_of_update (opened i tools c) r o
  | merged => exact solve_merged i tools c r o

/-! ### Single solves -/

def told (search : Traced α (Result α)) : Traced α (Tensor α × α) := do
  let result ← search
  return (result.state, result.distance)

/-- A single solve takes the last of the routes from the standard configuration. -/
theorem findSteadyState_eq {c : Config α} (standard : Config.standard = .ok c)
    (strategy : Strategy) (tools : Toolbox α) (r : Request α) (o : Overrides α) :
    findSteadyState strategy tools r o =
      told (Route.merged.solve (.ofStrategy strategy) tools c r o) := by
  unfold findSteadyState
  rw [standard]
  change (Traced.lift (c.merge o) >>= fun c' =>
    ((opened (.ofStrategy strategy) tools c').solve r .empty false).2 >>= _) = _
  exact (Traced.bind_assoc ..).symm

/-- A single solve with parameters that restate the standard settings agrees with every route. -/
theorem findSteadyState_withDefaults {c : Config α} (standard : Config.standard = .ok c)
    {parameters : List (String × SettingValue α)}
    (h : ∀ p ∈ parameters, (Overrides.single p.1 p.2).Restates .standard) (strategy : Strategy)
    (tools : Toolbox α) (r : Request α) (settings : o.strayNames = []) (route : Route) :
    findSteadyState strategy tools r (o.withDefaults parameters) =
      told (route.solve (.ofStrategy strategy) tools c r o) := by
  rw [← Config.ofSettings_eq_ok_iff.1 standard] at h
  rw [findSteadyState_eq standard, Route.solve_merged, Config.merge_withDefaults h,
    Route.solve_eq route _ _ _ _ settings]

end Session

/-- No component of the start is marked, whatever form the marking has. -/
def Request.MarksNothing (r : Request α) : Prop :=
  ∀ start, r.start = .ok start →
    (r.marking.mask start.leading : Except (Fault α) Mask) =
      .ok (List.replicate start.leading false)

/-- A request without a word on components is as good as one that marks none. -/
theorem Problem.create_unmarked {r : Request α} (h : r.MarksNothing) (strategy : Strategy)
    (c : Config α) :
    Problem.create strategy c { r with marking := .absent } = Problem.create strategy c r := by
  unfold create
  refine bind_congr fun F => bind_congr fun jacobian => ?_
  cases hstart : r.start with
  | error fault => rfl
  | ok start =>
      change (checkStart start >>= fun _ => F start >>= _) =
        (checkStart start >>= fun _ => F start >>= _)
      refine bind_congr fun _ => bind_congr fun value => ?_
      simp only [Marking.mask_absent, h start hstart]

theorem Session.solveWith_unmarked {r : Request α} (h : r.MarksNothing) (s : Session α)
    (c : Config α) : s.solveWith c { r with marking := .absent } = s.solveWith c r := by
  rw [solveWith, solveWith, Interface.create, Interface.create, Problem.create_unmarked h]

namespace Session

/-- All ways to supply some overrides agree. -/
structure RoutesAgree (tools : Toolbox α) (o : Overrides α) : Prop where
  sessions : ∀ (i : Interface α) (c : Config α) (r : Request α) (route route' : Route),
    route.solve i tools c r o = route'.solve i tools c r o
  pseudoTransient : ∀ (c : Config α) (r : Request α) (route : Route), Config.standard = .ok c →
    pseudoTransientSolve tools r o =
      told (route.solve (.ofStrategy .pseudoTransient) tools c r o)
  horizons : ∀ (c : Config α) (r : Request α) (route : Route), Config.standard = .ok c →
    r.MarksNothing →
    horizonSolve tools { r with marking := .absent } o =
      told (route.solve (.ofStrategy .horizons) tools c r o)
  relaxation : ∀ (c : Config α) (r : Request α) (route : Route), Config.standard = .ok c →
    r.MarksNothing →
    relaxationSolve tools { r with marking := .absent } o =
      told (route.solve (.ofStrategy .relaxation) tools c r o)

/-- Overrides of settings come to the same on every route, whether they have values for few or for
all, for settings that a single solve has parameters for or for others, and whether or not the
values are valid. -/
theorem routes_agree (tools : Toolbox α) {o : Overrides α} (settings : o.strayNames = []) :
    RoutesAgree tools o := by
  have hunmarked : ∀ (route : Route) (i : Interface α) (c : Config α) (r : Request α),
      r.MarksNothing →
      route.solve i tools c { r with marking := .absent } o = route.solve i tools c r o := by
    intro route i c r h
    rw [Route.solve_eq route _ _ _ _ settings, Route.solve_eq route _ _ _ _ settings]
    simp only [solveWith_unmarked h]
  constructor
  case sessions =>
    intro i c r route route'
    rw [Route.solve_eq route i tools c r settings, Route.solve_eq route' i tools c r settings]
  case pseudoTransient =>
    intro c r route standard
    exact findSteadyState_withDefaults standard pseudoTransientDefaults_restate _ _ _ settings route
  case horizons =>
    intro c r route standard h
    rw [← hunmarked route _ c r h]
    exact findSteadyState_withDefaults standard horizonDefaults_restate _ _ _ settings route
  case relaxation =>
    intro c r route standard h
    rw [← hunmarked route _ c r h]
    exact findSteadyState_withDefaults standard relaxationDefaults_restate _ _ _ settings route

def lenient : Overrides Float := { tol := some 1e-3, backoff := some 4, blank := ["step"] }

theorem lenient_routes_agree :
    lenient.strayNames = [] ∧ Config.standard = .ok Config.double ∧
      (∃ result,
        (Route.kept.solve (.ofStrategy .pseudoTransient) .trial .double (.identity 1)
          lenient).result = .ok result ∧
        result.history.map Record.accepted = [false, true, true] ∧
        (pseudoTransientSolve .trial (.identity 1) lenient).result =
          .ok (result.state, result.distance)) ∧
      RoutesAgree .trial lenient := by
  have standard : Config.standard = .ok Config.double := Config.ofSettings_eq_ok_iff.2 rfl
  have agree := routes_agree .trial (o := lenient) rfl
  refine ⟨rfl, standard, ?_, agree⟩
  obtain ⟨result, hresult, hflags⟩ : ∃ result,
      (Route.kept.solve (.ofStrategy .pseudoTransient) .trial .double (.identity 1)
        lenient).result = .ok result ∧
      result.history.map Record.accepted = [false, true, true] :=
    exists_ok_of_toOption (by decide +kernel)
  refine ⟨result, hresult, hflags, ?_⟩
  rw [agree.pseudoTransient .double _ .kept standard]
  exact Traced.bind_result_eq_ok_iff.2 ⟨result, hresult, rfl⟩

end Session

end Equilibrium
