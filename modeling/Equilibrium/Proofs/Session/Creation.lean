import Equilibrium.Proofs.Residual.Mask
import Equilibrium.Proofs.Residual.Implicit
import Equilibrium.Proofs.Session
import Mathlib.Tactic.ByContra

/-!
Making a problem of a request.

A request has to satisfy eight requirements, which are checked in a fixed order. A problem is made
exactly if all are satisfied; otherwise the fault is that of the first one that is not, and the
interface stays as it was. The checks are followed one at a time: each is passed, and then the
remaining ones decide, or it is violated, and then nothing else matters.
-/

namespace Equilibrium

variable {α : Type} [Scalar α]

/-! ### Requirements -/

structure Request.StartsAt (r : Request α) (y : Tensor α) (n : Nat) : Prop where
  start : r.start = .ok y
  shape : y.shape = [n]
  pos : 0 < n

/-- What a problem can be made of. -/
inductive Requirement where
  | residual
  | jacobian
  | start
  | value
  | marking
  | derivative
  | differential
  | horizon
  deriving DecidableEq, Repr

namespace Requirement

def all : List Requirement :=
  [residual, jacobian, start, value, marking, derivative, differential, horizon]

theorem mem_all (q : Requirement) : q ∈ all := by
  cases q <;> decide

def Holds (strategy : Strategy) (c : Config α) (r : Request α) : Requirement → Prop
  | residual => ∃ F, r.residual = .function F
  | jacobian => r.jacobian = .absent ∨ ∃ J, r.jacobian = .function J
  | start => ∃ y n, r.StartsAt y n
  | value => ∃ F y n v, r.residual = .function F ∧ r.StartsAt y n ∧ F y = .ok v ∧ v.shape = y.shape
  | marking => ∃ y n mask, r.StartsAt y n ∧ r.marking.mask n = (.ok mask : Except (Fault α) Mask)
  | derivative => c.derivative = .analytic → ∃ J, r.jacobian = .function J
  | differential => strategy = .pseudoTransient ∨
      ∀ y n mask, r.StartsAt y n → r.marking.mask n = (.ok mask : Except (Fault α) Mask) →
        true ∉ mask
  | horizon => strategy = .horizons → Scalar.isFinite c.settings.step = true

/-- The fault of a requirement that is the first not to be satisfied. -/
def Raises (strategy : Strategy) (r : Request α) (fault : Fault α) : Requirement → Prop
  | residual => fault = .residualNotFunction
  | jacobian => fault = .jacobianNotFunction
  | start => r.start = .error fault ∨ ∃ y, r.start = .ok y ∧ fault = .startShape y.shape
  | value => ∃ F y n, r.residual = .function F ∧ r.StartsAt y n ∧
      (F y = .error fault ∨ ∃ v, F y = .ok v ∧ fault = .startResidualShape v.shape y.shape)
  | marking => ∃ y n, r.StartsAt y n ∧ r.marking.mask n = (.error fault : Except (Fault α) Mask)
  | derivative => fault = .analyticWithoutJacobian
  | differential => fault = .algebraicComponents strategy
  | horizon => fault = .infiniteHorizon

end Requirement

section Checks

variable {β γ : Type} (strategy : Strategy) (c : Config α) (r : Request α)

def FirstViolated (qs : List Requirement) (fault : Fault α) : Prop :=
  ∃ earlier q later, qs = earlier ++ q :: later ∧ (∀ e ∈ earlier, e.Holds strategy c r) ∧
    ¬ q.Holds strategy c r ∧ q.Raises strategy r fault

/-- A computation succeeds exactly if all requirements of a list are satisfied, and otherwise raises
the fault of the first that is not. -/
structure Checks (qs : List Requirement) (answer : Except (Fault α) β) : Prop where
  ok : (∃ b, answer = .ok b) ↔ ∀ q ∈ qs, q.Holds strategy c r
  error : ∀ fault, answer = .error fault ↔ FirstViolated strategy c r qs fault

namespace Checks

variable {strategy c r} {qs : List Requirement} {q : Requirement} {answer : Except (Fault α) β}

theorem done (b : β) : Checks strategy c r [] (.ok b : Except (Fault α) β) where
  ok := by simp
  error fault := by
    constructor
    · rintro ⟨⟩
    · rintro ⟨earlier, q, later, h, -⟩
      cases earlier <;> cases h

/-- Behind a requirement that is satisfied the remaining ones decide. -/
theorem passed (hq : q.Holds strategy c r) (h : Checks strategy c r qs answer) :
    Checks strategy c r (q :: qs) answer where
  ok := by
    rw [h.ok, List.forall_mem_cons]
    exact (and_iff_right hq).symm
  error fault := by
    rw [h.error]
    constructor
    · rintro ⟨earlier, q', later, rfl, hearlier, hviolated, hraises⟩
      exact ⟨q :: earlier, q', later, rfl, List.forall_mem_cons.2 ⟨hq, hearlier⟩, hviolated,
        hraises⟩
    · rintro ⟨earlier, q', later, hsplit, hearlier, hviolated, hraises⟩
      cases earlier with
      | nil =>
          cases hsplit
          exact absurd hq hviolated
      | cons e earlier =>
          cases hsplit
          exact ⟨earlier, q', later, rfl, (List.forall_mem_cons.1 hearlier).2, hviolated, hraises⟩

/-- Behind one that is not satisfied nothing else matters. -/
theorem violated {fault : Fault α} (hq : ¬ q.Holds strategy c r)
    (hraises : ∀ f, q.Raises strategy r f ↔ f = fault) :
    Checks strategy c r (q :: qs) (.error fault : Except (Fault α) β) where
  ok := by
    rw [List.forall_mem_cons]
    constructor
    · rintro ⟨b, ⟨⟩⟩
    · rintro ⟨h, -⟩
      exact absurd h hq
  error f := by
    constructor
    · rintro ⟨⟩
      exact ⟨[], q, qs, rfl, List.forall_mem_nil _, hq, (hraises fault).2 rfl⟩
    · rintro ⟨earlier, q', later, hsplit, hearlier, -, hraised⟩
      cases earlier with
      | nil =>
          cases hsplit
          rw [(hraises f).1 hraised]
      | cons e earlier =>
          obtain ⟨rfl, -⟩ := List.cons.inj hsplit
          exact absurd (hearlier q List.mem_cons_self) hq

theorem bind_ok {m : Except (Fault α) γ} {k : γ → Except (Fault α) β} {b : γ} (hm : m = .ok b)
    (h : Checks strategy c r qs (k b)) : Checks strategy c r qs (m >>= k) := by
  subst hm
  exact h

theorem bind_error {m : Except (Fault α) γ} {k : γ → Except (Fault α) β} {fault : Fault α}
    (hm : m = .error fault) (h : Checks strategy c r qs (.error fault : Except (Fault α) β)) :
    Checks strategy c r qs (m >>= k) := by
  subst hm
  exact h

theorem guard_of_not {p : Prop} [Decidable p] {fault : Fault α} {k : γ → Except (Fault α) β}
    (hp : ¬ p) (h : Checks strategy c r qs answer) :
    Checks strategy c r qs (if p then throw fault >>= k else answer) := by
  rw [if_neg hp]
  exact h

theorem guard_of {p : Prop} [Decidable p] {fault : Fault α} {k : γ → Except (Fault α) β} (hp : p)
    (h : Checks strategy c r qs (.error fault : Except (Fault α) β)) :
    Checks strategy c r qs (if p then throw fault >>= k else answer) := by
  rw [if_pos hp]
  exact h

end Checks

/-! ### The checks of a request -/

variable {strategy c r}

omit [Scalar α] in
theorem Request.StartsAt.unique {y y' : Tensor α} {n n' : Nat} (h : r.StartsAt y n)
    (h' : r.StartsAt y' n') : y' = y ∧ n' = n := by
  obtain rfl : y' = y := Except.ok.inj (h'.start.symm.trans h.start)
  exact ⟨rfl, by simpa using h'.shape.symm.trans h.shape⟩

omit [Scalar α] in
theorem Request.residual?_eq_error (h : ¬ ∃ F, r.residual = .function F) :
    r.residual? = .error .residualNotFunction := by
  unfold Request.residual?
  split
  · next F hF => exact absurd ⟨F, hF⟩ h
  · rfl

omit [Scalar α] in
theorem Request.exists_jacobian? (h : r.jacobian = .absent ∨ ∃ J, r.jacobian = .function J) :
    ∃ jacobian, r.jacobian? = .ok jacobian := by
  unfold Request.jacobian?
  rcases h with h | ⟨J, h⟩
  · exact ⟨none, by rw [h]⟩
  · exact ⟨some J, by rw [h]⟩

omit [Scalar α] in
theorem Request.jacobian?_eq_error (h : ¬ (r.jacobian = .absent ∨ ∃ J, r.jacobian = .function J)) :
    r.jacobian? = .error .jacobianNotFunction := by
  unfold Request.jacobian?
  split
  · next hJ => exact absurd (.inl hJ) h
  · rfl
  · next J hJ => exact absurd (.inr ⟨J, hJ⟩) h

omit [Scalar α] in
theorem Request.jacobian?_isNone {jacobian : Option (Field α)}
    (h : r.jacobian? = .ok jacobian) :
    jacobian.isNone = true ↔ ¬ ∃ J, r.jacobian = .function J := by
  unfold Request.jacobian? at h
  cases hJ : r.jacobian with
  | absent =>
      rw [hJ] at h
      cases h
      simp
  | other =>
      rw [hJ] at h
      cases h
  | function J =>
      rw [hJ] at h
      cases h
      simp

omit [Scalar α] in
theorem checkStart_eq_ok {y : Tensor α} {n : Nat} (hshape : y.shape = [n]) (hn : 0 < n) :
    checkStart y = .ok () := by
  rw [checkStart, hshape]
  exact if_neg (Nat.pos_iff_ne_zero.1 hn)

omit [Scalar α] in
theorem checkStart_eq_error {y : Tensor α} (h : ¬ ∃ n, y.shape = [n] ∧ 0 < n) :
    checkStart y = .error (.startShape y.shape) := by
  unfold checkStart
  split
  · next n hshape =>
    have hn : n = 0 := by
      by_contra hn
      exact h ⟨n, hshape, Nat.pos_of_ne_zero hn⟩
    rw [if_pos hn]
  · rfl

theorem checks_start {qs : List Requirement} {k : Tensor α → Except (Fault α) β}
    (rest : ∀ y n, r.StartsAt y n → Checks strategy c r qs (k y)) :
    Checks strategy c r (.start :: qs) (do
      let start ← r.start
      checkStart start
      k start) := by
  cases hy : r.start with
  | error fault =>
      refine .bind_error rfl (.violated ?_ fun f => ?_)
      · rintro ⟨y, n, hstart⟩
        rw [hstart.start] at hy
        cases hy
      · constructor
        · rintro (h | ⟨y, h, -⟩)
          · exact Except.error.inj (h.symm.trans hy)
          · rw [hy] at h
            cases h
        · rintro rfl
          exact .inl hy
  | ok y =>
      refine .bind_ok rfl ?_
      by_cases hshape : ∃ n, y.shape = [n] ∧ 0 < n
      · obtain ⟨n, hshape, hn⟩ := hshape
        have hstart : r.StartsAt y n := ⟨hy, hshape, hn⟩
        exact .passed ⟨y, n, hstart⟩ (.bind_ok (checkStart_eq_ok hshape hn) (rest y n hstart))
      · refine .bind_error (checkStart_eq_error hshape) (.violated ?_ fun f => ?_)
        · rintro ⟨y', n, hstart⟩
          obtain rfl := Except.ok.inj (hy.symm.trans hstart.start)
          exact hshape ⟨n, hstart.shape, hstart.pos⟩
        · constructor
          · rintro (h | ⟨y', h, rfl⟩)
            · rw [hy] at h
              cases h
            · rw [Except.ok.inj (hy.symm.trans h)]
          · rintro rfl
            exact .inr ⟨y, hy, rfl⟩

theorem checks_derivative {qs : List Requirement} {jacobian : Option (Field α)}
    {answer : Except (Fault α) β} (hjacobian : r.jacobian? = .ok jacobian)
    (rest : Checks strategy c r qs answer) :
    Checks strategy c r (.derivative :: qs) (do
      if c.derivative = .analytic ∧ jacobian.isNone then
        throw .analyticWithoutJacobian
      answer) := by
  have hgiven := Request.jacobian?_isNone hjacobian
  by_cases hanalytic : c.derivative = .analytic ∧ jacobian.isNone = true
  · refine .guard_of hanalytic (.violated (fun h => ?_) fun _ => Iff.rfl)
    exact hgiven.1 hanalytic.2 (h hanalytic.1)
  · refine .guard_of_not hanalytic (.passed (fun h => ?_) rest)
    by_contra hnone
    exact hanalytic ⟨h, hgiven.2 hnone⟩

section Started

variable {qs : List Requirement} {y : Tensor α} {n : Nat} (hstart : r.StartsAt y n)

include hstart

theorem checks_value {F : Field α} {k : Tensor α → Except (Fault α) β}
    (hF : r.residual = .function F) (rest : ∀ value, Checks strategy c r qs (k value)) :
    Checks strategy c r (.value :: qs) (do
      let value ← F y
      if value.shape ≠ y.shape then
        throw (.startResidualShape value.shape y.shape)
      k value) := by
  -- The request settles which function and which state the requirement is about.
  have hsettled : ∀ {F' : Field α} {y' : Tensor α} {n' : Nat}, r.residual = .function F' →
      r.StartsAt y' n' → F' = F ∧ y' = y := fun hF' hstart' =>
    ⟨Callable.function.inj (hF'.symm.trans hF), (hstart.unique hstart').1⟩
  cases hvalue : F y with
  | error fault =>
      refine .bind_error rfl (.violated ?_ fun f => ?_)
      · rintro ⟨F', y', n', v, hF', hstart', hv, -⟩
        obtain ⟨rfl, rfl⟩ := hsettled hF' hstart'
        rw [hvalue] at hv
        cases hv
      · constructor
        · rintro ⟨F', y', n', hF', hstart', hraised⟩
          obtain ⟨rfl, rfl⟩ := hsettled hF' hstart'
          rcases hraised with hraised | ⟨v, hv, -⟩
          · exact Except.error.inj (hraised.symm.trans hvalue)
          · rw [hvalue] at hv
            cases hv
        · rintro rfl
          exact ⟨F, y, n, hF, hstart, .inl hvalue⟩
  | ok value =>
      refine .bind_ok rfl ?_
      by_cases hshape : value.shape = y.shape
      · refine .guard_of_not (not_not.2 hshape) (.passed ?_ (rest value))
        exact ⟨F, y, n, value, hF, hstart, hvalue, hshape⟩
      · refine .guard_of hshape (.violated ?_ fun f => ?_)
        · rintro ⟨F', y', n', v, hF', hstart', hv, hfits⟩
          obtain ⟨rfl, rfl⟩ := hsettled hF' hstart'
          obtain rfl := Except.ok.inj (hvalue.symm.trans hv)
          exact hshape hfits
        · constructor
          · rintro ⟨F', y', n', hF', hstart', hraised⟩
            obtain ⟨rfl, rfl⟩ := hsettled hF' hstart'
            rcases hraised with hraised | ⟨v, hv, rfl⟩
            · rw [hvalue] at hraised
              cases hraised
            · obtain rfl := Except.ok.inj (hvalue.symm.trans hv)
              rfl
          · rintro rfl
            exact ⟨F, y, n, hF, hstart, .inr ⟨value, hvalue, rfl⟩⟩

theorem checks_marking {k : Mask → Except (Fault α) β}
    (rest : ∀ mask, r.marking.mask n = (.ok mask : Except (Fault α) Mask) →
      Checks strategy c r qs (k mask)) :
    Checks strategy c r (.marking :: qs) (r.marking.mask y.leading >>= k) := by
  rw [Tensor.leading_of_shape hstart.shape]
  cases hmask : (r.marking.mask n : Except (Fault α) Mask) with
  | error fault =>
      refine .bind_error rfl (.violated ?_ fun f => ?_)
      · rintro ⟨y', n', mask, hstart', hmask'⟩
        obtain ⟨rfl, rfl⟩ := hstart.unique hstart'
        rw [hmask] at hmask'
        cases hmask'
      · constructor
        · rintro ⟨y', n', hstart', hmask'⟩
          obtain ⟨rfl, rfl⟩ := hstart.unique hstart'
          exact Except.error.inj (hmask'.symm.trans hmask)
        · rintro rfl
          exact ⟨y, n, hstart, hmask⟩
  | ok mask => exact .passed ⟨y, n, mask, hstart, hmask⟩ (.bind_ok rfl (rest mask hmask))

/-- A strategy can be followed if nothing that it integrates is algebraic and its first horizon is
finite. -/
theorem checks_strategy {mask : Mask}
    (hmask : r.marking.mask n = (.ok mask : Except (Fault α) Mask)) {k : Unit → Except (Fault α) β}
    (rest : Checks strategy c r qs (k ())) :
    Checks strategy c r (.differential :: .horizon :: qs) (strategy.check c mask >>= k) := by
  have hmem : mask.any id = true ↔ true ∈ mask := by simp
  by_cases halgebraic : strategy ≠ .pseudoTransient ∧ mask.any id = true
  · have hcheck : strategy.check c mask = .error (.algebraicComponents strategy) := by
      rw [Strategy.check, if_pos halgebraic]
    refine .bind_error hcheck (.violated ?_ fun _ => Iff.rfl)
    rintro (h | h)
    · exact halgebraic.1 h
    · exact h y n mask hstart hmask (hmem.1 halgebraic.2)
  · have hdifferential : Requirement.differential.Holds strategy c r := by
      rcases eq_or_ne strategy .pseudoTransient with h | h
      · exact .inl h
      · refine .inr fun y' n' mask' hstart' hmask' htrue => halgebraic ⟨h, hmem.2 ?_⟩
        obtain ⟨rfl, rfl⟩ := hstart.unique hstart'
        rwa [Except.ok.inj (hmask.symm.trans hmask')]
    refine .passed hdifferential ?_
    by_cases hhorizon : strategy = .horizons ∧ (!Scalar.isFinite c.settings.step) = true
    · have hcheck : strategy.check c mask = .error .infiniteHorizon := by
        rw [Strategy.check, if_neg halgebraic, if_pos hhorizon]
      refine .bind_error hcheck (.violated (fun h => ?_) fun _ => Iff.rfl)
      have hinfinite := hhorizon.2
      rw [h hhorizon.1] at hinfinite
      cases hinfinite
    · have hcheck : strategy.check c mask = .ok () := by
        rw [Strategy.check, if_neg halgebraic, if_neg hhorizon]
      refine .bind_ok hcheck (.passed (fun h => ?_) rest)
      by_contra hinfinite
      exact hhorizon ⟨h, by simpa using hinfinite⟩

end Started

/-- Making a problem goes through all requirements. -/
theorem Problem.create_checks (strategy : Strategy) (c : Config α) (r : Request α) :
    Checks strategy c r Requirement.all (Problem.create strategy c r) := by
  unfold Problem.create Requirement.all
  by_cases hresidual : ∃ F, r.residual = .function F
  · obtain ⟨F, hF⟩ := hresidual
    refine .passed ⟨F, hF⟩ (.bind_ok (Request.residual?_eq_ok_iff.2 hF) ?_)
    by_cases hjacobian : r.jacobian = .absent ∨ ∃ J, r.jacobian = .function J
    · obtain ⟨jacobian, hok⟩ := Request.exists_jacobian? hjacobian
      refine .passed hjacobian (.bind_ok hok (checks_start fun y n hstart => ?_))
      refine checks_value hstart hF fun value => checks_marking hstart fun mask hmask => ?_
      exact checks_derivative hok (checks_strategy hstart hmask (.done _))
    · exact .bind_error (Request.jacobian?_eq_error hjacobian)
        (.violated hjacobian fun _ => Iff.rfl)
  · exact .bind_error (Request.residual?_eq_error hresidual) (.violated hresidual fun _ => Iff.rfl)

end Checks

/-! ### The problem -/

theorem InnerMethod.name_of_ofName? {name : String} {m : InnerMethod} (h : ofName? name = some m) :
    m.name = name :=
  eq_of_beq (List.find?_some (p := fun m : InnerMethod => m.name == name) h)

theorem Derivative.name_of_ofName? {name : String} {d : Derivative} (h : ofName? name = some d) :
    d.name = name :=
  eq_of_beq (List.find?_some (p := fun d : Derivative => d.name == name) h)

/-- The selectors of a valid configuration are the choices that they name. -/
theorem Config.names_eq (c : Config α) :
    c.innerMethod.name = c.settings.method ∧ c.derivative.name = c.settings.derivative := by
  have hchoice : c.settings.choiceFault? = none := (Settings.fault?_eq_none_iff.1 c.valid).2
  have hmethod : InnerMethod.ofName? c.settings.method ≠ none := by
    intro h
    simp [Settings.choiceFault?, h] at hchoice
  have hderivative : Derivative.ofName? c.settings.derivative ≠ none := by
    intro h
    obtain ⟨m, hm⟩ := Option.ne_none_iff_exists'.1 hmethod
    simp [Settings.choiceFault?, h, hm] at hchoice
  obtain ⟨m, hm⟩ := Option.ne_none_iff_exists'.1 hmethod
  obtain ⟨d, hd⟩ := Option.ne_none_iff_exists'.1 hderivative
  refine ⟨?_, ?_⟩
  · rw [innerMethod, hm, Option.getD_some]
    exact InnerMethod.name_of_ofName? hm
  · rw [derivative, hd, Option.getD_some]
    exact Derivative.name_of_ofName? hd

/-- A problem carries what was requested, and the settings of the configuration with the two
tolerances that were left open filled in. -/
structure Problem.Fits (problem : Problem α) (c : Config α) (r : Request α) : Prop where
  residual : r.residual = .function problem.residual
  jacobian : r.jacobian = match problem.jacobian with
    | none => .absent
    | some J => .function J
  start : r.start = .ok problem.start
  mask : ∃ n, 1 ≤ n ∧ problem.start.shape = [n] ∧ problem.mask.length = n ∧
    r.marking.mask n = (.ok problem.mask : Except (Fault α) Mask)
  settings : problem.settings = { c.settings with
    innerTol := some (c.settings.innerTol.getD c.settings.tol)
    flowAtol := some (c.settings.flowAtol.getD c.settings.tol) }

theorem Problem.fits_of_create {strategy : Strategy} {c : Config α} {r : Request α}
    {problem : Problem α} (created : Problem.create strategy c r = .ok problem) :
    problem.Fits c r := by
  obtain ⟨F, jacobian, start, mask, hF, hjacobian, hstart, hshape, -, hmask, -, -, rfl⟩ :=
    Problem.create_eq_ok_iff.1 created
  refine ⟨hF, ?_, hstart, ?_, ?_⟩
  · unfold Request.jacobian? at hjacobian
    split at hjacobian
    · next h =>
      cases hjacobian
      exact h
    · cases hjacobian
    · next J h =>
      cases hjacobian
      exact h
  · by_contra hnone
    have hvector : ¬ ∃ n, start.shape = [n] ∧ 0 < n := by
      rintro ⟨n, hn, hpos⟩
      rw [Tensor.leading_of_shape hn] at hmask
      exact hnone ⟨n, hpos, hn, Marking.length_of_mask hmask, hmask⟩
    rw [checkStart_eq_error hvector] at hshape
    cases hshape
  · obtain ⟨hmethod, hderivative⟩ := c.names_eq
    simp only [Problem.settings, Problem.assemble, hmethod, hderivative]
    rfl

structure Interface.Creates (i : Interface α) (c : Config α) (r : Request α) : Prop where
  succeeds : (∃ problem, (i.create c r).2 = .ok problem) ↔
    ∀ q : Requirement, q.Holds i.strategy c r
  raises : ∀ fault, (i.create c r).2 = .error fault ↔
    FirstViolated i.strategy c r Requirement.all fault
  fits : ∀ problem, (i.create c r).2 = .ok problem → problem.Fits c r
  remembered : ∀ problem, (i.create c r).2 = .ok problem →
    (i.create c r).1 = { i with current := some c }
  unchanged : ∀ fault, (i.create c r).2 = .error fault → (i.create c r).1 = i

theorem Interface.create_snd (i : Interface α) (c : Config α) (r : Request α) :
    (i.create c r).2 = Problem.create i.strategy c r := by
  unfold Interface.create
  split
  · next h => exact h.symm
  · next h => exact h.symm

/-- A problem is made of a request exactly if all requirements are satisfied, and otherwise the
first that is not is reported and the interface stays as it was. -/
theorem Interface.creates (i : Interface α) (c : Config α) (r : Request α) : i.Creates c r := by
  have hchecks := Problem.create_checks i.strategy c r
  refine ⟨?_, ?_, ?_, ?_, ?_⟩
  · rw [create_snd, hchecks.ok]
    exact ⟨fun h q => h q q.mem_all, fun h q _ => h q⟩
  · rw [create_snd]
    exact hchecks.error
  · intro problem h
    rw [create_snd] at h
    exact Problem.fits_of_create h
  · intro problem h
    rw [create_snd] at h
    rw [Interface.create, h]
  · intro fault h
    rw [create_snd] at h
    rw [Interface.create, h]

end Equilibrium
