import Equilibrium.Proofs.Search.Stalling

/-!
How solves fail.

A solve fails in one of three ways, and the stage at which it does so tells which. What is wrong
with the overrides or with the request comes back as it is, before a backend has been asked for
anything. A failure that escapes the search is reported as a failed solve, with the failure as its
cause. The one exception is an undefined start, which comes back as it is from wherever it was
signalled; a search that begins where its residual is undefined signals it before it calls a
collaborator.
-/

namespace Equilibrium

variable {α : Type} [Scalar α] {problem : Problem α}

/-! ### Engines -/

/-- What comes back, by what the search has come to. -/
inductive Answers (problem : Problem α) :
    Except (Fault α) (Outcome α) → Except (Fault α) (Result α) → Prop
  | returns (o : Outcome α) : Answers problem (.ok o) (.ok (.ofOutcome problem o))
  | passes (fault : Fault α) (start : fault.isUndefinedStart = true) :
      Answers problem (.error fault) (.error fault)
  | fails (fault : Fault α) (other : fault.isUndefinedStart = false) :
      Answers problem (.error fault) (.error (.solveFailed fault))

/-- What an engine makes of a search, whatever is searched with. -/
def EngineKind.report (kind : EngineKind) (problem : Problem α) (search : Traced α (Outcome α)) :
    Traced α (Result α) := do
  Traced.tell [.started]
  let outcome ← tryCatch search fun fault => do
    Traced.tell [.notified fault]
    throw (kind.escalate fault)
  Traced.tell (.delivered false :: kind.closing outcome)
  return .ofOutcome problem outcome

theorem Engine.drive_eq_report (engine : Engine α) (calls : Nat) (problem : Problem α) :
    engine.drive calls problem = engine.kind.report problem (engine.backend.run calls problem) :=
  rfl

theorem EngineKind.report_notices_of_ok (kind : EngineKind) (problem : Problem α)
    {search : Traced α (Outcome α)} {o : Outcome α} (h : search.result = .ok o) :
    (kind.report problem search).notices =
      .started :: (search.notices ++ .delivered false :: kind.closing o) := by
  obtain ⟨ns, r⟩ := search
  cases h
  simp [report, tryCatch, MonadExcept.tryCatch]

theorem EngineKind.report_notices_of_error (kind : EngineKind) (problem : Problem α)
    {search : Traced α (Outcome α)} {fault : Fault α} (h : search.result = .error fault) :
    (kind.report problem search).notices = .started :: (search.notices ++ [.notified fault]) := by
  obtain ⟨ns, r⟩ := search
  cases h
  simp [report, tryCatch, MonadExcept.tryCatch]

theorem EngineKind.report_result (kind : EngineKind) (problem : Problem α)
    (search : Traced α (Outcome α)) :
    (kind.report problem search).result =
      match search.result with
      | .ok o => .ok (.ofOutcome problem o)
      | .error fault => .error (kind.escalate fault) := by
  obtain ⟨ns, r⟩ := search
  cases r with
  | ok o => rfl
  | error fault => rfl

theorem EngineKind.report_answers (problem : Problem α) (search : Traced α (Outcome α)) :
    Answers problem search.result (EngineKind.steadyState.report problem search).result := by
  rw [EngineKind.report_result]
  cases search.result with
  | ok o => exact .returns o
  | error fault =>
      cases hstart : fault.isUndefinedStart with
      | true => simpa only [escalate, hstart, if_true] using Answers.passes fault hstart
      | false =>
          simpa only [escalate, hstart, Bool.false_eq_true, if_false] using
            Answers.fails fault hstart

omit [Scalar α] in
theorem EngineKind.callCount_closing (kind : EngineKind) (o : Outcome α) :
    callCount (kind.closing o) = 0 := by
  unfold closing
  split
  · rfl
  · split
    · rfl
    · rfl

/-- An engine calls no collaborator of its own. -/
theorem EngineKind.callCount_report (kind : EngineKind) (problem : Problem α)
    (search : Traced α (Outcome α)) :
    callCount (kind.report problem search).notices = callCount search.notices := by
  cases h : search.result with
  | ok o =>
      rw [kind.report_notices_of_ok problem h]
      change callCount
        ([.started] ++ (search.notices ++ ([.delivered false] ++ kind.closing o))) = _
      simp only [callCount_append, callCount_closing]
      exact Nat.zero_add _
  | error fault =>
      rw [kind.report_notices_of_error problem h]
      change callCount ([.started] ++ (search.notices ++ [.notified fault])) = _
      simp only [callCount_append]
      exact Nat.zero_add _

/-! ### Undefined starts -/

theorem initialDistance_of_isNaN {distance : α}
    (h : residualDistance problem.residual problem.start = .ok distance)
    (undefined : Scalar.isNaN distance = true) :
    initialDistance problem = .error .undefinedStart := by
  refine except_bind_eq_error_iff.2 (.inr ⟨distance, h, ?_⟩)
  rw [if_pos undefined]
  rfl

/-! ### Solves -/

namespace Session

variable {s : Session α} {c : Config α} {r : Request α} {o : Overrides α} {keep : Bool}

theorem solveWith_of_error {fault : Fault α}
    (h : Problem.create s.interface.strategy c r = .error fault) :
    (s.solveWith c r).2 = .fail fault := by
  rw [solveWith, Interface.create, h]

theorem solveWith_of_ok (h : Problem.create s.interface.strategy c r = .ok problem) :
    (s.solveWith c r).2 =
      EngineKind.steadyState.report problem (s.backend.run s.calls problem) := by
  rw [solveWith, Interface.create, h]
  exact (run_snd _ _).trans (Engine.drive_eq_report _ _ _)

/-- Whether overrides are kept makes no difference to the solve that they come with. -/
theorem solve_of_create (effective : s.effective o = .ok c)
    (created : Problem.create s.interface.strategy c r = .ok problem) :
    (s.solve r o keep).2 =
      EngineKind.steadyState.report problem (s.backend.run s.calls problem) := by
  rw [solve_of_ok effective]
  cases keep with
  | false => exact solveWith_of_ok created
  | true => exact solveWith_of_ok created

/-- A request of which no problem can be made ends the solve. -/
theorem solve_of_refused {fault : Fault α} (effective : s.effective o = .ok c)
    (refused : Problem.create s.interface.strategy c r = .error fault) :
    (s.solve r o keep).2 = .fail fault := by
  rw [solve_of_ok effective]
  cases keep with
  | false => exact solveWith_of_error refused
  | true => exact solveWith_of_error refused

/-- A residual that fails where the search would start makes no problem. -/
theorem create_of_residual_error {strategy : Strategy} {F : Field α} {y : Tensor α}
    {jacobian : Option (Field α)} {fault : Fault α} (residual : r.residual = .function F)
    (hjacobian : r.jacobian? = .ok jacobian) (start : r.start = .ok y)
    (shape : checkStart y = .ok ()) (fails : F y = .error fault) :
    Problem.create strategy c r = .error fault := by
  have hF : r.residual? = .ok F := Request.residual?_eq_ok_iff.2 residual
  rw [Problem.create, hF, hjacobian, start]
  change (checkStart y >>= fun _ => F y >>= _) = _
  rw [shape, fails]
  rfl

/-- How a solve fails, by the stage at which it does. -/
structure Classifies (s : Session α) (r : Request α) (o : Overrides α) (keep : Bool) : Prop where
  unmerged : ∀ fault, s.effective o = .error fault → (s.solve r o keep).2 = .fail fault
  uncreated : ∀ c fault, s.effective o = .ok c →
    Problem.create s.interface.strategy c r = .error fault → (s.solve r o keep).2 = .fail fault
  unprobed : ∀ c F jacobian y fault, s.effective o = .ok c → r.residual = .function F →
    r.jacobian? = .ok jacobian → r.start = .ok y → checkStart y = .ok () → F y = .error fault →
    (s.solve r o keep).2 = .fail fault
  searched : ∀ c problem, s.effective o = .ok c →
    Problem.create s.interface.strategy c r = .ok problem →
    (s.solve r o keep).2 = EngineKind.steadyState.report problem (s.backend.run s.calls problem)
  /-- The engine makes its report in one way, whatever the search may be, and calls no collaborator
  of its own. -/
  answered : ∀ (problem : Problem α) (search : Traced α (Outcome α)),
    Answers problem search.result (EngineKind.steadyState.report problem search).result ∧
      callCount (EngineKind.steadyState.report problem search).notices = callCount search.notices
  undefined : ∀ c problem distance, s.effective o = .ok c →
    Problem.create s.interface.strategy c r = .ok problem →
    residualDistance problem.residual problem.start = .ok distance →
    Scalar.isNaN distance = true →
    (s.solve r o keep).2.result = .error .undefinedStart ∧
      callCount (s.solve r o keep).2.notices = 0

/-- Whatever is asked of a session and whatever fails on the way, the failure comes back as its
stage demands. -/
theorem solve_classifies (s : Session α) (r : Request α) (o : Overrides α) (keep : Bool) :
    s.Classifies r o keep := by
  constructor
  case unmerged =>
    intro fault failed
    rw [solve_of_error failed]
  case uncreated => exact fun c fault effective failed => solve_of_refused effective failed
  case unprobed =>
    intro c F jacobian y fault effective residual hjacobian start shape fails
    exact solve_of_refused effective
      (create_of_residual_error residual hjacobian start shape fails)
  case searched => exact fun c problem effective created => solve_of_create effective created
  case answered =>
    intro problem search
    exact ⟨EngineKind.report_answers problem search,
      EngineKind.callCount_report .steadyState problem search⟩
  case undefined =>
    intro c problem distance effective created hdistance hnan
    rw [solve_of_create effective created,
      s.backend.run_of_initialDistance s.calls (initialDistance_of_isNaN hdistance hnan)]
    exact ⟨rfl, rfl⟩

noncomputable def hopeless : Session Exact :=
  ⟨.stalling, ⟨.pseudoTransient, .hopeless⟩, .ofStrategy .pseudoTransient, none, 0⟩

/-- With settings that stall and collaborators that have no hope, a session fails in each of the
three ways. -/
theorem hopeless_classifies :
    (hopeless.solve (.identity 1) { unknown := ["steps"] } false).2 =
        .fail (.strayName "steps") ∧
      (∃ y, (hopeless.solve (.identity y) .empty false).2.result =
        .error (.solveFailed .divisionByZero)) ∧
      (hopeless.solve (.identity .undefined) .empty false).2.result = .error .undefinedStart ∧
      callCount (hopeless.solve (.identity .undefined) .empty false).2.notices = 0 := by
  have effective : hopeless.effective .empty = .ok .stalling :=
    Config.ofSettings_eq_ok_iff.2 rfl
  refine ⟨(solve_classifies hopeless _ _ false).unmerged _ rfl, ?_, ?_⟩
  · have stalls : Config.stalling.settings.Stalls :=
      ⟨rfl, rfl, rfl, by decide, fun h => Exact.noConfusion h⟩
    obtain ⟨y, created, -, hfails⟩ := stalls.divides 0
    have hrun : (hopeless.backend.run hopeless.calls (.identity .stalling y)).result =
        .error .divisionByZero := hfails
    have classifies := solve_classifies hopeless (.identity y) .empty false
    have answered := (classifies.answered (.identity .stalling y)
      (hopeless.backend.run hopeless.calls (.identity .stalling y))).1
    rw [← classifies.searched .stalling _ effective created, hrun] at answered
    refine ⟨y, ?_⟩
    generalize (hopeless.solve (.identity y) .empty false).2.result = answer at answered
    cases answered with
    | passes fault start => cases start
    | fails fault other => rfl
  · have created : Problem.create .pseudoTransient .stalling (.identity Exact.undefined) =
        .ok (.identity .stalling Exact.undefined) :=
      Problem.create_identity .pseudoTransient rfl Exact.undefined
    have hdistance : residualDistance .ok (.vector [Exact.undefined]) = .ok Exact.undefined := rfl
    exact (solve_classifies hopeless (.identity .undefined) .empty false).undefined .stalling _ _
      effective created hdistance rfl

end Session

end Equilibrium
