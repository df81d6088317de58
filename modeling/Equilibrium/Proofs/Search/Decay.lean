import Equilibrium.Proofs.Residual.Decay
import Equilibrium.Proofs.Search.Committed
import Equilibrium.Proofs.Search.Ending
import Equilibrium.Proofs.Search.Stalling

/-!
Searches on decaying linear systems.

Pseudo-transient continuation with an exact inner solver finds the steady state of every decaying
linear system. No iteration is rejected. The step never falls below the smaller of the first step
and the ceiling, since the distance goes down and the coefficient does not, and so each iteration
shrinks the distance by at least one factor, known beforehand. How many iterations that takes is a
matter of one inequality between the first distance and the tolerance.
-/

namespace Equilibrium

variable {n : ℕ}

/-- The inner solver answers the equations of a problem's steps with an exact root, at a distance of
zero, wherever they have a root at all. -/
def InnerSolver.SolvesSteps (solver : InnerSolver Exact) (problem : Problem Exact) (n : ℕ) : Prop :=
  ∀ calls (x : Fin n → ℝ) step call, 0 < step →
    problem.implicitCall problem.innerPlan (.real x) step = .ok call →
    (∃ z : Fin n → ℝ, IsRoot call.residual z) →
    ∃ z : Fin n → ℝ, IsRoot call.residual z ∧
      (solver.solve calls call).outcome = .ok ⟨.real z, 0⟩

/-- A problem about a decaying system, with a coefficient that does not fall and a step that stays
above its floor even where it is cut. -/
structure Problem.Decaying (problem : Problem Exact) (rate y₀ : Fin n → ℝ) (slowest m : ℝ) :
    Prop where
  residual : Decays problem.residual rate
  start : problem.start = .real y₀
  positive : 0 < slowest
  rates : ∀ i, slowest ≤ rate i
  differential : problem.mask.any id = false
  step : Scalar.isInf problem.step = false
  scale : 1 ≤ problem.scale
  shortest : Scalar.capped problem.stepMax problem.step = .finite m
  stepMin : problem.stepMin ≤ .finite m

/-- One place of a search is nearer to the steady state than another: in its distance, and in no
component farther. -/
def Nearer (n : ℕ) (place place' : Tensor Exact × Exact) : Prop :=
  place'.2 < place.2 ∧ ∃ y z : Fin n → ℝ, place.1 = .real y ∧ place'.1 = .real z ∧
    ∀ i, |z i| ≤ |y i|

/-- What a search knows of itself after so many iterations: its distance has shrunk by a factor each
time, and its step has not become too short. -/
structure Progress.Shrunk (p : Progress Exact) (rate : Fin n → ℝ) (factor first m : ℝ) : Prop where
  state : ∃ y : Fin n → ℝ, p.state = .real y ∧ p.distance = .finite (decayDistance rate y) ∧
    decayDistance rate y * factor ^ p.iteration ≤ first
  step : .finite m ≤ p.step
  coef : 1 ≤ p.coef
  rejected : p.rejected = 0

variable {problem : Problem Exact} {solver : InnerSolver Exact} {rate y₀ : Fin n → ℝ}
  {slowest m first : ℝ} {calls K : ℕ} {p next : Progress Exact} {record : Record Exact}

/-! ### What the step and the inner solver keep to -/

namespace Problem.Decaying

theorem leading (decaying : problem.Decaying rate y₀ slowest m) : problem.start.leading = n := by
  rw [decaying.start]
  exact Tensor.leading_real

theorem ne_zero (decaying : problem.Decaying rate y₀ slowest m)
    (wellFormed : problem.WellFormed) : n ≠ 0 := by
  rw [← decaying.leading]
  exact wellFormed.nonempty

theorem length_mask (decaying : problem.Decaying rate y₀ slowest m)
    (wellFormed : problem.WellFormed) : problem.mask.length = n :=
  wellFormed.mask.trans decaying.leading

theorem rate_pos (decaying : problem.Decaying rate y₀ slowest m) (i : Fin n) : 0 < rate i :=
  decaying.positive.trans_le (decaying.rates i)

/-- The step is nowhere cut below the smaller of the first step and the ceiling. -/
theorem bounds (decaying : problem.Decaying rate y₀ slowest m)
    (range : problem.settings.InRange) :
    0 < m ∧ .finite m ≤ problem.stepMax ∧ .finite m ≤ problem.step := by
  have hceiling : (0 : Exact) < problem.stepMax := range.stepMax
  have hstep : (0 : Exact) < problem.step := range.step
  obtain ⟨hmax, hfirst⟩ :=
    Exact.le_of_capped (Scalar.Ordered.isNaN_of_lt hceiling) decaying.shortest
  refine ⟨?_, hmax, hfirst⟩
  change (0 : Exact) < .finite m
  rw [← decaying.shortest]
  unfold Scalar.capped
  split
  · exact hceiling
  · exact hstep

/-- From a real vector the inner solver goes to one that is nearer to zero. -/
theorem proposed (decaying : problem.Decaying rate y₀ slowest m)
    (wellFormed : problem.WellFormed) (range : problem.settings.InRange)
    (solves : solver.SolvesSteps problem n) (calls : ℕ) (x : Fin n → ℝ) {step : Exact}
    (hstep : .finite m ≤ step) :
    ∃ z : Fin n → ℝ,
      (problem.propose solver problem.innerPlan calls (.real x) step).result = .ok ⟨.real z, 0⟩ ∧
        ∀ i, |z i| * (1 + slowest * m) ≤ |x i| := by
  obtain ⟨hm, -, -⟩ := decaying.bounds range
  have hn : n ≠ 0 := decaying.ne_zero wellFormed
  have hmask : problem.mask.length = n := decaying.length_mask wellFormed
  have hpos : 0 < step := Exact.zero_lt_of_lt_of_le (a := .finite m) hm hstep
  have hx : (Tensor.real x).shape = problem.start.shape := by
    rw [decaying.start, Tensor.shape_real, Tensor.shape_real]
  obtain ⟨call, hcall⟩ : ∃ call, problem.implicitCall problem.innerPlan (.real x) step = .ok call :=
    exists_implicitCall wellFormed rfl hx
  obtain ⟨G, J, hG, hJ, hcallEq⟩ := stepCall_eq_ok_iff.1 hcall
  have hroot : ∃ z : Fin n → ℝ, IsRoot call.residual z := by
    rw [hcallEq]
    exact exists_root decaying.residual hn hmask decaying.differential decaying.rate_pos hpos hG
  obtain ⟨z, hz, hanswer⟩ := solves calls x step call hpos hcall hroot
  rw [hcallEq] at hz
  refine ⟨z, propose_result_eq_ok_iff.2 ⟨call, _, hcall, hanswer, ?_, rfl⟩, fun i => ?_⟩
  · rw [Tensor.shape_real, Tensor.shape_real]
  · exact hz.shrinks decaying.residual hn hmask decaying.differential decaying.positive
      decaying.rates hm hstep hG i

end Problem.Decaying

namespace StepLaw

variable {law : StepLaw Exact} {step coef : Exact} {d d' : ℝ}

/-- As long as the distance does not go up and the coefficient is not below one, the step grows, up
to the ceiling. -/
theorem le_grow (hm : 0 < m) (ceiling : .finite m ≤ law.ceiling) (hstep : .finite m ≤ step)
    (hcoef : 1 ≤ coef) (nonneg : 0 ≤ d') (hle : d' ≤ d) :
    .finite m ≤ law.grow step coef (.finite d) (.finite d') := by
  unfold grow
  split
  · exact ceiling
  · next hne =>
      have hd' : 0 < d' := Exact.zero_lt_of_le (a := .finite d') nonneg (Bool.eq_false_iff.2 hne)
      exact Exact.le_capped ceiling
        (Exact.le_mul_div hm (Exact.le_mul_of_one_le hm hstep hcoef) hd' hle)

theorem one_le_compound (scale : 1 ≤ law.scale) (hcoef : 1 ≤ coef) (old new : Exact) :
    1 ≤ law.compound coef old new := by
  unfold compound
  split
  · exact Exact.one_le_mul scale hcoef
  · exact le_refl (1 : ℝ)

end StepLaw

/-! ### One iteration -/

theorem lt_of_mul_le {a b c : ℝ} (h : a * c ≤ b) (ha : 0 ≤ a) (hb : 0 < b) (hc : 1 < c) :
    a < b := by
  obtain hzero | hpos := ha.eq_or_lt
  · rwa [← hzero]
  · have hgrow : a < a * c := lt_mul_of_one_lt_right hpos hc
    exact hgrow.trans_le h

namespace Progress.Shrunk

variable (shrunk : p.Shrunk rate (1 + slowest * m) first m)
  (decaying : problem.Decaying rate y₀ slowest m) (wellFormed : problem.WellFormed)
  (range : problem.settings.InRange) (solves : solver.SolvesSteps problem n)

include shrunk decaying wellFormed range solves

/-- Every iteration has a candidate to commit, nearer to zero by the factor. -/
theorem candidate (calls : ℕ) :
    ∃ x z : Fin n → ℝ, p.state = .real x ∧ p.distance = .finite (decayDistance rate x) ∧
      decayDistance rate x * (1 + slowest * m) ^ p.iteration ≤ first ∧
      ((problem.pseudoTransientLoop solver).propose (calls + p.iteration) p.state p.step).result =
        .ok ⟨.real z, 0⟩ ∧
      candidateDistance problem.residual (.real z) = .ok (.finite (decayDistance rate z)) ∧
      (problem.pseudoTransientLoop solver).commits ⟨.real z, 0⟩
        (.finite (decayDistance rate z)) = true ∧
      ∀ i, |z i| * (1 + slowest * m) ≤ |x i| := by
  obtain ⟨x, hx, hdistance, hfirst⟩ := shrunk.state
  obtain ⟨z, hz, hshrinks⟩ :=
    decaying.proposed wellFormed range solves (calls + p.iteration) x shrunk.step
  have hn : n ≠ 0 := decaying.ne_zero wellFormed
  have hmeasured : candidateDistance problem.residual (.real z) =
      .ok (.finite (decayDistance rate z)) :=
    candidateDistance_eq_ok_iff.2 ⟨_, residualDistance_of_decays decaying.residual hn z, rfl⟩
  have hwithin : (0 : Exact) ≤ problem.innerTol :=
    Exact.le_of_lt (range.innerTol problem.innerTol rfl)
  refine ⟨x, z, hx, hdistance, hfirst, by rw [hx]; exact hz, hmeasured, ?_, hshrinks⟩
  exact Bool.and_eq_true_iff.2 ⟨decide_eq_true hwithin, rfl⟩

theorem exists_step :
    ∃ next record, (problem.pseudoTransientLoop solver).Step calls p next record := by
  obtain ⟨x, z, -, -, -, hproposed, hmeasured, hcommits, -⟩ :=
    shrunk.candidate decaying wellFormed range solves calls
  exact ⟨_, _, .accept _ _ hproposed hmeasured hcommits⟩

/-- Every iteration is committed, shrinks the distance by the factor and brings no component farther
from zero. -/
theorem after_step (goes : (problem.pseudoTransientLoop solver).continues p = true)
    (step : (problem.pseudoTransientLoop solver).Step calls p next record) :
    record.accepted = true ∧ next.Shrunk rate (1 + slowest * m) first m ∧
      Nearer n p.told next.told := by
  obtain ⟨x, z, hx, hdistance, hfirst, hproposed, hmeasured, hcommits, hshrinks⟩ :=
    shrunk.candidate decaying wellFormed range solves calls
  obtain ⟨hm, hceiling, -⟩ := decaying.bounds range
  have hgain : 0 < slowest * m := mul_pos decaying.positive hm
  have hfactor : decayDistance rate z * (1 + slowest * m) ≤ decayDistance rate x :=
    decayDistance_shrinks (by linarith) hshrinks
  have hpos : 0 < decayDistance rate x := by
    rw [Loop.continues_iff, hdistance] at goes
    exact Exact.zero_lt_of_lt range.tol goes.2
  have hless : decayDistance rate z < decayDistance rate x :=
    lt_of_mul_le hfactor decayDistance_nonneg hpos (by linarith)
  -- The candidate is determined, so the iteration is the one that commits it.
  cases step with
  | reject candidate distance proposed measured discards divides =>
      cases hproposed.symm.trans proposed
      cases hmeasured.symm.trans measured
      rw [hcommits] at discards
      cases discards
  | accept candidate distance proposed measured commits =>
      cases hproposed.symm.trans proposed
      cases hmeasured.symm.trans measured
      refine ⟨rfl, ?_, ?_⟩
      · constructor
        case state =>
          refine ⟨z, rfl, rfl, ?_⟩
          change decayDistance rate z * (1 + slowest * m) ^ (p.iteration + 1) ≤ first
          calc decayDistance rate z * (1 + slowest * m) ^ (p.iteration + 1)
              = decayDistance rate z * (1 + slowest * m) * (1 + slowest * m) ^ p.iteration := by
                ring
            _ ≤ decayDistance rate x * (1 + slowest * m) ^ p.iteration :=
                mul_le_mul_of_nonneg_right hfactor (pow_nonneg (by linarith) _)
            _ ≤ first := hfirst
        case step =>
          change .finite m ≤ problem.stepLaw.grow p.step _ p.distance _
          rw [hdistance]
          exact StepLaw.le_grow hm hceiling shrunk.step
            (StepLaw.one_le_compound decaying.scale shrunk.coef _ _) decayDistance_nonneg hless.le
        case coef => exact StepLaw.one_le_compound decaying.scale shrunk.coef _ _
        case rejected => exact shrunk.rejected
      · refine ⟨?_, x, z, hx, rfl, fun i => ?_⟩
        · change .finite (decayDistance rate z) < p.distance
          rw [hdistance]
          exact hless
        · have hle : |z i| ≤ |z i| * (1 + slowest * m) :=
            le_mul_of_one_le_right (abs_nonneg _) (by linarith)
          exact hle.trans (hshrinks i)

omit decaying wellFormed solves in
/-- After enough iterations the distance is within the tolerance. -/
theorem steady (hgain : 0 ≤ slowest * m)
    (enough : .finite first ≤ problem.tol * .finite ((1 + slowest * m) ^ K))
    (hK : K ≤ p.iteration) : p.distance ≤ problem.tol := by
  obtain ⟨x, -, hdistance, hfirst⟩ := shrunk.state
  have hpower : 0 < (1 + slowest * m) ^ K := pow_pos (by linarith) K
  rw [hdistance]
  obtain htol | ⟨t, -, htol⟩ := Exact.zero_lt_iff.1 range.tol
  · rw [show problem.tol = .infinite false from htol]
    exact (Exact.finite_le_infinite _ false).2 rfl
  · rw [show problem.tol = .finite t from htol] at enough ⊢
    have hbound : first ≤ t * (1 + slowest * m) ^ K := enough
    have hmono : (1 + slowest * m) ^ K ≤ (1 + slowest * m) ^ p.iteration :=
      pow_le_pow_right₀ (by linarith) hK
    refine le_of_mul_le_mul_right ?_ hpower
    calc decayDistance rate x * (1 + slowest * m) ^ K
        ≤ decayDistance rate x * (1 + slowest * m) ^ p.iteration :=
          mul_le_mul_of_nonneg_left hmono decayDistance_nonneg
      _ ≤ first := hfirst
      _ ≤ t * (1 + slowest * m) ^ K := hbound

end Progress.Shrunk

/-! ### Paths -/

namespace Problem.Decaying

variable {last : Progress Exact} {records : List (Record Exact)}
  (decaying : problem.Decaying rate y₀ slowest m) (wellFormed : problem.WellFormed)
  (range : problem.settings.InRange) (solves : solver.SolvesSteps problem n)

include decaying wellFormed range solves

/-- Wherever a search comes to, its distance has shrunk by the factor once for each iteration. -/
theorem shrunk (path : (problem.pseudoTransientLoop solver).Path calls
      (.start problem.start problem.step (.finite (decayDistance rate y₀))) records last) :
    last.Shrunk rate (1 + slowest * m) (decayDistance rate y₀) m := by
  refine path.invariant (I := fun q => q.Shrunk rate (1 + slowest * m) (decayDistance rate y₀) m)
    (fun hp goes step => (hp.after_step decaying wellFormed range solves goes step).2.1) ?_
  constructor
  case state => exact ⟨y₀, decaying.start, rfl, by simp [Progress.start]⟩
  case step => exact (decaying.bounds range).2.2
  case coef => exact le_refl (1 : ℝ)
  case rejected => rfl

variable (path : (problem.pseudoTransientLoop solver).Path calls
    (.start problem.start problem.step (.finite (decayDistance rate y₀))) records last)
  (enough : .finite (decayDistance rate y₀) ≤ problem.tol * .finite ((1 + slowest * m) ^ K))

include path enough

theorem within_of_length (hK : K ≤ records.length) : last.distance ≤ problem.tol := by
  have hgain : 0 < slowest * m := mul_pos decaying.positive (decaying.bounds range).1
  have hcount : last.iteration = 0 + records.length := path.iteration_eq
  exact (decaying.shrunk wellFormed range solves path).steady range hgain.le enough (by omega)

/-- No iteration begins after enough of them. -/
theorem length_le : records.length ≤ K := by
  by_contra hmore
  obtain ⟨q, next, before, goes, -⟩ := path.cut (Nat.not_le.1 hmore)
  have hlength : K ≤ (records.take K).length := by
    rw [List.length_take]
    omega
  exact Scalar.Ordered.not_le_of_lt (Loop.continues_iff.1 goes).2
    (decaying.within_of_length wellFormed range solves before enough hlength)

/-- Where a search ends, its distance is within the tolerance. -/
theorem within_of_exit (budget : K ≤ problem.maxIterations + 1)
    (hexit : records.length = iterationBudget problem.maxIterations ∨
      (problem.pseudoTransientLoop solver).continues last = false) :
    last.distance ≤ problem.tol := by
  -- A budget that is used up has covered enough iterations; the floor of the step is not reached.
  obtain hspent | hstops := hexit
  · refine decaying.within_of_length wellFormed range solves path enough ?_
    unfold iterationBudget at hspent
    omega
  · have hshrunk := decaying.shrunk wellFormed range solves path
    obtain ⟨x, -, hx, -⟩ := hshrunk.state
    have hfloor : problem.stepMin ≤ last.step := Exact.le_trans decaying.stepMin hshrunk.step
    exact (Loop.exit_of_not_continues (by rw [hx]; rfl) range.tol hstops).resolve_right
      (not_not_intro hfloor)

end Problem.Decaying

/-! ### Searches -/

/-- With an exact inner solver, a search on a decaying system converges, and no later than the first
distance and the tolerance allow. Nothing is rejected; the distances go down and no component ever
moves away from zero. -/
theorem Backend.decay_converges {tools : Toolbox Exact} {c : Config Exact} {r : Request Exact}
    {d : Exact} (created : Problem.create .pseudoTransient c r = .ok problem)
    (decaying : problem.Decaying rate y₀ slowest m)
    (solves : tools.solver.SolvesSteps problem n)
    (hd : residualDistance problem.residual problem.start = .ok d)
    (enough : d ≤ problem.tol * .finite ((1 + slowest * m) ^ K))
    (budget : K ≤ problem.maxIterations + 1) :
    ∃ o, ((Backend.mk .pseudoTransient tools).run calls problem).result = .ok o ∧
      let result := Result.ofOutcome problem o
      let states := problem.start ::
        (committed ((Backend.mk .pseudoTransient tools).run calls problem).notices).map Prod.fst
      result.converged = true ∧ result.rejected = 0 ∧ result.iterations ≤ K ∧
      List.IsChain (fun before after => after < before)
        (d :: result.history.map Record.distance) ∧
      List.IsChain (fun x x' => ∃ y z : Fin n → ℝ, x = .real y ∧ x' = .real z ∧
        ∀ i, |z i| ≤ |y i|) states := by
  have wellFormed : problem.WellFormed := Problem.wellFormed_of_create created
  have range : problem.settings.InRange := Problem.inRange_of_create created
  have hloop := loop?_pseudoTransient tools decaying.step
  obtain rfl : .finite (decayDistance rate y₀) = d := by
    rw [decaying.start, residualDistance_of_decays decaying.residual (decaying.ne_zero wellFormed)]
      at hd
    exact Except.ok.inj hd
  have hdistance : initialDistance problem = .ok (.finite (decayDistance rate y₀)) :=
    initialDistance_eq_ok_iff.2 ⟨hd, rfl⟩
  obtain ⟨last, records, hrun⟩ : ∃ last records,
      ((problem.pseudoTransientLoop tools.solver).run calls (iterationBudget problem.maxIterations)
        (.start problem.start problem.step (.finite (decayDistance rate y₀)))).result =
          .ok (last, records) :=
    Loop.run_returns fun path _ _ =>
      (decaying.shrunk wellFormed range solves path).exists_step decaying wellFormed range solves
  obtain ⟨path, hle, hexit⟩ := Loop.run_result_eq_ok_iff.1 hrun
  have hwithin : last.distance ≤ problem.tol :=
    decaying.within_of_exit wellFormed range solves path enough budget hexit
  have hcount : last.iteration = 0 + records.length := path.iteration_eq
  have hlength : records.length ≤ K :=
    decaying.length_le wellFormed range solves path enough
  -- What observers are told of one iteration after another goes nearer and nearer.
  have told := told_of_path hloop hdistance path hle hexit
  have hchain := told.isChain fun before goes step =>
    ((decaying.shrunk wellFormed range solves before).after_step decaying wellFormed range solves
      goes step).2.2
  have hdistances := told.distances fun before goes step =>
    ((decaying.shrunk wellFormed range solves before).after_step decaying wellFormed range solves
      goes step).1
  refine ⟨last.outcome problem.tol records, (run_result_eq_ok_iff_of_loop? hloop).2
    ⟨_, last, records, hdistance, path, hle, hexit, rfl⟩, ?_, ?_, ?_, ?_, ?_⟩
  · exact decide_eq_true hwithin
  · exact congrArg Int.ofNat (decaying.shrunk wellFormed range solves path).rejected
  · change (last.iteration : Int) ≤ K
    omega
  · change List.IsChain _ (_ :: records.map Record.distance)
    rw [hdistances]
    exact List.isChain_map_of_isChain Prod.snd (fun _ _ nearer => nearer.1) hchain
  · exact List.isChain_map_of_isChain Prod.fst (fun _ _ nearer => nearer.2) hchain

/-! ### An exact inner solver -/

/-- A solver that draws a line through two values in each component and goes to where it is zero. -/
def InnerSolver.secant {α : Type} [Scalar α] : InnerSolver α where
  name := "secant"
  solve _ call := ⟨[], none, do
    let here ← call.residual call.guess
    let there ← call.residual (call.guess.mapIdx fun _ a => a + 1)
    let root := call.guess.mapIdx fun i a =>
      a - here.entries.getD i 0 / (there.entries.getD i 0 - here.entries.getD i 0)
    let value ← call.residual root
    return ⟨root, supNorm value.entries⟩⟩

theorem Exact.supNorm_zero : supNorm (Tensor.real fun _ : Fin n => 0).entries = 0 := by
  have hzeros : (Tensor.real fun _ : Fin n => 0).entries = List.replicate n (finite 0) := by
    simp [Tensor.real, List.ofFn_const]
  have hlargest : ∀ k, (List.replicate k (finite 0)).foldl
      (fun acc x => Scalar.larger acc (Scalar.abs x)) (finite 0) = finite 0 := by
    intro k
    induction k with
    | zero => rfl
    | succ k ih =>
        rw [List.replicate_succ, List.foldl_cons, abs_finite, abs_zero, larger_finite, max_self, ih]
  have hall : (List.replicate n (finite 0)).all Scalar.isFinite = true := by simp
  rw [hzeros, supNorm, if_pos hall]
  exact hlargest n

/-- On lines the secant solver is exact. -/
theorem InnerSolver.secant_exact {call : InnerCall Exact} {x slope offset : Fin n → ℝ}
    (hguess : call.guess = .real x) (hslope : ∀ i, slope i ≠ 0)
    (hline : ∀ z : Fin n → ℝ, call.residual (.real z) =
      .ok (.real fun i => slope i * z i + offset i)) :
    ∃ z : Fin n → ℝ, IsRoot call.residual z ∧
      (secant.solve calls call).outcome = .ok ⟨.real z, 0⟩ := by
  have hthere : (Tensor.real x).mapIdx (fun _ a => a + 1) = .real fun i => x i + 1 :=
    Tensor.mapIdx_real fun i => rfl
  have hroot : (Tensor.real x).mapIdx (fun i a =>
      a - (Tensor.real fun i => slope i * x i + offset i).entries.getD i 0 /
        ((Tensor.real fun i => slope i * (x i + 1) + offset i).entries.getD i 0 -
          (Tensor.real fun i => slope i * x i + offset i).entries.getD i 0)) =
      .real fun i => -offset i / slope i := by
    refine Tensor.mapIdx_real fun i => ?_
    have hrise : slope i * (x i + 1) + offset i - (slope i * x i + offset i) = slope i := by ring
    simp only [List.getD_eq_getElem?_getD, Tensor.getElem?_real, Option.getD_some,
      Exact.finite_sub_finite, hrise]
    rw [Exact.finite_div_finite _ _ (hslope i), Exact.finite_sub_finite]
    congr 1
    field_simp [hslope i]
    ring
  have hzero : ∀ i, slope i * (-offset i / slope i) + offset i = 0 := by
    intro i
    rw [mul_div_cancel₀ _ (hslope i), neg_add_cancel]
  have hvalue : IsRoot call.residual fun i => -offset i / slope i := by
    simp only [IsRoot, hline, hzero]
  refine ⟨_, hvalue, ?_⟩
  simp only [secant, hguess, hline, hthere, bind, Except.bind, hroot, hzero]
  exact congrArg (fun d => Except.ok (InnerAnswer.mk _ d)) Exact.supNorm_zero

theorem InnerSolver.secant_solvesSteps (decaying : problem.Decaying rate y₀ slowest m)
    (wellFormed : problem.WellFormed) : secant.SolvesSteps problem n := by
  intro calls x step call hstep hcall _
  obtain ⟨G, J, hG, -, rfl⟩ := stepCall_eq_ok_iff.1 hcall
  obtain ⟨slope, offset, hslope, hline⟩ := implicit_affine decaying.residual
    (decaying.ne_zero wellFormed) (decaying.length_mask wellFormed) decaying.differential
    decaying.rate_pos hstep hG
  exact secant_exact rfl hslope hline

/-! ### A trial with two rates -/

noncomputable def twoRates : Field Exact := fun y =>
  .ok (y.mapIdx fun i a => .finite (-(i + 1)) * a)

theorem twoRates_decays : Decays twoRates fun i : Fin 2 => (i : ℝ) + 1 := fun _ =>
  congrArg Except.ok (Tensor.mapIdx_real fun _ => rfl)

noncomputable def Request.twoRates : Request Exact where
  residual := .function Equilibrium.twoRates
  start := .ok (.real fun _ : Fin 2 => 1)
  marking := .absent
  jacobian := .absent

noncomputable def Problem.twoRates : Problem Exact :=
  .assemble .exact Equilibrium.twoRates (.real fun _ : Fin 2 => 1) [false, false] none

theorem Problem.create_twoRates : create .pseudoTransient .exact .twoRates = .ok twoRates := by
  have hderivative : Config.exact.derivative ≠ .analytic := by decide
  exact create_eq_ok_iff.2 ⟨_, none, _, [false, false], rfl, rfl, rfl, rfl, ⟨_, rfl, rfl⟩,
    Marking.mask_absent 2, fun h => hderivative h.1, Strategy.check_pseudoTransient _ _, rfl⟩

theorem Problem.twoRates_decaying :
    twoRates.Decaying (fun i : Fin 2 => (i : ℝ) + 1) (fun _ => 1) 1 1 := by
  constructor
  case residual => exact twoRates_decays
  case start => rfl
  case positive => exact one_pos
  case rates => exact fun i => le_add_of_nonneg_left (Nat.cast_nonneg _)
  case differential => rfl
  case step => rfl
  case scale =>
    change (1 : ℝ) ≤ 2.0
    norm_num
  case shortest => exact if_neg (Exact.not_infinity_lt _)
  case stepMin =>
    change (1e-12 : ℝ) ≤ 1
    norm_num

/-- From the vector of ones at most thirty-one iterations are needed. -/
theorem Backend.twoRates_converges :
    ∃ o, ((Backend.mk .pseudoTransient ⟨.secant, fun _ => .divergent⟩).run 0 .twoRates).result =
        .ok o ∧
      (Result.ofOutcome .twoRates o).converged = true ∧
      (Result.ofOutcome .twoRates o).rejected = 0 ∧
      (Result.ofOutcome .twoRates o).iterations ≤ 31 := by
  have solves : InnerSolver.secant.SolvesSteps Problem.twoRates 2 :=
    InnerSolver.secant_solvesSteps Problem.twoRates_decaying
      (Problem.wellFormed_of_create Problem.create_twoRates)
  have hdistance : residualDistance Problem.twoRates.residual Problem.twoRates.start =
      .ok (.finite (decayDistance (fun i : Fin 2 => (i : ℝ) + 1) fun _ => 1)) :=
    residualDistance_of_decays twoRates_decays two_ne_zero _
  have enough : Exact.finite (decayDistance (fun i : Fin 2 => (i : ℝ) + 1) fun _ => 1) ≤
      Problem.twoRates.tol * .finite ((1 + 1 * 1) ^ 31) := by
    have hroot : √(5 : ℝ) ≤ 3 := Real.sqrt_le_iff.2 (by norm_num)
    change decayDistance (fun i : Fin 2 => (i : ℝ) + 1) (fun _ => 1) ≤ 1e-9 * (1 + 1 * 1) ^ 31
    rw [decayDistance, Fin.sum_univ_two]
    norm_num
    linarith
  obtain ⟨o, returns, hconverged, hrejected, hiterations, -⟩ : ∃ o,
      ((Backend.mk .pseudoTransient ⟨.secant, fun _ => .divergent⟩).run 0 .twoRates).result =
        .ok o ∧ _ :=
    decay_converges Problem.create_twoRates Problem.twoRates_decaying solves hdistance enough
      (by decide)
  exact ⟨o, returns, hconverged, hrejected, hiterations⟩

end Equilibrium
