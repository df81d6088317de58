import Equilibrium.StepLaw
import Equilibrium.Proofs.Scalar.Extended
import Mathlib.Algebra.Order.BigOperators.Group.Finset
import Mathlib.Data.Nat.Choose.Basic

/-!
The step over a streak of improvements.

While the distance does not go up, each committed candidate multiplies the step by the coefficient
so far, by one more factor of the scale and by the quotient of two distances. The quotients cancel
but for the first and the last distance, the factors of the scale add up to a triangular number, and
since no candidate makes the step smaller, to cut it at the ceiling each time is to cut it once at
the end. The cancelling is done in the extended nonnegative reals, where the laws of
multiplication hold.
-/

namespace Equilibrium

open Exact
open scoped ENNReal

/-! ### Streaks -/

/-- Candidates at real distances that do not go up from the given one, of which only the last may be
at zero. -/
inductive Improving : Exact → List (Tensor Exact × Exact) → Prop where
  | last {d : Exact} (y : Tensor Exact) {x : ℝ} :
      0 ≤ x → finite x ≤ d → Improving d [(y, finite x)]
  | next {d : Exact} (y : Tensor Exact) {x : ℝ} {rest : List (Tensor Exact × Exact)} :
      0 < x → finite x ≤ d → Improving (finite x) rest → Improving d ((y, finite x) :: rest)

namespace StepLaw

def acceptAll {α : Type} [Scalar α] (law : StepLaw α) (p : Progress α)
    (candidates : List (Tensor α × α)) : Progress α :=
  candidates.foldl (fun p c => law.accept p c.1 c.2) p

/-- The step after a streak of the given length that ends at the given distance, without the steps
in between. -/
noncomputable def streakStep (law : StepLaw Exact) (p : Progress Exact) (length : Nat)
    (last : Exact) : Exact :=
  if last == 0 then law.ceiling
  else Scalar.capped law.ceiling
    (timesPower (timesPower p.step p.coef length) law.scale (length * (length + 1) / 2) *
      p.distance / last)

/-! ### Cutting late -/

/-- Cutting before a growth makes no difference where the outcome is cut. -/
theorem min_growth_min {a M g : ℝ≥0∞} (hg : 1 ≤ g) : min (min a M * g) M = min (a * g) M := by
  rcases le_total a M with h | h
  · rw [min_eq_left h]
  · have hM : M ≤ M * g := le_mul_of_one_le_right' hg
    have ha : M ≤ a * g := hM.trans (mul_le_mul_left h g)
    rw [min_eq_right h, min_eq_right hM, min_eq_right ha]

variable {c d σ : ℝ≥0∞}

theorem one_le_growth {x : NNReal} (hc : 1 ≤ c) (hx : 0 < x) (hle : x ≤ d) : 1 ≤ c * d / x := by
  have hx' : (x : ℝ≥0∞) ≠ 0 := ENNReal.coe_ne_zero.2 hx.ne'
  rw [ENNReal.le_div_iff_mul_le (.inl hx') (.inl ENNReal.coe_ne_top)]
  exact mul_le_mul' hc hle

/-- What a step is multiplied by over a streak: the coefficient once for each candidate, the scale
once for each candidate and each one before it, and the quotient of the distances at its ends. -/
noncomputable def growth (c σ d : ℝ≥0∞) (length : Nat) (last : NNReal) : ℝ≥0∞ :=
  c ^ length * σ ^ (length * (length + 1) / 2) * d / last

theorem one_le_streak (length : Nat) {x : NNReal} (hc : 1 ≤ c) (hσ : 1 ≤ σ) (hx : 0 < x)
    (hle : x ≤ d) : 1 ≤ growth c σ d length x :=
  one_le_growth (one_le_mul (one_le_pow₀ hc) (one_le_pow₀ hσ)) hx hle

theorem growth_one (x : NNReal) : growth c σ d 1 x = c * σ * d / x := by
  simp [growth]

/-- The growth of the first candidate and that of the remaining ones make up the growth of all. -/
theorem growth_succ (k : Nat) {x z : NNReal} (hx : 0 < x) :
    c * σ * d / x * growth (c * σ) σ x k z = growth c σ d (k + 1) z := by
  have hexponent : (k + 1) * (k + 1 + 1) / 2 = k * (k + 1) / 2 + (k + 1) := by
    have := Nat.triangle_succ (k + 1)
    rwa [Nat.add_sub_cancel, Nat.add_sub_cancel, mul_comm (k + 1) k, mul_comm] at this
  have hx' : (x : ℝ≥0∞) ≠ 0 := ENNReal.coe_ne_zero.2 hx.ne'
  have hcancel : (x : ℝ≥0∞)⁻¹ * x = 1 := ENNReal.inv_mul_cancel hx' ENNReal.coe_ne_top
  calc c * σ * d / x * growth (c * σ) σ x k z
      = ((x : ℝ≥0∞)⁻¹ * x) * (c * σ * (c * σ) ^ k * σ ^ (k * (k + 1) / 2) * d / z) := by
        simp only [growth, div_eq_mul_inv]
        ring
    _ = growth c σ d (k + 1) z := by
        rw [growth, hcancel, one_mul, hexponent, mul_pow, pow_succ, pow_add, pow_succ]
        congr 2
        ring

/-! ### One candidate -/

/-- The constants of a law that does not slow down a streak, as extended nonnegative numbers. -/
structure Grows (law : StepLaw Exact) (σ M : ℝ≥0∞) : Prop where
  scale : law.scale = ofENNReal σ
  ceiling : law.ceiling = ofENNReal M
  one_le_scale : 1 ≤ σ
  zero_lt_ceiling : 0 < M

structure Stands (p : Progress Exact) (s c d : ℝ≥0∞) : Prop where
  step : p.step = ofENNReal s
  coef : p.coef = ofENNReal c
  distance : p.distance = ofENNReal d
  zero_lt_step : 0 < s
  one_le_coef : 1 ≤ c
  zero_lt_distance : 0 < d

variable {law : StepLaw Exact} {p : Progress Exact} {s M : ℝ≥0∞}

theorem Stands.coef_accept (h : Stands p s c d) (hlaw : Grows law σ M) (y : Tensor Exact)
    {x : NNReal} (hle : x ≤ d) : (law.accept p y (finite x)).coef = ofENNReal (c * σ) := by
  have hle' : finite x ≤ p.distance := by
    rw [h.distance, ← ofENNReal_coe, ofENNReal_le_iff]
    exact hle
  show (if finite x ≤ p.distance then law.scale * p.coef else 1) = _
  rw [if_pos hle', hlaw.scale, h.coef, ← ofENNReal_mul (zero_lt_one.trans_le hlaw.one_le_scale)
    (zero_lt_one.trans_le h.one_le_coef), mul_comm]

theorem Stands.accept (h : Stands p s c d) (hlaw : Grows law σ M) (y : Tensor Exact) {x : NNReal}
    (hx : 0 < x) (hle : x ≤ d) :
    Stands (law.accept p y (finite x)) (min (s * (c * σ * d / x)) M) (c * σ) x := by
  have hcoef := h.coef_accept hlaw y hle
  have hone : 1 ≤ c * σ := one_le_mul h.one_le_coef hlaw.one_le_scale
  have hgrowth := one_le_growth hone hx hle
  have hpos : 0 < s * (c * σ) := ENNReal.mul_pos h.zero_lt_step.ne' (zero_lt_one.trans_le hone).ne'
  refine ⟨?_, hcoef, (ofENNReal_coe x).symm, lt_min ?_ hlaw.zero_lt_ceiling, hone,
    ENNReal.coe_pos.2 hx⟩
  · show law.grow p.step (law.accept p y (finite x)).coef p.distance (finite x) = _
    rw [hcoef, h.step, h.distance, grow, finite_beq_zero (NNReal.coe_ne_zero.2 hx.ne'),
      if_neg Bool.false_ne_true, ← ofENNReal_mul h.zero_lt_step (zero_lt_one.trans_le hone),
      ← ofENNReal_mul hpos h.zero_lt_distance, ← ofENNReal_div hx, hlaw.ceiling, capped_ofENNReal,
      mul_assoc, mul_div_assoc]
  · exact ENNReal.mul_pos h.zero_lt_step.ne' (zero_lt_one.trans_le hgrowth).ne'

/-- A candidate at distance zero takes the ceiling. -/
theorem step_accept_zero (law : StepLaw Exact) (p : Progress Exact) (y : Tensor Exact) :
    (law.accept p y (finite 0)).step = law.ceiling := by
  have hzero : (finite 0 == (0 : Exact)) = true := decide_eq_true rfl
  show (if finite 0 == (0 : Exact) then law.ceiling else _) = _
  rw [if_pos hzero]

/-- A step that is not above the ceiling does not get smaller, nor does it pass the ceiling. -/
theorem Stands.step_le_accept (h : Stands p s c d) (hlaw : Grows law σ M) (y : Tensor Exact)
    {x : NNReal} (hle : x ≤ d) (hstep : p.step ≤ law.ceiling) :
    p.step ≤ (law.accept p y (finite x)).step ∧
      (law.accept p y (finite x)).step ≤ law.ceiling := by
  rcases x.2.eq_or_lt with hx | hx
  · have hx : (x : ℝ) = 0 := hx.symm
    rw [hx, step_accept_zero, hlaw.ceiling]
    rw [hlaw.ceiling] at hstep
    exact ⟨hstep, ofENNReal_le_iff.2 le_rfl⟩
  · have hone : 1 ≤ c * σ := one_le_mul h.one_le_coef hlaw.one_le_scale
    have hgrowth : s ≤ s * (c * σ * d / x) := le_mul_of_one_le_right' (one_le_growth hone hx hle)
    rw [h.step, hlaw.ceiling, ofENNReal_le_iff] at hstep
    rw [h.step, (h.accept hlaw y hx hle).step, hlaw.ceiling, ofENNReal_le_iff, ofENNReal_le_iff]
    exact ⟨le_min hgrowth hstep, min_le_right _ _⟩

/-! ### Many candidates -/

/-- Where a streak leads: the distance is that of the last candidate, the coefficient was multiplied
by the scale once for each, and the step by the growth of all, cut once. -/
structure Ends (law : StepLaw Exact) (p q : Progress Exact) (s c d σ M : ℝ≥0∞) (length : Nat)
    (last : NNReal) : Prop where
  distance : q.distance = finite last
  le : last ≤ d
  coef : q.coef = ofENNReal (c * σ ^ length)
  step : q.step = if last = 0 then law.ceiling else ofENNReal (min (s * growth c σ d length last) M)

/-- By induction on the streak, from its first candidate on: the cut of the first step is taken up
by that of the last. -/
theorem ends_of_improving {e : Exact} {candidates : List (Tensor Exact × Exact)}
    (himproving : Improving e candidates) (hlaw : Grows law σ M) (h : Stands p s c d)
    (he : p.distance = e) :
    ∃ x : NNReal, candidates.getLast?.map Prod.snd = some (finite x) ∧
      Ends law p (law.acceptAll p candidates) s c d σ M candidates.length x := by
  induction himproving generalizing p s c d with
  | @last _ y x hx hle =>
      lift x to NNReal using hx
      rw [← he, h.distance, ← ofENNReal_coe, ofENNReal_le_iff] at hle
      refine ⟨x, rfl, rfl, hle, ?_, ?_⟩
      · rw [List.length_singleton, pow_one]
        exact h.coef_accept hlaw y hle
      · show (law.accept p y (finite x)).step = _
        rcases eq_or_ne x 0 with rfl | hx
        · rw [if_pos rfl]
          exact step_accept_zero law p y
        · rw [if_neg hx, List.length_singleton, growth_one]
          exact (h.accept hlaw y (pos_iff_ne_zero.2 hx) hle).step
  | @next _ y x rest hx hle _ ih =>
      lift x to NNReal using hx.le
      rw [← he, h.distance, ← ofENNReal_coe, ofENNReal_le_iff] at hle
      have hx : 0 < x := hx
      have hone : 1 ≤ c * σ := one_le_mul h.one_le_coef hlaw.one_le_scale
      obtain ⟨z, hlast, hends⟩ := ih (h.accept hlaw y hx hle) rfl
      refine ⟨z, ?_, hends.distance, hends.le.trans hle, ?_, ?_⟩
      · obtain ⟨w, hw, hwz⟩ := Option.map_eq_some_iff.1 hlast
        rw [List.getLast?_cons, hw]
        exact congrArg some hwz
      · rw [List.length_cons, pow_succ', ← mul_assoc]
        exact hends.coef
      · refine hends.step.trans ?_
        rcases eq_or_ne z 0 with hz | hz
        · rw [if_pos hz, if_pos hz]
        · have hgrowth := one_le_streak rest.length hone hlaw.one_le_scale (pos_iff_ne_zero.2 hz)
            hends.le
          rw [if_neg hz, if_neg hz, min_growth_min hgrowth, mul_assoc, growth_succ _ hx,
            List.length_cons]

theorem steps_le_of_improving {e : Exact} {candidates : List (Tensor Exact × Exact)}
    (himproving : Improving e candidates) (hlaw : Grows law σ M) (h : Stands p s c d)
    (he : p.distance = e) (hstep : p.step ≤ law.ceiling) {k : Nat} (hk : k < candidates.length) :
    (law.acceptAll p (candidates.take k)).step ≤
      (law.acceptAll p (candidates.take (k + 1))).step := by
  induction himproving generalizing p s c d k with
  | @last _ y x hx hle =>
      lift x to NNReal using hx
      rw [← he, h.distance, ← ofENNReal_coe, ofENNReal_le_iff] at hle
      obtain rfl : k = 0 := Nat.lt_one_iff.1 hk
      exact (h.step_le_accept hlaw y hle hstep).1
  | @next _ y x rest hx hle _ ih =>
      lift x to NNReal using hx.le
      rw [← he, h.distance, ← ofENNReal_coe, ofENNReal_le_iff] at hle
      obtain ⟨hfirst, hceiling⟩ := h.step_le_accept hlaw y hle hstep
      cases k with
      | zero => exact hfirst
      | succ k => exact ih (h.accept hlaw y hx hle) rfl hceiling (Nat.lt_of_succ_lt_succ hk)

theorem Ends.step_eq {q : Progress Exact} {length : Nat} {x : NNReal} (hlaw : Grows law σ M)
    (h : Stands p s c d) (hends : Ends law p q s c d σ M length x) :
    q.step = law.streakStep p length (finite x) := by
  have hc : 0 < c := zero_lt_one.trans_le h.one_le_coef
  have hσ : 0 < σ := zero_lt_one.trans_le hlaw.one_le_scale
  rw [hends.step, streakStep]
  rcases eq_or_ne x 0 with rfl | hx
  · have hzero : (finite (0 : NNReal) == (0 : Exact)) = true := decide_eq_true rfl
    rw [if_pos rfl, if_pos hzero]
  · have hstep : 0 < s * c ^ length := ENNReal.mul_pos h.zero_lt_step.ne' (pow_ne_zero _ hc.ne')
    have hscaled : 0 < s * c ^ length * σ ^ (length * (length + 1) / 2) :=
      ENNReal.mul_pos hstep.ne' (pow_ne_zero _ hσ.ne')
    rw [if_neg hx, finite_beq_zero (NNReal.coe_ne_zero.2 hx), if_neg Bool.false_ne_true, h.step,
      h.coef, hlaw.scale, timesPower_ofENNReal h.zero_lt_step hc, timesPower_ofENNReal hstep hσ,
      h.distance, ← ofENNReal_mul hscaled h.zero_lt_distance,
      ← ofENNReal_div (pos_iff_ne_zero.2 hx), hlaw.ceiling, capped_ofENNReal, growth]
    simp only [mul_assoc, mul_div_assoc]

/-! ### The closed form -/

/-- What a streak of candidates makes of the step and the coefficient. -/
structure Accelerates (law : StepLaw Exact) (p : Progress Exact)
    (candidates : List (Tensor Exact × Exact)) : Prop where
  distance : candidates.getLast?.map Prod.snd = some (law.acceptAll p candidates).distance
  coef : (law.acceptAll p candidates).coef = timesPower p.coef law.scale candidates.length
  step : (law.acceptAll p candidates).step =
    law.streakStep p candidates.length (law.acceptAll p candidates).distance
  ends : ∀ others, Improving p.distance others → others.length = candidates.length →
    others.getLast?.map Prod.snd = candidates.getLast?.map Prod.snd →
      (law.acceptAll p others).step = (law.acceptAll p candidates).step
  rising : p.step ≤ law.ceiling → ∀ k < candidates.length,
    (law.acceptAll p (candidates.take k)).step ≤ (law.acceptAll p (candidates.take (k + 1))).step

theorem exists_grows (hscale : 1 ≤ law.scale) (hceiling : 0 < law.ceiling) :
    ∃ σ M, Grows law σ M := by
  obtain ⟨σ, -, hσ⟩ := exists_eq_ofENNReal (zero_lt_of_lt_of_le zero_lt_one hscale)
  obtain ⟨M, hM, hceiling⟩ := exists_eq_ofENNReal hceiling
  rw [hσ, ← ofENNReal_one, ofENNReal_le_iff] at hscale
  exact ⟨σ, M, hσ, hceiling, hscale, hM⟩

theorem exists_stands (hstep : 0 < p.step) (hcoef : 1 ≤ p.coef) (hdistance : 0 < p.distance) :
    ∃ s c d, Stands p s c d := by
  obtain ⟨s, hs, hstep⟩ := exists_eq_ofENNReal hstep
  obtain ⟨c, -, hc⟩ := exists_eq_ofENNReal (zero_lt_of_lt_of_le zero_lt_one hcoef)
  obtain ⟨d, hd, hdistance⟩ := exists_eq_ofENNReal hdistance
  rw [hc, ← ofENNReal_one, ofENNReal_le_iff] at hcoef
  exact ⟨s, c, d, hstep, hc, hdistance, hs, hcoef, hd⟩

/-- The closed form of growth over a streak of improvements. -/
theorem accelerates (hscale : 1 ≤ law.scale) (hceiling : 0 < law.ceiling) (hstep : 0 < p.step)
    (hcoef : 1 ≤ p.coef) (hdistance : 0 < p.distance) {candidates : List (Tensor Exact × Exact)}
    (himproving : Improving p.distance candidates) : law.Accelerates p candidates := by
  obtain ⟨σ, M, hlaw⟩ := exists_grows hscale hceiling
  obtain ⟨s, c, d, hstands⟩ := exists_stands hstep hcoef hdistance
  obtain ⟨x, hlast, hends⟩ := ends_of_improving himproving hlaw hstands rfl
  have hclosed := hends.step_eq hlaw hstands
  refine ⟨?_, ?_, ?_, fun others hothers hlength hsame => ?_, fun hbelow k hk => ?_⟩
  · rw [hlast, hends.distance]
  · rw [hends.coef, hstands.coef, hlaw.scale, timesPower_ofENNReal
      (zero_lt_one.trans_le hstands.one_le_coef) (zero_lt_one.trans_le hlaw.one_le_scale)]
  · rw [hclosed, hends.distance]
  · obtain ⟨z, hlast', hends'⟩ := ends_of_improving hothers hlaw hstands rfl
    have hzx : finite (z : ℝ) = finite x := by
      rw [hlast, hlast'] at hsame
      exact Option.some.inj hsame
    rw [hends'.step_eq hlaw hstands, hclosed, hlength, hzx]
  · exact steps_le_of_improving himproving hlaw hstands rfl hbelow hk

noncomputable def halvings : List (Tensor Exact × Exact) :=
  [(.vector [0], finite 0.5), (.vector [0], finite 0.25)]

theorem improving_halvings : Improving 1 halvings := by
  refine .next _ (by norm_num) ?_ (.last _ (by norm_num) ?_)
  · rw [one_eq, finite_le_finite]
    norm_num
  · rw [finite_le_finite]
    norm_num

/-- From a step of one and without a ceiling, two halvings lead to a step of thirty-two. -/
theorem accelerates_halvings :
    (1 : Exact) ≤ (standard : StepLaw Exact).scale ∧
      (0 : Exact) < (standard : StepLaw Exact).ceiling ∧
      standard.Accelerates (Progress.start (.vector [0]) 1 1) halvings ∧
      (standard.acceptAll (Progress.start (.vector [0]) 1 1) halvings).step = finite 32 := by
  have hscale : (standard : StepLaw Exact).scale = finite 2 := congrArg finite (by norm_num)
  have hone : (1 : Exact) ≤ (standard : StepLaw Exact).scale := by
    rw [hscale, one_eq, finite_le_finite]
    norm_num
  have hceiling : (0 : Exact) < (standard : StepLaw Exact).ceiling := rfl
  have h := accelerates (p := Progress.start (.vector [0]) 1 1) hone hceiling zero_lt_one
    (Exact.le_self rfl) zero_lt_one improving_halvings
  refine ⟨hone, hceiling, h, ?_⟩
  have hlast : (standard.acceptAll (Progress.start (.vector [0]) 1 1) halvings).distance =
      finite 0.25 := rfl
  have huncut : ¬ (standard : StepLaw Exact).ceiling < finite 32 := by
    rintro ⟨⟩
  have hraw : timesPower (timesPower (finite 1) (finite 1) 2) (finite 2) 3 * finite 1 /
      finite 0.25 = finite 32 := by
    rw [timesPower_finite, timesPower_finite, finite_mul_finite,
      finite_div_finite _ _ (by norm_num)]
    norm_num
  have hgrown : Scalar.capped (standard : StepLaw Exact).ceiling
      (timesPower (timesPower (finite 1) (finite 1) 2) (finite 2) 3 * finite 1 / finite 0.25) =
        finite 32 := by
    rw [hraw, Scalar.capped, if_neg huncut]
  rw [h.step, hlast, streakStep, finite_beq_zero (by norm_num), if_neg Bool.false_ne_true, hscale]
  exact hgrown

end StepLaw

end Equilibrium
