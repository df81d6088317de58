import Equilibrium.Proofs.Search.Ending
import Equilibrium.Proofs.Search.Replay
import Equilibrium.Proofs.Search.Singular

/-!
What the law of the step conserves.

A committed iteration trades distance for step: the step grows by the factor that the distance
shrinks by, and by a coefficient. A rejected one divides the step. So in exact arithmetic the
product of step and distance is told by the history alone, up to the coefficients earned and the
divisions suffered, however the search went; and a coefficient is told by the number of iterations
in a row, counted back from its own, that did not make things worse. Both closed forms are read off
the history, without the recurrence that the loop follows.
-/

namespace Equilibrium

/-! ### Reading a history -/

section

variable {α : Type} [Scalar α]

/-- Whether the record at a place was committed at a distance that does not exceed the one committed
before it. -/
def improvesAt (first : α) (history : List (Record α)) (k : Nat) : Bool :=
  match history[k]? with
  | some r => r.accepted && r.distance ≤ committedDistance first (history.take k)
  | none => false

/-- How many records in a row do so, counted back from the first `k`. -/
def improvements (first : α) (history : List (Record α)) (k : Nat) : Nat :=
  ((List.range k).reverse.takeWhile (improvesAt first history)).length

/-- No candidate was committed at a distance of zero, and no growth of the step was cut. -/
def GrowsFreely (ceiling first : α) (history : List (Record α)) : Prop :=
  ∀ k (hk : k < history.length), history[k].accepted = true →
    (history[k].distance == 0) = false ∧
      ¬ ceiling < history[k].step * history[k].coef * committedDistance first (history.take k) /
        history[k].distance

variable {first : α} {history : List (Record α)} {k : Nat}

theorem improvesAt_of_lt (hk : k < history.length) :
    improvesAt first history k = (history[k].accepted &&
      decide (history[k].distance ≤ committedDistance first (history.take k))) := by
  simp [improvesAt, hk]

theorem improvements_succ (first : α) (history : List (Record α)) (k : Nat) :
    improvements first history (k + 1) =
      if improvesAt first history k then improvements first history k + 1 else 0 := by
  rw [improvements, List.range_succ, List.reverse_concat, List.takeWhile_cons]
  split
  · rfl
  · rfl

end

/-! ### Iterations -/

/-- Where a search stands after the first `k` records: its step, its distance and its coefficient
are told by what the records say. -/
structure Progress.Balances (s d₀ q b : ℝ) (history : List (Record Exact)) (k : Nat)
    (p : Progress Exact) (h d : ℝ) (coefs : List ℝ) : Prop where
  step : p.step = .finite h
  distance : p.distance = .finite d
  coef : p.coef = .finite (q ^ improvements (.finite d₀) history k)
  column : ((history.take k).filter Record.accepted).map Record.coef = coefs.map .finite
  product : h * d = s * d₀ * coefs.prod / b ^ p.rejected

/-- A growth that is not cut is what the improvement of the distance earns. -/
theorem StepLaw.grow_of_uncut {law : StepLaw Exact} {h c d d' : ℝ} (hd' : d' ≠ 0)
    (uncut : ¬ law.ceiling < Exact.finite h * .finite c * .finite d / .finite d') :
    law.grow (.finite h) (.finite c) (.finite d) (.finite d') = .finite (h * c * d / d') := by
  rw [grow, Exact.finite_beq_zero hd', if_neg Bool.false_ne_true, Scalar.capped, if_neg uncut]
  exact Exact.finite_div_finite _ _ hd'

namespace Loop

variable {loop : Loop Exact} {calls : Nat} {p next : Progress Exact} {s d₀ q b h d : ℝ}
  {history : List (Record Exact)} {k : Nat} {coefs : List ℝ}

/-- The coefficient that an iteration ends with is the factor of the law as often as the records in
a row say. -/
theorem Step.coef_eq (hscale : loop.law.scale = .finite q) (hk : k < history.length)
    (hcommitted : p.distance = committedDistance (.finite d₀) (history.take k))
    (hcoef : p.coef = .finite (q ^ improvements (.finite d₀) history k))
    (hstep : loop.Step calls p next history[k]) :
    next.coef = .finite (q ^ improvements (.finite d₀) history (k + 1)) := by
  rw [improvements_succ, improvesAt_of_lt hk, ← hcommitted]
  generalize history[k] = record at hstep
  cases hstep with
  | accept candidate distance proposed measured commits =>
      change (if distance ≤ p.distance then loop.law.scale * p.coef else 1) = _
      rw [hscale, hcoef]
      by_cases hle : distance ≤ p.distance
      · simp [hle, pow_succ']
      · simp [hle, Exact.one_eq]
  | reject candidate distance proposed measured discards divides => simp [Exact.one_eq]

/-- An iteration keeps the balance, with the record that it leaves. -/
theorem Step.balances (hscale : loop.law.scale = .finite q)
    (hbackoff : loop.law.backoff = .finite b)
    (free : GrowsFreely loop.law.ceiling (.finite d₀) history) (hk : k < history.length)
    (hcommitted : p.distance = committedDistance (.finite d₀) (history.take k))
    (before : p.Balances s d₀ q b history k h d coefs) (hstep : loop.Step calls p next history[k]) :
    ∃ h' d' coefs', next.Balances s d₀ q b history (k + 1) h' d' coefs' := by
  have hcoef := hstep.coef_eq hscale hk hcommitted before.coef
  have htake := List.take_succ_eq_append_getElem hk
  generalize hrecord : history[k] = record at hstep htake
  cases hstep with
  | accept candidate distance proposed measured commits =>
      obtain ⟨d', rfl⟩ := Exact.isFinite_iff.1 (Bool.and_eq_true_iff.1 commits).2
      set c := q ^ improvements (.finite d₀) history (k + 1)
      have hcompound : loop.law.compound p.coef p.distance (.finite d') = .finite c := hcoef
      obtain ⟨hnonzero, huncut⟩ := free k hk (by rw [hrecord])
      simp only [hrecord, hcompound, ← hcommitted] at hnonzero huncut
      rw [before.step, before.distance] at huncut
      have hd' : d' ≠ 0 := of_decide_eq_false hnonzero
      refine ⟨h * c * d / d', d', coefs ++ [c], ?_, rfl, hcoef, ?_, ?_⟩
      · change loop.law.grow p.step (loop.law.compound p.coef p.distance (.finite d')) p.distance
          (.finite d') = _
        rw [hcompound, before.step, before.distance, StepLaw.grow_of_uncut hd' huncut]
      · simp [htake, before.column, hcompound]
      · -- What the step gains is what the distance loses, times the coefficient.
        calc h * c * d / d' * d' = h * d * c := by field_simp
          _ = s * d₀ * coefs.prod / b ^ p.rejected * c := by rw [before.product]
          _ = s * d₀ * (coefs ++ [c]).prod / b ^ p.rejected := by
            rw [List.prod_append, List.prod_singleton]
            ring
  | reject candidate distance proposed measured discards divides =>
      have hb : b ≠ 0 := by
        rw [hbackoff] at divides
        exact of_decide_eq_false divides
      refine ⟨h / b, d, coefs, ?_, before.distance, hcoef, ?_, ?_⟩
      · change p.step / loop.law.backoff = _
        rw [before.step, hbackoff, Exact.finite_div_finite _ _ hb]
      · simp [htake, before.column]
      · calc h / b * d = h * d / b := by ring
          _ = s * d₀ * coefs.prod / b ^ p.rejected / b := by rw [before.product]
          _ = s * d₀ * coefs.prod / b ^ (p.rejected + 1) := by rw [pow_succ, div_div]

/-- So does every search, up to any of its records. -/
theorem Path.balances {first last : Progress Exact} (hscale : loop.law.scale = .finite q)
    (hbackoff : loop.law.backoff = .finite b)
    (free : GrowsFreely loop.law.ceiling (.finite d₀) history)
    (start : first.Balances s d₀ q b history 0 s d₀ []) (hk : k ≤ history.length)
    (path : loop.Path calls first (history.take k) last) :
    ∃ h d coefs, last.Balances s d₀ q b history k h d coefs := by
  induction k generalizing last with
  | zero =>
      cases path
      exact ⟨s, d₀, [], start⟩
  | succ k ih =>
      rw [List.take_succ_eq_append_getElem hk] at path
      obtain ⟨p, before, -, hstep⟩ := path.of_concat
      obtain ⟨h, d, coefs, hp⟩ := ih (Nat.le_of_succ_le hk) before
      have hcommitted := before.distance_eq
      rw [start.distance] at hcommitted
      exact hstep.balances hscale hbackoff free hk hcommitted hp

end Loop

/-! ### Whole searches -/

variable {backend : Backend Exact} {problem : Problem Exact} {calls : Nat} {o : Outcome Exact}
  {s d₀ q b : ℝ}

/-- What a search that loops conserves, whoever its collaborators are, as long as nothing cuts the
growth of the step: the coefficient of a record counts the improvements in a row that end with it,
and the product of the last step and the last distance is that of the first ones, times the
coefficients of the committed records, divided once for each rejection. -/
theorem Backend.step_conserved (loops : (backend.loop? problem).isSome)
    (returns : (backend.run calls problem).result = .ok o) (hstep : problem.step = .finite s)
    (hscale : problem.scale = .finite q) (hbackoff : problem.backoff = .finite b)
    (hfirst : residualDistance problem.residual problem.start = .ok (.finite d₀))
    (free : GrowsFreely problem.stepMax (.finite d₀) (Result.ofOutcome problem o).history) :
    let result := Result.ofOutcome problem o
    (∀ k (hk : k < result.history.length), result.history[k].coef =
      .finite (q ^ improvements (.finite d₀) result.history (k + 1))) ∧
    ∃ (h d : ℝ) (coefs : List ℝ), result.finalStep = .finite h ∧ result.distance = .finite d ∧
      (result.history.filter Record.accepted).map Record.coef = coefs.map .finite ∧
      h * d = s * d₀ * coefs.prod / b ^ result.rejected := by
  obtain ⟨loop, hloop⟩ := Option.isSome_iff_exists.1 loops
  obtain ⟨distance, last, history, hdistance, path, -, -, rfl⟩ :=
    (run_result_eq_ok_iff_of_loop? hloop).1 returns
  have hlaw := law_of_loop? hloop
  have hscale' : loop.law.scale = .finite q := by rw [hlaw]; exact hscale
  have hbackoff' : loop.law.backoff = .finite b := by rw [hlaw]; exact hbackoff
  have hfree : GrowsFreely loop.law.ceiling (.finite d₀) history := by rw [hlaw]; exact free
  cases (initialDistance_eq_ok_iff.1 hdistance).1.symm.trans hfirst
  have start : (Progress.start problem.start problem.step (.finite d₀)).Balances s d₀ q b history 0
      s d₀ [] := by
    refine ⟨hstep, rfl, ?_, rfl, ?_⟩
    · exact congrArg Exact.finite (pow_zero q).symm
    · simp [Progress.start]
  refine ⟨fun k hk => ?_, ?_⟩
  · replace hk : k < history.length := hk
    obtain ⟨p, next, before, goes, hiterate, -⟩ := path.cut hk
    have hafter := before.concat goes hiterate
    rw [← List.take_succ_eq_append_getElem hk] at hafter
    obtain ⟨h, d, coefs, hbalances⟩ := hafter.balances hscale' hbackoff' hfree start hk
    exact hiterate.record_eq.2.2.trans hbalances.coef
  · have hall : history.take history.length = history := List.take_length
    obtain ⟨h, d, coefs, hbalances⟩ := Loop.Path.balances hscale' hbackoff' hfree start
      (Nat.le_refl _) (hall.symm ▸ path)
    refine ⟨h, d, coefs, hbalances.step, hbalances.distance, ?_, ?_⟩
    · exact hall ▸ hbalances.column
    · exact hbalances.product.trans (by rw [← zpow_natCast]; rfl)

noncomputable def detour : Nat → Tensor Exact
  | 0 => .vector [Scalar.infinity]
  | 1 => .vector [.finite 4]
  | _ => .vector [.finite 1e-10]

/-- A search that is led along them rejects once, makes things worse and then better. -/
theorem Backend.detour_returns :
    ∃ o, ((Backend.mk .pseudoTransient (.blind detour)).run 0
        (.identity .exact (.finite 2))).result = .ok o ∧
      (Result.ofOutcome (.identity .exact (.finite 2)) o).history.map Record.column =
        [(Scalar.infinity, false), (.finite 4, true), (.finite 1e-10, true)] := by
  have created := Problem.create_identity (c := Config.exact) .pseudoTransient rfl (.finite 2)
  obtain ⟨loop, h⟩ := exists_loop? ⟨.pseudoTransient, .blind detour⟩
    (.identity .exact (.finite 2)) (by decide) rfl
  have goes_iff (p : Progress Exact) :
      loop.continues p = true ↔ .finite 1e-12 ≤ p.step ∧ .finite 1e-9 < p.distance := by
    rw [Loop.continues_iff, stepMin_of_loop? h, tol_of_loop? h]
    rfl
  have hdivided : (1 : Exact) / .finite 10.0 = .finite (1 / 10.0) :=
    Exact.finite_div_finite _ _ (by norm_num)
  obtain ⟨d₁, first⟩ := rejects_blind (p := .start (.vector [.finite 2]) 1 (.finite 2)) created h
    rfl (rfl : detour (0 + 0) = .vector [Scalar.infinity]) rfl
    (candidateDistance_eq_ok_iff.2 ⟨_, Exact.residualDistance_infinity, rfl⟩) rfl
  let p₁ : Progress Exact := ⟨.vector [.finite 2], 1 / .finite 10.0, 1, .finite 2, 1, 0, 1⟩
  obtain ⟨d₂, second⟩ := commits_blind (p := p₁) (y := .vector [.finite 4]) created h rfl
    (rfl : detour (0 + 1) = _) rfl (Exact.candidateDistance_identity (by norm_num)) rfl
  let p₂ := loop.law.accept p₁.begun (.vector [.finite 4]) (.finite 4)
  obtain ⟨d₃, third⟩ := commits_blind (p := p₂) (y := .vector [.finite 1e-10]) created h rfl
    (rfl : detour (0 + 2) = _) rfl (Exact.candidateDistance_identity (by norm_num)) rfl
  have hp₂ : p₂.step = .finite (1 / 10.0 * 1 * 2 / 4) := by
    have hcompound : loop.law.compound 1 (.finite 2) (.finite 4) = .finite 1 :=
      if_neg (by norm_num : ¬ (4 : ℝ) ≤ 2)
    have huncut : ¬ loop.law.ceiling <
        Exact.finite (1 / 10.0) * .finite 1 * .finite 2 / .finite 4 := by
      rw [law_of_loop? h]
      exact Exact.not_infinity_lt _
    change loop.law.grow (1 / .finite 10.0) (loop.law.compound 1 (.finite 2) (.finite 4))
      (.finite 2) (.finite 4) = _
    rw [hcompound, hdivided, StepLaw.grow_of_uncut (by norm_num) huncut]
  refine ⟨_, (run_result_eq_ok_iff_of_loop? h).2 ⟨.finite 2, _, _,
    Exact.initialDistance_identity zero_le_two .exact,
    .step ?_ first (.step ?_ second (.step ?_ third (.stop _))),
    (by decide : 3 ≤ iterationBudget 100), .inr ?_, rfl⟩, rfl⟩
  · exact (goes_iff _).2 ⟨(by norm_num : (1e-12 : ℝ) ≤ 1), (by norm_num : (1e-9 : ℝ) < 2)⟩
  · refine (goes_iff p₁).2 ⟨?_, (by norm_num : (1e-9 : ℝ) < 2)⟩
    change _ ≤ 1 / Exact.finite 10.0
    rw [hdivided]
    exact (by norm_num : (1e-12 : ℝ) ≤ 1 / 10.0)
  · refine (goes_iff _).2 ⟨?_, (by norm_num : (1e-9 : ℝ) < 4)⟩
    rw [hp₂]
    exact (by norm_num : (1e-12 : ℝ) ≤ 1 / 10.0 * 1 * 2 / 4)
  · rw [← Bool.not_eq_true, goes_iff]
    exact fun hgo => absurd hgo.2 (by norm_num : ¬ (1e-9 : ℝ) < 1e-10)

theorem Backend.detour_conserved :
    ∃ o, ((Backend.mk .pseudoTransient (.blind detour)).run 0
        (.identity .exact (.finite 2))).result = .ok o ∧
      let result := Result.ofOutcome (.identity .exact (.finite 2)) o
      result.history.map Record.accepted = [false, true, true] ∧
      (∀ k (hk : k < result.history.length), result.history[k].coef =
        .finite (2.0 ^ improvements (.finite 2) result.history (k + 1))) ∧
      ∃ (h d : ℝ) (coefs : List ℝ), result.finalStep = .finite h ∧ result.distance = .finite d ∧
        (result.history.filter Record.accepted).map Record.coef = coefs.map .finite ∧
        h * d = 1 * 2 * coefs.prod / 10.0 ^ result.rejected := by
  obtain ⟨o, returns, hcolumns⟩ := detour_returns
  obtain ⟨loop, h⟩ := exists_loop? ⟨.pseudoTransient, .blind detour⟩
    (.identity .exact (.finite 2)) (by decide) rfl
  refine ⟨o, returns, ?_, step_conserved (Option.isSome_of_eq_some h) returns rfl rfl rfl
    (Exact.residualDistance_identity zero_le_two) fun k hk haccepted => ⟨?_, ?_⟩⟩
  · simpa [Record.column, Function.comp_def] using congrArg (List.map Prod.snd) hcolumns
  · have hmem := hcolumns ▸ List.mem_map_of_mem (f := Record.column) (List.getElem_mem hk)
    simp only [Record.column, List.mem_cons, Prod.mk.injEq, List.not_mem_nil, or_false] at hmem
    obtain ⟨-, hrejected⟩ | ⟨hdistance, -⟩ | ⟨hdistance, -⟩ := hmem
    · exact absurd haccepted (Bool.not_eq_true _ ▸ hrejected)
    · exact hdistance ▸ Exact.finite_beq_zero four_ne_zero
    · exact hdistance ▸ Exact.finite_beq_zero (by norm_num)
  · exact Exact.not_infinity_lt _

end Equilibrium
