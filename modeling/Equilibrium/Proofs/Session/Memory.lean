import Equilibrium.Proofs.Search.Identity
import Equilibrium.Proofs.Session

/-!
What a session remembers.

A session keeps three things from one call to the next: its configuration, the result of the last
solve that came to an end and, in its interface, the configuration of the last problem that was
made. A solve stores them one after the other, on its way through merging, making a problem and
searching, and what is stored before it fails stays stored. So each of the three is told by a list
of its own, taken from the history of the calls: the overrides that were merged to be kept, the
configurations for which a problem was made, and the results that were returned.
-/

namespace Equilibrium

variable {α : Type} [Scalar α]

namespace Session

/-! ### Calls -/

inductive Call (α : Type) where
  | update (o : Overrides α)
  | solve (r : Request α) (o : Overrides α) (keep : Bool)

def perform (s : Session α) : Call α → Session α
  | .update o => (s.update o).1
  | .solve r o keep => (s.solve r o keep).1

def Raises (s : Session α) : Call α → Prop
  | .update o => ∃ fault, (s.update o).2 = .error fault
  | .solve r o keep => ∃ fault, (s.solve r o keep).2.result = .error fault

/-- The overrides that a call merges into the stored configuration, whatever becomes of it. -/
def kept? (s : Session α) : Call α → Option (Overrides α)
  | .update o => (s.config.merge o).toOption.map fun _ => o
  | .solve _ o true => (s.effective o).toOption.map fun _ => o
  | .solve _ _ false => none

/-- The configuration for which a call makes a problem, whatever becomes of the search. -/
def made? (s : Session α) : Call α → Option (Config α)
  | .update _ => none
  | .solve r o _ => do
    let c ← (s.effective o).toOption
    (Problem.create s.interface.strategy c r).toOption.map fun _ => c

def result? (s : Session α) : Call α → Option (Result α)
  | .update _ => none
  | .solve r o keep => (s.solve r o keep).2.result.toOption

/-! ### One call -/

variable {s : Session α} {c : Config α} {o : Overrides α} {call : Call α}

/-- A search stores its result, if it has one, and nothing else of what is remembered. -/
theorem run_fst (s : Session α) (problem : Problem α) :
    (s.run problem).1 = { s with
      interface := s.interface.bind
      results := (s.run problem).2.result.toOption.or s.results
      calls := s.calls + callCount (s.run problem).2.notices } := by
  unfold run Engine.solve
  simp only [engine]
  split
  · next h => simp [h, Except.toOption]
  · next h => simp [h, Except.toOption]

theorem solveWith_config (s : Session α) (c : Config α) (r : Request α) :
    (s.solveWith c r).1.config = s.config := by
  unfold solveWith Interface.create
  cases Problem.create s.interface.strategy c r with
  | error fault => rfl
  | ok problem => exact congrArg (·.config) (run_fst _ problem)

theorem solveWith_results (s : Session α) (c : Config α) (r : Request α) :
    (s.solveWith c r).1.results = (s.solveWith c r).2.result.toOption.or s.results := by
  unfold solveWith Interface.create
  cases Problem.create s.interface.strategy c r with
  | error fault => rfl
  | ok problem => exact congrArg (·.results) (run_fst _ problem)

theorem solveWith_current (s : Session α) (c : Config α) (r : Request α) :
    (s.solveWith c r).1.interface.current =
      ((Problem.create s.interface.strategy c r).toOption.map fun _ => c).or
        s.interface.current := by
  unfold solveWith Interface.create
  cases Problem.create s.interface.strategy c r with
  | error fault => rfl
  | ok problem => exact congrArg (·.interface.current) (run_fst _ problem)

/-- Overrides that a solve can take can be merged. -/
theorem merge_of_effective (h : s.effective o = .ok c) : s.config.merge o = .ok c := by
  unfold effective at h
  split at h
  · cases h
  · exact h

/-- The stored configuration is the old one with what the call keeps merged into it. -/
theorem merge_of_kept (h : s.kept? call = some o) :
    s.config.merge o = .ok (s.perform call).config := by
  cases call with
  | update o' =>
      cases hmerge : s.config.merge o' with
      | error fault => simp [kept?, hmerge, Except.toOption] at h
      | ok c =>
          obtain rfl : o' = o := by simpa [kept?, hmerge, Except.toOption] using h
          simp [perform, update, hmerge]
  | solve r o' keep =>
      cases keep with
      | false => cases h
      | true =>
          cases heffective : s.effective o' with
          | error fault => simp [kept?, heffective, Except.toOption] at h
          | ok c =>
              obtain rfl : o' = o := by simpa [kept?, heffective, Except.toOption] using h
              rw [perform, solve_of_ok heffective, solveWith_config]
              exact merge_of_effective heffective

theorem config_of_kept_eq_none (h : s.kept? call = none) : (s.perform call).config = s.config := by
  cases call with
  | update o =>
      cases hmerge : s.config.merge o with
      | error fault => simp [perform, update, hmerge]
      | ok c => simp [kept?, hmerge, Except.toOption] at h
  | solve r o keep =>
      cases heffective : s.effective o with
      | error fault => rw [perform, solve_of_error heffective]
      | ok c =>
          cases keep with
          | false =>
              rw [perform, solve_of_ok heffective, solveWith_config]
              rfl
          | true => simp [kept?, heffective, Except.toOption] at h

theorem perform_results (s : Session α) (call : Call α) :
    (s.perform call).results = (s.result? call).or s.results := by
  cases call with
  | update o =>
      cases hmerge : s.config.merge o with
      | error fault => simp [perform, result?, update, hmerge]
      | ok c => simp [perform, result?, update, hmerge]
  | solve r o keep =>
      cases heffective : s.effective o with
      | error fault =>
          rw [perform, result?, solve_of_error heffective]
          rfl
      | ok c =>
          rw [perform, result?, solve_of_ok heffective, solveWith_results]
          cases keep with
          | false => rfl
          | true => rfl

theorem result?_of_raises (h : s.Raises call) : s.result? call = none := by
  cases call with
  | update o => rfl
  | solve r o keep =>
      obtain ⟨fault, hfault⟩ := h
      rw [result?, hfault]
      rfl

theorem perform_current (s : Session α) (call : Call α) :
    (s.perform call).interface.current = (s.made? call).or s.interface.current := by
  cases call with
  | update o =>
      cases hmerge : s.config.merge o with
      | error fault => simp [perform, made?, update, hmerge]
      | ok c => simp [perform, made?, update, hmerge]
  | solve r o keep =>
      cases heffective : s.effective o with
      | error fault =>
          rw [perform, made?, solve_of_error heffective, heffective]
          rfl
      | ok c =>
          rw [perform, made?, solve_of_ok heffective, solveWith_current, heffective]
          cases keep with
          | false => rfl
          | true => rfl

/-! ### Many calls -/

structure Turn (α : Type) [Scalar α] where
  session : Session α
  call : Call α

def after (s : Session α) (calls : List (Call α)) : Session α := calls.foldl perform s

def turns (s : Session α) : List (Call α) → List (Turn α)
  | [] => []
  | call :: calls => ⟨s, call⟩ :: turns (s.perform call) calls

/-- What each call replaces or leaves alone is in the end what the last call that replaced it has
left. -/
theorem stored_after {β : Type} (stored : Session α → Option β)
    (told? : Session α → Call α → Option β)
    (h : ∀ s call, stored (s.perform call) = (told? s call).or (stored s)) (s : Session α)
    (calls : List (Call α)) :
    stored (s.after calls) =
      ((s.turns calls).filterMap fun t => told? t.session t.call).getLast?.or (stored s) := by
  induction calls generalizing s with
  | nil => rfl
  | cons call calls ih =>
      have hrest : stored (s.after (call :: calls)) = _ := ih (s.perform call)
      rw [hrest, h, turns, List.filterMap_cons]
      cases htold : told? s call with
      | none => rfl
      | some value =>
          simp only [List.getLast?_cons]
          cases (((s.perform call).turns calls).filterMap
            fun t => told? t.session t.call).getLast? with
          | none => rfl
          | some later => rfl

theorem config_after (s : Session α) (calls : List (Call α)) :
    ((s.turns calls).filterMap fun t => t.session.kept? t.call).foldlM Config.merge s.config =
      (.ok (s.after calls).config : Except (Fault α) (Config α)) := by
  induction calls generalizing s with
  | nil => rfl
  | cons call calls ih =>
      have hrest := ih (s.perform call)
      rw [turns, List.filterMap_cons]
      cases hkept : s.kept? call with
      | none =>
          rw [config_of_kept_eq_none hkept] at hrest
          exact hrest
      | some o =>
          rw [List.foldlM_cons, merge_of_kept hkept]
          exact hrest

/-- What a session remembers of some calls. -/
structure Remembers (s : Session α) (calls : List (Call α)) : Prop where
  valid : (s.after calls).config.settings.fault? = none
  config :
    ((s.turns calls).filterMap fun t => t.session.kept? t.call).foldlM Config.merge s.config =
      (.ok (s.after calls).config : Except (Fault α) (Config α))
  results : (s.after calls).results =
    ((s.turns calls).filterMap fun t => t.session.result? t.call).getLast?
  current : (s.after calls).interface.current =
    ((s.turns calls).filterMap fun t => t.session.made? t.call).getLast?.or s.interface.current
  passing : ∀ t ∈ s.turns calls, ∀ r o, t.call = .solve r o false →
    (t.session.perform t.call).config = t.session.config
  /-- A call that fails has stored nothing but what was kept and made before. -/
  raising : ∀ t ∈ s.turns calls, t.session.Raises t.call →
    (t.session.perform t.call).results = t.session.results ∧
    (t.session.kept? t.call = none → (t.session.perform t.call).config = t.session.config) ∧
    (t.session.made? t.call = none →
      (t.session.perform t.call).interface.current = t.session.interface.current)

/-- A session that has been opened remembers its calls, whatever they ask and whichever of them
fail. -/
theorem remembers_of_openWith {i : Interface α} {tools : Toolbox α} {opening : Opening α}
    {s : Session α} (opened : openWith i tools opening = .ok s) (calls : List (Call α)) :
    opening.config? = .ok s.config ∧ s.interface.current = i.current ∧ s.Remembers calls := by
  obtain ⟨config, hconfig, h⟩ := except_bind_eq_ok_iff.1 opened
  cases h
  refine ⟨hconfig, rfl, ?_⟩
  constructor
  case valid => exact (after _ calls).config.valid
  case config => exact config_after _ calls
  case results =>
    rw [stored_after results result? perform_results]
    exact Option.or_none
  case current => exact stored_after (·.interface.current) made? perform_current _ calls
  case passing =>
    rintro t - r o hcall
    rw [hcall]
    exact config_of_kept_eq_none rfl
  case raising =>
    intro t _ hraises
    refine ⟨?_, config_of_kept_eq_none, fun hmade => ?_⟩
    · rw [perform_results, result?_of_raises hraises]
      rfl
    · rw [perform_current, hmade]
      rfl

def Call.trial : List (Call Float) := [
  .update { tol := some 1e-6 },
  .update { backoff := some 0.5 },
  .solve (.identity 1) { scale := some 3 } false,
  .solve { Request.identity 1 with residual := .absent } { step := some 2 } true,
  .solve (.identity Scalar.undefined) { innerTol := some 1e-3 } true]

theorem trial_remembers :
    ∃ s, openWith (.ofStrategy .pseudoTransient) .trial (.config .double) = .ok s ∧
      (s.turns Call.trial).map (fun t => (t.session.kept? t.call).isSome) =
        [true, false, false, true, true] ∧
      (s.turns Call.trial).map (fun t => (t.session.made? t.call).isSome) =
        [false, false, true, false, true] ∧
      (s.turns Call.trial).map (fun t => (t.session.result? t.call).isSome) =
        [false, false, true, false, false] ∧
      (Opening.config Config.double).config? = .ok s.config ∧ s.interface.current = none ∧
      s.Remembers Call.trial := by
  have opened : openWith (.ofStrategy .pseudoTransient) .trial (.config .double) = .ok
      ⟨Config.double, ⟨.pseudoTransient, .trial⟩, (Interface.ofStrategy .pseudoTransient).bind,
        none, 0⟩ := rfl
  refine ⟨_, opened, ?_, ?_, ?_, remembers_of_openWith opened Call.trial⟩
  · decide +kernel
  · decide +kernel
  · decide +kernel

end Session

end Equilibrium
