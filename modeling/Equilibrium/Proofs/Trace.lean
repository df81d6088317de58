import Equilibrium.Trace

/-!
Traced computations taken apart.

A run is built from binds, so everything that is known of its result and of its notices is read off
one bind at a time. A result comes through a bind only if both halves have one, and the notices of
the second half follow those of the first. The calls to collaborators are picked out of the notices
together with their replies; lines of the log and messages to observers do not count among them.
How often a computation calls is counted in the same way, and the counts of two halves add up.
-/

namespace Equilibrium

theorem except_bind_eq_ok_iff {ε β γ : Type} {r : Except ε β} {f : β → Except ε γ} {c : γ} :
    (r >>= f) = .ok c ↔ ∃ b, r = .ok b ∧ f b = .ok c := by
  cases r with
  | ok b =>
      constructor
      · intro h
        exact ⟨b, rfl, h⟩
      · rintro ⟨b', hb, h⟩
        cases hb
        exact h
  | error e =>
      constructor
      · intro h
        cases h
      · rintro ⟨b, h, -⟩
        cases h

theorem except_bind_eq_error_iff {ε β γ : Type} {r : Except ε β} {f : β → Except ε γ} {e : ε} :
    (r >>= f) = .error e ↔ r = .error e ∨ ∃ b, r = .ok b ∧ f b = .error e := by
  cases r with
  | ok b =>
      constructor
      · intro h
        exact .inr ⟨b, rfl, h⟩
      · rintro (h | ⟨b', hb, h⟩)
        · cases h
        · cases hb
          exact h
  | error e' =>
      constructor
      · intro h
        cases h
        exact .inl rfl
      · rintro (h | ⟨b, h, -⟩)
        · cases h
          rfl
        · cases h

/-- A computation that is refused under a condition has a result only if the condition fails. -/
theorem except_guard_eq_ok_iff {ε β γ : Type} {c : Prop} [Decidable c] {e : ε}
    {f : β → Except ε γ} {r : Except ε γ} {x : γ} :
    (if c then throw e >>= f else r) = .ok x ↔ ¬ c ∧ r = .ok x := by
  by_cases hc : c
  · rw [if_pos hc]
    constructor
    · intro h
      cases h
    · rintro ⟨h, -⟩
      exact absurd hc h
  · rw [if_neg hc]
    exact ⟨fun h => ⟨hc, h⟩, And.right⟩

namespace Traced

variable {α β γ : Type}

theorem bind_assoc {δ : Type} (t : Traced α β) (f : β → Traced α γ) (g : γ → Traced α δ) :
    t >>= f >>= g = t >>= fun b => f b >>= g := by
  obtain ⟨ns, r⟩ := t
  cases r with
  | error fault => rfl
  | ok b =>
      cases hf : f b with
      | mk ns' r' =>
          cases r' with
          | error fault => simp [hf]
          | ok c => simp [hf]

theorem bind_result_eq_ok_iff {t : Traced α β} {f : β → Traced α γ} {c : γ} :
    (t >>= f).result = .ok c ↔ ∃ b, t.result = .ok b ∧ (f b).result = .ok c := by
  obtain ⟨ns, r⟩ := t
  cases r with
  | ok b => simp
  | error fault => simp

theorem bind_result_of_ok {t : Traced α β} {f : β → Traced α γ} {b : β}
    (h : t.result = .ok b) : (t >>= f).result = (f b).result := by
  obtain ⟨ns, r⟩ := t
  subst h
  rfl

theorem bind_result_of_error {t : Traced α β} {f : β → Traced α γ} {fault : Fault α}
    (h : t.result = .error fault) : (t >>= f).result = .error fault := by
  obtain ⟨ns, r⟩ := t
  subst h
  rfl

theorem bind_notices_of_error {t : Traced α β} {f : β → Traced α γ} {fault : Fault α}
    (h : t.result = .error fault) : (t >>= f).notices = t.notices := by
  obtain ⟨ns, r⟩ := t
  subst h
  rfl

theorem bind_notices_of_ok {t : Traced α β} {f : β → Traced α γ} {b : β}
    (h : t.result = .ok b) : (t >>= f).notices = t.notices ++ (f b).notices := by
  obtain ⟨ns, r⟩ := t
  subst h
  rfl

/-- Whatever comes of a bind, its notices begin with those of the first half. -/
theorem exists_bind_notices (t : Traced α β) (f : β → Traced α γ) :
    ∃ later, (t >>= f).notices = t.notices ++ later := by
  obtain ⟨ns, r⟩ := t
  cases r with
  | ok b => exact ⟨(f b).notices, rfl⟩
  | error fault => exact ⟨[], (List.append_nil ns).symm⟩

theorem bind_result (t : Traced α β) (f : β → Traced α γ) :
    (t >>= f).result = t.result >>= fun b => (f b).result := by
  obtain ⟨ns, r⟩ := t
  cases r with
  | ok b => rfl
  | error fault => rfl

theorem mem_bind_notices_iff {t : Traced α β} {f : β → Traced α γ} {n : Notice α} :
    n ∈ (t >>= f).notices ↔
      n ∈ t.notices ∨ ∃ b, t.result = .ok b ∧ n ∈ (f b).notices := by
  obtain ⟨ns, r⟩ := t
  cases r with
  | ok b => simp
  | error fault => simp

/-- What gives no notice of its own leaves the notices as they are. -/
theorem bind_notices_of_silent {t : Traced α β} {f : β → Traced α γ}
    (h : ∀ b, (f b).notices = []) : (t >>= f).notices = t.notices := by
  obtain ⟨ns, r⟩ := t
  cases r with
  | ok b => simp [h]
  | error fault => rfl

theorem guard_result_eq_ok_iff {c : Prop} [Decidable c] {fault : Fault α}
    {f : β → Traced α γ} {t : Traced α γ} {x : γ} :
    (if c then throw fault >>= f else t).result = .ok x ↔ ¬ c ∧ t.result = .ok x := by
  by_cases hc : c
  · rw [if_pos hc]
    constructor
    · intro h
      cases h
    · rintro ⟨h, -⟩
      exact absurd hc h
  · rw [if_neg hc]
    exact ⟨fun h => ⟨hc, h⟩, And.right⟩

@[simp] theorem throw_eq (fault : Fault α) : (throw fault : Traced α β) = ⟨[], .error fault⟩ := rfl

end Traced

/-! ### Exchanges with collaborators -/

variable {α : Type}

def innerExchanges (notices : List (Notice α)) : List (InnerCall α × InnerReply α) :=
  notices.filterMap fun
    | .inner call reply => some (call, reply)
    | _ => none

def flowExchanges (notices : List (Notice α)) : List (FlowCall α × FlowReply α) :=
  notices.filterMap fun
    | .flow call reply => some (call, reply)
    | _ => none

@[simp] theorem innerExchanges_nil : innerExchanges ([] : List (Notice α)) = [] := rfl

@[simp] theorem innerExchanges_append (ns ms : List (Notice α)) :
    innerExchanges (ns ++ ms) = innerExchanges ns ++ innerExchanges ms :=
  List.filterMap_append

@[simp] theorem flowExchanges_nil : flowExchanges ([] : List (Notice α)) = [] := rfl

@[simp] theorem flowExchanges_append (ns ms : List (Notice α)) :
    flowExchanges (ns ++ ms) = flowExchanges ns ++ flowExchanges ms :=
  List.filterMap_append

@[simp] theorem innerExchanges_ask (solver : InnerSolver α) (calls : Nat) (call : InnerCall α) :
    innerExchanges (solver.ask calls call).notices = [(call, solver.solve calls call)] := by
  simp [InnerSolver.ask, innerExchanges, List.filterMap_map]

@[simp] theorem flowExchanges_ask (integrator : Integrator α) (calls : Nat) (call : FlowCall α) :
    flowExchanges (integrator.ask calls call).notices =
      [(call, integrator.integrate calls call)] := by
  simp [Integrator.ask, flowExchanges, List.filterMap_map]

/-- What goes on without an exchange adds none. -/
theorem Traced.flowExchanges_bind {β γ : Type} {t : Traced α β} {f : β → Traced α γ}
    (hf : ∀ b, flowExchanges (f b).notices = []) :
    flowExchanges (t >>= f).notices = flowExchanges t.notices := by
  obtain ⟨ns, r⟩ := t
  cases r with
  | error fault => rfl
  | ok b => rw [bind_ok, flowExchanges_append, hf b, List.append_nil]

/-! ### Calls to observers -/

/-- What the observers of a solve are called for, mostly with the number of iterations completed so
far, the committed state and its distance. -/
inductive Hook (α : Type) where
  | iteration (k : Nat) (state : Tensor α) (distance : α)
  | accept (iterations : Int) (state : Tensor α) (distance : α)
  | failure (iterations : Int) (state : Tensor α) (distance : α)
  | success (iterations : Int) (state : Tensor α) (distance : α)
  /-- The interface is handed a failure that escapes the search. -/
  | escape (fault : Fault α)

def Notice.hook? : Notice α → Option (Hook α)
  | iterated k state distance => some (.iteration k state distance)
  | accepted k state distance => some (.accept k state distance)
  | failed k state distance => some (.failure k state distance)
  | succeeded k state distance => some (.success k state distance)
  | notified fault => some (.escape fault)
  | _ => none

def hooks (notices : List (Notice α)) : List (Hook α) := notices.filterMap Notice.hook?

@[simp] theorem hooks_nil : hooks ([] : List (Notice α)) = [] := rfl

@[simp] theorem hooks_append (ns ms : List (Notice α)) : hooks (ns ++ ms) = hooks ns ++ hooks ms :=
  List.filterMap_append

@[simp] theorem InnerSolver.hooks_ask (solver : InnerSolver α) (calls : Nat)
    (call : InnerCall α) : hooks (solver.ask calls call).notices = [] := by
  simp [ask, hooks, Notice.hook?]

@[simp] theorem Integrator.hooks_ask (integrator : Integrator α) (calls : Nat)
    (call : FlowCall α) : hooks (integrator.ask calls call).notices = [] := by
  simp [ask, hooks, Notice.hook?]

/-- What goes on without a call to observers adds none. -/
theorem Traced.hooks_bind {β γ : Type} {t : Traced α β} {f : β → Traced α γ}
    (hf : ∀ b, hooks (f b).notices = []) : hooks (t >>= f).notices = hooks t.notices := by
  obtain ⟨ns, r⟩ := t
  cases r with
  | error fault => rfl
  | ok b => rw [bind_ok, hooks_append, hf b, List.append_nil]

/-! ### Counted calls -/

@[simp] theorem callCount_append (ns ms : List (Notice α)) :
    callCount (ns ++ ms) = callCount ns + callCount ms :=
  List.countP_append

def Traced.CallsAtMost {β : Type} (n : Nat) (t : Traced α β) : Prop := callCount t.notices ≤ n

namespace Traced

variable {β γ : Type} {n m : Nat}

theorem CallsAtMost.bind {t : Traced α β} {f : β → Traced α γ} (ht : t.CallsAtMost n)
    (hf : ∀ b, (f b).CallsAtMost m) : (t >>= f).CallsAtMost (n + m) := by
  obtain ⟨ns, r⟩ := t
  cases r with
  | error fault => exact Nat.le_trans ht (Nat.le_add_right n m)
  | ok b =>
      rw [CallsAtMost, bind_ok, callCount_append]
      exact Nat.add_le_add ht (hf b)

theorem CallsAtMost.mono {t : Traced α β} (ht : t.CallsAtMost n) (h : n ≤ m) : t.CallsAtMost m :=
  Nat.le_trans ht h

/-- What goes on without a call adds none. -/
theorem CallsAtMost.bind_of_no_call {t : Traced α β} {f : β → Traced α γ} (ht : t.CallsAtMost n)
    (hf : ∀ b, (f b).CallsAtMost 0) : (t >>= f).CallsAtMost n :=
  ht.bind hf

/-- What begins without a call adds none. -/
theorem CallsAtMost.bind_after_no_call {t : Traced α β} {f : β → Traced α γ}
    (ht : t.CallsAtMost 0) (hf : ∀ b, (f b).CallsAtMost m) : (t >>= f).CallsAtMost m :=
  (ht.bind hf).mono (Nat.le_of_eq (Nat.zero_add m))

theorem callsAtMost_lift (r : Except (Fault α) β) : (lift r).CallsAtMost 0 := Nat.le_refl 0

theorem callsAtMost_pure (b : β) : (Pure.pure b : Traced α β).CallsAtMost 0 := Nat.le_refl 0

end Traced

theorem callCount_lines (lines : List (LogLine α)) : callCount (lines.map Notice.line) = 0 := by
  simp [callCount, List.countP_map, Function.comp_def, Notice.isCall]

theorem InnerSolver.callsAtMost_ask (solver : InnerSolver α) (calls : Nat) (call : InnerCall α) :
    (solver.ask calls call).CallsAtMost 1 := by
  rw [Traced.CallsAtMost, ask]
  change callCount ([_] ++ _) ≤ 1
  rw [callCount_append, callCount_lines]
  exact Nat.le_refl 1

theorem Integrator.callsAtMost_ask (integrator : Integrator α) (calls : Nat) (call : FlowCall α) :
    (integrator.ask calls call).CallsAtMost 1 := by
  rw [Traced.CallsAtMost, ask]
  change callCount ([_] ++ _) ≤ 1
  rw [callCount_append, callCount_lines]
  exact Nat.le_refl 1

end Equilibrium
