import Equilibrium.Flow.Event
import Equilibrium.Proofs.Scalar.Spacing
import Mathlib.Data.Nat.Count

/-!
What a step budget answers.

A budget is asked about times in an order that somebody else chooses, with repetitions and steps
back. What it counts are advances, the times that are later than every time before them: as long as
there were fewer advances than steps are allowed, it answers with the difference, at the last of
them with zero, and from then on with how far back that one lies. An integration asks at the start
and at the end of each of its steps, which are advances, and so it sees the sign change in the last
step that is allowed, with the root at the end of that step.
-/

namespace Equilibrium

variable {α : Type} [Scalar α]

/-! ### Advances -/

/-- The time at a place of a list is later than all before it. The first time is no advance. -/
def IsAdvance (times : List α) (k : Nat) : Prop :=
  0 < k ∧ ∃ h : k < times.length, ∀ s ∈ times.take k, s < times[k]

instance (times : List α) : DecidablePred (IsAdvance times) := fun k =>
  inferInstanceAs (Decidable (0 < k ∧ ∃ h : k < times.length, ∀ s ∈ times.take k, s < times[k]))

/-- How many advances there are up to a place of a list, with that place. -/
def advanceCount (times : List α) (k : Nat) : Nat :=
  Nat.count (IsAdvance times) (k + 1)

theorem isAdvance_iff {times : List α} {k : Nat} {t : α} (ht : times[k]? = some t) :
    IsAdvance times k ↔ 0 < k ∧ ∀ s ∈ times.take k, s < t := by
  obtain ⟨hk, rfl⟩ := List.getElem?_eq_some_iff.1 ht
  exact and_congr_right fun _ => exists_prop_of_true hk

@[simp] theorem advanceCount_zero (times : List α) : advanceCount times 0 = 0 := by
  rw [advanceCount, Nat.count_succ, Nat.count_zero, if_neg fun h => absurd h.1 (Nat.lt_irrefl 0)]

theorem advanceCount_succ (times : List α) (k : Nat) :
    advanceCount times (k + 1) = advanceCount times k + if IsAdvance times (k + 1) then 1 else 0 :=
  Nat.count_succ _ _

theorem advanceCount_of_isAdvance {times : List α} {k : Nat} (h : IsAdvance times (k + 1)) :
    advanceCount times (k + 1) = advanceCount times k + 1 := by
  rw [advanceCount_succ, if_pos h]

theorem advanceCount_of_not_isAdvance {times : List α} {k : Nat} (h : ¬ IsAdvance times (k + 1)) :
    advanceCount times (k + 1) = advanceCount times k := by
  rw [advanceCount_succ, if_neg h, Nat.add_zero]

/-- Where the times begin with a strictly ascending list, each of them but the first is an
advance. -/
theorem isAdvance_of_ascending {nodes : List α} (probes : List α) (h : nodes.Pairwise (· < ·))
    {k : Nat} (hpos : 0 < k) (hk : k < nodes.length) : IsAdvance (nodes ++ probes) k := by
  have ht : (nodes ++ probes)[k]? = some nodes[k] := by
    rw [List.getElem?_append_left hk, List.getElem?_eq_getElem hk]
  refine (isAdvance_iff ht).2 ⟨hpos, fun s hs => ?_⟩
  rw [List.take_append_of_le_length hk.le] at hs
  obtain ⟨i, hi, rfl⟩ := List.mem_take_iff_getElem.1 hs
  exact List.pairwise_iff_getElem.1 h i k (by omega) hk (by omega)

theorem advanceCount_of_ascending {nodes : List α} (probes : List α) (h : nodes.Pairwise (· < ·))
    {k : Nat} (hk : k < nodes.length) : advanceCount (nodes ++ probes) k = k := by
  induction k with
  | zero => exact advanceCount_zero _
  | succ k ih =>
      rw [advanceCount_of_isAdvance (isAdvance_of_ascending probes h k.succ_pos hk), ih (by omega)]

namespace StepBudget

/-! ### The state between two questions -/

def fresh (limit : Nat) : StepBudget α := ⟨limit, none, 0, none⟩

def after (budget : StepBudget α) (times : List α) : StepBudget α :=
  times.foldl (fun budget t => (budget.observe t).1) budget

theorem after_append (budget : StepBudget α) (times more : List α) :
    budget.after (times ++ more) = (budget.after times).after more :=
  List.foldl_append ..

theorem after_take_succ (budget : StepBudget α) {times : List α} {k : Nat} {t : α}
    (ht : times[k]? = some t) :
    budget.after (times.take (k + 1)) = ((budget.after (times.take k)).observe t).1 := by
  rw [List.take_add_one, ht, after_append]
  rfl

theorem getElem?_observeAll (budget : StepBudget α) {times : List α} {k : Nat} {t : α}
    (ht : times[k]? = some t) :
    (budget.observeAll times)[k]? = some ((budget.after (times.take k)).observe t).2 := by
  induction times generalizing budget k with
  | nil => cases ht
  | cons u times ih =>
      cases k with
      | zero =>
          cases ht
          rfl
      | succ k => exact ih _ ht

@[simp] theorem length_observeAll (budget : StepBudget α) (times : List α) :
    (budget.observeAll times).length = times.length := by
  induction times generalizing budget with
  | nil => rfl
  | cons t times ih => exact congrArg Nat.succ (ih _)

/-! ### One question -/

def advanced (budget : StepBudget α) (t : α) : StepBudget α :=
  { budget with latest := some t, taken := budget.taken + 1 }

/-- A budget that has run out stays as it is. -/
theorem observe_of_stop {budget : StepBudget α} {T : α} (h : budget.stop = some T) (t : α) :
    budget.observe t = (budget, T - t) := by
  unfold observe
  rw [h]

theorem after_of_stop {budget : StepBudget α} {T : α} (h : budget.stop = some T)
    (times : List α) : budget.after times = budget := by
  induction times with
  | nil => rfl
  | cons t times ih =>
      show (budget.observe t).1.after times = budget
      rw [observe_of_stop h]
      exact ih

theorem observe_of_not_lt {budget : StepBudget α} {latest t : α} (hstop : budget.stop = none)
    (hlatest : budget.latest = some latest) (h : ¬ latest < t) :
    budget.observe t = (budget, budget.remaining) := by
  simp only [observe, hstop, hlatest, if_neg h]

theorem observe_of_lt {budget : StepBudget α} {latest t : α} (hstop : budget.stop = none)
    (hlatest : budget.latest = some latest) (h : latest < t)
    (hleft : budget.taken + 1 < budget.limit) :
    budget.observe t = (budget.advanced t, (budget.advanced t).remaining) := by
  simp only [observe, advanced, hstop, hlatest, if_pos h, if_neg hleft.not_ge]

theorem observe_of_spent {budget : StepBudget α} {latest t : α} (hstop : budget.stop = none)
    (hlatest : budget.latest = some latest) (h : latest < t)
    (hspent : budget.limit ≤ budget.taken + 1) :
    budget.observe t = ({ budget.advanced t with stop := some t }, 0) := by
  simp only [observe, advanced, hstop, hlatest, if_pos h, if_pos hspent]

/-! ### Counting -/

/-- What a budget with steps left remembers of the times up to a place: how many advances there were
and which time is the latest. -/
structure Counting (limit : Nat) (times : List α) (k : Nat) (budget : StepBudget α) : Prop where
  limit : budget.limit = limit
  stop : budget.stop = none
  taken : budget.taken = advanceCount times k
  latest : ∃ t ∈ times.take (k + 1), budget.latest = some t ∧ ∀ s ∈ times.take (k + 1), s ≤ t

variable {limit : Nat} {times : List α} {k : Nat} {budget : StepBudget α}

omit [Scalar α] in
theorem mem_take_succ {s t : α} (ht : times[k]? = some t) :
    s ∈ times.take (k + 1) ↔ s ∈ times.take k ∨ s = t := by
  rw [List.take_add_one, ht, List.mem_append, Option.toList_some, List.mem_singleton]

namespace Counting

theorem remaining_eq (h : Counting limit times k budget) :
    budget.remaining = Scalar.ofNat (limit - advanceCount times k) := by
  rw [remaining, h.limit, h.taken]

/-- A further time is an advance exactly if it is later than the latest so far. -/
theorem exists_latest [Scalar.Transitive α] (h : Counting limit times k budget) {t : α}
    (ht : times[k + 1]? = some t) :
    ∃ latest ∈ times.take (k + 1), budget.latest = some latest ∧
      (∀ s ∈ times.take (k + 1), s ≤ latest) ∧ (IsAdvance times (k + 1) ↔ latest < t) := by
  obtain ⟨latest, hmem, hlatest, hmax⟩ := h.latest
  refine ⟨latest, hmem, hlatest, hmax, ?_⟩
  rw [isAdvance_iff ht]
  constructor
  · rintro ⟨-, hall⟩
    exact hall latest hmem
  · intro hlt
    exact ⟨k.succ_pos, fun s hs => Scalar.Transitive.lt_of_le_of_lt (hmax s hs) hlt⟩

/-- The last allowed advance exhausts the budget. -/
theorem observe_last [Scalar.Transitive α] (h : Counting limit times k budget) {t : α}
    (ht : times[k + 1]? = some t) (hadvance : IsAdvance times (k + 1))
    (hlast : advanceCount times (k + 1) = limit) :
    (budget.observe t).1.stop = some t ∧ (budget.observe t).2 = 0 := by
  obtain ⟨latest, -, hlatest, -, hiff⟩ := h.exists_latest ht
  have hspent : budget.limit ≤ budget.taken + 1 := by
    rw [h.limit, h.taken, ← hlast, advanceCount_of_isAdvance hadvance]
  rw [observe_of_spent h.stop hlatest (hiff.1 hadvance) hspent]
  exact ⟨rfl, rfl⟩

variable [Scalar.Ordered α] [Scalar.Spaced α]

/-- The first time begins the count. -/
theorem first (limit : Nat) {t : α} (ht : times[0]? = some t) (hfinite : Scalar.isFinite t = true) :
    Counting limit times 0 ((fresh limit).observe t).1 := by
  refine ⟨rfl, rfl, (advanceCount_zero times).symm, t, ?_, rfl, fun s hs => ?_⟩
  · exact (mem_take_succ ht).2 (.inr rfl)
  · rcases (mem_take_succ ht).1 hs with hs | rfl
    · cases hs
    · exact Scalar.le_self (Scalar.isNaN_of_isFinite hfinite)

/-- An advance becomes the latest time. -/
theorem advance [Scalar.Transitive α] (h : Counting limit times k budget) {t : α}
    (ht : times[k + 1]? = some t) (hfinite : Scalar.isFinite t = true)
    (hadvance : IsAdvance times (k + 1)) :
    Counting limit times (k + 1) (budget.advanced t) := by
  obtain ⟨latest, -, -, hmax, hiff⟩ := h.exists_latest ht
  refine ⟨h.limit, h.stop, ?_, t, (mem_take_succ ht).2 (.inr rfl), rfl, fun s hs => ?_⟩
  · rw [advanceCount_of_isAdvance hadvance, ← h.taken]
    rfl
  · rcases (mem_take_succ ht).1 hs with hs | rfl
    · exact Scalar.Transitive.le_trans (hmax s hs) (Scalar.Spaced.le_of_lt (hiff.1 hadvance))
    · exact Scalar.le_self (Scalar.isNaN_of_isFinite hfinite)

omit [Scalar.Spaced α] in
/-- Any other time leaves everything as it is. -/
theorem stay [Scalar.Transitive α] (h : Counting limit times k budget) {t : α}
    (ht : times[k + 1]? = some t) (hfinite : ∀ t ∈ times, Scalar.isFinite t = true)
    (hadvance : ¬ IsAdvance times (k + 1)) : Counting limit times (k + 1) budget := by
  obtain ⟨latest, hmem, hlatest, hmax, hiff⟩ := h.exists_latest ht
  have hle : t ≤ latest :=
    Scalar.Ordered.le_of_not_lt
      (Scalar.isNaN_of_isFinite (hfinite latest (List.mem_of_mem_take hmem)))
      (Scalar.isNaN_of_isFinite (hfinite t (List.mem_of_getElem? ht)))
      fun hlt => hadvance (hiff.2 hlt)
  refine ⟨h.limit, h.stop, ?_, latest, (mem_take_succ ht).2 (.inl hmem), hlatest, fun s hs => ?_⟩
  · rw [advanceCount_of_not_isAdvance hadvance, ← h.taken]
  · rcases (mem_take_succ ht).1 hs with hs | rfl
    · exact hmax s hs
    · exact hle

/-- While steps are left the count goes on, and the answer is the number of steps left. -/
theorem observe [Scalar.Transitive α] (h : Counting limit times k budget) {t : α}
    (ht : times[k + 1]? = some t) (hfinite : ∀ t ∈ times, Scalar.isFinite t = true)
    (hleft : advanceCount times (k + 1) < limit) :
    Counting limit times (k + 1) (budget.observe t).1 ∧
      (budget.observe t).2 = Scalar.ofNat (limit - advanceCount times (k + 1)) := by
  obtain ⟨latest, -, hlatest, -, hiff⟩ := h.exists_latest ht
  by_cases hadvance : IsAdvance times (k + 1)
  · have hsteps : budget.taken + 1 < budget.limit := by
      rw [h.limit, h.taken, ← advanceCount_of_isAdvance hadvance]
      exact hleft
    have hnext := h.advance ht (hfinite t (List.mem_of_getElem? ht)) hadvance
    rw [observe_of_lt h.stop hlatest (hiff.1 hadvance) hsteps]
    exact ⟨hnext, hnext.remaining_eq⟩
  · have hnext := h.stay ht hfinite hadvance
    rw [observe_of_not_lt h.stop hlatest fun hlt => hadvance (hiff.2 hlt)]
    exact ⟨hnext, hnext.remaining_eq⟩

end Counting

/-! ### All questions -/

variable [Scalar.Ordered α] [Scalar.Transitive α] [Scalar.Spaced α]

/-- As long as steps are left the budget counts, by induction on the place in the list. -/
theorem counting_after (hfinite : ∀ t ∈ times, Scalar.isFinite t = true) (hk : k < times.length)
    (hleft : advanceCount times k < limit) :
    Counting limit times k ((fresh limit).after (times.take (k + 1))) := by
  induction k with
  | zero =>
      have ht : times[0]? = some times[0] := List.getElem?_eq_getElem hk
      rw [after_take_succ _ ht]
      exact .first limit ht (hfinite _ (List.getElem_mem hk))
  | succ k ih =>
      have ht : times[k + 1]? = some times[k + 1] := List.getElem?_eq_getElem hk
      rw [after_take_succ _ ht]
      have hbefore : advanceCount times k < limit := by
        have := advanceCount_succ times k
        omega
      exact ((ih (by omega) hbefore).observe ht hfinite hleft).1

/-- Until the last allowed advance the answer is the number of steps left. -/
theorem answer_left (hfinite : ∀ t ∈ times, Scalar.isFinite t = true) (hk : k < times.length)
    (hleft : advanceCount times k < limit) :
    ((fresh limit).observeAll times)[k]? =
      some (Scalar.ofNat (limit - advanceCount times k)) := by
  have ht : times[k]? = some times[k] := List.getElem?_eq_getElem hk
  rw [getElem?_observeAll _ ht]
  cases k with
  | zero =>
      rw [advanceCount_zero]
      rfl
  | succ k =>
      have hbefore : advanceCount times k < limit := by
        have := advanceCount_succ times k
        omega
      have hcounting := counting_after hfinite (Nat.lt_of_succ_lt hk) hbefore
      rw [(hcounting.observe ht hfinite hleft).2]

/-- At the last allowed advance the answer is zero, and the budget remembers the time. -/
theorem answer_last (hfinite : ∀ t ∈ times, Scalar.isFinite t = true) {T : α}
    (hT : times[k]? = some T) (hadvance : IsAdvance times k)
    (hlast : advanceCount times k = limit) :
    ((fresh limit).observeAll times)[k]? = some 0 ∧
      ((fresh limit).after (times.take (k + 1))).stop = some T := by
  obtain ⟨k, rfl⟩ := Nat.exists_eq_succ_of_ne_zero hadvance.1.ne'
  have hk : k + 1 < times.length := (List.getElem?_eq_some_iff.1 hT).1
  have hbefore : advanceCount times k < limit := by
    rw [← hlast, advanceCount_of_isAdvance hadvance]
    exact Nat.lt_succ_self _
  have hcounting := counting_after hfinite (Nat.lt_of_succ_lt hk) hbefore
  obtain ⟨hstop, hzero⟩ := hcounting.observe_last hT hadvance hlast
  refine ⟨?_, ?_⟩
  · rw [getElem?_observeAll _ hT, hzero]
  · rw [after_take_succ _ hT]
    exact hstop

/-- From then on it is how far back that time lies. -/
theorem answer_later (hfinite : ∀ t ∈ times, Scalar.isFinite t = true) {j : Nat} {t T : α}
    (hT : times[j]? = some T) (hadvance : IsAdvance times j) (hlast : advanceCount times j = limit)
    (hk : j < k) (ht : times[k]? = some t) :
    ((fresh limit).observeAll times)[k]? = some (T - t) := by
  obtain ⟨-, hstop⟩ := answer_last hfinite hT hadvance hlast
  obtain ⟨rest, hrest⟩ : times.take (j + 1) <+: times.take k := List.take_prefix_take_left hk
  rw [getElem?_observeAll _ ht, ← hrest, after_append, after_of_stop hstop, observe_of_stop hstop]

/-! ### The answers -/

structure CountsDown (limit : Nat) (times values : List α) : Prop where
  length : values.length = times.length
  left : ∀ k < times.length, advanceCount times k < limit →
    1 ≤ limit - advanceCount times k ∧
      values[k]? = some (Scalar.ofNat (limit - advanceCount times k))
  /-- The last allowed advance is answered with zero, what is asked later with how far back it
  lies. -/
  spent : ∀ j T, times[j]? = some T → IsAdvance times j → advanceCount times j = limit →
    values[j]? = some 0 ∧ ∀ k t, j < k → times[k]? = some t → values[k]? = some (T - t)

theorem countsDown (limit : Nat) (hfinite : ∀ t ∈ times, Scalar.isFinite t = true) :
    CountsDown limit times ((fresh limit).observeAll times) where
  length := length_observeAll _ _
  left _ hk hleft := ⟨by omega, answer_left hfinite hk hleft⟩
  spent _ _ hT hadvance hlast :=
    ⟨(answer_last hfinite hT hadvance hlast).1,
      fun _ _ hk ht => answer_later hfinite hT hadvance hlast hk ht⟩

/-! ### Integrations -/

/-- What an integration sees of a budget that it asks at its start and at the end of each of its
steps, and then, after a sign change, about whatever times it likes. -/
structure StopsAfter (limit : Nat) (nodes probes values : List α) : Prop where
  crossed : ∀ k before after, k < limit → k + 1 < nodes.length → values[k]? = some before →
    values[k + 1]? = some after →
      (EventRule.stopping.crossed before after = true ↔ k + 1 = limit)
  /-- The event is zero at the end of the last allowed step, and above zero before. -/
  root : ∀ stop, nodes.length = limit + 1 → nodes[limit]? = some stop →
    values[limit]? = some 0 ∧ ∀ (i : Nat) t, probes[i]? = some t →
      ∃ value, values[limit + 1 + i]? = some value ∧ value = stop - t ∧
        (t < stop → 0 < value) ∧ (t = stop → value = 0)

omit [Scalar.Transitive α] [Scalar.Spaced α] in
theorem not_crossed (before : α) {after : α} (h : 0 < after) :
    EventRule.stopping.crossed before after = false := by
  have hle : ¬ after ≤ 0 := Scalar.Ordered.not_le_of_lt h
  simp [EventRule.crossed, EventRule.stopping, hle]

omit [Scalar.Transitive α] in
theorem crossed_zero [Scalar.Lawful α] {before : α} (h : 0 < before) :
    EventRule.stopping.crossed before 0 = true := by
  have hbefore : (0 : α) ≤ before := Scalar.Spaced.le_of_lt h
  have hzero : (0 : α) ≤ 0 := Scalar.le_self (Scalar.isNaN_of_le Scalar.Lawful.zero_le_infinity)
  simp [EventRule.crossed, EventRule.stopping, hbefore, hzero]

section Nodes

variable {nodes probes : List α} (hfinite : ∀ t ∈ nodes ++ probes, Scalar.isFinite t = true)
  (hnodes : nodes.Pairwise (· < ·))

include hfinite hnodes

/-- At a node that is not the last allowed one, the steps that are left. -/
theorem answer_node (hk : k < limit) (hlength : k < nodes.length) :
    ((fresh limit).observeAll (nodes ++ probes))[k]? =
      some (Scalar.ofNat (limit - k)) := by
  have hcount := advanceCount_of_ascending probes hnodes hlength
  have hplace : k < (nodes ++ probes).length := by
    rw [List.length_append]
    omega
  rw [answer_left hfinite hplace (by omega), hcount]

/-- At the last allowed node zero, and then how far back that node lies. -/
theorem answer_root (hlimit : 1 ≤ limit) {stop : α} (hstop : nodes[limit]? = some stop) :
    ((fresh limit).observeAll (nodes ++ probes))[limit]? = some 0 ∧
      ∀ k t, limit < k → (nodes ++ probes)[k]? = some t →
        ((fresh limit).observeAll (nodes ++ probes))[k]? = some (stop - t) := by
  obtain ⟨hlength, -⟩ := List.getElem?_eq_some_iff.1 hstop
  have hT : (nodes ++ probes)[limit]? = some stop := by
    rw [List.getElem?_append_left hlength, hstop]
  have hadvance := isAdvance_of_ascending probes hnodes hlimit hlength
  have hlast := advanceCount_of_ascending probes hnodes hlength
  exact ⟨(answer_last hfinite hT hadvance hlast).1,
    fun k t hk ht => answer_later hfinite hT hadvance hlast hk ht⟩

theorem stopsAfter [Scalar.Lawful α] (hlimit : 1 ≤ limit) :
    StopsAfter limit nodes probes
      ((fresh limit).observeAll (nodes ++ probes)) where
  crossed k before after hk hlength hbefore hafter := by
    rw [answer_node hfinite hnodes hk (by omega)] at hbefore
    obtain rfl := Option.some.inj hbefore
    have hpos : (0 : α) < Scalar.ofNat (limit - k) := Scalar.Spaced.zero_lt_ofNat (by omega)
    rcases Nat.lt_or_ge (k + 1) limit with hlt | hge
    · rw [answer_node hfinite hnodes hlt hlength] at hafter
      obtain rfl := Option.some.inj hafter
      rw [not_crossed _ (Scalar.Spaced.zero_lt_ofNat (by omega))]
      exact iff_of_false Bool.false_ne_true hlt.ne
    · obtain rfl : k + 1 = limit := by omega
      have hroot := answer_root hfinite hnodes hlimit (List.getElem?_eq_getElem hlength)
      rw [hroot.1] at hafter
      obtain rfl := Option.some.inj hafter
      exact iff_of_true (crossed_zero hpos) rfl
  root stop hlength hstop := by
    obtain ⟨hzero, hlater⟩ := answer_root hfinite hnodes hlimit hstop
    refine ⟨hzero, fun i t ht => ?_⟩
    have hplace : (nodes ++ probes)[limit + 1 + i]? = some t := by
      rw [List.getElem?_append_right (by omega), hlength, Nat.add_sub_cancel_left]
      exact ht
    have hfinite_stop : Scalar.isFinite stop = true :=
      hfinite stop (List.mem_append_left _ (List.mem_of_getElem? hstop))
    refine ⟨stop - t, hlater _ t (by omega) hplace, rfl, ?_, ?_⟩
    · exact Scalar.Spaced.zero_lt_sub (hfinite t (List.mem_of_getElem? hplace)) hfinite_stop
    · rintro rfl
      exact Scalar.Spaced.sub_self hfinite_stop

end Nodes

/-- A budget of at least one step counts down by one for every advance, is zero at the last advance
it allows and from then on says how far back that one lies; an integration that asks at its nodes
finds the sign change in the last step it may take, and the root at the end of that step. -/
theorem answers [Scalar.Lawful α] {limit : Int} (hlimit : 1 ≤ limit) :
    ∃ budget : StepBudget α, ofLimit limit = .ok budget ∧
      (∀ times, (∀ t ∈ times, Scalar.isFinite t = true) →
        CountsDown limit.toNat times (budget.observeAll times)) ∧
      ∀ nodes probes, (∀ t ∈ nodes ++ probes, Scalar.isFinite t = true) →
        nodes.Pairwise (· < ·) →
          StopsAfter limit.toNat nodes probes (budget.observeAll (nodes ++ probes)) := by
  refine ⟨fresh limit.toNat, ?_, ?_, ?_⟩
  · exact if_neg (by omega)
  · intro times hfinite
    exact countsDown _ hfinite
  · intro nodes probes hfinite hnodes
    exact stopsAfter hfinite hnodes (by omega)

/-- Two steps are allowed: the second advance, at two, is the last, whatever is asked in between. -/
theorem answers_two :
    (1 : Int) ≤ 2 ∧ ∃ budget : StepBudget Float, ofLimit 2 = .ok budget ∧
      budget.observeAll [0, 1, 1, 0.5, 2, 1.5] = [2, 1, 1, 1, 0, 0.5] ∧
      CountsDown 2 [0, 1, 1, 0.5, 2, 1.5] (budget.observeAll [0, 1, 1, 0.5, 2, 1.5]) ∧
      StopsAfter 2 [0, 1, 2] [1.5, 2] (budget.observeAll ([0, 1, 2] ++ [1.5, 2])) := by
  have hlimit : (1 : Int) ≤ 2 := by decide
  obtain ⟨budget, hbudget, hcounts, hstops⟩ := @answers Float _ _ _ _ _ 2 hlimit
  have hvalues : budget.observeAll [0, 1, 1, 0.5, 2, 1.5] = [2, 1, 1, 1, 0, 0.5] := by
    obtain rfl := Except.ok.inj hbudget
    rfl
  exact ⟨hlimit, budget, hbudget, hvalues, hcounts _ (by decide),
    hstops [0, 1, 2] [1.5, 2] (by decide) (by decide)⟩

end StepBudget

end Equilibrium
