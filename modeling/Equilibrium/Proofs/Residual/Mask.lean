import Equilibrium.Residual.Mask

/-!
Masks.

A marking that stands for a mask stands for one of the right length, and a mask given again as a
marking stands for itself. Markings fail in ways of their own, among which there is no arithmetic.
-/

namespace Equilibrium

variable {α : Type}

theorem length_of_unmarked {n : Nat} {mask : Mask}
    (h : unmarked n = (.ok mask : Except (Fault α) Mask)) : mask.length = n := by
  have hneg : ¬ (n : Int) < 0 := by omega
  rw [unmarked, if_neg hneg] at h
  cases h
  simp

namespace Marking

theorem length_of_mask {marking : Marking} {n : Nat} {mask : Mask}
    (h : marking.mask n = (.ok mask : Except (Fault α) Mask)) : mask.length = n := by
  cases marking with
  | absent => exact length_of_unmarked h
  | ragged => cases h
  | notIterable => cases h
  | entries marks =>
      simp only [Marking.mask] at h
      split at h
      · exact length_of_unmarked h
      · split at h
        · split at h
          · next hshape =>
              cases h
              have hprod : marks.shape.prod = n := by
                obtain ⟨m, hm, hmn⟩ : ∃ m, marks.shape = [m] ∧ (m : Int) = n := by
                  simpa [List.map_eq_singleton_iff] using hshape
                simp only [hm, List.prod_singleton]
                omega
              rw [List.length_map, marks.length_entries, hprod]
          · cases h
        · split at h
          · cases h
          · split at h
            · cases h
              simp
            · cases h

/-- A mask, given again, is held against the length that it is asked for. -/
theorem mask_ofMask_eq {mask : Mask} {n : Nat} (hn : n ≠ 0) (h : mask.length = n) (m : Int) :
    ((ofMask mask).mask m : Except (Fault α) Mask) =
      if (n : Int) = m then .ok mask else .error (.maskShape [n] m) := by
  have hlength : (mask.map Mark.flag).length = n := by rw [List.length_map, h]
  have hempty : (mask.map Mark.flag).isEmpty = false := by
    cases mask with
    | nil => exact absurd h.symm hn
    | cons b rest => rfl
  have hflags : (mask.map Mark.flag).all Mark.isFlag = true := by
    simp [Mark.isFlag]
  have hback : (mask.map Mark.flag).map Mark.toFlag = mask := by
    simp [Mark.toFlag, Function.comp_def]
  simp [ofMask, Marking.mask, hempty, hflags, hback, hlength]

/-- It is read as itself where that is its own. -/
theorem mask_ofMask {mask : Mask} {n : Nat} (hn : n ≠ 0) (h : mask.length = n) :
    (ofMask mask).mask n = (.ok mask : Except (Fault α) Mask) := by
  rw [mask_ofMask_eq hn h, if_pos rfl]

/-- It is refused for any other. -/
theorem mask_ofMask_of_ne {mask : Mask} {n m : Nat} (hn : n ≠ 0) (h : mask.length = n)
    (hm : m ≠ n) :
    (ofMask mask).mask m = (.error (.maskShape [n] m) : Except (Fault α) Mask) := by
  rw [mask_ofMask_eq hn h, if_neg (by omega)]

theorem mask_ne_divisionByZero (marking : Marking) (n : Int) :
    (marking.mask n : Except (Fault α) Mask) ≠ .error .divisionByZero := by
  have hunmarked : (unmarked n : Except (Fault α) Mask) ≠ .error .divisionByZero := by
    unfold unmarked
    split <;> simp
  cases marking with
  | absent => exact hunmarked
  | ragged => simp [Marking.mask]
  | notIterable => simp [Marking.mask]
  | entries marks =>
      simp only [Marking.mask]
      repeat' split
      all_goals first
        | exact hunmarked
        | simp

end Marking

end Equilibrium
