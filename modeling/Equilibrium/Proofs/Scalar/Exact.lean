import Equilibrium.Proofs.Scalar.Lawful
import Mathlib.Analysis.Real.Sqrt

/-!
Exact numbers.

The real numbers with two infinities and an undefined value beside them. Arithmetic on real numbers
is that of the reals, so nothing is rounded, overflows or underflows; what involves an infinity or
the undefined value follows the rules of floating point. There is one zero, so a quotient by zero
takes the sign of what is divided.
-/

namespace Equilibrium

/-- A real number, an infinity or the undefined value. -/
inductive Exact where
  | undefined
  | infinite (negative : Bool)
  | finite (x : ℝ)

namespace Exact

/-- The infinity of a sign times the sign of a real number. -/
noncomputable def scaled (negative : Bool) (x : ℝ) : Exact :=
  if 0 < x then infinite negative else if x < 0 then infinite (!negative) else undefined

noncomputable def add : Exact → Exact → Exact
  | finite x, finite y => finite (x + y)
  | infinite s, infinite t => if s = t then infinite s else undefined
  | infinite s, finite _ => infinite s
  | finite _, infinite t => infinite t
  | _, _ => undefined

noncomputable def neg : Exact → Exact
  | finite x => finite (-x)
  | infinite s => infinite (!s)
  | undefined => undefined

noncomputable def mul : Exact → Exact → Exact
  | finite x, finite y => finite (x * y)
  | infinite s, infinite t => infinite (s ^^ t)
  | infinite s, finite y => scaled s y
  | finite x, infinite t => scaled t x
  | _, _ => undefined

noncomputable def div : Exact → Exact → Exact
  | finite x, finite y => if y = 0 then scaled false x else finite (x / y)
  | infinite s, finite y => if y < 0 then infinite (!s) else infinite s
  | finite _, infinite _ => finite 0
  | _, _ => undefined

def lt : Exact → Exact → Prop
  | finite x, finite y => x < y
  | infinite s, infinite t => s = true ∧ t = false
  | infinite s, finite _ => s = true
  | finite _, infinite t => t = false
  | _, _ => False

def le : Exact → Exact → Prop
  | finite x, finite y => x ≤ y
  | infinite s, infinite t => s = true ∨ t = false
  | infinite s, finite _ => s = true
  | finite _, infinite t => t = false
  | _, _ => False

/-- Whether two values compare as equal, which the undefined value does with nothing. -/
noncomputable def beq : Exact → Exact → Bool
  | finite x, finite y => decide (x = y)
  | infinite s, infinite t => s == t
  | _, _ => false

noncomputable def sqrt : Exact → Exact
  | finite x => if x < 0 then undefined else finite (Real.sqrt x)
  | infinite s => if s then undefined else infinite false
  | undefined => undefined

noncomputable def abs : Exact → Exact
  | finite x => finite |x|
  | infinite _ => infinite false
  | undefined => undefined

noncomputable instance : Scalar Exact where
  zero := finite 0
  one := finite 1
  add := add
  sub x y := add x (neg y)
  mul := mul
  div := div
  neg := neg
  lt := lt
  le := le
  beq := beq
  ofScientific m s e := finite (OfScientific.ofScientific m s e)
  ofNat n := finite n
  sqrt := sqrt
  abs := abs
  infinity := infinite false
  undefined := undefined
  isNaN
    | undefined => true
    | _ => false
  isInf
    | infinite _ => true
    | _ => false
  decidableLT _ _ := Classical.propDecidable _
  decidableLE _ _ := Classical.propDecidable _

/-! ### Rules -/

variable (x y : ℝ) (s t : Bool)

theorem zero_eq : (0 : Exact) = finite 0 := rfl

theorem one_eq : (1 : Exact) = finite 1 := rfl

@[simp] theorem infinity_eq : (Scalar.infinity : Exact) = infinite false := rfl

@[simp] theorem undefined_eq : (Scalar.undefined : Exact) = undefined := rfl

@[simp] theorem ofNat_eq (n : Nat) : (Scalar.ofNat n : Exact) = finite n := rfl

@[simp] theorem finite_mul_finite : finite x * finite y = finite (x * y) := rfl

@[simp] theorem infinite_mul_infinite : infinite s * infinite t = infinite (s ^^ t) := rfl

@[simp] theorem infinite_mul_finite : infinite s * finite y = scaled s y := rfl

@[simp] theorem finite_mul_infinite : finite x * infinite t = scaled t x := rfl

theorem finite_div_finite (hy : y ≠ 0) : finite x / finite y = finite (x / y) := if_neg hy

theorem finite_div_zero : finite x / finite 0 = scaled false x := if_pos rfl

@[simp] theorem infinite_div_finite :
    infinite s / finite y = if y < 0 then infinite (!s) else infinite s := rfl

@[simp] theorem finite_div_infinite : finite x / infinite t = 0 := rfl

@[simp] theorem infinite_div_infinite : infinite s / infinite t = undefined := rfl

@[simp] theorem finite_lt_finite : finite x < finite y ↔ x < y := Iff.rfl

@[simp] theorem finite_lt_infinite : finite x < infinite t ↔ t = false := Iff.rfl

@[simp] theorem infinite_lt_finite : infinite s < finite y ↔ s = true := Iff.rfl

@[simp] theorem infinite_lt_infinite : infinite s < infinite t ↔ s = true ∧ t = false := Iff.rfl

@[simp] theorem not_undefined_lt (a : Exact) : ¬ undefined < a := fun h => h

@[simp] theorem not_lt_undefined (a : Exact) : ¬ a < undefined := by
  cases a <;> exact fun h => h

@[simp] theorem finite_le_finite : finite x ≤ finite y ↔ x ≤ y := Iff.rfl

@[simp] theorem finite_le_infinite : finite x ≤ infinite t ↔ t = false := Iff.rfl

@[simp] theorem infinite_le_finite : infinite s ≤ finite y ↔ s = true := Iff.rfl

@[simp] theorem infinite_le_infinite : infinite s ≤ infinite t ↔ s = true ∨ t = false := Iff.rfl

@[simp] theorem not_undefined_le (a : Exact) : ¬ undefined ≤ a := fun h => h

@[simp] theorem not_le_undefined (a : Exact) : ¬ a ≤ undefined := by
  cases a <;> exact fun h => h

@[simp] theorem isNaN_undefined : Scalar.isNaN undefined = true := rfl

@[simp] theorem isNaN_infinite : Scalar.isNaN (infinite s) = false := rfl

@[simp] theorem isNaN_finite : Scalar.isNaN (finite x) = false := rfl

@[simp] theorem isInf_undefined : Scalar.isInf undefined = false := rfl

@[simp] theorem isInf_infinite : Scalar.isInf (infinite s) = true := rfl

@[simp] theorem isInf_finite : Scalar.isInf (finite x) = false := rfl

instance : Scalar.Lawful Exact where
  isInf_infinity := rfl
  isNaN_infinity := rfl
  zero_le_infinity := rfl
  not_le_of_isNaN {a} b h := by
    cases a with
    | undefined => exact not_undefined_le b
    | infinite s => cases h
    | finite x => cases h
  sqrt_nonneg a := by
    change Scalar.isNaN (sqrt a) = true ∨ finite 0 ≤ sqrt a
    cases a with
    | undefined => exact .inl rfl
    | infinite s => cases s <;> simp [sqrt]
    | finite x =>
        by_cases hx : x < 0
        · simp [sqrt, hx]
        · simp [sqrt, hx, Real.sqrt_nonneg]
  div_ofNat_nonneg {a} n h := by
    rw [ofNat_eq]
    cases a with
    | undefined => exact .inl rfl
    | infinite s =>
        have hs : s = false := by simpa [zero_eq] using h
        have hn : ¬ (n : ℝ) < 0 := not_lt.2 n.cast_nonneg
        simp [hs, zero_eq, hn]
    | finite x =>
        have hx : 0 ≤ x := by simpa [zero_eq] using h
        rcases n.eq_zero_or_pos with hn | hn
        · rw [hn, Nat.cast_zero, finite_div_zero, zero_eq, scaled]
          split
          · simp
          · simp [hx.not_gt]
        · have hn' : (n : ℝ) ≠ 0 := Nat.cast_ne_zero.2 hn.ne'
          rw [finite_div_finite _ _ hn', zero_eq, finite_le_finite]
          exact .inr (div_nonneg hx n.cast_nonneg)

instance : Scalar.Ordered Exact where
  isNaN_of_lt {a b} h := by
    cases b with
    | undefined => exact absurd h (not_lt_undefined a)
    | infinite s => rfl
    | finite y => rfl
  not_le_of_lt {a b} h h' := by
    cases a <;> cases b <;> simp_all
    linarith
  le_of_not_lt {a b} ha hb h := by
    cases a with
    | undefined => cases ha
    | infinite s => cases b <;> cases s <;> simp_all
    | finite x => cases b <;> simp_all
  beq_zero_of_one_lt {a} h := by
    cases a with
    | undefined => rfl
    | infinite s => rfl
    | finite x =>
        have hx : (1 : ℝ) < x := h
        exact decide_eq_false (by linarith)

/-! ### Finite numbers -/

variable {a b : Exact}

@[simp] theorem finite_add_finite : finite x + finite y = finite (x + y) := rfl

@[simp] theorem finite_sub_finite : finite x - finite y = finite (x - y) :=
  congrArg finite (sub_eq_add_neg x y).symm

@[simp] theorem neg_finite : -finite x = finite (-x) := rfl

@[simp] theorem abs_finite : Scalar.abs (finite x) = finite |x| := rfl

theorem sqrt_finite {x : ℝ} (hx : 0 ≤ x) : Scalar.sqrt (finite x) = finite √x :=
  if_neg hx.not_gt

theorem isFinite_iff : Scalar.isFinite a = true ↔ ∃ x, a = finite x := by
  cases a <;> simp [Scalar.isFinite]

@[simp] theorem isFinite_finite : Scalar.isFinite (finite x) = true := rfl

/-- A sum is finite only if both of its terms are. -/
theorem isFinite_of_add (h : Scalar.isFinite (a + b) = true) :
    Scalar.isFinite a = true ∧ Scalar.isFinite b = true := by
  obtain ⟨c, hc⟩ := isFinite_iff.1 h
  change add a b = finite c at hc
  cases a with
  | undefined => cases b <;> cases hc
  | infinite s =>
      cases b with
      | infinite t => cases s <;> cases t <;> cases hc
      | _ => cases hc
  | finite x =>
      cases b with
      | finite y => exact ⟨rfl, rfl⟩
      | _ => cases hc

theorem isFinite_of_sub (h : Scalar.isFinite (a - b) = true) :
    Scalar.isFinite a = true ∧ Scalar.isFinite b = true := by
  obtain ⟨ha, hb⟩ := isFinite_of_add (b := neg b) h
  refine ⟨ha, ?_⟩
  cases b with
  | finite y => rfl
  | infinite s => cases hb
  | undefined => cases hb

theorem isFinite_of_mul_self (h : Scalar.isFinite (a * a) = true) : Scalar.isFinite a = true := by
  cases a with
  | finite x => rfl
  | infinite s => cases h
  | undefined => cases h

theorem isFinite_of_div_finite {y : ℝ} (h : Scalar.isFinite (a / finite y) = true) :
    Scalar.isFinite a = true := by
  cases a with
  | finite x => rfl
  | infinite s =>
      rw [infinite_div_finite] at h
      split at h <;> cases h
  | undefined => cases h

theorem isFinite_of_sqrt (h : Scalar.isFinite (Scalar.sqrt a) = true) :
    Scalar.isFinite a = true := by
  cases a with
  | finite x => rfl
  | infinite s => cases s <;> cases h
  | undefined => cases h

theorem isFinite_of_abs_le_finite {t : ℝ} (h : Scalar.abs a ≤ finite t) :
    Scalar.isFinite a = true := by
  cases a with
  | finite x => rfl
  | infinite s => cases (infinite_le_finite t false).1 h
  | undefined => exact absurd h (not_undefined_le _)

/-! ### Signs -/

theorem zero_lt_iff : 0 < a ↔ a = infinite false ∨ ∃ x, 0 < x ∧ a = finite x := by
  rw [zero_eq]
  cases a with
  | undefined => simp
  | infinite s => simp
  | finite x => simp

theorem zero_le_iff : 0 ≤ a ↔ a = infinite false ∨ ∃ x, 0 ≤ x ∧ a = finite x := by
  rw [zero_eq]
  cases a with
  | undefined => simp
  | infinite s => simp
  | finite x => simp

theorem zero_le_zero : (0 : Exact) ≤ 0 := le_refl (0 : ℝ)

instance : Scalar.Special Exact where
  isNaN_add {a b} ha hb := by
    cases a with
    | undefined => rfl
    | infinite s =>
        obtain rfl : s = false := ha.resolve_left Bool.false_ne_true
        cases b with
        | infinite t =>
            obtain rfl : t = false := hb.resolve_left Bool.false_ne_true
            rfl
        | _ => rfl
    | finite x => cases b <;> rfl
  add_nonneg {a b} ha hb := by
    obtain rfl | ⟨x, hx, rfl⟩ := zero_le_iff.1 ha
    · obtain rfl | ⟨y, -, rfl⟩ := zero_le_iff.1 hb <;> rfl
    · obtain rfl | ⟨y, hy, rfl⟩ := zero_le_iff.1 hb
      · rfl
      · exact add_nonneg hx hy
  infinity_add {a} ha := by
    obtain rfl | ⟨x, -, rfl⟩ := zero_le_iff.1 ha <;> rfl
  add_infinity {a} ha := by
    obtain rfl | ⟨x, -, rfl⟩ := zero_le_iff.1 ha <;> rfl
  isNaN_mul_self a := by cases a <;> rfl
  mul_self_nonneg {a} ha := by
    cases a with
    | undefined => cases ha
    | infinite s => cases s <;> rfl
    | finite x => exact mul_self_nonneg x
  mul_self_of_isInf {a} ha := by
    cases a with
    | undefined => cases ha
    | infinite s => cases s <;> rfl
    | finite x => cases ha
  isNaN_sqrt {a} ha := by
    cases a with
    | undefined => rfl
    | infinite s =>
        obtain rfl : s = false := ha.resolve_left Bool.false_ne_true
        rfl
    | finite x => rw [sqrt_finite (ha.resolve_left Bool.false_ne_true), isNaN_finite, isNaN_finite]
  sqrt_infinity := rfl
  isNaN_div_ofNat a n hn _ := by
    have hn' : (n : ℝ) ≠ 0 := Nat.cast_ne_zero.2 hn.ne'
    cases a with
    | undefined => rfl
    | infinite s =>
        rw [ofNat_eq, infinite_div_finite]
        split <;> rfl
    | finite x => rw [ofNat_eq, finite_div_finite _ _ hn', isNaN_finite, isNaN_finite]
  infinity_div_ofNat {n} _ _ := if_neg (Nat.cast_nonneg n).not_gt

theorem zero_lt_one : (0 : Exact) < 1 := by
  simp [zero_eq, one_eq]

theorem zero_lt_mul (ha : 0 < a) (hb : 0 < b) : 0 < a * b := by
  obtain rfl | ⟨x, hx, rfl⟩ := zero_lt_iff.1 ha
  · obtain rfl | ⟨y, hy, rfl⟩ := zero_lt_iff.1 hb
    · simp [zero_lt_iff]
    · simp [zero_lt_iff, scaled, hy]
  · obtain rfl | ⟨y, hy, rfl⟩ := zero_lt_iff.1 hb
    · simp [zero_lt_iff, scaled, hx]
    · simp [zero_lt_iff, mul_pos hx hy]

theorem zero_lt_div (ha : 0 < a) (hb : 0 < b) (hfinite : Scalar.isInf b = false) : 0 < a / b := by
  obtain rfl | ⟨y, hy, rfl⟩ := zero_lt_iff.1 hb
  · cases hfinite
  · obtain rfl | ⟨x, hx, rfl⟩ := zero_lt_iff.1 ha
    · simp [zero_lt_iff, hy.le]
    · rw [finite_div_finite _ _ hy.ne']
      simp [zero_lt_iff, div_pos hx hy]

theorem zero_lt_of_lt (ha : 0 < a) (h : a < b) : 0 < b := by
  rw [zero_eq] at ha ⊢
  cases a <;> cases b <;> simp_all
  linarith

theorem zero_lt_of_lt_of_le (ha : 0 < a) (h : a ≤ b) : 0 < b := by
  rw [zero_eq] at ha ⊢
  cases a <;> cases b <;> simp_all
  linarith

theorem finite_beq_zero {x : ℝ} (hx : x ≠ 0) : (finite x == 0) = false := decide_eq_false hx

theorem beq_zero_eq_false (ha : 0 < a) : (a == 0) = false := by
  obtain rfl | ⟨x, hx, rfl⟩ := zero_lt_iff.1 ha
  · rfl
  · exact finite_beq_zero hx.ne'

theorem zero_lt_of_le (ha : 0 ≤ a) (h : (a == 0) = false) : 0 < a := by
  rw [zero_eq] at ha h ⊢
  cases a with
  | undefined => simp at ha
  | infinite s => simpa using ha
  | finite x =>
      have hx : x ≠ 0 := of_decide_eq_false h
      exact lt_of_le_of_ne ha hx.symm

theorem le_of_lt (h : a < b) : a ≤ b := by
  cases a <;> cases b <;> simp_all
  linarith

theorem zero_le_of_le (ha : ¬ a < 0) (h : a ≤ b) : 0 ≤ b := by
  rw [zero_eq] at ha ⊢
  cases a <;> cases b <;> simp_all
  linarith

theorem le_trans {c : Exact} (h : a ≤ b) (h' : b ≤ c) : a ≤ c := by
  cases b with
  | undefined => exact absurd h (not_le_undefined a)
  | infinite s => cases a <;> cases c <;> cases s <;> simp_all
  | finite y =>
      cases a <;> cases c <;> simp_all
      linarith

theorem lt_of_le_of_lt {c : Exact} (h : a ≤ b) (h' : b < c) : a < c := by
  cases b with
  | undefined => exact absurd h (not_le_undefined a)
  | infinite s => cases a <;> cases c <;> cases s <;> simp_all
  | finite y =>
      cases a <;> cases c <;> simp_all
      linarith

instance : Scalar.Transitive Exact where
  le_trans := le_trans
  lt_of_le_of_lt := lt_of_le_of_lt
  le_infinity {a} h := by
    cases a with
    | undefined => cases h
    | infinite s => exact .inr rfl
    | finite x => exact (finite_le_infinite x false).2 rfl

instance : Scalar.Spaced Exact where
  le_of_lt := le_of_lt
  zero_lt_sub {a b} ha hb h := by
    obtain ⟨x, rfl⟩ := isFinite_iff.1 ha
    obtain ⟨y, rfl⟩ := isFinite_iff.1 hb
    rw [finite_sub_finite, zero_eq, finite_lt_finite, sub_pos]
    exact h
  sub_self {a} ha := by
    obtain ⟨x, rfl⟩ := isFinite_iff.1 ha
    rw [finite_sub_finite, sub_self, zero_eq]
  zero_lt_ofNat {n} hn := by
    rw [ofNat_eq, zero_eq, finite_lt_finite]
    exact Nat.cast_pos.2 hn

instance : Scalar.Sized Exact where
  abs_eq_zero_or_pos {a} ha := by
    cases a with
    | undefined => cases ha
    | infinite s => exact .inr rfl
    | finite x =>
        obtain h | h := (abs_nonneg x).eq_or_lt
        · exact .inl (congrArg finite h.symm)
        · exact .inr h
  lt_infinity {a} ha := by
    obtain ⟨x, rfl⟩ := isFinite_iff.1 ha
    rfl

theorem eq_zero_of_le (h : a ≤ 0) (h' : ¬ a < 0) : a = 0 := by
  rw [zero_eq] at h h' ⊢
  cases a with
  | undefined => simp at h
  | infinite s => simp_all
  | finite x =>
      have hle : x ≤ 0 := h
      have hnlt : ¬ x < 0 := h'
      rw [le_antisymm hle (not_lt.1 hnlt)]

theorem le_self (ha : Scalar.isNaN a = false) : a ≤ a := by
  cases a with
  | undefined => cases ha
  | infinite s => cases s <;> simp
  | finite x => exact le_refl x

@[simp] theorem isNaN_abs (a : Exact) : Scalar.isNaN (Scalar.abs a) = Scalar.isNaN a := by
  cases a <;> rfl

theorem isNaN_of_abs_le (h : Scalar.abs a ≤ b) : Scalar.isNaN a = false :=
  isNaN_abs a ▸ Scalar.isNaN_of_le h

theorem zero_le_of_abs_le (h : Scalar.abs a ≤ b) : 0 ≤ b := by
  have hnonneg : 0 ≤ Scalar.abs a := by
    cases a with
    | undefined => exact absurd h (not_undefined_le b)
    | infinite s => rfl
    | finite x => exact abs_nonneg x
  exact le_trans hnonneg h

/-! ### Lower bounds -/

variable {m : ℝ}

/-- What is at or above a bound stays there if it is multiplied by one or more. -/
theorem le_mul_of_one_le {c : Exact} (hm : 0 < m) (ha : finite m ≤ a) (hc : 1 ≤ c) :
    finite m ≤ a * c := by
  rw [one_eq] at hc
  cases a with
  | undefined => exact absurd ha (not_le_undefined _)
  | infinite s =>
      cases (finite_le_infinite m s).1 ha
      cases c with
      | undefined => exact absurd hc (not_le_undefined _)
      | infinite t =>
          cases (finite_le_infinite 1 t).1 hc
          exact (finite_le_infinite m false).2 rfl
      | finite y =>
          have hy : (1 : ℝ) ≤ y := hc
          rw [infinite_mul_finite, scaled, if_pos (by linarith)]
          exact (finite_le_infinite m false).2 rfl
  | finite x =>
      have hx : m ≤ x := ha
      cases c with
      | undefined => exact absurd hc (not_le_undefined _)
      | infinite t =>
          cases (finite_le_infinite 1 t).1 hc
          rw [finite_mul_infinite, scaled, if_pos (by linarith)]
          exact (finite_le_infinite m false).2 rfl
      | finite y =>
          have hy : (1 : ℝ) ≤ y := hc
          rw [finite_mul_finite, finite_le_finite]
          nlinarith

theorem one_le_mul {c : Exact} (ha : 1 ≤ a) (hc : 1 ≤ c) : 1 ≤ a * c :=
  le_mul_of_one_le one_pos ha hc

/-- The same holds if it is multiplied by a quotient that is not below one. -/
theorem le_mul_div {d d' : ℝ} (hm : 0 < m) (ha : finite m ≤ a) (hd' : 0 < d') (hle : d' ≤ d) :
    finite m ≤ a * finite d / finite d' := by
  cases a with
  | undefined => exact absurd ha (not_le_undefined _)
  | infinite s =>
      cases (finite_le_infinite m s).1 ha
      rw [infinite_mul_finite, scaled, if_pos (hd'.trans_le hle), infinite_div_finite,
        if_neg hd'.not_gt]
      exact (finite_le_infinite m false).2 rfl
  | finite x =>
      have hx : m ≤ x := ha
      rw [finite_mul_finite, finite_div_finite _ _ hd'.ne', finite_le_finite, le_div_iff₀ hd']
      nlinarith

theorem le_capped {ceiling : Exact} (hceiling : finite m ≤ ceiling) (ha : finite m ≤ a) :
    finite m ≤ Scalar.capped ceiling a := by
  unfold Scalar.capped
  split
  · exact hceiling
  · exact ha

/-- The smaller of two values is at or below both. -/
theorem le_of_capped {ceiling : Exact} (hceiling : Scalar.isNaN ceiling = false)
    (h : Scalar.capped ceiling a = finite m) : finite m ≤ ceiling ∧ finite m ≤ a := by
  unfold Scalar.capped at h
  split at h
  · next hlt =>
      rw [← h]
      exact ⟨by rw [h]; exact le_refl m, le_of_lt hlt⟩
  · next hlt =>
      rw [h] at hlt ⊢
      exact ⟨Scalar.Ordered.le_of_not_lt hceiling rfl hlt, le_refl m⟩

/-! ### Infinity -/

theorem not_infinity_lt (a : Exact) : ¬ Scalar.infinity < a := by
  cases a <;> simp

/-- A quotient by infinity is zero, unless nothing finite is divided. -/
theorem div_infinity (a : Exact) : a / Scalar.infinity = 0 ∨ a / Scalar.infinity = undefined := by
  cases a with
  | undefined => exact .inr rfl
  | infinite s => exact .inr rfl
  | finite x => exact .inl rfl

theorem infinity_mul (hb : 0 < b) : Scalar.infinity * b = Scalar.infinity := by
  obtain rfl | ⟨y, hy, rfl⟩ := zero_lt_iff.1 hb
  · rfl
  · exact if_pos hy

theorem mul_infinity (ha : 0 < a) : a * Scalar.infinity = Scalar.infinity := by
  obtain rfl | ⟨x, hx, rfl⟩ := zero_lt_iff.1 ha
  · rfl
  · exact if_pos hx

theorem not_infinity_le (ha : a ≠ Scalar.infinity) : ¬ Scalar.infinity ≤ a := by
  cases a with
  | undefined => exact not_le_undefined _
  | infinite s => cases s <;> simp_all
  | finite x => simp

theorem le_infinity_of_lt (ha : 0 < a) : a ≤ Scalar.infinity := by
  obtain rfl | ⟨x, -, rfl⟩ := zero_lt_iff.1 ha
  · exact .inr rfl
  · rfl

theorem eq_infinity_of_not_lt (ha : 0 < a) (h : ¬ a < Scalar.infinity) : a = Scalar.infinity := by
  obtain rfl | ⟨x, -, rfl⟩ := zero_lt_iff.1 ha
  · rfl
  · exact absurd rfl h

theorem isFinite_of_zero_lt (ha : 0 < a) (h : Scalar.isInf a = false) :
    Scalar.isFinite a = true := by
  obtain rfl | ⟨x, -, rfl⟩ := zero_lt_iff.1 ha
  · cases h
  · rfl

theorem zero_mul_infinity (a : Exact) : 0 * a * Scalar.infinity = undefined := by
  cases a with
  | undefined => rfl
  | infinite s =>
      have hzero : 0 * infinite s = undefined := by simp [zero_eq, scaled]
      rw [hzero]
      rfl
  | finite x => simp [zero_eq, scaled]

/-! ### Quotients by more than one -/

variable {c : Exact}

theorem div_lt_of_one_lt (ha : 0 < a) (hfinite : a ≠ Scalar.infinity) (hb : 1 < b) : a / b < a := by
  obtain ⟨x, hx, rfl⟩ := (zero_lt_iff.1 ha).resolve_left hfinite
  rw [one_eq] at hb
  cases b with
  | undefined => exact absurd hb (not_lt_undefined _)
  | infinite s => exact hx
  | finite y =>
      have hy : (1 : ℝ) < y := hb
      rw [finite_div_finite _ _ (by linarith), finite_lt_finite]
      exact div_lt_self hx hy

theorem div_ne_infinity (ha : a ≠ Scalar.infinity) (hb : 1 < b) : a / b ≠ Scalar.infinity := by
  rw [one_eq] at hb
  cases b with
  | undefined => exact absurd hb (not_lt_undefined _)
  | infinite s => cases a <;> exact Exact.noConfusion
  | finite y =>
      have hy : (1 : ℝ) < y := hb
      cases a with
      | undefined => exact Exact.noConfusion
      | infinite s =>
          rw [infinite_div_finite, if_neg (by linarith)]
          exact ha
      | finite x =>
          rw [finite_div_finite _ _ (by linarith)]
          exact Exact.noConfusion

/-- An infinite value over a value above one is infinite or undefined. -/
theorem not_infinity_div_lt (hb : 1 < b) : ¬ Scalar.infinity / b < Scalar.infinity := by
  rw [one_eq] at hb
  cases b with
  | undefined => exact absurd hb (not_lt_undefined _)
  | infinite s => exact not_undefined_lt _
  | finite y =>
      have hy : (1 : ℝ) < y := hb
      rw [infinity_eq, infinite_div_finite, if_neg (by linarith)]
      exact not_infinity_lt _

/-- What is not above a bound does not get there by being divided. -/
theorem not_lt_div (hc : 0 < c) (hb : 1 < b) (h : ¬ c < a) : ¬ c < a / b := by
  obtain rfl | ⟨z, hz, rfl⟩ := zero_lt_iff.1 hc
  · exact not_infinity_lt _
  rw [one_eq] at hb
  cases b with
  | undefined => exact absurd hb (not_lt_undefined _)
  | infinite s =>
      cases a with
      | undefined => exact not_lt_undefined _
      | infinite t => exact not_lt_undefined _
      | finite x => exact hz.not_gt
  | finite y =>
      have hy : (1 : ℝ) < y := hb
      cases a with
      | undefined => exact not_lt_undefined _
      | infinite t =>
          rw [infinite_div_finite, if_neg (by linarith)]
          exact h
      | finite x =>
          have hx : x ≤ z := not_lt.1 h
          rw [finite_div_finite _ _ (by linarith), finite_lt_finite, not_lt,
            div_le_iff₀ (by linarith)]
          nlinarith

theorem mul_le_of_le_div (hc : 0 < c) (hb : 1 < b) (h : c ≤ a / b) : c * b ≤ a := by
  obtain rfl | ⟨y, hy, rfl⟩ := zero_lt_iff.1 (zero_lt_of_lt zero_lt_one hb)
  · -- A quotient by infinity is not above zero.
    obtain hzero | hundefined := div_infinity a
    · rw [infinity_eq] at hzero
      rw [hzero] at h
      exact absurd h (Scalar.Ordered.not_le_of_lt hc)
    · rw [infinity_eq] at hundefined
      rw [hundefined] at h
      exact absurd h (not_le_undefined c)
  cases a with
  | undefined => exact absurd h (not_le_undefined c)
  | infinite s =>
      have hs : s = false := by
        rw [infinite_div_finite, if_neg hy.not_gt] at h
        obtain rfl | ⟨z, -, rfl⟩ := zero_lt_iff.1 hc
        · simpa using h
        · exact h
      obtain rfl | ⟨z, hz, rfl⟩ := zero_lt_iff.1 hc
      · simp [scaled, hy, hs]
      · simp [hs]
  | finite x =>
      rw [finite_div_finite _ _ hy.ne'] at h
      obtain rfl | ⟨z, hz, rfl⟩ := zero_lt_iff.1 hc
      · exact absurd h (by simp)
      · rw [finite_mul_finite, finite_le_finite]
        exact (le_div_iff₀ hy).1 h

/-! ### Powers -/

/-- A value times a power of another, by repeated multiplication. -/
noncomputable def timesPower (c b : Exact) (n : Nat) : Exact := (· * b)^[n] c

theorem timesPower_zero (c b : Exact) : timesPower c b 0 = c := rfl

theorem timesPower_succ (c b : Exact) (n : Nat) : timesPower c b (n + 1) = timesPower c b n * b :=
  Function.iterate_succ_apply' _ n c

theorem zero_lt_timesPower (hc : 0 < c) (hb : 0 < b) (n : Nat) : 0 < timesPower c b n := by
  induction n with
  | zero => exact hc
  | succ n ih => exact timesPower_succ c b n ▸ zero_lt_mul ih hb

theorem timesPower_finite (n : Nat) :
    timesPower (finite x) (finite y) n = finite (x * y ^ n) := by
  induction n with
  | zero => simp [timesPower_zero]
  | succ n ih => rw [timesPower_succ, ih, finite_mul_finite, pow_succ, mul_assoc]

/-- The powers of a value above one leave behind whatever is not infinite. -/
theorem exists_not_timesPower_le (hc : 0 < c) (hb : 1 < b) (ha : a ≠ Scalar.infinity) :
    ∃ n, ∀ k, n ≤ k → ¬ timesPower c b k ≤ a := by
  have hb' : 0 < b := zero_lt_of_lt zero_lt_one hb
  obtain rfl | ⟨z, hz, rfl⟩ := zero_lt_iff.1 hc
  · refine ⟨0, fun k _ => ?_⟩
    have hinfinite : timesPower Scalar.infinity b k = Scalar.infinity := by
      induction k with
      | zero => rfl
      | succ k ih => rw [timesPower_succ, ih (Nat.zero_le k), infinity_mul hb']
    exact hinfinite ▸ not_infinity_le ha
  obtain rfl | ⟨y, hy, rfl⟩ := zero_lt_iff.1 hb'
  · refine ⟨1, fun k hk => ?_⟩
    obtain ⟨k, rfl⟩ := Nat.exists_eq_succ_of_ne_zero (Nat.one_le_iff_ne_zero.1 hk)
    have hinfinite : timesPower (finite z) Scalar.infinity (k + 1) = Scalar.infinity := by
      rw [timesPower_succ]
      exact mul_infinity (zero_lt_timesPower hc hb' k)
    exact hinfinite ▸ not_infinity_le ha
  · have hone : (1 : ℝ) < y := hb
    cases a with
    | undefined => exact ⟨0, fun k _ => not_le_undefined _⟩
    | infinite s =>
        have hs : s = true := by cases s <;> simp_all
        exact ⟨0, fun k _ => by simp [timesPower_finite, hs]⟩
    | finite x =>
        obtain ⟨n, hn⟩ : ∃ n, x / z < y ^ n := pow_unbounded_of_one_lt _ hone
        refine ⟨n, fun k hk => ?_⟩
        have hle : y ^ n ≤ y ^ k := pow_le_pow_right₀ hone.le hk
        have hlt : x < z * y ^ k := (div_lt_iff₀' hz).1 (hn.trans_le hle)
        rw [timesPower_finite, finite_le_finite]
        exact hlt.not_ge

end Exact

end Equilibrium
