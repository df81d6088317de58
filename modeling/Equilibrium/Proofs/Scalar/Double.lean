import Equilibrium.Proofs.Scalar.Lawful

/-!
Double precision is lawful.

A double is taken apart into a sign, a magnitude and an exponent, an operation works on the parts,
and the outcome is put together again. Rounding and packing may change the magnitude into a zero or
an infinity but leave the sign alone, and that is all the laws of signs need. The laws of order come
from two facts about comparing the parts: it has an outcome unless one side is undefined, and the
outcome is turned around with the sides. That the order is transitive comes from a third: each
defined number has a rank, and to compare numbers is to compare their ranks.
-/

namespace Equilibrium

open Float.Model Float.Model.UnpackedFloat

/-- Nothing about an unpacked number is negative, its zero included. -/
def SignPositive : UnpackedFloat → Prop
  | .notANumber => True
  | .infinity s => s = .positive
  | .zero s => s = .positive
  | .finite s .. => s = .positive

/-- An unpacked number is undefined or not below zero; a zero may have either sign. -/
def NotNegative : UnpackedFloat → Prop
  | .notANumber => True
  | .infinity s => s = .positive
  | .zero _ => True
  | .finite s .. => s = .positive

theorem signPositive_finite {m : Nat} {e : Int} (hm : 0 < m) :
    SignPositive (.finite .positive m e hm) := rfl

/-- What holds on both sides of a test holds of what the test chooses, as `iteInduction` has it
where the sides do not depend on it. -/
theorem diteInduction {α : Type} {c : Prop} [Decidable c] {motive : α → Prop} {f : c → α}
    {g : ¬c → α} (hpos : ∀ h, motive (f h)) (hneg : ∀ h, motive (g h)) : motive (dite c f g) := by
  split
  · exact hpos _
  · exact hneg _

theorem SignPositive.notNegative {f : UnpackedFloat} (h : SignPositive f) : NotNegative f := by
  cases f with
  | zero s => trivial
  | notANumber => trivial
  | infinity s => exact h
  | finite s m e hm => exact h

/-! ### Packing -/

theorem unpackSign_packComponents (spec : Format) (s : Sign) (e : BitVec spec.exponentBits)
    (m : BitVec spec.mantissaBitsWithoutImplicit) :
    unpackSign (packComponents spec s e m) = s.toBitVec := by
  ext i hi
  have hzero : i = 0 := by omega
  subst hzero
  change (BitVec.cast _ (BitVec.extractLsb (spec.mantissaBitsWithoutImplicit + spec.exponentBits)
    (spec.mantissaBitsWithoutImplicit + spec.exponentBits) (s.toBitVec ++ e ++ m)))[0] = _
  simp [BitVec.getLsbD_append, BitVec.getElem_append]

theorem signPositive_unpack_packComponents (spec : Format) (e : BitVec spec.exponentBits)
    (m : BitVec spec.mantissaBitsWithoutImplicit) :
    SignPositive (unpack spec (packComponents spec .positive e m)) := by
  have hsign : Sign.ofBitVec (unpackSign (packComponents spec .positive e m)) = .positive := by
    rw [unpackSign_packComponents]
    rfl
  unfold UnpackedFloat.unpack
  dsimp only
  rw [hsign]
  refine iteInduction (fun _ => ?_) fun _ => ?_
  · exact iteInduction (fun _ => rfl) fun _ => trivial
  · refine iteInduction (fun _ => ?_) fun _ => rfl
    exact diteInduction (fun _ => rfl) fun _ => rfl

theorem signPositive_unpack_pack (spec : Format) {f : UnpackedFloat} (h : SignPositive f) :
    SignPositive (unpack spec (pack spec f)) := by
  cases f with
  | notANumber => exact signPositive_unpack_packComponents ..
  | infinity s =>
      subst h
      exact signPositive_unpack_packComponents ..
  | zero s =>
      subst h
      exact signPositive_unpack_packComponents ..
  | finite s m e hm =>
      subst h
      unfold UnpackedFloat.pack
      dsimp only
      repeat' split
      all_goals exact signPositive_unpack_packComponents ..

theorem notNegative_unpack_pack {f : UnpackedFloat} (h : NotNegative f) :
    NotNegative (Float.Model.pack f).unpack := by
  cases f with
  | notANumber =>
      exact (signPositive_unpack_pack (f := .notANumber) Format.binary64 trivial).notNegative
  | infinity s => exact (signPositive_unpack_pack (f := .infinity s) Format.binary64 h).notNegative
  | zero s =>
      have : (Float.Model.pack (.zero s)).unpack = .zero s := by cases s <;> rfl
      rw [this]
      trivial
  | finite s m e hm =>
      exact (signPositive_unpack_pack (f := .finite s m e hm) Format.binary64 h).notNegative

/-! ### Operations -/

theorem signPositive_roundWithAccuracy (spec : Format) (m : Nat) (e : Int) (a : Accuracy) :
    SignPositive (roundWithAccuracy spec .positive m e a) := by
  unfold roundWithAccuracy
  exact diteInduction (fun _ => rfl) fun _ => rfl

theorem signPositive_normalize (spec : Format) (n : Nat) (e : Int) :
    SignPositive (UnpackedFloat.normalize spec n e .positive) := by
  unfold UnpackedFloat.normalize
  split
  · next h =>
      rw [Int.compare_eq_lt] at h
      omega
  · rfl
  · exact signPositive_roundWithAccuracy ..

theorem signPositive_mul (spec : Format) {f g : UnpackedFloat} (hf : SignPositive f)
    (hg : SignPositive g) : SignPositive (UnpackedFloat.mul spec f g) := by
  cases f <;> cases g <;> cases hf <;> cases hg
  all_goals first
    | exact signPositive_roundWithAccuracy ..
    | trivial

theorem signPositive_ofScientific (spec : Format) (m : Nat) (e : Int) :
    SignPositive (UnpackedFloat.ofScientific spec m e) := by
  unfold UnpackedFloat.ofScientific
  refine diteInduction (fun _ => rfl) fun _ => ?_
  refine iteInduction (fun _ => rfl) fun _ => ?_
  refine iteInduction (fun _ => rfl) fun _ => ?_
  refine iteInduction (fun _ => ?_) fun _ => ?_
  · exact signPositive_mul _ (signPositive_finite _) (signPositive_finite _)
  · exact signPositive_roundWithAccuracy ..

theorem notNegative_div (spec : Format) {f g : UnpackedFloat} (hf : NotNegative f)
    (hg : SignPositive g) : NotNegative (UnpackedFloat.div spec f g) := by
  cases f <;> cases g <;> cases hf <;> cases hg
  all_goals first
    | exact (signPositive_roundWithAccuracy ..).notNegative
    | trivial

theorem notNegative_sqrt (spec : Format) (f : UnpackedFloat) :
    NotNegative (UnpackedFloat.sqrt spec f) := by
  cases f with
  | notANumber => trivial
  | infinity s =>
      cases s with
      | positive => rfl
      | negative => trivial
  | zero s => trivial
  | finite s m e hm =>
      cases s with
      | positive => exact (signPositive_roundWithAccuracy ..).notNegative
      | negative => trivial

/-! ### Comparisons -/

theorem exists_compare {f g : UnpackedFloat} (hf : f.isNaN = false) (hg : g.isNaN = false) :
    ∃ o, UnpackedFloat.compare f g = some o := by
  cases f with
  | notANumber => cases hf
  | infinity s =>
      cases g with
      | notANumber => cases hg
      | infinity t => exact ⟨_, rfl⟩
      | zero t => cases s <;> exact ⟨_, rfl⟩
      | finite t m e hm => cases s <;> exact ⟨_, rfl⟩
  | zero s =>
      cases g with
      | notANumber => cases hg
      | infinity t => cases t <;> exact ⟨_, rfl⟩
      | zero t => exact ⟨_, rfl⟩
      | finite t m e hm => cases t <;> exact ⟨_, rfl⟩
  | finite s m e hm =>
      cases g with
      | notANumber => cases hg
      | infinity t => cases s <;> cases t <;> exact ⟨_, rfl⟩
      | zero t => cases s <;> exact ⟨_, rfl⟩
      | finite t m' e' hm' => cases s <;> cases t <;> exact ⟨_, rfl⟩

theorem compare_then_swap (e e' : Int) (m m' : Nat) :
    (compare e' e).then (compare m' m) = ((compare e e').then (compare m m')).swap := by
  rw [Ordering.swap_then, Int.compare_swap, Nat.compare_swap]

theorem compare_swap (f g : UnpackedFloat) :
    UnpackedFloat.compare g f = (UnpackedFloat.compare f g).map Ordering.swap := by
  cases f with
  | notANumber => cases g <;> rfl
  | infinity s =>
      cases g with
      | infinity t => cases s <;> cases t <;> rfl
      | notANumber => cases s <;> rfl
      | zero t => cases s <;> rfl
      | finite t m e hm => cases s <;> rfl
  | zero s =>
      cases g with
      | infinity t => cases t <;> rfl
      | notANumber => rfl
      | zero t => rfl
      | finite t m e hm => cases t <;> rfl
  | finite s m e hm =>
      cases g with
      | infinity t => cases s <;> cases t <;> rfl
      | notANumber => cases s <;> rfl
      | zero t => cases s <;> rfl
      | finite t m' e' hm' =>
          cases s with
          | positive =>
              cases t with
              | positive => exact congrArg some (compare_then_swap e e' m m')
              | negative => rfl
          | negative =>
              cases t with
              | positive => rfl
              | negative => exact congrArg (some ·.swap) (compare_then_swap e e' m m')

/-! ### Ranks -/

/-- Where a defined number stands among the others: its side of zero, its exponent and its
magnitude, both counted downwards on the negative side. -/
def rank : UnpackedFloat → Int × Int × Int
  | .notANumber => (0, 0, 0)
  | .infinity .negative => (-2, 0, 0)
  | .finite .negative m e _ => (-1, -e, -m)
  | .zero _ => (0, 0, 0)
  | .finite .positive m e _ => (1, e, m)
  | .infinity .positive => (2, 0, 0)

def compareRanks : Int × Int × Int → Int × Int × Int → Ordering :=
  compareLex (compareOn (·.1)) (compareLex (compareOn (·.2.1)) (compareOn (·.2.2)))

instance : Std.TransCmp compareRanks := by
  unfold compareRanks
  infer_instance

theorem compare_natCast (m m' : Nat) : compare (m : Int) (m' : Int) = compare m m' := by
  simp only [compare, compareOfLessAndEq, Int.ofNat_lt, Int.ofNat_inj]

theorem compare_neg (e e' : Int) : compare (-e) (-e') = (compare e e').swap := by
  rw [Int.compare_swap]
  simp only [compare, compareOfLessAndEq, Int.neg_lt_neg_iff, Int.neg_inj, eq_comm]

theorem compareRanks_positive (e e' : Int) (m m' : Nat) :
    compareRanks (1, e, m) (1, e', m') = (compare e e').then (compare m m') := by
  rw [← compare_natCast]
  rfl

theorem compareRanks_negative (e e' : Int) (m m' : Nat) :
    compareRanks (-1, -e, -m) (-1, -e', -m') = ((compare e e').then (compare m m')).swap := by
  rw [Ordering.swap_then, ← compare_neg, ← compare_natCast, ← compare_neg]
  rfl

theorem compare_eq_rank {f g : UnpackedFloat} (hf : f.isNaN = false) (hg : g.isNaN = false) :
    UnpackedFloat.compare f g = some (compareRanks (rank f) (rank g)) := by
  cases f with
  | notANumber => cases hf
  | infinity s =>
      cases g with
      | notANumber => cases hg
      | infinity t => cases s <;> cases t <;> rfl
      | zero t => cases s <;> rfl
      | finite t m e hm => cases s <;> cases t <;> rfl
  | zero s =>
      cases g with
      | notANumber => cases hg
      | infinity t => cases t <;> rfl
      | zero t => rfl
      | finite t m e hm => cases t <;> rfl
  | finite s m e hm =>
      cases g with
      | notANumber => cases hg
      | infinity t => cases s <;> cases t <;> rfl
      | zero t => cases s <;> rfl
      | finite t m' e' hm' =>
          cases s with
          | positive =>
              cases t with
              | positive => exact congrArg some (compareRanks_positive e e' m m').symm
              | negative => rfl
          | negative =>
              cases t with
              | positive => rfl
              | negative => exact congrArg some (compareRanks_negative e e' m m').symm

theorem isNaN_of_compare {f g : UnpackedFloat} {o : Ordering}
    (h : UnpackedFloat.compare f g = some o) : f.isNaN = false ∧ g.isNaN = false := by
  have hleft : ∀ {f g : UnpackedFloat} {o}, UnpackedFloat.compare f g = some o →
      f.isNaN = false := by
    intro f g o h
    cases f with
    | notANumber => cases h
    | _ => rfl
  exact ⟨hleft h, hleft (o := o.swap) (by rw [compare_swap, h]; rfl)⟩

theorem le_iff_rank {f g : UnpackedFloat} :
    UnpackedFloat.le f g = true ↔
      f.isNaN = false ∧ g.isNaN = false ∧ (compareRanks (rank f) (rank g)).isLE = true := by
  rw [UnpackedFloat.le, Option.any_eq_true]
  constructor
  · rintro ⟨o, ho, hle⟩
    obtain ⟨hf, hg⟩ := isNaN_of_compare ho
    rw [compare_eq_rank hf hg, Option.some.injEq] at ho
    exact ⟨hf, hg, ho ▸ hle⟩
  · rintro ⟨hf, hg, hle⟩
    exact ⟨_, compare_eq_rank hf hg, hle⟩

/-! ### Doubles -/

theorem Float.le_iff (x y : Float) :
    x ≤ y ↔ UnpackedFloat.le x.toModel.unpack y.toModel.unpack = true := by
  change decide (x.toModel ≤ y.toModel) = true ↔ _
  exact decide_eq_true_iff

theorem Float.lt_iff (x y : Float) :
    x < y ↔ UnpackedFloat.compare x.toModel.unpack y.toModel.unpack = some .lt := by
  change decide (x.toModel < y.toModel) = true ↔ _
  rw [decide_eq_true_iff]
  change UnpackedFloat.lt _ _ = true ↔ _
  simp [UnpackedFloat.lt]

theorem Float.le_of_lt {x y : Float} (h : x < y) : x ≤ y := by
  rw [Float.lt_iff] at h
  rw [Float.le_iff, UnpackedFloat.le, h]
  rfl

theorem Float.beq_iff (x y : Float) :
    (x == y) = true ↔ UnpackedFloat.compare x.toModel.unpack y.toModel.unpack = some .eq := by
  change (UnpackedFloat.compare _ _ == some .eq) = true ↔ _
  exact beq_iff_eq

theorem Float.notNegative_iff (x : Float) :
    NotNegative x.toModel.unpack ↔ x.isNaN = true ∨ 0 ≤ x := by
  have hzero : (0 : Float).toModel.unpack = .zero .positive := rfl
  have hnan : x.isNaN = x.toModel.unpack.isNaN := rfl
  rw [Float.le_iff, hzero, hnan]
  cases x.toModel.unpack with
  | notANumber => exact iff_of_true trivial (.inl rfl)
  | infinity s =>
      cases s with
      | positive => exact iff_of_true rfl (.inr rfl)
      | negative => exact iff_of_false Sign.noConfusion (by rintro (h | h) <;> cases h)
  | zero s => exact iff_of_true trivial (.inr rfl)
  | finite s m e hm =>
      cases s with
      | positive => exact iff_of_true rfl (.inr rfl)
      | negative => exact iff_of_false Sign.noConfusion (by rintro (h | h) <;> cases h)

theorem signPositive_ofNat (n : Nat) : SignPositive (Float.ofNat n).toModel.unpack := by
  unfold Float.ofNat OfScientific.ofScientific instOfScientificFloat Float.ofScientific
  simp only
  split
  · refine signPositive_unpack_pack _ (signPositive_mul _ ?_ ?_)
    · exact signPositive_unpack_pack _ (signPositive_normalize ..)
    · exact signPositive_unpack_pack _ (rfl : Sign.positive = Sign.positive)
  · exact signPositive_unpack_pack _ (signPositive_ofScientific ..)

instance : Scalar.Lawful Float where
  isInf_infinity := by decide
  isNaN_infinity := by decide
  zero_le_infinity := by decide
  not_le_of_isNaN := by
    intro x y h hle
    have hnan : x.toModel.unpack.isNaN = true := h
    rw [Float.le_iff] at hle
    cases hx : x.toModel.unpack with
    | notANumber =>
        rw [hx] at hle
        cases hle
    | infinity s =>
        rw [hx] at hnan
        cases hnan
    | zero s =>
        rw [hx] at hnan
        cases hnan
    | finite s m e hm =>
        rw [hx] at hnan
        cases hnan
  sqrt_nonneg x :=
    (Float.notNegative_iff _).1 <| notNegative_unpack_pack <| notNegative_sqrt _ _
  div_ofNat_nonneg n h :=
    (Float.notNegative_iff _).1 <| notNegative_unpack_pack <|
      notNegative_div _ ((Float.notNegative_iff _).2 h) (signPositive_ofNat n)

instance : Scalar.Ordered Float where
  isNaN_of_lt {x y} h := by
    rw [Float.lt_iff] at h
    change y.toModel.unpack.isNaN = false
    cases hy : y.toModel.unpack with
    | notANumber =>
        rw [hy, compare_swap] at h
        cases h
    | infinity s => rfl
    | zero s => rfl
    | finite s m e hm => rfl
  not_le_of_lt {x y} h := by
    rw [Float.lt_iff] at h
    rw [Float.le_iff, UnpackedFloat.le, compare_swap x.toModel.unpack, h]
    simp
  le_of_not_lt {x y} hx hy h := by
    obtain ⟨o, ho⟩ : ∃ o, UnpackedFloat.compare x.toModel.unpack y.toModel.unpack = some o :=
      exists_compare hx hy
    rw [Float.lt_iff, ho] at h
    rw [Float.le_iff, UnpackedFloat.le, compare_swap x.toModel.unpack, ho]
    cases o with
    | lt => exact absurd rfl h
    | eq => rfl
    | gt => rfl
  beq_zero_of_one_lt {x} h := by
    have hone : (1 : Float).toModel.unpack = .finite .positive (2 ^ 52) (-52) (by decide) := rfl
    have hzero : (0 : Float).toModel.unpack = .zero .positive := rfl
    rw [Float.lt_iff, hone] at h
    rw [← Bool.not_eq_true, Float.beq_iff, hzero]
    intro heq
    cases hx : x.toModel.unpack with
    | notANumber =>
        rw [hx] at heq
        cases heq
    | infinity s =>
        rw [hx] at heq
        cases s <;> cases heq
    | zero s =>
        rw [hx] at h
        cases h
    | finite s m e hm =>
        rw [hx] at heq
        cases s <;> cases heq

instance : Scalar.Transitive Float where
  le_trans {x y z} hxy hyz := by
    rw [Float.le_iff] at hxy hyz ⊢
    obtain ⟨hx, hy, hxy⟩ := le_iff_rank.1 hxy
    obtain ⟨-, hz, hyz⟩ := le_iff_rank.1 hyz
    exact le_iff_rank.2 ⟨hx, hz, Std.TransCmp.isLE_trans hxy hyz⟩
  lt_of_le_of_lt {x y z} hxy hyz := by
    have hz : z.toModel.unpack.isNaN = false := Scalar.Ordered.isNaN_of_lt hyz
    rw [Float.le_iff] at hxy
    obtain ⟨hx, hy, hxy⟩ := le_iff_rank.1 hxy
    rw [Float.lt_iff, compare_eq_rank hy hz, Option.some.injEq] at hyz
    rw [Float.lt_iff, compare_eq_rank hx hz, Std.TransCmp.lt_of_isLE_of_lt hxy hyz]
  le_infinity {x} hx := by
    have hinfinity : (Scalar.infinity : Float).toModel.unpack = .infinity .positive := rfl
    have hx : x.toModel.unpack.isNaN = false := hx
    rw [Float.le_iff, hinfinity, le_iff_rank]
    refine ⟨hx, rfl, ?_⟩
    cases x.toModel.unpack with
    | notANumber => rfl
    | infinity s => cases s <;> rfl
    | zero s => rfl
    | finite s m e hm => cases s <;> rfl

end Equilibrium
