import Equilibrium.Proofs.Residual.Mask

/-!
What a marking stands for.

A set of components can be said in several ways: not at all, by flags, or by indices, and the same
indices in any order, nesting and number. Here it is said which markings can be read for a state of
a given length (`Marking.Fits`) and which components they mark (`Marking.Marks`), in terms of the
entries alone. Reading a marking succeeds exactly if it fits, and gives the mask of the components
that it marks. That only the set of the indices matters, that a mask is read as itself and that it
is read from the positions of its flags are consequences.
-/

namespace Equilibrium

variable {α : Type} {n : Nat} {marking : Marking} {marks : Tensor Mark} {mask mask' : Mask}
  {indices : List Int}

/-! ### Encodings -/

/-- An array is one of whole numbers: its entries count as these indices and fit one kind of machine
word, and not all of them are flags. -/
structure Tensor.CountsAs (marks : Tensor Mark) (indices : List Int) : Prop where
  number : ∃ mark ∈ marks.entries, mark.isFlag = false
  word : (∀ mark ∈ marks.entries, mark.fitsSigned = true) ∨
    ∀ mark ∈ marks.entries, mark.fitsUnsigned = true
  entries : marks.entries.map Mark.toIndex? = indices.map some

namespace Marking

inductive Fits (n : Nat) : Marking → Prop
  | absent : Fits n .absent
  /-- Without entries the shape does not matter. -/
  | empty {marks : Tensor Mark} (nothing : marks.entries = []) : Fits n (.entries marks)
  | flags {marks : Tensor Mark} (flags : ∀ mark ∈ marks.entries, mark.isFlag = true)
      (shape : marks.shape = [n]) : Fits n (.entries marks)
  | indices {marks : Tensor Mark} {indices : List Int} (counts : marks.CountsAs indices)
      (range : ∀ k ∈ indices, 0 ≤ k ∧ k < n) : Fits n (.entries marks)

inductive Marks : Marking → Nat → Prop
  | flag {marks : Tensor Mark} {i : Nat} (flags : ∀ mark ∈ marks.entries, mark.isFlag = true)
      (entry : marks.entries[i]? = some (.flag true)) : Marks (.entries marks) i
  | index {marks : Tensor Mark} {indices : List Int} {i : Nat} (counts : marks.CountsAs indices)
      (occurs : (i : Int) ∈ indices) : Marks (.entries marks) i

/-- A mask of a state of length `n` shows the components that a marking marks. -/
structure Describes (marking : Marking) (n : Nat) (mask : Mask) : Prop where
  length : mask.length = n
  bit : ∀ i (hi : i < mask.length), mask[i] = true ↔ marking.Marks i

theorem Describes.unique (h : marking.Describes n mask) (h' : marking.Describes n mask') :
    mask = mask' := by
  refine List.ext_getElem (h.length.trans h'.length.symm) fun i hi hi' => ?_
  rw [Bool.eq_iff_iff, h.bit i hi, h'.bit i hi']

/-- A marking that marks nothing is described by the mask that shows nothing. -/
theorem describes_replicate (h : ∀ i, ¬ marking.Marks i) :
    marking.Describes n (List.replicate n false) := by
  refine ⟨List.length_replicate, fun i hi => ?_⟩
  simp [h i]

end Marking

/-! ### Indices -/

theorem mapM_eq_some_iff {β γ : Type} {f : β → Option γ} {xs : List β} {ys : List γ} :
    xs.mapM f = some ys ↔ xs.map f = ys.map some := by
  induction xs generalizing ys with
  | nil => cases ys <;> simp
  | cons x xs ih =>
      simp only [List.mapM_cons, Option.bind_eq_bind, Option.bind_eq_some_iff, ih, Option.pure_def,
        Option.some.injEq, List.map_cons]
      constructor
      · rintro ⟨y, hy, zs, hzs, rfl⟩
        rw [hy, hzs, List.map_cons]
      · intro h
        cases ys with
        | nil => cases h
        | cons y ys =>
            obtain ⟨hy, hys⟩ := List.cons.inj h
            exact ⟨y, hy, ys, hys, rfl⟩

theorem indices?_eq_some_iff {marks : List Mark} :
    indices? marks = some indices ↔
      ((∀ mark ∈ marks, mark.fitsSigned = true) ∨ ∀ mark ∈ marks, mark.fitsUnsigned = true) ∧
        marks.map Mark.toIndex? = indices.map some := by
  simp only [indices?, Option.ite_none_right_eq_some, Bool.or_eq_true, List.all_eq_true,
    mapM_eq_some_iff]

theorem Tensor.CountsAs.indices?_eq (h : marks.CountsAs indices) :
    indices? marks.entries = some indices :=
  indices?_eq_some_iff.2 ⟨h.word, h.entries⟩

theorem Tensor.CountsAs.unique {indices' : List Int} (h : marks.CountsAs indices)
    (h' : marks.CountsAs indices') : indices = indices' :=
  Option.some.inj (h.indices?_eq.symm.trans h'.indices?_eq)

/-- An array of whole numbers has entries, and not flags alone. -/
theorem Tensor.CountsAs.tells (h : marks.CountsAs indices) :
    marks.entries.isEmpty = false ∧ marks.entries.all Mark.isFlag = false := by
  obtain ⟨mark, hmem, hflag⟩ := h.number
  refine ⟨?_, List.all_eq_false.2 ⟨mark, hmem, by simp [hflag]⟩⟩
  rw [List.isEmpty_eq_false_iff]
  exact List.ne_nil_of_mem hmem

theorem Tensor.CountsAs.not_flags (h : marks.CountsAs indices) :
    ¬ ∀ mark ∈ marks.entries, mark.isFlag = true := by
  obtain ⟨mark, hmem, hnumber⟩ := h.number
  intro flags
  rw [flags mark hmem] at hnumber
  cases hnumber

theorem Mark.eq_flag_of_isFlag {mark : Mark} (h : mark.isFlag = true) :
    mark = .flag mark.toFlag := by
  cases mark with
  | flag marked => rfl
  | index k => cases h
  | declared k => cases h
  | other => cases h

/-! ### Reading -/

namespace Marking

/-- What fits can be read, and the mask that is read describes it. -/
theorem Fits.exists_mask (h : marking.Fits n) :
    ∃ mask, marking.mask n = (.ok mask : Except (Fault α) Mask) ∧ marking.Describes n mask := by
  cases h with
  | absent =>
      refine ⟨_, mask_absent n, describes_replicate fun i hi => ?_⟩
      cases hi
  | @empty marks nothing =>
      refine ⟨List.replicate n false, ?_, describes_replicate fun i hi => ?_⟩
      · simp [Marking.mask, nothing, unmarked, Int.natCast_nonneg n]
      · cases hi with
        | flag flags entry => simp [nothing] at entry
        | index counts occurs => simpa [nothing] using counts.number
  | @flags marks flags shape =>
      have hlength : marks.entries.length = n := by simpa [shape] using marks.length_entries
      refine ⟨marks.entries.map Mark.toFlag, ?_, by simpa using hlength, fun i hi => ?_⟩
      · cases hentries : marks.entries with
        | nil =>
            -- The flags of an empty state are read as an empty array, whose shape is not looked at.
            rw [hentries] at hlength
            subst hlength
            simp [Marking.mask, hentries, unmarked]
        | cons mark rest =>
            rw [hentries] at flags
            simp [Marking.mask, hentries, List.all_eq_true.2 flags, shape]
      · have hi : i < marks.entries.length := by simpa using hi
        rw [List.getElem_map]
        constructor
        · intro hmarked
          refine .flag flags ?_
          rw [List.getElem?_eq_getElem hi,
            Mark.eq_flag_of_isFlag (flags _ (List.getElem_mem hi)), hmarked]
        · intro hmarks
          cases hmarks with
          | flag flags entry =>
              rw [List.getElem?_eq_getElem hi, Option.some.injEq] at entry
              rw [entry]
              rfl
          | index counts occurs => exact absurd flags counts.not_flags
  | @indices marks indices counts range =>
      obtain ⟨hempty, hflags⟩ := counts.tells
      have hrange : (indices.all fun k => 0 ≤ k && k < n) = true := by simpa using range
      refine ⟨markedAt n indices, ?_, length_markedAt n indices, fun i hi => ?_⟩
      · simp [Marking.mask, hempty, hflags, counts.indices?_eq, hrange]
      · have hi : i < n := by simpa using hi
        constructor
        · intro hmarked
          exact .index counts (by simpa [markedAt] using hmarked)
        · intro hmarks
          cases hmarks with
          | flag flags entry => exact absurd flags counts.not_flags
          | index counts' occurs => simpa [markedAt, counts.unique counts'] using occurs

/-- Only what fits can be read. An array that does not fit is refused for its shape, for the kind of
its entries, or for an index that is out of range. -/
theorem fits_or_refused (marks : Tensor Mark) (n : Nat) :
    (entries marks).Fits n ∨
      ∃ fault, (entries marks).mask n = (.error fault : Except (Fault α) Mask) ∧
        (fault = .maskShape marks.shape n ∨ fault = .maskKind ∨
          ∃ indices, marks.CountsAs indices ∧ fault = .maskRange n indices) := by
  by_cases hentries : marks.entries = []
  · exact .inl (.empty hentries)
  have hempty : marks.entries.isEmpty = false := List.isEmpty_eq_false_iff.2 hentries
  cases hflags : marks.entries.all Mark.isFlag with
  | true =>
      by_cases hshape : marks.shape.map Int.ofNat = [(n : Int)]
      · refine .inl (.flags (List.all_eq_true.1 hflags) ?_)
        obtain ⟨extent, hextent, hn⟩ := List.map_eq_singleton_iff.1 hshape
        rw [hextent, Int.ofNat.inj hn]
      · refine .inr ⟨.maskShape marks.shape n, ?_, .inl rfl⟩
        simp only [Marking.mask, hempty, hflags, hshape, if_true, if_false, Bool.false_eq_true]
  | false =>
      cases hindices : indices? marks.entries with
      | none =>
          refine .inr ⟨.maskKind, ?_, .inr (.inl rfl)⟩
          simp only [Marking.mask, hempty, hflags, hindices, if_false, Bool.false_eq_true]
      | some indices =>
          obtain ⟨hword, hmap⟩ := indices?_eq_some_iff.1 hindices
          have hcounts : marks.CountsAs indices :=
            ⟨by simpa using List.all_eq_false.1 hflags, hword, hmap⟩
          cases hrange : indices.all fun k => 0 ≤ k && k < (n : Int) with
          | true => exact .inl (.indices hcounts (by simpa using hrange))
          | false =>
              refine .inr ⟨.maskRange n indices, ?_, .inr (.inr ⟨indices, hcounts, rfl⟩)⟩
              simp only [Marking.mask, hempty, hflags, hindices, hrange, if_false,
                Bool.false_eq_true]

theorem mask_eq_ok_iff :
    marking.mask n = (.ok mask : Except (Fault α) Mask) ↔
      marking.Fits n ∧ marking.Describes n mask := by
  constructor
  · intro h
    have hfits : marking.Fits n := by
      cases marking with
      | absent => exact .absent
      | ragged => cases h
      | notIterable => cases h
      | entries marks =>
          refine (fits_or_refused (α := α) marks n).resolve_right ?_
          rintro ⟨fault, hfault, -⟩
          rw [hfault] at h
          cases h
    obtain ⟨mask', hmask', hdescribes⟩ := hfits.exists_mask (α := α)
    rw [h] at hmask'
    cases hmask'
    exact ⟨hfits, hdescribes⟩
  · rintro ⟨hfits, hdescribes⟩
    obtain ⟨mask', hmask', hdescribes'⟩ := hfits.exists_mask (α := α)
    rw [hmask', hdescribes'.unique hdescribes]

/-! ### Markings of the same components -/

theorem marks_entries_iff (h : marks.CountsAs indices) (i : Nat) :
    (entries marks).Marks i ↔ (i : Int) ∈ indices := by
  constructor
  · intro hmarks
    cases hmarks with
    | flag flags entry => exact absurd flags h.not_flags
    | index counts occurs => rwa [h.unique counts]
  · exact .index h

theorem fits_entries_iff (h : marks.CountsAs indices) :
    (entries marks).Fits n ↔ ∀ k ∈ indices, 0 ≤ k ∧ k < n := by
  constructor
  · intro hfits
    cases hfits with
    | empty nothing => simpa [nothing] using h.number
    | flags flags shape => exact absurd flags h.not_flags
    | indices counts range => rwa [h.unique counts]
  · exact .indices h

/-- Of indices, only their set matters. -/
theorem mask_congr {marks' : Tensor Mark} {indices' : List Int} (h : marks.CountsAs indices)
    (h' : marks'.CountsAs indices') (hset : ∀ k, k ∈ indices ↔ k ∈ indices') :
    (entries marks).mask n = (.ok mask : Except (Fault α) Mask) ↔
      (entries marks').mask n = (.ok mask : Except (Fault α) Mask) := by
  have hfits : (entries marks).Fits n ↔ (entries marks').Fits n := by
    simp only [fits_entries_iff h, fits_entries_iff h', hset]
  have hmarks : ∀ i, (entries marks).Marks i ↔ (entries marks').Marks i := fun i => by
    rw [marks_entries_iff h, marks_entries_iff h', hset]
  rw [mask_eq_ok_iff, mask_eq_ok_iff, hfits]
  refine and_congr_right fun _ => ⟨fun hd => ⟨hd.length, fun i hi => ?_⟩, fun hd =>
    ⟨hd.length, fun i hi => ?_⟩⟩
  · rw [hd.bit i hi, hmarks]
  · rw [hd.bit i hi, hmarks]

/-- A mask of any length, none included, is read as itself. -/
theorem mask_ofMask_length (mask : Mask) :
    (ofMask mask).mask mask.length = (.ok mask : Except (Fault α) Mask) := by
  by_cases hlength : mask.length = 0
  · obtain rfl := List.length_eq_zero_iff.1 hlength
    rfl
  · exact mask_ofMask hlength rfl

def listing (entry : Int → Mark) (indices : List Int) : Marking :=
  .entries (Tensor.vector (indices.map entry))

end Marking

def Mask.positions (mask : Mask) : List Int :=
  ((List.range mask.length).filter fun i => mask[i]?.getD false).map Int.ofNat

theorem Mask.mem_positions {i : Nat} (hi : i < mask.length) :
    (i : Int) ∈ mask.positions ↔ mask[i] = true := by
  have hbit : mask[i]?.getD false = mask[i] := by simp [hi]
  simp only [Mask.positions, List.mem_map, List.mem_filter, List.mem_range]
  constructor
  · rintro ⟨j, ⟨-, hmarked⟩, hj⟩
    rwa [Int.ofNat.inj hj, hbit] at hmarked
  · intro hmarked
    exact ⟨i, ⟨hi, hbit.trans hmarked⟩, rfl⟩

theorem Mask.lt_of_mem_positions {k : Int} (h : k ∈ mask.positions) :
    0 ≤ k ∧ k < mask.length := by
  simp only [Mask.positions, List.mem_map, List.mem_filter, List.mem_range] at h
  obtain ⟨i, ⟨hi, -⟩, rfl⟩ := h
  exact ⟨Int.natCast_nonneg i, Int.ofNat_lt.2 hi⟩

namespace Marking

/-- A mask is read from its positions, if these are written as an array of whole numbers. -/
theorem mask_listing_positions {entry : Int → Mark}
    (hindex : ∀ k ∈ mask.positions, (entry k).toIndex? = some k)
    (hnumber : ∀ k, (entry k).isFlag = false)
    (hword : ∀ k ∈ mask.positions, (entry k).fitsSigned = true) :
    (listing entry mask.positions).mask mask.length = (.ok mask : Except (Fault α) Mask) := by
  refine mask_eq_ok_iff.2 ?_
  cases hpositions : mask.positions with
  | nil =>
      -- A listing of no position has no entry, so it is not an array of whole numbers.
      refine ⟨.empty rfl, rfl, fun i hi => ?_⟩
      rw [← Mask.mem_positions hi, hpositions]
      constructor
      · intro h
        cases h
      · intro h
        cases h with
        | flag flags entry => simp at entry
        | index counts occurs => simpa using counts.number
  | cons k rest =>
      have hcounts : (Tensor.vector (mask.positions.map entry)).CountsAs mask.positions := by
        refine ⟨⟨entry k, by simp [hpositions], hnumber k⟩, .inl ?_, ?_⟩
        · simpa using hword
        · simpa using hindex
      rw [← hpositions]
      refine ⟨.indices hcounts fun k hk => Mask.lt_of_mem_positions hk, rfl, fun i hi => ?_⟩
      rw [listing, marks_entries_iff hcounts, Mask.mem_positions hi]

/-- Whole numbers of a declared kind are read at any length. -/
theorem mask_listing_declared (mask : Mask) :
    (listing .declared mask.positions).mask mask.length =
      (.ok mask : Except (Fault α) Mask) :=
  mask_listing_positions (fun _ _ => rfl) (fun _ => rfl) fun _ _ => rfl

/-- Whole numbers of no declared kind are read at any length that a machine word counts. -/
theorem mask_listing_index (h : (mask.length : Int) ≤ Int64.maxValue.toInt) :
    (listing .index mask.positions).mask mask.length = (.ok mask : Except (Fault α) Mask) := by
  refine mask_listing_positions (fun _ _ => rfl) (fun _ => rfl) fun k hk => ?_
  obtain ⟨hlow, hhigh⟩ := Mask.lt_of_mem_positions hk
  have hmin : Int64.minValue.toInt ≤ 0 := by decide
  have hreach : Int64.minValue.toInt ≤ k ∧ k ≤ Int64.maxValue.toInt := by omega
  simpa [Mark.fitsSigned] using hreach

/-- A marking is read exactly if it fits, as the mask of what it marks; any other array is refused.
So of indices only their set matters, and a mask is read from itself and from its positions. -/
theorem normalizes (n : Nat) :
    (∀ marking : Marking,
      (∃ mask, marking.mask n = (.ok mask : Except (Fault α) Mask)) ↔ marking.Fits n) ∧
    (∀ marks : Tensor Mark, ¬ (entries marks).Fits n →
      ∃ fault, (entries marks).mask n = (.error fault : Except (Fault α) Mask) ∧
        (fault = .maskShape marks.shape n ∨ fault = .maskKind ∨
          ∃ indices, marks.CountsAs indices ∧ fault = .maskRange n indices)) ∧
    (∀ (marking : Marking) (mask : Mask),
      marking.mask n = (.ok mask : Except (Fault α) Mask) → marking.Describes n mask) ∧
    (∀ (marks marks' : Tensor Mark) (indices indices' : List Int) (mask : Mask),
      marks.CountsAs indices → marks'.CountsAs indices' → (∀ k, k ∈ indices ↔ k ∈ indices') →
        ((entries marks).mask n = (.ok mask : Except (Fault α) Mask) ↔
          (entries marks').mask n = (.ok mask : Except (Fault α) Mask))) ∧
    (∀ (marking : Marking) (mask : Mask),
      marking.mask n = (.ok mask : Except (Fault α) Mask) →
        (ofMask mask).mask n = (.ok mask : Except (Fault α) Mask)) ∧
    ∀ mask : Mask, mask.length = n →
      (listing .declared mask.positions).mask n = (.ok mask : Except (Fault α) Mask) ∧
        ((n : Int) ≤ Int64.maxValue.toInt →
          (listing .index mask.positions).mask n = (.ok mask : Except (Fault α) Mask)) := by
  refine ⟨fun marking => ⟨?_, ?_⟩, fun marks hfits => ?_, fun marking mask h => ?_,
    fun marks marks' indices indices' mask h h' hset => mask_congr h h' hset,
    fun marking mask h => ?_, ?_⟩
  · rintro ⟨mask, h⟩
    exact (mask_eq_ok_iff.1 h).1
  · intro h
    obtain ⟨mask, hmask, -⟩ := h.exists_mask (α := α)
    exact ⟨mask, hmask⟩
  · exact (fits_or_refused marks n).resolve_left hfits
  · exact (mask_eq_ok_iff.1 h).2
  · obtain rfl := length_of_mask h
    exact mask_ofMask_length mask
  · rintro mask rfl
    exact ⟨mask_listing_declared mask, mask_listing_index⟩

/-- The first and the last of three components, said by indices in two ways; three flags for two
components, and an index that is out of range. -/
theorem normalizes_three :
    (entries (Tensor.vector [.index 2, .index 0, .index 2])).mask (3 : Nat) =
        (.ok [true, false, true] : Except (Fault Float) Mask) ∧
      (entries ⟨[2, 1], [.index 0, .index 2], rfl⟩).mask (3 : Nat) =
        (.ok [true, false, true] : Except (Fault Float) Mask) ∧
      (ofMask [true, false, true]).mask (3 : Nat) =
        (.ok [true, false, true] : Except (Fault Float) Mask) ∧
      (listing .index [0, 2]).mask (3 : Nat) =
        (.ok [true, false, true] : Except (Fault Float) Mask) ∧
      ¬ (entries (Tensor.vector [.index 3])).Fits 3 := by
  obtain ⟨hiff, -, -, hsame, hself, hpositions⟩ := normalizes (α := Float) 3
  have hcounts : (Tensor.vector [.index 2, .index 0, .index 2]).CountsAs [2, 0, 2] :=
    ⟨⟨.index 2, by simp, rfl⟩, .inl (by decide), rfl⟩
  have hnested : (⟨[2, 1], [.index 0, .index 2], rfl⟩ : Tensor Mark).CountsAs [0, 2] :=
    ⟨⟨.index 0, by simp, rfl⟩, .inl (by decide), rfl⟩
  have hread : (entries (Tensor.vector [.index 2, .index 0, .index 2])).mask (3 : Nat) =
      (.ok [true, false, true] : Except (Fault Float) Mask) := by
    rfl
  refine ⟨hread, (hsame _ _ _ _ _ hcounts hnested fun k => ?_).1 hread, hself _ _ hread,
    (hpositions [true, false, true] rfl).2 (by decide), fun hfits => ?_⟩
  · simp only [List.mem_cons, List.not_mem_nil, or_false]
    omega
  · obtain ⟨mask, hmask⟩ := (hiff _).2 hfits
    cases hmask

end Marking

end Equilibrium
