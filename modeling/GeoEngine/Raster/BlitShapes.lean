import GeoEngine.Raster.Blit2D

/-!
# The 1-D and 3-D blits

`Grid3D.gridBlitFrom` copies one slice per row `(z, y)` of the overlap, with two nested loops, and
`Grid1D.gridBlitFrom` copies the overlap with a single slice. Both grids of these blits are
shapes anchored at the origin, but the two buffers have different plane and row strides whenever
the shapes differ.

The 3-D row facts `row3_add_le`, `row3_covers_iff` and `row3_value` are those of the 2-D blit
with the row `(z, y)` in the place of `y`: a row of a 3-D box is a row of the 2-D block of its
`z * size_y + y` rows, so `row_major_cover` and `row_major_eq_iff` carry them. The run lemma is
applied to the loop over `y` and then to the loop over `z`, whose steps are loops over `y`.

`Grid3D.gridBlitFrom_blitResult` and `Grid1D.gridBlitFrom_blitResult` state the blits for all
boxes, and `gridBlitFrom_min_extent` says what they are for shapes: the cells below the smaller
extent on every axis are copied, the others keep their values. Between grids of one shape the
blit copies the whole buffer (`gridBlitFrom_same_shape`).
-/

namespace GeoEngine

variable {T : Type}

namespace GridBoundingBox

/-- Membership in a 1-D box. -/
theorem mem_one_iff {b : GridBoundingBox 1} {idx : GridIdx 1} :
    idx ∈ b ↔ b.min 0 ≤ idx 0 ∧ idx 0 ≤ b.max 0 :=
  mem_iff.trans Fin.forall_fin_one

/-- Membership in a 3-D box, axis by axis. -/
theorem mem_three_iff {b : GridBoundingBox 3} {idx : GridIdx 3} :
    idx ∈ b ↔ (b.min 0 ≤ idx 0 ∧ idx 0 ≤ b.max 0) ∧ (b.min 1 ≤ idx 1 ∧ idx 1 ≤ b.max 1) ∧
      (b.min 2 ≤ idx 2 ∧ idx 2 ≤ b.max 2) :=
  mem_iff.trans (Fin.forall_fin_succ.trans (by simp [Fin.forall_fin_two]))

/-- The linear offset in a 3-D box, with the box's plane and row strides. -/
theorem linearSpaceIndexUnchecked_three (b : GridBoundingBox 3) (idx : GridIdx 3) :
    b.linearSpaceIndexUnchecked idx =
      ((idx 0 - b.min 0).toNat * (b.max 1 - b.min 1 + 1).toNat + (idx 1 - b.min 1).toNat) *
          (b.max 2 - b.min 2 + 1).toNat + (idx 2 - b.min 2).toNat := by
  simp [linearSpaceIndexUnchecked, axisSize]

section Row

variable {x i : GridBoundingBox 3}
  (hsub : ∀ k, x.min k ≤ i.min k ∧ i.max k ≤ x.max k ∧ i.min k ≤ i.max k)
include hsub

/-- The segment of row `(z, y)` of the overlap ends inside the buffer of the box. -/
theorem row3_add_le {z y : Int} (hz : i.min 0 ≤ z ∧ z ≤ i.max 0)
    (hy : i.min 1 ≤ y ∧ y ≤ i.max 1) :
    x.linearSpaceIndexUnchecked ![z, y, i.min 2] + i.axisSize 2 ≤ x.numberOfElements := by
  have h₀ := hsub 0
  have h₁ := hsub 1
  have h₂ := hsub 2
  simp only [linearSpaceIndexUnchecked_three, numberOfElements, shapeProduct_three, axisSize,
    Matrix.cons_val_zero, Matrix.cons_val_one, Matrix.cons_val_two, Matrix.head_cons,
    Matrix.tail_cons]
  exact row_major_add_le (row_major_add_le (m := 1) (by omega) (by omega)) (by omega)

/-- The cells of the box the segment of row `(z, y)` covers are the cells of that row of the
overlap. -/
theorem row3_covers_iff {idx : GridIdx 3} (hidx : idx ∈ x) {z y : Int} (hz : i.min 0 ≤ z)
    (hy : i.min 1 ≤ y ∧ y ≤ i.max 1) :
    x.rowSegment ![z, y, i.min 2] (i.axisSize 2) (x.linearSpaceIndexUnchecked idx) ↔
      z = idx 0 ∧ y = idx 1 ∧ i.min 2 ≤ idx 2 ∧ idx 2 ≤ i.max 2 := by
  have h₀ := hsub 0
  have h₁ := hsub 1
  have h₂ := hsub 2
  have hx := mem_three_iff.mp hidx
  simp only [rowSegment, linearSpaceIndexUnchecked_three, axisSize, Matrix.cons_val_zero,
    Matrix.cons_val_one, Matrix.cons_val_two, Matrix.head_cons, Matrix.tail_cons]
  constructor
  · rintro ⟨hlo, hhi⟩
    obtain ⟨hrow, hcol⟩ := row_major_cover (by omega) (by omega) hlo hhi
    have := (row_major_eq_iff (by omega) (by omega)).mp hrow
    omega
  · rintro ⟨rfl, rfl, hlo, hhi⟩
    omega

end Row

/-- For a cell of the overlap `i` of two 3-D boxes `x` and `b`, the source offset of its row
segment plus its column within the segment is its own offset in `b`. -/
theorem row3_value {x b i : GridBoundingBox 3}
    (hx : ∀ k, x.min k ≤ i.min k ∧ i.max k ≤ x.max k ∧ i.min k ≤ i.max k)
    (hb : ∀ k, b.min k ≤ i.min k ∧ i.max k ≤ b.max k ∧ i.min k ≤ i.max k)
    {idx : GridIdx 3} (hidx : idx ∈ i) :
    b.linearSpaceIndexUnchecked ![idx 0, idx 1, i.min 2] +
        (x.linearSpaceIndexUnchecked idx - x.linearSpaceIndexUnchecked ![idx 0, idx 1, i.min 2]) =
      b.linearSpaceIndexUnchecked idx := by
  have := hx 2
  have := hb 2
  have := mem_three_iff.mp hidx
  simp only [linearSpaceIndexUnchecked_three, Matrix.cons_val_zero, Matrix.cons_val_one,
    Matrix.cons_val_two, Matrix.head_cons, Matrix.tail_cons]
  omega

end GridBoundingBox

open GridBoundingBox

/-- **Dense 3-D blit.** On valid grids the blit performs only in-bounds slice accesses and copies
the source's cells over its box. -/
theorem Grid3D.gridBlitFrom_blitResult (d s : Grid3D T) (hd : d.Valid) (hs : s.Valid) :
    ∃ d', d.gridBlitFrom s = some d' ∧
      d.BlitResult d' (boundingBox s.shape) s.getAtGridIndexUnchecked := by
  simp only [gridBlitFrom]
  split
  · exact ⟨d, rfl, .of_intersection_eq_none ‹_›⟩
  rename_i i hI
  obtain ⟨hA, hB⟩ := intersection_sub hI
  -- the inner loop over `y`, for one plane `z`
  have hinner : ∀ z ∈ intRange (i.min 0) (i.min 0 + i.axisSize 0), ∀ l : List T,
      l.length = d.data.length →
      ∃ l', (intRange (i.min 1) (i.min 1 + i.axisSize 1)).foldlM
          (fun data y => copyRow data s.data
            ((boundingBox d.shape).linearSpaceIndexUnchecked ![z, y, i.min 2])
            ((boundingBox s.shape).linearSpaceIndexUnchecked ![z, y, i.min 2]) (i.axisSize 2))
          l = some l' ∧ l'.length = d.data.length ∧
        Overwrites (fun k => ∃ y ∈ intRange (i.min 1) (i.min 1 + i.axisSize 1),
            (boundingBox d.shape).rowSegment ![z, y, i.min 2] (i.axisSize 2) k)
          (lastWrite (fun y => (boundingBox d.shape).rowSegment ![z, y, i.min 2] (i.axisSize 2))
            (fun y k => s.data[(boundingBox s.shape).linearSpaceIndexUnchecked ![z, y, i.min 2] +
              (k - (boundingBox d.shape).linearSpaceIndexUnchecked ![z, y, i.min 2])]?)
            (intRange (i.min 1) (i.min 1 + i.axisSize 1)) [])
          l l' := fun z hz l hl =>
    foldlM_overwrites id (fun l => l.length = d.data.length) _ _ _ l hl fun y hy l hl => by
      obtain ⟨l', h, hov⟩ := copyRow_overwrites
        (hl ▸ hd ▸ row3_add_le hA (mem_intRange_axisSize.mp hz) (mem_intRange_axisSize.mp hy))
        (hs ▸ row3_add_le hB (mem_intRange_axisSize.mp hz) (mem_intRange_axisSize.mp hy))
      exact ⟨l', h, hov.1.trans hl, hov⟩
  obtain ⟨out, hout, hlen, -, hval⟩ :=
    foldlM_overwrites id (fun l => l.length = d.data.length) _ _ _ d.data rfl hinner
  refine ⟨{ d with data := out }, by rw [hout]; rfl, rfl, rfl, hlen, fun idx hidx => ?_⟩
  have hcovers : ∀ z ∈ intRange (i.min 0) (i.min 0 + i.axisSize 0),
      ∀ y ∈ intRange (i.min 1) (i.min 1 + i.axisSize 1),
      (boundingBox d.shape).rowSegment ![z, y, i.min 2] (i.axisSize 2)
          ((boundingBox d.shape).linearSpaceIndexUnchecked idx) ↔
        z = idx 0 ∧ y = idx 1 ∧ i.min 2 ≤ idx 2 ∧ idx 2 ≤ i.max 2 := fun z hz y hy =>
    row3_covers_iff hA hidx (mem_intRange_axisSize.mp hz).1 (mem_intRange_axisSize.mp hy)
  have hex : (∃ z ∈ intRange (i.min 0) (i.min 0 + i.axisSize 0),
      ∃ y ∈ intRange (i.min 1) (i.min 1 + i.axisSize 1),
        (boundingBox d.shape).rowSegment ![z, y, i.min 2] (i.axisSize 2)
          ((boundingBox d.shape).linearSpaceIndexUnchecked idx)) ↔ idx ∈ i := by
    rw [mem_three_iff]
    constructor
    · rintro ⟨z, hz, y, hy, hc⟩
      obtain ⟨rfl, rfl, h₂⟩ := (hcovers z hz y hy).mp hc
      exact ⟨mem_intRange_axisSize.mp hz, mem_intRange_axisSize.mp hy, h₂⟩
    · rintro ⟨hz, hy, h₂⟩
      have hz := mem_intRange_axisSize.mpr hz
      have hy := mem_intRange_axisSize.mpr hy
      exact ⟨idx 0, hz, idx 1, hy, (hcovers _ hz _ hy).mpr ⟨rfl, rfl, h₂⟩⟩
  simp only [Grid.getAtGridIndexUnchecked]
  refine (hval _).trans ?_
  simp only [id]
  by_cases hmem : idx ∈ i
  · rw [if_pos (hex.mpr hmem), if_pos ((mem_intersection hI).mp hmem).2]
    exact lastWrite_of_covers (hex.mpr hmem) fun z hz ⟨y, hy, hc⟩ =>
      lastWrite_of_covers ⟨y, hy, hc⟩ fun y hy hc => by
        obtain ⟨rfl, rfl, -⟩ := (hcovers z hz y hy).mp hc
        exact congrArg (s.data[·]?) (row3_value hA hB hmem)
  · rw [if_neg (mt hex.mp hmem), if_neg fun hb => hmem ((mem_intersection hI).mpr ⟨hidx, hb⟩)]

/-- **Dense 1-D blit.** On valid grids the blit performs only in-bounds slice accesses and copies
the source's cells over its box. -/
theorem Grid1D.gridBlitFrom_blitResult (d s : Grid1D T) (hd : d.Valid) (hs : s.Valid) :
    ∃ d', d.gridBlitFrom s = some d' ∧
      d.BlitResult d' (boundingBox s.shape) s.getAtGridIndexUnchecked := by
  simp only [gridBlitFrom]
  split
  · exact ⟨d, rfl, .of_intersection_eq_none ‹_›⟩
  rename_i i hI
  have hi := intersection_eq_some hI 0
  have hin : ∀ b : GridBoundingBox 1, b.min 0 ≤ i.min 0 → i.max 0 ≤ b.max 0 →
      b.linearSpaceIndexUnchecked i.min + i.axisSize 0 ≤ b.numberOfElements := fun b h₁ h₂ => by
    simp only [linearSpaceIndexUnchecked, numberOfElements, rowMajorOffset_one, shapeProduct_one,
      axisSize]
    omega
  obtain ⟨out, hout, hlen, hval⟩ := copyRow_overwrites (hd ▸ hin _ (by omega) (by omega))
    (hs ▸ hin _ (by omega) (by omega))
  refine ⟨{ d with data := out }, by rw [hout]; rfl, rfl, rfl, hlen, fun idx hidx => ?_⟩
  have hx := mem_one_iff.mp hidx
  simp only [Grid.getAtGridIndexUnchecked, hval, mem_one_iff, linearSpaceIndexUnchecked,
    rowMajorOffset_one, axisSize]
  split_ifs with hc hb hb
  · congr 1
    omega
  · -- a covered cell lies in the overlap, hence in the source box
    omega
  · -- a cell of both boxes lies in the overlap, hence is covered
    omega
  · rfl

/-- **The blits between shapes.** Two 3-D grids at the origin: the cells below the smaller extent
on every axis take the source's values, every other cell keeps its value. Likewise for two 1-D
grids. -/
theorem gridBlitFrom_min_extent :
    (∀ d s : Grid3D T, d.Valid → s.Valid →
      ∃ d', d.gridBlitFrom s = some d' ∧ d'.shape = d.shape ∧ d'.data.length = d.data.length ∧
        ∀ z y x : Int, 0 ≤ z → z < d.shape.shapeArray 0 → 0 ≤ y → y < d.shape.shapeArray 1 →
          0 ≤ x → x < d.shape.shapeArray 2 →
          d'.getAtGridIndexUnchecked ![z, y, x] =
            if z < min (d.shape.shapeArray 0) (s.shape.shapeArray 0) ∧
                y < min (d.shape.shapeArray 1) (s.shape.shapeArray 1) ∧
                x < min (d.shape.shapeArray 2) (s.shape.shapeArray 2)
            then s.getAtGridIndexUnchecked ![z, y, x] else d.getAtGridIndexUnchecked ![z, y, x]) ∧
    (∀ d s : Grid1D T, d.Valid → s.Valid →
      ∃ d', d.gridBlitFrom s = some d' ∧ d'.shape = d.shape ∧ d'.data.length = d.data.length ∧
        ∀ x : Int, 0 ≤ x → x < d.shape.shapeArray 0 →
          d'.getAtGridIndexUnchecked ![x] =
            if x < min (d.shape.shapeArray 0) (s.shape.shapeArray 0)
            then s.getAtGridIndexUnchecked ![x] else d.getAtGridIndexUnchecked ![x]) := by
  refine ⟨fun d s hd hs => ?_, fun d s hd hs => ?_⟩
  · obtain ⟨d', h, hr⟩ := Grid3D.gridBlitFrom_blitResult d s hd hs
    refine ⟨d', h, hr.shape, hr.length, fun z y x hz hz' hy hy' hx hx' => ?_⟩
    have hmem : ∀ b : GridShape3D, ![z, y, x] ∈ boundingBox b ↔
        (0 ≤ z ∧ z < b.shapeArray 0) ∧ (0 ≤ y ∧ y < b.shapeArray 1) ∧
          (0 ≤ x ∧ x < b.shapeArray 2) := fun b => by
      simp only [mem_three_iff, GridShape.boundingBox_min, GridShape.boundingBox_max,
        Matrix.cons_val_zero, Matrix.cons_val_one, Matrix.cons_val_two, Matrix.head_cons,
        Matrix.tail_cons]
      omega
    exact (hr.cells _ ((hmem _).mpr ⟨⟨hz, hz'⟩, ⟨hy, hy'⟩, ⟨hx, hx'⟩⟩)).trans
      (if_congr ((hmem _).trans (by omega)) rfl rfl)
  · obtain ⟨d', h, hr⟩ := Grid1D.gridBlitFrom_blitResult d s hd hs
    refine ⟨d', h, hr.shape, hr.length, fun x hx hx' => ?_⟩
    have hmem : ∀ b : GridShape1D, ![x] ∈ boundingBox b ↔ 0 ≤ x ∧ x < b.shapeArray 0 :=
      fun b => by
        simp only [mem_one_iff, GridShape.boundingBox_min, GridShape.boundingBox_max,
          Matrix.cons_val_fin_one]
        omega
    exact (hr.cells _ ((hmem _).mpr ⟨hx, hx'⟩)).trans
      (if_congr ((hmem _).trans (by omega)) rfl rfl)

/-- A `2 × 3 × 4` destination and a `3 × 2 × 2` source, and a `4`-cell destination and a `2`-cell
source, satisfy the hypotheses: the cell `[1, 1, 1]`, below both extents, takes the source's `7`,
and the cell `[1, 2, 1]`, beyond the source's second extent, keeps its `0`; likewise in 1-D. -/
theorem gridBlitFrom_min_extent_corner :
    Grid.Valid (⟨⟨![2, 3, 4]⟩, List.replicate 24 0, none⟩ : Grid3D Nat) ∧
      Grid.Valid (⟨⟨![3, 2, 2]⟩, List.range 12, none⟩ : Grid3D Nat) ∧
      (∃ d', Grid3D.gridBlitFrom ⟨⟨![2, 3, 4]⟩, List.replicate 24 0, none⟩
          (⟨⟨![3, 2, 2]⟩, List.range 12, none⟩ : Grid3D Nat) = some d' ∧
        d'.getAtGridIndexUnchecked ![1, 1, 1] = some 7 ∧
        d'.getAtGridIndexUnchecked ![1, 2, 1] = some 0) ∧
      Grid.Valid (⟨⟨![4]⟩, List.replicate 4 0, none⟩ : Grid1D Nat) ∧
      Grid.Valid (⟨⟨![2]⟩, [5, 6], none⟩ : Grid1D Nat) ∧
      ∃ d', Grid1D.gridBlitFrom ⟨⟨![4]⟩, List.replicate 4 0, none⟩
          (⟨⟨![2]⟩, [5, 6], none⟩ : Grid1D Nat) = some d' ∧
        d'.getAtGridIndexUnchecked ![1] = some 6 ∧ d'.getAtGridIndexUnchecked ![3] = some 0 := by
  obtain ⟨d₃, h₃, -, -, hcells₃⟩ := gridBlitFrom_min_extent.1
    (⟨⟨![2, 3, 4]⟩, List.replicate 24 0, none⟩ : Grid3D Nat) ⟨⟨![3, 2, 2]⟩, List.range 12, none⟩
    rfl rfl
  obtain ⟨d₁, h₁, -, -, hcells₁⟩ := gridBlitFrom_min_extent.2
    (⟨⟨![4]⟩, List.replicate 4 0, none⟩ : Grid1D Nat) ⟨⟨![2]⟩, [5, 6], none⟩ rfl rfl
  refine ⟨rfl, rfl, ⟨d₃, h₃, ?_, ?_⟩, rfl, rfl, d₁, h₁, ?_, ?_⟩
  · exact (hcells₃ 1 1 1 (by decide) (by decide) (by decide) (by decide) (by decide)
      (by decide)).trans (if_pos (by decide))
  · exact (hcells₃ 1 2 1 (by decide) (by decide) (by decide) (by decide) (by decide)
      (by decide)).trans (if_neg (by decide))
  · exact (hcells₁ 1 (by decide) (by decide)).trans (if_pos (by decide))
  · exact (hcells₁ 3 (by decide) (by decide)).trans (if_neg (by decide))

/-- **Round trip.** Blitting a valid grid into a valid grid of the same shape replaces the buffer
with the source's, in 3-D and in 1-D. -/
theorem gridBlitFrom_same_shape :
    (∀ d s : Grid3D T, d.Valid → s.Valid → s.shape = d.shape →
      d.gridBlitFrom s = some { d with data := s.data }) ∧
    (∀ d s : Grid1D T, d.Valid → s.Valid → s.shape = d.shape →
      d.gridBlitFrom s = some { d with data := s.data }) := by
  refine ⟨fun d s hd hs hshape => ?_, fun d s hd hs hshape => ?_⟩
  · obtain ⟨_, h, hr⟩ := Grid3D.gridBlitFrom_blitResult d s hd hs
    exact h.trans (congrArg some (hr.unique (.of_same_box hs (congrArg _ hshape) hd) hd))
  · obtain ⟨_, h, hr⟩ := Grid1D.gridBlitFrom_blitResult d s hd hs
    exact h.trans (congrArg some (hr.unique (.of_same_box hs (congrArg _ hshape) hd) hd))

/-- Two `2 × 2 × 2` grids and two `3`-cell grids satisfy the hypotheses. -/
theorem gridBlitFrom_same_shape_cubes :
    Grid.Valid (⟨⟨![2, 2, 2]⟩, List.replicate 8 0, none⟩ : Grid3D Nat) ∧
      Grid.Valid (⟨⟨![2, 2, 2]⟩, List.range 8, none⟩ : Grid3D Nat) ∧
      Grid3D.gridBlitFrom ⟨⟨![2, 2, 2]⟩, List.replicate 8 0, none⟩
          (⟨⟨![2, 2, 2]⟩, List.range 8, none⟩ : Grid3D Nat) =
        some ⟨⟨![2, 2, 2]⟩, List.range 8, none⟩ ∧
      Grid.Valid (⟨⟨![3]⟩, [0, 0, 0], none⟩ : Grid1D Nat) ∧
      Grid.Valid (⟨⟨![3]⟩, [1, 2, 3], none⟩ : Grid1D Nat) ∧
      Grid1D.gridBlitFrom ⟨⟨![3]⟩, [0, 0, 0], none⟩ (⟨⟨![3]⟩, [1, 2, 3], none⟩ : Grid1D Nat) =
        some ⟨⟨![3]⟩, [1, 2, 3], none⟩ :=
  ⟨rfl, rfl, gridBlitFrom_same_shape.1 _ _ rfl rfl rfl, rfl, rfl,
    gridBlitFrom_same_shape.2 _ _ rfl rfl rfl⟩

end GeoEngine
