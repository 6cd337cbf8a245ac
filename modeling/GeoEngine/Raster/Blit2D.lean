import GeoEngine.Raster.GridBlit

/-!
# The dense 2-D blit

`Grid2D.gridBlitFromGrid` copies one slice per row of the overlap `i` of the destination box `x`
and the source box `b`. The row `y` starts at `x.linearSpaceIndexUnchecked [y, i.min 1]` in the
destination and at `b.linearSpaceIndexUnchecked [y, i.min 1]` in the source; the two boxes have
different row strides and different origins. Three facts about a row of a nonempty box `i` inside
a box `x`, stated once for both boxes, carry the proof:

* `row_add_le`: the row segment ends inside the buffer of `x` (so both slice ranges are in
  bounds);
* `row_covers_iff`: the destination cells the segment of row `y` overwrites are exactly the cells
  `[y, x']` of the overlap;
* `row_value`: the source offset the copy reads for such a cell is the cell's own offset in `b`.

The run lemma `foldlM_overwrites` then gives `Grid2D.gridBlitFromGrid_blitResult`: the blit never
panics, keeps shape, no-data value and buffer length, and leaves every destination cell with the
source value when the cell lies in the source box and unchanged otherwise
(`Grid2D.gridBlitFromGrid_cells`). A source with the destination's box replaces the whole buffer
(`Grid2D.gridBlitFromGrid_same_box`).
-/

namespace GeoEngine

variable {D T : Type}

namespace GridBoundingBox

/-- The cells `k` of a buffer over the box `x` that the row segment of length `len` starting at
`start` covers. -/
def rowSegment {n : Nat} (x : GridBoundingBox n) (start : GridIdx n) (len k : Nat) : Prop :=
  x.linearSpaceIndexUnchecked start ≤ k ∧ k < x.linearSpaceIndexUnchecked start + len

instance {n : Nat} (x : GridBoundingBox n) (start : GridIdx n) (len : Nat) :
    DecidablePred (x.rowSegment start len) :=
  fun _ => inferInstanceAs (Decidable (_ ∧ _))

/-- Membership in a 2-D box, axis by axis. -/
theorem mem_two_iff {b : GridBoundingBox 2} {idx : GridIdx 2} :
    idx ∈ b ↔ (b.min 0 ≤ idx 0 ∧ idx 0 ≤ b.max 0) ∧ (b.min 1 ≤ idx 1 ∧ idx 1 ≤ b.max 1) :=
  mem_iff.trans Fin.forall_fin_two

/-- The linear offset in a 2-D box, with the box's row stride. -/
theorem linearSpaceIndexUnchecked_two (b : GridBoundingBox 2) (idx : GridIdx 2) :
    b.linearSpaceIndexUnchecked idx =
      (idx 0 - b.min 0).toNat * (b.max 1 - b.min 1 + 1).toNat + (idx 1 - b.min 1).toNat := by
  simp [linearSpaceIndexUnchecked, axisSize]

section Row

variable {x i : GridBoundingBox 2}
  (hsub : ∀ k, x.min k ≤ i.min k ∧ i.max k ≤ x.max k ∧ i.min k ≤ i.max k)
include hsub

/-- The segment of row `y` of the overlap ends inside the buffer of the box. -/
theorem row_add_le {y : Int} (hy : i.min 0 ≤ y ∧ y ≤ i.max 0) :
    x.linearSpaceIndexUnchecked ![y, i.min 1] + i.axisSize 1 ≤ x.numberOfElements := by
  have h₀ := hsub 0
  have h₁ := hsub 1
  simp only [linearSpaceIndexUnchecked_two, numberOfElements, shapeProduct_two, axisSize,
    Matrix.cons_val_zero, Matrix.cons_val_one, Matrix.head_cons]
  exact row_major_add_le (by omega) (by omega)

/-- The cells of the box the segment of row `y` covers are the cells of row `y` of the overlap. -/
theorem row_covers_iff {idx : GridIdx 2} (hidx : idx ∈ x) {y : Int} (hy : i.min 0 ≤ y) :
    x.rowSegment ![y, i.min 1] (i.axisSize 1) (x.linearSpaceIndexUnchecked idx) ↔
      y = idx 0 ∧ i.min 1 ≤ idx 1 ∧ idx 1 ≤ i.max 1 := by
  have h₀ := hsub 0
  have h₁ := hsub 1
  have hx := mem_two_iff.mp hidx
  simp only [rowSegment, linearSpaceIndexUnchecked_two, axisSize, Matrix.cons_val_zero,
    Matrix.cons_val_one, Matrix.head_cons]
  constructor
  · rintro ⟨hlo, hhi⟩
    have := row_major_cover (by omega) (by omega) hlo hhi
    omega
  · rintro ⟨rfl, hlo, hhi⟩
    omega

end Row

/-- For a cell of the overlap `i` of two boxes `x` and `b`, the source offset of its row segment
plus its column within the segment is its own offset in `b`. -/
theorem row_value {x b i : GridBoundingBox 2}
    (hx : ∀ k, x.min k ≤ i.min k ∧ i.max k ≤ x.max k ∧ i.min k ≤ i.max k)
    (hb : ∀ k, b.min k ≤ i.min k ∧ i.max k ≤ b.max k ∧ i.min k ≤ i.max k)
    {idx : GridIdx 2} (hidx : idx ∈ i) :
    b.linearSpaceIndexUnchecked ![idx 0, i.min 1] +
        (x.linearSpaceIndexUnchecked idx - x.linearSpaceIndexUnchecked ![idx 0, i.min 1]) =
      b.linearSpaceIndexUnchecked idx := by
  have := hx 1
  have := hb 1
  have := mem_two_iff.mp hidx
  simp only [linearSpaceIndexUnchecked_two, Matrix.cons_val_zero, Matrix.cons_val_one,
    Matrix.head_cons]
  omega

/-- The loop `for v in min..min + axis_size` of a box visits exactly the box's range on that
axis. -/
theorem mem_intRange_axisSize {n : Nat} {b : GridBoundingBox n} {k : Fin n} {v : Int} :
    v ∈ intRange (b.min k) (b.min k + b.axisSize k) ↔ b.min k ≤ v ∧ v ≤ b.max k := by
  simp only [mem_intRange, axisSize]
  omega

end GridBoundingBox

open GridBoundingBox

/-- The dense 2-D blit succeeds on valid grids and copies the source's cells over its box. -/
theorem Grid2D.gridBlitFromGrid_blitResult [GridBounds D 2] (d : Grid2D T) (s : Grid D T)
    (hd : d.Valid) (hs : s.Valid) :
    ∃ d', d.gridBlitFromGrid s = some d' ∧
      d.BlitResult d' (boundingBox s.shape) s.getAtGridIndexUnchecked := by
  simp only [gridBlitFromGrid]
  split
  · exact ⟨d, rfl, .of_intersection_eq_none ‹_›⟩
  rename_i i hI
  obtain ⟨hA, hB⟩ := intersection_sub hI
  obtain ⟨out, hout, hlen, -, hval⟩ := foldlM_overwrites id (fun l => l.length = d.data.length)
    (fun y => (boundingBox d.shape).rowSegment ![y, i.min 1] (i.axisSize 1))
    (fun y k => s.data[(boundingBox s.shape).linearSpaceIndexUnchecked ![y, i.min 1] +
      (k - (boundingBox d.shape).linearSpaceIndexUnchecked ![y, i.min 1])]?)
    (intRange (i.min 0) (i.min 0 + i.axisSize 0)) d.data rfl fun y hy l hl => by
      have hy := mem_intRange_axisSize.mp hy
      obtain ⟨l', h, hov⟩ := copyRow_overwrites (hl ▸ hd ▸ row_add_le hA hy) (hs ▸ row_add_le hB hy)
      exact ⟨l', h, hov.1.trans hl, hov⟩
  refine ⟨{ d with data := out }, by rw [hout]; rfl, rfl, rfl, hlen, fun idx hidx => ?_⟩
  have hcovers : ∀ y ∈ intRange (i.min 0) (i.min 0 + i.axisSize 0),
      (boundingBox d.shape).rowSegment ![y, i.min 1] (i.axisSize 1)
          ((boundingBox d.shape).linearSpaceIndexUnchecked idx) ↔
        y = idx 0 ∧ i.min 1 ≤ idx 1 ∧ idx 1 ≤ i.max 1 :=
    fun y hy => row_covers_iff hA hidx (mem_intRange_axisSize.mp hy).1
  have hex : (∃ y ∈ intRange (i.min 0) (i.min 0 + i.axisSize 0),
      (boundingBox d.shape).rowSegment ![y, i.min 1] (i.axisSize 1)
        ((boundingBox d.shape).linearSpaceIndexUnchecked idx)) ↔ idx ∈ i := by
    rw [mem_two_iff]
    constructor
    · rintro ⟨y, hy, hc⟩
      obtain ⟨rfl, h₁⟩ := (hcovers y hy).mp hc
      exact ⟨mem_intRange_axisSize.mp hy, h₁⟩
    · rintro ⟨hy, h₁⟩
      have hy := mem_intRange_axisSize.mpr hy
      exact ⟨idx 0, hy, (hcovers _ hy).mpr ⟨rfl, h₁⟩⟩
  simp only [Grid.getAtGridIndexUnchecked]
  refine (hval _).trans ?_
  simp only [id]
  by_cases hmem : idx ∈ i
  · rw [if_pos (hex.mpr hmem), if_pos ((mem_intersection hI).mp hmem).2,
      lastWrite_of_covers (hex.mpr hmem) fun y hy hc => by
        obtain ⟨rfl, -⟩ := (hcovers y hy).mp hc
        exact congrArg (s.data[·]?) (row_value hA hB hmem)]
  · rw [if_neg (mt hex.mp hmem),
      if_neg fun hb => hmem ((mem_intersection hI).mpr ⟨hidx, hb⟩)]

/-- **Dense 2-D blit.** For a valid destination and a valid source of any 2-D bounds, the blit
performs only in-bounds slice accesses, keeps the destination's shape, no-data value and buffer
length, and afterwards every destination cell holds the source cell when it lies in the source
box, and its old value otherwise. -/
theorem Grid2D.gridBlitFromGrid_cells [GridBounds D 2] (d : Grid2D T) (s : Grid D T)
    (hd : d.Valid) (hs : s.Valid) :
    ∃ d', d.gridBlitFromGrid s = some d' ∧ d'.shape = d.shape ∧
      d'.noDataValue = d.noDataValue ∧ d'.data.length = d.data.length ∧
      ∀ idx ∈ boundingBox d.shape, d'.getAtGridIndexUnchecked idx =
        if idx ∈ boundingBox s.shape then s.getAtGridIndexUnchecked idx
        else d.getAtGridIndexUnchecked idx :=
  let ⟨d', h, hr⟩ := Grid2D.gridBlitFromGrid_blitResult d s hd hs
  ⟨d', h, hr.shape, hr.noDataValue, hr.length, hr.cells⟩

/-- The grids of the source test `grid_blit_from_2d_2_2`, a `4 × 4` source at offset `[2, 2]`,
satisfy the hypotheses. -/
theorem gridBlitFromGrid_cells_offset_two :
    Grid.Valid (⟨⟨![4, 4]⟩, List.replicate 16 0, none⟩ : Grid2D Nat) ∧
      Grid.Valid (⟨⟨![2, 2], ![5, 5]⟩, List.range 16, none⟩ : Grid (GridBoundingBox 2) Nat) ∧
      ∃ d', Grid2D.gridBlitFromGrid ⟨⟨![4, 4]⟩, List.replicate 16 0, none⟩
          (⟨⟨![2, 2], ![5, 5]⟩, List.range 16, none⟩ : Grid (GridBoundingBox 2) Nat) = some d' ∧
        d'.shape = ⟨![4, 4]⟩ ∧ d'.noDataValue = none ∧ d'.data.length = 16 ∧
        ∀ idx ∈ boundingBox (⟨![4, 4]⟩ : GridShape2D), d'.getAtGridIndexUnchecked idx =
          if idx ∈ boundingBox (⟨![2, 2], ![5, 5]⟩ : GridBoundingBox 2) then
            Grid.getAtGridIndexUnchecked
              (⟨⟨![2, 2], ![5, 5]⟩, List.range 16, none⟩ : Grid (GridBoundingBox 2) Nat) idx
          else Grid.getAtGridIndexUnchecked
            (⟨⟨![4, 4]⟩, List.replicate 16 0, none⟩ : Grid2D Nat) idx :=
  ⟨rfl, rfl, Grid2D.gridBlitFromGrid_cells _ _ rfl rfl⟩

/-- **Round trip.** A valid source with the destination's box replaces the destination's buffer
with its own. -/
theorem Grid2D.gridBlitFromGrid_same_box [GridBounds D 2] (d : Grid2D T) (s : Grid D T)
    (hd : d.Valid) (hs : s.Valid) (hbox : boundingBox s.shape = boundingBox d.shape) :
    d.gridBlitFromGrid s = some { d with data := s.data } :=
  let ⟨_, h, hr⟩ := Grid2D.gridBlitFromGrid_blitResult d s hd hs
  h.trans (congrArg some (hr.unique (.of_same_box hs hbox hd) hd))

/-- The grids of the source test `grid_blit_from_2d_0_0` satisfy the hypotheses. -/
theorem gridBlitFromGrid_same_box_sevens :
    Grid.Valid (⟨⟨![4, 4]⟩, List.replicate 16 0, none⟩ : Grid2D Nat) ∧
      Grid.Valid (⟨⟨![4, 4]⟩, List.replicate 16 7, none⟩ : Grid2D Nat) ∧
      boundingBox (⟨![4, 4]⟩ : GridShape2D) = boundingBox (⟨![4, 4]⟩ : GridShape2D) ∧
      Grid2D.gridBlitFromGrid ⟨⟨![4, 4]⟩, List.replicate 16 0, none⟩
          (⟨⟨![4, 4]⟩, List.replicate 16 7, none⟩ : Grid2D Nat) =
        some ⟨⟨![4, 4]⟩, List.replicate 16 7, none⟩ :=
  ⟨rfl, rfl, rfl, Grid2D.gridBlitFromGrid_same_box _ _ rfl rfl rfl⟩

/- The source tests `grid_blit_from_2d_2_2` and `grid_blit_from_2d_n2_n2`. -/
example : (Grid2D.gridBlitFromGrid ⟨⟨![4, 4]⟩, List.replicate 16 0, none⟩
    (⟨⟨![2, 2], ![5, 5]⟩, List.range 16, none⟩ : Grid (GridBoundingBox 2) Nat)).map Grid.data =
      some [0, 0, 0, 0, 0, 0, 0, 0, 0, 0, 0, 1, 0, 0, 4, 5] := rfl

example : (Grid2D.gridBlitFromGrid ⟨⟨![4, 4]⟩, List.replicate 16 0, none⟩
    (⟨⟨![-2, -2], ![1, 1]⟩, List.range 16, none⟩ : Grid (GridBoundingBox 2) Nat)).map Grid.data =
      some [10, 11, 0, 0, 14, 15, 0, 0, 0, 0, 0, 0, 0, 0, 0, 0] := rfl

end GeoEngine
