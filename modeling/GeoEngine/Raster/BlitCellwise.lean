import GeoEngine.Raster.Blit2D

/-!
# Cell-by-cell blits: the no-data blit and the blit of the specification

A `NoDataGrid` has no buffer, so `Grid2D.gridBlitFromNoDataGrid` writes the no-data value into the
destination cell by cell, with two nested loops over the overlap and one
`set_at_grid_index_unchecked` per cell: it is the loop `Grid2D.writeCells` over the overlap
(`Grid2D.gridBlitFromNoDataGrid_eq_writeCells`). The specification describes the dense blit the
same way, every cell of the overlap copied on its own (`Grid2D.gridBlitFromGridCellwise`).

The loop state of `writeCells` is the whole destination grid; the invariant `SameLayout` says
that it still has the destination's shape, no-data value and buffer length. The run lemma
`foldlM_overwrites` is applied twice: to the inner loop over `x`, whose steps are single
assignments, and to the outer loop over `y`, whose steps are inner loops. Distinct cells of a box
have distinct offsets (`linearSpaceIndexUnchecked_two_inj`), so the cells written are exactly
those of the box: `Grid2D.writeCells_blitResult`.

From it: the no-data blit and its `GridOrEmpty::Empty` dispatch
(`Grid2D.gridBlitFromNoDataGrid_cells`); the row copies of the dense blit return what the
element-wise copy returns (`Grid2D.gridBlitFromGrid_eq_cellwise`); and the two arms of the
`GridOrEmpty` dispatch agree on what an empty grid stands for
(`Grid2D.gridBlitFromGridOrEmpty_empty_eq_grid`).
-/

namespace GeoEngine

variable {D T : Type}

namespace GridBoundingBox

/-- Two cells of a 2-D box with the same offset are the same cell. -/
theorem linearSpaceIndexUnchecked_two_inj {b : GridBoundingBox 2} {p q : GridIdx 2} (hp : p ∈ b)
    (hq : q ∈ b) (h : b.linearSpaceIndexUnchecked p = b.linearSpaceIndexUnchecked q) : p = q := by
  have hp := mem_two_iff.mp hp
  have hq := mem_two_iff.mp hq
  rw [linearSpaceIndexUnchecked_two, linearSpaceIndexUnchecked_two,
    row_major_eq_iff (by omega) (by omega)] at h
  exact funext (Fin.forall_fin_two.mpr ⟨by omega, by omega⟩)

end GridBoundingBox

open GridBoundingBox

/-- The loop state of `writeCells` has the destination's shape, no-data value and buffer
length. -/
def Grid.SameLayout (d g : Grid2D T) : Prop :=
  g.shape = d.shape ∧ g.noDataValue = d.noDataValue ∧ g.data.length = d.data.length

/-- Writing every cell of a box inside a valid grid, with values defined on the whole box,
succeeds and gives every cell of the box its value. -/
theorem Grid2D.writeCells_blitResult (d : Grid2D T) (hd : d.Valid) {i : GridBoundingBox 2}
    (hi : ∀ idx ∈ i, idx ∈ boundingBox d.shape) (value : GridIdx 2 → Option T)
    (hvalue : ∀ idx ∈ i, (value idx).isSome) :
    ∃ d', d.writeCells i value = some d' ∧ d.BlitResult d' i value := by
  have hcell : ∀ y x, y ∈ intRange (i.min 0) (i.min 0 + i.axisSize 0) →
      x ∈ intRange (i.min 1) (i.min 1 + i.axisSize 1) → ![y, x] ∈ i := fun y x hy hx => by
    simp only [mem_two_iff, Matrix.cons_val_zero, Matrix.cons_val_one, Matrix.head_cons]
    exact ⟨mem_intRange_axisSize.mp hy, mem_intRange_axisSize.mp hx⟩
  -- the inner loop over `x`, for one row `y`
  have hinner : ∀ y ∈ intRange (i.min 0) (i.min 0 + i.axisSize 0), ∀ g, d.SameLayout g →
      ∃ g', (intRange (i.min 1) (i.min 1 + i.axisSize 1)).foldlM
          (fun self x => (value ![y, x]).bind (self.setAtGridIndexUnchecked ![y, x]))
          g = some g' ∧ d.SameLayout g' ∧
        Overwrites (fun k => ∃ x ∈ intRange (i.min 1) (i.min 1 + i.axisSize 1),
            k = (boundingBox d.shape).linearSpaceIndexUnchecked ![y, x])
          (lastWrite (fun x k => k = (boundingBox d.shape).linearSpaceIndexUnchecked ![y, x])
            (fun x _ => value ![y, x]) (intRange (i.min 1) (i.min 1 + i.axisSize 1)) [])
          g.data g'.data := fun y hy g hg =>
    foldlM_overwrites Grid.data d.SameLayout _ _ _ g hg fun x hx => by
      rintro ⟨shape, data, noDataValue⟩ ⟨rfl, rfl, hl⟩
      obtain ⟨v, hv⟩ := Option.isSome_iff_exists.mp (hvalue _ (hcell y x hy hx))
      have hlt : (boundingBox d.shape).linearSpaceIndexUnchecked ![y, x] < data.length :=
        hl ▸ hd ▸ linearSpaceIndexUnchecked_lt (hi _ (hcell y x hy hx))
      obtain ⟨out, hout, hov⟩ := setIndex_overwrites hlt v
      exact ⟨⟨d.shape, out, d.noDataValue⟩,
        by rw [hv, Option.some_bind, Grid.setAtGridIndexUnchecked, hout]; rfl,
        ⟨rfl, rfl, hov.1.trans hl⟩, hv ▸ hov⟩
  obtain ⟨out, hout, ⟨hshape, hndv, hlen⟩, -, hval⟩ :=
    foldlM_overwrites Grid.data d.SameLayout _ _ _ d ⟨rfl, rfl, rfl⟩ hinner
  refine ⟨out, hout, hshape, hndv, hlen, fun idx hidx => ?_⟩
  -- a written offset is the offset of the cell `[y, x]` written there
  have hsame : ∀ y x, y ∈ intRange (i.min 0) (i.min 0 + i.axisSize 0) →
      x ∈ intRange (i.min 1) (i.min 1 + i.axisSize 1) →
      (boundingBox d.shape).linearSpaceIndexUnchecked idx =
        (boundingBox d.shape).linearSpaceIndexUnchecked ![y, x] → ![y, x] = idx :=
    fun y x hy hx h => linearSpaceIndexUnchecked_two_inj (hi _ (hcell y x hy hx)) hidx h.symm
  have hex : (∃ y ∈ intRange (i.min 0) (i.min 0 + i.axisSize 0),
      ∃ x ∈ intRange (i.min 1) (i.min 1 + i.axisSize 1),
        (boundingBox d.shape).linearSpaceIndexUnchecked idx =
          (boundingBox d.shape).linearSpaceIndexUnchecked ![y, x]) ↔ idx ∈ i := by
    constructor
    · rintro ⟨y, hy, x, hx, h⟩
      exact hsame y x hy hx h ▸ hcell y x hy hx
    · intro hmem
      obtain ⟨hy, hx⟩ := mem_two_iff.mp hmem
      exact ⟨idx 0, mem_intRange_axisSize.mpr hy, idx 1, mem_intRange_axisSize.mpr hx, by
        simp [linearSpaceIndexUnchecked_two]⟩
  simp only [Grid.getAtGridIndexUnchecked, hshape, hval]
  by_cases hmem : idx ∈ i
  · rw [if_pos (hex.mpr hmem), if_pos hmem]
    exact lastWrite_of_covers (hex.mpr hmem) fun y hy hc =>
      lastWrite_of_covers hc fun x hx h => congrArg value (hsame y x hy hx h)
  · rw [if_neg (mt hex.mp hmem), if_neg hmem]

/-! ### The no-data blit -/

/-- The no-data blit succeeds on a valid destination and writes the no-data value over the box of
the no-data grid. -/
theorem Grid2D.gridBlitFromNoDataGrid_blitResult [GridBounds D 2] (d : Grid2D T)
    (n : NoDataGrid D T) (hd : d.Valid) :
    ∃ d', d.gridBlitFromNoDataGrid n = some d' ∧
      d.BlitResult d' (boundingBox n.shape) fun _ => some n.noDataValue := by
  rw [gridBlitFromNoDataGrid_eq_writeCells]
  split
  · exact ⟨d, rfl, .of_intersection_eq_none ‹_›⟩
  rename_i i hI
  obtain ⟨d', h, hr⟩ :=
    d.writeCells_blitResult hd (fun _ h => ((mem_intersection hI).mp h).1)
      (fun idx => some (n.getAtGridIndexUnchecked idx)) fun _ _ => rfl
  exact ⟨d', h, hr.congr (fun _ hidx => (mem_intersection hI).trans (and_iff_right hidx))
    fun _ _ _ => rfl⟩

/-- The `GridOrEmpty` blit succeeds on a valid destination and a valid dense or empty grid, and
writes the cells of the grid's box. -/
theorem Grid2D.gridBlitFromGridOrEmpty_blitResult [GridBounds D 2] (d : Grid2D T)
    (t : GridOrEmpty D T) (hd : d.Valid) (ht : t.Valid) :
    ∃ d', d.gridBlitFromGridOrEmpty t = some d' ∧
      d.BlitResult d' (boundingBox t.shape) t.getAtGridIndexUnchecked := by
  cases t with
  | grid g => exact d.gridBlitFromGrid_blitResult g hd ht
  | empty n => exact d.gridBlitFromNoDataGrid_blitResult n hd

/-- **No-data blit.** For a valid destination and a no-data grid of any 2-D bounds, the blit and
its `GridOrEmpty::Empty` dispatch write only cells of the destination, keep its shape, no-data
value and buffer length, and afterwards every destination cell holds the no-data value when it
lies in the no-data grid's box, and its old value otherwise. -/
theorem Grid2D.gridBlitFromNoDataGrid_cells [GridBounds D 2] (d : Grid2D T)
    (n : NoDataGrid D T) (hd : d.Valid) :
    ∃ d', d.gridBlitFromNoDataGrid n = some d' ∧ d.gridBlitFromGridOrEmpty (.empty n) = some d' ∧
      d'.shape = d.shape ∧ d'.noDataValue = d.noDataValue ∧ d'.data.length = d.data.length ∧
      ∀ idx ∈ boundingBox d.shape, d'.getAtGridIndexUnchecked idx =
        if idx ∈ boundingBox n.shape then some n.noDataValue
        else d.getAtGridIndexUnchecked idx :=
  let ⟨d', h, hr⟩ := Grid2D.gridBlitFromNoDataGrid_blitResult d n hd
  ⟨d', h, h, hr.shape, hr.noDataValue, hr.length, hr.cells⟩

/-- A `4 × 4` destination and a no-data grid at offset `[-2, -2]` satisfy the hypothesis. -/
theorem gridBlitFromNoDataGrid_cells_offset :
    Grid.Valid (⟨⟨![4, 4]⟩, List.replicate 16 0, none⟩ : Grid2D Nat) ∧
      ∃ d', Grid2D.gridBlitFromNoDataGrid ⟨⟨![4, 4]⟩, List.replicate 16 0, none⟩
            (⟨⟨![-2, -2], ![1, 1]⟩, 7⟩ : NoDataGrid (GridBoundingBox 2) Nat) = some d' ∧
          Grid2D.gridBlitFromGridOrEmpty ⟨⟨![4, 4]⟩, List.replicate 16 0, none⟩
            (.empty (⟨⟨![-2, -2], ![1, 1]⟩, 7⟩ : NoDataGrid (GridBoundingBox 2) Nat)) = some d' ∧
        d'.shape = ⟨![4, 4]⟩ ∧ d'.noDataValue = none ∧ d'.data.length = 16 ∧
        ∀ idx ∈ boundingBox (⟨![4, 4]⟩ : GridShape2D), d'.getAtGridIndexUnchecked idx =
          if idx ∈ boundingBox (⟨![-2, -2], ![1, 1]⟩ : GridBoundingBox 2) then some 7
          else Grid.getAtGridIndexUnchecked
            (⟨⟨![4, 4]⟩, List.replicate 16 0, none⟩ : Grid2D Nat) idx :=
  ⟨rfl, Grid2D.gridBlitFromNoDataGrid_cells _ _ rfl⟩

example : (Grid2D.gridBlitFromNoDataGrid ⟨⟨![4, 4]⟩, List.replicate 16 0, none⟩
    (⟨⟨![-2, -2], ![1, 1]⟩, 7⟩ : NoDataGrid (GridBoundingBox 2) Nat)).map Grid.data =
      some [7, 7, 0, 0, 7, 7, 0, 0, 0, 0, 0, 0, 0, 0, 0, 0] := rfl

/-! ### The dense blit against the specification -/

/-- The element-wise blit succeeds on valid grids and copies the source's cells over its box. -/
theorem Grid2D.gridBlitFromGridCellwise_blitResult [GridBounds D 2] (d : Grid2D T)
    (s : Grid D T) (hd : d.Valid) (hs : s.Valid) :
    ∃ d', d.gridBlitFromGridCellwise s = some d' ∧
      d.BlitResult d' (boundingBox s.shape) s.getAtGridIndexUnchecked := by
  unfold gridBlitFromGridCellwise
  split
  · exact ⟨d, rfl, .of_intersection_eq_none ‹_›⟩
  rename_i i hI
  obtain ⟨d', h, hr⟩ := d.writeCells_blitResult hd (fun _ h => ((mem_intersection hI).mp h).1)
    s.getAtGridIndexUnchecked fun _ h =>
      s.getAtGridIndexUnchecked_isSome hs ((mem_intersection hI).mp h).2
  exact ⟨d', h, hr.congr (fun _ hidx => (mem_intersection hI).trans (and_iff_right hidx))
    fun _ _ _ => rfl⟩

/-- **Row copies are element-wise copies.** On valid grids the dense 2-D blit, one slice copy per
row of the overlap with the two boxes' row strides, returns what copying every cell of the
overlap on its own returns. -/
theorem Grid2D.gridBlitFromGrid_eq_cellwise [GridBounds D 2] (d : Grid2D T) (s : Grid D T)
    (hd : d.Valid) (hs : s.Valid) : d.gridBlitFromGrid s = d.gridBlitFromGridCellwise s := by
  obtain ⟨d₁, h₁, hr₁⟩ := d.gridBlitFromGrid_blitResult s hd hs
  obtain ⟨d₂, h₂, hr₂⟩ := d.gridBlitFromGridCellwise_blitResult s hd hs
  rw [h₁, h₂, hr₁.unique hr₂ hd]

/-- The grids of the source test `grid_blit_from_2d_n2_n2` satisfy the hypotheses. -/
theorem gridBlitFromGrid_eq_cellwise_offset :
    Grid.Valid (⟨⟨![4, 4]⟩, List.replicate 16 0, none⟩ : Grid2D Nat) ∧
      Grid.Valid (⟨⟨![-2, -2], ![1, 1]⟩, List.range 16, none⟩ : Grid (GridBoundingBox 2) Nat) ∧
      Grid2D.gridBlitFromGrid ⟨⟨![4, 4]⟩, List.replicate 16 0, none⟩
          (⟨⟨![-2, -2], ![1, 1]⟩, List.range 16, none⟩ : Grid (GridBoundingBox 2) Nat) =
        Grid2D.gridBlitFromGridCellwise ⟨⟨![4, 4]⟩, List.replicate 16 0, none⟩
          (⟨⟨![-2, -2], ![1, 1]⟩, List.range 16, none⟩ : Grid (GridBoundingBox 2) Nat) :=
  ⟨rfl, rfl, Grid2D.gridBlitFromGrid_eq_cellwise _ _ rfl rfl⟩

/-- **The two arms of `GridOrEmpty` agree.** Blitting an empty grid writes what blitting the
dense grid of its shape, filled with its no-data value, writes. -/
theorem Grid2D.gridBlitFromGridOrEmpty_empty_eq_grid [GridBounds D 2] (d : Grid2D T)
    (n : NoDataGrid D T) (hd : d.Valid) :
    d.gridBlitFromGridOrEmpty (.empty n) =
      d.gridBlitFromGridOrEmpty (.grid ⟨n.shape,
        List.replicate (boundingBox n.shape).numberOfElements n.noDataValue,
        some n.noDataValue⟩) := by
  obtain ⟨d₁, h₁, hr₁⟩ := d.gridBlitFromNoDataGrid_blitResult n hd
  obtain ⟨d₂, h₂, hr₂⟩ := d.gridBlitFromGrid_blitResult
    ⟨n.shape, List.replicate (boundingBox n.shape).numberOfElements n.noDataValue,
      some n.noDataValue⟩ hd (List.length_replicate ..)
  have hr₂' := hr₂.congr (fun _ _ => Iff.rfl) fun _ _ hidx =>
    List.getElem?_replicate_of_lt (linearSpaceIndexUnchecked_lt hidx)
  exact h₁.trans ((congrArg some (hr₁.unique hr₂' hd)).trans h₂.symm)

/-- A `4 × 4` destination and an empty grid at offset `[-2, -2]` satisfy the hypothesis. -/
theorem gridBlitFromGridOrEmpty_empty_eq_grid_offset :
    Grid.Valid (⟨⟨![4, 4]⟩, List.replicate 16 0, none⟩ : Grid2D Nat) ∧
      Grid2D.gridBlitFromGridOrEmpty ⟨⟨![4, 4]⟩, List.replicate 16 0, none⟩
          (.empty (⟨⟨![-2, -2], ![1, 1]⟩, 7⟩ : NoDataGrid (GridBoundingBox 2) Nat)) =
        Grid2D.gridBlitFromGridOrEmpty ⟨⟨![4, 4]⟩, List.replicate 16 0, none⟩
          (.grid (⟨⟨![-2, -2], ![1, 1]⟩, List.replicate 16 7, some 7⟩ :
            Grid (GridBoundingBox 2) Nat)) :=
  ⟨rfl, Grid2D.gridBlitFromGridOrEmpty_empty_eq_grid _ _ rfl⟩

end GeoEngine
