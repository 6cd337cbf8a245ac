import GeoEngine.Raster.Grid

/-!
# The blit operations

The five implementations of `GridBlit::grid_blit_from` in `raster/operations/grid_blit.rs`. Each
computes the intersection of the two bounding boxes and does nothing when it is empty; otherwise

* the dense blits (`Grid1D.gridBlitFrom`, `Grid2D.gridBlitFromGrid`, `Grid3D.gridBlitFrom`) copy
  one slice per row of the overlap, from the source buffer at the row's offset in the source box to
  the destination buffer at its offset in the destination box;
* the no-data blit (`Grid2D.gridBlitFromNoDataGrid`) writes the no-data value cell by cell through
  `set_at_grid_index_unchecked`;
* `Grid2D.gridBlitFromGridOrEmpty` dispatches on the tag.

A blit mutates `self` in place; here it returns the new `self`, or `none` where the source panics
(a slice range or an index outside its buffer). The bodies follow the source statement by
statement, under its names.

Beside them stand the blit as the specification describes it, every cell of the overlap copied
on its own (`Grid2D.gridBlitFromGridCellwise`, through the cell loop `Grid2D.writeCells` that
the no-data blit also is), and what a blit is for: `Grid.BlitResult d d' b value` says that `d'`
is `d` with the cells of the box `b` set to `value`. A valid grid has one such result
(`Grid.BlitResult.unique`), so two blits with the same `BlitResult` return the same grid.
-/

namespace GeoEngine

variable {D T : Type}

/-- `impl GridBlit<Grid1D<T>, T> for Grid1D<T>`: one slice copy of the overlap. -/
def Grid1D.gridBlitFrom (self other : Grid1D T) : Option (Grid1D T) :=
  let otherOffsetDim := boundingBox other.shape
  let offsetDim := boundingBox self.shape
  match offsetDim.intersection otherOffsetDim with
  | none => some self
  | some intersectionOffsetDim =>
    let overlapStart := intersectionOffsetDim.min
    let overlapSize := intersectionOffsetDim.axisSize 0
    let selfStartX := offsetDim.linearSpaceIndexUnchecked overlapStart
    let otherStartX := otherOffsetDim.linearSpaceIndexUnchecked overlapStart
    (copyRow self.data other.data selfStartX otherStartX overlapSize).map
      fun data => { self with data }

/-- `impl GridBlit<Grid<D, T>, T> for Grid2D<T>`: one slice copy per row `y` of the overlap; the
row starts at `[y, overlap_x_start]` in each box, with each box's own row stride. -/
def Grid2D.gridBlitFromGrid [GridBounds D 2] (self : Grid2D T) (other : Grid D T) :
    Option (Grid2D T) :=
  let otherOffsetDim := boundingBox other.shape
  let offsetDim := boundingBox self.shape
  match offsetDim.intersection otherOffsetDim with
  | none => some self
  | some intersectionOffsetDim =>
    let overlapYStart := intersectionOffsetDim.min 0
    let overlapXStart := intersectionOffsetDim.min 1
    let overlapYSize := intersectionOffsetDim.axisSize 0
    let overlapXSize := intersectionOffsetDim.axisSize 1
    let data := (intRange overlapYStart (overlapYStart + overlapYSize)).foldlM
      (fun data y =>
        let otherStartX := otherOffsetDim.linearSpaceIndexUnchecked ![y, overlapXStart]
        let selfStartX := offsetDim.linearSpaceIndexUnchecked ![y, overlapXStart]
        copyRow data other.data selfStartX otherStartX overlapXSize)
      self.data
    data.map fun data => { self with data }

/-- `impl GridBlit<NoDataGrid<D, T>, T> for Grid2D<T>`: the no-data value written cell by cell
over the overlap. -/
def Grid2D.gridBlitFromNoDataGrid [GridBounds D 2] (self : Grid2D T) (other : NoDataGrid D T) :
    Option (Grid2D T) :=
  let otherOffsetDim := boundingBox other.shape
  let offsetDim := boundingBox self.shape
  match offsetDim.intersection otherOffsetDim with
  | none => some self
  | some intersectionOffsetDim =>
    let overlapYStart := intersectionOffsetDim.min 0
    let overlapXStart := intersectionOffsetDim.min 1
    let overlapYSize := intersectionOffsetDim.axisSize 0
    let overlapXSize := intersectionOffsetDim.axisSize 1
    (intRange overlapYStart (overlapYStart + overlapYSize)).foldlM
      (fun self y =>
        (intRange overlapXStart (overlapXStart + overlapXSize)).foldlM
          (fun self x =>
            self.setAtGridIndexUnchecked ![y, x] (other.getAtGridIndexUnchecked ![y, x]))
          self)
      self

/-- `impl GridBlit<GridOrEmpty<D, T>, T> for Grid2D<T>`: dispatch on the tag. -/
def Grid2D.gridBlitFromGridOrEmpty [GridBounds D 2] (self : Grid2D T) :
    GridOrEmpty D T → Option (Grid2D T)
  | .grid g => self.gridBlitFromGrid g
  | .empty n => self.gridBlitFromNoDataGrid n

/-- `impl GridBlit<Grid3D<T>, T> for Grid3D<T>`: one slice copy per row `(z, y)` of the overlap. -/
def Grid3D.gridBlitFrom (self other : Grid3D T) : Option (Grid3D T) :=
  let otherOffsetDim := boundingBox other.shape
  let offsetDim := boundingBox self.shape
  match offsetDim.intersection otherOffsetDim with
  | none => some self
  | some intersectionOffsetDim =>
    let overlapZStart := intersectionOffsetDim.min 0
    let overlapYStart := intersectionOffsetDim.min 1
    let overlapXStart := intersectionOffsetDim.min 2
    let overlapZSize := intersectionOffsetDim.axisSize 0
    let overlapYSize := intersectionOffsetDim.axisSize 1
    let overlapXSize := intersectionOffsetDim.axisSize 2
    let data := (intRange overlapZStart (overlapZStart + overlapZSize)).foldlM
      (fun data z =>
        (intRange overlapYStart (overlapYStart + overlapYSize)).foldlM
          (fun data y =>
            let selfStartX := offsetDim.linearSpaceIndexUnchecked ![z, y, overlapXStart]
            let otherStartX := otherOffsetDim.linearSpaceIndexUnchecked ![z, y, overlapXStart]
            copyRow data other.data selfStartX otherStartX overlapXSize)
          data)
      self.data
    data.map fun data => { self with data }

/-! ### The element-wise blit of the specification -/

/-- Every cell of the box `i`, row by row, overwritten with `value` of the cell; `none` stops
the loop. The no-data blit is this loop over the overlap. -/
def Grid2D.writeCells (self : Grid2D T) (i : GridBoundingBox 2) (value : GridIdx 2 → Option T) :
    Option (Grid2D T) :=
  (intRange (i.min 0) (i.min 0 + i.axisSize 0)).foldlM
    (fun self y =>
      (intRange (i.min 1) (i.min 1 + i.axisSize 1)).foldlM
        (fun self x => (value ![y, x]).bind (self.setAtGridIndexUnchecked ![y, x]))
        self)
    self

theorem Grid2D.gridBlitFromNoDataGrid_eq_writeCells [GridBounds D 2] (self : Grid2D T)
    (other : NoDataGrid D T) :
    self.gridBlitFromNoDataGrid other =
      match (boundingBox self.shape).intersection (boundingBox other.shape) with
      | none => some self
      | some i => self.writeCells i fun idx => some (other.getAtGridIndexUnchecked idx) :=
  rfl

/-- The blit as the specification describes it (§4.2), for a dense source: every cell of the
overlap copied on its own, read at its offset in the source box and written at its offset in the
destination box. -/
def Grid2D.gridBlitFromGridCellwise [GridBounds D 2] (self : Grid2D T) (other : Grid D T) :
    Option (Grid2D T) :=
  match (boundingBox self.shape).intersection (boundingBox other.shape) with
  | none => some self
  | some i => self.writeCells i other.getAtGridIndexUnchecked

/-! ### What a blit does -/

section BlitResult

variable {n : Nat} [GridBounds D n]

/-- `d'` is `d` after the cells of the box `b` were given the values `value`: it has the layout of
`d`, holds `value` at the cells of `d` inside `b`, and the old values at the other cells. -/
structure Grid.BlitResult (d d' : Grid D T) (b : GridBoundingBox n)
    (value : GridIdx n → Option T) : Prop where
  shape : d'.shape = d.shape
  noDataValue : d'.noDataValue = d.noDataValue
  length : d'.data.length = d.data.length
  cells : ∀ idx ∈ boundingBox d.shape, d'.getAtGridIndexUnchecked idx =
    if idx ∈ b then value idx else d.getAtGridIndexUnchecked idx

namespace Grid.BlitResult

variable {d d' d'' : Grid D T} {b : GridBoundingBox n} {value : GridIdx n → Option T}

/-- A blit keeps the invariant of `Grid::new`. -/
theorem valid (h : d.BlitResult d' b value) (hd : d.Valid) : d'.Valid := by
  rw [Valid, h.length, h.shape]
  exact hd

/-- A blit into a valid grid has one result. -/
theorem unique (h : d.BlitResult d' b value) (h' : d.BlitResult d'' b value) (hd : d.Valid) :
    d' = d'' :=
  eq_of_cells (h.shape.trans h'.shape.symm) (h.noDataValue.trans h'.noDataValue.symm)
    (h.valid hd) (h'.valid hd) fun idx hidx => by
      rw [h.shape] at hidx
      rw [h.cells idx hidx, h'.cells idx hidx]

/-- The box and the values matter only at the cells of `d`. -/
theorem congr (h : d.BlitResult d' b value) {b' : GridBoundingBox n}
    {value' : GridIdx n → Option T} (hb : ∀ idx ∈ boundingBox d.shape, idx ∈ b ↔ idx ∈ b')
    (hv : ∀ idx ∈ boundingBox d.shape, idx ∈ b → value idx = value' idx) :
    d.BlitResult d' b' value' :=
  ⟨h.shape, h.noDataValue, h.length, fun idx hidx => by
    rw [h.cells idx hidx]
    by_cases hmem : idx ∈ b
    · rw [if_pos hmem, if_pos ((hb idx hidx).mp hmem), hv idx hidx hmem]
    · rw [if_neg hmem, if_neg (mt (hb idx hidx).mpr hmem)]⟩

/-- A box disjoint from `d` changes nothing. -/
theorem of_intersection_eq_none (h : (boundingBox d.shape).intersection b = none) :
    d.BlitResult d b value :=
  ⟨rfl, rfl, rfl, fun _ hidx => by
    rw [if_neg (GridBoundingBox.not_mem_of_intersection_eq_none h hidx)]⟩

/-- A source with the box of `d` replaces the whole buffer. -/
theorem of_same_box {D' : Type} [GridBounds D' n] {s : Grid D' T} (hs : s.Valid)
    (hbox : boundingBox s.shape = boundingBox d.shape) (hd : d.Valid) :
    d.BlitResult { d with data := s.data } (boundingBox s.shape) s.getAtGridIndexUnchecked :=
  ⟨rfl, rfl, by rw [hs, hd, hbox], fun idx hidx => by
    rw [if_pos (hbox ▸ hidx), getAtGridIndexUnchecked, getAtGridIndexUnchecked, hbox]⟩

/-- **Idempotence.** Blitting the same values over the same box a second time changes
nothing. -/
theorem idem (h : d.BlitResult d' b value) (h' : d'.BlitResult d'' b value) (hd : d.Valid) :
    d'' = d' :=
  eq_of_cells h'.shape h'.noDataValue (h'.valid (h.valid hd)) (h.valid hd) fun idx hidx => by
    rw [h'.shape, h.shape] at hidx
    rw [h'.cells idx (h.shape ▸ hidx), h.cells idx hidx]
    split_ifs <;> rfl

/-- **Commutation.** Blits over disjoint boxes give the same grid in either order. -/
theorem comm {d₁ d₂ d₁₂ d₂₁ : Grid D T} {b₁ b₂ : GridBoundingBox n}
    {value₁ value₂ : GridIdx n → Option T} (h₁ : d.BlitResult d₁ b₁ value₁)
    (h₁₂ : d₁.BlitResult d₁₂ b₂ value₂) (h₂ : d.BlitResult d₂ b₂ value₂)
    (h₂₁ : d₂.BlitResult d₂₁ b₁ value₁) (hdisj : ∀ idx ∈ b₁, idx ∉ b₂) (hd : d.Valid) :
    d₁₂ = d₂₁ := by
  refine eq_of_cells ((h₁₂.shape.trans h₁.shape).trans (h₂₁.shape.trans h₂.shape).symm)
    ((h₁₂.noDataValue.trans h₁.noDataValue).trans (h₂₁.noDataValue.trans h₂.noDataValue).symm)
    (h₁₂.valid (h₁.valid hd)) (h₂₁.valid (h₂.valid hd)) fun idx hidx => ?_
  rw [h₁₂.shape, h₁.shape] at hidx
  rw [h₁₂.cells idx (h₁.shape ▸ hidx), h₁.cells idx hidx, h₂₁.cells idx (h₂.shape ▸ hidx),
    h₂.cells idx hidx]
  by_cases hb₁ : idx ∈ b₁
  · rw [if_neg (hdisj idx hb₁), if_pos hb₁, if_pos hb₁]
  · rw [if_neg hb₁, if_neg hb₁]

end Grid.BlitResult

end BlitResult

end GeoEngine
