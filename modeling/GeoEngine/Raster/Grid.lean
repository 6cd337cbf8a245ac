import GeoEngine.Raster.GridIndex
import GeoEngine.Raster.Buffer

/-!
# Grids, no-data grids and cell access

The grid types the blits of `raster/operations/grid_blit.rs` read and write. A `Grid<D, T>` holds
a dense row-major buffer over the bounding box of its shape `D`; a `NoDataGrid<D, T>` has a shape
and a no-data value but no buffer; a `GridOrEmpty<D, T>` is one of the two. The shape `D` is a
`GridShape` anchored at the origin or a `GridBoundingBox` anywhere: the source reaches it through
the traits `GridBounds` and `BoundedGrid`, modelled here by the class `GridBounds` and by
`boundingBox`. Sizes and linear offsets of a shape are those of the box it spans (the two
coincide for a shape at the origin), so they are defined once, on boxes.

`Grid.Valid` is the invariant `Grid::new` checks: one buffer value per cell of the shape.
`Grid.getAtGridIndexUnchecked` and `Grid.setAtGridIndexUnchecked` index the buffer at the cell's
row-major offset, and panic (`none`) past its end.
-/

namespace GeoEngine

variable {n : Nat} {D T : Type}

/-- Modelled from the spec: `GridShape<[usize; N]>`, the axis sizes of a grid anchored at the
origin. -/
structure GridShape (n : Nat) where
  /-- The number of cells along every axis. -/
  shapeArray : Fin n → Nat

/-- `GridShape1D`. -/
abbrev GridShape1D := GridShape 1

/-- `GridShape2D`, axes `[y, x]`. -/
abbrev GridShape2D := GridShape 2

/-- `GridShape3D`, axes `[z, y, x]`. -/
abbrev GridShape3D := GridShape 3

/-- Modelled from the spec: `GridBounds`, the smallest and the largest index of a shape, on every
axis. -/
class GridBounds (D : Type) (n : outParam Nat) where
  /-- `GridBounds::min_index`. -/
  minIndex : D → GridIdx n
  /-- `GridBounds::max_index`. -/
  maxIndex : D → GridIdx n

/-- A shape spans the indices from the origin to one less than its size on every axis. -/
instance : GridBounds (GridShape n) n :=
  ⟨fun _ _ => 0, fun s k => (s.shapeArray k : Int) - 1⟩

instance : GridBounds (GridBoundingBox n) n :=
  ⟨GridBoundingBox.min, GridBoundingBox.max⟩

/-- Modelled from the spec: `BoundedGrid::bounding_box`, the box spanned by the bounds. It is not
checked, so the box of a shape with an empty axis has `max = min - 1` there and holds no index. -/
def boundingBox [GridBounds D n] (d : D) : GridBoundingBox n :=
  ⟨GridBounds.minIndex d, GridBounds.maxIndex d⟩

@[simp]
theorem boundingBox_gridBoundingBox (b : GridBoundingBox n) : boundingBox b = b :=
  rfl

namespace GridShape

variable (s : GridShape n)

@[simp]
theorem boundingBox_min (k : Fin n) : (boundingBox s).min k = 0 :=
  rfl

@[simp]
theorem boundingBox_max (k : Fin n) : (boundingBox s).max k = (s.shapeArray k : Int) - 1 :=
  rfl

@[simp]
theorem axisSize_boundingBox : (boundingBox s).axisSize = s.shapeArray :=
  funext fun k => by simp [GridBoundingBox.axisSize]

@[simp]
theorem numberOfElements_boundingBox :
    (boundingBox s).numberOfElements = shapeProduct s.shapeArray := by
  simp only [GridBoundingBox.numberOfElements, axisSize_boundingBox]

@[simp]
theorem linearSpaceIndexUnchecked_boundingBox (idx : GridIdx n) :
    (boundingBox s).linearSpaceIndexUnchecked idx =
      rowMajorOffset s.shapeArray fun k => (idx k).toNat := by
  simp only [GridBoundingBox.linearSpaceIndexUnchecked, axisSize_boundingBox, boundingBox_min,
    Int.sub_zero]

theorem mem_boundingBox {idx : GridIdx n} :
    idx ∈ boundingBox s ↔ ∀ k, 0 ≤ idx k ∧ idx k < s.shapeArray k := by
  simp only [GridBoundingBox.mem_iff, boundingBox_min, boundingBox_max]
  exact forall_congr' fun k => by omega

end GridShape

/-- Modelled from the spec: `Grid<D, T>`, a buffer laid out row-major over the bounding box of
`shape`. -/
@[ext]
structure Grid (D T : Type) where
  /-- The shape, a `GridShape` or a `GridBoundingBox`. -/
  shape : D
  /-- The row-major buffer. -/
  data : List T
  /-- The value that marks a cell without data, if any. -/
  noDataValue : Option T

/-- `Grid1D<T>`. -/
abbrev Grid1D (T : Type) := Grid GridShape1D T

/-- `Grid2D<T>`. -/
abbrev Grid2D (T : Type) := Grid GridShape2D T

/-- `Grid3D<T>`. -/
abbrev Grid3D (T : Type) := Grid GridShape3D T

namespace Grid

variable [GridBounds D n]

/-- The invariant `Grid::new` checks: the buffer holds one value per cell of the shape. -/
def Valid (g : Grid D T) : Prop :=
  g.data.length = (boundingBox g.shape).numberOfElements

/-- Modelled from the spec: `Grid::new`, refused unless the buffer fits the shape. -/
def new (shape : D) (data : List T) (noDataValue : Option T) : Option (Grid D T) :=
  if data.length = (boundingBox shape).numberOfElements then some ⟨shape, data, noDataValue⟩
  else none

/-- The grids `Grid::new` builds are exactly the valid ones. -/
theorem new_eq_some_iff {shape : D} {data : List T} {noDataValue : Option T} {g : Grid D T} :
    new shape data noDataValue = some g ↔ g = ⟨shape, data, noDataValue⟩ ∧ g.Valid := by
  unfold new Valid
  split <;> constructor
  · rintro ⟨⟩; exact ⟨rfl, ‹_›⟩
  · rintro ⟨rfl, -⟩; rfl
  · rintro ⟨⟩
  · rintro ⟨rfl, h⟩; contradiction

/-- Modelled from the spec: `GridIndexAccess::get_at_grid_index_unchecked`, the value at the
cell's row-major offset. -/
def getAtGridIndexUnchecked (g : Grid D T) (idx : GridIdx n) : Option T :=
  g.data[(boundingBox g.shape).linearSpaceIndexUnchecked idx]?

/-- Modelled from the spec: `GridIndexAccessMut::set_at_grid_index_unchecked`,
`self.data[index] = value` at the cell's row-major offset. -/
def setAtGridIndexUnchecked (g : Grid D T) (idx : GridIdx n) (value : T) : Option (Grid D T) :=
  (setIndex g.data ((boundingBox g.shape).linearSpaceIndexUnchecked idx) value).map
    fun data => { g with data }

/-- The cells of a valid grid are all in its buffer. -/
theorem getAtGridIndexUnchecked_isSome {g : Grid D T} (hg : g.Valid) {idx : GridIdx n}
    (h : idx ∈ boundingBox g.shape) : (g.getAtGridIndexUnchecked idx).isSome := by
  rw [getAtGridIndexUnchecked,
    List.getElem?_eq_getElem (hg ▸ GridBoundingBox.linearSpaceIndexUnchecked_lt h)]
  rfl

/-- **Extensionality.** Two valid grids of one shape with the same cells have the same buffer:
every buffer offset is the offset of a cell. -/
theorem data_eq_of_cells {g₁ g₂ : Grid D T} (hshape : g₁.shape = g₂.shape) (h₁ : g₁.Valid)
    (h₂ : g₂.Valid) (hcells : ∀ idx ∈ boundingBox g₁.shape,
      g₁.getAtGridIndexUnchecked idx = g₂.getAtGridIndexUnchecked idx) :
    g₁.data = g₂.data := by
  refine List.ext_getElem? fun k => ?_
  by_cases hk : k < (boundingBox g₁.shape).numberOfElements
  · obtain ⟨idx, hidx, rfl⟩ := GridBoundingBox.exists_linearSpaceIndexUnchecked_eq hk
    have := hcells idx hidx
    rwa [getAtGridIndexUnchecked, getAtGridIndexUnchecked, ← hshape] at this
  · rw [List.getElem?_eq_none (by rw [h₁]; omega),
      List.getElem?_eq_none (by rw [h₂, ← hshape]; omega)]

/-- Two valid grids of one shape and one no-data value with the same cells are equal. -/
theorem eq_of_cells {g₁ g₂ : Grid D T} (hshape : g₁.shape = g₂.shape)
    (hndv : g₁.noDataValue = g₂.noDataValue) (h₁ : g₁.Valid) (h₂ : g₂.Valid)
    (hcells : ∀ idx ∈ boundingBox g₁.shape,
      g₁.getAtGridIndexUnchecked idx = g₂.getAtGridIndexUnchecked idx) : g₁ = g₂ :=
  Grid.ext hshape (data_eq_of_cells hshape h₁ h₂ hcells) hndv

end Grid

/-- Modelled from the spec: `NoDataGrid<D, T>`, a grid of the given shape holding only its no-data
value, without a buffer. -/
structure NoDataGrid (D T : Type) where
  /-- The shape, a `GridShape` or a `GridBoundingBox`. -/
  shape : D
  /-- The value of every cell. -/
  noDataValue : T

/-- Modelled from the spec: `GridIndexAccess::get_at_grid_index_unchecked` of a `NoDataGrid`, the
no-data value. -/
def NoDataGrid.getAtGridIndexUnchecked (g : NoDataGrid D T) (_ : GridIdx n) : T :=
  g.noDataValue

/-- Modelled from the spec: `GridOrEmpty<D, T>`, a dense grid, or an empty one that holds only its
no-data value. -/
inductive GridOrEmpty (D T : Type)
  /-- `GridOrEmpty::Grid`. -/
  | grid (g : Grid D T)
  /-- `GridOrEmpty::Empty`. -/
  | empty (g : NoDataGrid D T)

namespace GridOrEmpty

/-- The shape of the grid, dense or empty. -/
def shape : GridOrEmpty D T → D
  | .grid g => g.shape
  | .empty g => g.shape

/-- The value of a cell: the buffer value of a dense grid, the no-data value of an empty one. -/
def getAtGridIndexUnchecked [GridBounds D n] : GridOrEmpty D T → GridIdx n → Option T
  | .grid g, idx => g.getAtGridIndexUnchecked idx
  | .empty g, idx => some (g.getAtGridIndexUnchecked idx)

/-- A dense grid that `Grid::new` accepts, or an empty grid. -/
def Valid [GridBounds D n] : GridOrEmpty D T → Prop
  | .grid g => g.Valid
  | .empty _ => True

end GridOrEmpty

end GeoEngine
