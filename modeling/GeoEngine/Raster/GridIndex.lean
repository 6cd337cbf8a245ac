import Mathlib.Data.Fin.Tuple.Basic
import Mathlib.Data.Fin.VecNotation

/-!
# Grid indices, bounding boxes and their linear layout

The grid geometry the blit engine of `raster/operations/grid_blit.rs` computes with: a `GridIdx`
(one `isize` per axis), the inclusive `GridBoundingBox`, the `intersection` of two boxes and the
row-major `linear_space_index_unchecked` that places an index into a buffer. The Rust source of
these types is not part of the repository's `src/`, so they are modelled from the specification
(§3 and §4.1):

* `GridBoundingBox.intersection a b` is, per axis, `max(a.min, b.min) ..= min(a.max, b.max)`, and
  **none** as soon as one axis range is empty (it is built with the checked `GridBoundingBox::new`);
* `GridBoundingBox.linearSpaceIndexUnchecked box idx` is the row-major offset of `idx - box.min`,
  the last axis varying fastest and the box's own axis sizes as strides.

`isize` and `usize` are `Int` and `Nat`; the Rust `as usize` of an axis offset is `Int.toNat`. The
two agree on every offset the blit computes, all of which lie inside their boxes.

The row-major layout is stated once for every number of axes (`rowMajorOffset`, in Horner form);
the equations `rowMajorOffset_two` and `rowMajorOffset_three` give the source's stride formulas
`y * size_x + x` and `(z * size_y + y) * size_x + x`. The lemmas `row_major_add_le` and
`row_major_cover` are the two facts about rows of width `w` that every blit proof uses: a row
segment ends inside the block, and a cell covered by a row segment lies in that row.
-/

namespace GeoEngine

/-! ### Rows of a row-major block -/

/-- A segment of length `m` starting at column `b` of row `a` ends inside a block of `h` rows of
width `w`. -/
theorem row_major_add_le {a h b m w : Nat} (ha : a < h) (hb : b + m ≤ w) :
    a * w + b + m ≤ h * w :=
  calc a * w + b + m ≤ a * w + w := by omega
    _ = (a + 1) * w := (Nat.add_one_mul a w).symm
    _ ≤ h * w := Nat.mul_le_mul_right w ha

/-- A cell `(c, e)` of a block of width `w` that falls into the segment of row `a` from column
`b` to `b + m` lies in row `a`, between those columns. -/
theorem row_major_cover {a b c e m w : Nat} (hb : b + m ≤ w) (he : e < w)
    (h₁ : a * w + b ≤ c * w + e) (h₂ : c * w + e < a * w + b + m) :
    a = c ∧ b ≤ e ∧ e < b + m := by
  obtain rfl : a = c := by
    rcases Nat.lt_trichotomy a c with hac | hac | hac
    · have := row_major_add_le hac hb
      omega
    · exact hac
    · have := row_major_add_le hac (show e + 1 ≤ w by omega)
      omega
  omega

/-- Row-major coordinates are unique: `a * w + b` determines the row `a` and column `b < w`. -/
theorem row_major_eq_iff {a b c e w : Nat} (hb : b < w) (he : e < w) :
    a * w + b = c * w + e ↔ a = c ∧ b = e := by
  refine ⟨fun h => ?_, fun ⟨h₁, h₂⟩ => h₁ ▸ h₂ ▸ rfl⟩
  obtain ⟨rfl, -, -⟩ := row_major_cover (m := 1) hb he h.le (by omega)
  omega

/-! ### The row-major layout -/

/-- Row-major offset of the per-axis offsets `off` in a block of axis sizes `size`: the last axis
varies fastest, every other axis is scaled by the sizes of the axes after it. -/
def rowMajorOffset : {n : Nat} → (Fin n → Nat) → (Fin n → Nat) → Nat
  | 0, _, _ => 0
  | _ + 1, size, off =>
    rowMajorOffset (Fin.init size) (Fin.init off) * size (Fin.last _) + off (Fin.last _)

/-- The number of cells of a block of axis sizes `size`. -/
def shapeProduct : {n : Nat} → (Fin n → Nat) → Nat
  | 0, _ => 1
  | _ + 1, size => shapeProduct (Fin.init size) * size (Fin.last _)

@[simp]
theorem rowMajorOffset_one (size off : Fin 1 → Nat) : rowMajorOffset size off = off 0 := by
  simp [rowMajorOffset]

@[simp]
theorem rowMajorOffset_two (size off : Fin 2 → Nat) :
    rowMajorOffset size off = off 0 * size 1 + off 1 := by
  simp only [rowMajorOffset, Nat.zero_mul, Nat.zero_add]
  rfl

@[simp]
theorem rowMajorOffset_three (size off : Fin 3 → Nat) :
    rowMajorOffset size off = (off 0 * size 1 + off 1) * size 2 + off 2 := by
  simp only [rowMajorOffset, Nat.zero_mul, Nat.zero_add]
  rfl

@[simp]
theorem shapeProduct_one (size : Fin 1 → Nat) : shapeProduct size = size 0 := by
  simp [shapeProduct]

@[simp]
theorem shapeProduct_two (size : Fin 2 → Nat) : shapeProduct size = size 0 * size 1 := by
  simp only [shapeProduct, Nat.one_mul]
  rfl

@[simp]
theorem shapeProduct_three (size : Fin 3 → Nat) :
    shapeProduct size = size 0 * size 1 * size 2 := by
  simp only [shapeProduct, Nat.one_mul]
  rfl

/-- Offsets inside the block are placed inside the buffer. -/
theorem rowMajorOffset_lt : ∀ {n : Nat} {size off : Fin n → Nat},
    (∀ k, off k < size k) → rowMajorOffset size off < shapeProduct size
  | 0, _, _, _ => Nat.one_pos
  | _ + 1, _, _, h => by
    have hinit := rowMajorOffset_lt fun k => h (Fin.castSucc k)
    exact row_major_add_le (m := 1) hinit (h (Fin.last _))

/-- Every offset of the block is the row-major offset of some per-axis offsets inside it. -/
theorem exists_rowMajorOffset_eq : ∀ {n : Nat} {size : Fin n → Nat} {k : Nat},
    k < shapeProduct size → ∃ off : Fin n → Nat, (∀ i, off i < size i) ∧ rowMajorOffset size off = k
  | 0, _, _, h => ⟨Fin.elim0, fun i => i.elim0, by
    simp only [shapeProduct, rowMajorOffset] at h ⊢
    omega⟩
  | _ + 1, size, k, h => by
    rw [shapeProduct] at h
    have hlast : 0 < size (Fin.last _) := Nat.pos_of_ne_zero fun h0 => by simp [h0] at h
    obtain ⟨off, hoff, heq⟩ := exists_rowMajorOffset_eq (Nat.div_lt_of_lt_mul (k := shapeProduct
      (Fin.init size)) (by rwa [Nat.mul_comm] at h))
    refine ⟨Fin.snoc (α := fun _ => Nat) off (k % size (Fin.last _)), fun i => ?_, ?_⟩
    · cases i using Fin.lastCases with
      | last => simpa only [Fin.snoc_last] using Nat.mod_lt k hlast
      | cast i => simpa only [Fin.snoc_castSucc] using hoff i
    · rw [rowMajorOffset, Fin.init_snoc, heq, Fin.snoc_last, Nat.mul_comm]
      exact Nat.div_add_mod k _

/-! ### Indices and bounding boxes -/

/-- Modelled from the spec: `GridIdx<[isize; N]>`, one signed coordinate per axis. -/
abbrev GridIdx (n : Nat) := Fin n → Int

/-- Modelled from the spec: `GridBoundingBox<[isize; N]>`, an axis-aligned box of grid indices,
inclusive at both ends. -/
structure GridBoundingBox (n : Nat) where
  /-- The smallest index on every axis. -/
  min : GridIdx n
  /-- The largest index on every axis. -/
  max : GridIdx n

namespace GridBoundingBox

variable {n : Nat}

/-- Modelled from the spec: `GridBoundingBox::new`, the box from `min` to `max`, refused when an
axis range is empty. -/
def new (min max : GridIdx n) : Option (GridBoundingBox n) :=
  if ∀ k, min k ≤ max k then some ⟨min, max⟩ else none

/-- An index lies in a box when it lies between `min` and `max` on every axis. -/
instance : Membership (GridIdx n) (GridBoundingBox n) :=
  ⟨fun b idx => ∀ k, b.min k ≤ idx k ∧ idx k ≤ b.max k⟩

theorem mem_iff {b : GridBoundingBox n} {idx : GridIdx n} :
    idx ∈ b ↔ ∀ k, b.min k ≤ idx k ∧ idx k ≤ b.max k :=
  Iff.rfl

instance (b : GridBoundingBox n) (idx : GridIdx n) : Decidable (idx ∈ b) :=
  inferInstanceAs (Decidable (∀ k, b.min k ≤ idx k ∧ idx k ≤ b.max k))

/-- Modelled from the spec: `GridSize::axis_size`, the number of indices of the box along axis
`k`. -/
def axisSize (b : GridBoundingBox n) (k : Fin n) : Nat :=
  (b.max k - b.min k + 1).toNat

/-- Modelled from the spec: `GridSize::number_of_elements`, the number of cells of the box. -/
def numberOfElements (b : GridBoundingBox n) : Nat :=
  shapeProduct b.axisSize

/-- Modelled from the spec: `GridSpaceToLinearSpace::linear_space_index_unchecked`, the row-major
offset of `idx` in a buffer laid out over the box. -/
def linearSpaceIndexUnchecked (b : GridBoundingBox n) (idx : GridIdx n) : Nat :=
  rowMajorOffset b.axisSize fun k => (idx k - b.min k).toNat

/-- Every offset of the buffer of a box is the offset of some index of the box. -/
theorem exists_linearSpaceIndexUnchecked_eq {b : GridBoundingBox n} {k : Nat}
    (hk : k < b.numberOfElements) : ∃ idx ∈ b, b.linearSpaceIndexUnchecked idx = k := by
  obtain ⟨off, hoff, rfl⟩ := exists_rowMajorOffset_eq hk
  refine ⟨fun i => b.min i + off i, fun i => ?_,
    congrArg (rowMajorOffset b.axisSize) (funext fun i => by beta_reduce; omega)⟩
  have := hoff i
  simp only [axisSize] at this
  show b.min i ≤ b.min i + off i ∧ b.min i + off i ≤ b.max i
  omega

/-- Modelled from the spec: `GridIntersection::intersection`, per axis the larger minimum and the
smaller maximum, `none` when one axis range is empty. -/
def intersection (a b : GridBoundingBox n) : Option (GridBoundingBox n) :=
  new (fun k => Max.max (a.min k) (b.min k)) (fun k => Min.min (a.max k) (b.max k))

/-- An index of the box is placed inside the buffer of the box. -/
theorem linearSpaceIndexUnchecked_lt {b : GridBoundingBox n} {idx : GridIdx n} (h : idx ∈ b) :
    b.linearSpaceIndexUnchecked idx < b.numberOfElements :=
  rowMajorOffset_lt fun k => by have := h k; simp only [axisSize]; omega

/-- The box a successful intersection returns: on every axis the larger minimum and the smaller
maximum, and a nonempty range. -/
theorem intersection_eq_some {a b i : GridBoundingBox n} (h : a.intersection b = some i)
    (k : Fin n) : i.min k = Max.max (a.min k) (b.min k) ∧ i.max k = Min.min (a.max k) (b.max k) ∧
      i.min k ≤ i.max k := by
  simp only [intersection, new] at h
  split at h
  · rename_i hne
    cases h
    exact ⟨rfl, rfl, hne k⟩
  · cases h

/-- The overlap of two boxes is a nonempty box inside each of them. -/
theorem intersection_sub {a b i : GridBoundingBox n} (h : a.intersection b = some i) :
    (∀ k, a.min k ≤ i.min k ∧ i.max k ≤ a.max k ∧ i.min k ≤ i.max k) ∧
      ∀ k, b.min k ≤ i.min k ∧ i.max k ≤ b.max k ∧ i.min k ≤ i.max k :=
  ⟨fun k => by have := intersection_eq_some h k; omega,
    fun k => by have := intersection_eq_some h k; omega⟩

/-- **Intersection**: an index lies in the intersection iff it lies in both boxes. -/
theorem mem_intersection {a b i : GridBoundingBox n} (h : a.intersection b = some i)
    {idx : GridIdx n} : idx ∈ i ↔ idx ∈ a ∧ idx ∈ b := by
  simp only [mem_iff]
  exact ⟨fun hi => ⟨fun k => by have := hi k; have := intersection_eq_some h k; omega,
      fun k => by have := hi k; have := intersection_eq_some h k; omega⟩,
    fun ⟨ha, hb⟩ k => by have := ha k; have := hb k; have := intersection_eq_some h k; omega⟩

/-- Disjoint boxes: when the intersection is empty no index lies in both boxes. -/
theorem not_mem_of_intersection_eq_none {a b : GridBoundingBox n}
    (h : a.intersection b = none) {idx : GridIdx n} (ha : idx ∈ a) : idx ∉ b := by
  intro hb
  simp only [intersection, new, ite_eq_right_iff, reduceCtorEq, imp_false, not_forall] at h
  obtain ⟨k, hk⟩ := h
  have := ha k
  have := hb k
  omega

/-- The intersection does not depend on the order of the boxes. -/
theorem intersection_comm (a b : GridBoundingBox n) : a.intersection b = b.intersection a := by
  simp only [intersection, max_comm, min_comm]

end GridBoundingBox

end GeoEngine
