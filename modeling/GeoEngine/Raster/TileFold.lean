import GeoEngine.Raster.BlitCellwise

/-!
# Blitting a sequence of tiles

The raster adapters assemble an output tile by blitting the tiles of their sub-queries into one
accumulator, one after the other: a run `ts.foldlM Grid2D.gridBlitFromGrid d` of the dense 2-D
blit. Each step is a `BlitResult` (`Grid2D.gridBlitFromGrid_blitResult`), and `BlitResult`
keeps the invariant of `Grid::new`, so the run never panics, and every cell ends with the value
of the **last** tile whose box holds it, or keeps its value when no tile does
(`foldlM_gridBlitFromGrid`). `lastCovering` names that tile.

So the order of the tiles matters only where their boxes overlap: two blits of dense or empty
tiles with disjoint boxes give the same grid in either order (`gridBlitFromGridOrEmpty_comm`), and
blitting a tile again changes nothing (`gridBlitFromGridOrEmpty_idem`).
-/

namespace GeoEngine

variable {D T : Type} {n : Nat}

/-- The last of the grids `ts` whose bounding box holds the index `idx`. -/
def lastCovering [GridBounds D n] (idx : GridIdx n) : List (Grid D T) → Option (Grid D T)
  | [] => none
  | t :: ts => (lastCovering idx ts).or (if idx ∈ boundingBox t.shape then some t else none)

/-- **A run of blits.** Blitting valid tiles of any 2-D bounds one after the other into a valid
destination never panics, keeps the destination's shape, no-data value and buffer length, and
leaves every cell with the value of the last tile whose box holds it, or with its old value when
no tile does. -/
theorem foldlM_gridBlitFromGrid [GridBounds D 2] :
    ∀ (ts : List (Grid D T)) (d : Grid2D T), d.Valid → (∀ t ∈ ts, t.Valid) →
      ∃ d', ts.foldlM Grid2D.gridBlitFromGrid d = some d' ∧ d'.shape = d.shape ∧
        d'.noDataValue = d.noDataValue ∧ d'.data.length = d.data.length ∧
        ∀ idx ∈ boundingBox d.shape, d'.getAtGridIndexUnchecked idx =
          (lastCovering idx ts).elim (d.getAtGridIndexUnchecked idx)
            fun t => t.getAtGridIndexUnchecked idx
  | [], d, _, _ => ⟨d, rfl, rfl, rfl, rfl, fun _ _ => rfl⟩
  | t :: ts, d, hd, hts => by
    obtain ⟨d₁, h₁, hr⟩ := d.gridBlitFromGrid_blitResult t hd (hts t (List.mem_cons_self t ts))
    obtain ⟨d', h', hshape, hndv, hlen, hcells⟩ := foldlM_gridBlitFromGrid ts d₁ (hr.valid hd)
      fun t' ht' => hts t' (List.mem_cons_of_mem t ht')
    refine ⟨d', by rw [List.foldlM_cons, h₁]; exact h', hshape.trans hr.shape,
      hndv.trans hr.noDataValue, hlen.trans hr.length, fun idx hidx => ?_⟩
    rw [hcells idx (hr.shape ▸ hidx), lastCovering]
    cases lastCovering idx ts with
    | some t' => rfl
    | none =>
      -- no later tile holds the cell: it has the value the first blit left
      rw [hr.cells idx hidx]
      split_ifs <;> rfl

/-- A `4 × 4` destination and the two tiles of the source tests, at offsets `[2, 2]` and
`[-2, -2]`, satisfy the hypotheses. -/
theorem foldlM_gridBlitFromGrid_two_tiles :
    Grid.Valid (⟨⟨![4, 4]⟩, List.replicate 16 0, none⟩ : Grid2D Nat) ∧
      (∀ t ∈ [(⟨⟨![2, 2], ![5, 5]⟩, List.range 16, none⟩ : Grid (GridBoundingBox 2) Nat),
        ⟨⟨![-2, -2], ![1, 1]⟩, List.range 16, none⟩], t.Valid) ∧
      ∃ d', [(⟨⟨![2, 2], ![5, 5]⟩, List.range 16, none⟩ : Grid (GridBoundingBox 2) Nat),
          ⟨⟨![-2, -2], ![1, 1]⟩, List.range 16, none⟩].foldlM Grid2D.gridBlitFromGrid
            ⟨⟨![4, 4]⟩, List.replicate 16 0, none⟩ = some d' ∧
        d'.shape = ⟨![4, 4]⟩ ∧ d'.noDataValue = none ∧ d'.data.length = 16 ∧
        ∀ idx ∈ boundingBox (⟨![4, 4]⟩ : GridShape2D), d'.getAtGridIndexUnchecked idx =
          (lastCovering idx
            [(⟨⟨![2, 2], ![5, 5]⟩, List.range 16, none⟩ : Grid (GridBoundingBox 2) Nat),
              ⟨⟨![-2, -2], ![1, 1]⟩, List.range 16, none⟩]).elim
            (Grid.getAtGridIndexUnchecked (⟨⟨![4, 4]⟩, List.replicate 16 0, none⟩ : Grid2D Nat) idx)
            fun t => t.getAtGridIndexUnchecked idx := by
  have hts : ∀ t ∈ [(⟨⟨![2, 2], ![5, 5]⟩, List.range 16, none⟩ : Grid (GridBoundingBox 2) Nat),
      ⟨⟨![-2, -2], ![1, 1]⟩, List.range 16, none⟩], t.Valid := by
    simp only [List.mem_cons, List.mem_singleton, List.not_mem_nil, or_false, forall_eq_or_imp,
      forall_eq]
    exact ⟨rfl, rfl⟩
  have hd : Grid.Valid (⟨⟨![4, 4]⟩, List.replicate 16 0, none⟩ : Grid2D Nat) := rfl
  exact ⟨hd, hts, foldlM_gridBlitFromGrid _ _ hd hts⟩

example : ([(⟨⟨![2, 2], ![5, 5]⟩, List.range 16, none⟩ : Grid (GridBoundingBox 2) Nat),
    ⟨⟨![-2, -2], ![1, 1]⟩, List.range 16, none⟩].foldlM Grid2D.gridBlitFromGrid
      ⟨⟨![4, 4]⟩, List.replicate 16 0, none⟩).map Grid.data =
    some [10, 11, 0, 0, 14, 15, 0, 0, 0, 0, 0, 1, 0, 0, 4, 5] := rfl

/-- **Blitting a tile again changes nothing.** For a valid destination and a valid dense or empty
tile of any 2-D bounds, the second of two blits of the tile returns the grid the first one
returned. -/
theorem Grid2D.gridBlitFromGridOrEmpty_idem [GridBounds D 2] (d : Grid2D T) (t : GridOrEmpty D T)
    (hd : d.Valid) (ht : t.Valid) :
    (d.gridBlitFromGridOrEmpty t).bind (·.gridBlitFromGridOrEmpty t) =
      d.gridBlitFromGridOrEmpty t := by
  obtain ⟨d₁, h₁, hr₁⟩ := d.gridBlitFromGridOrEmpty_blitResult t hd ht
  obtain ⟨d₂, h₂, hr₂⟩ := d₁.gridBlitFromGridOrEmpty_blitResult t (hr₁.valid hd) ht
  rw [h₁, Option.some_bind, h₂, hr₁.idem hr₂ hd]

/-- A `4 × 4` destination and a `2 × 2` tile at offset `[1, 1]` satisfy the hypotheses. -/
theorem gridBlitFromGridOrEmpty_idem_offset :
    Grid.Valid (⟨⟨![4, 4]⟩, List.replicate 16 0, none⟩ : Grid2D Nat) ∧
      GridOrEmpty.Valid (.grid (⟨⟨![1, 1], ![2, 2]⟩, [1, 2, 3, 4], none⟩ :
        Grid (GridBoundingBox 2) Nat)) ∧
      (Grid2D.gridBlitFromGridOrEmpty ⟨⟨![4, 4]⟩, List.replicate 16 0, none⟩
          (.grid (⟨⟨![1, 1], ![2, 2]⟩, [1, 2, 3, 4], none⟩ : Grid (GridBoundingBox 2) Nat))).bind
          (·.gridBlitFromGridOrEmpty
            (.grid (⟨⟨![1, 1], ![2, 2]⟩, [1, 2, 3, 4], none⟩ : Grid (GridBoundingBox 2) Nat))) =
        Grid2D.gridBlitFromGridOrEmpty ⟨⟨![4, 4]⟩, List.replicate 16 0, none⟩
          (.grid (⟨⟨![1, 1], ![2, 2]⟩, [1, 2, 3, 4], none⟩ : Grid (GridBoundingBox 2) Nat)) :=
  have hd : Grid.Valid (⟨⟨![4, 4]⟩, List.replicate 16 0, none⟩ : Grid2D Nat) := rfl
  have ht : GridOrEmpty.Valid (.grid (⟨⟨![1, 1], ![2, 2]⟩, [1, 2, 3, 4], none⟩ :
      Grid (GridBoundingBox 2) Nat)) := rfl
  ⟨hd, ht, Grid2D.gridBlitFromGridOrEmpty_idem _ _ hd ht⟩

/-- **Tiles with disjoint boxes commute.** For a valid destination and two valid dense or empty
tiles of any 2-D bounds whose boxes do not intersect, blitting the first and then the second
returns the grid that blitting the second and then the first returns. -/
theorem Grid2D.gridBlitFromGridOrEmpty_comm {D₁ D₂ : Type} [GridBounds D₁ 2] [GridBounds D₂ 2]
    (d : Grid2D T) (t₁ : GridOrEmpty D₁ T) (t₂ : GridOrEmpty D₂ T) (hd : d.Valid)
    (ht₁ : t₁.Valid) (ht₂ : t₂.Valid)
    (hdisj : (boundingBox t₁.shape).intersection (boundingBox t₂.shape) = none) :
    (d.gridBlitFromGridOrEmpty t₁).bind (·.gridBlitFromGridOrEmpty t₂) =
      (d.gridBlitFromGridOrEmpty t₂).bind (·.gridBlitFromGridOrEmpty t₁) := by
  obtain ⟨d₁, h₁, hr₁⟩ := d.gridBlitFromGridOrEmpty_blitResult t₁ hd ht₁
  obtain ⟨d₁₂, h₁₂, hr₁₂⟩ := d₁.gridBlitFromGridOrEmpty_blitResult t₂ (hr₁.valid hd) ht₂
  obtain ⟨d₂, h₂, hr₂⟩ := d.gridBlitFromGridOrEmpty_blitResult t₂ hd ht₂
  obtain ⟨d₂₁, h₂₁, hr₂₁⟩ := d₂.gridBlitFromGridOrEmpty_blitResult t₁ (hr₂.valid hd) ht₁
  rw [h₁, Option.some_bind, h₁₂, h₂, Option.some_bind, h₂₁,
    hr₁.comm hr₁₂ hr₂ hr₂₁ (fun _ => GridBoundingBox.not_mem_of_intersection_eq_none hdisj) hd]

/-- A `4 × 4` destination, a `2 × 2` dense tile at the origin and an empty `2 × 2` tile at
offset `[2, 2]` satisfy the hypotheses. -/
theorem gridBlitFromGridOrEmpty_comm_corners :
    Grid.Valid (⟨⟨![4, 4]⟩, List.replicate 16 0, none⟩ : Grid2D Nat) ∧
      GridOrEmpty.Valid (.grid (⟨⟨![2, 2]⟩, [1, 2, 3, 4], none⟩ : Grid GridShape2D Nat)) ∧
      GridOrEmpty.Valid (.empty (⟨⟨![2, 2], ![3, 3]⟩, 9⟩ : NoDataGrid (GridBoundingBox 2) Nat)) ∧
      (boundingBox (GridOrEmpty.shape (.grid (⟨⟨![2, 2]⟩, [1, 2, 3, 4], none⟩ :
          Grid GridShape2D Nat)))).intersection
        (boundingBox (GridOrEmpty.shape (.empty (⟨⟨![2, 2], ![3, 3]⟩, 9⟩ :
          NoDataGrid (GridBoundingBox 2) Nat)))) = none ∧
      (Grid2D.gridBlitFromGridOrEmpty ⟨⟨![4, 4]⟩, List.replicate 16 0, none⟩
          (.grid (⟨⟨![2, 2]⟩, [1, 2, 3, 4], none⟩ : Grid GridShape2D Nat))).bind
          (·.gridBlitFromGridOrEmpty
            (.empty (⟨⟨![2, 2], ![3, 3]⟩, 9⟩ : NoDataGrid (GridBoundingBox 2) Nat))) =
        (Grid2D.gridBlitFromGridOrEmpty ⟨⟨![4, 4]⟩, List.replicate 16 0, none⟩
          (.empty (⟨⟨![2, 2], ![3, 3]⟩, 9⟩ : NoDataGrid (GridBoundingBox 2) Nat))).bind
          (·.gridBlitFromGridOrEmpty
            (.grid (⟨⟨![2, 2]⟩, [1, 2, 3, 4], none⟩ : Grid GridShape2D Nat))) :=
  have hd : Grid.Valid (⟨⟨![4, 4]⟩, List.replicate 16 0, none⟩ : Grid2D Nat) := rfl
  have ht₁ : GridOrEmpty.Valid
      (.grid (⟨⟨![2, 2]⟩, [1, 2, 3, 4], none⟩ : Grid GridShape2D Nat)) := rfl
  have ht₂ : GridOrEmpty.Valid
      (.empty (⟨⟨![2, 2], ![3, 3]⟩, 9⟩ : NoDataGrid (GridBoundingBox 2) Nat)) := trivial
  have hdisj : (boundingBox (GridOrEmpty.shape (.grid (⟨⟨![2, 2]⟩, [1, 2, 3, 4], none⟩ :
          Grid GridShape2D Nat)))).intersection
        (boundingBox (GridOrEmpty.shape (.empty (⟨⟨![2, 2], ![3, 3]⟩, 9⟩ :
          NoDataGrid (GridBoundingBox 2) Nat)))) = none := rfl
  ⟨hd, ht₁, ht₂, hdisj, Grid2D.gridBlitFromGridOrEmpty_comm _ _ _ hd ht₁ ht₂ hdisj⟩

end GeoEngine
