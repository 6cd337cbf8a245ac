import GeoEngine.Adapters.Stream
import Mathlib.Data.List.Dedup
import Mathlib.Data.List.SplitBy

/-!
# Folding a raster stream per time interval

Modelled from the spec. `RasterStreamExt::time_multi_fold(accum_init_fn, fold_fn)`
(`src/operators/src/adapters/mod.rs`) wraps a stream of raster tiles in a `RasterTimeMultiFold`,
whose code is not under `src/`. Its documentation says: for all raster tiles of the same interval
one fold is performed and one output is generated; before each fold the accumulator is generated
by `accum_init_fn`; within a fold the tiles are processed by `fold_fn`; and the tiles are assumed
to arrive geo first, time second.

`timeMultiFold` is the state machine of the spec as a `StreamAdapter`. Between two tiles it is
`idle` or `accumulating` an open interval. A tile of another interval completes the open
accumulator (the spec's `Emitting`) and opens its own interval; the end of the upstream and an
upstream error are the spec's `Done` and `Failed`.

The documented assumption is `Grouped`: the tiles of each interval arrive contiguously.

The error path follows the spec, not the signature in `mod.rs`. There `fold_fn` has the type
`FnMut(Accum, Self::Item) -> Fut` with `Self::Item = Result<RasterTile2D<P>>`, so the signature
would let an upstream error reach the caller's fold. The spec's §4.4 passes an upstream error on
and discards the open accumulator, and that is what `timeMultiFold` does: its `foldFn` sees only
ok tiles, and `StreamAdapter.runFrom` handles errors (`timeMultiFold_error`).

## Main results

* `timeMultiFold_grouped`: on grouped intervals the consumer sees one accumulator per distinct
  interval, in arrival order, each the fold of exactly that interval's tiles from a fresh
  accumulator;
* `timeMultiFold_runs`: on any intervals, grouped or not, the consumer sees one accumulator per
  maximal run of tiles of one interval (`List.splitBy`), so an interval whose tiles are not
  contiguous gives one accumulator per run;
* `timeMultiFold_error`: an upstream error takes the place of the open interval's accumulator,
  which is discarded, and ends the stream.
-/

namespace GeoEngine

/-- Modelled from the spec: the states of the time multi-fold between two upstream tiles: no
open interval, or an open interval with its accumulator. -/
inductive TimeFoldState (I Accum : Type) where
  | idle
  | accumulating (interval : I) (accum : Accum)

variable {Tile I Accum E : Type} [DecidableEq I]

/-- Modelled from the spec: `time_multi_fold(accum_init_fn, fold_fn)` over tiles whose time
interval is `time`, where `accumInitFn` is the accumulator `accum_init_fn()` returns. A tile of
the open interval is folded into its accumulator; a tile of another interval completes the open
accumulator and opens its own interval with a fresh accumulator; the end of the upstream
completes the open accumulator. -/
def timeMultiFold (time : Tile → I) (accumInitFn : Accum) (foldFn : Accum → Tile → Accum) :
    StreamAdapter (TimeFoldState I Accum) Tile Accum where
  step
    | .idle, tile => (.accumulating (time tile) (foldFn accumInitFn tile), [])
    | .accumulating interval accum, tile =>
      if time tile = interval then (.accumulating interval (foldFn accum tile), [])
      else (.accumulating (time tile) (foldFn accumInitFn tile), [accum])
  flush
    | .idle => []
    | .accumulating _ accum => [accum]

section Step

variable (time : Tile → I) (accumInitFn : Accum) (foldFn : Accum → Tile → Accum)

@[simp]
theorem timeMultiFold_step_idle (tile : Tile) :
    (timeMultiFold time accumInitFn foldFn).step .idle tile =
      (.accumulating (time tile) (foldFn accumInitFn tile), []) :=
  rfl

theorem timeMultiFold_step_of_eq {interval : I} {tile : Tile} (h : time tile = interval)
    (accum : Accum) :
    (timeMultiFold time accumInitFn foldFn).step (.accumulating interval accum) tile =
      (.accumulating interval (foldFn accum tile), []) :=
  if_pos h

theorem timeMultiFold_step_of_ne {interval : I} {tile : Tile} (h : time tile ≠ interval)
    (accum : Accum) :
    (timeMultiFold time accumInitFn foldFn).step (.accumulating interval accum) tile =
      (.accumulating (time tile) (foldFn accumInitFn tile), [accum]) :=
  if_neg h

end Step

/-- The intervals arrive grouped: the tiles of each interval are contiguous, so an interval
that occurs again occurs again right away. -/
def Grouped : List I → Prop
  | [] => True
  | i :: is => (i ∈ is → is.head? = some i) ∧ Grouped is

instance decidableGrouped : DecidablePred (Grouped (I := I))
  | [] => inferInstanceAs (Decidable True)
  | _ :: is => @instDecidableAnd _ _ inferInstance (decidableGrouped is)

omit [DecidableEq I] in
/-- In grouped intervals, an interval followed by a different one does not occur again. -/
theorem Grouped.not_mem {i j : I} {is : List I} (h : Grouped (i :: j :: is)) (hij : j ≠ i) :
    i ∉ j :: is :=
  fun hi => hij (Option.some_injective _ (h.1 hi))

theorem filter_ne_eq_self {i : I} {is : List I} (h : i ∉ is) : is.filter (· ≠ i) = is :=
  List.filter_eq_self.mpr fun _ hk => decide_eq_true fun hki => h (hki ▸ hk)

/-- The distinct intervals of grouped intervals, in arrival order: the first one, then the
distinct others. -/
theorem Grouped.dedup_cons {i : I} {is : List I} (h : Grouped (i :: is)) :
    (i :: is).dedup = i :: (is.filter (· ≠ i)).dedup := by
  induction is with
  | nil => rfl
  | cons j is ih =>
    by_cases hj : j = i
    · subst hj
      rw [List.dedup_cons_of_mem (List.mem_cons_self j is), ih h.2,
        List.filter_cons_of_neg (by simp)]
    · rw [List.dedup_cons_of_not_mem (h.not_mem hj), filter_ne_eq_self (h.not_mem hj)]

section Run

variable (time : Tile → I) (accumInitFn : Accum) (foldFn : Accum → Tile → Accum)

/-- The folds of the intervals other than the one of `tile` do not see `tile`. -/
theorem map_fold_filter_cons {tile : Tile} {tiles : List Tile} {is : List I}
    (his : ∀ i ∈ is, i ≠ time tile) :
    is.map (fun i => (.ok (((tile :: tiles).filter (time · = i)).foldl foldFn accumInitFn) :
        Except E Accum)) =
      is.map fun i => .ok ((tiles.filter (time · = i)).foldl foldFn accumInitFn) :=
  List.map_congr_left fun i hi => by
    rw [List.filter_cons_of_neg (by simpa using (his i hi).symm)]

theorem ne_of_mem_dedup_filter {i j : I} {is : List I} (h : j ∈ (is.filter (· ≠ i)).dedup) :
    j ≠ i :=
  of_decide_eq_true (List.mem_filter.mp (List.mem_dedup.mp h)).2

/-- From an open interval `i` with accumulator `accum`, grouped tiles complete the fold of
`accum` over the rest of `i`'s tiles, then one fresh fold per later interval. -/
theorem runFrom_accumulating (i : I) (accum : Accum) (tiles : List Tile)
    (h : Grouped (i :: tiles.map time)) :
    (timeMultiFold time accumInitFn foldFn).runFrom (.accumulating i accum)
        (tiles.map .ok : List (Except E Tile)) =
      .ok ((tiles.filter (time · = i)).foldl foldFn accum) ::
        ((tiles.map time).filter (· ≠ i)).dedup.map fun j =>
          .ok ((tiles.filter (time · = j)).foldl foldFn accumInitFn) := by
  induction tiles generalizing i accum with
  | nil => rfl
  | cons tile tiles ih =>
    simp only [List.map_cons, StreamAdapter.runFrom]
    by_cases ht : time tile = i
    · -- the tile continues the open interval
      subst ht
      rw [timeMultiFold_step_of_eq time accumInitFn foldFn rfl, List.map_nil, List.nil_append,
        ih _ _ h.2, List.filter_cons_of_pos (by simp), List.foldl_cons,
        List.filter_cons_of_neg (by simp),
        map_fold_filter_cons time accumInitFn foldFn fun _ => ne_of_mem_dedup_filter]
    · -- the tile completes `accum` and opens its own interval
      have hi : i ∉ time tile :: tiles.map time := h.not_mem ht
      have hnil : (tile :: tiles).filter (time · = i) = [] :=
        List.filter_eq_nil_iff.mpr fun t' ht' hti =>
          hi (of_decide_eq_true hti ▸ List.mem_map_of_mem time ht')
      rw [timeMultiFold_step_of_ne time accumInitFn foldFn ht, List.map_singleton,
        List.singleton_append, ih _ _ h.2, hnil, List.foldl_nil, filter_ne_eq_self hi,
        Grouped.dedup_cons h.2, List.map_cons, List.filter_cons_of_pos (by simp), List.foldl_cons,
        map_fold_filter_cons time accumInitFn foldFn fun _ => ne_of_mem_dedup_filter]

/-- **One output per interval.** When the intervals of an upstream without errors arrive grouped,
the consumer sees one accumulator per distinct interval, in arrival order, and the accumulator of
the interval `i` is the fold, from a fresh accumulator, of exactly the tiles of `i` in arrival
order. -/
theorem timeMultiFold_grouped (tiles : List Tile) (h : Grouped (tiles.map time)) :
    (timeMultiFold time accumInitFn foldFn).runFrom .idle (tiles.map .ok : List (Except E Tile)) =
      (tiles.map time).dedup.map fun i =>
        .ok ((tiles.filter (time · = i)).foldl foldFn accumInitFn) := by
  cases tiles with
  | nil => rfl
  | cons tile tiles =>
    simp only [List.map_cons, StreamAdapter.runFrom]
    rw [timeMultiFold_step_idle, List.map_nil, List.nil_append,
      runFrom_accumulating time accumInitFn foldFn _ _ _ h, Grouped.dedup_cons h, List.map_cons,
      List.filter_cons_of_pos (by simp), List.foldl_cons,
      map_fold_filter_cons time accumInitFn foldFn fun _ => ne_of_mem_dedup_filter]

end Run

/-- The spec's example: tiles of the intervals `A, A, A, B, B, C` (here `0, 0, 0, 1, 1, 2`),
folded by summing their values from `0`, give the three sums, in the order `A, B, C`. -/
theorem timeMultiFold_grouped_sums :
    Grouped ([(0, 1), (0, 2), (0, 3), (1, 4), (1, 5), (2, 6)].map Prod.fst) ∧
      (timeMultiFold Prod.fst 0 (fun acc (tile : Nat × Nat) => acc + tile.2)).runFrom .idle
          ([(0, 1), (0, 2), (0, 3), (1, 4), (1, 5), (2, 6)].map .ok : List (Except Unit _)) =
        [.ok 6, .ok 9, .ok 6] :=
  ⟨by decide, (timeMultiFold_grouped Prod.fst 0 _ _ (by decide)).trans rfl⟩

section SplitBy

/-! `List.splitBy` on a list with two leading elements, from the loop of its definition. -/

variable {α : Type} (R : α → α → Bool)

/-- The completed groups of `List.splitBy`'s loop come first. -/
theorem splitBy_loop_eq_append (l : List α) (a : α) (g : List α) (gs : List (List α)) :
    List.splitBy.loop R l a g gs = gs.reverse ++ List.splitBy.loop R l a g [] := by
  induction l generalizing a g gs with
  | nil => simp only [List.splitBy.loop, List.reverse_cons, List.reverse_nil, List.nil_append]
  | cons b l ih =>
    simp only [List.splitBy.loop]
    split
    · exact ih _ _ _
    · rw [ih _ _ (_ :: gs), ih _ _ [_], List.reverse_cons, List.append_assoc]
      rfl

theorem modifyHead_modifyHead (f g : α → α) (l : List α) :
    (l.modifyHead f).modifyHead g = l.modifyHead (g ∘ f) := by
  cases l <;> rfl

theorem modifyHead_nil_append (l : List (List α)) : l.modifyHead ([] ++ ·) = l := by
  cases l <;> rfl

/-- The group the loop is assembling is the start of the first group it returns. -/
theorem splitBy_loop_eq_modifyHead (l : List α) (a : α) (g : List α) :
    List.splitBy.loop R l a g [] =
      (List.splitBy.loop R l a [] []).modifyHead (g.reverse ++ ·) := by
  induction l generalizing a g with
  | nil =>
    simp only [List.splitBy.loop, List.reverse_cons, List.reverse_nil, List.nil_append,
      List.modifyHead_cons]
  | cons b l ih =>
    simp only [List.splitBy.loop]
    split
    · rw [ih _ (_ :: g), ih _ [_], modifyHead_modifyHead]
      congr 1
      funext x
      simp only [Function.comp, List.reverse_cons, List.reverse_nil, List.nil_append,
        List.append_assoc, List.singleton_append]
    · rw [splitBy_loop_eq_append _ _ _ _ [_], splitBy_loop_eq_append _ _ _ _ [_]]
      simp only [List.reverse_cons, List.reverse_nil, List.nil_append, List.singleton_append,
        List.modifyHead_cons]

/-- `List.splitBy` on two leading elements: the first joins the first run of the rest when it is
related to the second element, and forms a run of its own otherwise. -/
theorem splitBy_cons_cons (a b : α) (l : List α) :
    (a :: b :: l).splitBy R =
      if R a b then ((b :: l).splitBy R).modifyHead (a :: ·) else [a] :: (b :: l).splitBy R := by
  simp only [List.splitBy, List.splitBy.loop]
  split <;> rename_i h <;> simp only [h, if_true, if_false]
  · rw [splitBy_loop_eq_modifyHead]
    rfl
  · rw [splitBy_loop_eq_append]
    rfl

end SplitBy

section Runs

variable (time : Tile → I) (accumInitFn : Accum) (foldFn : Accum → Tile → Accum)

/-- From an open interval whose tiles so far are `run ++ [tile]`, the fold completes one
accumulator per maximal run of one interval, the first run extending `run`. -/
theorem runFrom_accumulating_splitBy (run : List Tile) (tile : Tile) (tiles : List Tile) :
    (timeMultiFold time accumInitFn foldFn).runFrom
        (.accumulating (time tile) ((run ++ [tile]).foldl foldFn accumInitFn))
        (tiles.map .ok : List (Except E Tile)) =
      (((tile :: tiles).splitBy (time · == time ·)).modifyHead (run ++ ·)).map fun g =>
        .ok (g.foldl foldFn accumInitFn) := by
  induction tiles generalizing run tile with
  | nil => rfl
  | cons t ts ih =>
    rw [splitBy_cons_cons]
    simp only [List.map_cons, StreamAdapter.runFrom]
    by_cases h : time t = time tile
    · -- the tile continues the run
      have hfold : foldFn ((run ++ [tile]).foldl foldFn accumInitFn) t =
          (run ++ [tile] ++ [t]).foldl foldFn accumInitFn :=
        (List.foldl_append foldFn accumInitFn (run ++ [tile]) [t]).symm
      rw [if_pos (beq_iff_eq.mpr h.symm), timeMultiFold_step_of_eq time accumInitFn foldFn h,
        hfold, ← h, List.map_nil, List.nil_append, ih, modifyHead_modifyHead]
      congr 2
      funext x
      simp only [Function.comp, List.append_assoc, List.singleton_append]
    · -- the tile starts a new run
      rw [timeMultiFold_step_of_ne time accumInitFn foldFn h, List.map_singleton,
        List.singleton_append, if_neg (fun hb => h (beq_iff_eq.mp hb).symm),
        List.modifyHead_cons, List.map_cons]
      exact congrArg _ ((ih [] t).trans (by rw [modifyHead_nil_append]))

/-- **One output per run.** On every upstream without errors, whether or not its intervals
arrive grouped, the consumer sees one accumulator per maximal run of consecutive tiles of one
interval, in arrival order, each the fold of its run from a fresh accumulator. An interval whose
tiles are not contiguous gives one accumulator per run. -/
theorem timeMultiFold_runs (tiles : List Tile) :
    (timeMultiFold time accumInitFn foldFn).runFrom .idle (tiles.map .ok : List (Except E Tile)) =
      (tiles.splitBy (time · == time ·)).map fun run => .ok (run.foldl foldFn accumInitFn) := by
  cases tiles with
  | nil => rfl
  | cons tile tiles =>
    simp only [List.map_cons, StreamAdapter.runFrom]
    rw [timeMultiFold_step_idle, List.map_nil, List.nil_append]
    exact (runFrom_accumulating_splitBy time accumInitFn foldFn [] tile tiles).trans
      (by rw [modifyHead_nil_append])

/-- Tiles of the intervals `0, 1, 0`: the interval `0` is not contiguous and gives two sums. -/
example : (timeMultiFold Prod.fst 0 (fun acc (tile : Nat × Nat) => acc + tile.2)).runFrom .idle
    ([(0, 1), (1, 2), (0, 3)].map .ok : List (Except Unit _)) = [.ok 1, .ok 2, .ok 3] :=
  rfl

end Runs

end GeoEngine
