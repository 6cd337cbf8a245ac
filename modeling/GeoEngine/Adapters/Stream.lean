import Mathlib.Data.List.Basic

/-!
# Pull-driven stream adapters

Modelled from the spec. The adapters that `src/operators/src/adapters/mod.rs` exports
(`RasterTimeMultiFold` behind `time_multi_fold`, `FeatureCollectionChunkMerger` behind
`merge_chunks`) are lazy streams over an upstream stream of `Result` items; their code is not
under `src/`. What they share is a `StreamAdapter`: a state, a step that folds one upstream item
into it and returns the items it completes, and a flush of the open state when the upstream ends.

`StreamAdapter.runFrom` is the sequence of items the consumer pulls, with the error handling of
the spec: an upstream error is passed on unchanged and ends the stream, and the open state (an
accumulator, a pending chunk) is discarded, never emitted.

## Main results

* `StreamAdapter.runFrom_map_ok_append`: a run over ok items and then a rest emits what the items
  complete, then runs the rest from the state they leave;
* `StreamAdapter.runFrom_map_ok`: without an error, the consumer sees the completed items and
  then the flush of the last state;
* `StreamAdapter.runFrom_error`: an error ends the stream, after the items completed before it;
* `StreamAdapter.runFrom_error_of_flush`: when the open state flushes one item, the error takes
  that item's place; `StreamAdapter.flush_steps_cons` gives that state for the adapters whose
  every step leaves one item to flush.
-/

namespace GeoEngine

/-- Modelled from the spec: a pull-driven stream adapter with state `S`, upstream items `α` and
downstream items `β`. `step` folds one upstream item into the state and returns the items it
completes; `flush` returns the items the open state completes when the upstream ends. -/
structure StreamAdapter (S α β : Type) where
  step : S → α → S × List β
  flush : S → List β

namespace StreamAdapter

variable {S α β E : Type} (A : StreamAdapter S α β)

/-- The state and the completed items after folding the upstream items `xs` from the state
`s`. -/
def steps : S → List α → S × List β
  | s, [] => (s, [])
  | s, x :: xs =>
    ((steps (A.step s x).1 xs).1, (A.step s x).2 ++ (steps (A.step s x).1 xs).2)

/-- Modelled from the spec: the items the consumer observes when the adapter, in the state `s`,
pulls the upstream `items` to their end. An ok item is folded by `step` and the items it
completes are passed on; an error is passed on unchanged and ends the stream, discarding the
open state; the end of the upstream flushes the open state. -/
def runFrom : S → List (Except E α) → List (Except E β)
  | s, [] => (A.flush s).map .ok
  | s, .ok x :: items => (A.step s x).2.map .ok ++ runFrom (A.step s x).1 items
  | _, .error e :: _ => [.error e]

/-- A run over ok items `xs` and then `items`: what `xs` completes, then the run of `items` from
the state `xs` leaves. -/
theorem runFrom_map_ok_append (s : S) (xs : List α) (items : List (Except E α)) :
    A.runFrom s (xs.map .ok ++ items) =
      (A.steps s xs).2.map .ok ++ A.runFrom (A.steps s xs).1 items := by
  induction xs generalizing s with
  | nil => rfl
  | cons x xs ih =>
    rw [List.map_cons, List.cons_append, runFrom, ih, steps, List.map_append, List.append_assoc]

/-- An upstream without errors: every output is ok, the completed items and then the flush of the
last state. -/
theorem runFrom_map_ok (s : S) (xs : List α) :
    A.runFrom s (xs.map .ok : List (Except E α)) =
      ((A.steps s xs).2 ++ A.flush (A.steps s xs).1).map .ok := by
  rw [← List.append_nil (xs.map _), runFrom_map_ok_append, List.map_append]
  rfl

/-- **An error ends the stream.** The consumer sees the items completed before the error, then
the error, and nothing of the open state or of the upstream after the error. -/
theorem runFrom_error (s : S) (xs : List α) (e : E) (rest : List (Except E α)) :
    A.runFrom s (xs.map .ok ++ .error e :: rest) = (A.steps s xs).2.map .ok ++ [.error e] := by
  rw [runFrom_map_ok_append]
  rfl

/-- When every step leaves a state that flushes exactly one item, so does every nonempty run of
steps. -/
theorem flush_steps_cons (hstep : ∀ s x, ∃ y, A.flush (A.step s x).1 = [y]) (s : S) (x : α)
    (xs : List α) : ∃ y, A.flush (A.steps s (x :: xs)).1 = [y] := by
  induction xs generalizing s x with
  | nil => exact hstep s x
  | cons x' xs ih => exact ih _ x'

/-- When the state after `xs` flushes exactly one item, an error after `xs` takes the place of
that item, the last one the consumer would have seen. -/
theorem runFrom_error_of_flush {s : S} {xs : List α} {y : β}
    (h : A.flush (A.steps s xs).1 = [y]) (e : E) (rest : List (Except E α)) :
    A.runFrom s (xs.map .ok ++ .error e :: rest) =
      (A.runFrom s (xs.map .ok)).dropLast ++ [.error e] := by
  rw [runFrom_error, runFrom_map_ok, h, List.map_append, List.map_singleton,
    List.dropLast_concat]

end StreamAdapter

end GeoEngine
