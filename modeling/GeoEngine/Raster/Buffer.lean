import Mathlib.Data.List.Basic

/-!
# Buffer operations of the Rust standard library

The blits of `raster/operations/grid_blit.rs` move values between `Vec<T>` buffers with three
operations of the Rust standard library, and loop over `isize` ranges:

* `slice[start..stop]` (`sliceRange`), which panics unless `start ≤ stop ≤ slice.len()`;
* `slice[start..stop].copy_from_slice(src)` (`copyFromSlice`), which also panics unless `src` has
  the length of the range;
* `slice[index] = value` (`setIndex`), which panics past the end;
* `for y in start..stop` over `isize` (`intRange`).

A `Vec<T>` is a `List T`, and an operation that panics returns `none`: a blit that returns `some`
performed only in-bounds accesses.

The effect of one loop step on a buffer is stated once, as `Overwrites covers val l l'`: the
buffer keeps its length, and the cells `covers` take the values `val`. `copyRow_overwrites` and
`setIndex_overwrites` say which cells the two kinds of step overwrite, and the run lemma
`foldlM_overwrites` says what a whole loop of such steps leaves in every cell: the value of the
last step that covers it, or the old value when no step does.
-/

namespace GeoEngine

variable {T : Type}

/-! ### Ranges and slices -/

/-- `start..stop` over `isize`, in the order a `for` loop visits it. -/
def intRange (start stop : Int) : List Int :=
  (List.range (stop - start).toNat).map fun i : Nat => start + i

@[simp]
theorem mem_intRange {y start stop : Int} : y ∈ intRange start stop ↔ start ≤ y ∧ y < stop := by
  simp only [intRange, List.mem_map, List.mem_range]
  exact ⟨fun ⟨i, hi, he⟩ => by omega, fun h => ⟨(y - start).toNat, by omega, by omega⟩⟩

/-- `slice[start..stop]`: the elements from `start` up to `stop`. -/
def sliceRange (l : List T) (start stop : Nat) : Option (List T) :=
  if start ≤ stop ∧ stop ≤ l.length then some ((l.drop start).take (stop - start)) else none

/-- `slice[start..stop].copy_from_slice(src)`: the range overwritten with `src`. -/
def copyFromSlice (l : List T) (start stop : Nat) (src : List T) : Option (List T) :=
  if start ≤ stop ∧ stop ≤ l.length ∧ src.length = stop - start then
    some (l.take start ++ src ++ l.drop stop)
  else none

/-- `slice[index] = value`. -/
def setIndex (l : List T) (index : Nat) (value : T) : Option (List T) :=
  if index < l.length then some (l.set index value) else none

/-- The statement `dst[a..a + len].copy_from_slice(&src[b..b + len])` of the dense blits. -/
def copyRow (dst src : List T) (a b len : Nat) : Option (List T) := do
  copyFromSlice dst a (a + len) (← sliceRange src b (b + len))

/-! ### One step -/

/-- `l'` is `l` with the cells `covers` replaced by `val`, and of the same length. -/
def Overwrites (covers : Nat → Prop) [DecidablePred covers] (val : Nat → Option T)
    (l l' : List T) : Prop :=
  l'.length = l.length ∧ ∀ k, l'[k]? = if covers k then val k else l[k]?

/-- A row copy whose two ranges are in bounds succeeds and overwrites exactly its destination
range, cell `a + i` with the source cell `b + i`. -/
theorem copyRow_overwrites {dst src : List T} {a b len : Nat} (ha : a + len ≤ dst.length)
    (hb : b + len ≤ src.length) :
    ∃ out, copyRow dst src a b len = some out ∧
      Overwrites (fun k => a ≤ k ∧ k < a + len) (fun k => src[b + (k - a)]?) dst out := by
  have hmid : ((src.drop b).take (b + len - b)).length = a + len - a := by simp; omega
  refine ⟨dst.take a ++ (src.drop b).take (b + len - b) ++ dst.drop (a + len), ?_, ?_, fun k => ?_⟩
  · simp only [copyRow, sliceRange, copyFromSlice]
    rw [if_pos (by omega)]
    exact if_pos ⟨by omega, ha, hmid⟩
  · simp only [List.length_append, List.length_take, List.length_drop] at hmid ⊢
    omega
  · have hta : (dst.take a).length = a := by simp; omega
    by_cases hk : k < a
    · rw [List.append_assoc, List.getElem?_append_left (by omega), List.getElem?_take]
      simp [hk, show ¬ a ≤ k by omega]
    by_cases hk' : k < a + len
    · rw [List.getElem?_append_left (by simp; omega), List.getElem?_append_right (by omega),
        List.getElem?_take, List.getElem?_drop, hta]
      simp [hk', show k - a < len by omega, show a ≤ k by omega]
    · rw [List.getElem?_append_right (by simp; omega), List.getElem?_drop]
      simp only [List.length_append, hta, hmid, hk', and_false, if_false]
      congr 1
      omega

/-- An assignment in bounds succeeds and overwrites exactly its cell. -/
theorem setIndex_overwrites {l : List T} {index : Nat} (h : index < l.length) (value : T) :
    ∃ out, setIndex l index value = some out ∧
      Overwrites (· = index) (fun _ => some value) l out :=
  ⟨_, if_pos h, List.length_set .., fun k => by
    by_cases hk : k = index <;> simp [List.getElem?_set, hk, h, Ne.symm]⟩

/-! ### A loop of steps -/

variable {ρ σ : Type} {covers : ρ → Nat → Prop} [∀ r, DecidablePred (covers r)]
  {val : ρ → Nat → Option T}

/-- The value the last of `rows` that covers cell `k` writes there, or the value `dst` had when
no row covers it. -/
def lastWrite (covers : ρ → Nat → Prop) [∀ r, DecidablePred (covers r)]
    (val : ρ → Nat → Option T) (rows : List ρ) (dst : List T) (k : Nat) : Option T :=
  match rows.reverse.find? (fun r => decide (covers r k)) with
  | some r => val r k
  | none => dst[k]?

/-- When some row covers the cell and every covering row writes `w`, the cell ends with `w`. -/
theorem lastWrite_of_covers {rows : List ρ} {dst : List T} {k : Nat} {w : Option T}
    (h : ∃ r ∈ rows, covers r k) (hw : ∀ r ∈ rows, covers r k → val r k = w) :
    lastWrite covers val rows dst k = w := by
  obtain ⟨r, hr, hc⟩ := h
  unfold lastWrite
  split
  · rename_i r' hfind
    exact hw r' (List.mem_reverse.mp (List.mem_of_find?_eq_some hfind))
      (by simpa using List.find?_some hfind)
  · rename_i hfind
    exact absurd (decide_eq_true hc) (List.find?_eq_none.mp hfind r (List.mem_reverse.mpr hr))

/-- **Run lemma.** A loop whose state keeps an invariant `inv`, and whose every step overwrites
the cells `covers r` of the state's buffer with `val r`, succeeds, keeps `inv`, and overwrites
the cells some row covers with the value of the last such row. -/
theorem foldlM_overwrites (buf : σ → List T) (inv : σ → Prop) (covers : ρ → Nat → Prop)
    [∀ r, DecidablePred (covers r)] (val : ρ → Nat → Option T) {step : σ → ρ → Option σ} :
    ∀ (rows : List ρ) (st : σ), inv st →
      (∀ r ∈ rows, ∀ st', inv st' →
        ∃ st'', step st' r = some st'' ∧ inv st'' ∧
          Overwrites (covers r) (val r) (buf st') (buf st'')) →
      ∃ out, rows.foldlM step st = some out ∧ inv out ∧
        Overwrites (fun k => ∃ r ∈ rows, covers r k) (lastWrite covers val rows []) (buf st)
          (buf out)
  | [], st, hinv, _ => ⟨st, rfl, hinv, rfl, fun k => by simp⟩
  | r :: rows, st, hinv, hstep => by
    obtain ⟨st₁, h₁, hinv₁, hlen₁, hval₁⟩ := hstep r (List.mem_cons_self r rows) st hinv
    obtain ⟨out, hout, hinv', hlen, hval⟩ := foldlM_overwrites buf inv covers val rows st₁
      hinv₁ fun r' hr' => hstep r' (List.mem_cons_of_mem r hr')
    refine ⟨out, by simp [h₁, hout], hinv', hlen.trans hlen₁, fun k => ?_⟩
    rw [hval k, hval₁ k]
    simp only [lastWrite, List.reverse_cons, List.find?_append]
    rcases hfind : rows.reverse.find? (fun r' => decide (covers r' k)) with _ | r'
    · have hno : ¬ ∃ r' ∈ rows, covers r' k := fun ⟨r', hr', hc⟩ =>
        List.find?_eq_none.mp hfind r' (List.mem_reverse.mpr hr') (decide_eq_true hc)
      by_cases hc : covers r k <;> simp [hc, hno]
    · have hyes : ∃ r' ∈ rows, covers r' k :=
        ⟨r', List.mem_reverse.mp (List.mem_of_find?_eq_some hfind),
          by simpa using List.find?_some hfind⟩
      simp [hyes]

end GeoEngine
