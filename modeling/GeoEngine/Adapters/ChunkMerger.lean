import GeoEngine.Adapters.Stream
import Mathlib.Data.List.Chain

/-!
# Merging feature collections into chunks

Modelled from the spec. `FeatureCollectionStreamExt::merge_chunks(chunk_size_bytes)`
(`src/operators/src/adapters/mod.rs`) wraps a stream of feature collections in a
`FeatureCollectionChunkMerger`, whose code is not under `src/`; it merges the collections "in a
way that they are `chunk_size_bytes` large". The spec's algorithm keeps a pending buffer, empty
at first. An upstream batch that would take a nonempty buffer over the budget flushes the buffer
first and starts a new one; any other batch is merged into the buffer; the end of the upstream
flushes a nonempty buffer. A batch larger than the budget is passed on as a chunk of its own.

A chunk is modelled as the list of upstream batches merged into it, and `byteSize` is the
estimated serialized size of a batch; a buffer's estimate is the sum of its batches'
(`pendingBytes`).

`IsChunking` says what the merger is for: the chunks re-batch the upstream without loss,
duplication or reordering, each chunk is within the budget unless it is a single batch, and the
chunks are greedy: the first batch of a chunk would have taken the chunk before it over the
budget. These determine the chunks (`IsChunking.unique`).

## Main results

* `chunkMerger_eq_iff`: on every upstream without errors the merger emits exactly the chunks
  that satisfy `IsChunking`, the one greedy chunking of the upstream;
* `chunkMerger_error`: an upstream error takes the place of the pending chunk, which is
  discarded, and ends the stream.
-/

namespace GeoEngine

variable {B E : Type}

/-- Modelled from the spec: the estimated serialized size of a pending buffer, the sum of the
estimates of its batches. -/
def pendingBytes (byteSize : B → Nat) : List B → Nat
  | [] => 0
  | b :: bs => byteSize b + pendingBytes byteSize bs

@[simp]
theorem pendingBytes_nil (byteSize : B → Nat) : pendingBytes byteSize [] = 0 :=
  rfl

@[simp]
theorem pendingBytes_cons (byteSize : B → Nat) (b : B) (bs : List B) :
    pendingBytes byteSize (b :: bs) = byteSize b + pendingBytes byteSize bs :=
  rfl

@[simp]
theorem pendingBytes_append (byteSize : B → Nat) (bs bs' : List B) :
    pendingBytes byteSize (bs ++ bs') = pendingBytes byteSize bs + pendingBytes byteSize bs' := by
  induction bs with
  | nil => rw [List.nil_append, pendingBytes_nil, Nat.zero_add]
  | cons b bs ih => rw [List.cons_append, pendingBytes_cons, pendingBytes_cons, ih, Nat.add_assoc]

/-- Modelled from the spec: `merge_chunks(chunk_size_bytes)`, with the pending buffer as state.
A batch that would take a nonempty buffer over `chunkSizeBytes` flushes the buffer and starts a
new one; any other batch is merged into the buffer; the end flushes a nonempty buffer. -/
def chunkMerger (byteSize : B → Nat) (chunkSizeBytes : Nat) : StreamAdapter (List B) B (List B)
    where
  step
    | [], batch => ([batch], [])
    | p :: ps, batch =>
      if chunkSizeBytes < pendingBytes byteSize (p :: ps) + byteSize batch then
        ([batch], [p :: ps])
      else (p :: ps ++ [batch], [])
  flush
    | [] => []
    | p :: ps => [p :: ps]

section Step

variable (byteSize : B → Nat) (chunkSizeBytes : Nat)

@[simp]
theorem chunkMerger_step_nil (batch : B) :
    (chunkMerger byteSize chunkSizeBytes).step [] batch = ([batch], []) :=
  rfl

theorem chunkMerger_step_of_lt {p : B} {ps : List B} {batch : B}
    (h : chunkSizeBytes < pendingBytes byteSize (p :: ps) + byteSize batch) :
    (chunkMerger byteSize chunkSizeBytes).step (p :: ps) batch = ([batch], [p :: ps]) :=
  if_pos h

theorem chunkMerger_step_of_not_lt {p : B} {ps : List B} {batch : B}
    (h : ¬chunkSizeBytes < pendingBytes byteSize (p :: ps) + byteSize batch) :
    (chunkMerger byteSize chunkSizeBytes).step (p :: ps) batch = (p :: ps ++ [batch], []) :=
  if_neg h

end Step

/-- The chunks `chunks` are a chunking of the upstream batches `batches` within the budget
`chunkSizeBytes`. -/
structure IsChunking (byteSize : B → Nat) (chunkSizeBytes : Nat) (batches : List B)
    (chunks : List (List B)) : Prop where
  /-- no batch is lost, duplicated or reordered -/
  flatten_eq : chunks.flatten = batches
  ne_nil : ∀ c ∈ chunks, c ≠ []
  /-- a chunk exceeds the budget only when it is a single batch -/
  within_budget : ∀ c ∈ chunks, pendingBytes byteSize c ≤ chunkSizeBytes ∨ c.length = 1
  /-- the first batch of a chunk would have taken the chunk before it over the budget -/
  greedy : chunks.Chain' fun c d =>
    ∀ b ∈ d.head?, chunkSizeBytes < pendingBytes byteSize c + byteSize b

namespace IsChunking

variable {byteSize : B → Nat} {chunkSizeBytes : Nat}

theorem nil : IsChunking byteSize chunkSizeBytes [] [] :=
  ⟨rfl, fun _ h => absurd h (List.not_mem_nil _), fun _ h => absurd h (List.not_mem_nil _),
    List.chain'_nil⟩

theorem of_cons {batches : List B} {c : List B} {cs : List (List B)}
    (h : IsChunking byteSize chunkSizeBytes batches (c :: cs)) :
    IsChunking byteSize chunkSizeBytes cs.flatten cs :=
  ⟨rfl, fun d hd => h.ne_nil d (List.mem_cons_of_mem c hd),
    fun d hd => h.within_budget d (List.mem_cons_of_mem c hd), h.greedy.tail⟩

/-- Prepending a chunk to a chunking: the chunk is nonempty and within the budget, and the next
chunk's first batch would take it over the budget. -/
theorem cons {batches : List B} {c : List B} {cs : List (List B)}
    (h : IsChunking byteSize chunkSizeBytes batches cs) (hc : c ≠ [])
    (hbudget : pendingBytes byteSize c ≤ chunkSizeBytes ∨ c.length = 1)
    (hnext : ∀ d ∈ cs.head?, ∀ b ∈ d.head?, chunkSizeBytes < pendingBytes byteSize c + byteSize b) :
    IsChunking byteSize chunkSizeBytes (c ++ batches) (c :: cs) :=
  ⟨by rw [List.flatten_cons, h.flatten_eq], List.forall_mem_cons.mpr ⟨hc, h.ne_nil⟩,
    List.forall_mem_cons.mpr ⟨hbudget, h.within_budget⟩, List.chain'_cons'.mpr ⟨hnext, h.greedy⟩⟩

/-- Of two chunkings of the same batches, the first chunk of one is not a proper prefix of the
first chunk of the other: the batch after it would take it over the budget, so the longer chunk
would be over the budget with at least two batches. -/
theorem not_head_append_cons {batches : List B} {c d : List B} {cs ds : List (List B)}
    (hc : IsChunking byteSize chunkSizeBytes batches (c :: cs))
    (hd : IsChunking byteSize chunkSizeBytes batches (d :: ds)) (x : B) (m : List B)
    (h : d = c ++ x :: m) : False := by
  have hflat : cs.flatten = x :: (m ++ ds.flatten) := by
    have := hc.flatten_eq.trans hd.flatten_eq.symm
    rw [List.flatten_cons, List.flatten_cons, h, List.append_assoc] at this
    exact List.append_cancel_left this
  obtain ⟨r, es, rfl⟩ : ∃ r es, cs = (x :: r) :: es := by
    match cs, hc.ne_nil with
    | [], _ => exact absurd hflat (List.cons_ne_nil _ _).symm
    | [] :: _, hne => exact absurd rfl (hne [] (List.mem_cons_of_mem _ (List.mem_cons_self _ _)))
    | (y :: r) :: es, _ =>
      obtain ⟨rfl, -⟩ := List.cons_eq_cons.mp hflat
      exact ⟨r, es, rfl⟩
  have hover := (List.chain'_cons.mp hc.greedy).1 x rfl
  have hc0 := hc.ne_nil c (List.mem_cons_self c _)
  have hlen : 0 < c.length := List.length_pos.mpr hc0
  rcases hd.within_budget d (List.mem_cons_self d ds) with hbud | hone
  · rw [h, pendingBytes_append, pendingBytes_cons] at hbud
    omega
  · rw [h, List.length_append, List.length_cons] at hone
    omega

/-- **The greedy chunking is unique.** -/
theorem unique {batches : List B} {cs ds : List (List B)}
    (hc : IsChunking byteSize chunkSizeBytes batches cs)
    (hd : IsChunking byteSize chunkSizeBytes batches ds) : cs = ds := by
  induction cs generalizing batches ds with
  | nil =>
    match ds, hd.ne_nil, hd.flatten_eq.trans hc.flatten_eq.symm with
    | [], _, _ => rfl
    | d :: _, hne, hflat =>
      exact absurd (List.append_eq_nil.mp hflat).1 (hne d (List.mem_cons_self d _))
  | cons c cs ih =>
    match ds, hd, hd.flatten_eq.trans hc.flatten_eq.symm with
    | [], _, hflat =>
      exact absurd (List.append_eq_nil.mp hflat.symm).1 (hc.ne_nil c (List.mem_cons_self c _))
    | d :: ds, hd, hflat =>
      -- the two first chunks agree, or one would be a proper prefix of the other
      have hcd : c = d := by
        rw [List.flatten_cons, List.flatten_cons] at hflat
        rcases List.append_eq_append_iff.mp hflat with ⟨a, hca, -⟩ | ⟨a, hda, -⟩
        · cases a with
          | nil => exact hca.trans (List.append_nil d)
          | cons x m => exact (not_head_append_cons hd hc x m hca).elim
        · cases a with
          | nil => exact (hda.trans (List.append_nil c)).symm
          | cons x m => exact (not_head_append_cons hc hd x m hda).elim
      subst hcd
      have htail : ds.flatten = cs.flatten := by
        rw [List.flatten_cons, List.flatten_cons] at hflat
        exact List.append_cancel_left hflat
      rw [ih hc.of_cons (htail ▸ hd.of_cons)]

end IsChunking

section Run

variable (byteSize : B → Nat) (chunkSizeBytes : Nat)

/-- From a pending buffer within the budget (or a single batch), the merger emits a chunking of
the buffer followed by the batches, whose first chunk extends the buffer. -/
theorem chunkMerger_runFrom (batches : List B) (pending : List B)
    (hp : pendingBytes byteSize pending ≤ chunkSizeBytes ∨ pending.length = 1) :
    ∃ chunks, (chunkMerger byteSize chunkSizeBytes).runFrom pending
        (batches.map .ok : List (Except E B)) = chunks.map .ok ∧
      IsChunking byteSize chunkSizeBytes (pending ++ batches) chunks ∧
      (pending ≠ [] → ∃ rest, chunks.head? = some (pending ++ rest)) := by
  induction batches generalizing pending with
  | nil =>
    cases pending with
    | nil => exact ⟨[], rfl, IsChunking.nil, fun h => absurd rfl h⟩
    | cons p ps =>
      refine ⟨[p :: ps], rfl, ?_, fun _ => ⟨[], by rw [List.append_nil]; rfl⟩⟩
      simpa only [List.append_nil] using
        IsChunking.nil.cons (List.cons_ne_nil p ps) hp fun _ h => absurd h (Option.not_mem_none _)
  | cons b bs ih =>
    match pending with
    | [] =>
      obtain ⟨chunks, hrun, hchunks, -⟩ := ih [b] (.inr rfl)
      exact ⟨chunks, hrun, hchunks, fun h => absurd rfl h⟩
    | p :: ps =>
      by_cases hover : chunkSizeBytes < pendingBytes byteSize (p :: ps) + byteSize b
      · -- the batch flushes the buffer and starts a new one
        obtain ⟨chunks, hrun, hchunks, hhead⟩ := ih [b] (.inr rfl)
        obtain ⟨rest, hrest⟩ := hhead (List.cons_ne_nil b [])
        refine ⟨(p :: ps) :: chunks, ?_, hchunks.cons (List.cons_ne_nil p ps) hp ?_,
          fun _ => ⟨[], by rw [List.append_nil]; rfl⟩⟩
        · rw [List.map_cons, StreamAdapter.runFrom,
            chunkMerger_step_of_lt byteSize chunkSizeBytes hover, hrun]
          rfl
        · rw [hrest]
          intro d hd b' hb'
          obtain rfl := Option.mem_some_iff.mp hd
          obtain rfl : b = b' := Option.some_injective _ hb'
          exact hover
      · -- the batch is merged into the buffer
        have hfit : pendingBytes byteSize (p :: ps ++ [b]) ≤ chunkSizeBytes := by
          rw [pendingBytes_append, pendingBytes_cons byteSize b, pendingBytes_nil]
          omega
        obtain ⟨chunks, hrun, hchunks, hhead⟩ := ih (p :: ps ++ [b]) (.inl hfit)
        obtain ⟨rest, hrest⟩ := hhead (List.cons_ne_nil _ _)
        refine ⟨chunks, ?_, by simpa only [List.append_assoc, List.singleton_append] using hchunks,
          fun _ => ⟨b :: rest, by rw [hrest, List.append_assoc, List.singleton_append]⟩⟩
        rw [List.map_cons, StreamAdapter.runFrom,
          chunkMerger_step_of_not_lt byteSize chunkSizeBytes hover, ← hrun]
        rfl

/-- **The merger computes the greedy chunking.** On every upstream without errors, the consumer
sees exactly the chunks `chunks` that re-batch the upstream without loss, duplication or
reordering into nonempty chunks, each within the budget unless it is a single batch, where the
first batch of each chunk would have taken the chunk before it over the budget. -/
theorem chunkMerger_eq_iff (batches : List B) (chunks : List (List B)) :
    (chunkMerger byteSize chunkSizeBytes).runFrom [] (batches.map .ok : List (Except E B)) =
        chunks.map .ok ↔
      IsChunking byteSize chunkSizeBytes batches chunks := by
  obtain ⟨chunks₀, hrun, hchunks, -⟩ :=
    chunkMerger_runFrom (E := E) byteSize chunkSizeBytes batches [] (.inl (Nat.zero_le _))
  rw [hrun]
  exact ⟨fun h => (List.map_injective_iff.mpr (fun _ _ => Except.ok.inj) h) ▸ hchunks,
    fun h => congrArg _ (hchunks.unique h)⟩

/-- The spec's example: batches of `10`, `10` and `10` bytes and a budget of `25` bytes give a
chunk of the first two batches and a chunk of the third. -/
example : (chunkMerger id 25).runFrom [] ([10, 10, 10].map .ok : List (Except Unit Nat)) =
    [.ok [10, 10], .ok [10]] :=
  rfl

/-- After a batch the buffer is nonempty, so it flushes one chunk. -/
theorem chunkMerger_flush_step (pending : List B) (b : B) :
    ∃ y, (chunkMerger byteSize chunkSizeBytes).flush
      ((chunkMerger byteSize chunkSizeBytes).step pending b).1 = [y] := by
  match pending with
  | [] => exact ⟨_, rfl⟩
  | p :: ps =>
    by_cases h : chunkSizeBytes < pendingBytes byteSize (p :: ps) + byteSize b
    · exact ⟨_, by rw [chunkMerger_step_of_lt byteSize chunkSizeBytes h]; rfl⟩
    · exact ⟨_, by rw [chunkMerger_step_of_not_lt byteSize chunkSizeBytes h]; rfl⟩

/-- **An error discards the pending chunk.** After ok batches, an upstream error takes the place
of the pending chunk, the last one the consumer would have seen: the chunks flushed before it are
passed on, then the error, and nothing after it. -/
theorem chunkMerger_error (batches : List B) (e : E) (rest : List (Except E B)) :
    (chunkMerger byteSize chunkSizeBytes).runFrom [] (batches.map .ok ++ .error e :: rest) =
      ((chunkMerger byteSize chunkSizeBytes).runFrom [] (batches.map .ok)).dropLast ++
        [.error e] := by
  cases batches with
  | nil => rfl
  | cons b bs =>
    obtain ⟨_, h⟩ := StreamAdapter.flush_steps_cons _
      (chunkMerger_flush_step byteSize chunkSizeBytes) [] b bs
    exact StreamAdapter.runFrom_error_of_flush _ h e rest

end Run

end GeoEngine
