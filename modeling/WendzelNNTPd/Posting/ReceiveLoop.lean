import WendzelNNTPd.Server.PostArticle

/-! The receive loop of POST against the stream it reads.
The loop looks for the terminator in the last five bytes only, so it sees exactly the
terminators that end a chunk.
-/

namespace WendzelNNTPd

open CString

-----------------------------------------------------------------------------------------
-- One round of the loop
-----------------------------------------------------------------------------------------

/-- On text without NUL the search succeeds exactly if the text ends with the terminator,
and then cuts nothing off.
Witness: the window is at most five bytes long, so a hit fills it.
-/
theorem findTerminator_eq {buf : Str} (nul : NUL ∉ buf)
    : findTerminator buf = if terminator <:+ buf then some buf else none := by
  have five : terminator.length = 5 := rfl
  have window (offset : Nat) : cstr (buf.drop offset) = buf.drop offset :=
    cstr_eq_self (fun member => nul (List.mem_of_mem_drop member))
  unfold findTerminator
  simp only [window]
  by_cases ends : terminator <:+ buf
  · rw [if_pos ends]
    obtain ⟨front, rfl⟩ := ends
    have offset
        : (if (front ++ terminator).length > 5 then (front ++ terminator).length - 5 else 0)
          = front.length := by
      rw [List.length_append, five]
      split <;> omega
    have hit : strstr terminator terminator = some 0 := by decide
    rw [offset, List.drop_left, hit, Option.map_some,
      List.set_eq_of_length_le (by rw [List.length_append, five])]
  · rw [if_neg ends]
    refine Option.map_eq_none_iff.mpr (Option.eq_none_iff_forall_ne_some.mpr ?_)
    intro i found
    refine ends ?_
    have inside := strstr_some_prefix found
    rw [List.drop_drop] at inside
    have long := inside.length_le
    rw [five, List.length_drop] at long
    have whole
        : terminator = buf.drop ((if buf.length > 5 then buf.length - 5 else 0) + i) := by
      refine inside.eq_of_length ?_
      rw [five, List.length_drop]
      split at long <;> split <;> omega
    rw [whole]
    exact List.drop_suffix _ _

/-- One round that `Receive` serves with a chunk that fits the buffer. -/
theorem postReceive_data {maxPostSize : Nat} {buf chunk : Str} {rest : List RecvEvent}
    (nul : NUL ∉ buf ++ chunk) (nonempty : chunk ≠ [])
    (room : buf.length + chunk.length < maxPostSize)
    : postReceive maxPostSize buf (.data chunk :: rest)
      = if terminator <:+ buf ++ chunk then .article (buf ++ chunk)
        else postReceive maxPostSize (buf ++ chunk) rest := by
  have positive : 0 < chunk.length := List.length_pos_iff.mpr nonempty
  have guard : ¬maxPostSize - buf.length ≤ 1 := by omega
  have whole : chunk.take (maxPostSize - buf.length - 1) = chunk :=
    List.take_of_length_le (by omega)
  by_cases ends : terminator <:+ buf ++ chunk
  · simp only [postReceive, guard, if_false, whole, findTerminator_eq nul, if_pos ends]
  · have all : ¬maxPostSize - buf.length - 1 < chunk.length := by omega
    simp only [postReceive, guard, if_false, whole, findTerminator_eq nul, if_neg ends, all]

-----------------------------------------------------------------------------------------
-- Whole runs
-----------------------------------------------------------------------------------------

/-- The chunks can be what successive `Receive` calls return until `goal` bytes have been
read: none is empty, and none is longer than the room that is asked for. -/
def Receivable (maxPostSize goal : Nat) (chunks : List Str) : Prop :=
  ∀ pre chunk post,
    chunks = pre ++ chunk :: post
    → pre.flatten.length < goal
    → chunk ≠ [] ∧ chunk.length ≤ maxPostSize - pre.flatten.length - 1

/-- The loop stops at the chunk that completes the first `goal` bytes of the stream, and
its buffer then holds exactly these bytes. -/
def StopsAt (maxPostSize goal : Nat) (chunks : List Str) : Prop :=
  ∃ pre chunk post,
    chunks = pre ++ chunk :: post
    ∧ pre.flatten.length < goal
    ∧ goal ≤ (pre ++ [chunk]).flatten.length
    ∧ postReceive maxPostSize [] (pre.map .data) = .waiting
    ∧ ∃ buf,
        postReceive maxPostSize [] ((pre ++ [chunk]).map .data) = .article buf
        ∧ cstr buf = chunks.flatten.take goal

/-- Chunks that complete no terminator are collected, and the loop goes on behind them.
Witness: induction on the chunks, one `postReceive_data` a round.
-/
theorem postReceive_collects {maxPostSize : Nat} {buf : Str} {pre : List Str}
    {rest : List RecvEvent} (nul : NUL ∉ buf ++ pre.flatten)
    (silent : ∀ part, part <+: pre → ¬terminator <:+ buf ++ part.flatten)
    (room
      : ∀ front chunk back,
          pre = front ++ chunk :: back
          → chunk ≠ [] ∧ (buf ++ front.flatten).length + chunk.length < maxPostSize)
    : postReceive maxPostSize buf (pre.map .data ++ rest)
      = postReceive maxPostSize (buf ++ pre.flatten) rest := by
  induction pre generalizing buf with
  | nil => simp
  | cons chunk pre ih =>
      obtain ⟨nonempty, fits⟩ := room [] chunk pre rfl
      rw [List.flatten_cons, ← List.append_assoc] at nul
      have quiet : ¬terminator <:+ buf ++ chunk := by
        simpa using silent [chunk] (by simp)
      rw [List.map_cons, List.cons_append,
        postReceive_data (fun member => nul (List.mem_append_left _ member)) nonempty
          (by simpa using fits),
        if_neg quiet, ih nul ?_ ?_]
      · simp
      · intro part inside
        simpa using silent (chunk :: part) (by simpa using inside)
      · intro front next back split
        simpa using room (chunk :: front) next back (by rw [split]; rfl)

/-- Some chunk completes the first `goal` bytes of a stream that is long enough. -/
theorem exists_completing {goal : Nat} (chunks : List Str) (positive : 0 < goal)
    (long : goal ≤ chunks.flatten.length)
    : ∃ pre chunk post,
        chunks = pre ++ chunk :: post
        ∧ pre.flatten.length < goal
        ∧ goal ≤ (pre ++ [chunk]).flatten.length := by
  induction chunks generalizing goal with
  | nil => simp at long; omega
  | cons head tail ih =>
      by_cases here : goal ≤ head.length
      · exact ⟨[], head, tail, rfl, by simpa using positive, by simpa using here⟩
      · rw [List.flatten_cons, List.length_append] at long
        obtain ⟨pre, chunk, post, split, short, reach⟩ := @ih (goal - head.length)
          (by omega) (by omega)
        refine ⟨head :: pre, chunk, post, by rw [split]; rfl, ?_, ?_⟩
        · rw [List.flatten_cons, List.length_append]
          omega
        · rw [List.cons_append, List.flatten_cons, List.length_append]
          omega

/-- No part of a text that is shorter than its first terminator ends with one. -/
theorem not_suffix_of_first {text part : Str} {k : Nat} (first : strstr terminator text = some k)
    (inside : part <+: text) (short : part.length < k + 5)
    : ¬terminator <:+ part := by
  rintro ⟨front, rfl⟩
  obtain ⟨tail, rfl⟩ := inside
  have occurs : terminator <+: (front ++ terminator ++ tail).drop front.length := by
    rw [List.append_assoc, List.drop_left]
    exact List.prefix_append _ _
  obtain ⟨j, found, before⟩ := strstr_le_of_prefix occurs (by simp only [List.length_append]; omega)
  have same : j = k := Option.some.inj (found.symm.trans first)
  rw [List.length_append, show terminator.length = 5 from rfl] at short
  omega

section FirstTerminator

variable {maxPostSize k : Nat} {chunks : List Str}

/-- No part of the stream that is shorter than its first terminator ends with one. -/
theorem not_suffix_before_first (first : strstr terminator chunks.flatten = some k)
    {part : List Str} (inside : part <+: chunks) (short : part.flatten.length < k + 5)
    : ¬terminator <:+ part.flatten := by
  obtain ⟨tail, rfl⟩ := inside
  rw [List.flatten_append] at first
  exact not_suffix_of_first first (List.prefix_append _ _) short

/-- The part of the stream up to its first terminator ends with it. -/
theorem suffix_at_first (first : strstr terminator chunks.flatten = some k)
    : terminator <:+ chunks.flatten.take (k + 5) := by
  obtain ⟨tail, occurs⟩ := strstr_some_prefix first
  refine ⟨chunks.flatten.take k, ?_⟩
  have cut : (chunks.flatten.drop k).take 5 = terminator := by
    rw [← occurs]
    exact List.take_left' rfl
  rw [List.take_add, cut]

/-- Until the first terminator is complete the loop has only collected what it read. -/
theorem postReceive_before_first (nul : NUL ∉ chunks.flatten)
    (first : strstr terminator chunks.flatten = some k) (fits : k + 5 < maxPostSize)
    (received : Receivable maxPostSize (k + 5) chunks)
    {pre post : List Str} (split : chunks = pre ++ post) (short : pre.flatten.length < k + 5)
    (rest : List RecvEvent)
    : postReceive maxPostSize [] (pre.map .data ++ rest)
      = postReceive maxPostSize pre.flatten rest := by
  refine (postReceive_collects ?_ ?_ ?_).trans (by simp)
  · rw [List.nil_append]
    intro member
    exact nul (by rw [split, List.flatten_append]; exact List.mem_append_left _ member)
  · intro part inside
    rw [List.nil_append]
    refine not_suffix_before_first first ?_ ?_
    · exact inside.trans ⟨post, split.symm⟩
    · obtain ⟨tail, rfl⟩ := inside
      rw [List.flatten_append, List.length_append] at short
      omega
  · intro front chunk back cut
    have shorter : front.flatten.length < k + 5 := by
      rw [cut, List.flatten_append, List.length_append] at short
      omega
    obtain ⟨nonempty, room⟩ := received front chunk (back ++ post) (by rw [split, cut]; simp)
      shorter
    exact ⟨nonempty, by rw [List.nil_append]; omega⟩

/-- On every stream and every way of cutting it, the receive loop stops with exactly the
article at the chunk that completes the first terminator if and only if some chunk ends
with the first terminator.
Witness: before that point the loop only collects; at the completing chunk it looks at the
end of the chunk, which is the terminator just if the chunk brought nothing behind it.
-/
theorem postReceive_stops_iff_chunk_ends (nul : NUL ∉ chunks.flatten)
    (first : strstr terminator chunks.flatten = some k) (fits : k + 5 < maxPostSize)
    (received : Receivable maxPostSize (k + 5) chunks)
    : StopsAt maxPostSize (k + 5) chunks
      ↔ ∃ pre, pre <+: chunks ∧ pre.flatten.length = k + 5 := by
  -- what the loop does at the completing chunk, from which both directions are read off
  have atChunk {pre : List Str} {chunk : Str} {post : List Str}
      (split : chunks = pre ++ chunk :: post) (short : pre.flatten.length < k + 5)
      : postReceive maxPostSize [] (pre.map .data) = .waiting
        ∧ postReceive maxPostSize [] ((pre ++ [chunk]).map .data)
          = if terminator <:+ pre.flatten ++ chunk then .article (pre.flatten ++ chunk)
            else .waiting := by
    obtain ⟨nonempty, room⟩ := received pre chunk post split short
    constructor
    · simpa [postReceive] using
        postReceive_before_first nul first fits received split short []
    · rw [List.map_append, postReceive_before_first nul first fits received split short,
        List.map_singleton, postReceive_data ?_ nonempty (by omega)]
      · rfl
      · intro member
        refine nul ?_
        rw [split, List.flatten_append, List.flatten_cons, ← List.append_assoc]
        exact List.mem_append_left _ member
  constructor
  · rintro ⟨pre, chunk, post, split, short, reach, _, buf, stopped, holds⟩
    refine ⟨pre ++ [chunk], ⟨post, by rw [split]; simp⟩, ?_⟩
    rw [(atChunk split short).2] at stopped
    split at stopped
    · obtain rfl : pre.flatten ++ chunk = buf := Received.article.inj stopped
      have clean : NUL ∉ pre.flatten ++ chunk := by
        intro member
        refine nul ?_
        rw [split, List.flatten_append, List.flatten_cons, ← List.append_assoc]
        exact List.mem_append_left _ member
      rw [cstr_eq_self clean] at holds
      have long := (suffix_at_first first).length_le
      have bound : k + 5 ≤ chunks.flatten.length := by
        rw [split, List.flatten_append, List.length_append, List.flatten_cons,
          List.length_append]
        simp only [List.flatten_append, List.length_append, List.flatten_singleton] at reach
        omega
      have length := congrArg List.length holds
      rw [List.length_take, Nat.min_eq_left bound] at length
      simpa using length
    · simp at stopped
  · rintro ⟨whole, inside, length⟩
    have long : k + 5 ≤ chunks.flatten.length := by
      obtain ⟨tail, rfl⟩ := inside
      rw [List.flatten_append, List.length_append]
      omega
    obtain ⟨pre, chunk, post, split, short, reach⟩ := exists_completing chunks (by omega) long
    have before : pre ++ [chunk] <+: chunks := ⟨post, by rw [split]; simp⟩
    -- both parts are prefixes of the stream, and `pre` alone is too short for `whole`
    have exact : (pre ++ [chunk]).flatten.length = k + 5 := by
      rcases List.prefix_or_prefix_of_prefix before inside with ⟨tail, rfl⟩ | shorter
      · rw [List.flatten_append, List.length_append] at length
        omega
      · rcases List.prefix_concat_iff.mp shorter with rfl | ⟨tail, rfl⟩
        · exact length
        · rw [List.flatten_append, List.length_append] at short
          omega
    have content : pre.flatten ++ chunk = chunks.flatten.take (k + 5) := by
      have joined : chunks.flatten = (pre ++ [chunk]).flatten ++ post.flatten := by
        rw [split]
        simp
      rw [joined, ← exact, List.take_left, List.flatten_append, List.flatten_singleton]
    obtain ⟨waits, stops⟩ := atChunk split short
    refine ⟨pre, chunk, post, split, short, reach, waits, pre.flatten ++ chunk, ?_, ?_⟩
    · rw [stops, if_pos (content ▸ suffix_at_first first)]
    · rw [cstr_eq_self ?_, content]
      rw [content]
      exact fun member => nul (List.mem_of_mem_take member)

end FirstTerminator

/-- An article whose terminator is cut between two chunks is received. -/
theorem postReceive_stops_at_split_terminator
    : StopsAt 64 11 ["a\r\n\r\nb\r\n.".toList, "\r\n".toList] := by
  refine (postReceive_stops_iff_chunk_ends (by decide) (by decide) (by decide) ?_).mpr
    ⟨_, List.prefix_refl _, by decide⟩
  intro pre chunk post split short
  rcases pre with _ | ⟨first, _ | ⟨second, pre⟩⟩
  · obtain ⟨rfl, -⟩ := List.cons.inj split
    exact ⟨by decide, by decide⟩
  · obtain ⟨rfl, tail⟩ := List.cons.inj split
    obtain ⟨rfl, -⟩ := List.cons.inj tail
    exact ⟨by decide, by decide⟩
  · simp at split

/-- A terminator that is followed by the next command in the same chunk is missed. -/
theorem postReceive_misses_pipelined_terminator
    : ¬∀ (maxPostSize k : Nat) (chunks : List Str),
        NUL ∉ chunks.flatten
        → strstr terminator chunks.flatten = some k
        → k + 5 < maxPostSize
        → (∀ chunk ∈ chunks, chunk ≠ [])
        → Receivable maxPostSize (k + 5) chunks
        → StopsAt maxPostSize (k + 5) chunks := by
  intro claim
  obtain ⟨pre, chunk, post, split, -, -, -, buf, stopped, -⟩ :=
    claim 64 6 ["a\r\n\r\nb\r\n.\r\nquit\r\n".toList] (by decide) (by decide) (by decide)
      (by decide) (by
        intro pre chunk post split short
        obtain ⟨rfl, rfl, -⟩ : pre = [] ∧ _ = chunk ∧ post = [] := by
          simpa [List.append_eq_cons_iff, eq_comm] using split
        exact ⟨by decide, by decide⟩)
  obtain ⟨rfl, rfl, -⟩ : pre = [] ∧ _ = chunk ∧ post = [] := by
    simpa [List.append_eq_cons_iff, eq_comm] using split
  have missed
      : postReceive 64 [] (["a\r\n\r\nb\r\n.\r\nquit\r\n".toList].map .data) = .waiting := by
    decide
  exact Received.noConfusion (missed.symm.trans stopped)

end WendzelNNTPd
