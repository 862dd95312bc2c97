import WendzelNNTPd.Posting.AllOrNothing
import WendzelNNTPd.Posting.ReceiveLoop
import WendzelNNTPd.Server.Backends

/-! `max-size-of-postings`. The receive loop keeps the last byte of its allocation for a
terminator and refuses as soon as the rest is full and more can be read, so that an article of
exactly the configured size is refused.
-/

namespace WendzelNNTPd

open CString

-----------------------------------------------------------------------------------------
-- What the loop stores
-----------------------------------------------------------------------------------------

/-- The bytes of a text with the indices they get from `offset` on. -/
def storedAt (offset : Nat) : Str → List (Nat × Char)
  | [] => []
  | c :: cs => (offset, c) :: storedAt (offset + 1) cs

/-- The NUL that is put behind a terminator in the last five bytes. -/
def terminatorStore (buf : Str) : List (Nat × Char) :=
  let offset := if buf.length > 5 then buf.length - 5 else 0
  match strstr terminator (cstr (buf.drop offset)) with
  | some i => [(offset + i + 5, NUL)]
  | none => []

/-- The assignments to elements of `buf` in the receive loop, in their order. -/
def postStores (maxPostSize : Nat) (buf : Str) : List RecvEvent → List (Nat × Char)
  | [] => []
  | .nothing :: rest => postStores maxPostSize buf rest
  | .selectError :: _ => []
  | event :: rest =>
      if maxPostSize - buf.length ≤ 1 then []
      else
        match event with
        | .data chunk =>
            let room := maxPostSize - buf.length - 1
            let received := chunk.take room
            storedAt buf.length received
              ++ match findTerminator (buf ++ received) with
                | some _ => terminatorStore (buf ++ received)
                | none => if room < chunk.length then [] else postStores maxPostSize (buf ++ chunk) rest
        | _ => []

/-- An allocation behind an assignment. -/
def assign (cells : Str) (stored : Nat × Char) : Str := cells.set stored.1 stored.2

/-- A text in a cleared allocation. -/
def allocated (maxPostSize : Nat) (text : Str) : Str :=
  text ++ List.replicate (maxPostSize - text.length) NUL

section Stores

variable {maxPostSize : Nat} {buf : Str}

theorem storedAt_bounds {offset : Nat} {text : Str} {stored : Nat × Char}
    (member : stored ∈ storedAt offset text)
    : stored.1 < offset + text.length := by
  induction text generalizing offset with
  | nil => cases member
  | cons c cs ih =>
      rw [List.length_cons]
      rcases List.mem_cons.mp member with rfl | later
      · show offset < _
        omega
      · have := ih later
        omega

/-- Assigning a text behind the one that is there. -/
theorem assign_storedAt {text : Str} (room : buf.length + text.length ≤ maxPostSize)
    : (storedAt buf.length text).foldl assign (allocated maxPostSize buf)
      = allocated maxPostSize (buf ++ text) := by
  induction text generalizing buf with
  | nil => simp [storedAt]
  | cons c cs ih =>
      rw [List.length_cons] at room
      have left : maxPostSize - buf.length = maxPostSize - (buf ++ [c]).length + 1 := by
        rw [List.length_append, List.length_singleton]
        omega
      have first : assign (allocated maxPostSize buf) (buf.length, c)
          = allocated maxPostSize (buf ++ [c]) := by
        simp only [assign, allocated]
        rw [left, List.replicate_succ, List.set_append_right _ _ (Nat.le_refl _), Nat.sub_self,
          List.set_cons_zero, List.append_assoc, List.singleton_append]
      have step := @ih (buf ++ [c]) (by rw [List.length_append, List.length_singleton]; omega)
      rw [List.length_append, List.length_singleton, List.append_assoc, List.singleton_append] at step
      rw [storedAt, List.foldl_cons, first, step]

/-- The NUL behind a terminator has an index of the text or the one behind it. -/
theorem terminatorStore_bounds {stored : Nat × Char} (member : stored ∈ terminatorStore buf)
    : stored.1 ≤ buf.length ∧ stored.2 = NUL := by
  unfold terminatorStore at member
  simp only at member
  split at member
  · rename_i i found
    cases List.mem_singleton.mp member
    refine ⟨?_, rfl⟩
    generalize (if buf.length > 5 then buf.length - 5 else 0) = offset at found
    have hit := strstr_some_prefix found
    have inside := hit.length_le
    have short : (cstr (buf.drop offset)).length ≤ (buf.drop offset).length :=
      (List.takeWhile_prefix _).length_le
    have five : terminator.length = 5 := rfl
    rw [List.length_drop] at inside short
    show offset + i + 5 ≤ buf.length
    omega
  · cases member

/-- Every received byte is stored below the last byte of the allocation, and the NUL behind
a terminator at most in it.
Witness: induction on the rounds; `Receive` is asked for one byte less than there is room.
-/
theorem postStores_bounds {events : List RecvEvent} (room : buf.length < maxPostSize)
    {stored : Nat × Char} (member : stored ∈ postStores maxPostSize buf events)
    : stored.1 < maxPostSize ∧ (stored.2 ≠ NUL → stored.1 < maxPostSize - 1) := by
  induction events generalizing buf with
  | nil => cases member
  | cons event rest ih =>
      cases event with
      | nothing => exact ih room member
      | selectError => cases member
      | shutdown => simp [postStores] at member
      | recvError => simp [postStores] at member
      | data chunk =>
          simp only [postStores] at member
          split at member
          · cases member
          · have fits := List.length_take_le (maxPostSize - buf.length - 1) chunk
            rcases List.mem_append.mp member with received | behind
            · have bound := storedAt_bounds received
              exact ⟨by omega, fun _ => by omega⟩
            · split at behind
              · have ⟨bound, nul⟩ := terminatorStore_bounds behind
                rw [List.length_append] at bound
                exact ⟨by omega, fun other => absurd nul other⟩
              · split at behind
                · cases behind
                · refine ih ?_ behind
                  rw [List.length_append]
                  omega

/-- A NUL behind or inside a text leaves the rest of a cleared allocation cleared. -/
theorem assign_nul {i : Nat}
    : assign (allocated maxPostSize buf) (i, NUL) = allocated maxPostSize (buf.set i NUL) := by
  simp only [assign, allocated, List.length_set]
  by_cases inside : i < buf.length
  · rw [List.set_append_left _ _ inside]
  · rw [List.set_append_right _ _ (by omega), List.set_replicate_self,
      List.set_eq_of_length_le (by omega)]

theorem assign_terminatorStore {buf' : Str} (found : findTerminator buf = some buf')
    : (terminatorStore buf).foldl assign (allocated maxPostSize buf)
      = allocated maxPostSize buf' := by
  simp only [findTerminator, Option.map_eq_some_iff] at found
  obtain ⟨i, hit, rfl⟩ := found
  simp only [terminatorStore, hit]
  exact assign_nul

/-- The assignments of the loop leave in the cleared allocation what it takes for the article. -/
theorem postStores_leave {events : List RecvEvent} (room : buf.length < maxPostSize) {buf' : Str}
    (ends : postReceive maxPostSize buf events = .article buf')
    : (postStores maxPostSize buf events).foldl assign (allocated maxPostSize buf)
      = allocated maxPostSize buf' := by
  induction events generalizing buf with
  | nil => cases ends
  | cons event rest ih =>
      cases event with
      | nothing => exact ih room ends
      | selectError => cases ends
      | shutdown =>
          simp only [postReceive] at ends
          split at ends <;> cases ends
      | recvError =>
          simp only [postReceive] at ends
          split at ends <;> cases ends
      | data chunk =>
          simp only [postReceive, postStores] at ends ⊢
          have fits := List.length_take_le (maxPostSize - buf.length - 1) chunk
          split at ends
          · cases ends
          · rename_i guard
            rw [if_neg guard, List.foldl_append, assign_storedAt (by omega)]
            cases found : findTerminator (buf ++ chunk.take (maxPostSize - buf.length - 1)) with
            | some whole =>
                rw [found] at ends
                cases ends
                exact assign_terminatorStore found
            | none =>
                rw [found] at ends
                simp only at ends ⊢
                split at ends
                · cases ends
                · rename_i all
                  have whole : chunk.take (maxPostSize - buf.length - 1) = chunk :=
                    List.take_of_length_le (by omega)
                  rw [if_neg all, whole]
                  refine ih ?_ ends
                  rw [List.length_append]
                  omega

end Stores

-----------------------------------------------------------------------------------------
-- Articles and their size
-----------------------------------------------------------------------------------------

/-- The events bring the text in chunks, with rounds in between that find nothing to read. -/
inductive Delivers : Str → List RecvEvent → Prop
  | all : Delivers [] []
  | nothing {text : Str} {events : List RecvEvent} (later : Delivers text events)
    : Delivers text (.nothing :: events)
  | data {text : Str} {events : List RecvEvent} (chunk : Str) (nonempty : chunk ≠ [])
    (later : Delivers text events)
    : Delivers (chunk ++ text) (.data chunk :: events)

/-- A text without NUL that ends with its first terminator. -/
structure IsArticle (article : Str) : Prop where
  nul : NUL ∉ article
  first : strstr terminator article = some (article.length - 5)
  long : 5 ≤ article.length

section Size

variable {maxPostSize : Nat} {article : Str}

/-- No proper part of an article ends with a terminator. -/
theorem IsArticle.silent (is : IsArticle article) {part : Str} (inside : part <+: article)
    (proper : part.length < article.length)
    : ¬terminator <:+ part :=
  not_suffix_of_first is.first inside (by have := is.long; omega)

theorem IsArticle.ends (is : IsArticle article) : terminator <:+ article := by
  have inside := strstr_some_prefix is.first
  have whole : terminator = article.drop (article.length - 5) := by
    refine inside.eq_of_length ?_
    have five : terminator.length = 5 := rfl
    have := is.long
    rw [List.length_drop]
    omega
  rw [whole]
  exact List.drop_suffix _ _

/-- The loop takes the article if it leaves a byte of the allocation free, and otherwise the
posting is too big.
Witness: induction on the deliveries. A chunk that fits either completes the article or
leaves a proper part of it, which does not end with the terminator; neither does the part of a
chunk that fills the buffer.
-/
theorem postReceive_delivered (is : IsArticle article) {buf text : Str}
    {events : List RecvEvent} (later : List RecvEvent) (split : buf ++ text = article)
    (missing : text ≠ []) (room : buf.length < maxPostSize) (delivers : Delivers text events)
    : postReceive maxPostSize buf (events ++ later)
      = if article.length < maxPostSize then .article article else .tooBig := by
  induction delivers generalizing buf with
  | all => exact absurd rfl missing
  | nothing _ ih => exact ih split missing room
  | @data text events chunk nonempty _ ih =>
      have positive : 0 < chunk.length := List.length_pos_iff.mpr nonempty
      have size : article.length = buf.length + chunk.length + text.length := by
        rw [← split, List.length_append, List.length_append, Nat.add_assoc]
      have clean {part : Str} (inside : part <+: article) : NUL ∉ part :=
        fun member => is.nul (inside.subset member)
      rw [List.cons_append]
      simp only [postReceive]
      split
      · rw [if_neg (by omega)]
      by_cases fits : chunk.length ≤ maxPostSize - buf.length - 1
      · have inside : buf ++ chunk <+: article := ⟨text, by rw [List.append_assoc, split]⟩
        rw [List.take_of_length_le fits, findTerminator_eq (clean inside)]
        by_cases whole : text = []
        · subst whole
          rw [List.append_nil] at split
          rw [List.length_nil] at size
          rw [split, if_pos is.ends]
          simp only
          rw [if_pos (by omega)]
        · have more : 0 < text.length := List.length_pos_iff.mpr whole
          rw [if_neg (is.silent inside (by rw [List.length_append]; omega))]
          simp only
          rw [if_neg (by omega)]
          refine ih (by rw [List.append_assoc, split]) whole ?_
          rw [List.length_append]
          omega
      · have inside : buf ++ chunk.take (maxPostSize - buf.length - 1) <+: article := by
          rw [← split]
          exact (List.prefix_append_right_inj _).mpr
            ((List.take_prefix _ _).trans (List.prefix_append _ _))
        have short : (buf ++ chunk.take (maxPostSize - buf.length - 1)).length < article.length := by
          rw [List.length_append, List.length_take]
          omega
        rw [findTerminator_eq (clean inside), if_neg (is.silent inside short)]
        simp only
        rw [if_pos (by omega), if_neg (by omega)]

end Size

section Reply

variable (db : SrvBackend) (ext : Extern) (cfg : Config) (env : Env) (article : Str)

/-- POST handles an article as its size asks for: the received bytes stay below the last byte
of the allocation, no assignment leaves it, and the article is taken if it is not larger than
`max-size-of-postings` and else answered with 503 and the end of the connection. -/
structure PostSizeRight : Prop where
  below : ∀ stored ∈ postStores cfg.maxPostSize [] env.recv,
    stored.2 ≠ NUL → stored.1 < cfg.maxPostSize - 1
  inside : ∀ stored ∈ postStores cfg.maxPostSize [] env.recv, stored.1 < cfg.maxPostSize
  accepts : article.length ≤ cfg.maxPostSize →
    postReceive cfg.maxPostSize [] env.recv = .article article
    ∧ db.docmdPost ext cfg env
      = (send postok >>= fun _ => db.postArticle ext cfg env article)
  refuses : cfg.maxPostSize < article.length →
    db.docmdPost ext cfg env
      = (send postok >>= fun _ => send postTooBig >>= fun _ => killThread)

end Reply

/-- An article of 55 bytes. -/
def sizedArticle : Str :=
  "From: a@b.org\r\nNewsgroups: a\r\nSubject: hi\r\n\r\nhello\r\n.\r\n".toList

/-- A server that takes postings of at most so many bytes. -/
def sizedConfig (maxPostSize : Nat) : Config := { openConfig with maxPostSize := maxPostSize }

/-- The article in two chunks, the second of which holds the last bytes of the terminator. -/
def sizedEnv : Env :=
  { sendingEnv [] with
    recv := [.data (sizedArticle.take 53), .nothing, .data (sizedArticle.drop 53)] }

theorem sizedArticle_isArticle : IsArticle sizedArticle where
  nul := by decide +kernel
  first := by decide +kernel
  long := by decide +kernel

theorem sizedEnv_delivers : Delivers sizedArticle sizedEnv.recv := by
  have parts : sizedArticle = sizedArticle.take 53 ++ (sizedArticle.drop 53 ++ []) := by
    rw [List.append_nil, List.take_append_drop]
  rw [parts]
  exact .data _ (by decide +kernel) (.nothing (.data _ (by decide +kernel) .all))

end WendzelNNTPd
