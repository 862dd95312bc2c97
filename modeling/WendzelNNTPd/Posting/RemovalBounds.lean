import WendzelNNTPd.Lib.Allocation
import WendzelNNTPd.Posting.HeaderText

/-! The removal loop of `docmd_post` with the index of every byte of `header` that it reads or
writes. Later passes also scan what earlier ones left behind the new end of the text; the line end
and the NUL that the allocation ends with are never written, and stop every search.
-/

namespace WendzelNNTPd

open CString Allocation

section Model

/-- The search for the end of a line: `header[lenb] != '\r' && header[lenb + 1] != '\n'`. -/
def lineEndAt (header : Str) : Nat → Nat → Except Fault Nat
  | 0, _ => .error .running
  | rounds + 1, lenb => do
      let c ← load header lenb
      if c = '\r' then pure lenb
      else do
        let d ← load header (lenb + 1)
        if d = '\n' then pure lenb else lineEndAt header rounds (lenb + 1)

/-- The loop `while (lenb <= strlen(header))`; each `strlen` is given `size` rounds. -/
def moveDownAt (size : Nat) : Nat → Str → Nat → Nat → Except Fault (Str × Nat)
  | 0, _, _, _ => .error .running
  | rounds + 1, header, i, lenb => do
      let len ← strlen header size 0
      if lenb ≤ len then do
        let c ← load header lenb
        let header ← store header i c
        moveDownAt size rounds header (i + 1) (lenb + 1)
      else pure (header, i)

variable (rounds : Nat)

/-- What is done where a field is found. -/
def removeLineAt (header field : Str) (i : Nat) : Except Fault Str := do
  let lenb ← lineEndAt header rounds (i + field.length - 1)
  let (header, i) ← moveDownAt rounds rounds header i (lenb + 2)
  store header i NUL

/-- One pass of the removal loop, from index `i` on. -/
def removePassAt (len : Nat) (header field : Str) : Nat → Nat → Except Fault Str
  | 0, _ => .error .running
  | n + 1, i =>
      if i < len then do
        let found ← strncasecmp header i field
        if found then removeLineAt rounds header field i
        else removePassAt len header field n (i + 1)
      else pure header

/-- All passes of the removal loop; each loop is given `rounds` rounds. -/
def removeLinesAt (len : Nat) (header : Str) : Except Fault Str :=
  removeLines.foldlM (fun header field => removePassAt rounds len header field rounds 0) header

end Model

section Ending

/-- The allocation still ends as it did in the beginning: with the CRLF of the last line, at index
`len`, and with the NUL. -/
def KeepsEnd (len : Nat) (header : Str) : Prop := header.drop len = ['\r', '\n', NUL]

variable {len : Nat} {header : Str}

theorem KeepsEnd.length (keeps : KeepsEnd len header) : header.length = len + 3 := by
  have size := congrArg List.length keeps
  rw [List.length_drop] at size
  have three : ['\r', '\n', NUL].length = 3 := rfl
  omega

theorem KeepsEnd.cr (keeps : KeepsEnd len header) : header[len]? = some '\r' := by
  have head := congrArg List.head? keeps
  rwa [List.head?_drop] at head

/-- A byte in front of the last line end may be written. -/
theorem KeepsEnd.set (keeps : KeepsEnd len header) {i : Nat} (before : i < len) (c : Char)
    : KeepsEnd len (header.set i c) := by
  rw [KeepsEnd, List.drop_set_of_lt before]
  exact keeps

/-- The text ends within the allocation, at the latest at its last byte. -/
theorem KeepsEnd.text (keeps : KeepsEnd len header)
    : ∃ tail, header = cstr header ++ NUL :: tail ∧ NUL ∉ cstr header
      ∧ (cstr header).length ≤ len + 2 := by
  have nul : NUL ∈ header.take (len + 3) := by
    rw [← keeps.length, List.take_length]
    exact List.mem_of_mem_drop (keeps ▸ by simp : NUL ∈ header.drop len)
  have short := length_cstr_lt nul
  have inside : (cstr header).length < header.length := by
    rw [keeps.length]
    exact short
  obtain ⟨tail, whole⟩ := cstr_ended inside
  refine ⟨tail, whole, fun member => ?_, by omega⟩
  have other := List.mem_takeWhile_imp member
  simp at other

/-- `strlen(header)` stays within the allocation. -/
theorem KeepsEnd.strlen (keeps : KeepsEnd len header) {size : Nat} (enough : len + 3 ≤ size)
    : Allocation.strlen header size 0 = .ok (cstr header).length := by
  obtain ⟨tail, whole, nul, short⟩ := keeps.text
  have found : Allocation.strlen (cstr header ++ NUL :: tail) size 0 = .ok (cstr header).length :=
    strlen_eq nul (Nat.zero_le _) (by omega)
  rwa [← whole] at found

/-- The search for the end of a line ends at the latest at the last line end.
Witness: induction on the rounds; a round that goes on takes the index one byte nearer to it.
-/
theorem lineEndAt_ends (keeps : KeepsEnd len header) (rounds lenb : Nat) (before : lenb ≤ len)
    (enough : len < rounds + lenb)
    : ∃ e, lineEndAt header rounds lenb = .ok e ∧ findEol lenb (header.drop lenb) = some e
      ∧ lenb ≤ e ∧ e ≤ len := by
  have size := keeps.length
  induction rounds generalizing lenb with
  | zero => omega
  | succ rounds ih =>
      have here : lenb < header.length := by omega
      have next : lenb + 1 < header.length := by omega
      have bytes : header.drop lenb
          = header[lenb] :: header[lenb + 1] :: header.drop (lenb + 2) := by
        rw [List.drop_eq_getElem_cons here, List.drop_eq_getElem_cons next]
      rw [lineEndAt, load_of_some (List.getElem?_eq_getElem here), ok_bind, bytes, findEol]
      by_cases cr : header[lenb] = '\r'
      · rw [if_pos cr, if_pos (Or.inl cr)]
        exact ⟨lenb, rfl, rfl, Nat.le_refl _, before⟩
      · rw [if_neg cr, load_of_some (List.getElem?_eq_getElem next), ok_bind]
        by_cases lf : header[lenb + 1] = '\n'
        · rw [if_pos lf, if_pos (Or.inr lf)]
          exact ⟨lenb, rfl, rfl, Nat.le_refl _, before⟩
        · have notLast : lenb ≠ len := by
            rintro rfl
            have byte := keeps.cr
            rw [List.getElem?_eq_getElem here] at byte
            exact cr (Option.some.inj byte)
          rw [if_neg lf, if_neg (not_or.mpr ⟨cr, lf⟩), ← List.drop_eq_getElem_cons next]
          obtain ⟨e, ran, found, le, inside⟩ := ih (lenb + 1) (by omega) (by omega)
          exact ⟨e, ran, found, by omega, inside⟩

/-- The loop that moves the rest down writes in front of the last line end only.
Witness: induction on the rounds; the byte that is written stays four bytes behind the one that is
read.
-/
theorem moveDownAt_moves (keeps : KeepsEnd len header) {size : Nat} (enoughSize : len + 3 ≤ size)
    (rounds rounds' : Nat) {i lenb : Nat} (gap : i + 4 ≤ lenb) (bound : lenb ≤ len + 3)
    (enough : len + 3 < rounds + lenb) (enough' : len + 3 < rounds' + lenb)
    : moveDownAt size rounds header i lenb = .ok (copyDown rounds' header i lenb)
      ∧ KeepsEnd len (copyDown rounds' header i lenb).1
      ∧ (copyDown rounds' header i lenb).2 < len := by
  induction rounds generalizing rounds' header i lenb with
  | zero => omega
  | succ rounds ih =>
      obtain ⟨rounds', rfl⟩ : ∃ n, rounds' = n + 1 := ⟨rounds' - 1, by omega⟩
      obtain ⟨-, -, -, short⟩ := keeps.text
      rw [moveDownAt, keeps.strlen enoughSize, ok_bind, copyDown]
      by_cases more : lenb ≤ (cstr header).length
      · have inside : lenb < header.length := by
          rw [keeps.length]
          omega
        have byte : byteAt header lenb = header[lenb] := by
          rw [byteAt, List.getElem?_eq_getElem inside]
          rfl
        have before : i < header.length := by omega
        rw [if_pos more, if_pos more, load_of_some (List.getElem?_eq_getElem inside), ok_bind,
          store_of_lt before, ok_bind, byte]
        have moved := keeps.set (show i < len by omega) header[lenb]
        exact ih moved rounds' (by omega) (by omega) (by omega) (by omega)
      · rw [if_neg more, if_neg more]
        exact ⟨rfl, keeps, by omega⟩

/-- A field that is found in front of the last line end is removed within the allocation. -/
theorem removeLineAt_removes (keeps : KeepsEnd len header) {field : Str}
    (member : field ∈ removeLines) {i : Nat} (room : i + field.length ≤ len)
    : ∃ out, removeAt header field i = some out ∧ KeepsEnd len out
      ∧ ∀ rounds, len + 4 ≤ rounds → removeLineAt rounds header field i = .ok out := by
  have six := removeLines_length member
  obtain ⟨e, -, eol, le, inside⟩ :=
    lineEndAt_ends keeps (len + 1) (i + field.length - 1) (by omega) (by omega)
  have allocated := keeps.length
  have moves (rounds : Nat) (enough : len + 4 ≤ rounds) :=
    moveDownAt_moves keeps (show len + 3 ≤ rounds by omega) rounds (header.length + 1)
      (show i + 4 ≤ e + 2 by omega) (by omega) (by omega) (by omega)
  have removed := removeAt_eq eol
  generalize copyDown (header.length + 1) header i (e + 2) = moved at moves removed
  obtain ⟨-, keeps', before⟩ := moves (len + 4) (Nat.le_refl _)
  refine ⟨moved.1.set moved.2 NUL, removed, keeps'.set before NUL, fun rounds enough => ?_⟩
  obtain ⟨e', ran, eol', -, -⟩ :=
    lineEndAt_ends keeps rounds (i + field.length - 1) (by omega) (by omega)
  obtain rfl : e = e' := Option.some.inj (eol.symm.trans eol')
  rw [removeLineAt, ran, ok_bind, (moves rounds enough).1, ok_bind]
  exact store_of_lt (by rw [keeps'.length]; omega) NUL

/-- A field is looked for within the allocation. -/
theorem KeepsEnd.compare (keeps : KeepsEnd len header) {field : Str}
    (member : field ∈ removeLines)
    {i : Nat} (before : i ≤ len)
    : strncasecmp header i field = .ok (caseEqPrefix field (header.drop i))
      ∧ (caseEqPrefix field (header.drop i) = true → i + field.length ≤ len) :=
  strncasecmp_eq keeps.cr (removeLines_plain member (Or.inr (Or.inl rfl))) before

/-- A pass without a hit ends behind the last index.
Witness: induction on the rounds; each of them takes the index one further.
-/
theorem removePassAt_none (keeps : KeepsEnd len header) {field : Str}
    (member : field ∈ removeLines)
    (missed : ∀ i < len, caseEqPrefix field (header.drop i) = false) (rounds n : Nat) {i : Nat}
    (before : i ≤ len) (enough : len < n + i)
    : removePassAt rounds len header field n i = .ok header := by
  induction n generalizing i with
  | zero => omega
  | succ n ih =>
      rw [removePassAt]
      by_cases inside : i < len
      · rw [if_pos inside, (keeps.compare member before).1, missed i inside, ok_bind,
          if_neg Bool.false_ne_true]
        exact ih (by omega) (by omega)
      · rw [if_neg inside]
        rfl

/-- A pass removes its first hit. -/
theorem removePassAt_some (keeps : KeepsEnd len header) {field : Str}
    (member : field ∈ removeLines) {k : Nat} (inside : k < len)
    (hit : caseEqPrefix field (header.drop k) = true)
    (missed : ∀ i < k, caseEqPrefix field (header.drop i) = false) (rounds n : Nat) {i : Nat}
    (before : i ≤ k) (enough : len < n + i)
    : removePassAt rounds len header field n i = removeLineAt rounds header field k := by
  induction n generalizing i with
  | zero => omega
  | succ n ih =>
      rw [removePassAt, if_pos (by omega), (keeps.compare member (by omega)).1, ok_bind]
      rcases Nat.lt_or_eq_of_le before with earlier | rfl
      · rw [missed i earlier, if_neg Bool.false_ne_true]
        exact ih earlier (by omega)
      · rw [hit, if_pos rfl]

/-- One pass of the removal loop ends, and leaves the end of the allocation as it was. -/
theorem removePassAt_removes (keeps : KeepsEnd len header) {field : Str}
    (member : field ∈ removeLines)
    : ∃ out, removeField len header field = some out ∧ KeepsEnd len out
      ∧ ∀ rounds, len + 4 ≤ rounds →
          removePassAt rounds len header field rounds 0 = .ok out := by
  unfold removeField
  cases search : (List.range len).find? (fun i => caseEqPrefix field (header.drop i)) with
  | none =>
      have missed (i : Nat) (inside : i < len) : caseEqPrefix field (header.drop i) = false :=
        Bool.eq_false_of_not_eq_true (List.find?_eq_none.mp search i (List.mem_range.mpr inside))
      refine ⟨header, rfl, keeps, fun rounds enough => ?_⟩
      exact removePassAt_none keeps member missed rounds rounds (Nat.zero_le _) (by omega)
  | some k =>
      obtain ⟨hit, range, first⟩ := List.find?_range_eq_some.mp search
      have inside : k < len := List.mem_range.mp range
      have missed (i : Nat) (earlier : i < k) : caseEqPrefix field (header.drop i) = false := by
        simpa using first i earlier
      obtain ⟨out, removed, keeps', ran⟩ :=
        removeLineAt_removes keeps member ((keeps.compare member (by omega)).2 hit)
      refine ⟨out, removed, keeps', fun rounds enough => ?_⟩
      rw [removePassAt_some keeps member inside hit missed rounds rounds (Nat.zero_le _) (by omega)]
      exact ran rounds enough

/-- All passes end, and leave the end of the allocation as it was. -/
theorem foldlM_removePassAt {fields : List Str}
    (members : ∀ field ∈ fields, field ∈ removeLines)
    (keeps : KeepsEnd len header)
    : ∃ out, fields.foldlM (removeField len) header = some out ∧ KeepsEnd len out
      ∧ ∀ rounds, len + 4 ≤ rounds →
          fields.foldlM (fun header field => removePassAt rounds len header field rounds 0) header
            = .ok out := by
  induction fields generalizing header with
  | nil => exact ⟨header, rfl, keeps, fun _ _ => rfl⟩
  | cons field rest ih =>
      obtain ⟨next, removed, keepsNext, ran⟩ :=
        removePassAt_removes keeps (members field (List.mem_cons_self ..))
      obtain ⟨out, removedAll, keepsOut, ranAll⟩ :=
        ih (fun other there => members other (List.mem_cons_of_mem field there)) keepsNext
      refine ⟨out, ?_, keepsOut, fun rounds enough => ?_⟩
      · rw [List.foldlM_cons, removed]
        exact removedAll
      · rw [List.foldlM_cons, ran rounds enough, ok_bind]
        exact ranAll rounds enough

end Ending

section Received

/-- The allocation ends with the CRLF of the last header line and with a NUL. -/
theorem keepsEnd_headerBuffer {buf : Str} {i : Nat} (found : headerEnd 0 buf = some i)
    (early : NUL ∉ buf.take 4)
    : KeepsEnd i (headerBuffer buf i) := by
  rw [KeepsEnd, drop_headerBuffer found early]
  rfl

/-- The NUL that ends the text stands behind the terminator. -/
theorem early_of_findTerminator {acc buf : Str} (clean : NUL ∉ acc)
    (ended : findTerminator acc = some buf)
    : NUL ∉ buf.take 4 := by
  obtain ⟨j, -, rfl⟩ := Option.map_eq_some_iff.mp ended
  rw [List.take_set_of_le (by omega)]
  exact fun member => clean (List.mem_of_mem_take member)

/-- What is received without NUL has none among its first bytes.
Witness: induction on the events, with the bytes received so far.
-/
theorem early_of_received {maxPostSize : Nat} {events : List RecvEvent} {acc buf : Str}
    (nulFree : ∀ chunk, .data chunk ∈ events → NUL ∉ chunk) (clean : NUL ∉ acc)
    (received : postReceive maxPostSize acc events = .article buf)
    : NUL ∉ buf.take 4 := by
  induction events generalizing acc with
  | nil => cases received
  | cons event rest ih =>
      have later : ∀ chunk, .data chunk ∈ rest → NUL ∉ chunk :=
        fun chunk there => nulFree chunk (List.mem_cons_of_mem event there)
      cases event with
      | nothing => exact ih later clean received
      | selectError => cases received
      | shutdown =>
          unfold postReceive at received
          split at received <;> cases received
      | recvError =>
          unfold postReceive at received
          split at received <;> cases received
      | data chunk =>
          have chunkClean := nulFree chunk (List.mem_cons_self ..)
          have both (n : Nat) : NUL ∉ acc ++ chunk.take n := by
            intro member
            rcases List.mem_append.mp member with before | inside
            · exact clean before
            · exact chunkClean (List.mem_of_mem_take inside)
          rw [postReceive] at received
          split at received
          · cases received
          · simp only at received
            split at received
            · rename_i ended
              cases received
              exact early_of_findTerminator (both _) ended
            · split at received
              · cases received
              · have all := both chunk.length
                rw [List.take_length] at all
                exact ih later all received

/-- Whatever article without NUL is received and wherever its header ends, the passes of the removal
loop end within `i + 4` rounds of each loop, and never leave the `i + 3` bytes of `header`. -/
theorem removal_stays_inside {maxPostSize : Nat} {events : List RecvEvent} {buf : Str} {i : Nat}
    (nulFree : ∀ chunk, .data chunk ∈ events → NUL ∉ chunk)
    (received : postReceive maxPostSize [] events = .article buf)
    (found : headerEnd 0 buf = some i)
    : (headerBuffer buf i).length = i + 3
      ∧ ∃ len out, strstr headerSep (cstr buf) = some len
        ∧ removeFields len (headerBuffer buf i) = some out
        ∧ ∀ rounds, i + 4 ≤ rounds →
            removeLinesAt rounds len (headerBuffer buf i) = .ok out := by
  have early := early_of_received nulFree (by simp) received
  have keeps := keepsEnd_headerBuffer found early
  obtain ⟨out, removed, -, ran⟩ := foldlM_removePassAt (fun _ member => member) keeps
  exact ⟨keeps.length, i, out, (strstr_headerSep_iff found).mpr early, removed, ran⟩

/-- The second pass removes the last line, and the third one finds its field behind the new end. -/
def staleArticle : Str :=
  "Newsgroups: a\r\nDate: Lines: 3\r\n\r\nhello\r\n.\r\n".toList

theorem stale_removal_inside
    : (headerBuffer staleArticle 29).length = 32
      ∧ ∃ len out, strstr headerSep (cstr staleArticle) = some len
        ∧ removeFields len (headerBuffer staleArticle 29) = some out
        ∧ ∀ rounds, 33 ≤ rounds →
            removeLinesAt rounds len (headerBuffer staleArticle 29) = .ok out := by
  have received : postReceive 64 [] [.data staleArticle] = .article staleArticle := by
    decide +kernel
  refine removal_stays_inside (fun chunk there => ?_) received (by decide +kernel)
  cases List.mem_singleton.mp there
  decide

example
    : removeLinesAt 33 29 (headerBuffer staleArticle 29)
      = .ok "Newsgroups: a\r\n\x00\x00te: \x00ines: 3\r\n\x00".toList := by
  decide +kernel

end Received

end WendzelNNTPd
