import WendzelNNTPd.Posting.AllOrNothing
import WendzelNNTPd.Server.CommandLoop

/-! The command lines of a client. The loop keeps `recvbuf` terminated as long as no line fills
the part that it clears. It takes a bare LF for the end of a line as well, and then removes a CR
only, so that such a line reaches `do_command` with its LF.
-/

namespace WendzelNNTPd

open CString

-----------------------------------------------------------------------------------------
-- The text in the buffer
-----------------------------------------------------------------------------------------

/-- The part of a line in `recvbuf`: with `len` 0 the buffer is cleared before it is used. -/
structure CommandLoop.Holds (s : CommandLoop) (text : Str) : Prop where
  length : s.len = text.length
  nul : NUL ∉ text
  lf : '\n' ∉ text
  short : text.length < maxCmdlen
  cells : s.len ≠ 0 → ∀ i, i < maxCmdlen → s.recvbuf i = some (byteAt text i)
  last : s.recvbuf maxCmdlen = none

theorem holds_start : CommandLoop.start.Holds [] where
  length := rfl
  nul := by simp
  lf := by simp
  short := by decide
  cells started := absurd rfl started
  last := rfl

section Text

variable {text : Str}

/-- A text and the NULs behind it are read up to the first NUL. -/
theorem textFrom_of_cells {recvbuf : Cells} {i n : Nat} (nul : NUL ∉ text)
    (cells : ∀ j, j ≤ text.length → recvbuf (i + j) = some (byteAt text j)) (room : text.length < n)
    : textFrom recvbuf i n = some text := by
  induction text generalizing i n with
  | nil =>
      obtain ⟨n, rfl⟩ := Nat.exists_eq_succ_of_ne_zero (by omega : n ≠ 0)
      have first : recvbuf i = some NUL := cells 0 (Nat.le_refl _)
      simp [textFrom, first]
  | cons c cs ih =>
      obtain ⟨n, rfl⟩ := Nat.exists_eq_succ_of_ne_zero (by omega : n ≠ 0)
      rw [List.length_cons] at room
      have first : recvbuf i = some c := cells 0 (Nat.zero_le _)
      have other : c ≠ NUL := fun same => nul (same ▸ List.mem_cons_self)
      have rest := @ih (i + 1) n (fun later => nul (List.mem_cons_of_mem _ later))
        (fun j below => by
          rw [Nat.add_assoc, Nat.add_comm 1 j]
          exact cells (j + 1) (Nat.succ_le_succ below))
        (by omega)
      simp [textFrom, first, other, rest]

/-- Without a NUL in front of an element that was not written there is no text. -/
theorem textFrom_of_full {recvbuf : Cells} {i n : Nat} (nul : NUL ∉ text)
    (cells : ∀ j, j < text.length → recvbuf (i + j) = some (byteAt text j))
    (behind : recvbuf (i + text.length) = none)
    : textFrom recvbuf i n = none := by
  induction n generalizing i text with
  | zero => rfl
  | succ n ih =>
      cases text with
      | nil =>
          have first : recvbuf i = none := behind
          simp [textFrom, first]
      | cons c cs =>
          have first : recvbuf i = some c := cells 0 (by simp)
          have other : c ≠ NUL := fun same => nul (same ▸ List.mem_cons_self)
          have rest := @ih cs (i + 1) (fun later => nul (List.mem_cons_of_mem _ later))
            (fun j below => by
              rw [Nat.add_assoc, Nat.add_comm 1 j]
              exact cells (j + 1) (Nat.succ_lt_succ below))
            (by
              rw [Nat.add_assoc, Nat.add_comm 1 cs.length]
              exact behind)
          simp [textFrom, first, other, rest]

/-- A line feed is what both searches look for. -/
theorem strstr_newline_isSome
    : ((strstr "\r\n".toList text).isSome || (strstr "\n".toList text).isSome) = true
      ↔ '\n' ∈ text := by
  have single : (strstr "\n".toList text).isSome = true ↔ '\n' ∈ text := by
    rw [Option.isSome_iff_exists]
    constructor
    · rintro ⟨i, found⟩
      have hit := strstr_some_prefix found
      exact List.mem_of_mem_drop (hit.subset (by decide))
    · intro member
      obtain ⟨front, rest, rfl⟩ := List.append_of_mem member
      have hit : "\n".toList <+: (front ++ '\n' :: rest).drop front.length := by
        rw [List.drop_left]
        exact ⟨rest, rfl⟩
      obtain ⟨j, found, -⟩ := strstr_le_of_prefix hit (by simp)
      exact ⟨j, found⟩
  rw [Bool.or_eq_true, single, or_iff_right_iff_imp, Option.isSome_iff_exists]
  rintro ⟨i, found⟩
  have hit := strstr_some_prefix found
  exact List.mem_of_mem_drop (hit.subset (by decide))

end Text

/-- A NUL behind a text is what a cleared buffer has there. -/
theorem byteAt_concat_nul (text : Str) (i : Nat) : byteAt (text ++ [NUL]) i = byteAt text i := by
  unfold byteAt
  rcases Nat.lt_trichotomy i text.length with inside | rfl | outside
  · rw [List.getElem?_append_left inside]
  · rw [List.getElem?_concat_length, List.getElem?_eq_none (Nat.le_refl _)]
    rfl
  · have beyond : (text ++ [NUL]).length ≤ i := by
      rw [List.length_append, List.length_singleton]
      omega
    rw [List.getElem?_eq_none outside.le, List.getElem?_eq_none beyond]

section Round

variable {s : CommandLoop} {text : Str} (holds : s.Holds text) (byte : Char)
include holds

/-- Behind `Receive` the buffer has the text, the byte and NULs up to its last element. -/
theorem CommandLoop.Holds.received {i : Nat} (below : i < maxCmdlen)
    : s.received byte i = some (byteAt (text ++ [byte]) i) := by
  have before : (if s.len = 0 then bzeroRecvbuf s.recvbuf else s.recvbuf) i
      = some (byteAt text i) := by
    split
    · rename_i zero
      have empty : text = [] := List.length_eq_zero_iff.mp (holds.length.symm.trans zero)
      rw [empty, bzeroRecvbuf, if_pos below]
      rfl
    · rename_i started
      exact holds.cells started i below
  unfold CommandLoop.received
  by_cases here : i = s.len
  · rw [here, Function.update_self, holds.length, byteAt, List.getElem?_concat_length]
    rfl
  · rw [Function.update_of_ne here, before, byteAt, byteAt]
    rcases Nat.lt_or_ge i text.length with inside | outside
    · rw [List.getElem?_append_left inside]
    · have beyond : (text ++ [byte]).length ≤ i := by
        rw [List.length_append, List.length_singleton]
        have := holds.length
        omega
      rw [List.getElem?_eq_none outside, List.getElem?_eq_none beyond]

/-- The last element stays unwritten. -/
theorem CommandLoop.Holds.received_last : s.received byte maxCmdlen = none := by
  have other : maxCmdlen ≠ s.len := by
    have := holds.length
    have := holds.short
    omega
  unfold CommandLoop.received
  rw [Function.update_of_ne other]
  split
  · rw [bzeroRecvbuf, if_neg (Nat.lt_irrefl _)]
    exact holds.last
  · exact holds.last

/-- A NUL is overwritten by the next byte. -/
theorem CommandLoop.Holds.recvText_nul : recvText (s.received NUL) = some text := by
  refine textFrom_of_cells holds.nul (fun j below => ?_) (by have := holds.short; omega)
  have short := holds.short
  rw [Nat.zero_add, holds.received NUL (by omega), byteAt_concat_nul]

variable {byte} (other : byte ≠ NUL)
include other

theorem CommandLoop.Holds.nul_append : NUL ∉ text ++ [byte] := by
  intro member
  rcases List.mem_append.mp member with inside | last
  · exact holds.nul inside
  · exact other (List.mem_singleton.mp last).symm

/-- A byte that leaves a cleared element behind it ends the text. -/
theorem CommandLoop.Holds.recvText_short (room : text.length + 1 < maxCmdlen)
    : recvText (s.received byte) = some (text ++ [byte]) := by
  have length : (text ++ [byte]).length = text.length + 1 := by
    rw [List.length_append, List.length_singleton]
  refine textFrom_of_cells (holds.nul_append other) (fun j below => ?_) (by omega)
  rw [Nat.zero_add]
  exact holds.received byte (by omega)

/-- A byte in the last cleared element leaves the text without an end. -/
theorem CommandLoop.Holds.recvText_full (full : text.length + 1 = maxCmdlen)
    : recvText (s.received byte) = none := by
  have length : (text ++ [byte]).length = maxCmdlen := by
    rw [List.length_append, List.length_singleton]
    exact full
  refine textFrom_of_full (holds.nul_append other) (fun j below => ?_) ?_
  · rw [Nat.zero_add]
    exact holds.received byte (by omega)
  · rw [Nat.zero_add, length]
    exact holds.received_last byte

end Round

-----------------------------------------------------------------------------------------
-- What one round does
-----------------------------------------------------------------------------------------

section Step

variable {s : CommandLoop} {text : Str}

theorem CommandLoop.Holds.guard (holds : s.Holds text) : s.len ≠ maxCmdlen := by
  have := holds.length
  have := holds.short
  omega

/-- A NUL changes nothing. -/
theorem CommandLoop.Holds.round_nul (holds : s.Holds text)
    : ∃ next : CommandLoop, next.Holds text
        ∧ s.round NUL = some (⟨s.len, s.received NUL, none⟩, some next) := by
  have quiet : ¬((strstr "\r\n".toList text).isSome || (strstr "\n".toList text).isSome) = true :=
    fun found => holds.lf (strstr_newline_isSome.mp found)
  refine ⟨⟨s.received NUL, text.length⟩, ⟨rfl, holds.nul, holds.lf, holds.short, ?_, ?_⟩, ?_⟩
  · intro _ i below
    exact (holds.received NUL below).trans (congrArg some (byteAt_concat_nul text i))
  · exact holds.received_last NUL
  · simp only [CommandLoop.round, if_neg holds.guard, holds.recvText_nul, if_neg quiet]

/-- Another byte is appended to the text, if there is room behind it. -/
theorem CommandLoop.Holds.round_byte (holds : s.Holds text) {byte : Char} (other : byte ≠ NUL)
    (noLf : byte ≠ '\n') (room : text.length + 1 < maxCmdlen)
    : ∃ next : CommandLoop, next.Holds (text ++ [byte])
        ∧ s.round byte = some (⟨s.len, s.received byte, none⟩, some next) := by
  have length : (text ++ [byte]).length = text.length + 1 := by
    rw [List.length_append, List.length_singleton]
  have clean : '\n' ∉ text ++ [byte] := by
    intro member
    rcases List.mem_append.mp member with inside | last
    · exact holds.lf inside
    · exact noLf (List.mem_singleton.mp last).symm
  have quiet : ¬((strstr "\r\n".toList (text ++ [byte])).isSome
      || (strstr "\n".toList (text ++ [byte])).isSome) = true :=
    fun found => clean (strstr_newline_isSome.mp found)
  refine ⟨⟨s.received byte, (text ++ [byte]).length⟩,
    ⟨rfl, holds.nul_append other, clean, by omega, ?_, holds.received_last byte⟩, ?_⟩
  · intro _ i below
    exact holds.received byte below
  · simp only [CommandLoop.round, if_neg holds.guard, holds.recvText_short other room, if_neg quiet]

/-- A line feed ends the line: `do_command` is called for it, and the next line starts. -/
theorem CommandLoop.Holds.round_lf (holds : s.Holds text) (room : text.length + 1 < maxCmdlen)
    : ∃ next : CommandLoop, next.Holds []
        ∧ s.round '\n'
          = some (⟨s.len, s.received '\n', some (text ++ ['\n'])⟩, some next) := by
  have found : ((strstr "\r\n".toList (text ++ ['\n'])).isSome
      || (strstr "\n".toList (text ++ ['\n'])).isSome) = true :=
    strstr_newline_isSome.mpr (by simp)
  refine ⟨⟨s.received '\n', 0⟩,
    ⟨rfl, by simp, by simp, by decide, fun started => absurd rfl started,
      holds.received_last '\n'⟩, ?_⟩
  have whole : recvText (s.received '\n') = some (text ++ ['\n']) :=
    holds.recvText_short (by decide) room
  simp only [CommandLoop.round, if_neg holds.guard, whole, if_pos found]

/-- A byte in the last cleared element is one too many. -/
theorem CommandLoop.Holds.round_full (holds : s.Holds text) {byte : Char} (other : byte ≠ NUL)
    (full : text.length + 1 = maxCmdlen)
    : s.round byte = some (⟨s.len, s.received byte, none⟩, none) := by
  simp only [CommandLoop.round, if_neg holds.guard, holds.recvText_full other full]

end Step

-----------------------------------------------------------------------------------------
-- Reads and writes inside of the buffer
-----------------------------------------------------------------------------------------

/-- The bytes of a line, of which there are `n` so far, and of the lines behind it: each line
has less than `MAX_CMDLEN` bytes that are not NUL, with its line feed. -/
def ShortLines (n : Nat) : Str → Prop
  | [] => True
  | byte :: bytes =>
      if byte = NUL then ShortLines n bytes
      else n + 1 < maxCmdlen ∧ ShortLines (if byte = '\n' then 0 else n + 1) bytes

/-- In a round `strstr` and `strlen` find a NUL that was written, and `Receive` stores its byte
in an element of the array. -/
structure LoopRound.Safe (round : LoopRound) : Prop where
  terminated : ∃ k ≤ maxCmdlen, round.recvbuf k = some NUL
  inside : round.index ≤ maxCmdlen

/-- Every round is safe, and `len` is at most `MAX_CMDLEN` in it. -/
def RecvbufSafe (stream : Str) : Prop := ∀ round ∈ CommandLoop.start.rounds stream, round.Safe

section Safe

variable {s : CommandLoop} {text : Str} {byte : Char}

/-- With room behind the byte the round is safe. -/
theorem CommandLoop.Holds.safe (holds : s.Holds text) (called : Option Str)
    (room : byte = NUL ∨ text.length + 1 < maxCmdlen)
    : LoopRound.Safe ⟨s.len, s.received byte, called⟩ := by
  have short := holds.short
  have length := holds.length
  refine ⟨?_, by simp only; omega⟩
  rcases room with rfl | room
  · refine ⟨text.length, by omega, ?_⟩
    show s.received NUL text.length = some NUL
    rw [holds.received NUL short, byteAt, List.getElem?_concat_length]
    rfl
  · refine ⟨text.length + 1, by omega, ?_⟩
    show s.received byte (text.length + 1) = some NUL
    rw [holds.received byte room, byteAt, List.getElem?_eq_none (by simp)]
    rfl

/-- Without it no written element is NUL. -/
theorem CommandLoop.Holds.not_safe (holds : s.Holds text) (called : Option Str)
    (other : byte ≠ NUL) (full : text.length + 1 = maxCmdlen)
    : ¬LoopRound.Safe ⟨s.len, s.received byte, called⟩ := by
  rintro ⟨⟨k, bound, found⟩, -⟩
  have found : s.received byte k = some NUL := found
  rcases Nat.lt_or_eq_of_le bound with below | rfl
  · have inside : k < (text ++ [byte]).length := by
      rw [List.length_append, List.length_singleton]
      omega
    rw [holds.received byte below, byteAt, List.getElem?_eq_getElem inside] at found
    have member : NUL ∈ text ++ [byte] := by
      rw [← Option.some.inj found]
      exact List.getElem_mem inside
    exact holds.nul_append other member
  · rw [holds.received_last byte] at found
    cases found

/-- The rounds behind a text are safe exactly if its line and all later ones are short.
Witness: induction on the bytes; each one is a NUL, the end of the line, one more byte of it, or
one too many.
-/
theorem CommandLoop.Holds.rounds_safe_iff (holds : s.Holds text) (stream : Str)
    : (∀ round ∈ s.rounds stream, round.Safe) ↔ ShortLines text.length stream := by
  induction stream generalizing s text with
  | nil => exact iff_of_true nofun trivial
  | cons byte stream ih =>
      by_cases nul : byte = NUL
      · subst nul
        obtain ⟨next, nextHolds, step⟩ := holds.round_nul
        simp only [CommandLoop.rounds, step, List.forall_mem_cons, ih nextHolds, ShortLines, if_true]
        exact and_iff_right (holds.safe none (Or.inl rfl))
      · by_cases room : text.length + 1 < maxCmdlen
        · by_cases lf : byte = '\n'
          · subst lf
            obtain ⟨next, nextHolds, step⟩ := holds.round_lf room
            simp only [CommandLoop.rounds, step, List.forall_mem_cons, ih nextHolds, ShortLines,
              if_neg nul, if_true, List.length_nil]
            exact and_congr_left (fun _ => iff_of_true (holds.safe _ (Or.inr room)) room)
          · obtain ⟨next, nextHolds, step⟩ := holds.round_byte nul lf room
            simp only [CommandLoop.rounds, step, List.forall_mem_cons, ih nextHolds, ShortLines,
              if_neg nul, if_neg lf, List.length_append, List.length_singleton]
            exact and_congr_left (fun _ => iff_of_true (holds.safe _ (Or.inr room)) room)
        · have full : text.length + 1 = maxCmdlen := by
            have := holds.short
            omega
          simp only [CommandLoop.rounds, holds.round_full nul full, List.forall_mem_cons, ShortLines,
            if_neg nul]
          exact iff_of_false (fun safe => holds.not_safe none nul full safe.1) (fun fits => room fits.1)

end Safe

/-- The loop reads and writes inside of `recvbuf` exactly if each line has less than `MAX_CMDLEN`
bytes that are not NUL. -/
theorem recvbuf_safe_iff (stream : Str) : RecvbufSafe stream ↔ ShortLines 0 stream :=
  holds_start.rounds_safe_iff stream

/-- The first line that is too long, without a line feed. -/
def longLine : Str := List.replicate maxCmdlen 'x'

theorem shortLines_replicate {n : Nat} (k : Nat) (short : n < maxCmdlen)
    : ShortLines n (List.replicate k 'x') ↔ n + k < maxCmdlen := by
  induction k generalizing n with
  | zero => exact iff_of_true trivial short
  | succ k ih =>
      rw [List.replicate_succ, ShortLines, if_neg (by decide), if_neg (by decide)]
      constructor
      · rintro ⟨room, rest⟩
        have := (ih room).mp rest
        omega
      · intro fits
        exact ⟨by omega, (ih (by omega)).mpr (by omega)⟩

/-- The byte that fills the cleared part of `recvbuf` leaves the text without an end. -/
theorem longLine_not_safe : ¬RecvbufSafe longLine := by
  intro safe
  have short := (holds_start.rounds_safe_iff longLine).mp safe
  have := (shortLines_replicate maxCmdlen (by decide : 0 < maxCmdlen)).mp short
  omega

-----------------------------------------------------------------------------------------
-- Command lines
-----------------------------------------------------------------------------------------

/-- The two line ends that the loop accepts. -/
inductive LineEnd
  | lf
  | crlf
  deriving DecidableEq, Repr

def LineEnd.bytes : LineEnd → Str
  | .lf => "\n".toList
  | .crlf => "\r\n".toList

/-- A line of the client: its text and how it ends. -/
structure CommandLine where
  text : Str
  ends : LineEnd
  deriving DecidableEq, Repr

def CommandLine.bytes (line : CommandLine) : Str := line.text ++ line.ends.bytes

/-- The line with CRLF. -/
def CommandLine.withCrlf (line : CommandLine) : CommandLine := { line with ends := .crlf }

/-- A command line without NUL that is not longer than the loop admits. A text before a bare LF
does not end with CR: that CR would belong to the line end. POST goes on to read from the
connection itself. -/
structure CommandLine.Admitted (line : CommandLine) : Prop where
  nul : NUL ∉ line.text
  lf : '\n' ∉ line.text
  cr : line.ends = .lf → line.text.getLast? ≠ some '\r'
  short : line.bytes.length < maxCmdlen
  notPost : caseEqPrefix "post".toList line.text = false

/-- The bytes of the lines one after another. -/
def streamOf (lines : List CommandLine) : Str := lines.flatMap CommandLine.bytes

section Commands

variable {s : CommandLoop} {text : Str}

/-- The bytes of a line before its line feed are collected. -/
theorem CommandLoop.Holds.rounds_called (holds : s.Holds text) {more rest : Str}
    (nul : NUL ∉ more) (lf : '\n' ∉ more) (short : text.length + more.length + 1 < maxCmdlen)
    : ∃ next : CommandLoop, next.Holds []
        ∧ (s.rounds (more ++ '\n' :: rest)).filterMap LoopRound.called
          = (text ++ more ++ ['\n']) :: (next.rounds rest).filterMap LoopRound.called := by
  induction more generalizing s text with
  | nil =>
      obtain ⟨next, nextHolds, step⟩ := holds.round_lf (by simpa using short)
      refine ⟨next, nextHolds, ?_⟩
      simp [CommandLoop.rounds, step]
  | cons byte more ih =>
      rw [List.length_cons] at short
      obtain ⟨notNul, nul⟩ := List.ne_and_not_mem_of_not_mem_cons nul
      obtain ⟨notLf, lf⟩ := List.ne_and_not_mem_of_not_mem_cons lf
      obtain ⟨next, nextHolds, step⟩ := holds.round_byte (Ne.symm notNul) (Ne.symm notLf) (by omega)
      have size : (text ++ [byte]).length + more.length + 1 < maxCmdlen := by
        rw [List.length_append, List.length_singleton]
        omega
      obtain ⟨last, lastHolds, calls⟩ := ih nextHolds nul lf size
      refine ⟨last, lastHolds, ?_⟩
      simp only [List.cons_append, CommandLoop.rounds, step, List.filterMap_cons]
      rw [calls]
      simp

/-- The bytes of a line are some bytes without line feed and a line feed. -/
theorem CommandLine.bytes_eq (line : CommandLine)
    : ∃ more, line.bytes = more ++ ['\n'] ∧ (more = line.text ∨ more = line.text ++ ['\r']) := by
  cases ends : line.ends with
  | lf => exact ⟨line.text, by rw [CommandLine.bytes, ends]; rfl, Or.inl rfl⟩
  | crlf =>
      refine ⟨line.text ++ ['\r'], ?_, Or.inr rfl⟩
      rw [CommandLine.bytes, ends, List.append_assoc]
      rfl

/-- `do_command` is called once for each line, in their order. -/
theorem commandTexts_streamOf {lines : List CommandLine} (admitted : ∀ line ∈ lines, line.Admitted)
    : commandTexts (streamOf lines) = lines.map CommandLine.bytes := by
  unfold commandTexts
  generalize CommandLoop.start = s, holds_start = holds
  induction lines generalizing s with
  | nil => rfl
  | cons line lines ih =>
      obtain ⟨is, others⟩ := List.forall_mem_cons.mp admitted
      obtain ⟨more, bytes, parts⟩ := line.bytes_eq
      have nul : NUL ∉ more := by
        rcases parts with rfl | rfl
        · exact is.nul
        · simpa using ⟨is.nul, by decide⟩
      have lf : '\n' ∉ more := by
        rcases parts with rfl | rfl
        · exact is.lf
        · simpa using is.lf
      have short := is.short
      rw [bytes, List.length_append, List.length_singleton] at short
      have stream : streamOf (line :: lines) = more ++ '\n' :: streamOf lines := by
        rw [streamOf, List.flatMap_cons, bytes, List.append_assoc]
        rfl
      obtain ⟨next, nextHolds, calls⟩ := @CommandLoop.Holds.rounds_called s [] holds more
        (streamOf lines) nul lf (by rw [List.length_nil]; omega)
      rw [stream, calls, ih others next nextHolds, List.nil_append, ← bytes]
      rfl

end Commands

/-- The rounds of the server for the texts, each with its environment and with what the others
do to the store before it. -/
def roundsOf (texts : List Str) (contexts : List (Env × (Store → Store))) : List Round :=
  List.zipWith (fun text context => ⟨⟨text, context.1⟩, context.2⟩) texts contexts

/-- `do_command` gets the text of each line once, escaped, and the lines are answered like the
same lines with CRLF, as far as the connection lasts. -/
structure CommandsRight (db : SrvBackend) (lines : List CommandLine) : Prop where
  calls : (commandTexts (streamOf lines)).map db.command
    = lines.map (fun line => dbSecureSqlbuffer db.dbase line.text)
  answers : ∀ ext cfg conn contexts,
    db.replies ext cfg conn (roundsOf (commandTexts (streamOf lines)) contexts)
      = db.replies ext cfg conn
          (roundsOf (commandTexts (streamOf (lines.map CommandLine.withCrlf))) contexts)

section Escaped

/-- Escaping does not make up for text that is missing. -/
theorem dbSecureSqlbuffer_append_eq {dbase : Dbase} {a b : Str}
    (same : dbSecureSqlbuffer dbase (a ++ b) = dbSecureSqlbuffer dbase a)
    : b = [] := by
  rw [dbSecureSqlbuffer_append] at same
  have nothing : dbSecureSqlbuffer dbase b = [] := List.append_right_eq_self.mp same
  have long := dbSecureSqlbuffer_length_le dbase b
  rw [nothing] at long
  exact List.length_eq_zero_iff.mp (Nat.le_zero.mp long)

/-- The removal of the CR either leaves a text alone or cuts it off at a CR. -/
theorem stripCr_cases (recvbuf : Str)
    : stripCr recvbuf = recvbuf ∨ ∃ rest, recvbuf = stripCr recvbuf ++ '\r' :: rest := by
  cases recvbuf with
  | nil => exact Or.inl rfl
  | cons c cs =>
      by_cases there : '\r' ∈ cs
      · refine Or.inr ?_
        have found := List.takeWhile_append_dropWhile (p := (· != '\r')) (l := cs.reverse)
        cases behind : cs.reverse.dropWhile (· != '\r') with
        | nil =>
            have none := List.dropWhile_eq_nil_iff.mp behind '\r' (List.mem_reverse.mpr there)
            simp at none
        | cons d front =>
            have isCr : d = '\r' := by
              have head := List.head?_dropWhile_not (· != '\r') cs.reverse
              rw [behind] at head
              simpa using head
            subst isCr
            rw [behind] at found
            refine ⟨(cs.reverse.takeWhile (· != '\r')).reverse, ?_⟩
            have whole := congrArg List.reverse found
            simp only [stripCr, if_pos there, behind, List.tail_cons]
            generalize cs.reverse.takeWhile (· != '\r') = back at whole
            rw [List.reverse_reverse, List.reverse_append, List.reverse_cons] at whole
            rw [← whole]
            simp
      · exact Or.inl (by simp only [stripCr, if_neg there])

/-- The command is the text of the line exactly if the line is not empty and ends with CRLF.
Witness: what `stripCr` leaves of another line is longer than its text or shorter.
-/
theorem command_bytes_iff (db : SrvBackend) (line : CommandLine)
    : db.command line.bytes = dbSecureSqlbuffer db.dbase line.text
      ↔ line.ends = .crlf ∧ line.text ≠ [] := by
  obtain ⟨text, ends⟩ := line
  unfold SrvBackend.command CommandLine.bytes
  simp only
  constructor
  · intro same
    cases text with
    | nil =>
        have alone : stripCr ([] ++ ends.bytes) = [] ++ ends.bytes := by cases ends <;> rfl
        rw [alone] at same
        have nothing := dbSecureSqlbuffer_append_eq same
        cases ends <;> cases nothing
    | cons c cs =>
        refine ⟨?_, by simp⟩
        cases ends with
        | crlf => rfl
        | lf =>
            rcases stripCr_cases (c :: cs ++ LineEnd.lf.bytes) with alone | ⟨rest, cut⟩
            · rw [alone] at same
              cases dbSecureSqlbuffer_append_eq same
            · generalize stripCr (c :: cs ++ LineEnd.lf.bytes) = front at same cut
              -- the CR stands in the text, so what is left of it is shorter
              obtain ⟨back, whole⟩ : ∃ back, c :: cs = front ++ '\r' :: back := by
                have last : LineEnd.lf.bytes = ['\n'] := rfl
                rw [last] at cut
                rcases List.append_eq_append_iff.mp cut with ⟨more, -, ending⟩ | ⟨more, text, ending⟩
                · cases more with
                  | nil => exact absurd (List.cons.inj ending).1 (by decide)
                  | cons d more => simp at ending
                · cases more with
                  | nil => exact absurd (List.cons.inj ending).1 (by decide)
                  | cons d more =>
                      obtain ⟨rfl, -⟩ := List.cons.inj ending
                      exact ⟨more, text⟩
              rw [whole] at same
              cases dbSecureSqlbuffer_append_eq same.symm
  · rintro ⟨rfl, nonempty⟩
    cases text with
    | nil => exact absurd rfl nonempty
    | cons c cs => exact congrArg (dbSecureSqlbuffer db.dbase) (stripCr_line c cs)

end Escaped

/-- The commands of admitted lines are right exactly if no line is empty and none ends with a
bare LF. -/
theorem commands_right_iff (db : SrvBackend) (lines : List CommandLine)
    (admitted : ∀ line ∈ lines, line.Admitted)
    : CommandsRight db lines ↔ ∀ line ∈ lines, line.ends = .crlf ∧ line.text ≠ [] := by
  have texts := commandTexts_streamOf admitted
  have calls : (commandTexts (streamOf lines)).map db.command
        = lines.map (fun line => dbSecureSqlbuffer db.dbase line.text)
      ↔ ∀ line ∈ lines, line.ends = .crlf ∧ line.text ≠ [] := by
    rw [texts, List.map_map, List.map_inj_left]
    exact forall₂_congr (fun line _ => command_bytes_iff db line)
  refine ⟨fun right => calls.mp right.calls, fun condition => ⟨calls.mpr condition, ?_⟩⟩
  intro ext cfg conn contexts
  have same : lines.map CommandLine.withCrlf = lines := by
    refine (List.map_congr_left (fun line member => ?_)).trans (List.map_id lines)
    rw [CommandLine.withCrlf, ← (condition line member).1]
    rfl
  rw [same]

/-- Two lines as they should be. -/
def tidyLines : List CommandLine := [⟨"GROUP open".toList, .crlf⟩, ⟨"STAT 1".toList, .crlf⟩]

theorem tidyLines_admitted : ∀ line ∈ tidyLines, line.Admitted := by
  intro line member
  simp only [tidyLines, List.mem_cons, List.not_mem_nil, or_false] at member
  rcases member with rfl | rfl
  · exact ⟨by decide, by decide, nofun, by decide, by decide⟩
  · exact ⟨by decide, by decide, nofun, by decide, by decide⟩

theorem commands_right_crlf : CommandsRight .sqlite3 tidyLines :=
  (commands_right_iff .sqlite3 tidyLines tidyLines_admitted).mpr (by decide)

/-- The first of them with a bare LF. -/
def lfLine : CommandLine := ⟨"GROUP open".toList, .lf⟩

theorem lfLine_admitted : lfLine.Admitted :=
  ⟨by decide, by decide, fun _ => by decide, by decide, by decide⟩

/-- A connection to a server with one newsgroup. -/
def lineConnection : Connection :=
  ⟨Session.fresh openConfig false .article .cleared,
    { Store.empty with newsgroups := [⟨"open".toList, 'y', 0⟩] }⟩

/-- The texts of the replies to a line. -/
def lineReplies (line : CommandLine) : List (List Str) :=
  (SrvBackend.sqlite3.replies postExtern openConfig lineConnection
    (roundsOf [line.bytes] [(sendingEnv [], id)])).map (·.map Piece.text)

/-- With a bare LF the name of the newsgroup has the LF at its end, and there is no such group. -/
theorem lfLine_not_right
    : lfLine.Admitted
      ∧ ¬CommandsRight .sqlite3 [lfLine]
      ∧ lineReplies lfLine = [["411 no such group\r\n".toList]]
      ∧ lineReplies lfLine.withCrlf = [["211 0 0 0 open group selected\r\n".toList]] := by
  refine ⟨lfLine_admitted, fun right => ?_, by decide +kernel, by decide +kernel⟩
  have calls := right.calls
  rw [commandTexts_streamOf (List.forall_mem_singleton.mpr lfLine_admitted), List.map_map,
    List.map_inj_left] at calls
  have ⟨ends, _⟩ := (command_bytes_iff .sqlite3 lfLine).mp (calls lfLine (List.mem_singleton_self _))
  cases ends

end WendzelNNTPd
