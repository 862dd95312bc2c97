import Mathlib.Logic.Function.Basic
import WendzelNNTPd.Server.Backends

/-! The main loop of `do_server`, byte by byte. `recvbuf` has `MAX_CMDLEN + 1` elements, of
which the loop clears `MAX_CMDLEN` before the first byte of a line; each byte goes to where
`strlen` found the end of the text, and the text is searched for a line feed after every byte.
-/

namespace WendzelNNTPd

open CString

/-- `MAX_CMDLEN` -/
def maxCmdlen : Nat := 8196

/-- The elements of `recvbuf` by index; `none` is one that was not written on this
connection. -/
abbrev Cells := Nat → Option Char

/-- `bzero(recvbuf, MAX_CMDLEN)` -/
def bzeroRecvbuf (recvbuf : Cells) : Cells :=
  fun i => if i < maxCmdlen then some NUL else recvbuf i

/-- The text from index `i` on, at most `n` elements up to its NUL; `none` if there is none
among the elements that were written. -/
def textFrom (recvbuf : Cells) (i : Nat) : Nat → Option Str
  | 0 => none
  | n + 1 =>
      match recvbuf i with
      | none => none
      | some c => if c = NUL then some [] else (textFrom recvbuf (i + 1) n).map (c :: ·)

/-- The text that `strstr` and `strlen` find in `recvbuf`. -/
def recvText (recvbuf : Cells) : Option Str := textFrom recvbuf 0 (maxCmdlen + 1)

/-- The local variables of the loop. -/
structure CommandLoop where
  recvbuf : Cells
  len : Nat

/-- Nothing of `recvbuf` is written before the loop. -/
def CommandLoop.start : CommandLoop := ⟨fun _ => none, 0⟩

/-- What one round of the loop does with `recvbuf`: where `Receive` stores the byte, what
`strstr` and `strlen` look at, and the text that `do_command` is called for. -/
structure LoopRound where
  index : Nat
  recvbuf : Cells
  called : Option Str

/-- The elements of `recvbuf` behind `Receive`. -/
def CommandLoop.received (s : CommandLoop) (byte : Char) : Cells :=
  Function.update (if s.len = 0 then bzeroRecvbuf s.recvbuf else s.recvbuf) s.len (some byte)

/-- One round: `none` if the guard ends the connection. What follows a text without an end is
undefined. The loop clears `recvbuf` behind a command, so that the CR that is removed from it
does not matter any more. -/
def CommandLoop.round (s : CommandLoop) (byte : Char) : Option (LoopRound × Option CommandLoop) :=
  if s.len = maxCmdlen then none
  else
    let recvbuf := s.received byte
    match recvText recvbuf with
    | none => some (⟨s.len, recvbuf, none⟩, none)
    | some text =>
        if (strstr "\r\n".toList text).isSome || (strstr "\n".toList text).isSome then
          some (⟨s.len, recvbuf, some text⟩, some ⟨recvbuf, 0⟩)
        else some (⟨s.len, recvbuf, none⟩, some ⟨recvbuf, text.length⟩)

/-- The rounds of the loop for the bytes that it receives. -/
def CommandLoop.rounds (s : CommandLoop) : Str → List LoopRound
  | [] => []
  | byte :: bytes =>
      match s.round byte with
      | none => []
      | some (round, none) => [round]
      | some (round, some next) => round :: next.rounds bytes

/-- The texts that `do_command` is called for, with their line ends. -/
def commandTexts (stream : Str) : List Str :=
  (CommandLoop.start.rounds stream).filterMap LoopRound.called

end WendzelNNTPd
