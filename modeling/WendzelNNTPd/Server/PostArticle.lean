import WendzelNNTPd.Server.Session
import WendzelNNTPd.Server.Text
import WendzelNNTPd.Lib.Regex

/-! The parts of `docmd_post` that work on the received text: the receive loop, the split
into header and body, the header checks, and the header that is stored. -/

namespace WendzelNNTPd

open CString

-----------------------------------------------------------------------------------------
-- The receive loop
-----------------------------------------------------------------------------------------

/-- The end of a posting. -/
def terminator : Str := "\r\n.\r\n".toList

/-- How the receive loop ends. -/
inductive Received
  | article (buf : Str)
  | tooBig
  | failed
  | waiting
  deriving DecidableEq, Repr

/-- The search for the terminator after a read: only the last five bytes are looked at.
The result is the buffer with everything behind the hit cut off. -/
def findTerminator (buf : Str) : Option Str :=
  let offset := if buf.length > 5 then buf.length - 5 else 0
  (strstr terminator (cstr (buf.drop offset))).map (fun i => buf.set (offset + i + 5) NUL)

/-- The receive loop of `docmd_post`. `buf` holds the `recv_bytes` bytes read so far; the
rest of the allocation is cleared. What `Receive` had no room for stays in the socket, so
that the next round finds the buffer full. -/
def postReceive (maxPostSize : Nat) (buf : Str) : List RecvEvent → Received
  | [] => .waiting
  | .nothing :: rest => postReceive maxPostSize buf rest
  | .selectError :: _ => .failed
  | event :: rest =>
      if maxPostSize - buf.length ≤ 1 then .tooBig
      else
        match event with
        | .data chunk =>
            let room := maxPostSize - buf.length - 1
            match findTerminator (buf ++ chunk.take room) with
            | some buf' => .article buf'
            | none =>
                if room < chunk.length then .tooBig
                else postReceive maxPostSize (buf ++ chunk) rest
        | _ => .failed

-----------------------------------------------------------------------------------------
-- Header and body
-----------------------------------------------------------------------------------------

def headerSep : Str := "\r\n\r\n".toList

/-- The loop that looks for the end of the header, from index `i` on. -/
def headerEnd (i : Nat) : Str → Option Nat
  | [] => none
  | c :: cs =>
      if byteAt (c :: cs) 4 = NUL then none
      else if headerSep.isPrefixOf (c :: cs) then some i
      else headerEnd (i + 1) cs

/-- The allocation `header`: `strncpy` of `i + 2` bytes of `buf` into `i + 3` cleared
bytes. -/
def headerBuffer (buf : Str) (i : Nat) : Str :=
  let text := cstr (buf.take (i + 2))
  text ++ List.replicate (i + 3 - text.length) NUL

-----------------------------------------------------------------------------------------
-- Required header lines
-----------------------------------------------------------------------------------------

/-- `[a-zA-Z0-9.-]` -/
def domainChar : Ere := .oneOf (fun c => isalnum c || c == '.' || c == '-')

/-- `[a-zA-Z0-9._+-]` -/
def emailChar : Ere := .oneOf (fun c => isalnum c || c == '.' || c == '_' || c == '+' || c == '-')

/-- `[^\r\n\t]` -/
def textChar : Ere := .oneOf (fun c => c != '\r' && c != '\n' && c != '\t')

/-- `EMAIL_NAME"@"DOMAIN_NAME` -/
def addressRx : Ere := Ere.seqAll [emailChar.plus, .char '@', domainChar.plus]

def crlf : Ere := .literal "\r\n".toList

def newsgroupsRx : Ere :=
  Ere.seqAll
    [.caseWord "newsgroups".toList, .literal ": ".toList, domainChar.plus,
      .star (.seq (.char ',') domainChar.plus), crlf]

def fromPlainRx : Ere :=
  Ere.seqAll [.caseWord "from".toList, .literal ": ".toList, addressRx, crlf]

/-- The parentheses of this expression are not escaped, so they only group. -/
def fromCommentRx : Ere :=
  Ere.seqAll
    [.caseWord "from".toList, .literal ": ".toList, addressRx, .char ' ', textChar.plus, crlf]

def fromAngleRx : Ere :=
  Ere.seqAll
    [.caseWord "from".toList, .literal ": ".toList, .star textChar, .literal " <".toList,
      addressRx, .char '>', crlf]

def subjectRx : Ere :=
  Ere.seqAll [.caseWord "subject".toList, .literal ": ".toList, .star textChar, crlf]

/-- `docmd_post_chk_required_hdr_lines`: the message of the first check that fails. -/
def chkRequiredHdrLines (header : Str) : Option Str :=
  if !newsgroupsRx.matchesLineStart header then some hdrerrorNewsgroup
  else if !(fromPlainRx.matchesLineStart header || fromCommentRx.matchesLineStart header
    || fromAngleRx.matchesLineStart header) then some hdrerrorFrom
  else if !subjectRx.matchesLineStart header then some hdrerrorSubject
  else none

theorem message_of_chkRequiredHdrLines {header message : Str}
    (missing : chkRequiredHdrLines header = some message)
    : message ∈ [hdrerrorNewsgroup, hdrerrorFrom, hdrerrorSubject] := by
  unfold chkRequiredHdrLines at missing
  split at missing
  · cases missing
    exact List.mem_cons_self ..
  · split at missing
    · cases missing
      exact List.mem_cons_of_mem _ (List.mem_cons_self ..)
    · split at missing
      · cases missing
        exact List.mem_cons_of_mem _ (List.mem_cons_of_mem _ (List.mem_cons_self ..))
      · cases missing

-----------------------------------------------------------------------------------------
-- Removal of Message-ID, Date and Lines
-----------------------------------------------------------------------------------------

def removeLines : List Str :=
  ["Message-ID: ".toList, "Date: ".toList, "Lines: ".toList]

/-- The search for the end of a line, from index `lenb` on; `none` reads behind the
allocation. -/
def findEol (lenb : Nat) : Str → Option Nat
  | [] => none
  | [c] => if c = '\r' then some lenb else none
  | c :: d :: rest => if c = '\r' ∨ d = '\n' then some lenb else findEol (lenb + 1) (d :: rest)

/-- The loop `while (lenb <= strlen(header))` that moves the rest of the header down.
Each round advances `lenb`, so the size of the allocation bounds the number of rounds. -/
def copyDown : Nat → Str → Nat → Nat → Str × Nat
  | 0, header, i, _ => (header, i)
  | rounds + 1, header, i, lenb =>
      if lenb ≤ (cstr header).length then
        copyDown rounds (header.set i (byteAt header lenb)) (i + 1) (lenb + 1)
      else (header, i)

/-- Remove the line part that starts with `field` at index `i`. -/
def removeAt (header field : Str) (i : Nat) : Option Str := do
  let lenb ← findEol (i + field.length - 1) (header.drop (i + field.length - 1))
  let (moved, j) := copyDown (header.length + 1) header i (lenb + 2)
  pure (moved.set j NUL)

/-- One pass of the removal loop: the first of the indices below `len` at which `field`
stands. -/
def removeField (len : Nat) (header field : Str) : Option Str :=
  match (List.range len).find? (fun i => caseEqPrefix field (header.drop i)) with
  | some i => removeAt header field i
  | none => some header

/-- All passes of the removal loop. -/
def removeFields (len : Nat) (header : Str) : Option Str :=
  removeLines.foldlM (removeField len) header

-----------------------------------------------------------------------------------------
-- The lines added to the header
-----------------------------------------------------------------------------------------

/-- The line count: line feeds behind the header, counted from -1. -/
def linecount (body : Str) : Int := (body.count '\n' : Int) - 1

/-- The fully qualified name put into the `Path` line. -/
def fqdn (env : Env) : Str :=
  let unknown := "unknown".toList
  let domain := (env.domainname.filter (fun d => !"(none)".toList.isPrefixOf d)).getD unknown
  (env.hostname.getD unknown).take 127 ++ '.' :: domain.take 127

/-- The lines the server puts in front of the client's header. -/
def serverHeader (env : Env) (messageId date : Str) (lines : Int) (bodysize : Nat) : Str :=
  snprintf 0x7fe
    ("Path: ".toList ++ fqdn env ++ "\r\nMessage-ID: ".toList ++ messageId
      ++ "\r\nDate: ".toList ++ date ++ "\r\nLines: ".toList ++ decInt lines
      ++ "\r\nX-WendzelNNTPdBodysize: ".toList ++ dec bodysize ++ "\r\n".toList)

end WendzelNNTPd
