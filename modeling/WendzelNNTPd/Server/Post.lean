import WendzelNNTPd.Server.PostArticle
import WendzelNNTPd.Database.Sqlite3
import WendzelNNTPd.Database.Escaping

/-! `docmd_post`: the checks of an article, its message id, and the statements that store
the body, the posting and one `ngposts` row for each newsgroup. -/

namespace WendzelNNTPd

open CString Atomic

-----------------------------------------------------------------------------------------
-- The stack of newsgroups already served (charstack.c)
-----------------------------------------------------------------------------------------

/-- `charstack_t`: the first node, and the values of the nodes linked behind it. -/
inductive Charstack
  | empty
  | hasdata (value : Str) (next : List Str)
  deriving DecidableEq, Repr

/-- `charstack_check_for` -/
def Charstack.checkFor : Charstack → Str → Bool
  | .empty, _ => false
  | .hasdata value next, v => value == v || next.contains v

/-- `charstack_push_on`: the new node is linked directly behind the first one, and nothing
is linked behind the new node. -/
def Charstack.pushOn : Charstack → Str → Charstack
  | .empty, v => .hasdata v []
  | .hasdata value _, v => .hasdata value [v]

-----------------------------------------------------------------------------------------
-- Checks of the newsgroup names
-----------------------------------------------------------------------------------------

/-- `docmd_post_chk_ng_name_correctness` for the tokens of the Newsgroups value. -/
def chkNgNameCorrectness : List Str → Srv Bool
  | [] => pure true
  | newsgroup :: rest => do
      modify (fun s => { s with chkname := some (dbSecureSqlbuffer .sqlite3 newsgroup) })
      dbCheckNewsgroupExistence
      modify (fun s => { s with chkname := none })
      let s ← get
      if !s.foundGroup then do
        toSend nosuchgroup
        pure false
      else do
        modify (fun s => { s with chkname := some (dbSecureSqlbuffer .sqlite3 newsgroup) })
        dbCheckNewsgroupPostingAllowed
        modify (fun s => { s with chkname := none })
        let s ← get
        if !s.foundGroup then do
          toSend posterrorNotallowed
          pure false
        else do
          modify (fun s => { s with foundGroup := false })
          chkNgNameCorrectness rest

-----------------------------------------------------------------------------------------
-- Storing an accepted article
-----------------------------------------------------------------------------------------

/-- The article limit: `cur_high > 0x7ffffffe` ends the connection. -/
def highLimit : Nat := 0x7ffffffe

/-- The loop over the newsgroups of an article. -/
def postToGroups (cfg : Config) (env : Env) (messageId : Str)
    : List Str → Charstack → Srv Unit
  | [], _ => pure ()
  | newsgroup :: rest, stack => do
      let s ← get
      let allowed ← aclCheckIfUsed cfg s.curAuthUser newsgroup
      if !allowed then postToGroups cfg env messageId rest stack
      else do
        let curHigh ← dbGetHighValue env newsgroup
        if curHigh > highLimit then killThread
        else if stack.checkFor newsgroup then postToGroups cfg env messageId rest stack
        else do
          dbPostInsertIntoNgposts messageId newsgroup (curHigh + 1)
          dbPostUpdateHighValue (curHigh + 1) newsgroup
          postToGroups cfg env messageId rest (stack.pushOn newsgroup)

/-- The end of `docmd_post`: body file, `postings` row, newsgroups, reply. Only PostgreSQL
can keep bodies in the database; with another backend the process exits. -/
def storeArticle (cfg : Config) (env : Env) (row : Posting) (body : Str) (groups : List Str)
    : Srv Unit := do
  if cfg.messageBodyInDb then crash
  else do
    filebackendSavebody row.msgid body
    dbPostInsertIntoPostings row
    postToGroups cfg env row.msgid groups .empty
    toSend postdone

-----------------------------------------------------------------------------------------
-- docmd_post
-----------------------------------------------------------------------------------------

/-- `NNTPD_ANONYM_HOST` -/
def nntpdAnonymHost : Str := "WendzelNNTPdAnonymous".toList

/-- The host part of a message id; `none` if the peer's address is unknown. A failure of
`inet_ntop` goes unnoticed for IPv6. -/
def messageIdHost (cfg : Config) (env : Env) : Option Str :=
  if cfg.anonymMessageIds then some nntpdAnonymHost
  else if env.fam4 then env.addr.map (fun addr => env.hostinfo.getD addr)
  else some (env.hostinfo.getD (env.addr.getD []))

/-- `db_secure_sqlbuffer` of a value that may be NULL, which `%q` prints as `(NULL)`. -/
def secureOrNull (value : Option Str) : Str :=
  (value.map (dbSecureSqlbuffer .sqlite3)).getD "(NULL)".toList

/-- The row of `postings` for an article; `header` is the client's header behind the
removal loop. -/
def postingRow (ext : Extern) (env : Env) (messageId : Str) (ltime : Int)
    (ngstrp header body : Str)
    : Posting where
  msgid := messageId
  date := ltime
  author := secureOrNull (cdpReturnLinevalue header "From:".toList)
  newsgroups := ngstrp
  subject := secureOrNull (cdpReturnLinevalue header "Subject:".toList)
  lines := linecount body
  header :=
    serverHeader env messageId (ext.localtimeToStr ltime) (linecount body) body.length ++ header

/-- The choice of the message-id counter. Only PostgreSQL can keep it in the database; with
another backend the process exits. -/
def newMessageNumber (cfg : Config) : Srv (Option Str) :=
  if cfg.messageCountInDb then crash else getUniqnum

/-- The part of `docmd_post` behind the checks: message id, header, store. `len` is the
index at which the header ends and `header` the allocation that holds it. -/
def postAccepted (ext : Extern) (cfg : Config) (env : Env) (len : Nat)
    (header ngstrp body : Str)
    : Srv Unit := do
  let newid ← newMessageNumber cfg
  match newid, messageIdHost cfg env with
  | some newid, some host =>
      match removeFields len header, env.ltime with
      | none, _ => crash
      | some _, none => killThread
      | some header, some ltime =>
          storeArticle cfg env
            (postingRow ext env (newid ++ host ++ ['>']) ltime ngstrp (cstr header) body) body
            (strtok ',' ngstrp)
  | _, _ => killThread

/-- What the text checks of `docmd_post` make of a received buffer. -/
inductive Checked
  | garbage
  | crash
  | refused (message : Str)
  | passed (len : Nat) (header ngstrp body : Str)
  deriving DecidableEq, Repr

/-- The checks of `docmd_post` that need no database. -/
def checkArticle (buf : Str) : Checked :=
  match headerEnd 0 buf, strstr headerSep (cstr buf) with
  | none, _ => .garbage
  | some _, none => .crash
  | some i, some len =>
      let header := headerBuffer buf i
      let body := (cstr buf).drop (len + 4)
      if body.isEmpty then .refused progerr503
      else
        match chkRequiredHdrLines (cstr header) with
        | some message => .refused message
        | none =>
            match cdpReturnLinevalue (cstr header) "Newsgroups:".toList with
            | none => .refused hdrerrorNewsgroup
            | some ngstrp => .passed len header ngstrp body

/-- What is known of an article that passes the checks. -/
structure PassesChecks (buf : Str) (len : Nat) (header ngstrp body : Str) : Prop where
  ends : ∃ i, headerEnd 0 buf = some i ∧ header = headerBuffer buf i
  boundary : strstr headerSep (cstr buf) = some len
  rest : body = (cstr buf).drop (len + 4)
  nonempty : body ≠ []
  required : chkRequiredHdrLines (cstr header) = none
  newsgroups : cdpReturnLinevalue (cstr header) "Newsgroups:".toList = some ngstrp

theorem passesChecks_of_passed {buf header ngstrp body : Str} {len : Nat}
    (passed : checkArticle buf = .passed len header ngstrp body)
    : PassesChecks buf len header ngstrp body := by
  unfold checkArticle at passed
  split at passed
  · cases passed
  · cases passed
  · rename_i i len' ends boundary
    simp only at passed
    split at passed
    · cases passed
    · rename_i nonempty
      split at passed
      · cases passed
      · rename_i required
        split at passed
        · cases passed
        · rename_i newsgroups
          cases passed
          exact ⟨⟨i, ends, rfl⟩, boundary, rfl, by simpa using nonempty, required, newsgroups⟩

/-- The messages of the checks. -/
theorem message_of_refused {buf message : Str} (refused : checkArticle buf = .refused message)
    : message ∈ [progerr503, hdrerrorNewsgroup, hdrerrorFrom, hdrerrorSubject] := by
  unfold checkArticle at refused
  split at refused
  · cases refused
  · cases refused
  · simp only at refused
    split at refused
    · cases refused
      exact List.mem_cons_self ..
    · split at refused
      · rename_i missing
        cases refused
        exact List.mem_cons_of_mem _ (message_of_chkRequiredHdrLines missing)
      · split at refused
        · cases refused
          exact List.mem_cons_of_mem _ (List.mem_cons_self ..)
        · cases refused

/-- `docmd_post` behind the receive loop. -/
def postArticle (ext : Extern) (cfg : Config) (env : Env) (buf : Str) : Srv Unit :=
  match checkArticle buf with
  | .garbage => killThread
  | .crash => crash
  | .refused message => toSend message
  | .passed len header ngstrp body => do
      let ok ← chkNgNameCorrectness (strtok ',' ngstrp)
      if ok then postAccepted ext cfg env len header ngstrp body else pure ()

def docmdPost (ext : Extern) (cfg : Config) (env : Env) : Srv Unit := do
  send postok
  match postReceive cfg.maxPostSize [] env.recv with
  | .article buf => postArticle ext cfg env buf
  | .tooBig => do
      send postTooBig
      killThread
  | .failed => killThread
  | .waiting => fun _ => .stop .waiting

end WendzelNNTPd
