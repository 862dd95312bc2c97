import WendzelNNTPd.Server.Session
import WendzelNNTPd.Server.Text
import WendzelNNTPd.Database.Escaping
import WendzelNNTPd.Lib.SqlLiteral

/-! The SQLite backend as the server uses it (`db_sqlite3.c`) and the file backend for
bodies and message ids (`database.c`). A query callback is called once for each row. -/

namespace WendzelNNTPd

open CString Atomic

/-- The error branch of `sqlite3_secexec` in the server. -/
def secexecError {α : Type} : Srv α := do
  toSend progerr503
  killThread

-----------------------------------------------------------------------------------------
-- Authentication and access control
-----------------------------------------------------------------------------------------

/-- `db_sqlite3_authinfo_check` -/
def dbAuthinfoCheck : Srv Unit := do
  let s ← get
  match s.curAuthUser, s.curAuthPass with
  | some user, some pass => do
      let rows : List User ← sql (.selectUsers user pass)
      modify (fun s => { s with authIsThere := s.authIsThere || !rows.isEmpty })
  | _, _ => crash

/-- `db_sqlite3_acl_check_user_group`: a direct entry, else one through a role. -/
def dbAclCheckUserGroup (user newsgroup : Str) : Srv Bool := do
  let direct : List AclUser ← sql (.selectAclUsers user newsgroup)
  if direct.isEmpty then do
    let viaRole : List (User2Role × AclRole) ← sql (.selectAclRoles user newsgroup)
    pure (!viaRole.isEmpty)
  else pure true

/-- `acl_check_user_group` -/
def aclCheckUserGroup (user : Option Str) (group : Str) : Srv Bool :=
  match user with
  | none => pure false
  | some user => dbAclCheckUserGroup user group

/-- The access check behind the test of `use_auth` and `use_acl`. -/
def aclCheckIfUsed (cfg : Config) (user : Option Str) (group : Str) : Srv Bool :=
  if cfg.useAuth && cfg.useAcl then aclCheckUserGroup user group else pure true

-----------------------------------------------------------------------------------------
-- LIST
-----------------------------------------------------------------------------------------

/-- `db_sqlite3_list_cb` -/
def listCb (ext : Extern) (cfg : Config) (g : Newsgroup) : Srv Unit := do
  let s ← get
  let visible ← aclCheckIfUsed cfg s.curAuthUser g.name
  if visible then
    match s.speccmd with
    | .listing .xgtitle | .listing .listNewsgroups =>
        if ext.regexContains (s.wildmat.getD []) g.name then
          toSend (snprintf 1023 (g.name ++ " -\r\n".toList))
        else pure ()
    | _ =>
        toSend
          (snprintf 1023
            (g.name ++ ' ' :: dec g.high
              ++ ' ' :: (if asInt32 g.high = 0 then ['0'] else ['1'])
              ++ ' ' :: g.pflag :: "\r\n".toList))
  else pure ()

/-- `db_sqlite3_list` -/
def dbList (ext : Extern) (cfg : Config) (cmdtyp : ListCmdtyp) (wildmat : Option Str)
    : Srv Unit := do
  modify (fun s => { s with wildmat := wildmat, speccmd := .listing cmdtyp })
  let rows : List Newsgroup ← sql .selectNewsgroups
  rows.forM (listCb ext cfg)
  modify (fun s => { s with wildmat := none, speccmd := .cleared })

-----------------------------------------------------------------------------------------
-- Lookups shared by several commands
-----------------------------------------------------------------------------------------

/-- `db_sqlite3_get_high_value`: the callback assigns the low 32 bits of each row in turn;
without a row the variable keeps what it held. -/
def dbGetHighValue (env : Env) (newsgroup : Str) : Srv Nat := do
  let rows : List Newsgroup ← sql (.selectNewsgroup newsgroup)
  pure (((rows.getLast?.map (·.high)).getD env.curHighInit) % 2 ^ 32)

/-- `db_sqlite3_chk_if_msgid_exists` -/
def dbChkIfMsgidExists (newsgroup msgid : Str) : Srv Bool := do
  let rows : List Ngpost ← sql (.selectNgpostsMsgid newsgroup msgid)
  pure (!rows.isEmpty)

/-- `db_sqlite3_chk_newsgroup_posting_allowed` -/
def dbCheckNewsgroupPostingAllowed : Srv Unit := do
  modify (fun s => { s with foundGroup := false })
  let s ← get
  match s.chkname with
  | none => crash
  | some name => do
      let rows : List Newsgroup ← sql (.selectPostable name)
      modify (fun s => { s with foundGroup := !rows.isEmpty })

/-- `db_sqlite3_chk_newsgroup_existence` -/
def dbCheckNewsgroupExistence : Srv Unit := do
  modify (fun s => { s with foundGroup := false })
  let s ← get
  match s.chkname with
  | none => crash
  | some name => do
      let rows : List Newsgroup ← sql (.selectNewsgroup name)
      modify (fun s => { s with foundGroup := !rows.isEmpty })

-----------------------------------------------------------------------------------------
-- XHDR and XOVER
-----------------------------------------------------------------------------------------

inductive XhdrPart
  | from
  | date
  | newsgroups
  | subject
  | lines
  deriving DecidableEq, Repr

/-- The column of `postings` that an XHDR query selects, as text. -/
def Posting.column (p : Posting) : XhdrPart → Str
  | .from => p.author
  | .date => decInt p.date
  | .newsgroups => p.newsgroups
  | .subject => p.subject
  | .lines => decInt p.lines

/-- `db_sqlite3_xhdr_cb` -/
def xhdrCb (ext : Extern) (part : XhdrPart) (row : Ngpost × Posting) : Srv Unit := do
  let s ← get
  let value :=
    if s.speccmd = .date then ext.localtimeToStr (atol (row.2.column part))
    else row.2.column part
  toSendRow row.1 (decInt (asInt32 row.1.postnum) ++ ' ' :: value ++ "\r\n".toList)

/-- `db_sqlite3_xhdr`; `msgid` is the article argument if it is a message id. -/
def dbXhdr (ext : Extern) (part : XhdrPart) (group : Str) (msgid : Option Str)
    (min max : Nat)
    : Srv Unit := do
  modify (fun s => { s with speccmd := if part = .date then .date else s.speccmd })
  let rows : List (Ngpost × Posting) ←
    match msgid with
    | some msgid => sql (.selectOverviewMsgid group msgid)
    | none => sql (.selectOverview group (asInt32 min) (asInt32 max))
  rows.forM (xhdrCb ext part)
  modify (fun s => { s with speccmd := .cleared })

/-- `postlen += length`: the variable is of the type `int`, the sum is not. -/
def addLength (postlen : Int) (length : Nat) : Int :=
  asInt32 ((postlen + length) % 2 ^ 32).toNat

/-- `db_sqlite3_xover_cb` -/
def xoverCb (ext : Extern) (row : Ngpost × Posting) : Srv Unit :=
  let p := row.2
  let postlen : Int :=
    addLength
      (match cdpReturnLinevalue p.header "X-WendzelNNTPdBodysize:".toList with
        | some bodylen => asInt32 (atoiU32 bodylen)
        | none => 0)
      p.header.length
  let ref := cdpReturnLinevalue p.header "References:".toList
  let xref := cdpReturnLinevalue p.header "Xref:".toList
  let len := 0xff + p.subject.length + p.author.length + 39 + row.1.msgid.length
    + (ref.map List.length).getD 0 + (xref.map List.length).getD 0
  toSendRow row.1
    (snprintf (len - 1)
      (decInt (asInt32 row.1.postnum) ++ '\t' :: p.subject ++ '\t' :: p.author
        ++ '\t' :: ext.localtimeToStr p.date ++ '\t' :: row.1.msgid ++ '\t' :: ref.getD [' ']
        ++ '\t' :: decInt postlen ++ '\t' :: decInt p.lines ++ '\t' :: xref.getD [' ']
        ++ "\r\n".toList))

/-- `db_sqlite3_xover` -/
def dbXover (ext : Extern) (group : Str) (min max : Nat) : Srv Unit := do
  let rows : List (Ngpost × Posting) ← sql (.selectOverview group (asInt32 min) (asInt32 max))
  rows.forM (xoverCb ext)

-----------------------------------------------------------------------------------------
-- ARTICLE, HEAD, BODY, STAT
-----------------------------------------------------------------------------------------

/-- The file name of a body: the message id without its angle brackets. -/
def bodyFile (messageId : Str) : Str := messageId.tail.dropLast

/-- `filebackend_retrbody`; an empty file cannot be read. -/
def filebackendRetrbody (messageId : Str) : Srv (Option Str) := do
  let body : Option Str ← sql (.bodyRead (bodyFile messageId))
  pure (body.filter (fun b => !b.isEmpty))

/-- `db_sqlite3_article_cb_cb2` -/
def articleCbCb2 (row : Ngpost) (header : Str) : Srv Unit := do
  let s ← get
  match s.cmdtype with
  | .article => do
      toSendRow row header
      toSendRow row "\r\n".toList
  | .head => do
      toSendRow row header
      toSendRow row periodEnd
  | _ => pure ()

/-- The first line of the reply to ARTICLE, HEAD, BODY and STAT. -/
def articleReply (cmdtype : Cmdtype) (row : Ngpost) : Str :=
  let args := dec row.postnum ++ ' ' :: row.msgid
  match cmdtype with
  | .article =>
      "220 ".toList ++ args ++ " article retrieved - head and body follow\r\n".toList
  | .head => "221 ".toList ++ args ++ " article retrieved - head follows\r\n".toList
  | .body => "222 ".toList ++ args ++ " article retrieved - body follows\r\n".toList
  | .stat => "223 ".toList ++ args ++ " article retrieved - request text separately\r\n".toList

/-- The part of `db_sqlite3_article_cb` that sends the header. -/
def articleSendHeader (cmdtype : Cmdtype) (row : Ngpost) : Srv Unit :=
  if cmdtype = .article ∨ cmdtype = .head then do
    let headers : List Str ← sql (.selectHeader row.msgid)
    headers.forM (articleCbCb2 row)
  else pure ()

/-- The part of `db_sqlite3_article_cb` that sends the body. Only PostgreSQL can keep
bodies in the database; with another backend the process exits. -/
def articleSendBody (cfg : Config) (cmdtype : Cmdtype) (row : Ngpost) : Srv Unit :=
  if cmdtype = .article ∨ cmdtype = .body then
    if cfg.messageBodyInDb then crash
    else do
      let body ← filebackendRetrbody row.msgid
      match body with
      | some body => toSendRow row body
      | none => pure ()
  else pure ()

/-- `db_sqlite3_article_cb` -/
def articleCb (cfg : Config) (row : Ngpost) : Srv Unit := do
  modify (fun s => { s with selectedArticle := some (dec row.postnum) })
  let s ← get
  toSendRow row (articleReply s.cmdtype row)
  articleSendHeader s.cmdtype row
  articleSendBody cfg s.cmdtype row
  modify (fun s => { s with foundArticle := true })

inductive Artcltyp
  | messageId (param : Str)
  | number (param : Str)
  | current
  deriving DecidableEq, Repr

/-- `db_sqlite3_article` -/
def dbArticle (cfg : Config) (group : Str) (type : Artcltyp) : Srv Unit := do
  let s ← get
  let rows : List Ngpost ←
    match type with
    | .messageId param => sql (.selectNgpostsMsgid group param)
    | .number param => sql (.selectNgpostsPostnum group param)
    | .current => sql (.selectNgpostsPostnum group (s.selectedArticle.getD []))
  rows.forM (articleCb cfg)

-----------------------------------------------------------------------------------------
-- GROUP and LISTGROUP
-----------------------------------------------------------------------------------------

/-- `db_sqlite3_group_cb` with the selection of the first article. -/
def groupCb (g : Newsgroup) : Srv Unit := do
  toSend
    ("211 ".toList ++ decInt (asInt32 g.high)
      ++ ' ' :: (if asInt32 g.high = 0 then ['0'] else ['1'])
      ++ ' ' :: decInt (asInt32 g.high) ++ ' ' :: g.name ++ " group selected\r\n".toList)
  modify (fun s => { s with selectedGroup := some g.name, selectedArticle := none })
  let rows : List Ngpost ← sql (.selectFirstPostnum g.name)
  rows.forM (fun n =>
    (modify (fun s => { s with selectedArticle := some (dec n.postnum) }) : Srv Unit))
  modify (fun s => { s with foundGroup := true })

/-- `db_sqlite3_group` -/
def dbGroup (group : Str) : Srv Unit := do
  let old ← get
  let rows : List Newsgroup ← sql (.selectNewsgroup group)
  modify (fun s => { s with foundGroup := false })
  rows.forM groupCb
  modify (fun s => { s with foundGroup := if s.foundGroup then true else old.foundGroup })

/-- `db_sqlite3_listgroup_cb`; `found_article` is what ARTICLE left there. -/
def listgroupCb (row : Ngpost) : Srv Unit := do
  toSendRow row (dec row.postnum ++ "\r\n".toList)
  modify (fun s =>
    if s.foundArticle then s
    else { s with selectedArticle := some (dec row.postnum), counter := s.counter + 1 })

/-- `db_sqlite3_listgroup` -/
def dbListgroup (group : Str) : Srv Unit := do
  modify (fun s => { s with counter := 0 })
  let rows : List Ngpost ← sql (.selectPostnums group)
  rows.forM listgroupCb
  modify (fun s => if s.counter = 0 then { s with selectedArticle := none } else s)
  toSend periodEnd

-----------------------------------------------------------------------------------------
-- POST
-----------------------------------------------------------------------------------------

/-- The size of the statement buffer of an insert into `postings` before a backend's own
factor. -/
def Posting.statementLen (row : Posting) : Nat :=
  row.header.length + 0xfff + row.subject.length + row.author.length

def sqlite3InsertHead : Str :=
  "insert into postings (".toList ++ "msgid, date, author, ".toList
    ++ "newsgroups, subject, ".toList ++ "lines, header) values ('".toList

/-- The statement of `db_sqlite3_post_insert_into_postings` before it is cut to its buffer. -/
def sqlite3InsertText (row : Posting) : Str :=
  sqlite3InsertHead
    ++ SqlLiteral.rowText
        [sqlite3Q row.msgid, decInt row.date, sqlite3Q row.author, sqlite3Q row.newsgroups,
          sqlite3Q row.subject, decInt row.lines, sqlite3Q row.header]
        ");".toList

/-- Whether at most the semicolon of the statement is cut off. -/
def Posting.statementFits (row : Posting) : Bool :=
  (sqlite3InsertText row).length ≤ 2 * row.statementLen - 1

/-- `db_sqlite3_post_insert_into_postings`; a statement that is cut short fails. -/
def dbPostInsertIntoPostings (row : Posting) : Srv Unit :=
  if row.statementFits then do
    let ok : Bool ← sql (.insertPosting row)
    if ok then pure () else secexecError
  else secexecError

/-- `db_sqlite3_post_insert_into_ngposts` -/
def dbPostInsertIntoNgposts (messageId newsgroup : Str) (newHigh : Nat) : Srv Unit := do
  let ok : Bool ← sql (.insertNgpost ⟨messageId, newsgroup, newHigh⟩)
  if ok then pure () else secexecError

/-- `db_sqlite3_post_update_high_value` -/
def dbPostUpdateHighValue (newHigh : Nat) (newsgroup : Str) : Srv Unit := do
  let _ : Unit ← sql (.updateHigh newsgroup newHigh)
  pure ()

/-- `get_uniqnum`: read, increment and write back the counter file, creating it first if it
cannot be opened. The `<cdp..@` text of a 64-bit counter always fits its buffer. -/
def getUniqnum : Srv (Option Str) := do
  let opened : Bool ← sql .msgidOpen
  if opened then do
    let id : Option Nat ← sql .msgidRead
    match id with
    | none => pure none
    | some id => write (id + 1)
  else do
    let created : Bool ← sql .msgidCreate
    if created then write 1 else pure none
where
  write (id : Nat) : Srv (Option Str) := do
    let _ : Unit ← sql (.msgidWrite id)
    pure (some ("<cdp".toList ++ dec id ++ ['@']))

/-- `filebackend_savebody`; the caller ignores its result. -/
def filebackendSavebody (messageId body : Str) : Srv Unit := do
  let _ : Unit ← sql (.bodyUnlink (bodyFile messageId))
  let _ : Bool ← sql (.bodyWrite (bodyFile messageId) body)
  pure ()

end WendzelNNTPd
