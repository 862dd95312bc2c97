import WendzelNNTPd.Admin.Backends
import WendzelNNTPd.Posting.InsertText

/-! MySQL and PostgreSQL as the server uses them (`db_mysql.c`, `db_postgres.c`). Most functions
of the two files are the same up to how a statement is sent; they are written once over an
`Engine`. Names are compared byte by byte, as under a binary collation. With
`message-body-in-db` the table `body` takes the place of the spool directory, keyed by the
message id, and with `message-count-in-db` the sequence `nntp_next_msg_id` that of the counter
file.
-/

namespace WendzelNNTPd

open CString Atomic

/-- How the server performs a statement: the text of PostgreSQL and the names in it. -/
structure Engine where
  perform (sqlCmd : String) (names : List Str) (op : Stmt) : Srv op.Result

/-- What is known of a PostgreSQL server, and of the stack of `db_postgres_xover`. -/
structure PostgresServer where
  /-- The input function of the type `integer`; `none` is an error. -/
  int4in : Str → Option Int
  /-- What `xhdr_get` makes of a statement into which it puts a name with a quote. -/
  misread (ε : Type) (error : ε) (op : Stmt) : Prog Sql ε op.Result
  /-- What `postlen` holds before it is assigned. -/
  postlenInit : Int

def mysqlEngine (server : MysqlServer) : Engine := ⟨fun _ names op => mysqlSrv server names op⟩

def postgresEngine : Engine := ⟨postgresSrv⟩

-----------------------------------------------------------------------------------------
-- Functions that are the same in both files
-----------------------------------------------------------------------------------------

section Shared

variable (engine : Engine)

/-- `db_*_authinfo_check` -/
def Engine.authinfoCheck : Srv Unit := do
  let s ← get
  match s.curAuthUser, s.curAuthPass with
  | some user, some pass => do
      let rows : List User ←
        engine.perform "select * from users where name=$1 and password=$2" [user, pass]
          (.selectUsers user pass)
      modify (fun s => { s with authIsThere := s.authIsThere || !rows.isEmpty })
  | _, _ => crash

/-- The line of a newsgroup in `db_*_list`; `none` if it does not match the wildmat. -/
def listLine (ext : Extern) (cmdtyp : ListCmdtyp) (wildmat : Option Str) (g : Newsgroup)
    : Option Str :=
  match cmdtyp with
  | .xgtitle | .listNewsgroups =>
      if ext.regexContains (wildmat.getD []) g.name then
        some (snprintf 1023 (g.name ++ " -\r\n".toList))
      else none
  | .list =>
      some
        (snprintf 1023
          (g.name ++ ' ' :: dec g.high
            ++ ' ' :: (if asInt32 g.high = 0 then ['0'] else ['1'])
            ++ ' ' :: g.pflag :: "\r\n".toList))

/-- The rest of a round of `db_*_list`, behind the access check. -/
def sendListLine (ext : Extern) (cmdtyp : ListCmdtyp) (wildmat : Option Str) (g : Newsgroup)
    : Srv Unit :=
  match listLine ext cmdtyp wildmat g with
  | some text => toSend text
  | none => pure ()

/-- `db_*_get_high_value`: the first row, or zero. -/
def Engine.getHighValue (newsgroup : Str) : Srv Nat := do
  let rows : List Newsgroup ←
    engine.perform "select high from newsgroups where name = $1" [newsgroup]
      (.selectNewsgroup newsgroup)
  pure (((rows.head?.map (·.high)).getD 0) % 2 ^ 32)

/-- `db_*_chk_if_msgid_exists` -/
def Engine.chkIfMsgidExists (newsgroup msgid : Str) : Srv Bool := do
  let rows : List Ngpost ←
    engine.perform "select * from ngposts where ng = $1 and msgid = $2" [newsgroup, msgid]
      (.selectNgpostsMsgid newsgroup msgid)
  pure (!rows.isEmpty)

/-- `db_*_chk_newsgroup_posting_allowed` -/
def Engine.chkNewsgroupPostingAllowed : Srv Unit := do
  modify (fun s => { s with foundGroup := false })
  let s ← get
  match s.chkname with
  | none => crash
  | some name => do
      let rows : List Newsgroup ←
        engine.perform "select * from newsgroups where name=$1 and pflag='y';" [name]
          (.selectPostable name)
      modify (fun s => { s with foundGroup := !rows.isEmpty })

/-- `db_*_chk_newsgroup_existence` -/
def Engine.chkNewsgroupExistence : Srv Unit := do
  modify (fun s => { s with foundGroup := false })
  let s ← get
  match s.chkname with
  | none => crash
  | some name => do
      let rows : List Newsgroup ←
        engine.perform "select * from newsgroups where name=$1" [name] (.selectNewsgroup name)
      modify (fun s => { s with foundGroup := !rows.isEmpty })

/-- The text that `db_*_xover` makes of a row and a byte count. -/
def xoverLine (ext : Extern) (row : Ngpost × Posting) (postlen : Int) : Str :=
  let p := row.2
  let ref := cdpReturnLinevalue p.header "References:".toList
  let xref := cdpReturnLinevalue p.header "Xref:".toList
  let len := 0xff + p.subject.length + p.author.length + 39 + row.1.msgid.length
    + (ref.map List.length).getD 0 + (xref.map List.length).getD 0
  snprintf (len - 1)
    (decInt (asInt32 row.1.postnum) ++ '\t' :: p.subject ++ '\t' :: p.author
      ++ '\t' :: ext.localtimeToStr p.date ++ '\t' :: row.1.msgid ++ '\t' :: ref.getD [' ']
      ++ '\t' :: decInt postlen ++ '\t' :: decInt p.lines ++ '\t' :: xref.getD [' ']
      ++ "\r\n".toList)

/-- The loop of `db_*_xover`. The variable `postlen` lives across its rounds: a header without a
body size adds to the count of the row before. -/
def xoverRows (ext : Extern) : Int → List (Ngpost × Posting) → Srv Unit
  | _, [] => pure ()
  | postlen, row :: rest => do
      let postlen : Int :=
        addLength
          (match cdpReturnLinevalue row.2.header "X-WendzelNNTPdBodysize:".toList with
            | some bodylen => asInt32 (atoiU32 bodylen)
            | none => postlen)
          row.2.header.length
      toSendRow row.1 (xoverLine ext row postlen)
      xoverRows ext postlen rest

/-- `db_*_article_send_header_cb` -/
def Engine.articleSendHeaderCb (row : Ngpost) : Srv Unit := do
  let headers : List Str ←
    engine.perform "select header from postings where msgid=$1;" [row.msgid]
      (.selectHeader row.msgid)
  match headers.head? with
  | some header => articleCbCb2 row header
  | none => pure ()

/-- The part of `db_*_article` that sends the header. -/
def Engine.articleSendHeader (cmdtype : Cmdtype) (row : Ngpost) : Srv Unit :=
  if cmdtype = .article ∨ cmdtype = .head then engine.articleSendHeaderCb row else pure ()

/-- The body of an article; `loadBody` is `db_load_message_body`. -/
def retrieveBody (loadBody : Str → Srv (Option Str)) (cfg : Config) (messageId : Str)
    : Srv (Option Str) :=
  if cfg.messageBodyInDb then loadBody messageId else filebackendRetrbody messageId

/-- The part of `db_*_article` that sends the body. -/
def articleSendBodyVia (loadBody : Str → Srv (Option Str)) (cfg : Config) (cmdtype : Cmdtype)
    (row : Ngpost)
    : Srv Unit :=
  if cmdtype = .article ∨ cmdtype = .body then do
    let body ← retrieveBody loadBody cfg row.msgid
    match body with
    | some body => toSendRow row body
    | none => pure ()
  else pure ()

/-- The part of `db_*_article` behind its query. -/
def Engine.articleRow (loadBody : Str → Srv (Option Str)) (cfg : Config) (row : Ngpost)
    : Srv Unit := do
  modify (fun s => { s with selectedArticle := some (dec row.postnum) })
  let s ← get
  toSendRow row (articleReply s.cmdtype row)
  engine.articleSendHeader s.cmdtype row
  articleSendBodyVia loadBody cfg s.cmdtype row
  modify (fun s => { s with foundArticle := true })

/-- `db_*_group_cb_set_first_article_in_group`: `min(postnum)` is the first of the sorted
numbers. -/
def Engine.setFirstArticleInGroup (group : Str) : Srv Unit := do
  modify (fun s => { s with selectedArticle := none })
  let rows : List Ngpost ←
    engine.perform "select min(postnum) from ngposts where ng=$1" [group] (.selectPostnums group)
  match rows.head? with
  | some n => modify (fun s => { s with selectedArticle := some (dec n.postnum) })
  | none => pure ()

/-- One round of `db_*_group`. -/
def Engine.groupRow (g : Newsgroup) : Srv Unit := do
  toSend
    ("211 ".toList ++ decInt (asInt32 g.high)
      ++ ' ' :: (if asInt32 g.high = 0 then ['0'] else ['1'])
      ++ ' ' :: decInt (asInt32 g.high) ++ ' ' :: g.name ++ " group selected\r\n".toList)
  modify (fun s =>
    { s with selectedGroup := some g.name, selectedArticle := none, foundGroup := true })
  engine.setFirstArticleInGroup g.name

/-- `db_*_group`; `rounds` picks the rows that are looked at. -/
def Engine.groupRows (rounds : List Newsgroup → List Newsgroup) (group : Str) : Srv Unit := do
  let old ← get
  modify (fun s => { s with foundGroup := false })
  let rows : List Newsgroup ←
    engine.perform "select * from newsgroups where name=$1" [group] (.selectNewsgroup group)
  (rounds rows).forM engine.groupRow
  modify (fun s => { s with foundGroup := if s.foundGroup then true else old.foundGroup })

/-- `db_*_listgroup` -/
def Engine.listgroup (group : Str) : Srv Unit := do
  let rows : List Ngpost ←
    engine.perform "select postnum from ngposts where ng=$1 order by postnum asc" [group]
      (.selectPostnums group)
  rows.forM (fun row => toSendRow row (dec row.postnum ++ "\r\n".toList))
  modify (fun s => { s with selectedArticle := rows.head?.map (fun n => dec n.postnum) })
  toSend periodEnd

/-- An insert; a refusal ends the connection. -/
def Engine.insert (sqlCmd : String) (names : List Str) (op : Stmt) (ok : op.Result → Bool)
    : Srv Unit := do
  let r ← engine.perform sqlCmd names op
  if ok r then pure () else killThread

/-- `db_*_post_insert_into_ngposts` -/
def Engine.postInsertIntoNgposts (messageId newsgroup : Str) (newHigh : Nat) : Srv Unit :=
  engine.insert "insert into ngposts (msgid, ng, postnum)  values ($1, $2, $3);"
    [messageId, newsgroup, dec newHigh] (.insertNgpost ⟨messageId, newsgroup, newHigh⟩)
    (fun ok : Bool => ok)

/-- `db_*_post_update_high_value` -/
def Engine.postUpdateHighValue (newHigh : Nat) (newsgroup : Str) : Srv Unit := do
  let _ : Unit ←
    engine.perform "update newsgroups set high=$1 where name=$2" [dec newHigh, newsgroup]
      (.updateHigh newsgroup newHigh)
  pure ()

end Shared

-----------------------------------------------------------------------------------------
-- db_mysql.c
-----------------------------------------------------------------------------------------

section Mysql

variable (server : MysqlServer)

/-- The access check in `db_mysql_list`, which is called with `cur_auth_user` as it is, also if
that is NULL. -/
def mysqlVisible (cfg : Config) (user : Option Str) (newsgroup : Str) : Srv Bool :=
  if cfg.useAuth && cfg.useAcl then
    match user with
    | none => crash
    | some user => dbMysqlAclCheckUserGroup server user newsgroup
  else pure true

/-- `db_mysql_list` -/
def dbMysqlList (ext : Extern) (cfg : Config) (cmdtyp : ListCmdtyp) (wildmat : Option Str)
    : Srv Unit := do
  let rows : List Newsgroup ← mysqlSrv server [] .selectNewsgroups
  rows.forM (fun g => do
    let s ← get
    let visible ← mysqlVisible server cfg s.curAuthUser g.name
    if visible then sendListLine ext cmdtyp wildmat g else pure ())

/-- `db_mysql_xhdr` -/
def dbMysqlXhdr (ext : Extern) (part : XhdrPart) (group : Str) (msgid : Option Str)
    (min max : Nat)
    : Srv Unit := do
  modify (fun s => { s with speccmd := if part = .date then .date else s.speccmd })
  let rows : List (Ngpost × Posting) ←
    match msgid with
    | some msgid => mysqlSrv server [group, msgid] (.selectOverviewMsgid group msgid)
    | none => mysqlSrv server [group] (.selectOverview group (asInt32 min) (asInt32 max))
  rows.forM (xhdrCb ext part)
  modify (fun s => { s with speccmd := .cleared })

/-- `db_mysql_xover` -/
def dbMysqlXover (ext : Extern) (group : Str) (min max : Nat) : Srv Unit := do
  let rows : List (Ngpost × Posting) ←
    mysqlSrv server [group] (.selectOverview group (asInt32 min) (asInt32 max))
  xoverRows ext 0 rows

/-- The query of `db_mysql_article`. -/
def mysqlArticleRows (group : Str) (selectedArticle : Option Str) : Artcltyp → Srv (List Ngpost)
  | .messageId param => mysqlSrv server [group, param] (.selectNgpostsMsgid group param)
  | .number param => mysqlSrv server [group, param] (.selectNgpostsPostnum group param)
  | .current =>
      let article := selectedArticle.getD []
      mysqlSrv server [group, article] (.selectNgpostsPostnum group article)

/-- `db_mysql_article`: the first row only. -/
def dbMysqlArticle (cfg : Config) (group : Str) (type : Artcltyp) : Srv Unit := do
  let s ← get
  let rows ← mysqlArticleRows server group s.selectedArticle type
  match rows.head? with
  | some row => (mysqlEngine server).articleRow (fun _ => crash) cfg row
  | none => pure ()

/-- `db_mysql_group`: the first row only. -/
def dbMysqlGroup (group : Str) : Srv Unit := (mysqlEngine server).groupRows (·.take 1) group

/-- The statement of `db_mysql_post_insert_into_postings`: the row has the values that the server
reads from the text; a text that is anything but one such row is misread. -/
def mysqlInsertPosting (row : Posting) : Srv Bool :=
  match insertedColumns .mysql row with
  | some [msgid, _, author, newsgroups, subject, _, header] =>
      sql (.insertPosting ⟨msgid, row.date, author, newsgroups, subject, row.lines, header⟩)
  | _ => fun s =>
      server.misread Exit (.killThread s.sent) (.insertPosting row) >>= fun ok => pure (ok, s)

/-- `db_mysql_post_insert_into_postings` -/
def dbMysqlPostInsert (row : Posting) : Srv Unit := do
  let ok ← mysqlInsertPosting server row
  if ok then pure () else killThread

end Mysql

-----------------------------------------------------------------------------------------
-- db_postgres.c
-----------------------------------------------------------------------------------------

section Postgres

variable (server : PostgresServer)

/-- `db_postgres_list`: with access control an assertion fails at the first newsgroup. -/
def dbPostgresList (ext : Extern) (cfg : Config) (cmdtyp : ListCmdtyp) (wildmat : Option Str)
    : Srv Unit := do
  let rows : List Newsgroup ← postgresSrv "select * from newsgroups;" [] .selectNewsgroups
  rows.forM (fun g =>
    if cfg.useAuth && cfg.useAcl then crash else sendListLine ext cmdtyp wildmat g)

/-- The name of a column that `xhdr_get` is asked for. -/
def XhdrPart.columnName : XhdrPart → Str
  | .from => "author".toList
  | .date => "date".toList
  | .newsgroups => "newsgroups".toList
  | .subject => "subject".toList
  | .lines => "lines".toList

/-- A call of `xhdr_get`, which puts the names into a text of its own. -/
def xhdrGet (sqlCmd : String) (params names : List Str) (op : Stmt) : Srv op.Result := fun s =>
  if names.all (fun name => !name.contains '\'') then postgresSrv sqlCmd params op s
  else server.misread Exit (.killThread s.sent) op >>= fun r => pure (r, s)

/-- `db_postgres_xhdr` -/
def dbPostgresXhdr (ext : Extern) (part : XhdrPart) (group : Str) (msgid : Option Str)
    (min max : Nat)
    : Srv Unit := do
  modify (fun s => { s with speccmd := if part = .date then .date else s.speccmd })
  let rows : List (Ngpost × Posting) ←
    match msgid with
    | some msgid =>
        xhdrGet server "select * from xhdr_get($1,$2,$3)" [part.columnName, group, msgid]
          [group, msgid] (.selectOverviewMsgid group msgid)
    | none =>
        xhdrGet server "select * from xhdr_get($1, $2, null, $3, $4)"
          [part.columnName, group, decInt (asInt32 min), decInt (asInt32 max)] [group]
          (.selectOverview group (asInt32 min) (asInt32 max))
  rows.forM (xhdrCb ext part)
  modify (fun s => { s with speccmd := .cleared })

/-- `db_postgres_xover`: the numbers are printed unsigned, and refused above the type
`integer`. -/
def dbPostgresXover (ext : Extern) (group : Str) (min max : Nat) : Srv Unit :=
  if min < 2 ^ 31 ∧ max < 2 ^ 31 then do
    let rows : List (Ngpost × Posting) ←
      postgresSrv
        ("select n.postnum, p.subject, p.author, p.date, n.msgid, p.lines, p.header"
          ++ " from ngposts n,postings p"
          ++ " where ng=$1 and (postnum between $2 and $3) and n.msgid = p.msgid;")
        [group, dec min, dec max] (.selectOverview group min max)
    xoverRows ext server.postlenInit rows
  else killThread

/-- `db_postgres_load_message_body` -/
def dbPostgresLoadMessageBody (messageId : Str) : Srv (Option Str) :=
  postgresSrv "select octet_length(content), content from body where msgid = $1" [messageId]
    (.bodyRead messageId)

/-- A comparison of `postnum` with a parameter: PostgreSQL refuses a text that is no
`integer`. -/
def postgresPostnum (group param : Str) : Srv (List Ngpost) :=
  match server.int4in param with
  | none => killThread
  | some _ =>
      postgresSrv "select * from ngposts where ng=$1 and postnum=$2" [group, param]
        (.selectNgpostsPostnum group param)

/-- The query of `db_postgres_article`. -/
def postgresArticleRows (group : Str) (selectedArticle : Option Str)
    : Artcltyp → Srv (List Ngpost)
  | .messageId param =>
      postgresSrv "select * from ngposts where ng=$1 and msgid=$2" [group, param]
        (.selectNgpostsMsgid group param)
  | .number param => postgresPostnum server group param
  | .current => postgresPostnum server group (selectedArticle.getD [])

/-- `db_postgres_article`: the first row only. -/
def dbPostgresArticle (cfg : Config) (group : Str) (type : Artcltyp) : Srv Unit := do
  let s ← get
  let rows ← postgresArticleRows server group s.selectedArticle type
  match rows.head? with
  | some row => postgresEngine.articleRow dbPostgresLoadMessageBody cfg row
  | none => pure ()

/-- `db_postgres_group` -/
def dbPostgresGroup (group : Str) : Srv Unit := postgresEngine.groupRows id group

/-- `db_postgres_post_insert_into_postings` -/
def dbPostgresPostInsert (row : Posting) : Srv Unit :=
  postgresEngine.insert
    ("insert into postings (msgid, date, author, newsgroups, subject, lines, header) "
      ++ "values ($1,$2,$3,$4,$5,$6,$7)")
    (dbPostgresPostInsertIntoPostings row) (.insertPosting row) (fun ok : Bool => ok)

/-- `db_postgres_store_message_body`: the message id is the primary key of `body`. -/
def dbPostgresStoreMessageBody (messageId body : Str) : Srv Unit := do
  let old : Option Str ← sql (.bodyRead messageId)
  if old.isSome then killThread
  else do
    let ok : Bool ←
      postgresSrv "insert into body (msgid, content) values ($1,$2);" [messageId, body]
        (.bodyWrite messageId body)
    if ok then pure () else killThread

/-- `db_postgres_get_uniqnum`: the next value of the sequence, which starts with one. -/
def dbPostgresGetUniqnum : Srv (Option Str) := do
  let last : Option Nat ← sql .msgidRead
  let next := last.getD 0 + 1
  let _ : Unit ← sql (.msgidWrite next)
  pure (some ("<cdp".toList ++ dec next ++ ['@']))

end Postgres

end WendzelNNTPd
