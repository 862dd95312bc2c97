import WendzelNNTPd.Database.SqlServers
import WendzelNNTPd.Server.DoCommand

/-! The server on the three backends. `db_abstraction.c` calls the functions of the configured
backend; the handlers of `server.c` are the same for all of them.
-/

namespace WendzelNNTPd

open CString Atomic

/-- The functions of a backend that the server calls. -/
structure SrvBackend where
  dbase : Dbase
  authinfoCheck : Srv Unit
  list : Extern → Config → ListCmdtyp → Option Str → Srv Unit
  xhdr : Extern → XhdrPart → Str → Option Str → Nat → Nat → Srv Unit
  xover : Extern → Str → Nat → Nat → Srv Unit
  article : Config → Str → Artcltyp → Srv Unit
  group : Str → Srv Unit
  listgroup : Str → Srv Unit
  getHighValue : Env → Str → Srv Nat
  chkIfMsgidExists : Str → Str → Srv Bool
  checkNewsgroupPostingAllowed : Srv Unit
  checkNewsgroupExistence : Srv Unit
  aclCheckUserGroup : Str → Str → Srv Bool
  storeMessageBody : Str → Str → Srv Unit
  dbGetUniqnum : Srv (Option Str)
  postInsertIntoPostings : Posting → Srv Unit
  postInsertIntoNgposts : Str → Str → Nat → Srv Unit
  postUpdateHighValue : Nat → Str → Srv Unit

/-- `db_sqlite3.c` -/
def SrvBackend.sqlite3 : SrvBackend where
  dbase := .sqlite3
  authinfoCheck := dbAuthinfoCheck
  list := dbList
  xhdr := dbXhdr
  xover := dbXover
  article := dbArticle
  group := dbGroup
  listgroup := dbListgroup
  getHighValue := dbGetHighValue
  chkIfMsgidExists := dbChkIfMsgidExists
  checkNewsgroupPostingAllowed := dbCheckNewsgroupPostingAllowed
  checkNewsgroupExistence := dbCheckNewsgroupExistence
  aclCheckUserGroup := dbAclCheckUserGroup
  storeMessageBody _ _ := crash
  dbGetUniqnum := crash
  postInsertIntoPostings := dbPostInsertIntoPostings
  postInsertIntoNgposts := dbPostInsertIntoNgposts
  postUpdateHighValue := dbPostUpdateHighValue

/-- `db_mysql.c` -/
def SrvBackend.mysql (server : MysqlServer) : SrvBackend where
  dbase := .mysql
  authinfoCheck := (mysqlEngine server).authinfoCheck
  list := dbMysqlList server
  xhdr := dbMysqlXhdr server
  xover := dbMysqlXover server
  article := dbMysqlArticle server
  group := dbMysqlGroup server
  listgroup := (mysqlEngine server).listgroup
  getHighValue _ := (mysqlEngine server).getHighValue
  chkIfMsgidExists := (mysqlEngine server).chkIfMsgidExists
  checkNewsgroupPostingAllowed := (mysqlEngine server).chkNewsgroupPostingAllowed
  checkNewsgroupExistence := (mysqlEngine server).chkNewsgroupExistence
  aclCheckUserGroup := dbMysqlAclCheckUserGroup server
  storeMessageBody _ _ := crash
  dbGetUniqnum := crash
  postInsertIntoPostings := dbMysqlPostInsert server
  postInsertIntoNgposts := (mysqlEngine server).postInsertIntoNgposts
  postUpdateHighValue := (mysqlEngine server).postUpdateHighValue

/-- `db_postgres.c` -/
def SrvBackend.postgres (server : PostgresServer) : SrvBackend where
  dbase := .postgres
  authinfoCheck := postgresEngine.authinfoCheck
  list := dbPostgresList
  xhdr := dbPostgresXhdr server
  xover := dbPostgresXover server
  article := dbPostgresArticle server
  group := dbPostgresGroup
  listgroup := postgresEngine.listgroup
  getHighValue _ := postgresEngine.getHighValue
  chkIfMsgidExists := postgresEngine.chkIfMsgidExists
  checkNewsgroupPostingAllowed := postgresEngine.chkNewsgroupPostingAllowed
  checkNewsgroupExistence := postgresEngine.chkNewsgroupExistence
  aclCheckUserGroup := dbPostgresAclCheckUserGroup
  storeMessageBody := dbPostgresStoreMessageBody
  dbGetUniqnum := dbPostgresGetUniqnum
  postInsertIntoPostings := dbPostgresPostInsert
  postInsertIntoNgposts := postgresEngine.postInsertIntoNgposts
  postUpdateHighValue := postgresEngine.postUpdateHighValue

/-- The database servers behind MySQL and PostgreSQL. -/
structure DbServers where
  mysql : MysqlServer
  postgres : PostgresServer

/-- Servers that refuse whatever they misread. -/
def sampleServers : DbServers where
  mysql := ⟨fun _ error _ => .stop error⟩
  postgres := ⟨fun text => text.asString.toInt?, fun _ error _ => .stop error, 0⟩

/-- The backend that `dbase` names. -/
def srvBackend (servers : DbServers) : Dbase → SrvBackend
  | .sqlite3 => .sqlite3
  | .mysql => .mysql servers.mysql
  | .postgres => .postgres servers.postgres

namespace SrvBackend

variable (db : SrvBackend) (ext : Extern) (cfg : Config) (env : Env)

-----------------------------------------------------------------------------------------
-- Handlers
-----------------------------------------------------------------------------------------

def docmdAuthinfoPass (cmdstring : Str) : Srv Unit := do
  modify (fun s => { s with authIsThere := false })
  let s ← get
  match s.curAuthUser with
  | none => toSend needMoreInf
  | some user =>
      match getSlinearg cmdstring 2 with
      | none => toSend parameterMiss
      | some pass => do
          modify (fun s => { s with curAuthPass := some (getSha256HashFromStr ext cfg user pass) })
          db.authinfoCheck
          let s ← get
          toSend (if s.authIsThere then authAccept else authReject)
          modify (fun s =>
            { s with
              curAuthUser := if cfg.useAcl then s.curAuthUser else none
              curAuthPass := none })

def docmdList (cmdstring : Str) (cmdtyp : ListCmdtyp) : Srv Unit :=
  match cmdtyp with
  | .list => list listReply none
  | .xgtitle =>
      match getSlinearg cmdstring 1 with
      | none => toSend parameterMiss
      | some wildmat => list xgtitleReply (some wildmat)
  | .listNewsgroups =>
      list listNewsgroupsReply (some ((getSlinearg cmdstring 2).getD ".*".toList))
where
  list (reply : Str) (wildmat : Option Str) : Srv Unit := do
    toSend reply
    db.list ext cfg cmdtyp wildmat
    toSend periodEnd

/-- The part of `docmd_xhdr` behind the choice of the header field. -/
def xhdrArticles (cmdstring group : Str) (realMax : Nat) (part : XhdrPart) : Srv Unit := do
  let s ← get
  match getSlinearg cmdstring 2 with
  | none =>
      match s.selectedArticle with
      | none => toSend noarticleselected
      | some article => range (atoiU32 article) (atoiU32 article)
  | some arg =>
      if arg.head? = some '<' then do
        let there ← db.chkIfMsgidExists group arg
        if there then reply (some arg) 0 0 else toSend noarticleselected
      else range (articleRange realMax arg).1 (articleRange realMax arg).2
where
  range (min max : Nat) : Srv Unit :=
    if min > realMax ∨ max > realMax ∨ min > max then toSend noarticleselected
    else reply none min max
  reply (msgid : Option Str) (min max : Nat) : Srv Unit := do
    toSend xhdrReply
    db.xhdr ext part group msgid min max
    toSend periodEnd

def docmdXhdr (cmdstring : Str) : Srv Unit := do
  let s ← get
  match s.selectedGroup with
  | none => toSend nogroupselected
  | some group => do
      let realMax ← db.getHighValue env group
      match getSlinearg cmdstring 1 with
      | none => toSend noarticleselected
      | some arg =>
          match xhdrPart arg with
          | none => toSend xhdrHdrnotpresent
          | some part => do
              modify (fun s => { s with speccmd := if part = .date then .date else s.speccmd })
              db.xhdrArticles ext cmdstring group realMax part

def docmdXover (cmdstring : Str) : Srv Unit := do
  let s ← get
  match s.selectedGroup with
  | none => toSend nogroupselected
  | some group => do
      let realMax ← db.getHighValue env group
      match getSlinearg cmdstring 1 with
      | none =>
          match s.selectedArticle with
          | none => toSend noarticleselected
          | some article => range group realMax (atoiU32 article) (atoiU32 article)
      | some arg => range group realMax (articleRange realMax arg).1 (articleRange realMax arg).2
where
  range (group : Str) (realMax min max : Nat) : Srv Unit :=
    if min > realMax ∨ min > max then toSend noarticleselected
    else do
      toSend xoverReply
      db.xover ext group min max
      toSend periodEnd

def docmdArticle (cmdstring : Str) : Srv Unit := do
  modify (fun s => { s with foundArticle := false, cmdtype := cmdtypeOf cmdstring s.cmdtype })
  let s ← get
  match s.selectedGroup with
  | none => toSend nogroupselected
  | some group =>
      match artcltyp (getSlinearg cmdstring 1) with
      | none => toSend noarticleselected
      | some .current =>
          if s.selectedArticle = none then toSend noarticleselected
          else retrieve group .current
      | some type => retrieve group type
where
  retrieve (group : Str) (type : Artcltyp) : Srv Unit := do
    db.article cfg group type
    let s ← get
    if s.foundArticle then pure () else toSend nosucharticle

/-- `acl_check_user_group` -/
def aclCheck (user : Option Str) (group : Str) : Srv Bool :=
  match user with
  | none => pure false
  | some user => db.aclCheckUserGroup user group

def docmdGroup (cmdstring : Str) : Srv Unit := do
  let old ← get
  match getSlinearg cmdstring 1 with
  | none => toSend parameterMiss
  | some ptr => do
      modify (fun s => { s with chkname := some ptr, foundGroup := false })
      db.checkNewsgroupExistence
      let s ← get
      if !s.foundGroup then do
        toSend nosuchgroup
        modify (fun s => { s with foundGroup := old.foundGroup })
      else if cfg.useAuth && cfg.useAcl then do
        let allowed ← db.aclCheck s.curAuthUser ptr
        if allowed then db.group ptr else toSend nosuchgroup
      else db.group ptr

def docmdListgroup (cmdstring : Str) : Srv Unit := do
  let s ← get
  match getSlinearg cmdstring 1 with
  | none =>
      match s.selectedGroup with
      | none => toSend nogroupselected
      | some group => listing group
  | some ptr => do
      modify (fun s => { s with chkname := some ptr })
      db.checkNewsgroupExistence
      let found ← get
      if !found.foundGroup then do
        modify (fun t => { t with foundGroup := s.foundGroup })
        toSend nosuchgroup
      else do
        -- the group is selected before the access check
        modify (fun s => { s with selectedGroup := some ptr })
        listing ptr
where
  listing (group : Str) : Srv Unit := do
    let s ← get
    if cfg.useAuth && cfg.useAcl then do
      let allowed ← db.aclCheck s.curAuthUser group
      if allowed then reply group else toSend nosuchgroup
    else reply group
  reply (group : Str) : Srv Unit := do
    toSend articleListFollows
    db.listgroup group

-----------------------------------------------------------------------------------------
-- POST
-----------------------------------------------------------------------------------------

/-- `docmd_post_chk_ng_name_correctness` for the tokens of the Newsgroups value. -/
def chkNgNameCorrectness : List Str → Srv Bool
  | [] => pure true
  | newsgroup :: rest => do
      modify (fun s => { s with chkname := some (dbSecureSqlbuffer db.dbase newsgroup) })
      db.checkNewsgroupExistence
      modify (fun s => { s with chkname := none })
      let s ← get
      if !s.foundGroup then do
        toSend nosuchgroup
        pure false
      else do
        modify (fun s => { s with chkname := some (dbSecureSqlbuffer db.dbase newsgroup) })
        db.checkNewsgroupPostingAllowed
        modify (fun s => { s with chkname := none })
        let s ← get
        if !s.foundGroup then do
          toSend posterrorNotallowed
          pure false
        else do
          modify (fun s => { s with foundGroup := false })
          chkNgNameCorrectness rest

/-- The access check of POST. -/
def aclCheckIfUsed (user : Option Str) (group : Str) : Srv Bool :=
  if cfg.useAuth && cfg.useAcl then db.aclCheck user group else pure true

/-- The loop over the newsgroups of an article. -/
def postToGroups (messageId : Str) : List Str → Charstack → Srv Unit
  | [], _ => pure ()
  | newsgroup :: rest, stack => do
      let s ← get
      let allowed ← db.aclCheckIfUsed cfg s.curAuthUser newsgroup
      if !allowed then postToGroups messageId rest stack
      else do
        let curHigh ← db.getHighValue env newsgroup
        if curHigh > highLimit then killThread
        else if stack.checkFor newsgroup then postToGroups messageId rest stack
        else do
          db.postInsertIntoNgposts messageId newsgroup (curHigh + 1)
          db.postUpdateHighValue (curHigh + 1) newsgroup
          postToGroups messageId rest (stack.pushOn newsgroup)

/-- `db_secure_sqlbuffer` of a value that may be NULL: only `%q` prints it. -/
def secure (value : Option Str) : Srv Str :=
  match value, db.dbase with
  | some text, dbase => pure (dbSecureSqlbuffer dbase text)
  | none, .sqlite3 => pure "(NULL)".toList
  | none, _ => crash

/-- The choice of the place for the body. -/
def storeBody (messageId body : Str) : Srv Unit :=
  if cfg.messageBodyInDb then db.storeMessageBody messageId body
  else filebackendSavebody messageId body

/-- The end of `docmd_post`: body, `postings` row, newsgroups, reply. The columns for author and
subject are made from the header here. -/
def storeArticle (row : Posting) (header body : Str) (groups : List Str) : Srv Unit := do
  db.storeBody cfg row.msgid body
  let author ← db.secure (cdpReturnLinevalue header "From:".toList)
  let subject ← db.secure (cdpReturnLinevalue header "Subject:".toList)
  db.postInsertIntoPostings { row with author := author, subject := subject }
  db.postToGroups cfg env row.msgid groups .empty
  toSend postdone

/-- The choice of the message-id counter. -/
def newMessageNumber : Srv (Option Str) :=
  if cfg.messageCountInDb then db.dbGetUniqnum else getUniqnum

/-- The part of `docmd_post` behind the checks: message id, header, store. -/
def postAccepted (len : Nat) (header ngstrp body : Str) : Srv Unit := do
  let newid ← db.newMessageNumber cfg
  match newid, messageIdHost cfg env with
  | some newid, some host =>
      match removeFields len header, env.ltime with
      | none, _ => crash
      | some _, none => killThread
      | some header, some ltime =>
          db.storeArticle cfg env
            (postingRow ext env (newid ++ host ++ ['>']) ltime ngstrp (cstr header) body)
            (cstr header) body (strtok ',' ngstrp)
  | _, _ => killThread

/-- `docmd_post` behind the receive loop. -/
def postArticle (buf : Str) : Srv Unit :=
  match checkArticle buf with
  | .garbage => killThread
  | .crash => crash
  | .refused message => toSend message
  | .passed len header ngstrp body => do
      let ok ← db.chkNgNameCorrectness (strtok ',' ngstrp)
      if ok then db.postAccepted ext cfg env len header ngstrp body else pure ()

def docmdPost : Srv Unit := do
  send postok
  match postReceive cfg.maxPostSize [] env.recv with
  | .article buf => db.postArticle ext cfg env buf
  | .tooBig => do
      send postTooBig
      killThread
  | .failed => killThread
  | .waiting => fun _ => .stop .waiting

-----------------------------------------------------------------------------------------
-- do_command and do_server
-----------------------------------------------------------------------------------------

/-- The branches of `do_command` for `QUESTION_AUTH`. -/
def authCommands (recvbuf : Str) : List (Str × Srv Unit) :=
  [("list newsgroups".toList,
      checkMandatoryTls cfg (db.docmdList ext cfg recvbuf .listNewsgroups)),
    ("list overview.fmt".toList, toSend listOverviewFmtInfo),
    ("listgroup".toList, checkMandatoryTls cfg (db.docmdListgroup cfg recvbuf)),
    ("list".toList, checkMandatoryTls cfg (db.docmdList ext cfg recvbuf .list)),
    ("xgtitle".toList, checkMandatoryTls cfg (db.docmdList ext cfg recvbuf .xgtitle)),
    ("help".toList, toSend helpstring),
    ("group".toList, checkMandatoryTls cfg (db.docmdGroup cfg recvbuf)),
    ("xover".toList, checkMandatoryTls cfg (db.docmdXover ext env recvbuf)),
    ("xhdr".toList, checkMandatoryTls cfg (db.docmdXhdr ext env recvbuf)),
    ("article".toList, checkMandatoryTls cfg (db.docmdArticle cfg recvbuf)),
    ("head".toList, checkMandatoryTls cfg (db.docmdArticle cfg recvbuf)),
    ("body".toList, checkMandatoryTls cfg (db.docmdArticle cfg recvbuf)),
    ("stat".toList, checkMandatoryTls cfg (db.docmdArticle cfg recvbuf)),
    ("mode reader".toList, checkMandatoryTls cfg (toSend modeReaderOk)),
    ("post".toList, checkMandatoryTls cfg (db.docmdPost ext cfg env)),
    ("date".toList, docmdDate env),
    ("capabilities".toList, docmdCapabilities cfg)]

def doCommand (recvbuf : Str) : Srv Unit := do
  let s ← get
  if caseEqPrefix "quit".toList recvbuf then do
    send quitstring
    killThread
  else if caseEqPrefix "authinfo user ".toList recvbuf then
    checkMandatoryTls cfg (docmdAuthinfoUser recvbuf)
  else if caseEqPrefix "authinfo pass ".toList recvbuf then
    checkMandatoryTls cfg (db.docmdAuthinfoPass ext cfg recvbuf)
  else
    let authenticated := s.authIsThere || !cfg.useAuth
    match (db.authCommands ext cfg env recvbuf).find?
      (fun entry => authenticated && caseEqPrefix entry.1 recvbuf) with
    | some entry => entry.2
    | none => lastCommands cfg authenticated recvbuf

/-- What `do_command` gets of a received line: without its CR, escaped for the backend. -/
def command (recvbuf : Str) : Str := dbSecureSqlbuffer db.dbase (stripCr recvbuf)

/-- One round of the main loop. -/
def serveLine (recvbuf : Str) : Srv Unit := do
  switchToTls env
  db.doCommand ext cfg env (db.command recvbuf)
  let s ← get
  if s.curstring = [] then crash
  else modify (fun s => { s with sent := s.sent ++ s.curstring, curstring := [] })

/-- The program that serves one line; what was sent for earlier lines is forgotten first. -/
def program (conn : Connection) (line : Line) : Prog Sql Exit (Unit × Session) :=
  (db.serveLine ext cfg line.env line.recvbuf).run { conn.session with sent := [] }

/-- Serve one line; `none` if the connection has ended. -/
def serve (conn : Connection) (line : Line) : Option Connection :=
  match (db.program ext cfg conn line).run (execOn db.dbase ext) conn.store with
  | (.ok (_, session), store) => some ⟨session, store⟩
  | (.error _, _) => none

/-- What the client is sent for a line, also if the connection is killed. -/
def reply (conn : Connection) (line : Line) : List Piece :=
  match (db.program ext cfg conn line).run (execOn db.dbase ext) conn.store with
  | (.ok (_, session), _) => session.sent
  | (.error (.killThread sent), _) => sent
  | (.error _, _) => []

end SrvBackend

/-- A line of the client and what the others do to the store before it is served. -/
structure Round where
  line : Line
  others : Store → Store

/-- The connection when the line of a round is served. -/
def Connection.meanwhile (conn : Connection) (round : Round) : Connection :=
  { conn with store := round.others conn.store }

namespace SrvBackend

variable (db : SrvBackend) (ext : Extern) (cfg : Config)

/-- Serve lines one after another; the others work on the store in between. -/
def serveRounds (conn : Connection) (rounds : List Round) : Option Connection :=
  rounds.foldlM (fun conn round => db.serve ext cfg (conn.meanwhile round) round.line) conn

/-- The replies to the lines, as far as the connection lasts. -/
def replies (conn : Connection) : List Round → List (List Piece)
  | [] => []
  | round :: rest =>
      db.reply ext cfg (conn.meanwhile round) round.line
        :: ((db.serve ext cfg (conn.meanwhile round) round.line).map (replies · rest)).getD []

end SrvBackend

-----------------------------------------------------------------------------------------
-- The server on SQLite
-----------------------------------------------------------------------------------------

section Sqlite3

variable (ext : Extern) (cfg : Config) (env : Env)

theorem chkNgNameCorrectness_sqlite3 (groups : List Str)
    : SrvBackend.sqlite3.chkNgNameCorrectness groups = chkNgNameCorrectness groups := by
  induction groups with
  | nil => rfl
  | cons newsgroup rest ih =>
      rw [SrvBackend.chkNgNameCorrectness, chkNgNameCorrectness, ih]
      rfl

theorem aclCheck_sqlite3 (user : Option Str) (group : Str)
    : SrvBackend.sqlite3.aclCheck user group = aclCheckUserGroup user group := by
  cases user with
  | none => rfl
  | some user => rfl

theorem postToGroups_sqlite3 (messageId : Str) (groups : List Str) (stack : Charstack)
    : SrvBackend.sqlite3.postToGroups cfg env messageId groups stack
      = postToGroups cfg env messageId groups stack := by
  induction groups generalizing stack with
  | nil => rfl
  | cons newsgroup rest ih =>
      simp only [SrvBackend.postToGroups, postToGroups, SrvBackend.aclCheckIfUsed, aclCheckIfUsed,
        aclCheck_sqlite3, ih]
      rfl

theorem secure_sqlite3 (value : Option Str)
    : SrvBackend.sqlite3.secure value = pure (secureOrNull value) := by
  cases value with
  | none => rfl
  | some text => rfl

theorem storeArticle_sqlite3 (messageId : Str) (ltime : Int) (ngstrp header body : Str)
    (groups : List Str)
    : SrvBackend.sqlite3.storeArticle cfg env
          (postingRow ext env messageId ltime ngstrp header body) header body groups
      = storeArticle cfg env (postingRow ext env messageId ltime ngstrp header body) body groups := by
  unfold SrvBackend.storeArticle storeArticle SrvBackend.storeBody
  simp only [secure_sqlite3, postToGroups_sqlite3]
  cases cfg.messageBodyInDb with
  | true => rfl
  | false => rfl

theorem docmdPost_sqlite3
    : SrvBackend.sqlite3.docmdPost ext cfg env = docmdPost ext cfg env := by
  have accepted (len : Nat) (header ngstrp body : Str)
      : SrvBackend.sqlite3.postAccepted ext cfg env len header ngstrp body
        = postAccepted ext cfg env len header ngstrp body := by
    unfold SrvBackend.postAccepted postAccepted
    simp only [storeArticle_sqlite3]
    rfl
  unfold SrvBackend.docmdPost docmdPost SrvBackend.postArticle postArticle
  simp only [accepted, chkNgNameCorrectness_sqlite3] <;> rfl

/-- The handlers with the functions of SQLite are the server on SQLite. -/
theorem doCommand_sqlite3 (recvbuf : Str)
    : SrvBackend.sqlite3.doCommand ext cfg env recvbuf = doCommand ext cfg env recvbuf := by
  have group : SrvBackend.sqlite3.docmdGroup cfg recvbuf = docmdGroup cfg recvbuf := by
    unfold SrvBackend.docmdGroup docmdGroup
    simp only [aclCheck_sqlite3]
    rfl
  have listgroup : SrvBackend.sqlite3.docmdListgroup cfg recvbuf = docmdListgroup cfg recvbuf := by
    unfold SrvBackend.docmdListgroup docmdListgroup SrvBackend.docmdListgroup.listing
      docmdListgroup.listing
    simp only [aclCheck_sqlite3]
    rfl
  unfold SrvBackend.doCommand doCommand SrvBackend.authCommands authCommands
  rw [docmdPost_sqlite3, group, listgroup]
  rfl

theorem serveLine_sqlite3 (recvbuf : Str)
    : SrvBackend.sqlite3.serveLine ext cfg env recvbuf = serveLine ext cfg env recvbuf := by
  unfold SrvBackend.serveLine
  rw [doCommand_sqlite3]
  rfl

end Sqlite3

end WendzelNNTPd
