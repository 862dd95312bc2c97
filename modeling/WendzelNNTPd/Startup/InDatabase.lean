import WendzelNNTPd.Server.Backends
import WendzelNNTPd.Server.ConfigFile

/-! The settings that a configuration file leads to. Each action checks the settings of the moment
at which its statement is read; later statements of the file can still change them.
-/

namespace WendzelNNTPd

open CString Atomic

section Statements

/-- The engine that a statement selects. -/
def Command.engine : Command → Option Dbase
  | .dbEngine yytext => engineNamed yytext
  | _ => none

/-- The engine that the last statement about it selects. -/
def lastEngine : List Command → Option Dbase
  | [] => none
  | cmd :: rest => (lastEngine rest).or cmd.engine

/-- Some statement asks for bodies or the counter to be kept in the database. -/
def AsksForDatabase (cmds : List Command) : Prop :=
  .messageBodyInDb ∈ cmds ∨ .messageCountInDb ∈ cmds

/-- What an action that does not exit does to the settings in question. -/
structure ActionEffect (cmd : Command) (g g' : Settings) : Prop where
  dbase : g'.dbase = cmd.engine.or g.dbase
  messageBodyInDb : g'.messageBodyInDb = true ↔ cmd = .messageBodyInDb ∨ g.messageBodyInDb = true
  messageCountInDb :
    g'.messageCountInDb = true ↔ cmd = .messageCountInDb ∨ g.messageCountInDb = true
  useAuth : g.useAuth = true → g'.useAuth = true
  useAcl : g'.useAcl = true → g.useAcl = true ∨ g.useAuth = true

/-- An action that is not about these settings. -/
theorem ActionEffect.other {cmd : Command} {g g' : Settings}
    (engine : cmd.engine = none) (body : cmd ≠ .messageBodyInDb) (count : cmd ≠ .messageCountInDb)
    (dbase : g'.dbase = g.dbase) (sameBody : g'.messageBodyInDb = g.messageBodyInDb)
    (sameCount : g'.messageCountInDb = g.messageCountInDb) (auth : g'.useAuth = g.useAuth)
    (acl : g'.useAcl = g.useAcl)
    : ActionEffect cmd g g' where
  dbase := by rw [engine, dbase, Option.none_or]
  messageBodyInDb := by rw [sameBody]; simp [body]
  messageCountInDb := by rw [sameCount]; simp [count]
  useAuth := by rw [auth]; exact id
  useAcl := by rw [acl]; exact Or.inl

theorem action_effect {host : Host} {cmd : Command} {g g' : Settings}
    (ran : action host g cmd = some g')
    : ActionEffect cmd g g' := by
  cases cmd with
  | useAuth =>
      cases ran
      exact ⟨rfl, by simp, by simp, fun _ => rfl, Or.inl⟩
  | useAcl =>
      rw [action] at ran
      split at ran
      · rename_i auth
        cases ran
        exact ⟨rfl, by simp, by simp, id, fun _ => Or.inr auth⟩
      · cases ran
  | dbEngine yytext =>
      obtain ⟨dbase, named, rfl⟩ := Option.map_eq_some_iff.mp ran
      refine ⟨?_, by simp, by simp, id, Or.inl⟩
      rw [Command.engine, named]
      rfl
  | messageBodyInDb =>
      rw [action] at ran
      split at ran
      · cases ran
        exact ⟨rfl, by simp, by simp, id, Or.inl⟩
      · cases ran
  | messageCountInDb =>
      rw [action] at ran
      split at ran
      · cases ran
        exact ⟨rfl, by simp, by simp, id, Or.inl⟩
      · cases ran
  | maxPostSize yytext =>
      rw [action] at ran
      split at ran
      · cases ran
      · cases ran
        exact .other rfl nofun nofun rfl rfl rfl rfl rfl
  | dbPort yytext =>
      rw [action] at ran
      split at ran
      · cases ran
      · cases ran
        exact .other rfl nofun nofun rfl rfl rfl rfl rfl
  | connector cmds =>
      obtain ⟨c, -, more⟩ := Option.bind_eq_some_iff.mp ran
      obtain ⟨listener, -, done⟩ := Option.bind_eq_some_iff.mp more
      cases done
      exact .other rfl nofun nofun rfl rfl rfl rfl rfl
  | _ =>
      cases ran
      exact .other rfl nofun nofun rfl rfl rfl rfl rfl

/-- What all statements of a file do to these settings. -/
structure FileEffect (cmds : List Command) (g g' : Settings) : Prop where
  dbase : g'.dbase = (lastEngine cmds).or g.dbase
  messageBodyInDb : g'.messageBodyInDb = true ↔ .messageBodyInDb ∈ cmds ∨ g.messageBodyInDb = true
  messageCountInDb :
    g'.messageCountInDb = true ↔ .messageCountInDb ∈ cmds ∨ g.messageCountInDb = true
  acl : (g.useAcl = true → g.useAuth = true) → g'.useAcl = true → g'.useAuth = true

theorem actions_effect {host : Host} {cmds : List Command} {g g' : Settings}
    (ran : cmds.foldlM (action host) g = some g')
    : FileEffect cmds g g' := by
  induction cmds generalizing g with
  | nil =>
      obtain rfl : g = g' := Option.some.inj ran
      exact ⟨rfl, by simp, by simp, id⟩
  | cons cmd rest ih =>
      rw [List.foldlM_cons] at ran
      obtain ⟨next, first, more⟩ := Option.bind_eq_some_iff.mp ran
      have step := action_effect first
      have later := ih more
      refine ⟨?_, ?_, ?_, fun before => later.acl (fun acl => ?_)⟩
      · rw [later.dbase, step.dbase, lastEngine, Option.or_assoc]
      · rw [later.messageBodyInDb, step.messageBodyInDb, List.mem_cons]
        tauto
      · rw [later.messageCountInDb, step.messageCountInDb, List.mem_cons]
        tauto
      · rcases step.useAcl acl with old | auth
        · exact step.useAuth (before old)
        · exact step.useAuth auth

/-- Behind the parser only the default port of the database is added. -/
theorem startServer_cases {host : Host} {file : Str} {g : Settings}
    (started : startServer host file = some g)
    : ∃ cmds read port, statements file = some cmds
      ∧ cmds.foldlM (action host) Settings.initial = some read ∧ g = { read with dbPort := port } := by
  obtain ⟨cmds, parsed, ran⟩ := Option.bind_eq_some_iff.mp started
  obtain ⟨read, actions, ran⟩ := Option.bind_eq_some_iff.mp ran
  obtain ⟨checked, check, ran⟩ := Option.bind_eq_some_iff.mp ran
  obtain rfl : g = checked := by
    unfold checkDb at ran
    split at ran
    · cases ran
      rfl
    · cases ran
  refine ⟨cmds, read, g.dbPort, parsed, actions, ?_⟩
  unfold checkSettings at check
  repeat' split at check
  all_goals cases check
  all_goals rfl

end Statements

section Serving

/-- `db_store_message_body`, `db_load_message_body` and `db_get_uniqnum` of `db_abstraction.c`. -/
structure InDatabase where
  storeMessageBody : Str → Str → Srv Unit
  loadMessageBody : Str → Srv (Option Str)
  getUniqnum : Srv (Option Str)

/-- Their default branch. -/
def InDatabase.exits : InDatabase := ⟨fun _ _ => crash, fun _ => crash, crash⟩

/-- `db_sqlite3_article` with the function that loads a body from the database. -/
def dbArticleVia (loadBody : Str → Srv (Option Str)) (cfg : Config) (group : Str) (type : Artcltyp)
    : Srv Unit := do
  let s ← get
  let rows : List Ngpost ←
    match type with
    | .messageId param => sql (.selectNgpostsMsgid group param)
    | .number param => sql (.selectNgpostsPostnum group param)
    | .current => sql (.selectNgpostsPostnum group (s.selectedArticle.getD []))
  rows.forM (fun row => do
    modify (fun s => { s with selectedArticle := some (dec row.postnum) })
    let s ← get
    toSendRow row (articleReply s.cmdtype row)
    articleSendHeader s.cmdtype row
    articleSendBodyVia loadBody cfg s.cmdtype row
    modify (fun s => { s with foundArticle := true }))

/-- `db_mysql_article` with the function that loads a body from the database. -/
def dbMysqlArticleVia (server : MysqlServer) (loadBody : Str → Srv (Option Str)) (cfg : Config)
    (group : Str) (type : Artcltyp)
    : Srv Unit := do
  let s ← get
  let rows ← mysqlArticleRows server group s.selectedArticle type
  match rows.head? with
  | some row => (mysqlEngine server).articleRow loadBody cfg row
  | none => pure ()

/-- The backends with these functions in the place of the default branches. PostgreSQL has a branch
of its own in each of them. -/
def srvBackendVia (servers : DbServers) (inDb : InDatabase) : Dbase → SrvBackend
  | .sqlite3 =>
      { SrvBackend.sqlite3 with
        article := dbArticleVia inDb.loadMessageBody
        storeMessageBody := inDb.storeMessageBody
        dbGetUniqnum := inDb.getUniqnum }
  | .mysql =>
      { SrvBackend.mysql servers.mysql with
        article := dbMysqlArticleVia servers.mysql inDb.loadMessageBody
        storeMessageBody := inDb.storeMessageBody
        dbGetUniqnum := inDb.getUniqnum }
  | .postgres => .postgres servers.postgres

theorem articleSendBodyVia_crash (cfg : Config) (cmdtype : Cmdtype) (row : Ngpost)
    : articleSendBodyVia (fun _ => crash) cfg cmdtype row = articleSendBody cfg cmdtype row := by
  unfold articleSendBodyVia articleSendBody retrieveBody
  split
  · cases cfg.messageBodyInDb with
    | true => rfl
    | false => rfl
  · rfl

/-- The server is the one whose default branches exit. -/
theorem srvBackendVia_exits (servers : DbServers) (dbase : Dbase)
    : srvBackendVia servers .exits dbase = srvBackend servers dbase := by
  cases dbase with
  | sqlite3 =>
      have article : dbArticleVia (fun _ => crash) = dbArticle := by
        funext cfg group type
        simp only [dbArticleVia, articleSendBodyVia_crash]
        rfl
      simp only [srvBackendVia, InDatabase.exits, article]
      rfl
  | mysql => rfl
  | postgres => rfl

/-- The settings that the session code reads are those of the file. -/
structure Config.Follows (cfg : Config) (g : Settings) : Prop where
  useAuth : cfg.useAuth = g.useAuth
  useAcl : cfg.useAcl = g.useAcl
  messageBodyInDb : cfg.messageBodyInDb = g.messageBodyInDb
  messageCountInDb : cfg.messageCountInDb = g.messageCountInDb
  tlsIsMandatory : cfg.tlsIsMandatory = g.tlsIsMandatory
  anonymMessageIds : cfg.anonymMessageIds = g.anonymMessageIds
  hashSalt : cfg.hashSalt = g.hashSalt
  maxPostSize : (cfg.maxPostSize : Int) = g.maxPostSize

/-- While clients are served, no default branch of the three functions is reached: whatever stands
there, each line is served in the same way. -/
def NeverExits (servers : DbServers) (g : Settings) : Prop :=
  ∀ dbase, g.dbase = some dbase → ∀ cfg : Config, cfg.Follows g →
    ∀ inDb ext env recvbuf,
      (srvBackendVia servers inDb dbase).serveLine ext cfg env recvbuf
        = (srvBackendVia servers .exits dbase).serveLine ext cfg env recvbuf

theorem articleSendBodyVia_file {cfg : Config} (file : cfg.messageBodyInDb = false)
    (loadBody loadBody' : Str → Srv (Option Str)) (cmdtype : Cmdtype) (row : Ngpost)
    : articleSendBodyVia loadBody cfg cmdtype row = articleSendBodyVia loadBody' cfg cmdtype row := by
  unfold articleSendBodyVia retrieveBody
  simp only [file]
  rfl

/-- The backend with other functions for bodies and the counter. -/
def SrvBackend.replaced (db : SrvBackend) (article : Config → Str → Artcltyp → Srv Unit)
    (inDb : InDatabase)
    : SrvBackend :=
  { db with
    article := article
    storeMessageBody := inDb.storeMessageBody
    dbGetUniqnum := inDb.getUniqnum }

section Replaced

variable {db : SrvBackend} {ext : Extern} {cfg : Config} {env : Env}
  {article : Config → Str → Artcltyp → Srv Unit} {inDb : InDatabase}

theorem docmdArticle_replaced (same : article cfg = db.article cfg) (command : Str)
    : (db.replaced article inDb).docmdArticle cfg command = db.docmdArticle cfg command := by
  unfold SrvBackend.docmdArticle SrvBackend.docmdArticle.retrieve
  have used : (db.replaced article inDb).article cfg = db.article cfg := same
  rw [used]

theorem postToGroups_replaced (messageId : Str) (groups : List Str) (stack : Charstack)
    : (db.replaced article inDb).postToGroups cfg env messageId groups stack
      = db.postToGroups cfg env messageId groups stack := by
  induction groups generalizing stack with
  | nil => rfl
  | cons newsgroup rest ih =>
      simp only [SrvBackend.postToGroups, ih]
      rfl

theorem chkNgNameCorrectness_replaced (groups : List Str)
    : (db.replaced article inDb).chkNgNameCorrectness groups = db.chkNgNameCorrectness groups := by
  induction groups with
  | nil => rfl
  | cons newsgroup rest ih =>
      simp only [SrvBackend.chkNgNameCorrectness, ih]
      rfl

theorem docmdPost_replaced (body : cfg.messageBodyInDb = false)
    (count : cfg.messageCountInDb = false)
    : (db.replaced article inDb).docmdPost ext cfg env = db.docmdPost ext cfg env := by
  have stores (row : Posting) (header text : Str) (groups : List Str)
      : (db.replaced article inDb).storeArticle cfg env row header text groups
        = db.storeArticle cfg env row header text groups := by
    simp only [SrvBackend.storeArticle, SrvBackend.storeBody, body, postToGroups_replaced]
    rfl
  have accepted (len : Nat) (header ngstrp text : Str)
      : (db.replaced article inDb).postAccepted ext cfg env len header ngstrp text
        = db.postAccepted ext cfg env len header ngstrp text := by
    simp only [SrvBackend.postAccepted, SrvBackend.newMessageNumber, count, stores]
    rfl
  unfold SrvBackend.docmdPost SrvBackend.postArticle
  simp only [accepted, chkNgNameCorrectness_replaced]

theorem serveLine_replaced (body : cfg.messageBodyInDb = false)
    (count : cfg.messageCountInDb = false) (same : article cfg = db.article cfg) (recvbuf : Str)
    : (db.replaced article inDb).serveLine ext cfg env recvbuf
      = db.serveLine ext cfg env recvbuf := by
  unfold SrvBackend.serveLine SrvBackend.doCommand SrvBackend.authCommands
  rw [docmdArticle_replaced same, docmdPost_replaced body count]
  rfl

end Replaced

/-- Without bodies and counter in the database the functions are not called; with PostgreSQL they
have branches of their own. -/
theorem neverExits_of {servers : DbServers} {g : Settings}
    (inDb : g.messageBodyInDb = true ∨ g.messageCountInDb = true → g.dbase = some .postgres)
    : NeverExits servers g := by
  intro dbase chosen cfg follows fns ext env recvbuf
  by_cases isPostgres : dbase = .postgres
  · rw [isPostgres]
    rfl
  · have off : g.messageBodyInDb = false ∧ g.messageCountInDb = false := by
      have notBoth : ¬(g.messageBodyInDb = true ∨ g.messageCountInDb = true) := by
        intro asked
        exact isPostgres (Option.some.inj (chosen.symm.trans (inDb asked)))
      simpa using notBoth
    have body : cfg.messageBodyInDb = false := follows.messageBodyInDb.trans off.1
    have count : cfg.messageCountInDb = false := follows.messageCountInDb.trans off.2
    cases dbase with
    | sqlite3 =>
        refine @serveLine_replaced (srvBackendVia servers .exits .sqlite3) ext cfg env
          (dbArticleVia fns.loadMessageBody) fns body count ?_ recvbuf
        funext group type
        show dbArticleVia _ cfg group type = dbArticleVia _ cfg group type
        simp only [dbArticleVia, articleSendBodyVia_file body fns.loadMessageBody (fun _ => crash)]
        rfl
    | mysql =>
        refine @serveLine_replaced (srvBackendVia servers .exits .mysql) ext cfg env
          (dbMysqlArticleVia servers.mysql fns.loadMessageBody) fns body count ?_ recvbuf
        funext group type
        show dbMysqlArticleVia _ _ cfg group type = dbMysqlArticleVia _ _ cfg group type
        simp only [dbMysqlArticleVia, Engine.articleRow,
          articleSendBodyVia_file body fns.loadMessageBody (fun _ => crash)]
        rfl
    | postgres => exact absurd rfl isPostgres

end Serving

section Consistency

/-- What the settings of a running server must satisfy. -/
structure Consistent (servers : DbServers) (g : Settings) : Prop where
  acl : g.useAcl = true → g.useAuth = true
  inDatabase : g.messageBodyInDb = true ∨ g.messageCountInDb = true → g.dbase = some .postgres
  neverExits : NeverExits servers g

/-- If the file asks for anything to be kept in the database, its last statement about the engine
selects PostgreSQL. -/
def EndsWithPostgres (file : Str) : Prop :=
  ∀ cmds, statements file = some cmds → AsksForDatabase cmds → lastEngine cmds = some .postgres

/-- Whatever statements a file has and in whatever order, a server that starts with it has
consistent settings exactly if the file ends with PostgreSQL where something is to be kept in the
database. -/
theorem consistent_iff_endsWithPostgres (servers : DbServers) {host : Host} {file : Str}
    {g : Settings} (started : startServer host file = some g)
    : Consistent servers g ↔ EndsWithPostgres file := by
  obtain ⟨cmds, read, port, parsed, actions, rfl⟩ := startServer_cases started
  have effect := actions_effect actions
  have acl : read.useAcl = true → read.useAuth = true := effect.acl nofun
  have engine : read.dbase = lastEngine cmds := by
    rw [effect.dbase]
    exact Option.or_none
  have asks : read.messageBodyInDb = true ∨ read.messageCountInDb = true ↔ AsksForDatabase cmds := by
    rw [effect.messageBodyInDb, effect.messageCountInDb]
    simp [AsksForDatabase, Settings.initial]
  constructor
  · intro consistent cmds' parsed' asked
    obtain rfl := Option.some.inj (parsed.symm.trans parsed')
    rw [← engine]
    exact consistent.inDatabase (asks.mpr asked)
  · intro ends
    have inDb : read.messageBodyInDb = true ∨ read.messageCountInDb = true →
        read.dbase = some .postgres := by
      intro kept
      rw [engine]
      exact ends cmds parsed (asks.mp kept)
    exact ⟨acl, inDb, neverExits_of inDb⟩

/-- A host on which everything succeeds, with the address 0.0.0.0 only. -/
def sampleHost : Host where
  readable _ := true
  inetPton family address := decide (family = .inet) && address == "0.0.0.0".toList
  binds _ _ := true
  tlsContext _ := true
  dbOpens _ := true

/-- A file that keeps bodies in PostgreSQL. -/
def postgresFile : Str :=
  ("database-engine postgres ; the only one with bodies\n"
    ++ "database-server db\ndatabase-username news\ndatabase-password secret\n"
    ++ "message-body-in-db\n<connector>\nlisten 0.0.0.0\n</connector>\n").toList

-- The literals are taken apart first: the kernel is slow at decoding long ones.
theorem statements_postgresFile
    : statements postgresFile
      = some
          [.dbEngine "postgres".toList, .dbServer "db".toList, .dbUser "news".toList,
            .dbPass "secret".toList, .messageBodyInDb,
            .connector [.listenonSpec "0.0.0.0".toList]] := by
  unfold postgresFile
  rw [String.toList_append, String.toList_append, String.toList_ofList, String.toList_ofList,
    String.toList_ofList]
  decide +kernel

theorem postgres_file_is_consistent
    : ∃ g, startServer sampleHost postgresFile = some g ∧ Consistent sampleServers g := by
  obtain ⟨g, started⟩ : ∃ g, startServer sampleHost postgresFile = some g := by
    rw [← Option.isSome_iff_exists, startServer, statements_postgresFile]
    decide +kernel
  refine ⟨g, started, (consistent_iff_endsWithPostgres sampleServers started).mpr ?_⟩
  intro cmds isParsed _
  rw [statements_postgresFile] at isParsed
  rw [← Option.some.inj isParsed]
  decide

/-- The check for PostgreSQL is made when its statement is read; the engine chosen afterwards is
not checked again. -/
theorem later_engine_breaks_consistency
    : ∃ g, startServer sampleHost (postgresFile ++ "database-engine sqlite3\n".toList) = some g
      ∧ g.messageBodyInDb = true ∧ g.dbase = some .sqlite3 ∧ ¬Consistent sampleServers g := by
  have settings : (startServer sampleHost (postgresFile ++ "database-engine sqlite3\n".toList)).map
      (fun g => (g.messageBodyInDb, g.dbase)) = some (true, some .sqlite3) := by
    unfold postgresFile
    rw [String.toList_append, String.toList_append, String.toList_ofList, String.toList_ofList,
      String.toList_ofList, String.toList_ofList]
    decide +kernel
  obtain ⟨g, started, same⟩ := Option.map_eq_some_iff.mp settings
  obtain ⟨body, engine⟩ := Prod.mk.inj same
  refine ⟨g, started, body, engine, fun consistent => ?_⟩
  have postgres := consistent.inDatabase (Or.inl body)
  rw [engine] at postgres
  cases postgres

end Consistency

end WendzelNNTPd
