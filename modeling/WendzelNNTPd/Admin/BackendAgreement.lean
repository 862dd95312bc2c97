import WendzelNNTPd.Admin.Backends
import WendzelNNTPd.Admin.Effects
import WendzelNNTPd.Database.AclCheck
import WendzelNNTPd.Lib.Handler

/-! The user, role and access commands of `wendzelnntpadm` on the three backends. What a
command does on SQLite is what it does on every backend whose functions have the effect of
SQLite's functions; MySQL's have it for names that stand for themselves in a statement, and
PostgreSQL's for all names, with the exception of `rolegroupdisconnect`.
-/

namespace WendzelNNTPd

open CString Atomic

-----------------------------------------------------------------------------------------
-- The commands
-----------------------------------------------------------------------------------------

/-- The modes of the user, role and access commands. -/
def AdmMode.ofAccess : AdmMode → Bool
  | .ngcreate | .ngdelete | .ngmodify | .nglist => false
  | _ => true

/-- The names among the parameters of a user, role or access command. -/
def AdmMode.names (args : List Str) : AdmMode → List Str
  | .adduser | .deluser | .addaclrole | .delaclrole => [argv args 2]
  | .addacluser | .delacluser | .rolegroupc | .rolegroupuc | .roleuserc | .roleuseruc =>
      [argv args 2, argv args 3]
  | _ => []

/-- A user, role or access command with names of at most 50 characters. -/
structure AdmCall.OfAccess (call : AdmCall) (mode : AdmMode) : Prop where
  command : admMode (argv call.args 1) = some mode
  access : mode.ofAccess = true
  short : ∀ name ∈ mode.names call.args, name.length ≤ nameWidth

/-- Every name that a command puts into a statement stands there for itself, and no role is
disconnected from a newsgroup: the checks of `rolegroupdisconnect` refuse it. -/
def AdmMode.Undisturbed (s : Store) (first second : Str) : AdmMode → Prop
  | .deluser | .addaclrole | .delaclrole => SqlLiteral.plain first
  | .addacluser | .delacluser =>
      SqlLiteral.plain first ∧ (s.HasUser first → SqlLiteral.plain second)
  | .rolegroupc | .roleuserc | .roleuseruc =>
      SqlLiteral.plain first ∧ (first ∈ s.roles → SqlLiteral.plain second)
  | .rolegroupuc =>
      SqlLiteral.plain first
      ∧ (first ∈ s.roles → SqlLiteral.plain second ∧ ¬s.HasGroup second)
  | _ => True

def AdmCall.Undisturbed (s : Store) (call : AdmCall) : Prop :=
  ∀ mode ∈ admAccepts call.args, mode.Undisturbed s (argv call.args 2) (argv call.args 3)

/-- Each call of a sequence is undisturbed in the store the tool on SQLite leaves for it. -/
def AllUndisturbed (ext : Extern) (hashSalt : Str) : Store → List AdmCall → Prop
  | _, [] => True
  | s, call :: calls =>
      call.Undisturbed s ∧ AllUndisturbed ext hashSalt (admCall ext hashSalt s call) calls

instance (s : Store) (user : Str) : Decidable (s.HasUser user) :=
  inferInstanceAs (Decidable (∃ u ∈ s.users, u.name = user))

instance (s : Store) (group : Str) : Decidable (s.HasGroup group) :=
  inferInstanceAs (Decidable (∃ g ∈ s.newsgroups, g.name = group))

instance (s : Store) (first second : Str) (mode : AdmMode)
    : Decidable (mode.Undisturbed s first second) := by
  cases mode <;> unfold AdmMode.Undisturbed <;> infer_instance

instance (s : Store) (call : AdmCall) : Decidable (call.Undisturbed s) :=
  inferInstanceAs (Decidable (∀ mode ∈ admAccepts call.args, _))

instance decidableAllUndisturbed (ext : Extern) (hashSalt : Str)
    : ∀ (s : Store) (calls : List AdmCall), Decidable (AllUndisturbed ext hashSalt s calls)
  | _, [] => isTrue trivial
  | s, call :: calls =>
      have := decidableAllUndisturbed ext hashSalt (admCall ext hashSalt s call) calls
      inferInstanceAs (Decidable (call.Undisturbed s ∧ _))

/-- `get_sha256_hash_from_str` returns 64 hexadecimal digits. -/
def Extern.HexDigest (ext : Extern) : Prop :=
  ∀ text, (ext.sha256hex text).length = 64
    ∧ (ext.sha256hex text).all (fun c => c.isDigit || ('a' ≤ c && c ≤ 'f')) = true

-----------------------------------------------------------------------------------------
-- Backends with the effect of SQLite
-----------------------------------------------------------------------------------------

/-- The functions of a backend have, on its engine, the effect that the functions of SQLite
have, for names `ok` and in stores where the checks of `main` let them be called. The
function behind `rolegroupdisconnect` is left out. -/
structure AdmBackend.Follows (db : AdmBackend) (engine : Exec Sql Store) (ext : Extern)
    (ok : Str → Prop)
    : Prop where
  chkNewsgroup : ∀ name s, ok name →
    (db.chkNewsgroupExistence name).run engine s
      = (setExistenceOfNewsgroup name).run (exec ext) s
  chkUser : ∀ name s, ok name →
    (db.chkUserExistence name).run engine s = (setExistenceOfUser name).run (exec ext) s
  chkRole : ∀ name s, ok name →
    (db.chkRoleExistence name).run engine s = (setExistenceOfRole name).run (exec ext) s
  addUser : ∀ name password s, ok name → ok password →
    name.length ≤ nameWidth → password.length ≤ 64 →
    (db.addUser name password).run engine s = (dbAddUser name password).run (exec ext) s
  delUser : ∀ name s, ok name →
    (db.delUser name).run engine s = (dbDelUser name).run (exec ext) s
  aclAddUser : ∀ user group s, ok user → ok group → s.HasUser user → s.HasGroup group →
    (db.aclAddUser user group).run engine s
      = (sqlite3Backend.aclAddUser user group).run (exec ext) s
  aclDelUser : ∀ user group s, ok user → ok group →
    (db.aclDelUser user group).run engine s
      = (sqlite3Backend.aclDelUser user group).run (exec ext) s
  aclAddRole : ∀ role s, ok role → role.length ≤ nameWidth →
    (db.aclAddRole role).run engine s = (sqlite3Backend.aclAddRole role).run (exec ext) s
  aclDelRole : ∀ role s, ok role →
    (db.aclDelRole role).run engine s = (dbAclDelRole role).run (exec ext) s
  connectGroup : ∀ role group s, ok role → ok group → role ∈ s.roles → s.HasGroup group →
    (db.aclRoleConnectGroup role group).run engine s
      = (sqlite3Backend.aclRoleConnectGroup role group).run (exec ext) s
  connectUser : ∀ role user s, ok role → ok user → role ∈ s.roles → s.HasUser user →
    (db.aclRoleConnectUser role user).run engine s
      = (sqlite3Backend.aclRoleConnectUser role user).run (exec ext) s
  disconnectUser : ∀ role user s, ok role → ok user →
    (db.aclRoleDisconnectUser role user).run engine s
      = (sqlite3Backend.aclRoleDisconnectUser role user).run (exec ext) s

section Engine

variable (dbase : Dbase) {ext : Extern} {s : Store}

theorem refersUser_of_hasUser {user : Str} (has : s.HasUser user) : s.refersUser user = true := by
  obtain ⟨u, member, same⟩ := has
  exact List.any_eq_true.mpr ⟨u, member, beq_iff_eq.mpr same⟩

theorem refersGroup_of_hasGroup {group : Str} (has : s.HasGroup group)
    : s.refersGroup group = true := by
  obtain ⟨g, member, same⟩ := has
  exact List.any_eq_true.mpr ⟨g, member, beq_iff_eq.mpr same⟩

theorem refersRole_of_mem {role : Str} (has : role ∈ s.roles) : s.refersRole role = true :=
  List.contains_iff_mem.mpr has

theorem constrained_of_met {met : Bool} {inserted : Bool × Store} (holds : met = true)
    : constrained met s inserted = inserted :=
  if_pos holds

theorem schemaExec_insertUser {row : User} (fits : row.fits dbase = true)
    : schemaExec dbase ext (.insertUser row) s = exec ext (.insertUser row) s :=
  constrained_of_met fits

theorem schemaExec_insertRole {role : Str} (fits : role.length ≤ nameWidth)
    : schemaExec dbase ext (.insertRole role) s = exec ext (.insertRole role) s :=
  constrained_of_met (decide_eq_true fits)

theorem schemaExec_insertAclUser {row : AclUser} (user : s.HasUser row.username)
    (group : s.HasGroup row.ng)
    : schemaExec dbase ext (.insertAclUser row) s = exec ext (.insertAclUser row) s :=
  constrained_of_met
    (Bool.and_eq_true_iff.mpr ⟨refersUser_of_hasUser user, refersGroup_of_hasGroup group⟩)

theorem schemaExec_insertUser2Role {row : User2Role} (user : s.HasUser row.username)
    (role : row.role ∈ s.roles)
    : schemaExec dbase ext (.insertUser2Role row) s = exec ext (.insertUser2Role row) s :=
  constrained_of_met
    (Bool.and_eq_true_iff.mpr ⟨refersUser_of_hasUser user, refersRole_of_mem role⟩)

theorem schemaExec_insertAclRole {row : AclRole} (role : row.role ∈ s.roles)
    (group : s.HasGroup row.ng)
    : schemaExec dbase ext (.insertAclRole row) s = exec ext (.insertAclRole row) s :=
  constrained_of_met
    (Bool.and_eq_true_iff.mpr ⟨refersRole_of_mem role, refersGroup_of_hasGroup group⟩)

/-- A table from which rows were deleted has no further row for a cascade to delete. -/
theorem filter_twice {α : Type} (p : α → Bool) (table : List α)
    : (table.filter p).filter p = table.filter p := by
  simp

theorem whereEq_first {α : Type} {column : α → Str} {value : Str} {other : α → Str}
    : (fun a => !(whereEq (some value) (column a) && whereEq none (other a)))
      = fun a => column a != value := by
  funext a
  simp [whereEq, bne]

theorem whereEq_second {α : Type} {column : α → Str} {value : Str} {other : α → Str}
    : (fun a => !(whereEq none (other a) && whereEq (some value) (column a)))
      = fun a => column a != value := by
  funext a
  simp [whereEq, bne]

/-- The three deletions of a user and the one that cascades have the same effect. -/
theorem schemaExec_deleteUser_after (name : Str)
    : schemaExec dbase ext (.deleteUser name)
        (exec ext (.deleteUsers2Roles (some name) none)
          (exec ext (.deleteAclUsers (some name) none) s).2).2
      = exec ext (.deleteUser name)
        (exec ext (.deleteUsers2Roles (some name) none)
          (exec ext (.deleteAclUsers (some name) none) s).2).2 := by
  simp only [schemaExec, exec, whereEq_first, filter_twice]

theorem schemaExec_deleteUser (name : Str)
    : schemaExec dbase ext (.deleteUser name) s
      = exec ext (.deleteUser name)
        (exec ext (.deleteUsers2Roles (some name) none)
          (exec ext (.deleteAclUsers (some name) none) s).2).2 := by
  simp only [schemaExec, exec, whereEq_first]

/-- The three deletions of a role and the one that cascades have the same effect. -/
theorem schemaExec_deleteRole_after (role : Str)
    : schemaExec dbase ext (.deleteRole role)
        (exec ext (.deleteAclRoles (some role) none)
          (exec ext (.deleteUsers2Roles none (some role)) s).2).2
      = exec ext (.deleteRole role)
        (exec ext (.deleteAclRoles (some role) none)
          (exec ext (.deleteUsers2Roles none (some role)) s).2).2 := by
  simp only [schemaExec, exec, whereEq_first, whereEq_second, filter_twice]

theorem schemaExec_deleteRole (role : Str)
    : schemaExec dbase ext (.deleteRole role) s
      = exec ext (.deleteRole role)
        (exec ext (.deleteAclRoles (some role) none)
          (exec ext (.deleteUsers2Roles none (some role)) s).2).2 := by
  simp only [schemaExec, exec, whereEq_first, whereEq_second]

/-- An insert ends alike on engines that do the same with its row. -/
theorem run_admInsert_congr {op : Stmt} {ok : op.Result → Bool} {engine engine' : Exec Sql Store}
    (same : engine op s = engine' op s)
    : (admInsert op ok).run engine s = (admInsert op ok).run engine' s := by
  unfold admInsert
  rw [Prog.run_act, Prog.run_act, same]
  split <;> rfl

end Engine

-----------------------------------------------------------------------------------------
-- MySQL and PostgreSQL
-----------------------------------------------------------------------------------------

section Mysql

variable {server : MysqlServer} {names : List Str} {op : Stmt}

theorem plain_one {name : Str} (plain : SqlLiteral.plain name = true)
    : ∀ other ∈ [name], SqlLiteral.plain other = true := by
  simpa using plain

theorem plain_two {first second : Str} (plainFirst : SqlLiteral.plain first = true)
    (plainSecond : SqlLiteral.plain second = true)
    : ∀ other ∈ [first, second], SqlLiteral.plain other = true := by
  simpa using ⟨plainFirst, plainSecond⟩

theorem mysqlAdm_of_plain (plain : ∀ name ∈ names, SqlLiteral.plain name = true)
    : mysqlAdm server names op = .act op .done :=
  mysqlRealQuery_of_plain plain

theorem mysqlSrv_of_plain (plain : ∀ name ∈ names, SqlLiteral.plain name = true)
    : mysqlSrv server names op = sql op := by
  funext session
  simp only [mysqlSrv, mysqlRealQuery_of_plain plain]
  rfl

theorem mysqlInsert_of_plain (plain : ∀ name ∈ names, SqlLiteral.plain name = true)
    (ok : op.Result → Bool)
    : mysqlInsert server names op ok = admInsert op ok := by
  unfold mysqlInsert
  rw [mysqlAdm_of_plain plain]
  rfl

theorem mysqlDo_of_plain (plain : ∀ name ∈ names, SqlLiteral.plain name = true)
    : mysqlDo server names op = admDo op := by
  unfold mysqlDo
  rw [mysqlAdm_of_plain plain]
  rfl

end Mysql

/-- MySQL's functions follow SQLite's for names that stand for themselves.
Witness: the statements are the same; the constraints are met by what `main` checked, and the
cascades of the last statement of a deletion find nothing left.
-/
theorem mysqlBackend_follows (server : MysqlServer) (ext : Extern)
    : (mysqlBackend server).Follows (execOn .mysql ext) ext
        (fun name => SqlLiteral.plain name = true) where
  chkNewsgroup name s plain := by
    simp only [mysqlBackend, mysqlAdm_of_plain (plain_one plain)]
    rfl
  chkUser name s plain := by
    simp only [mysqlBackend, mysqlAdm_of_plain (plain_one plain)]
    rfl
  chkRole name s plain := by
    simp only [mysqlBackend, mysqlAdm_of_plain (plain_one plain)]
    rfl
  addUser name password s plain plainPassword short shortPassword := by
    have fits : User.fits .mysql ⟨name, password⟩ = true := by
      simp [User.fits, Dbase.passwordWidth, short, shortPassword]
    simp only [mysqlBackend, mysqlInsert_of_plain (plain_two plain plainPassword)]
    exact run_admInsert_congr (schemaExec_insertUser .mysql fits)
  delUser name s plain := by
    simp only [mysqlBackend, mysqlDo_of_plain (plain_one plain)]
    exact congrArg (fun out => (Except.ok (), out.2)) (schemaExec_deleteUser_after .mysql name)
  aclAddUser user group s plainUser plainGroup hasUser hasGroup := by
    simp only [mysqlBackend, mysqlInsert_of_plain (plain_two plainUser plainGroup)]
    exact run_admInsert_congr (schemaExec_insertAclUser .mysql hasUser hasGroup)
  aclDelUser user group s plainUser plainGroup := by
    simp only [mysqlBackend, mysqlDo_of_plain (plain_two plainUser plainGroup)]
    rfl
  aclAddRole role s plain short := by
    simp only [mysqlBackend, mysqlInsert_of_plain (plain_one plain)]
    exact run_admInsert_congr (schemaExec_insertRole .mysql short)
  aclDelRole role s plain := by
    simp only [mysqlBackend, mysqlDo_of_plain (plain_one plain)]
    exact congrArg (fun out => (Except.ok (), out.2)) (schemaExec_deleteRole_after .mysql role)
  connectGroup role group s plainRole plainGroup hasRole hasGroup := by
    simp only [mysqlBackend, mysqlInsert_of_plain (plain_two plainRole plainGroup)]
    exact run_admInsert_congr (schemaExec_insertAclRole .mysql hasRole hasGroup)
  connectUser role user s plainRole plainUser hasRole hasUser := by
    simp only [mysqlBackend, mysqlInsert_of_plain (plain_two plainUser plainRole)]
    exact run_admInsert_congr (schemaExec_insertUser2Role .mysql hasUser hasRole)
  disconnectUser role user s plainRole plainUser := by
    simp only [mysqlBackend, mysqlDo_of_plain (plain_two plainRole plainUser)]
    rfl

section Postgres

variable {sqlCmd : String} {params : List Str} {op : Stmt}

theorem postgresInsert_of_required (required : requiredParams false sqlCmd.toList = params.length)
    (ok : op.Result → Bool)
    : postgresInsert sqlCmd params op ok = admInsert op ok := by
  unfold postgresInsert
  rw [pqExecParams_of_required required]
  rfl

theorem postgresDo_of_required (required : requiredParams false sqlCmd.toList = params.length)
    : postgresDo sqlCmd params op = admDo op := by
  unfold postgresDo
  rw [pqExecParams_of_required required]
  rfl

theorem postgresSrv_of_required (required : requiredParams false sqlCmd.toList = params.length)
    : postgresSrv sqlCmd params op = sql op := by
  funext session
  simp only [postgresSrv, pqExecParams_of_required required]
  rfl

end Postgres

/-- PostgreSQL's functions follow SQLite's: each of these statements requires as many
parameters as it is given, and the cascades delete what SQLite deletes itself. -/
theorem postgresBackend_follows (ext : Extern)
    : postgresBackend.Follows (execOn .postgres ext) ext (fun _ => True) where
  chkNewsgroup name s _ := by
    simp only [postgresBackend]
    rw [pqExecParams_of_required (by rw [String.toList_ofList]; rfl)]
    rfl
  chkUser name s _ := by
    simp only [postgresBackend]
    rw [pqExecParams_of_required (by rw [String.toList_ofList]; rfl)]
    rfl
  chkRole name s _ := by
    simp only [postgresBackend]
    rw [pqExecParams_of_required (by rw [String.toList_ofList]; rfl)]
    rfl
  addUser name password s _ _ short shortPassword := by
    have fits : User.fits .postgres ⟨name, password⟩ = true := by
      have wide : password.length ≤ 1024 := by omega
      simp [User.fits, Dbase.passwordWidth, short, wide]
    simp only [postgresBackend]
    rw [postgresInsert_of_required (by rw [String.toList_ofList]; rfl)]
    exact run_admInsert_congr (schemaExec_insertUser .postgres fits)
  delUser name s _ := by
    simp only [postgresBackend]
    rw [postgresDo_of_required (by rw [String.toList_ofList]; rfl)]
    exact congrArg (fun out => (Except.ok (), out.2)) (schemaExec_deleteUser .postgres name)
  aclAddUser user group s _ _ hasUser hasGroup := by
    simp only [postgresBackend]
    rw [postgresInsert_of_required (by rw [String.toList_ofList]; rfl)]
    exact run_admInsert_congr (schemaExec_insertAclUser .postgres hasUser hasGroup)
  aclDelUser user group s _ _ := by
    simp only [postgresBackend]
    rw [postgresDo_of_required (by rw [String.toList_ofList]; rfl)]
    rfl
  aclAddRole role s _ short := by
    simp only [postgresBackend]
    rw [postgresInsert_of_required (by rw [String.toList_ofList]; rfl)]
    exact run_admInsert_congr (schemaExec_insertRole .postgres short)
  aclDelRole role s _ := by
    simp only [postgresBackend]
    rw [postgresDo_of_required (by rw [String.toList_ofList]; rfl)]
    exact congrArg (fun out => (Except.ok (), out.2)) (schemaExec_deleteRole .postgres role)
  connectGroup role group s _ _ hasRole hasGroup := by
    simp only [postgresBackend]
    rw [postgresInsert_of_required (by rw [String.toList_ofList]; rfl)]
    exact run_admInsert_congr (schemaExec_insertAclRole .postgres hasRole hasGroup)
  connectUser role user s _ _ hasRole hasUser := by
    simp only [postgresBackend]
    rw [postgresInsert_of_required (by rw [String.toList_ofList]; rfl)]
    exact run_admInsert_congr (schemaExec_insertUser2Role .postgres hasUser hasRole)
  disconnectUser role user s _ _ := by
    simp only [postgresBackend]
    rw [postgresDo_of_required (by rw [String.toList_ofList]; rfl)]
    rfl

-----------------------------------------------------------------------------------------
-- One call
-----------------------------------------------------------------------------------------

section Call

variable {db : AdmBackend} {engine : Exec Sql Store} {ext : Extern} {ok : Str → Prop} {s : Store}

/-- Two programs end alike behind checks with the same answer. -/
theorem run_exitIfNotExists_congr {check check' : Adm Bool} {rest rest' : Adm Unit} {found : Bool}
    (first : check.run engine s = check'.run (exec ext) s)
    (answer : check'.run (exec ext) s = (.ok found, s))
    (behind : found = true → rest.run engine s = rest'.run (exec ext) s)
    : (exitIfNotExists check >>= fun _ => rest).run engine s
      = (exitIfNotExists check' >>= fun _ => rest').run (exec ext) s := by
  unfold exitIfNotExists
  simp only [Prog.run_bind, first, answer]
  cases found with
  | false => rfl
  | true => exact behind rfl

theorem run_exitIfExists_congr {check check' : Adm Bool} {rest rest' : Adm Unit} {found : Bool}
    (first : check.run engine s = check'.run (exec ext) s)
    (answer : check'.run (exec ext) s = (.ok found, s))
    (behind : rest.run engine s = rest'.run (exec ext) s)
    : (exitIfExists check >>= fun _ => rest).run engine s
      = (exitIfExists check' >>= fun _ => rest').run (exec ext) s := by
  unfold exitIfExists
  simp only [Prog.run_bind, first, answer]
  cases found with
  | false => exact behind
  | true => rfl

/-- A refusal that does not look at the store is the same on every engine. -/
theorem run_errExit_congr {c : Prop} [Decidable c] {rest rest' : Adm Unit}
    (behind : ¬c → rest.run engine s = rest'.run (exec ext) s)
    : (if c then errExit else rest).run engine s
      = (if c then errExit else rest').run (exec ext) s := by
  split
  · rfl
  · exact behind ‹_›

/-- Text of an alphabet without quote and backslash stands for itself. -/
theorem plain_of_all (alphabet : Char → Bool) {text : Str}
    (excludes : alphabet '\'' = false ∧ alphabet '\\' = false) (all : text.all alphabet = true)
    : SqlLiteral.plain text = true := by
  refine SqlLiteral.plain_of_forall (fun c member => ?_)
  have inside := List.all_eq_true.mp all c member
  constructor
  · rintro rfl
    exact absurd inside (by simp [excludes.1])
  · rintro rfl
    exact absurd inside (by simp [excludes.2])

variable (follows : db.Follows engine ext ok)
include follows

/-- Behind the check of a user, the user exists. -/
theorem checkUser_congr {user : Str} (fine : ok user) {rest rest' : Adm Unit}
    (behind : s.HasUser user → rest.run engine s = rest'.run (exec ext) s)
    : (exitIfNotExists (db.chkUserExistence user) >>= fun _ => rest).run engine s
      = (exitIfNotExists (setExistenceOfUser user) >>= fun _ => rest').run (exec ext) s :=
  run_exitIfNotExists_congr (follows.chkUser user s fine) rfl
    (fun found => behind ((hasUser_iff s).mp found))

/-- Behind the check of a role, the role exists. -/
theorem checkRole_congr {role : Str} (fine : ok role) {rest rest' : Adm Unit}
    (behind : role ∈ s.roles → rest.run engine s = rest'.run (exec ext) s)
    : (exitIfNotExists (db.chkRoleExistence role) >>= fun _ => rest).run engine s
      = (exitIfNotExists (setExistenceOfRole role) >>= fun _ => rest').run (exec ext) s :=
  run_exitIfNotExists_congr (follows.chkRole role s fine) rfl
    (fun found => behind ((hasRole_iff s).mp found))

/-- Behind the check of a newsgroup, the newsgroup exists. -/
theorem checkNewsgroup_congr {group : Str} (fine : ok group) {rest rest' : Adm Unit}
    (behind : s.HasGroup group → rest.run engine s = rest'.run (exec ext) s)
    : (exitIfNotExists (db.chkNewsgroupExistence group) >>= fun _ => rest).run engine s
      = (exitIfNotExists (setExistenceOfNewsgroup group) >>= fun _ => rest').run (exec ext) s :=
  run_exitIfNotExists_congr (follows.chkNewsgroup group s fine) rfl
    (fun found => behind ((hasGroup_iff s).mp found))

variable (plainOk : ∀ name, SqlLiteral.plain name = true → ok name) (digest : ext.HexDigest)
include plainOk digest

/-- `adduser` needs no condition on the name: it admits letters and digits only. -/
theorem admAdduserOn_run (hashSalt typed : Str) (args : List Str)
    (short : (argv args 2).length ≤ nameWidth)
    : (admAdduserOn db ext hashSalt typed args).run engine s
      = (admAdduser ext hashSalt typed args).run (exec ext) s := by
  unfold admAdduserOn admAdduser
  simp only
  generalize (if args.length ≥ 3 then argv args 3 else typed) = pass
  refine run_errExit_congr (fun alnum => ?_)
  refine run_errExit_congr (fun _ => run_errExit_congr (fun _ => run_errExit_congr (fun _ => ?_)))
  have fine : ok (argv args 2) := plainOk _ (plain_of_all isalnum (by decide) (by simpa using alnum))
  have hash := digest (hashSalt ++ argv args 2 ++ pass)
  refine run_exitIfExists_congr (follows.chkUser _ s fine) rfl ?_
  exact follows.addUser _ _ s fine (plainOk _ (plain_of_all _ (by decide) hash.2)) short hash.1.le

/-- A command does on a backend what it does on SQLite.
Witness: by the mode; each command is its checks, which answer alike, and then one function
of the backend, called where its checks allow it.
-/
theorem admDispatchOn_run (hashSalt typed : Str) (args : List Str) {mode : AdmMode}
    (access : mode.ofAccess = true)
    (short : ∀ name ∈ mode.names args, name.length ≤ nameWidth)
    (undisturbed : mode.Undisturbed s (argv args 2) (argv args 3))
    : (admDispatchOn db ext hashSalt typed args mode).run engine s
      = (admDispatch ext hashSalt typed args mode).run (exec ext) s := by
  cases mode with
  | ngcreate => cases access
  | ngdelete => cases access
  | ngmodify => cases access
  | nglist => cases access
  | listuser => rfl
  | listacl => rfl
  | adduser =>
      exact admAdduserOn_run follows plainOk digest hashSalt typed args
        (short _ (List.mem_singleton_self _))
  | deluser =>
      have fine := plainOk _ undisturbed
      exact checkUser_congr follows fine (fun _ => follows.delUser _ s fine)
  | addaclrole =>
      have fine := plainOk _ undisturbed
      exact run_exitIfExists_congr (follows.chkRole _ s fine) rfl
        (follows.aclAddRole _ s fine (short _ (List.mem_singleton_self _)))
  | delaclrole =>
      have fine := plainOk _ undisturbed
      exact checkRole_congr follows fine (fun _ => follows.aclDelRole _ s fine)
  | addacluser =>
      have fineUser := plainOk _ undisturbed.1
      refine checkUser_congr follows fineUser (fun hasUser => ?_)
      have fineGroup := plainOk _ (undisturbed.2 hasUser)
      exact checkNewsgroup_congr follows fineGroup
        (fun hasGroup => follows.aclAddUser _ _ s fineUser fineGroup hasUser hasGroup)
  | delacluser =>
      have fineUser := plainOk _ undisturbed.1
      refine checkUser_congr follows fineUser (fun hasUser => ?_)
      have fineGroup := plainOk _ (undisturbed.2 hasUser)
      exact checkNewsgroup_congr follows fineGroup
        (fun _ => follows.aclDelUser _ _ s fineUser fineGroup)
  | rolegroupc =>
      have fineRole := plainOk _ undisturbed.1
      refine checkRole_congr follows fineRole (fun hasRole => ?_)
      have fineGroup := plainOk _ (undisturbed.2 hasRole)
      exact checkNewsgroup_congr follows fineGroup
        (fun hasGroup => follows.connectGroup _ _ s fineRole fineGroup hasRole hasGroup)
  | rolegroupuc =>
      have fineRole := plainOk _ undisturbed.1
      refine checkRole_congr follows fineRole (fun hasRole => ?_)
      obtain ⟨plainGroup, noGroup⟩ := undisturbed.2 hasRole
      exact checkNewsgroup_congr follows (plainOk _ plainGroup)
        (fun hasGroup => absurd hasGroup noGroup)
  | roleuserc =>
      have fineRole := plainOk _ undisturbed.1
      refine checkRole_congr follows fineRole (fun hasRole => ?_)
      have fineUser := plainOk _ (undisturbed.2 hasRole)
      exact checkUser_congr follows fineUser
        (fun hasUser => follows.connectUser _ _ s fineRole fineUser hasRole hasUser)
  | roleuseruc =>
      have fineRole := plainOk _ undisturbed.1
      refine checkRole_congr follows fineRole (fun hasRole => ?_)
      have fineUser := plainOk _ (undisturbed.2 hasRole)
      exact checkUser_congr follows fineUser
        (fun _ => follows.disconnectUser _ _ s fineRole fineUser)

end Call

-----------------------------------------------------------------------------------------
-- The access check
-----------------------------------------------------------------------------------------

/-- The queries of the access check. -/
def Stmt.isAclQuery : Stmt → Prop
  | .selectAclUsers _ _ | .selectAclRoles _ _ => True
  | _ => False

theorem execOn_aclQuery (dbase : Dbase) (ext : Extern) (op : Stmt) (s : Store)
    (query : op.isAclQuery)
    : execOn dbase ext op s = exec ext op s := by
  cases dbase with
  | sqlite3 => rfl
  | mysql => cases op <;> first | rfl | cases query
  | postgres => cases op <;> first | rfl | cases query

theorem dbAclCheckUserGroup_uses (user newsgroup : Str)
    : HandlerUses Stmt.isAclQuery (dbAclCheckUserGroup user newsgroup) := by
  intro session
  refine ⟨trivial, fun (direct : List AclUser) => ?_⟩
  cases direct with
  | nil => exact ⟨trivial, fun _ => trivial⟩
  | cons _ _ => trivial

/-- The check of a backend is that of SQLite, for names that stand for themselves. -/
theorem dbAclCheckUserGroupOn_eq (server : MysqlServer) (dbase : Dbase) {user newsgroup : Str}
    (plainUser : SqlLiteral.plain user = true) (plainGroup : SqlLiteral.plain newsgroup = true)
    : dbAclCheckUserGroupOn server dbase user newsgroup = dbAclCheckUserGroup user newsgroup := by
  cases dbase with
  | sqlite3 => rfl
  | mysql =>
      unfold dbAclCheckUserGroupOn dbMysqlAclCheckUserGroup
      simp only [mysqlSrv_of_plain (plain_two plainUser plainGroup)]
      rfl
  | postgres =>
      unfold dbAclCheckUserGroupOn dbPostgresAclCheckUserGroup
      simp only
      rw [postgresSrv_of_required (by rw [String.toList_ofList]; rfl),
        postgresSrv_of_required (by
          rw [String.toList_append, String.toList_ofList, String.toList_ofList]
          show requiredParams false _ = 2
          decide +kernel)]
      rfl

/-- On every backend the access check answers whether the tables allow the access. -/
theorem dbAclCheckUserGroupOn_run (server : MysqlServer) (dbase : Dbase) (ext : Extern) (s : Store)
    (session : Session) {user newsgroup : Str}
    (plainUser : SqlLiteral.plain user = true) (plainGroup : SqlLiteral.plain newsgroup = true)
    : ((dbAclCheckUserGroupOn server dbase user newsgroup).run session).run (execOn dbase ext) s
      = (.ok (s.aclAllows user newsgroup, session), s) := by
  rw [dbAclCheckUserGroupOn_eq server dbase plainUser plainGroup,
    Prog.Uses.run_congr (execOn_aclQuery dbase ext) (dbAclCheckUserGroup_uses user newsgroup session) s]
  exact dbAclCheckUserGroup_run ext s session user newsgroup

-----------------------------------------------------------------------------------------
-- Sequences of calls
-----------------------------------------------------------------------------------------

section Calls

variable (server : MysqlServer) (ext : Extern) (hashSalt : Str)

theorem admCallOn_sqlite3 (s : Store) (call : AdmCall)
    : (admCallOn server .sqlite3 ext hashSalt s call).2 = admCall ext hashSalt s call := by
  simp only [admCallOn, admBackend, admMainOn_sqlite3]
  rfl

variable {ext} (digest : ext.HexDigest) {s : Store}
include digest

/-- One undisturbed command is accepted on every backend or on none, with the same store
behind it. -/
theorem admCallOn_eq {call : AdmCall} {mode : AdmMode} (dbase : Dbase)
    (command : call.OfAccess mode) (undisturbed : call.Undisturbed s)
    : admCallOn server dbase ext hashSalt s call
      = admCallOn server .sqlite3 ext hashSalt s call := by
  have main (db : AdmBackend) (engine : Exec Sql Store) (ok : Str → Prop)
      (follows : db.Follows engine ext ok)
      (plainOk : ∀ name, SqlLiteral.plain name = true → ok name)
      : (admMainOn db ext hashSalt call.typed call.args).run engine s
        = (admMainOn sqlite3Backend ext hashSalt call.typed call.args).run (exec ext) s := by
    rw [admMainOn_sqlite3]
    unfold admMainOn admMain
    cases accepted : admAccepts call.args with
    | none => rfl
    | some found =>
        cases (admAccepts_eq_admMode accepted).symm.trans command.command
        exact admDispatchOn_run follows plainOk digest hashSalt call.typed call.args
          command.access command.short (undisturbed _ accepted)
  cases dbase with
  | sqlite3 => rfl
  | mysql =>
      have same := main _ _ _ (mysqlBackend_follows server ext) (fun _ plain => plain)
      unfold admCallOn
      exact congrArg (fun out => (out.1.isOk, out.2)) same
  | postgres =>
      have same := main _ _ _ (postgresBackend_follows ext) (fun _ _ => trivial)
      unfold admCallOn
      exact congrArg (fun out => (out.1.isOk, out.2)) same

/-- Induction on the sequence: each call starts on equal stores. -/
theorem admCallsOn_eq {calls : List AdmCall} (dbase : Dbase)
    (commands : ∀ call ∈ calls, ∃ mode, call.OfAccess mode)
    (undisturbed : AllUndisturbed ext hashSalt s calls)
    : admCallsOn server dbase ext hashSalt s calls
      = admCallsOn server .sqlite3 ext hashSalt s calls := by
  induction calls generalizing s with
  | nil => rfl
  | cons call calls ih =>
      obtain ⟨mode, command⟩ := commands call (by simp)
      have first := admCallOn_eq server hashSalt digest dbase command undisturbed.1
      have rest := ih (fun other member => commands other (List.mem_cons_of_mem call member))
        undisturbed.2
      rw [← admCallOn_sqlite3 server] at rest
      simp only [admCallsOn, first, rest]

end Calls

/-- The backends accept the same user, role and access commands, end with the same tables and
answer the access check alike, in every sequence of commands whose names stand for themselves
in a statement and that disconnects no existing role from an existing newsgroup.
Witness: call by call the stores stay equal, and the check reads nothing but the store.
-/
theorem backends_agree (server : MysqlServer) (ext : Extern) (digest : ext.HexDigest)
    (hashSalt : Str) (s : Store) (calls : List AdmCall)
    (commands : ∀ call ∈ calls, ∃ mode, call.OfAccess mode)
    (undisturbed : AllUndisturbed ext hashSalt s calls) (dbase : Dbase)
    : admCallsOn server dbase ext hashSalt s calls
        = admCallsOn server .sqlite3 ext hashSalt s calls
      ∧ ∀ user newsgroup session, SqlLiteral.plain user = true →
          SqlLiteral.plain newsgroup = true →
          ((dbAclCheckUserGroupOn server dbase user newsgroup).run session).run
              (execOn dbase ext) (admCallsOn server dbase ext hashSalt s calls).2
            = ((dbAclCheckUserGroupOn server .sqlite3 user newsgroup).run session).run
              (execOn .sqlite3 ext) (admCallsOn server .sqlite3 ext hashSalt s calls).2 := by
  have same := admCallsOn_eq server hashSalt digest dbase commands undisturbed
  refine ⟨same, fun user newsgroup session plainUser plainGroup => ?_⟩
  rw [same, dbAclCheckUserGroupOn_run server dbase ext _ session plainUser plainGroup,
    dbAclCheckUserGroupOn_run server .sqlite3 ext _ session plainUser plainGroup]

/-- A MySQL server that refuses every statement it cannot read as intended. -/
def refusingServer : MysqlServer where
  misread _ error _ := .stop error

/-- A library in which the one password of the example has its real digest. -/
def digestExtern : Extern where
  sha256hex := fun text =>
    if text = "saltalicesecret-word".toList then
      "e1ec5284ea0c09836fefbdb4610984d52d21f3268e784d250fa82fff719cf707".toList
    else List.replicate 64 '0'
  regexContains := fun pattern text => pattern == text
  localtimeToStr := fun _ => "Thu, 01 Jan 1970 00:00:00".toList
  postnumEq := fun postnum text => dec postnum == text

theorem digestExtern_hexDigest : digestExtern.HexDigest := by
  intro text
  simp only [digestExtern]
  split
  · rw [String.toList_ofList]
    decide +kernel
  · decide +kernel

/-- One newsgroup, and nobody with rights. -/
def oneGroupStore : Store :=
  { Store.empty with newsgroups := [⟨"a.b".toList, 'y', 0⟩] }

def admWords (words : List String) : AdmCall := ⟨words.map String.toList, []⟩

/-- A user gets access through a role; the last command names a missing newsgroup. -/
def grantingCalls : List AdmCall :=
  [admWords ["adduser", "alice", "secret-word"], admWords ["addaclrole", "staff"],
    admWords ["roleuserconnect", "staff", "alice"], admWords ["rolegroupconnect", "staff", "a.b"],
    admWords ["rolegroupdisconnect", "staff", "c.d"]]

theorem backends_agree_granting
    : admCallsOn refusingServer .postgres digestExtern "salt".toList oneGroupStore grantingCalls
        = admCallsOn refusingServer .sqlite3 digestExtern "salt".toList oneGroupStore grantingCalls
      ∧ (admCallsOn refusingServer .postgres digestExtern "salt".toList oneGroupStore
          grantingCalls).1 = [true, true, true, true, false] := by
  -- The kernel decodes a long literal slowly, so the literals become lists first.
  have undisturbed : AllUndisturbed digestExtern "salt".toList oneGroupStore grantingCalls := by
    unfold digestExtern
    iterate 4 rw [String.toList_ofList]
    decide +kernel
  have same := (backends_agree refusingServer digestExtern digestExtern_hexDigest "salt".toList
    oneGroupStore grantingCalls (fun call member => ?_) undisturbed .postgres).1
  · refine ⟨same, ?_⟩
    rw [same]
    unfold digestExtern
    iterate 4 rw [String.toList_ofList]
    decide +kernel
  simp only [grantingCalls, List.mem_cons, List.not_mem_nil, or_false] at member
  rcases member with rfl | rfl | rfl | rfl | rfl
  · exact ⟨.adduser, by decide, by decide, by decide +kernel⟩
  · exact ⟨.addaclrole, by decide, by decide, by decide +kernel⟩
  · exact ⟨.roleuserc, by decide, by decide, by decide +kernel⟩
  · exact ⟨.rolegroupc, by decide, by decide, by decide +kernel⟩
  · exact ⟨.rolegroupuc, by decide, by decide, by decide +kernel⟩

/-- A role with access to a newsgroup, and a user in the role. -/
def roleStore : Store :=
  { oneGroupStore with
    users := [⟨"alice".toList, []⟩]
    roles := ["staff".toList]
    users2roles := [⟨"alice".toList, "staff".toList⟩]
    aclRoles := [⟨"staff".toList, "a.b".toList⟩] }

def disconnectCall : AdmCall := admWords ["rolegroupdisconnect", "staff", "a.b"]

/-- PostgreSQL refuses to disconnect a role from a newsgroup and the access remains, where
the other backends accept the command and withdraw the access. -/
theorem rolegroupdisconnect_differs
    : disconnectCall.OfAccess .rolegroupuc
      ∧ (Dbase.sqlite3 :: Dbase.mysql :: Dbase.postgres :: []).map
          (fun dbase =>
            let out := admCallsOn refusingServer dbase digestExtern [] roleStore [disconnectCall]
            (out.1, out.2.aclRoles, out.2.aclAllows "alice".toList "a.b".toList))
        = [([true], [], false), ([true], [], false),
            ([false], [⟨"staff".toList, "a.b".toList⟩], true)] := by
  refine ⟨⟨by decide, by decide, by decide +kernel⟩, ?_⟩
  unfold digestExtern
  iterate 4 rw [String.toList_ofList]
  decide +kernel

end WendzelNNTPd
