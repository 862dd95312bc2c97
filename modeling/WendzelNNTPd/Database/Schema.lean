import WendzelNNTPd.Database.Store
import WendzelNNTPd.Database.Escaping
import WendzelNNTPd.Lib.SqlLiteral

/-! The engines behind the three backends. The schemas of MySQL and PostgreSQL
(`mysql_db_struct.sql`, `postgres_db_struct.sql`) bound the widths of texts and declare foreign
keys with `ON DELETE CASCADE`; the schema of SQLite does neither. How a statement reaches its
engine differs as well: MySQL gets a text with the names in it, PostgreSQL a text with
placeholders and the names apart.
-/

namespace WendzelNNTPd

open CString Atomic

-----------------------------------------------------------------------------------------
-- Constraints of the schemas
-----------------------------------------------------------------------------------------

/-- The width of the columns for user and role names. -/
def nameWidth : Nat := 50

/-- The width of the columns for newsgroups, message ids and authors. -/
def ngWidth : Nat := 196

/-- The width of the column `password`; SQLite has none. -/
def Dbase.passwordWidth : Dbase → Nat
  | .mysql => 64
  | _ => 1024

/-- The width of the column `header`: `TEXT` and `VARCHAR(20000)`. -/
def Dbase.headerWidth : Dbase → Nat
  | .mysql => 65535
  | _ => 20000

section Constraints

variable (dbase : Dbase) (s : Store)

/-- A row of `users` fits its columns. -/
def User.fits (row : User) : Bool :=
  row.name.length ≤ nameWidth && row.password.length ≤ dbase.passwordWidth

/-- A row of `postings` fits its columns. -/
def Posting.fits (row : Posting) : Bool :=
  row.msgid.length ≤ ngWidth && row.author.length ≤ ngWidth && row.newsgroups.length ≤ 2048
  && row.subject.length ≤ 2048 && (decInt row.lines).length ≤ 10
  && row.header.length ≤ dbase.headerWidth

/-- A foreign key to `users (name)`. -/
def Store.refersUser (name : Str) : Bool := s.users.any (·.name == name)

/-- A foreign key to `roles (role)`. -/
def Store.refersRole (role : Str) : Bool := s.roles.contains role

/-- A foreign key to `newsgroups (name)`. -/
def Store.refersGroup (name : Str) : Bool := s.newsgroups.any (·.name == name)

/-- A foreign key to `postings (msgid)`. -/
def Store.refersPosting (msgid : Str) : Bool := s.postings.any (·.msgid == msgid)

end Constraints

/-- An insert that its table's constraints refuse changes nothing. -/
def constrained (met : Bool) (s : Store) (inserted : Bool × Store) : Bool × Store :=
  if met then inserted else (false, s)

/-- The effect of one statement under the schema of MySQL or PostgreSQL. -/
def schemaExec (dbase : Dbase) (ext : Extern) : Exec Sql Store
  | .insertUser row, s => constrained (row.fits dbase) s (exec ext (.insertUser row) s)
  | .insertRole role, s =>
      constrained (role.length ≤ nameWidth) s (exec ext (.insertRole role) s)
  | .insertUser2Role row, s =>
      constrained (s.refersUser row.username && s.refersRole row.role) s
        (exec ext (.insertUser2Role row) s)
  | .insertAclUser row, s =>
      constrained (s.refersUser row.username && s.refersGroup row.ng) s
        (exec ext (.insertAclUser row) s)
  | .insertAclRole row, s =>
      constrained (s.refersRole row.role && s.refersGroup row.ng) s
        (exec ext (.insertAclRole row) s)
  | .insertNewsgroup row, s =>
      -- only PostgreSQL declares the name to be unique
      constrained
        (row.name.length ≤ ngWidth && !(dbase == .postgres && s.refersGroup row.name)) s
        (exec ext (.insertNewsgroup row) s)
  | .insertPosting row, s => constrained (row.fits dbase) s (exec ext (.insertPosting row) s)
  | .insertNgpost row, s =>
      constrained (s.refersPosting row.msgid && s.refersGroup row.ng) s
        (exec ext (.insertNgpost row) s)
  | .deleteUser name, s =>
      exec ext (.deleteUser name)
        { s with
          users2roles := s.users2roles.filter (·.username != name)
          aclUsers := s.aclUsers.filter (·.username != name) }
  | .deleteRole role, s =>
      exec ext (.deleteRole role)
        { s with
          users2roles := s.users2roles.filter (·.role != role)
          aclRoles := s.aclRoles.filter (·.role != role) }
  | .deleteNewsgroup name, s =>
      exec ext (.deleteNewsgroup name)
        { s with
          ngposts := s.ngposts.filter (·.ng != name)
          aclUsers := s.aclUsers.filter (·.ng != name)
          aclRoles := s.aclRoles.filter (·.ng != name) }
  | op, s => exec ext op s

/-- The effect of one statement on a backend. -/
def execOn (dbase : Dbase) (ext : Extern) : Exec Sql Store :=
  match dbase with
  | .sqlite3 => exec ext
  | _ => schemaExec dbase ext

-----------------------------------------------------------------------------------------
-- Statements as texts
-----------------------------------------------------------------------------------------

/-- What the MySQL server makes of a statement in whose text a name does not stand for
itself, because it contains a quote or a backslash; `error` is what its refusal leads to. -/
structure MysqlServer where
  misread (ε : Type) (error : ε) (op : Stmt) : Prog Sql ε op.Result

section Statements

variable {ε : Type}

/-- `mysql_real_query` of a statement into which names were put with `'%s'`. -/
def mysqlRealQuery (server : MysqlServer) (error : ε) (names : List Str) (op : Stmt)
    : Prog Sql ε op.Result :=
  if names.all SqlLiteral.plain then .act op .done else server.misread ε error op

/-- The number of parameters a statement of PostgreSQL requires: the largest `$n` outside of
its string literals. -/
def requiredParams (quoted : Bool) : Str → Nat
  | [] => 0
  | c :: cs =>
      if c = '\'' then requiredParams (!quoted) cs
      else if c = '$' ∧ quoted = false then max (digitsValue cs) (requiredParams quoted cs)
      else requiredParams quoted cs

/-- `PQexecParams`: the server refuses a statement that is given more or fewer parameters
than it requires. -/
def pqExecParams (error : ε) (sqlCmd : String) (params : List Str) (op : Stmt)
    : Prog Sql ε op.Result :=
  if requiredParams false sqlCmd.toList = params.length then .act op .done else .stop error

theorem mysqlRealQuery_of_plain {server : MysqlServer} {error : ε} {names : List Str} {op : Stmt}
    (plain : ∀ name ∈ names, SqlLiteral.plain name = true)
    : mysqlRealQuery server error names op = .act op .done :=
  if_pos (List.all_eq_true.mpr plain)

theorem pqExecParams_of_required {error : ε} {sqlCmd : String} {params : List Str} {op : Stmt}
    (required : requiredParams false sqlCmd.toList = params.length)
    : pqExecParams error sqlCmd params op = .act op .done :=
  if_pos required

end Statements

end WendzelNNTPd
