import WendzelNNTPd.Lib.Prog
import WendzelNNTPd.Lib.CString
import Mathlib.Data.List.Sort

/-! The store shared by all connections and the admin tool: the SQLite tables of
`usenet.db_struct`, the message-id counter file and the spool directory with the bodies.
Each SQL statement and each file operation is one atomic action on it.
-/

namespace WendzelNNTPd

open CString Atomic

-----------------------------------------------------------------------------------------
-- Rows and tables
-----------------------------------------------------------------------------------------

/-- `newsgroups (id, name, pflag, high)`; no statement uses the column `id`. -/
structure Newsgroup where
  name : Str
  pflag : Char
  high : Nat
  deriving DecidableEq, Repr

/-- `ngposts (msgid, ng, postnum, PRIMARY KEY(msgid, ng))` -/
structure Ngpost where
  msgid : Str
  ng : Str
  postnum : Nat
  deriving DecidableEq, Repr

/-- `postings (msgid PRIMARY KEY, date, author, newsgroups, subject, lines, header)` -/
structure Posting where
  msgid : Str
  date : Int
  author : Str
  newsgroups : Str
  subject : Str
  lines : Int
  header : Str
  deriving DecidableEq, Repr

/-- `users (name PRIMARY KEY, password)` -/
structure User where
  name : Str
  password : Str
  deriving DecidableEq, Repr

/-- `users2roles (username, role, PRIMARY KEY(username, role))` -/
structure User2Role where
  username : Str
  role : Str
  deriving DecidableEq, Repr

/-- `acl_users (username, ng, PRIMARY KEY(username, ng))` -/
structure AclUser where
  username : Str
  ng : Str
  deriving DecidableEq, Repr

/-- `acl_roles (role, ng, PRIMARY KEY(role, ng))` -/
structure AclRole where
  role : Str
  ng : Str
  deriving DecidableEq, Repr

structure Store where
  newsgroups : List Newsgroup
  ngposts : List Ngpost
  postings : List Posting
  users : List User
  roles : List Str
  users2roles : List User2Role
  aclUsers : List AclUser
  aclRoles : List AclRole
  /-- `MSGID_FILE`: absent, or present with the counter it holds (empty after creation). -/
  msgidFile : Option (Option Nat)
  /-- The body files in `SPOOLFOLDER` by name. -/
  spool : Str → Option Str
  /-- Whether `fopen` can create `MSGID_FILE` and open it for writing. -/
  msgidWritable : Bool
  /-- Whether `fopen` can create files in `SPOOLFOLDER`. -/
  spoolWritable : Bool

/-- The freshly installed store: empty tables, no files. -/
def Store.empty : Store where
  newsgroups := []
  ngposts := []
  postings := []
  users := []
  roles := []
  users2roles := []
  aclUsers := []
  aclRoles := []
  msgidFile := none
  spool := fun _ => none
  msgidWritable := true
  spoolWritable := true

/-- Code outside the repository that the server calls. -/
structure Extern where
  /-- The hexadecimal SHA-256 digest computed with `mhash`. -/
  sha256hex : Str → Str
  /-- `regcomp` and `regexec` of a pattern sent by the client: does the text contain it? -/
  regexContains : Str → Str → Bool
  /-- `strftime` of `localtime`, as `nntp_localtime_to_str` formats it. -/
  localtimeToStr : Int → Str
  /-- SQLite's comparison of an integer column with a string literal. -/
  postnumEq : Nat → Str → Bool

-----------------------------------------------------------------------------------------
-- Statements
-----------------------------------------------------------------------------------------

/-- The SQL statements and file operations. An optional argument of a delete statement is
a column that its `where` clause may leave out. -/
inductive Stmt
  -- queries
  | selectUsers (name password : Str)
  | selectUser (name : Str)
  | selectRole (role : Str)
  | selectNewsgroups
  | selectNewsgroup (name : Str)
  | selectPostable (name : Str)
  | selectAclUsers (username ng : Str)
  | selectAclRoles (username ng : Str)
  | selectNgpostsMsgid (ng msgid : Str)
  | selectNgpostsPostnum (ng postnum : Str)
  | selectFirstPostnum (ng : Str)
  | selectPostnums (ng : Str)
  | selectOverview (ng : Str) (min max : Int)
  | selectOverviewMsgid (ng msgid : Str)
  | selectHeader (msgid : Str)
  -- statements of POST
  | insertPosting (row : Posting)
  | insertNgpost (row : Ngpost)
  | updateHigh (name : Str) (high : Nat)
  -- statements of the admin tool
  | insertNewsgroup (row : Newsgroup)
  | updatePflag (name : Str) (pflag : Char)
  | deleteNgposts (ng : Str)
  | deleteNewsgroup (name : Str)
  | deleteOrphanPostings
  | insertUser (row : User)
  | deleteUser (name : Str)
  | insertRole (role : Str)
  | deleteRole (role : Str)
  | insertAclUser (row : AclUser)
  | deleteAclUsers (username ng : Option Str)
  | insertUser2Role (row : User2Role)
  | deleteUsers2Roles (username role : Option Str)
  | insertAclRole (row : AclRole)
  | deleteAclRoles (role ng : Option Str)
  -- files
  | msgidOpen
  | msgidCreate
  | msgidRead
  | msgidWrite (id : Nat)
  | bodyUnlink (filename : Str)
  | bodyWrite (filename body : Str)
  | bodyRead (filename : Str)
  deriving DecidableEq

/-- What a statement hands back: the rows of a query, whether an insert met its primary
key, whether a file could be opened, what was read. -/
@[reducible]
def Stmt.Result : Stmt → Type
  | .selectUsers _ _ | .selectUser _ => List User
  | .selectRole _ => List Str
  | .selectNewsgroups | .selectNewsgroup _ | .selectPostable _ => List Newsgroup
  | .selectAclUsers _ _ => List AclUser
  | .selectAclRoles _ _ => List (User2Role × AclRole)
  | .selectNgpostsMsgid _ _ | .selectNgpostsPostnum _ _ | .selectPostnums _ => List Ngpost
  | .selectFirstPostnum _ => List Ngpost
  | .selectOverview _ _ _ | .selectOverviewMsgid _ _ => List (Ngpost × Posting)
  | .selectHeader _ => List Str
  | .insertPosting _ | .insertNgpost _ | .insertNewsgroup _ | .insertUser _
  | .insertRole _ | .insertAclUser _ | .insertUser2Role _ | .insertAclRole _ => Bool
  | .updateHigh _ _ | .updatePflag _ _ | .deleteNgposts _ | .deleteNewsgroup _
  | .deleteOrphanPostings | .deleteUser _ | .deleteRole _ | .deleteAclUsers _ _
  | .deleteUsers2Roles _ _ | .deleteAclRoles _ _ => Unit
  | .msgidOpen | .msgidCreate => Bool
  | .msgidRead => Option Nat
  | .msgidWrite _ | .bodyUnlink _ => Unit
  | .bodyWrite _ _ => Bool
  | .bodyRead _ => Option Str

/-- The signature of the store's actions. -/
abbrev Sql : Signature := ⟨Stmt, Stmt.Result⟩

/-- `column = 'value'`, or no condition on the column. -/
def whereEq (value : Option Str) (column : Str) : Bool :=
  match value with
  | some v => column == v
  | none => true

/-- Append a row unless another row has the same primary key. -/
def insertRow {α κ : Type} [DecidableEq κ] (key : α → κ) (row : α) (table : List α)
    : Bool × List α :=
  if table.any (fun other => key other = key row) then (false, table)
  else (true, table ++ [row])

namespace Store

/-- The rows of one newsgroup. -/
def ngRows (s : Store) (ng : Str) : List Ngpost := s.ngposts.filter (·.ng == ng)

/-- `ngposts n, postings p where n.msgid = p.msgid`, for the chosen rows of `ngposts`. -/
def joinPostings (s : Store) (rows : List Ngpost) : List (Ngpost × Posting) :=
  rows.flatMap (fun n => (s.postings.filter (·.msgid == n.msgid)).map (fun p => (n, p)))

/-- `select min(postnum) from ngposts where ng = ..` -/
def minPostnum (s : Store) (ng : Str) : Option Nat := ((s.ngRows ng).map (·.postnum)).min?

end Store

/-- The effect of one statement or file operation. -/
def exec (ext : Extern) : Exec Sql Store
  | .selectUsers name password, s =>
      (s.users.filter (fun u => u.name == name && u.password == password), s)
  | .selectUser name, s => (s.users.filter (·.name == name), s)
  | .selectRole role, s => (s.roles.filter (· == role), s)
  | .selectNewsgroups, s => (s.newsgroups, s)
  | .selectNewsgroup name, s => (s.newsgroups.filter (·.name == name), s)
  | .selectPostable name, s =>
      (s.newsgroups.filter (fun g => g.name == name && g.pflag == 'y'), s)
  | .selectAclUsers username ng, s =>
      (s.aclUsers.filter (fun a => a.username == username && a.ng == ng), s)
  | .selectAclRoles username ng, s =>
      ((s.users2roles.flatMap (fun ur => s.aclRoles.map (fun ar => (ur, ar)))).filter
        (fun (ur, ar) => ur.username == username && ur.role == ar.role && ar.ng == ng), s)
  | .selectNgpostsMsgid ng msgid, s => ((s.ngRows ng).filter (·.msgid == msgid), s)
  | .selectNgpostsPostnum ng postnum, s =>
      ((s.ngRows ng).filter (fun n => ext.postnumEq n.postnum postnum), s)
  | .selectFirstPostnum ng, s =>
      (s.ngposts.filter (fun n => s.minPostnum ng == some n.postnum), s)
  | .selectPostnums ng, s =>
      ((s.ngRows ng).insertionSort (fun a b => a.postnum ≤ b.postnum), s)
  | .selectOverview ng min max, s =>
      (s.joinPostings
        ((s.ngRows ng).filter (fun n => decide (min ≤ n.postnum ∧ (n.postnum : Int) ≤ max))), s)
  | .selectOverviewMsgid ng msgid, s =>
      (s.joinPostings ((s.ngRows ng).filter (·.msgid == msgid)), s)
  | .selectHeader msgid, s => ((s.postings.filter (·.msgid == msgid)).map (·.header), s)
  | .insertPosting row, s =>
      let (ok, rows) := insertRow (·.msgid) row s.postings
      (ok, { s with postings := rows })
  | .insertNgpost row, s =>
      let (ok, rows) := insertRow (fun n => (n.msgid, n.ng)) row s.ngposts
      (ok, { s with ngposts := rows })
  | .updateHigh name high, s =>
      ((), { s with
        newsgroups := s.newsgroups.map
          (fun g => if g.name == name then { g with high := high } else g) })
  | .insertNewsgroup row, s => (true, { s with newsgroups := s.newsgroups ++ [row] })
  | .updatePflag name pflag, s =>
      ((), { s with
        newsgroups := s.newsgroups.map
          (fun g => if g.name == name then { g with pflag := pflag } else g) })
  | .deleteNgposts ng, s => ((), { s with ngposts := s.ngposts.filter (·.ng != ng) })
  | .deleteNewsgroup name, s =>
      ((), { s with newsgroups := s.newsgroups.filter (·.name != name) })
  | .deleteOrphanPostings, s =>
      ((), { s with
        postings := s.postings.filter (fun p => s.ngposts.any (·.msgid == p.msgid)) })
  | .insertUser row, s =>
      let (ok, rows) := insertRow (·.name) row s.users
      (ok, { s with users := rows })
  | .deleteUser name, s => ((), { s with users := s.users.filter (·.name != name) })
  | .insertRole role, s =>
      let (ok, rows) := insertRow id role s.roles
      (ok, { s with roles := rows })
  | .deleteRole role, s => ((), { s with roles := s.roles.filter (· != role) })
  | .insertAclUser row, s =>
      let (ok, rows) := insertRow id row s.aclUsers
      (ok, { s with aclUsers := rows })
  | .deleteAclUsers username ng, s =>
      ((), { s with
        aclUsers := s.aclUsers.filter
          (fun a => !(whereEq username a.username && whereEq ng a.ng)) })
  | .insertUser2Role row, s =>
      let (ok, rows) := insertRow id row s.users2roles
      (ok, { s with users2roles := rows })
  | .deleteUsers2Roles username role, s =>
      ((), { s with
        users2roles := s.users2roles.filter
          (fun a => !(whereEq username a.username && whereEq role a.role)) })
  | .insertAclRole row, s =>
      let (ok, rows) := insertRow id row s.aclRoles
      (ok, { s with aclRoles := rows })
  | .deleteAclRoles role ng, s =>
      ((), { s with
        aclRoles := s.aclRoles.filter
          (fun a => !(whereEq role a.role && whereEq ng a.ng)) })
  | .msgidOpen, s => (s.msgidFile.isSome && s.msgidWritable, s)
  | .msgidCreate, s =>
      if s.msgidWritable then (true, { s with msgidFile := some none }) else (false, s)
  | .msgidRead, s => (s.msgidFile.join, s)
  | .msgidWrite id, s => ((), { s with msgidFile := some (some id) })
  | .bodyUnlink filename, s =>
      ((), { s with spool := Function.update s.spool filename none })
  | .bodyWrite filename body, s =>
      if s.spoolWritable then
        (true, { s with spool := Function.update s.spool filename (some body) })
      else (false, s)
  | .bodyRead filename, s => (s.spool filename, s)

section Existence

def Store.HasUser (s : Store) (user : Str) : Prop := ∃ u ∈ s.users, u.name = user

def Store.HasGroup (s : Store) (group : Str) : Prop := ∃ g ∈ s.newsgroups, g.name = group

variable (s : Store)

/-- A query that returns a row has found one. -/
theorem not_isEmpty_filter {α : Type} {p : α → Bool} {l : List α}
    : (!(l.filter p).isEmpty) = true ↔ ∃ x ∈ l, p x := by
  simp

theorem hasGroup_iff {group : Str}
    : (!(s.newsgroups.filter (·.name == group)).isEmpty) = true ↔ s.HasGroup group := by
  simp only [not_isEmpty_filter, beq_iff_eq, Store.HasGroup]

theorem hasUser_iff {user : Str}
    : (!(s.users.filter (·.name == user)).isEmpty) = true ↔ s.HasUser user := by
  simp only [not_isEmpty_filter, beq_iff_eq, Store.HasUser]

theorem hasRole_iff {role : Str}
    : (!(s.roles.filter (· == role)).isEmpty) = true ↔ role ∈ s.roles := by
  simp

end Existence

end WendzelNNTPd
