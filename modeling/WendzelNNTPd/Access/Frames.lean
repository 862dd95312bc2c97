import WendzelNNTPd.Lib.Handler
import WendzelNNTPd.Server.DoCommand

/-! What the reading commands and POST leave alone: the part of the session that decides
about access. Along the way, the rows they put into a reply are rows of the selected
newsgroup.
-/

namespace WendzelNNTPd

open CString Atomic

/-- The part of a session that decides what its client may do. -/
structure AccessState where
  authIsThere : Bool
  curAuthUser : Option Str
  selectedGroup : Option Str
  tlsActive : Bool
  switchToTls : Bool
  deriving DecidableEq, Repr

def Session.access (r : Session) : AccessState :=
  ⟨r.authIsThere, r.curAuthUser, r.selectedGroup, r.tlsActive, r.switchToTls⟩

/-- All rows shown in the pieces of a reply satisfy `P`. -/
def RowsIn (P : Ngpost → Prop) (pieces : List Piece) : Prop :=
  ∀ piece ∈ pieces, ∀ row, piece.row = some row → P row

/-- The access state is `A`, and all rows in the reply so far satisfy `P`. -/
structure Replying (A : AccessState) (P : Ngpost → Prop) (r : Session) : Prop where
  access : r.access = A
  curstring : RowsIn P r.curstring
  sent : RowsIn P r.sent

/-- What was sent to a client whose thread is killed satisfies `P`. -/
def Exit.SentIn (P : Ngpost → Prop) : Exit → Prop
  | .killThread sent => RowsIn P sent
  | _ => True

/-- The tables of users and access rights. -/
structure AccessTables where
  users : List User
  roles : List Str
  users2roles : List User2Role
  aclUsers : List AclUser
  aclRoles : List AclRole

def Store.accessTables (s : Store) : AccessTables :=
  ⟨s.users, s.roles, s.users2roles, s.aclUsers, s.aclRoles⟩

/-- The statements of the server: everything but the ones only the admin tool executes. -/
def Stmt.ofServer : Stmt → Bool
  | .insertNewsgroup _ | .updatePflag _ _ | .deleteNgposts _ | .deleteNewsgroup _
  | .deleteOrphanPostings | .insertUser _ | .deleteUser _ | .insertRole _ | .deleteRole _
  | .insertAclUser _ | .deleteAclUsers _ _ | .insertUser2Role _ | .deleteUsers2Roles _ _
  | .insertAclRole _ | .deleteAclRoles _ _ => false
  | _ => true

theorem accessTables_exec (ext : Extern) {op : Stmt} (ofServer : op.ofServer = true) (s : Store)
    : (exec ext op s).2.accessTables = s.accessTables := by
  cases op with
  | msgidCreate =>
      simp only [exec]
      split <;> rfl
  | bodyWrite filename body =>
      simp only [exec]
      split <;> rfl
  | insertNewsgroup | updatePflag | deleteNgposts | deleteNewsgroup | deleteOrphanPostings
  | insertUser | deleteUser | insertRole | deleteRole | insertAclUser | deleteAclUsers
  | insertUser2Role | deleteUsers2Roles | insertAclRole | deleteAclRoles => cases ofServer
  | _ => rfl

/-- The handler leaves the access state and the access tables alone and shows only rows
in `P`. -/
abbrev Quiet (ext : Extern) (T : AccessTables) (A : AccessState) (P : Ngpost → Prop) {α : Type}
    (m : Srv α)
    : Prop :=
  Keeps (exec ext) (Replying A P) (fun s => s.accessTables = T) (Exit.SentIn P) m

section Rules

variable {ext : Extern} {T : AccessTables} {A : AccessState} {P : Ngpost → Prop} {α : Type}

theorem rowsIn_append {pieces more : List Piece} (h : RowsIn P pieces) (h' : RowsIn P more)
    : RowsIn P (pieces ++ more) := by
  intro piece member
  rcases List.mem_append.mp member with old | new
  · exact h piece old
  · exact h' piece new

theorem rowsIn_text (text : Str) : RowsIn P [⟨text, none⟩] := by
  intro piece member row shown
  rw [List.mem_singleton.mp member] at shown
  cases shown

theorem rowsIn_row {row : Ngpost} (text : Str) (h : P row) : RowsIn P [⟨text, some row⟩] := by
  intro piece member row' shown
  rw [List.mem_singleton.mp member] at shown
  cases shown
  exact h

/-- A statement of the server changes the store only; its result comes from `exec`. -/
theorem keeps_sql_bind {I : Session → Prop} {E : Exit → Prop} {op : Stmt}
    {f : op.Result → Srv α} (ofServer : op.ofServer = true)
    (rest : ∀ s, Keeps (exec ext) I (fun s => s.accessTables = T) E (f (exec ext op s).1))
    : Keeps (exec ext) I (fun s => s.accessTables = T) E (sql op >>= f) :=
  fun r s start => rest s r _ ⟨start.1, (accessTables_exec ext ofServer s).trans start.2⟩

/-- Only the access state and the reply matter. -/
theorem Replying.congr {r r' : Session} (replying : Replying A P r)
    (same : (r'.access, r'.curstring, r'.sent) = (r.access, r.curstring, r.sent))
    : Replying A P r' := by
  simp only [Prod.mk.injEq] at same
  obtain ⟨access, curstring, sent⟩ := same
  refine ⟨?_, ?_, ?_⟩
  · rw [access]
    exact replying.access
  · rw [curstring]
    exact replying.curstring
  · rw [sent]
    exact replying.sent

/-- A change of the other fields of the session. -/
theorem quiet_modify {g : Session → Session}
    (same : ∀ r, ((g r).access, (g r).curstring, (g r).sent) = (r.access, r.curstring, r.sent))
    : Quiet ext T A P (modify g) :=
  Keeps.modify (fun r start => start.congr (same r))

theorem quiet_toSend (text : Str) : Quiet ext T A P (toSend text) := by
  apply Keeps.modify
  intro r start
  exact ⟨start.access, rowsIn_append start.curstring (rowsIn_text text), start.sent⟩

theorem quiet_toSendRow {row : Ngpost} (text : Str) (h : P row)
    : Quiet ext T A P (toSendRow row text) := by
  apply Keeps.modify
  intro r start
  exact ⟨start.access, rowsIn_append start.curstring (rowsIn_row text h), start.sent⟩

theorem quiet_send (text : Str) : Quiet ext T A P (send text) := by
  apply Keeps.modify
  intro r start
  exact ⟨start.access, start.curstring, rowsIn_append start.sent (rowsIn_text text)⟩

theorem quiet_killThread : Quiet ext T A P (killThread : Srv α) := fun _ _ start => start.1.sent

theorem quiet_crash : Quiet ext T A P (crash : Srv α) := fun _ _ _ => trivial

theorem quiet_secexecError : Quiet ext T A P (secexecError : Srv α) :=
  (quiet_toSend _).bind (fun _ => quiet_killThread)

end Rules

section Queries

variable {ext : Extern} {T : AccessTables} {A : AccessState} {P : Ngpost → Prop}

theorem quiet_aclCheckUserGroup (user : Option Str) (group : Str)
    : Quiet ext T A P (aclCheckUserGroup user group) := by
  cases user with
  | none => exact Keeps.pure _
  | some user =>
      refine keeps_sql_bind rfl (fun s => Keeps.ite (fun _ => ?_) (fun _ => Keeps.pure _))
      exact keeps_sql_bind rfl (fun _ => Keeps.pure _)

theorem quiet_aclCheckIfUsed (cfg : Config) (user : Option Str) (group : Str)
    : Quiet ext T A P (aclCheckIfUsed cfg user group) :=
  Keeps.ite (fun _ => quiet_aclCheckUserGroup user group) (fun _ => Keeps.pure _)

theorem quiet_listCb (cfg : Config) (g : Newsgroup) : Quiet ext T A P (listCb ext cfg g) := by
  refine Keeps.get_bind (fun r _ => ?_)
  refine (quiet_aclCheckIfUsed cfg _ _).bind (fun visible => Keeps.ite (fun _ => ?_) ?_)
  · split
    · exact Keeps.ite (fun _ => quiet_toSend _) (fun _ => Keeps.pure _)
    · exact Keeps.ite (fun _ => quiet_toSend _) (fun _ => Keeps.pure _)
    · exact quiet_toSend _
  · exact fun _ => Keeps.pure _

theorem quiet_docmdList (cfg : Config) (cmdstring : Str) (cmdtyp : ListCmdtyp)
    : Quiet ext T A P (docmdList ext cfg cmdstring cmdtyp) := by
  have list (reply : Str) (wildmat : Option Str)
      : Quiet ext T A P (docmdList.list ext cfg cmdtyp reply wildmat) := by
    refine (quiet_toSend _).bind (fun _ => Keeps.bind ?_ (fun _ => quiet_toSend _))
    refine Keeps.bind (quiet_modify (fun _ => rfl)) (fun _ => ?_)
    refine keeps_sql_bind rfl (fun s => (Keeps.forM _ (fun g _ => quiet_listCb cfg g)).bind ?_)
    exact fun _ => quiet_modify (fun _ => rfl)
  cases cmdtyp with
  | list => exact list _ _
  | xgtitle =>
      simp only [docmdList]
      split
      · exact quiet_toSend _
      · exact list _ _
  | listNewsgroups => exact list _ _

theorem quiet_docmdCapabilities (cfg : Config) : Quiet ext T A P (docmdCapabilities cfg) := by
  have last : Quiet ext T A P (toSend capsstringPost >>= fun _ => toSend periodEnd) :=
    (quiet_toSend _).bind (fun _ => quiet_toSend _)
  refine Keeps.get_bind (fun r _ => ?_)
  refine (quiet_toSend _).bind (fun _ => (quiet_toSend _).bind (fun _ => ?_))
  refine (quiet_toSend _).bind (fun _ => (quiet_toSend _).bind (fun _ => ?_))
  refine Keeps.ite (fun _ => (quiet_toSend _).bind (fun _ => ?_)) (fun _ => ?_)
  all_goals exact Keeps.ite (fun _ => (quiet_toSend _).bind (fun _ => last)) (fun _ => last)

theorem quiet_dbGetHighValue (env : Env) (group : Str)
    : Quiet ext T A P (dbGetHighValue env group) :=
  keeps_sql_bind rfl (fun _ => Keeps.pure _)

end Queries

section Rows

variable {ext : Extern} {T : AccessTables} {A : AccessState} {P : Ngpost → Prop}

/-- The rows of a joined query are rows of the chosen part of `ngposts`. -/
theorem mem_joinPostings {s : Store} {rows : List Ngpost} {pair : Ngpost × Posting}
    (member : pair ∈ s.joinPostings rows)
    : pair.1 ∈ rows := by
  obtain ⟨n, chosen, found⟩ := List.mem_flatMap.mp member
  obtain ⟨p, -, rfl⟩ := List.mem_map.mp found
  exact chosen

theorem ng_of_mem_ngRows {s : Store} {group : Str} {row : Ngpost} (member : row ∈ s.ngRows group)
    : row.ng = group :=
  beq_iff_eq.mp (List.mem_filter.mp member).2

theorem quiet_xhdrCb (part : XhdrPart) {pair : Ngpost × Posting} (shown : P pair.1)
    : Quiet ext T A P (xhdrCb ext part pair) :=
  Keeps.get_bind (fun _ _ => quiet_toSendRow _ shown)

theorem quiet_dbXhdr (part : XhdrPart) {group : Str} (shown : ∀ row, row.ng = group → P row)
    (msgid : Option Str) (min max : Nat)
    : Quiet ext T A P (dbXhdr ext part group msgid min max) := by
  have callback (rows : List (Ngpost × Posting)) (ofGroup : ∀ pair ∈ rows, pair.1.ng = group)
      : Quiet ext T A P
          (rows.forM (xhdrCb ext part) >>= fun _ =>
            modify (fun s => { s with speccmd := .cleared })) :=
    (Keeps.forM rows (fun pair member => quiet_xhdrCb part (shown _ (ofGroup pair member)))).bind
      (fun _ => quiet_modify (fun _ => rfl))
  refine Keeps.bind (quiet_modify (fun _ => rfl)) (fun _ => ?_)
  cases msgid with
  | some msgid =>
      refine keeps_sql_bind rfl (fun s => callback _ (fun pair member => ?_))
      exact ng_of_mem_ngRows (List.mem_filter.mp (mem_joinPostings member)).1
  | none =>
      refine keeps_sql_bind rfl (fun s => callback _ (fun pair member => ?_))
      exact ng_of_mem_ngRows (List.mem_filter.mp (mem_joinPostings member)).1

theorem quiet_xhdrArticles (cmdstring : Str) {group : Str} (realMax : Nat) (part : XhdrPart)
    (shown : ∀ row, row.ng = group → P row)
    : Quiet ext T A P (xhdrArticles ext cmdstring group realMax part) := by
  have reply (msgid : Option Str) (min max : Nat)
      : Quiet ext T A P (xhdrArticles.reply ext group part msgid min max) :=
    (quiet_toSend _).bind (fun _ =>
      (quiet_dbXhdr part shown msgid min max).bind (fun _ => quiet_toSend _))
  have range (min max : Nat)
      : Quiet ext T A P (xhdrArticles.range ext group realMax part min max) :=
    Keeps.ite (fun _ => quiet_toSend _) (fun _ => reply _ _ _)
  refine Keeps.get_bind (fun r _ => ?_)
  split
  · split
    · exact quiet_toSend _
    · exact range _ _
  · refine Keeps.ite (fun _ => ?_) (fun _ => range _ _)
    refine Keeps.bind (keeps_sql_bind rfl (fun _ => Keeps.pure _)) (fun there => ?_)
    exact Keeps.ite (fun _ => reply _ _ _) (fun _ => quiet_toSend _)

/-- The rows of the selected newsgroup may be shown. -/
theorem shown_of_selected {r : Session} (start : Replying A P r) {group : Str}
    (selected : r.selectedGroup = some group)
    (shown : ∀ row, A.selectedGroup = some row.ng → P row) (row : Ngpost) (same : row.ng = group)
    : P row := by
  apply shown
  rw [same, ← selected, ← start.access]
  rfl

theorem quiet_docmdXhdr (env : Env) (cmdstring : Str)
    (shown : ∀ row, A.selectedGroup = some row.ng → P row)
    : Quiet ext T A P (docmdXhdr ext env cmdstring) := by
  refine Keeps.get_bind (fun r start => ?_)
  cases selected : r.selectedGroup with
  | none => exact quiet_toSend _
  | some group =>
      refine (quiet_dbGetHighValue env group).bind (fun realMax => ?_)
      split
      · exact quiet_toSend _
      · split
        · exact quiet_toSend _
        · refine Keeps.bind (quiet_modify (fun _ => rfl)) (fun _ => ?_)
          exact quiet_xhdrArticles cmdstring realMax _ (shown_of_selected start selected shown)

theorem quiet_docmdXover (env : Env) (cmdstring : Str)
    (shown : ∀ row, A.selectedGroup = some row.ng → P row)
    : Quiet ext T A P (docmdXover ext env cmdstring) := by
  refine Keeps.get_bind (fun r start => ?_)
  cases selected : r.selectedGroup with
  | none => exact quiet_toSend _
  | some group =>
      have range (realMax min max : Nat)
          : Quiet ext T A P (docmdXover.range ext group realMax min max) := by
        refine Keeps.ite (fun _ => quiet_toSend _) (fun _ => (quiet_toSend _).bind (fun _ => ?_))
        refine Keeps.bind (keeps_sql_bind rfl (fun s => ?_)) (fun _ => quiet_toSend _)
        refine Keeps.forM _ (fun pair member => quiet_toSendRow _ ?_)
        apply shown_of_selected start selected shown
        exact ng_of_mem_ngRows (List.mem_filter.mp (mem_joinPostings member)).1
      refine (quiet_dbGetHighValue env group).bind (fun realMax => ?_)
      split
      · split
        · exact quiet_toSend _
        · exact range _ _ _
      · exact range _ _ _

theorem quiet_articleCb (cfg : Config) {row : Ngpost} (shown : P row)
    : Quiet ext T A P (articleCb cfg row) := by
  have header (cmdtype : Cmdtype) : Quiet ext T A P (articleSendHeader cmdtype row) := by
    refine Keeps.ite (fun _ => keeps_sql_bind rfl (fun s => ?_)) (fun _ => Keeps.pure _)
    refine Keeps.forM _ (fun text _ => Keeps.get_bind (fun r _ => ?_))
    split
    · exact (quiet_toSendRow _ shown).bind (fun _ => quiet_toSendRow _ shown)
    · exact (quiet_toSendRow _ shown).bind (fun _ => quiet_toSendRow _ shown)
    · exact Keeps.pure _
  have body (cmdtype : Cmdtype) : Quiet ext T A P (articleSendBody cfg cmdtype row) := by
    refine Keeps.ite (fun _ => Keeps.ite (fun _ => quiet_crash) (fun _ => ?_))
      (fun _ => Keeps.pure _)
    refine Keeps.bind (keeps_sql_bind rfl (fun _ => Keeps.pure _)) (fun text => ?_)
    cases text with
    | some text => exact quiet_toSendRow _ shown
    | none => exact Keeps.pure _
  refine Keeps.bind (quiet_modify (fun _ => rfl)) (fun _ => ?_)
  refine Keeps.get_bind (fun r _ => (quiet_toSendRow _ shown).bind (fun _ => ?_))
  refine (header _).bind (fun _ => (body _).bind (fun _ => ?_))
  exact quiet_modify (fun _ => rfl)

theorem quiet_docmdArticle (cfg : Config) (cmdstring : Str)
    (shown : ∀ row, A.selectedGroup = some row.ng → P row)
    : Quiet ext T A P (docmdArticle cfg cmdstring) := by
  refine Keeps.bind (quiet_modify (fun _ => rfl)) (fun _ => ?_)
  refine Keeps.get_bind (fun r start => ?_)
  cases selected : r.selectedGroup with
  | none => exact quiet_toSend _
  | some group =>
      have callback (rows : List Ngpost) (ofGroup : ∀ row ∈ rows, row.ng = group)
          : Quiet ext T A P (rows.forM (articleCb cfg)) :=
        Keeps.forM rows (fun row member =>
          quiet_articleCb cfg (shown_of_selected start selected shown row (ofGroup row member)))
      have retrieve (type : Artcltyp) : Quiet ext T A P (docmdArticle.retrieve cfg group type) := by
        refine Keeps.bind (Keeps.get_bind (fun r _ => ?_)) (fun _ => ?_)
        · cases type with
          | messageId param =>
              refine keeps_sql_bind rfl (fun s => callback _ (fun row member => ?_))
              exact ng_of_mem_ngRows (List.mem_filter.mp member).1
          | number param =>
              refine keeps_sql_bind rfl (fun s => callback _ (fun row member => ?_))
              exact ng_of_mem_ngRows (List.mem_filter.mp member).1
          | current =>
              refine keeps_sql_bind rfl (fun s => callback _ (fun row member => ?_))
              exact ng_of_mem_ngRows (List.mem_filter.mp member).1
        · exact Keeps.get_bind (fun r _ =>
            Keeps.ite (fun _ => Keeps.pure _) (fun _ => quiet_toSend _))
      rcases artcltyp (getSlinearg cmdstring 1) with _ | type
      · exact quiet_toSend _
      · cases type with
        | current => exact Keeps.ite (fun _ => quiet_toSend _) (fun _ => retrieve _)
        | messageId param => exact retrieve _
        | number param => exact retrieve _

end Rows

section Post

variable {ext : Extern} {T : AccessTables} {A : AccessState} {P : Ngpost → Prop}

theorem quiet_chkNgNameCorrectness (names : List Str)
    : Quiet ext T A P (chkNgNameCorrectness names) := by
  induction names with
  | nil => exact Keeps.pure _
  | cons newsgroup rest ih =>
      have existence : Quiet ext T A P dbCheckNewsgroupExistence := by
        refine Keeps.bind (quiet_modify (fun _ => rfl)) (fun _ => ?_)
        refine Keeps.get_bind (fun r _ => ?_)
        cases r.chkname with
        | none => exact quiet_crash
        | some name =>
            exact keeps_sql_bind rfl (fun s => quiet_modify (fun _ => rfl))
      have allowed : Quiet ext T A P dbCheckNewsgroupPostingAllowed := by
        refine Keeps.bind (quiet_modify (fun _ => rfl)) (fun _ => ?_)
        refine Keeps.get_bind (fun r _ => ?_)
        cases r.chkname with
        | none => exact quiet_crash
        | some name =>
            exact keeps_sql_bind rfl (fun s => quiet_modify (fun _ => rfl))
      refine Keeps.bind (quiet_modify (fun _ => rfl)) (fun _ => ?_)
      refine existence.bind (fun _ => ?_)
      refine Keeps.bind (quiet_modify (fun _ => rfl)) (fun _ => ?_)
      refine Keeps.get_bind (fun r _ => Keeps.ite (fun _ => ?_) (fun _ => ?_))
      · exact (quiet_toSend _).bind (fun _ => Keeps.pure _)
      · refine Keeps.bind (quiet_modify (fun _ => rfl)) (fun _ => ?_)
        refine allowed.bind (fun _ => ?_)
        refine Keeps.bind (quiet_modify (fun _ => rfl)) (fun _ => ?_)
        refine Keeps.get_bind (fun r _ => Keeps.ite (fun _ => ?_) (fun _ => ?_))
        · exact (quiet_toSend _).bind (fun _ => Keeps.pure _)
        · exact Keeps.bind (quiet_modify (fun _ => rfl)) (fun _ => ih)

theorem quiet_postToGroups (cfg : Config) (env : Env) (messageId : Str) (groups : List Str)
    (stack : Charstack)
    : Quiet ext T A P (postToGroups cfg env messageId groups stack) := by
  induction groups generalizing stack with
  | nil => exact Keeps.pure _
  | cons newsgroup rest ih =>
      refine Keeps.get_bind (fun r _ => ?_)
      refine (quiet_aclCheckIfUsed cfg _ _).bind (fun allowed => ?_)
      refine Keeps.ite (fun _ => ih stack) (fun _ => ?_)
      refine (quiet_dbGetHighValue env newsgroup).bind (fun curHigh => ?_)
      refine Keeps.ite (fun _ => quiet_killThread) (fun _ => ?_)
      refine Keeps.ite (fun _ => ih stack) (fun _ => ?_)
      refine Keeps.bind (keeps_sql_bind rfl (fun s => ?_)) (fun _ => ?_)
      · exact Keeps.ite (fun _ => Keeps.pure _) (fun _ => quiet_secexecError)
      · exact Keeps.bind (keeps_sql_bind rfl (fun _ => Keeps.pure _)) (fun _ => ih _)

theorem quiet_getUniqnum : Quiet ext T A P getUniqnum := by
  have write (id : Nat) : Quiet ext T A P (getUniqnum.write id) :=
    keeps_sql_bind rfl (fun _ => Keeps.pure _)
  refine keeps_sql_bind rfl (fun s => Keeps.ite (fun _ => ?_) (fun _ => ?_))
  · refine keeps_sql_bind rfl (fun s => ?_)
    cases (exec ext .msgidRead s).1 with
    | none => exact Keeps.pure _
    | some id => exact write _
  · exact keeps_sql_bind rfl (fun s => Keeps.ite (fun _ => write _) (fun _ => Keeps.pure _))

theorem quiet_storeArticle (cfg : Config) (env : Env) (row : Posting) (body : Str)
    (groups : List Str)
    : Quiet ext T A P (storeArticle cfg env row body groups) := by
  refine Keeps.ite (fun _ => quiet_crash) (fun _ => ?_)
  refine Keeps.bind (keeps_sql_bind rfl (fun _ => keeps_sql_bind rfl (fun _ => Keeps.pure _))) (fun _ => ?_)
  refine Keeps.bind ?_ (fun _ => ?_)
  · refine Keeps.ite (fun _ => keeps_sql_bind rfl (fun s => ?_)) (fun _ => quiet_secexecError)
    exact Keeps.ite (fun _ => Keeps.pure _) (fun _ => quiet_secexecError)
  · exact (quiet_postToGroups cfg env _ groups _).bind (fun _ => quiet_toSend _)

theorem quiet_docmdPost (cfg : Config) (env : Env) : Quiet ext T A P (docmdPost ext cfg env) := by
  refine (quiet_send _).bind (fun _ => ?_)
  cases postReceive cfg.maxPostSize [] env.recv with
  | tooBig => exact (quiet_send _).bind (fun _ => quiet_killThread)
  | failed => exact quiet_killThread
  | waiting => exact fun _ _ _ => trivial
  | article buf =>
      simp only [postArticle]
      cases checkArticle buf with
      | garbage => exact quiet_killThread
      | crash => exact quiet_crash
      | refused message => exact quiet_toSend _
      | passed len header ngstrp body =>
          refine (quiet_chkNgNameCorrectness _).bind (fun ok => ?_)
          refine Keeps.ite (fun _ => ?_) (fun _ => Keeps.pure _)
          refine Keeps.bind (Keeps.ite (fun _ => quiet_crash) (fun _ => quiet_getUniqnum))
            (fun newid => ?_)
          split
          · split
            · exact quiet_crash
            · exact quiet_killThread
            · exact quiet_storeArticle cfg env _ _ _
          · exact quiet_killThread

end Post

end WendzelNNTPd
