import WendzelNNTPd.Access.Queries
import WendzelNNTPd.Lib.RelyGuarantee
import WendzelNNTPd.Posting.DeletedGroup

/-! All clients at once. Without the admin tool, whatever the clients send and in whatever order
their statements are executed, no row is taken away or written again, and every row of `ngposts`
has its posting and its newsgroup: POST looks for the newsgroups and inserts the posting before
it inserts the rows, and neither can disappear in between.
-/

namespace WendzelNNTPd

open CString Atomic

-----------------------------------------------------------------------------------------
-- What the server does to the store
-----------------------------------------------------------------------------------------

/-- Rows have been added to `postings` and `ngposts`, and high values may have changed. -/
structure Store.Grown (s t : Store) : Prop where
  postings : s.postings <+: t.postings
  ngposts : s.ngposts <+: t.ngposts
  groups :
    t.newsgroups.map (fun g => (g.name, g.pflag)) = s.newsgroups.map (fun g => (g.name, g.pflag))
  tables : t.accessTables = s.accessTables

/-- A statement of the server; a row of `ngposts` is inserted only behind its posting and its
newsgroup. -/
def Stmt.MayServe : Stmt → Store → Prop
  | .insertNgpost row, s => s.hasPosting row.msgid = true ∧ s.HasGroup row.ng
  | op, _ => op.ofServer = true

/-- The primary keys of `postings` and `ngposts`. -/
structure Store.Keyed (s : Store) : Prop where
  postings : (s.postings.map (·.msgid)).Nodup
  ngposts : (s.ngposts.map (fun n => (n.msgid, n.ng))).Nodup

section Statements

variable {ext : Extern} {s t : Store}

theorem prefix_insertRow {α κ : Type} [DecidableEq κ] (key : α → κ) (row : α) (table : List α)
    : table <+: (insertRow key row table).2 := by
  unfold insertRow
  split
  · exact List.prefix_refl table
  · exact List.prefix_append table [row]

theorem nodup_insertRow {α κ : Type} [DecidableEq κ] {key : α → κ} {table : List α}
    (distinct : (table.map key).Nodup) (row : α)
    : ((insertRow key row table).2.map key).Nodup := by
  unfold insertRow
  split
  · exact distinct
  · rename_i fresh
    rw [List.map_append, List.nodup_append]
    refine ⟨distinct, List.nodup_singleton _, ?_⟩
    rintro a old b new rfl
    obtain ⟨other, member, same⟩ := List.mem_map.mp old
    refine fresh (List.any_eq_true.mpr ⟨other, member, ?_⟩)
    simpa using same.trans (List.mem_singleton.mp new)

theorem Store.Grown.refl (s : Store) : s.Grown s :=
  ⟨List.prefix_refl _, List.prefix_refl _, rfl, rfl⟩

theorem Store.Grown.trans {u : Store} (first : s.Grown t) (second : t.Grown u) : s.Grown u :=
  ⟨first.postings.trans second.postings, first.ngposts.trans second.ngposts,
    second.groups.trans first.groups, second.tables.trans first.tables⟩

theorem ofServer_of_mayServe {op : Stmt} (may : op.MayServe s) : op.ofServer = true := by
  cases op with
  | insertNgpost row => rfl
  | _ => exact may

theorem mayServe_of_query {op : Stmt} (query : op.isQuery = true) (s : Store) : op.MayServe s := by
  cases op <;> first | rfl | cases query

theorem grown_exec {op : Stmt} (ofServer : op.ofServer = true) (s : Store)
    : s.Grown (exec ext op s).2 := by
  have tables := accessTables_exec ext ofServer s
  cases op with
  | insertPosting row => exact ⟨prefix_insertRow _ row _, List.prefix_refl _, rfl, rfl⟩
  | insertNgpost row => exact ⟨List.prefix_refl _, prefix_insertRow _ row _, rfl, rfl⟩
  | updateHigh name high =>
      refine ⟨List.prefix_refl _, List.prefix_refl _, ?_, rfl⟩
      rw [exec, List.map_map]
      refine List.map_congr_left (fun g _ => ?_)
      rw [Function.comp_apply]
      split
      · rfl
      · rfl
  | msgidCreate =>
      simp only [exec]
      split
      · exact ⟨List.prefix_refl _, List.prefix_refl _, rfl, rfl⟩
      · exact ⟨List.prefix_refl _, List.prefix_refl _, rfl, rfl⟩
  | bodyWrite filename body =>
      rw [exec_bodyWrite]
      exact ⟨List.prefix_refl _, List.prefix_refl _, rfl, rfl⟩
  | insertNewsgroup | updatePflag | deleteNgposts | deleteNewsgroup | deleteOrphanPostings
  | insertUser | deleteUser | insertRole | deleteRole | insertAclUser | deleteAclUsers
  | insertUser2Role | deleteUsers2Roles | insertAclRole | deleteAclRoles => cases ofServer
  | _ => exact ⟨List.prefix_refl _, List.prefix_refl _, rfl, rfl⟩

/-- What all programs of the server keep to. -/
def serverDiscipline (ext : Extern) : Discipline (exec ext) where
  Later := Store.Grown
  May := Stmt.MayServe
  refl := Store.Grown.refl
  trans := Store.Grown.trans
  moves _ s may := grown_exec (ofServer_of_mayServe may) s

theorem stable_hasPosting (messageId : Str)
    : (serverDiscipline ext).Stable (fun s => s.hasPosting messageId = true) := by
  intro s t there grown
  obtain ⟨p, member, named⟩ := List.any_eq_true.mp there
  exact List.any_eq_true.mpr ⟨p, grown.postings.subset member, named⟩

theorem Store.Grown.names (grown : s.Grown t)
    : t.newsgroups.map (·.name) = s.newsgroups.map (·.name) := by
  have same := congrArg (List.map Prod.fst) grown.groups
  rw [List.map_map, List.map_map] at same
  exact same

theorem stable_hasGroup (name : Str) : (serverDiscipline ext).Stable (·.HasGroup name) := by
  intro s t there grown
  rw [hasGroup_iff_mem, grown.names]
  exact hasGroup_iff_mem.mp there

theorem stable_validNames : (serverDiscipline ext).Stable Store.ValidNames := by
  intro s t valid grown
  rw [validNames_iff, grown.names]
  exact validNames_iff.mp valid

/-- Keys stay keys, and rows have what they refer to. -/
theorem filed_exec {op : Stmt} (may : op.MayServe s) (kept : s.Filed ∧ s.Keyed)
    : (exec ext op s).2.Filed ∧ (exec ext op s).2.Keyed := by
  obtain ⟨filed, keyed⟩ := kept
  have grown := @grown_exec ext op (ofServer_of_mayServe may) s
  have posting {messageId : Str} (there : s.hasPosting messageId = true)
      : (exec ext op s).2.hasPosting messageId = true :=
    @stable_hasPosting ext messageId s _ there grown
  have group {name : Str} (there : s.HasGroup name) : (exec ext op s).2.HasGroup name :=
    @stable_hasGroup ext name s _ there grown
  -- the rows of `ngposts` are those of before, up to one whose posting and newsgroup exist
  have stays (rows : (exec ext op s).2.ngposts = s.ngposts) : (exec ext op s).2.Filed := by
    constructor
    · intro n member
      exact posting (filed.posting n (rows ▸ member))
    · intro n member
      exact group (filed.group n (rows ▸ member))
  cases op with
  | insertPosting row =>
      exact ⟨stays rfl, nodup_insertRow keyed.postings row, keyed.ngposts⟩
  | insertNgpost row =>
      refine ⟨?_, keyed.postings, nodup_insertRow keyed.ngposts row⟩
      have known (n : Ngpost) (member : n ∈ (exec ext (.insertNgpost row) s).2.ngposts)
          : n ∈ s.ngposts ∨ n = row := by
        rw [exec_insertNgpost] at member
        split at member
        · exact Or.inl member
        · exact (List.mem_append.mp member).imp_right List.mem_singleton.mp
      constructor
      · intro n member
        rcases known n member with old | rfl
        · exact posting (filed.posting n old)
        · exact posting may.1
      · intro n member
        rcases known n member with old | rfl
        · exact group (filed.group n old)
        · exact group may.2
  | msgidCreate =>
      simp only [exec]
      split
      · exact ⟨⟨filed.posting, filed.group⟩, ⟨keyed.postings, keyed.ngposts⟩⟩
      · exact ⟨filed, keyed⟩
  | bodyWrite filename body =>
      rw [exec_bodyWrite]
      exact ⟨⟨filed.posting, filed.group⟩, ⟨keyed.postings, keyed.ngposts⟩⟩
  | insertNewsgroup | updatePflag | deleteNgposts | deleteNewsgroup | deleteOrphanPostings
  | insertUser | deleteUser | insertRole | deleteRole | insertAclUser | deleteAclUsers
  | insertUser2Role | deleteUsers2Roles | insertAclRole | deleteAclRoles => cases may
  | _ => exact ⟨stays rfl, keyed.postings, keyed.ngposts⟩

end Statements

-----------------------------------------------------------------------------------------
-- POST among other clients
-----------------------------------------------------------------------------------------

/-- From stores in `J` the handler keeps to the discipline of the server, and returns `a` on stores
in `Q a`. -/
abbrev Serving (ext : Extern) {α : Type} (J : Store → Prop) (m : Srv α) (Q : α → Store → Prop)
    : Prop :=
  Heeding (serverDiscipline ext) (fun _ s => J s) m (fun a _ s => Q a s)

section Post

variable {ext : Extern} {cfg : Config} {env : Env} {J : Store → Prop}

theorem serving_asks {α : Type} {m : Srv α} (asks : OnlyAsks m)
    (stable : (serverDiscipline ext).Stable J)
    : Serving ext J m (fun _ s => J s) :=
  Heeding.of_uses asks (fun _ query s => mayServe_of_query query s) stable

theorem serving_modify {g : Session → Session} (stable : (serverDiscipline ext).Stable J)
    : Serving ext J (modify g) (fun _ s => J s) :=
  Heeding.modify (fun _ s t start grown => stable s t start grown)

/-- A statement that may always be performed. -/
theorem serving_sql {op : Stmt} (may : ∀ s, op.MayServe s)
    (stable : (serverDiscipline ext).Stable J)
    : Serving ext J (sql op) (fun _ s => J s) :=
  Heeding.act stable (fun s _ => may s)
    (fun s t start grown =>
      stable s t start ((serverDiscipline ext).trans ((serverDiscipline ext).moves op s (may s)) grown))

theorem serving_stop {α : Type} {reason : Session → Exit} {Q : α → Store → Prop}
    : Serving ext J (fun r => .stop (reason r) : Srv α) Q :=
  fun _ _ _ => trivial

theorem serving_secexecError {α : Type} {Q : α → Store → Prop}
    : Serving ext J (secexecError : Srv α) Q :=
  fun _ _ _ => trivial

theorem onlyAsks_checkNewsgroupPostingAllowed : OnlyAsks dbCheckNewsgroupPostingAllowed := by
  refine (HandlerUses.modify _).bind (fun _ => HandlerUses.get.bind (fun s => ?_))
  split
  · exact onlyAsks_crash
  · exact (onlyAsks_sql rfl).bind (fun _ => HandlerUses.modify _)

/-- A newsgroup that passes the check is there from then on. -/
theorem heeding_checkNewsgroupExistence (name : Str)
    : Heeding (serverDiscipline ext) (fun r _ => r.chkname = some name) dbCheckNewsgroupExistence
        (fun _ r s => r.foundGroup = true → s.HasGroup name) := by
  rintro ⟨⟩ s chkname
  cases chkname
  intro t grown
  refine ⟨(rfl : Stmt.ofServer (.selectNewsgroup name) = true), fun u further found => ?_⟩
  exact @stable_hasGroup ext name t u ((hasGroup_iff t).mp found) further

/-- An article passes the check of its newsgroups only if all of them are there.
Witness: induction on the newsgroups; a name that is found has no quote, so the name that was
looked up is the one that is posted to.
-/
theorem serving_chkNgNameCorrectness (groups : List Str)
    : Serving ext Store.ValidNames (chkNgNameCorrectness groups)
        (fun ok s => s.ValidNames ∧ (ok = true → ∀ g ∈ groups, s.HasGroup g)) := by
  have valid := @stable_validNames ext
  induction groups with
  | nil =>
      refine Heeding.pure (fun _ s t start grown => ⟨valid s t start grown, fun _ g member => ?_⟩)
      exact (List.not_mem_nil member).elim
  | cons newsgroup rest ih =>
      let found (s : Store) : Prop := s.ValidNames ∧ s.HasGroup newsgroup
      have lasts : (serverDiscipline ext).Stable found := valid.and (stable_hasGroup newsgroup)
      have refuses (text : Str)
          : Serving ext Store.ValidNames (toSend text >>= fun _ => pure false)
              (fun ok s => s.ValidNames ∧ (ok = true → ∀ g ∈ newsgroup :: rest, s.HasGroup g)) := by
        refine Heeding.bind (serving_modify valid) (fun _ => Heeding.pure ?_)
        exact fun _ s t start grown => ⟨valid s t start grown, fun passed => Bool.noConfusion passed⟩
      let secured := dbSecureSqlbuffer .sqlite3 newsgroup
      let looked (r : Session) (s : Store) : Prop :=
        s.ValidNames ∧ (r.foundGroup = true → s.HasGroup newsgroup)
      unfold chkNgNameCorrectness
      refine Heeding.bind (R := fun _ r s => r.chkname = some secured ∧ s.ValidNames)
        (Heeding.modify (fun _ s t start grown => ⟨rfl, valid s t start grown⟩)) (fun _ => ?_)
      refine Heeding.bind ((heeding_checkNewsgroupExistence secured).frame valid) (fun _ => ?_)
      refine Heeding.bind (R := fun _ r s => looked r s) (Heeding.modify ?_) (fun _ => ?_)
      · intro r s t start grown
        refine ⟨valid s t start.2 grown, fun there => ?_⟩
        obtain ⟨g, row, named⟩ := start.1 there
        have same := escaped_eq_of_valid (named ▸ start.2 g row)
        exact @stable_hasGroup ext newsgroup s t ⟨g, row, named.trans same⟩ grown
      refine Heeding.read (fun r => Heeding.ite (fun _ => ?_) (fun there => ?_))
      · exact Heeding.weaken (refuses _) (fun _ _ start => start.2.1) (fun _ _ _ done => done)
      have here : r.foundGroup = true := by
        simpa using there
      refine Heeding.bind (R := fun _ _ s => found s) (Heeding.modify ?_) (fun _ => ?_)
      · exact fun _ s t start grown => lasts s t ⟨start.2.1, start.2.2 here⟩ grown
      refine Heeding.bind (serving_asks onlyAsks_checkNewsgroupPostingAllowed lasts) (fun _ => ?_)
      refine Heeding.bind (serving_modify lasts) (fun _ => Heeding.read (fun r => ?_))
      refine Heeding.ite (fun _ => ?_) (fun _ => ?_)
      · exact Heeding.weaken (refuses _) (fun _ _ start => start.2.1) (fun _ _ _ done => done)
      refine Heeding.bind (R := fun _ _ s => found s) (Heeding.modify ?_) (fun _ => ?_)
      · exact fun _ s t start grown => lasts s t start.2 grown
      refine (ih.frame (stable_hasGroup newsgroup)).weaken (fun _ _ start => start) ?_
      intro ok _ s done
      refine ⟨done.1.1, fun passed g member => ?_⟩
      rcases List.mem_cons.mp member with rfl | later
      · exact done.2
      · exact done.1.2 passed g later

/-- The loop over newsgroups that are there, with a posting that is there. -/
theorem serving_postToGroups (messageId : Str) (groups : List Str) (stack : Charstack)
    : Serving ext
        (fun s => s.hasPosting messageId = true ∧ ∀ g ∈ groups, s.HasGroup g)
        (postToGroups cfg env messageId groups stack) (fun _ _ => True) := by
  induction groups generalizing stack with
  | nil => exact Heeding.pure (fun _ _ _ _ _ => trivial)
  | cons newsgroup rest ih =>
      let there (s : Store) : Prop :=
        s.hasPosting messageId = true ∧ ∀ g ∈ newsgroup :: rest, s.HasGroup g
      have lasts : (serverDiscipline ext).Stable there :=
        (stable_hasPosting messageId).and (Discipline.Stable.all stable_hasGroup _)
      have goesOn (stack : Charstack)
          : Serving ext there (postToGroups cfg env messageId rest stack) (fun _ _ => True) := by
        refine (ih stack).weaken (fun _ s start => ⟨start.1, ?_⟩) (fun _ _ _ _ => trivial)
        exact fun g member => start.2 g (List.mem_cons_of_mem _ member)
      have inserts (high : Nat)
          : Serving ext there (dbPostInsertIntoNgposts messageId newsgroup high)
              (fun _ s => there s) := by
        have row : Serving ext there (sql (.insertNgpost ⟨messageId, newsgroup, high⟩))
            (fun _ s => there s) :=
          Heeding.act lasts (fun s start => ⟨start.1, start.2 newsgroup (by simp)⟩)
            (fun s t start grown =>
              lasts s t start (Store.Grown.trans (grown_exec rfl s) grown))
        refine Heeding.bind row (fun ok => Heeding.ite (fun _ => ?_) (fun _ => ?_))
        · exact Heeding.pure (fun _ s t start grown => lasts s t start grown)
        · exact serving_secexecError
      have raises (high : Nat)
          : Serving ext there (dbPostUpdateHighValue high newsgroup) (fun _ s => there s) :=
        Heeding.bind (serving_sql (fun _ => rfl) lasts)
          (fun _ => Heeding.pure (fun _ s t start grown => lasts s t start grown))
      unfold postToGroups
      refine Heeding.read (fun r => Heeding.weaken (P := fun _ s => there s) ?_
        (fun _ _ start => start.2) (fun _ _ _ done => done))
      refine Heeding.bind (serving_asks (onlyAsks_aclCheckIfUsed _ _) lasts) (fun allowed => ?_)
      refine Heeding.ite (fun _ => goesOn stack) (fun _ => ?_)
      refine Heeding.bind (serving_asks (onlyAsks_dbGetHighValue _) lasts) (fun high => ?_)
      refine Heeding.ite (fun _ => serving_stop) (fun _ => ?_)
      refine Heeding.ite (fun _ => goesOn stack) (fun _ => ?_)
      refine Heeding.bind (inserts _) (fun _ => Heeding.bind (raises _) (fun _ => goesOn _))

/-- Behind the insertion the posting is there, also if it was there before. -/
theorem serving_insertPosting (row : Posting) (stable : (serverDiscipline ext).Stable J)
    : Serving ext J (dbPostInsertIntoPostings row)
        (fun _ s => s.hasPosting row.msgid = true ∧ J s) := by
  have inserted (s : Store) : (exec ext (.insertPosting row) s).2.hasPosting row.msgid = true :=
    (exec_insertPosting_rows ext row s).2.2.1
  have statement
      : Serving ext J (sql (.insertPosting row))
          (fun _ s => s.hasPosting row.msgid = true ∧ J s) := by
    refine Heeding.act stable (fun _ _ => rfl) (fun s t start grown => ⟨?_, ?_⟩)
    · exact @stable_hasPosting ext row.msgid _ t (inserted s) grown
    · exact stable s t start (Store.Grown.trans (grown_exec rfl s) grown)
  have lasts := (@stable_hasPosting ext row.msgid).and stable
  refine Heeding.ite (fun _ => ?_) (fun _ => serving_secexecError)
  refine Heeding.bind statement (fun ok => Heeding.ite (fun _ => ?_) (fun _ => ?_))
  · exact Heeding.pure (fun _ s t start grown => lasts s t start grown)
  · exact serving_secexecError

theorem serving_getUniqnum (stable : (serverDiscipline ext).Stable J)
    : Serving ext J getUniqnum (fun _ s => J s) := by
  have ends (value : Option Str) : Serving ext J (pure value) (fun _ s => J s) :=
    Heeding.pure (fun _ s t start grown => stable s t start grown)
  have write (id : Nat) : Serving ext J (getUniqnum.write id) (fun _ s => J s) :=
    Heeding.bind (serving_sql (fun _ => rfl) stable) (fun _ => ends _)
  refine Heeding.bind (serving_sql (fun _ => rfl) stable) (fun opened => ?_)
  refine Heeding.ite (fun _ => ?_) (fun _ => ?_)
  · refine Heeding.bind (serving_sql (fun _ => rfl) stable) (fun id => ?_)
    cases id with
    | none => exact ends none
    | some id => exact write (id + 1)
  · refine Heeding.bind (serving_sql (fun _ => rfl) stable) (fun created => ?_)
    exact Heeding.ite (fun _ => write 1) (fun _ => ends none)

/-- The end of POST for newsgroups that are there. -/
theorem serving_postAccepted (len : Nat) (header ngstrp body : Str)
    : Serving ext (fun s => ∀ g ∈ strtok ',' ngstrp, s.HasGroup g)
        (postAccepted ext cfg env len header ngstrp body) (fun _ _ => True) := by
  let there (s : Store) : Prop := ∀ g ∈ strtok ',' ngstrp, s.HasGroup g
  have lasts : (serverDiscipline ext).Stable there := Discipline.Stable.all stable_hasGroup _
  have stores (row : Posting)
      : Serving ext there (storeArticle cfg env row body (strtok ',' ngstrp)) (fun _ _ => True) := by
    have saves : Serving ext there (filebackendSavebody row.msgid body) (fun _ s => there s) :=
      Heeding.bind (serving_sql (fun _ => rfl) lasts)
        (fun _ => Heeding.bind (serving_sql (fun _ => rfl) lasts)
          (fun _ => Heeding.pure (fun _ s t start grown => lasts s t start grown)))
    refine Heeding.ite (fun _ => serving_stop) (fun _ => ?_)
    refine Heeding.bind saves (fun _ => Heeding.bind (serving_insertPosting row lasts) (fun _ => ?_))
    refine Heeding.bind (serving_postToGroups row.msgid _ .empty) (fun _ => ?_)
    exact Heeding.modify (fun _ _ _ _ _ => trivial)
  have numbers : Serving ext there (newMessageNumber cfg) (fun _ s => there s) :=
    Heeding.ite (fun _ => serving_stop) (fun _ => serving_getUniqnum lasts)
  refine Heeding.bind numbers (fun newid => ?_)
  split
  · split
    · exact serving_stop
    · exact serving_stop
    · exact stores _
  · exact serving_stop

theorem serving_docmdPost
    : Serving ext Store.ValidNames (docmdPost ext cfg env) (fun _ _ => True) := by
  have valid := @stable_validNames ext
  have article (buf : Str)
      : Serving ext Store.ValidNames (postArticle ext cfg env buf) (fun _ _ => True) := by
    unfold postArticle
    split
    · exact serving_stop
    · exact serving_stop
    · exact Heeding.modify (fun _ _ _ _ _ => trivial)
    · refine Heeding.bind (serving_chkNgNameCorrectness _) (fun ok => ?_)
      refine Heeding.ite (fun passed => ?_) (fun _ => Heeding.pure (fun _ _ _ _ _ => trivial))
      exact (serving_postAccepted _ _ _ _).weaken (fun _ _ start => start.2 passed)
        (fun _ _ _ _ => trivial)
  refine Heeding.bind (serving_modify valid) (fun _ => ?_)
  split
  · exact article _
  · exact Heeding.bind (serving_modify valid) (fun _ => serving_stop)
  · exact serving_stop
  · exact serving_stop

end Post

-----------------------------------------------------------------------------------------
-- Connections
-----------------------------------------------------------------------------------------

/-- A connection and the lines that the client will send. -/
structure Client where
  session : Session
  lines : List Line

/-- The program of a connection: one line after another. -/
def Client.program (ext : Extern) (cfg : Config) (c : Client) : Prog Sql Exit (Unit × Session) :=
  (c.lines.forM (fun line => serveLine ext cfg line.env line.recvbuf)).run c.session

/-- Connections over one store. -/
def clientPool {ι : Type} (ext : Extern) (cfg : Config) (clients : ι → Client) (s₀ : Store)
    : Pool Sql Exit (Unit × Session) Store ι where
  threads i := (clients i).program ext cfg
  store := s₀

section Clients

variable {ext : Extern} {cfg : Config}

theorem serving_serveLine (line : Line)
    : Serving ext Store.ValidNames (serveLine ext cfg line.env line.recvbuf)
        (fun _ s => s.ValidNames) := by
  have valid := @stable_validNames ext
  have posts : Serving ext Store.ValidNames (docmdPost ext cfg line.env) (fun _ s => s.ValidNames) :=
    (serving_docmdPost.frame valid).weaken (fun _ _ start => ⟨start, start⟩)
      (fun _ _ _ done => done.2)
  have command
      : Serving ext Store.ValidNames (doCommand ext cfg line.env line.command)
          (fun _ s => s.ValidNames) := by
    intro r s start
    refine doCommand_cases (P := fun p =>
      p.Heeds (serverDiscipline ext) (fun _ t => t.ValidNames) s) ?_ ?_ _
    · exact fun m asks => serving_asks asks valid r s start
    · exact posts r s start
  have line' : serveLine ext cfg line.env line.recvbuf
      = (switchToTls line.env >>= fun _ =>
          doCommand ext cfg line.env line.command >>= fun _ => sendReply) := rfl
  rw [line']
  refine Heeding.bind (serving_asks onlyAsks_switchToTls valid) (fun _ => ?_)
  exact Heeding.bind command (fun _ => serving_asks onlyAsks_sendReply valid)

/-- A connection keeps to the discipline of the server.
Witness: induction on its lines.
-/
theorem serving_lines (lines : List Line)
    : Serving ext Store.ValidNames
        (lines.forM (fun line => serveLine ext cfg line.env line.recvbuf))
        (fun _ s => s.ValidNames) := by
  induction lines with
  | nil => exact Heeding.pure (fun _ s t start grown => @stable_validNames ext s t start grown)
  | cons line rest ih => exact Heeding.bind (serving_serveLine line) (fun _ => ih)

end Clients

/-- Any number of connections with any lines, their statements executed in any order: the rows of
`postings` and `ngposts` stay where they are, no newsgroup appears, disappears or changes its
posting flag, users and access rights stay as they are, no message id is stored twice or filed
twice in a newsgroup, and every row of `ngposts` has its posting and its newsgroup. -/
theorem clients_keep_store {ι : Type} [DecidableEq ι] (ext : Extern) (cfg : Config)
    (clients : ι → Client) (s₀ : Store) (valid : s₀.ValidNames) (filed : s₀.Filed)
    (keyed : s₀.Keyed) (schedule : List ι)
    : s₀.Grown ((clientPool ext cfg clients s₀).run (exec ext) schedule).store
      ∧ ((clientPool ext cfg clients s₀).run (exec ext) schedule).store.Filed
      ∧ ((clientPool ext cfg clients s₀).run (exec ext) schedule).store.Keyed := by
  have heeds (i : ι)
      : ((clientPool ext cfg clients s₀).threads i).Heeds (serverDiscipline ext)
          (fun _ s => s.ValidNames) s₀ :=
    serving_lines (clients i).lines (clients i).session s₀ valid
  obtain ⟨grown, kept, -⟩ := Pool.heeds_run (D := serverDiscipline ext)
    (I := fun s => s.Filed ∧ s.Keyed) (fun _ _ may kept => filed_exec may kept) schedule heeds
    ⟨filed, keyed⟩
  exact ⟨grown, kept.1, kept.2⟩

/-- Two clients that post the same article. -/
def postingClients (_ : Fin 2) : Client :=
  ⟨Session.fresh openConfig false .article .cleared,
    [⟨"POST\r\n".toList, sendingEnv plainArticle⟩]⟩

theorem posting_clients_keep_store
    : fourGroups.Grown ((clientPool postExtern openConfig postingClients fourGroups).run
        (exec postExtern) takeTurns).store
      ∧ ((clientPool postExtern openConfig postingClients fourGroups).run
        (exec postExtern) takeTurns).store.Filed := by
  obtain ⟨grown, filed, -⟩ := clients_keep_store postExtern openConfig postingClients fourGroups
    fourGroups_validNames fourGroups_filed ⟨List.nodup_nil, List.nodup_nil⟩ takeTurns
  exact ⟨grown, filed⟩

end WendzelNNTPd
