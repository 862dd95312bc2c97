import WendzelNNTPd.Posting.AllOrNothing
import WendzelNNTPd.Lib.Pool

/-! A client that posts among others. Its POST command is followed through the modes that matter
to the others: whether it is about to change the counter file, which number it has taken, and
between which of the statements for a newsgroup it stands.
-/

namespace WendzelNNTPd

open CString Atomic

/-- A connection on which POST is executed. -/
structure PostClient where
  cfg : Config
  env : Env
  session : Session

namespace PostClient

variable (c : PostClient)

/-- The program of the client. -/
def program (ext : Extern) : Prog Sql Exit (Unit × Session) :=
  (docmdPost ext c.cfg c.env).run c.session

/-- The article of the client, if it is one that can be stored. -/
def article : Option Article :=
  match prepare c.cfg c.env with
  | .checked _ (.ok article) => some article
  | _ => none

/-- The client passes the checks and takes a number. -/
def Numbers (s : Store) : Prop :=
  ∃ ngstrp next, prepare c.cfg c.env = .checked ngstrp next
    ∧ s.postRefusal (strtok ',' ngstrp) = none ∧ c.cfg.messageCountInDb = false

/-- The client takes the whole process down. -/
def Crashes : Prop :=
  c.cfg.messageCountInDb = true ∨ prepare c.cfg c.env = .ended .crashed
  ∨ ∃ ngstrp, prepare c.cfg c.env = .checked ngstrp (.error .crashed)

/-- The newsgroups of an article that the client may post to, in their order. -/
def targets (s : Store) (article : Article) : List Str :=
  article.groups.filter (s.mayPost c.cfg c.session.curAuthUser)

end PostClient

/-- Where a client stands. `id` is the number of its message id, `served` the newsgroups that
have the article, `stack` what the client remembers of them. -/
inductive PostMode
  /-- Before the counter file. -/
  | checking
  /-- The counter file is open. -/
  | opened
  /-- The counter file could not be opened. -/
  | missing
  /-- The next number has been computed but not written. -/
  | writing (id : Nat)
  /-- There is no number. -/
  | noNumber
  | numbered (id : Nat)
  /-- The body file has been removed. -/
  | unlinked (id : Nat)
  /-- The body file has been written. -/
  | saved (id : Nat)
  /-- `postings` has refused the article. -/
  | refused (id : Nat)
  /-- In the loop over the newsgroups. -/
  | posting (id : Nat) (stack : Charstack) (served : List Str)
  /-- The high value of a newsgroup has been read. -/
  | holding (id : Nat) (stack : Charstack) (served : List Str) (group : Str) (high : Nat)
  /-- The row in `ngposts` has been inserted, the high value not yet updated. -/
  | inserted (id : Nat) (stack : Charstack) (served : List Str) (group : Str) (high : Nat)
  /-- A newsgroup is at the article limit. -/
  | full (id : Nat) (served : List Str) (group : Str)
  /-- `ngposts` has refused a row. -/
  | repeated (id : Nat) (served : List Str) (group : Str)

/-- The moves of a client: the statement it performs, the store it performs it on, and where
the result leads. -/
inductive PostMove (ext : Extern) (c : PostClient) : PostMode → Stmt → Store → PostMode → Prop
  | look (name : Str) (s : Store) : PostMove ext c .checking (.selectNewsgroup name) s .checking
  | lookPostable (name : Str) (s : Store)
    : PostMove ext c .checking (.selectPostable name) s .checking
  | openFile {s : Store} (found : (s.msgidFile.isSome && s.msgidWritable) = true)
    : PostMove ext c .checking .msgidOpen s .opened
  | openFails {s : Store} (failed : (s.msgidFile.isSome && s.msgidWritable) = false)
    : PostMove ext c .checking .msgidOpen s .missing
  | readFile {s : Store} {id : Nat} (counter : s.msgidFile.join = some id)
    : PostMove ext c .opened .msgidRead s (.writing (id + 1))
  | readFails {s : Store} (empty : s.msgidFile.join = none)
    : PostMove ext c .opened .msgidRead s .noNumber
  | createFile {s : Store} (writable : s.msgidWritable = true)
    : PostMove ext c .missing .msgidCreate s (.writing 1)
  | createFails {s : Store} (failed : s.msgidWritable = false)
    : PostMove ext c .missing .msgidCreate s .noNumber
  | writeFile (id : Nat) (s : Store) : PostMove ext c (.writing id) (.msgidWrite id) s (.numbered id)
  | unlink (id : Nat) (s : Store) {article : Article} (ready : c.article = some article)
    : PostMove ext c (.numbered id) (.bodyUnlink (bodyFile (numberedId id article.host))) s
        (.unlinked id)
  | save (id : Nat) (s : Store) {article : Article} (ready : c.article = some article)
    : PostMove ext c (.unlinked id)
        (.bodyWrite (bodyFile (numberedId id article.host)) article.body) s (.saved id)
  | insert (id : Nat) {s : Store} {article : Article} (ready : c.article = some article)
    (fresh : s.hasPosting (numberedId id article.host) = false)
    : PostMove ext c (.saved id) (.insertPosting (article.row ext c.env id)) s
        (.posting id .empty [])
  | insertFails (id : Nat) {s : Store} {article : Article} (ready : c.article = some article)
    (used : s.hasPosting (numberedId id article.host) = true)
    : PostMove ext c (.saved id) (.insertPosting (article.row ext c.env id)) s (.refused id)
  | askUsers (id : Nat) (stack : Charstack) (served : List Str) (user group : Str) (s : Store)
    : PostMove ext c (.posting id stack served) (.selectAclUsers user group) s
        (.posting id stack served)
  | askRoles (id : Nat) (stack : Charstack) (served : List Str) (user group : Str) (s : Store)
    : PostMove ext c (.posting id stack served) (.selectAclRoles user group) s
        (.posting id stack served)
  | limit (id : Nat) (stack : Charstack) (served : List Str) {group : Str} {s : Store}
    (above : s.highValue c.env.curHighInit group > highLimit)
    : PostMove ext c (.posting id stack served) (.selectNewsgroup group) s (.full id served group)
  | pass (id : Nat) {stack : Charstack} (served : List Str) {group : Str} (s : Store)
    (remembered : stack.checkFor group = true)
    : PostMove ext c (.posting id stack served) (.selectNewsgroup group) s (.posting id stack served)
  | hold (id : Nat) {stack : Charstack} (served : List Str) {group : Str} {s : Store}
    (room : s.highValue c.env.curHighInit group ≤ highLimit)
    (unknown : stack.checkFor group = false)
    : PostMove ext c (.posting id stack served) (.selectNewsgroup group) s
        (.holding id stack served group (s.highValue c.env.curHighInit group))
  | number (id : Nat) (stack : Charstack) (served : List Str) {group : Str} (high : Nat) {s : Store}
    {article : Article} (ready : c.article = some article)
    (free : s.hasNgpost (numberedId id article.host) group = false)
    : PostMove ext c (.holding id stack served group high)
        (.insertNgpost ⟨numberedId id article.host, group, high + 1⟩) s
        (.inserted id stack served group high)
  | numberFails (id : Nat) (stack : Charstack) (served : List Str) {group : Str} (high : Nat)
    {s : Store} {article : Article} (ready : c.article = some article)
    (taken : s.hasNgpost (numberedId id article.host) group = true)
    : PostMove ext c (.holding id stack served group high)
        (.insertNgpost ⟨numberedId id article.host, group, high + 1⟩) s (.repeated id served group)
  | raise (id : Nat) (stack : Charstack) (served : List Str) (group : Str) (high : Nat) (s : Store)
    : PostMove ext c (.inserted id stack served group high) (.updateHigh group (high + 1)) s
        (.posting id (stack.pushOn group) (served ++ [group]))

/-- What no client changes: names and flags of newsgroups, the access tables, permissions. -/
structure Store.Frozen (s₀ s : Store) : Prop where
  groups :
    s.newsgroups.map (fun g => (g.name, g.pflag)) = s₀.newsgroups.map (fun g => (g.name, g.pflag))
  users2roles : s.users2roles = s₀.users2roles
  aclUsers : s.aclUsers = s₀.aclUsers
  aclRoles : s.aclRoles = s₀.aclRoles
  msgidWritable : s.msgidWritable = s₀.msgidWritable
  spoolWritable : s.spoolWritable = s₀.spoolWritable

/-- The protocol of a client on stores that agree with `s₀` in what no client changes. -/
def PostClient.protocol (ext : Extern) (s₀ : Store) (c : PostClient)
    : Protocol Sql Store PostMode where
  Move := PostMove ext c
  Rely := s₀.Frozen

/-- Whether the loop over the newsgroups comes to its end as far as repetitions go. -/
def finishes : List Str → Charstack → List Str → Bool
  | [], _, _ => true
  | newsgroup :: rest, stack, served =>
      if stack.checkFor newsgroup then finishes rest stack served
      else if served.contains newsgroup then false
      else finishes rest (stack.pushOn newsgroup) (served ++ [newsgroup])

/-- The modes in which a client can be killed, and what is known of it then. -/
def KillReason (ext : Extern) (s₀ : Store) (c : PostClient) : PostMode → Prop
  | .checking => prepare c.cfg c.env = .ended .killed
  | .noNumber => c.Numbers s₀
  | .numbered _ => c.Numbers s₀ ∧ ∃ ngstrp, prepare c.cfg c.env = .checked ngstrp (.error .killed)
  | .saved id =>
      c.Numbers s₀
      ∧ ∃ article, c.article = some article ∧ (article.row ext c.env id).statementFits = false
  | .refused _ => c.Numbers s₀
  | .full _ _ group =>
      c.Numbers s₀ ∧ ∃ article, c.article = some article ∧ group ∈ c.targets s₀ article
  | .repeated _ served group =>
      c.Numbers s₀
      ∧ (group ∈ served →
          ∃ article, c.article = some article ∧ finishes (c.targets s₀ article) .empty [] = false)
  | _ => False

/-- A client is killed only for a reason; the other ends come before anything is stored. -/
def StopsFor (ext : Extern) (s₀ : Store) (c : PostClient) : Exit → PostMode → Prop
  | .killThread _, mode => KillReason ext s₀ c mode
  | .crash, mode => c.Crashes ∧ (mode = .checking ∨ ∃ id, mode = .numbered id)
  | .waiting, mode => mode = .checking

/-- A client that has returned has been refused by the checks, or has its article in all its
newsgroups. -/
def Returns (s₀ : Store) (c : PostClient) (value : Unit × Session) (mode : PostMode) : Prop :=
  (mode = .checking ∧ ¬(PostEnd.reply postdone).IsEndOf c.session (.ok value))
  ∨ ∃ id stack served article,
      mode = .posting id stack served ∧ c.article = some article
      ∧ ∀ g, g ∈ served ↔ g ∈ c.targets s₀ article

section Frozen

variable {s₀ s : Store}

theorem Store.Frozen.refl (s : Store) : s.Frozen s := ⟨rfl, rfl, rfl, rfl, rfl, rfl⟩

/-- A query that looks at names and flags only finds rows on both stores or on none. -/
theorem Store.Frozen.isEmpty_filter (frozen : s₀.Frozen s) (p : Str × Char → Bool)
    : (s.newsgroups.filter (fun g => p (g.name, g.pflag))).isEmpty
      = (s₀.newsgroups.filter (fun g => p (g.name, g.pflag))).isEmpty := by
  have mapped : ∀ rows : List Newsgroup,
      (rows.filter (fun g => p (g.name, g.pflag))).isEmpty
        = ((rows.map (fun g => (g.name, g.pflag))).filter p).isEmpty := by
    intro rows
    rw [List.filter_map, List.isEmpty_map]
    rfl
  rw [mapped, mapped, frozen.groups]

theorem Store.Frozen.mayPost (frozen : s₀.Frozen s) (cfg : Config) (user : Option Str)
    (newsgroup : Str)
    : s.mayPost cfg user newsgroup = s₀.mayPost cfg user newsgroup := by
  simp only [Store.mayPost, Store.userAllows, Store.aclAllows, frozen.users2roles,
    frozen.aclUsers, frozen.aclRoles]

end Frozen

section Follows

variable (ext : Extern) (s₀ : Store) (c : PostClient)

/-- A part of POST keeps to the protocol of the client, and returns as `Q` says. -/
def PostClient.Follows {α : Type} (m : Srv α) (session : Session) (mode : PostMode)
    (Q : α → Session → PostMode → Prop)
    : Prop :=
  (m.run session).Follows (exec ext) (c.protocol ext s₀) (StopsFor ext s₀ c) mode
    (fun out mode' => Q out.1 out.2 mode')

variable {ext s₀ c} {α β : Type} {session : Session} {mode : PostMode}

theorem PostClient.Follows.bind {m : Srv α} {f : α → Srv β} {R : α → Session → PostMode → Prop}
    {Q : β → Session → PostMode → Prop}
    (first : c.Follows ext s₀ m session mode R)
    (rest : ∀ a session' mode', R a session' mode' → c.Follows ext s₀ (f a) session' mode' Q)
    : c.Follows ext s₀ (m >>= f) session mode Q := by
  unfold PostClient.Follows
  rw [StateT.run_bind]
  refine Prog.Follows.bind (Prog.Follows.mono first ?_)
  intro out mode' returned
  exact rest out.1 out.2 mode' returned

/-- One statement: a move for every store that the client may find. -/
theorem follows_sql {op : Stmt} {f : op.Result → Srv α} {Q : α → Session → PostMode → Prop}
    (moves
      : ∀ s, s₀.Frozen s →
          ∃ mode', PostMove ext c mode op s mode'
            ∧ c.Follows ext s₀ (f (exec ext op s).1) session mode' Q)
    : c.Follows ext s₀ (sql op >>= f) session mode Q :=
  moves

/-- The high value of a newsgroup: a move for every value that the client may read. -/
theorem follows_getHighValue {newsgroup : Str} {f : Nat → Srv α}
    {Q : α → Session → PostMode → Prop}
    (moves
      : ∀ s, s₀.Frozen s →
          ∃ mode', PostMove ext c mode (.selectNewsgroup newsgroup) s mode'
            ∧ c.Follows ext s₀ (f (s.highValue c.env.curHighInit newsgroup)) session mode' Q)
    : c.Follows ext s₀ (dbGetHighValue c.env newsgroup >>= f) session mode Q :=
  moves

theorem follows_modify {g : Session → Session} {f : PUnit → Srv α}
    {Q : α → Session → PostMode → Prop} (rest : c.Follows ext s₀ (f ⟨⟩) (g session) mode Q)
    : c.Follows ext s₀ (modify g >>= f) session mode Q :=
  rest

theorem follows_get {f : Session → Srv α} {Q : α → Session → PostMode → Prop}
    (rest : c.Follows ext s₀ (f session) session mode Q)
    : c.Follows ext s₀ (get >>= f) session mode Q :=
  rest

theorem follows_killThread (mode : PostMode) {Q : α → Session → PostMode → Prop}
    (reason : KillReason ext s₀ c mode)
    : c.Follows ext s₀ (killThread : Srv α) session mode Q :=
  reason

theorem follows_secexecError (mode : PostMode) {Q : α → Session → PostMode → Prop}
    (reason : KillReason ext s₀ c mode)
    : c.Follows ext s₀ (secexecError : Srv α) session mode Q :=
  reason

end Follows

section Checks

variable (ext : Extern) (s₀ : Store) (c : PostClient)

/-- The check for a newsgroup decides as on the first store. -/
theorem dbCheckNewsgroupExistence_follows (session : Session) {name : Str}
    (chkname : session.chkname = some name)
    : c.Follows ext s₀ dbCheckNewsgroupExistence session .checking
        (fun _ session' mode =>
          mode = .checking
          ∧ session' = { session with
            foundGroup := !(s₀.newsgroups.filter (·.name == name)).isEmpty }) := by
  unfold dbCheckNewsgroupExistence
  apply follows_modify
  apply follows_get
  simp only [chkname]
  refine follows_sql (fun s frozen => ⟨.checking, .look name s, ?_⟩)
  have found := frozen.isEmpty_filter (fun g => g.1 == name)
  simp only [exec, found]
  exact ⟨rfl, rfl⟩

/-- So does the check that it may be posted to. -/
theorem dbCheckNewsgroupPostingAllowed_follows (session : Session) {name : Str}
    (chkname : session.chkname = some name)
    : c.Follows ext s₀ dbCheckNewsgroupPostingAllowed session .checking
        (fun _ session' mode =>
          mode = .checking
          ∧ session' = { session with
            foundGroup := !(s₀.newsgroups.filter
              (fun g => g.name == name && g.pflag == 'y')).isEmpty }) := by
  unfold dbCheckNewsgroupPostingAllowed
  apply follows_modify
  apply follows_get
  simp only [chkname]
  refine follows_sql (fun s frozen => ⟨.checking, .lookPostable name s, ?_⟩)
  have postable := frozen.isEmpty_filter (fun g => g.1 == name && g.2 == 'y')
  simp only [exec, postable]
  exact ⟨rfl, rfl⟩

/-- The check of the newsgroup names decides as on the first store. -/
theorem chkNgNameCorrectness_follows (groups : List Str) (session : Session)
    : c.Follows ext s₀ (chkNgNameCorrectness groups) session .checking
        (fun ok session' mode =>
          mode = .checking ∧ ok = (s₀.postRefusal groups).isNone
          ∧ session'.curAuthUser = session.curAuthUser
          ∧ session'.curstring
            = session.curstring ++ ((s₀.postRefusal groups).map (fun m => ⟨m, none⟩)).toList) := by
  induction groups generalizing session with
  | nil => exact ⟨rfl, rfl, rfl, by simp [Store.postRefusal]⟩
  | cons newsgroup rest ih =>
      unfold chkNgNameCorrectness
      apply follows_modify
      refine (dbCheckNewsgroupExistence_follows ext s₀ c _ rfl).bind ?_
      rintro _ _ _ ⟨rfl, rfl⟩
      apply follows_modify
      apply follows_get
      simp only [Store.postRefusal]
      cases missing : (s₀.newsgroups.filter
          (·.name == dbSecureSqlbuffer .sqlite3 newsgroup)).isEmpty with
      | true => exact ⟨rfl, rfl, rfl, rfl⟩
      | false =>
          apply follows_modify
          refine (dbCheckNewsgroupPostingAllowed_follows ext s₀ c _ rfl).bind ?_
          rintro _ _ _ ⟨rfl, rfl⟩
          apply follows_modify
          apply follows_get
          cases closed : (s₀.newsgroups.filter
              (fun g => g.name == dbSecureSqlbuffer .sqlite3 newsgroup && g.pflag == 'y')).isEmpty with
          | true => exact ⟨rfl, rfl, rfl, rfl⟩
          | false => exact ih { session with chkname := none, foundGroup := false }

/-- The access check decides as on the first store. -/
theorem aclCheckIfUsed_follows (cfg : Config) (user : Option Str) (newsgroup : Str)
    (session : Session) (id : Nat) (stack : Charstack) (served : List Str)
    : c.Follows ext s₀ (aclCheckIfUsed cfg user newsgroup) session (.posting id stack served)
        (fun ok session' mode =>
          ok = s₀.mayPost cfg user newsgroup ∧ session' = session
          ∧ mode = .posting id stack served) := by
  unfold aclCheckIfUsed Store.mayPost
  split
  · cases user with
    | none => exact ⟨rfl, rfl, rfl⟩
    | some user =>
        unfold aclCheckUserGroup dbAclCheckUserGroup
        refine follows_sql (fun s frozen => ⟨_, .askUsers id stack served user newsgroup s, ?_⟩)
        have direct := selectAclUsers_isEmpty s user newsgroup
        rw [frozen.aclUsers] at direct
        simp only [exec, frozen.aclUsers, direct]
        cases found : s₀.aclUsers.contains ⟨user, newsgroup⟩ with
        | true =>
            refine ⟨?_, rfl, rfl⟩
            simp only [Store.userAllows, Option.any_some, Store.aclAllows, found, Bool.true_or]
        | false =>
            refine follows_sql (fun s frozen => ⟨_, .askRoles id stack served user newsgroup s, ?_⟩)
            have viaRole := selectAclRoles_isEmpty s user newsgroup
            rw [frozen.users2roles, frozen.aclRoles] at viaRole
            simp only [exec, frozen.users2roles, frozen.aclRoles, viaRole]
            refine ⟨?_, rfl, rfl⟩
            simp only [Store.userAllows, Option.any_some, Store.aclAllows, found, Bool.false_or,
              Bool.not_not]
  · exact ⟨rfl, rfl, rfl⟩

/-- `get_uniqnum` takes a number or returns without one. -/
theorem getUniqnum_follows (session : Session)
    : c.Follows ext s₀ getUniqnum session .checking
        (fun newid session' mode =>
          session' = session
          ∧ (mode = .noNumber ∧ newid = none
            ∨ ∃ id, mode = .numbered id ∧ newid = some ("<cdp".toList ++ dec id ++ ['@']))) := by
  unfold getUniqnum
  refine follows_sql (fun s _ => ?_)
  cases opened : s.msgidFile.isSome && s.msgidWritable with
  | true =>
      refine ⟨.opened, .openFile opened, ?_⟩
      simp only [exec, opened, if_true]
      refine follows_sql (fun s _ => ?_)
      cases counter : s.msgidFile.join with
      | none =>
          refine ⟨.noNumber, .readFails counter, ?_⟩
          simp only [exec, counter]
          exact ⟨rfl, Or.inl ⟨rfl, rfl⟩⟩
      | some id =>
          refine ⟨.writing (id + 1), .readFile counter, ?_⟩
          simp only [exec, counter]
          exact follows_sql
            (fun s _ => ⟨.numbered (id + 1), .writeFile _ s, rfl, Or.inr ⟨id + 1, rfl, rfl⟩⟩)
  | false =>
      refine ⟨.missing, .openFails opened, ?_⟩
      simp only [exec, opened]
      refine follows_sql (fun s _ => ?_)
      cases writable : s.msgidWritable with
      | true =>
          refine ⟨.writing 1, .createFile writable, ?_⟩
          simp only [exec, writable, if_true]
          exact follows_sql (fun s _ => ⟨.numbered 1, .writeFile _ s, rfl, Or.inr ⟨1, rfl, rfl⟩⟩)
      | false =>
          refine ⟨.noNumber, .createFails writable, ?_⟩
          simp only [exec, writable]
          exact ⟨rfl, Or.inl ⟨rfl, rfl⟩⟩

end Checks

section Storing

variable (ext : Extern) (s₀ : Store) (c : PostClient) {article : Article}
  (ready : c.article = some article) (session : Session) (id : Nat)

include ready

theorem filebackendSavebody_follows
    : c.Follows ext s₀ (filebackendSavebody (numberedId id article.host) article.body) session
        (.numbered id) (fun _ session' mode => session' = session ∧ mode = .saved id) := by
  unfold filebackendSavebody
  refine follows_sql (fun s _ => ⟨.unlinked id, .unlink id s ready, ?_⟩)
  exact follows_sql (fun s _ => ⟨.saved id, .save id s ready, rfl, rfl⟩)

variable (numbers : c.Numbers s₀)

include numbers

theorem dbPostInsertIntoPostings_follows
    : c.Follows ext s₀ (dbPostInsertIntoPostings (article.row ext c.env id)) session (.saved id)
        (fun _ session' mode => session' = session ∧ mode = .posting id .empty []) := by
  unfold dbPostInsertIntoPostings
  split
  · refine follows_sql (fun s _ => ?_)
    have inserted := exec_insertPosting ext s (article.row ext c.env id)
    cases used : s.hasPosting (numberedId id article.host) with
    | false =>
        refine ⟨_, .insert id ready used, ?_⟩
        rw [inserted.trans (if_neg (Bool.eq_false_iff.mp used))]
        exact ⟨rfl, rfl⟩
    | true =>
        refine ⟨_, .insertFails id ready used, ?_⟩
        rw [inserted.trans (if_pos used)]
        exact follows_secexecError (.refused id) numbers
  · rename_i long
    exact follows_secexecError (.saved id)
      ⟨numbers, article, ready, Bool.eq_false_iff.mpr long⟩

theorem dbPostInsertIntoNgposts_follows (stack : Charstack) (served : List Str) (group : Str)
    (high : Nat)
    (repeats : group ∈ served → finishes (c.targets s₀ article) .empty [] = false)
    : c.Follows ext s₀ (dbPostInsertIntoNgposts (numberedId id article.host) group (high + 1)) session
        (.holding id stack served group high)
        (fun _ session' mode => session' = session ∧ mode = .inserted id stack served group high) := by
  unfold dbPostInsertIntoNgposts
  refine follows_sql (fun s _ => ?_)
  have inserted := exec_insertNgpost ext ⟨numberedId id article.host, group, high + 1⟩ s
  cases taken : s.hasNgpost (numberedId id article.host) group with
  | false =>
      refine ⟨_, .number id stack served high ready taken, ?_⟩
      rw [inserted.trans (if_neg (Bool.eq_false_iff.mp taken))]
      exact ⟨rfl, rfl⟩
  | true =>
      refine ⟨_, .numberFails id stack served high ready taken, ?_⟩
      rw [inserted.trans (if_pos taken)]
      exact follows_secexecError (.repeated id served group)
        ⟨numbers, fun member => ⟨article, ready, repeats member⟩⟩

/-- The loop over the newsgroups. It comes to its end with every newsgroup served, or is stopped
at the limit, or at a newsgroup whose row is there already.
Witness: induction on the newsgroups; if what the loop is still to do does not finish, neither
does the whole loop, so that a newsgroup of its own that stops it would stop it alone.
-/
theorem postToGroups_follows (user : session.curAuthUser = c.session.curAuthUser)
    (groups : List Str) (stack : Charstack) (served : List Str)
    (remaining
      : finishes (groups.filter (s₀.mayPost c.cfg c.session.curAuthUser)) stack served = false →
        finishes (c.targets s₀ article) .empty [] = false)
    (remembered : stack.values ⊆ served) (within : ∀ g ∈ groups, g ∈ article.groups)
    : c.Follows ext s₀ (postToGroups c.cfg c.env (numberedId id article.host) groups stack) session
        (.posting id stack served)
        (fun _ session' mode =>
          session' = session
          ∧ ∃ stack' served', mode = .posting id stack' served'
            ∧ ∀ g, g ∈ served'
              ↔ g ∈ served ∨ g ∈ groups ∧ s₀.mayPost c.cfg c.session.curAuthUser g = true) := by
  induction groups generalizing stack served with
  | nil => exact ⟨rfl, stack, served, rfl, by simp⟩
  | cons newsgroup rest ih =>
      -- the rest of the loop, once this newsgroup is served or needs not be
      have goesOn : ∀ stack₁ served₁,
          (∀ g, g ∈ served₁
            ↔ g ∈ served ∨ g = newsgroup ∧ s₀.mayPost c.cfg c.session.curAuthUser g = true) →
          (finishes (rest.filter (s₀.mayPost c.cfg c.session.curAuthUser)) stack₁ served₁ = false →
            finishes (c.targets s₀ article) .empty [] = false) →
          stack₁.values ⊆ served₁ →
          c.Follows ext s₀ (postToGroups c.cfg c.env (numberedId id article.host) rest stack₁) session
            (.posting id stack₁ served₁)
            (fun _ session' mode =>
              session' = session
              ∧ ∃ stack' served', mode = .posting id stack' served'
                ∧ ∀ g, g ∈ served'
                  ↔ g ∈ served ∨ g ∈ newsgroup :: rest
                    ∧ s₀.mayPost c.cfg c.session.curAuthUser g = true) := by
        intro stack₁ served₁ first remaining₁ remembered₁
        refine Prog.Follows.mono (ih stack₁ served₁ remaining₁ remembered₁
          (fun g member => within g (List.mem_cons_of_mem _ member))) ?_
        rintro _ _ ⟨same, stack', served', rfl, all⟩
        refine ⟨same, stack', served', rfl, fun g => ?_⟩
        rw [all, first, List.mem_cons]
        tauto
      unfold postToGroups
      apply follows_get
      refine (aclCheckIfUsed_follows ext s₀ c c.cfg _ newsgroup session id stack served).bind ?_
      rintro _ session' _ ⟨rfl, same, rfl⟩
      rw [user, same]
      cases access : s₀.mayPost c.cfg c.session.curAuthUser newsgroup with
      | false =>
          rw [List.filter_cons_of_neg (by simp [access])] at remaining
          refine goesOn stack served (fun g => ?_) remaining remembered
          constructor
          · exact Or.inl
          · rintro (earlier | ⟨rfl, allowed⟩)
            · exact earlier
            · exact absurd allowed (by simp [access])
      | true =>
          rw [List.filter_cons_of_pos access] at remaining
          simp only [finishes] at remaining
          refine follows_getHighValue (fun s _ => ?_)
          by_cases full : s.highValue c.env.curHighInit newsgroup > highLimit
          · refine ⟨_, .limit id stack served full, ?_⟩
            rw [if_pos full]
            refine follows_killThread (.full id served newsgroup) ⟨numbers, article, ready, ?_⟩
            exact List.mem_filter.mpr ⟨within newsgroup (by simp), access⟩
          · rw [if_neg full]
            cases known : stack.checkFor newsgroup with
            | true =>
                refine ⟨_, .pass id served s known, ?_⟩
                rw [known, if_pos rfl] at remaining
                refine goesOn stack served (fun g => ?_) remaining remembered
                constructor
                · exact Or.inl
                · rintro (earlier | ⟨rfl, -⟩)
                  · exact earlier
                  · exact remembered (checkFor_iff.mp known)
            | false =>
                refine ⟨_, .hold id served (Nat.not_lt.mp full) known, ?_⟩
                rw [known, if_neg Bool.false_ne_true] at remaining
                refine (dbPostInsertIntoNgposts_follows ext s₀ c ready session id numbers stack served
                  newsgroup _ ?_).bind ?_
                · intro member
                  exact remaining (if_pos (List.contains_iff_mem.mpr member))
                · rintro _ session' _ ⟨same, rfl⟩
                  rw [same]
                  refine follows_sql (fun s _ => ⟨_, .raise id stack served newsgroup _ s, ?_⟩)
                  refine goesOn (stack.pushOn newsgroup) (served ++ [newsgroup]) (fun g => ?_) ?_ ?_
                  · rw [List.mem_append, List.mem_singleton]
                    exact or_congr_right ⟨fun same => ⟨same, same ▸ access⟩, And.left⟩
                  · intro stops
                    apply remaining
                    split
                    · rfl
                    · exact stops
                  · intro g member
                    rcases mem_values_pushOn member with earlier | rfl
                    · exact List.mem_append_left _ (remembered earlier)
                    · exact List.mem_append_right _ (List.mem_singleton.mpr rfl)

end Storing

section Post

variable (ext : Extern) (s₀ : Store) (c : PostClient)

theorem storeArticle_follows {article : Article} (ready : c.article = some article)
    (numbers : c.Numbers s₀) (bodyInFile : c.cfg.messageBodyInDb = false) (session : Session)
    (user : session.curAuthUser = c.session.curAuthUser) (id : Nat)
    : c.Follows ext s₀
        (storeArticle c.cfg c.env (article.row ext c.env id) article.body article.groups) session
        (.numbered id) (fun value session' mode => Returns s₀ c (value, session') mode) := by
  unfold storeArticle
  rw [if_neg (by simp [bodyInFile])]
  refine (filebackendSavebody_follows ext s₀ c ready session id).bind ?_
  rintro _ session' _ ⟨same, rfl⟩
  rw [same]
  refine (dbPostInsertIntoPostings_follows ext s₀ c ready session id numbers).bind ?_
  rintro _ session' _ ⟨same, rfl⟩
  rw [same]
  refine (postToGroups_follows ext s₀ c ready session id numbers user article.groups .empty []
    (fun stops => stops) (List.Subset.refl _) (fun _ member => member)).bind ?_
  rintro _ session' _ ⟨same, stack, served, rfl, all⟩
  refine Or.inr ⟨id, stack, served, article, rfl, ready, fun g => ?_⟩
  rw [all, PostClient.targets, List.mem_filter]
  simp only [List.not_mem_nil, false_or]

/-- A client that has passed the checks and is to take a number. -/
theorem postAccepted_follows {len : Nat} {header ngstrp body : Str} {next : Except PostEnd Article}
    (prepared : prepare c.cfg c.env = .checked ngstrp next)
    (passed : next = prepareArticle c.cfg c.env len header ngstrp body)
    (accepted : s₀.postRefusal (strtok ',' ngstrp) = none) (session : Session)
    (user : session.curAuthUser = c.session.curAuthUser)
    : c.Follows ext s₀ (postAccepted ext c.cfg c.env len header ngstrp body) session .checking
        (fun value session' mode => Returns s₀ c (value, session') mode) := by
  unfold postAccepted newMessageNumber
  cases inDb : c.cfg.messageCountInDb with
  | true => exact ⟨Or.inl inDb, Or.inl rfl⟩
  | false =>
      have numbers : c.Numbers s₀ := ⟨ngstrp, next, prepared, accepted, inDb⟩
      refine (getUniqnum_follows ext s₀ c session).bind ?_
      rintro newid session' mode ⟨same, ⟨rfl, rfl⟩ | ⟨id, rfl, rfl⟩⟩
      · exact follows_killThread .noNumber numbers
      · rw [same]
        have killed : next = .error .killed → KillReason ext s₀ c (.numbered id) := by
          intro ended
          exact ⟨numbers, ngstrp, ended ▸ prepared⟩
        have crashes : next = .error .crashed → c.Crashes := by
          intro ended
          exact Or.inr (Or.inr ⟨ngstrp, ended ▸ prepared⟩)
        unfold prepareArticle at passed
        cases known : messageIdHost c.cfg c.env with
        | none =>
            rw [known] at passed
            exact follows_killThread (.numbered id) (killed passed)
        | some host =>
            rw [known] at passed
            cases removed : removeFields len header with
            | none =>
                rw [removed] at passed
                exact ⟨crashes passed, Or.inr ⟨id, rfl⟩⟩
            | some kept =>
                rw [removed] at passed
                cases time : c.env.ltime with
                | none =>
                    rw [time] at passed
                    exact follows_killThread (.numbered id) (killed passed)
                | some ltime =>
                    rw [time] at passed
                    cases bodyInDb : c.cfg.messageBodyInDb with
                    | true =>
                        simp only [bodyInDb, if_true] at passed
                        simp only [storeArticle, bodyInDb, if_true]
                        exact ⟨crashes passed, Or.inr ⟨id, rfl⟩⟩
                    | false =>
                        simp only [bodyInDb, Bool.false_eq_true, if_false] at passed
                        have ready : c.article = some ⟨host, ltime, ngstrp, cstr kept, body⟩ := by
                          simp only [PostClient.article, prepared, passed]
                        exact storeArticle_follows ext s₀ c ready numbers bodyInDb session user id

theorem postArticle_follows {buf : Str}
    (prepared : prepare c.cfg c.env = prepareBuffer c.cfg c.env buf) (session : Session)
    (user : session.curAuthUser = c.session.curAuthUser)
    (silent : session.curstring = c.session.curstring)
    : c.Follows ext s₀ (postArticle ext c.cfg c.env buf) session .checking
        (fun value session' mode => Returns s₀ c (value, session') mode) := by
  -- a reply to the client that is not 240
  have replied : ∀ (message : Str) (session' : Session), message ≠ postdone →
      session'.curstring = session.curstring ++ [⟨message, none⟩] →
      Returns s₀ c ((), session') .checking := by
    intro message session' other reply
    refine Or.inl ⟨rfl, ?_⟩
    rintro ⟨_, same, ended⟩
    cases same
    rw [reply, silent] at ended
    simp only [List.append_cancel_left_eq, List.cons.injEq, Piece.mk.injEq, and_true] at ended
    exact other ended
  unfold postArticle
  unfold prepareBuffer at prepared
  cases checked : checkArticle buf with
  | garbage =>
      rw [checked] at prepared
      exact follows_killThread .checking prepared
  | crash =>
      rw [checked] at prepared
      exact ⟨Or.inr (Or.inl prepared), Or.inl rfl⟩
  | refused message => exact replied message _ (checkArticle_ne checked) rfl
  | passed len header ngstrp body =>
      rw [checked] at prepared
      refine (chkNgNameCorrectness_follows ext s₀ c (strtok ',' ngstrp) session).bind ?_
      rintro _ session' _ ⟨rfl, rfl, sameUser, reply⟩
      cases refusal : s₀.postRefusal (strtok ',' ngstrp) with
      | some message =>
          rw [refusal] at reply
          exact replied message session' (postRefusal_ne refusal) reply
      | none =>
          exact postAccepted_follows ext s₀ c prepared rfl refusal session' (sameUser.trans user)

/-- POST keeps to the protocol of its client. -/
theorem program_follows
    : (c.program ext).Follows (exec ext) (c.protocol ext s₀) (StopsFor ext s₀ c) .checking
        (Returns s₀ c) := by
  have body : c.Follows ext s₀ (docmdPost ext c.cfg c.env) c.session .checking
      (fun value session' mode => Returns s₀ c (value, session') mode) := by
    unfold docmdPost
    apply follows_modify
    cases received : postReceive c.cfg.maxPostSize [] c.env.recv with
    | tooBig =>
        apply follows_modify
        exact follows_killThread .checking (by simp only [KillReason, prepare, received])
    | failed =>
        exact follows_killThread .checking (by simp only [KillReason, prepare, received])
    | waiting => exact rfl
    | article buf =>
        exact postArticle_follows ext s₀ c (by simp only [prepare, received]) _ rfl rfl
  exact body

end Post

section Moves

/-- The newsgroup has a row for the client's article. -/
def PostMode.delivered (g : Str) : PostMode → Bool
  | .posting _ _ served | .holding _ _ served _ _ | .full _ served _ | .repeated _ served _ =>
      served.contains g
  | .inserted _ _ served group _ => served.contains g || group == g
  | _ => false

/-- The number of the client's message id. -/
def PostMode.number : PostMode → Option Nat
  | .checking | .opened | .missing | .writing _ | .noNumber => none
  | .numbered id | .unlinked id | .saved id | .refused id => some id
  | .posting id _ _ | .holding id _ _ _ _ | .inserted id _ _ _ _ => some id
  | .full id _ _ | .repeated id _ _ => some id

variable {ext : Extern} {c : PostClient} {mode mode' : PostMode} {op : Stmt} {s s₀ : Store}

/-- A number once taken is kept. -/
theorem PostMove.number_kept (move : PostMove ext c mode op s mode') {id : Nat}
    (number : mode.number = some id)
    : mode'.number = some id := by
  cases move
  all_goals first | exact number | cases number

/-- No move changes what a client may rely on. -/
theorem PostMove.frozen (move : PostMove ext c mode op s mode') (frozen : s₀.Frozen s)
    : s₀.Frozen (exec ext op s).2 := by
  obtain ⟨groups, users2roles, aclUsers, aclRoles, msgidWritable, spoolWritable⟩ := frozen
  cases move
  case raise =>
    refine ⟨?_, users2roles, aclUsers, aclRoles, msgidWritable, spoolWritable⟩
    rw [← groups]
    simp only [exec, List.map_map]
    refine List.map_congr_left (fun r _ => ?_)
    simp only [Function.comp_apply]
    split <;> rfl
  case createFile writable =>
    simp only [exec, if_pos writable]
    exact ⟨groups, users2roles, aclUsers, aclRoles, msgidWritable, spoolWritable⟩
  case createFails failed =>
    simp only [exec, failed]
    exact ⟨groups, users2roles, aclUsers, aclRoles, msgidWritable, spoolWritable⟩
  case save =>
    rw [exec_bodyWrite]
    exact ⟨groups, users2roles, aclUsers, aclRoles, msgidWritable, spoolWritable⟩
  all_goals exact ⟨groups, users2roles, aclUsers, aclRoles, msgidWritable, spoolWritable⟩

end Moves

/-- The modes in the middle of something, in which no client ends. -/
def PostMode.running : PostMode → Bool
  | .opened | .missing | .writing _ | .unlinked _ => true
  | .holding _ _ _ _ _ | .inserted _ _ _ _ _ => true
  | _ => false

/-- A client in the middle of something performs another statement, one that its mode allows. -/
theorem acts_of_running {ext : Extern} {c : PostClient} {s₀ : Store}
    {p : Prog Sql Exit (Unit × Session)} {mode : PostMode}
    (follows : p.Follows (exec ext) (c.protocol ext s₀) (StopsFor ext s₀ c) mode (Returns s₀ c))
    (running : mode.running = true)
    : ∃ op mode', p.nextAct = some op ∧ PostMove ext c mode op s₀ mode' := by
  cases p with
  | done value =>
      rcases follows with ⟨rfl, -⟩ | ⟨id, stack, served, article, rfl, -⟩
      all_goals cases running
  | stop reason =>
      cases reason with
      | killThread sent =>
          have reason : KillReason ext s₀ c mode := follows
          cases mode
          all_goals first | exact False.elim reason | cases running
      | crash =>
          rcases follows.2 with rfl | ⟨id, rfl⟩
          all_goals cases running
      | waiting =>
          cases follows
          cases running
  | act op next =>
      obtain ⟨mode', move, -⟩ := follows s₀ (.refl s₀)
      exact ⟨op, mode', rfl, move⟩

/-- The clients at the start of their POST commands. -/
def postPool {ι : Type} (ext : Extern) (clients : ι → PostClient) (s₀ : Store)
    : Pool Sql Exit (Unit × Session) Store ι where
  threads i := (clients i).program ext
  store := s₀

/-- The clients of a pool keep to their protocols, with an invariant of modes and store. -/
abbrev PostsGoverned {ι : Type} (ext : Extern) (clients : ι → PostClient) (s₀ : Store)
    (Inv : (ι → PostMode) → Store → Prop) (pool : Pool Sql Exit (Unit × Session) Store ι)
    (modes : ι → PostMode)
    : Prop :=
  pool.Governed (exec ext) (fun i => (clients i).protocol ext s₀)
    (fun i => StopsFor ext s₀ (clients i)) (fun i => Returns s₀ (clients i)) Inv modes

theorem postPool_governed {ι : Type} (ext : Extern) (clients : ι → PostClient) (s₀ : Store)
    {Inv : (ι → PostMode) → Store → Prop} (start : Inv (fun _ => .checking) s₀)
    : PostsGoverned ext clients s₀ Inv (postPool ext clients s₀) (fun _ => .checking) :=
  ⟨fun i => program_follows ext s₀ (clients i), start⟩

end WendzelNNTPd
