import WendzelNNTPd.Access.Authentication

/-! Which articles a client is shown. Only GROUP, LISTGROUP, LIST and POST consult the access
tables; the other reading commands trust the selected newsgroup. Two steps can leave a
newsgroup selected that the user has no access to: LISTGROUP, which selects before it checks,
and a login as another user, which keeps the selection.
-/

namespace WendzelNNTPd

open CString Atomic

/-- The newsgroup an accepted LISTGROUP command names and finds, and so selects. -/
def listgroupSelects (cfg : Config) (conn : Connection) (line : Line) : Option Str :=
  let A := conn.session.access.atCommand
  if caseEqPrefix "listgroup".toList line.command && A.mayCommand cfg && A.tlsSuffices cfg then
    (getSlinearg line.command 1).filter
      (fun name => conn.store.newsgroups.any (fun g => g.name == name))
  else none

/-- The user an AUTHINFO PASS logs in. -/
def loginUser (ext : Extern) (cfg : Config) (conn : Connection) (line : Line) : Option Str :=
  let A := conn.session.access.atCommand
  match authinfoEvent cfg A.tlsActive line.command with
  | some (.pass (some pass)) =>
      A.curAuthUser.filter
        (fun user => conn.store.users.contains ⟨user, getSha256HashFromStr ext cfg user pass⟩)
  | _ => none

/-- The line selects no newsgroup by LISTGROUP that the user has no access to, and logs in
no user without access to the selected newsgroup. -/
def keepsAccess (ext : Extern) (cfg : Config) (conn : Connection) (line : Line) : Bool :=
  let A := conn.session.access.atCommand
  (listgroupSelects cfg conn line).all (fun name => conn.store.userAllows A.curAuthUser name)
  && (loginUser ext cfg conn line).all
    (fun user => A.selectedGroup.all (fun group => conn.store.aclAllows user group))

/-- All lines of a run meet a condition on the connection before them. -/
def Connection.runsUnder (ext : Extern) (cfg : Config) (cond : Connection → Line → Bool)
    : Connection → List Line → Bool
  | _, [] => true
  | conn, line :: rest =>
      cond conn line
      && match conn.serve ext cfg line with
        | some next => next.runsUnder ext cfg cond rest
        | none => true

/-- The authenticated user has access to the selected newsgroup. -/
def SelectedAccessible (s : Store) (A : AccessState) : Prop :=
  A.authIsThere = true
  → ∃ user, A.curAuthUser = some user
    ∧ ∀ group, A.selectedGroup = some group → s.aclAllows user group = true

section Steps

variable {ext : Extern} {cfg : Config} {s : Store} {A : AccessState}

theorem SelectedAccessible.atCommand (inv : SelectedAccessible s A)
    : SelectedAccessible s A.atCommand := by
  unfold AccessState.atCommand
  split
  · intro there
    obtain ⟨user, current, -⟩ := inv there
    exact ⟨user, current, fun group selected => by cases selected⟩
  · exact inv

/-- Selecting a newsgroup the user has access to. -/
theorem selectedAccessible_of_allows {name : Str} (allowed : s.userAllows A.curAuthUser name = true)
    : SelectedAccessible s { A with selectedGroup := some name } := by
  intro _
  obtain ⟨user, current, allows⟩ : ∃ user, A.curAuthUser = some user
      ∧ s.aclAllows user name = true := by
    simpa [Store.userAllows, Option.any_eq_true] using allowed
  refine ⟨user, current, ?_⟩
  rintro group ⟨⟩
  exact allows

/-- The step lemma. -/
theorem SelectedAccessible.step {conn : Connection} {line : Line} {A' : AccessState}
    (useAuth : cfg.useAuth = true) (useAcl : cfg.useAcl = true)
    (keeps : keepsAccess ext cfg conn line = true)
    (inv : SelectedAccessible conn.store conn.session.access)
    (step : AccessStep ext cfg conn.store line.command conn.session.access.atCommand A')
    : SelectedAccessible conn.store A' := by
  have start := inv.atCommand
  obtain ⟨listgroup, login⟩ := Bool.and_eq_true_iff.mp keeps
  cases step with
  | unchanged event => exact start
  | starttls event => exact start
  | group name event allowed =>
      exact selectedAccessible_of_allows (allowed (by simp [useAuth, useAcl]))
  | listgroup name event isListgroup may tls arg there =>
      apply selectedAccessible_of_allows
      have selects : listgroupSelects cfg conn line = some name := by
        obtain ⟨g, member, same⟩ := there
        simp only [listgroupSelects, isListgroup, may, tls, arg, Bool.and_self, if_true]
        refine Option.filter_eq_some_iff.mpr ⟨rfl, ?_⟩
        exact List.any_eq_true.mpr ⟨g, member, beq_iff_eq.mpr same⟩
      simpa [selects] using listgroup
  | authinfo event evaluated =>
      cases event with
      | user arg => exact fun there => by cases there
      | pass arg =>
          simp only [authAfter]
          split
          · rename_i user pass current
            intro there
            refine ⟨user, by simp [useAcl], fun group selected => ?_⟩
            have logsIn : loginUser ext cfg conn line = some user := by
              simp only [loginUser, evaluated, current]
              exact Option.filter_eq_some_iff.mpr ⟨rfl, there⟩
            have kept : conn.session.access.atCommand.selectedGroup = some group := selected
            simpa [logsIn, kept] using login
          · exact fun there => by cases there

/-- The run lemma: the selected newsgroup stays accessible. -/
theorem SelectedAccessible.serveAll {conn conn' : Connection} (lines : List Line)
    (useAuth : cfg.useAuth = true) (useAcl : cfg.useAcl = true)
    (inv : SelectedAccessible conn.store conn.session.access)
    (idle : conn.session.curstring = [])
    (under : conn.runsUnder ext cfg (keepsAccess ext cfg) lines = true)
    (served : conn.serveAll ext cfg lines = some conn')
    : SelectedAccessible conn'.store conn'.session.access := by
  induction lines generalizing conn with
  | nil =>
      cases served
      exact inv
  | cons line rest ih =>
      rw [Connection.serveAll, List.foldlM_cons] at served
      obtain ⟨next, first, later⟩ := Option.bind_eq_some_iff.mp served
      obtain ⟨keeps, underRest⟩ := Bool.and_eq_true_iff.mp under
      rw [first] at underRest
      obtain ⟨⟨A', step, replying⟩, nextIdle, tables⟩ :=
        serve_steps (P := fun _ => True) idle (fun _ _ _ => trivial) first
      refine ih ?_ nextIdle underRest later
      rw [replying.access]
      intro there
      obtain ⟨user, current, accessible⟩ := inv.step useAuth useAcl keeps step there
      refine ⟨user, current, fun group selected => ?_⟩
      rw [aclAllows_congr tables]
      exact accessible group selected

end Steps

/-- Rows of an article are shown only to an authenticated user with access to their
newsgroup, in every run in which no LISTGROUP names an existing newsgroup the user has no
access to and no login meets a selected newsgroup its user has no access to.
Witness: the run lemma of `SelectedAccessible`; the reply to a line shows rows of the
selected newsgroup or of one the access check has just admitted.
-/
theorem shown_rows_accessible (ext : Extern) (cfg : Config) (useAuth : cfg.useAuth = true)
    (useAcl : cfg.useAcl = true) (tlsActive : Bool) (cmdtype : Cmdtype) (speccmd : Speccmd)
    (store : Store) (lines : List Line) (conn : Connection)
    (reached
      : Connection.serveAll ext cfg ⟨Session.fresh cfg tlsActive cmdtype speccmd, store⟩ lines
        = some conn)
    (under
      : Connection.runsUnder ext cfg (keepsAccess ext cfg)
          ⟨Session.fresh cfg tlsActive cmdtype speccmd, store⟩ lines
        = true)
    (line : Line) (piece : Piece) (sent : piece ∈ conn.reply ext cfg line) (row : Ngpost)
    (shows : piece.row = some row)
    : conn.session.authIsThere = true
      ∧ ∃ user,
          conn.session.curAuthUser = some user
          ∧ ((dbAclCheckUserGroup user row.ng).run conn.session).run (exec ext) conn.store
            = (.ok (true, conn.session), conn.store) := by
  have start : SelectedAccessible store (Session.fresh cfg tlsActive cmdtype speccmd).access := by
    intro there
    have fresh : (!cfg.useAuth) = true := there
    rw [useAuth] at fresh
    cases fresh
  have accessible := start.serveAll lines useAuth useAcl rfl under reached
  have idle : conn.session.curstring = [] := serveAll_idle lines rfl reached
  refine reply_rowsIn (P := fun row => conn.session.authIsThere = true ∧ ∃ user,
    conn.session.curAuthUser = some user
    ∧ ((dbAclCheckUserGroup user row.ng).run conn.session).run (exec ext) conn.store
      = (.ok (true, conn.session), conn.store)) idle ?_ piece sent row shows
  intro row may from'
  have there : conn.session.access.atCommand.authIsThere = true := by
    simpa [AccessState.mayCommand, useAuth] using may
  obtain ⟨user, current, selected⟩ := accessible.atCommand there
  rw [(atCommand_auth _).1] at there
  rw [(atCommand_auth _).2] at current
  have allows : conn.store.aclAllows user row.ng = true := by
    rcases from' with sameGroup | checked
    · exact selected row.ng sameGroup
    · have admitted := checked (by simp [useAuth, useAcl])
      rw [(atCommand_auth _).2, current] at admitted
      exact admitted
  refine ⟨there, user, current, ?_⟩
  rw [dbAclCheckUserGroup_run, allows]

/-- Alice selects the open newsgroup and is shown its article. -/
theorem open_article_shown_with_access
    : ∃ conn piece,
        sampleConnection.serveAll sampleExtern sampleConfig
            (sampleLogin ++ [sampleLine "GROUP open"])
          = some conn
        ∧ piece ∈ conn.reply sampleExtern sampleConfig (sampleLine "STAT 1")
        ∧ piece.row = some ⟨"<cdp2@a>".toList, "open".toList, 1⟩
        ∧ conn.session.authIsThere = true
        ∧ ∃ user,
            conn.session.curAuthUser = some user
            ∧ ((dbAclCheckUserGroup user "open".toList).run conn.session).run
                (exec sampleExtern) conn.store
              = (.ok (true, conn.session), conn.store) := by
  have under : sampleConnection.runsUnder sampleExtern sampleConfig
      (keepsAccess sampleExtern sampleConfig) (sampleLogin ++ [sampleLine "GROUP open"])
        = true := by
    decide +kernel
  have shown : (sampleConnection.serveAll sampleExtern sampleConfig
      (sampleLogin ++ [sampleLine "GROUP open"])).any (fun conn =>
        (conn.reply sampleExtern sampleConfig (sampleLine "STAT 1")).any
          (fun piece => piece.row == some ⟨"<cdp2@a>".toList, "open".toList, 1⟩)) = true := by
    decide +kernel
  obtain ⟨conn, reached, found⟩ := (Option.any_eq_true _ _).mp shown
  obtain ⟨piece, sent, shows⟩ := List.any_eq_true.mp found
  exact ⟨conn, piece, reached, sent, beq_iff_eq.mp shows,
    shown_rows_accessible sampleExtern sampleConfig rfl rfl false .article .cleared sampleStore
      _ conn reached under _ piece sent _ (beq_iff_eq.mp shows)⟩

/-- LISTGROUP of a newsgroup without access is refused but leaves it selected, and STAT then
shows its article to a user the access check refuses. -/
theorem listgroup_leads_past_access_check
    : ¬∀ lines conn line piece row,
        sampleConnection.serveAll sampleExtern sampleConfig lines = some conn
        → piece ∈ conn.reply sampleExtern sampleConfig line
        → piece.row = some row
        → ∃ user,
            conn.session.curAuthUser = some user
            ∧ ((dbAclCheckUserGroup user row.ng).run conn.session).run (exec sampleExtern)
                conn.store
              = (.ok (true, conn.session), conn.store) := by
  intro claimed
  have shown : (sampleConnection.serveAll sampleExtern sampleConfig
      (sampleLogin ++ [sampleLine "LISTGROUP closed"])).any (fun conn =>
        conn.session.curAuthUser == some "alice".toList
        && !conn.store.aclAllows "alice".toList "closed".toList
        && (conn.reply sampleExtern sampleConfig (sampleLine "STAT 1")).any
          (fun piece => piece.row == some ⟨"<cdp1@a>".toList, "closed".toList, 1⟩)) = true := by
    decide +kernel
  obtain ⟨conn, reached, found⟩ := (Option.any_eq_true _ _).mp shown
  simp only [Bool.and_eq_true, beq_iff_eq, List.any_eq_true] at found
  obtain ⟨⟨alice, refused⟩, piece, sent, shows⟩ := found
  obtain ⟨user, current, allowed⟩ := claimed _ conn _ piece _ reached sent shows
  rw [alice, Option.some.injEq] at current
  rw [dbAclCheckUserGroup_run, ← current] at allowed
  simp only [Prod.mk.injEq, Except.ok.injEq, and_true] at allowed
  rw [allowed] at refused
  cases refused

end WendzelNNTPd
