import WendzelNNTPd.Access.TlsSwitch
import WendzelNNTPd.Access.Queries
import WendzelNNTPd.Reading.Listing

/-! What a client can tell of newsgroups without access. Two servers may differ in newsgroups
that a user has no access to, and in the articles of these: as long as LISTGROUP names none of
them, no reading command tells the user on which of the two servers it is served.
-/

namespace WendzelNNTPd

open CString Atomic

-----------------------------------------------------------------------------------------
-- Stores that are the same to a user
-----------------------------------------------------------------------------------------

/-- The stores agree on the newsgroups that the user has access to, and on their articles. The
check of LIST, GROUP and LISTGROUP is the one of POST. -/
structure Store.SameTo (cfg : Config) (user : Option Str) (s t : Store) : Prop where
  access : ∀ group, t.mayPost cfg user group = s.mayPost cfg user group
  newsgroups
    : t.newsgroups.filter (fun g => s.mayPost cfg user g.name)
      = s.newsgroups.filter (fun g => s.mayPost cfg user g.name)
  rows : ∀ group, s.mayPost cfg user group = true → t.ngRows group = s.ngRows group
  postings
    : ∀ group, s.mayPost cfg user group = true → ∀ n ∈ s.ngRows group,
      t.postings.filter (·.msgid == n.msgid) = s.postings.filter (·.msgid == n.msgid)
  bodies
    : ∀ group, s.mayPost cfg user group = true → ∀ n ∈ s.ngRows group,
      t.spool (bodyFile n.msgid) = s.spool (bodyFile n.msgid)

section Queries

variable {ext : Extern} {cfg : Config} {user : Option Str} {s t : Store} {group : Str}
  {α : Type} {r : Session}

/-- A query that both stores answer alike. -/
theorem overlooks_sql {op : Stmt} {f : op.Result → Srv α} (query : op.isQuery = true)
    (same : (exec ext op t).1 = (exec ext op s).1)
    (rest : Overlooks (exec ext) s t (f (exec ext op s).1))
    : Overlooks (exec ext) s t (sql op >>= f) := by
  have leaves (u : Store) : (exec ext op u).2 = u := execOn_query .sqlite3 ext query u
  exact fun r => Prog.Overlooks.act (Prod.ext same (leaves t)) (leaves s) (rest r)

theorem overlooks_get {f : Session → Srv α} (rest : ((f r).run r).Overlooks (exec ext) s t)
    : ((get >>= f).run r).Overlooks (exec ext) s t :=
  rest

theorem overlooks_modify {f : Session → Session} {g : Srv α}
    (rest : (g.run (f r)).Overlooks (exec ext) s t)
    : ((modify f >>= fun _ => g).run r).Overlooks (exec ext) s t :=
  rest

theorem overlooks_toSend (text : Str) : Overlooks (exec ext) s t (toSend text) :=
  Overlooks.modify _

theorem overlooks_toSendRow (row : Ngpost) (text : Str)
    : Overlooks (exec ext) s t (toSendRow row text) :=
  Overlooks.modify _

namespace Store.SameTo

theorem selectNewsgroup (same : s.SameTo cfg user t) (may : s.mayPost cfg user group = true)
    : t.newsgroups.filter (·.name == group) = s.newsgroups.filter (·.name == group) := by
  have within (u : Store)
      : u.newsgroups.filter (·.name == group)
        = (u.newsgroups.filter (fun g => s.mayPost cfg user g.name)).filter (·.name == group) := by
    rw [List.filter_filter]
    refine List.filter_congr (fun g _ => ?_)
    by_cases named : g.name = group
    · rw [named, may, Bool.and_true]
    · rw [beq_false_of_ne named, Bool.false_and]
  rw [within t, same.newsgroups, ← within s]

theorem joinPostings (same : s.SameTo cfg user t) (may : s.mayPost cfg user group = true)
    {rows : List Ngpost} (ofGroup : rows ⊆ s.ngRows group)
    : t.joinPostings rows = s.joinPostings rows := by
  refine List.flatMap_congr (fun n member => ?_)
  rw [same.postings group may n (ofGroup member)]

theorem hasGroup (same : s.SameTo cfg user t) (may : s.mayPost cfg user group = true)
    : t.HasGroup group ↔ s.HasGroup group := by
  rw [← hasGroup_iff, ← hasGroup_iff, same.selectNewsgroup may]

/-- The first number of a newsgroup depends on its rows only. -/
theorem firstOf (same : s.SameTo cfg user t) (may : s.mayPost cfg user group = true)
    : t.firstOf group = s.firstOf group := by
  have here := @firstArticle_ofMin s group
  have there := @firstArticle_ofMin t group
  have moved : s.FirstArticle group (t.firstOf group) := by
    unfold Store.FirstArticle at there ⊢
    rw [same.rows group may] at there
    exact there
  exact moved.eq here

end Store.SameTo

theorem Store.SameTo.visible (same : s.SameTo cfg user t)
    : t.visible cfg user = s.visible cfg user := by
  refine Eq.trans (List.filter_congr (fun g _ => ?_)) same.newsgroups
  exact same.access g.name

end Queries

-----------------------------------------------------------------------------------------
-- The reading commands
-----------------------------------------------------------------------------------------

section Reading

variable {ext : Extern} {cfg : Config} {env : Env} {user : Option Str} {s t : Store} {group : Str}
  {r : Session}

theorem overlooks_docmdList (same : s.SameTo cfg user t) (named : r.curAuthUser = user)
    (command : Str) (cmdtyp : ListCmdtyp)
    : ((docmdList ext cfg command cmdtyp).run r).Overlooks (exec ext) s t := by
  subst named
  have list (reply : Str) (wildmat : Option Str)
      : ((docmdList.list ext cfg cmdtyp reply wildmat).run r).Overlooks (exec ext) s t := by
    refine ⟨_, docmdListList_run reply wildmat r, ?_⟩
    rw [docmdListList_run, listTexts, same.visible]
    rfl
  unfold docmdList
  split
  · exact list _ _
  · split
    · exact overlooks_toSend _ _
    · exact list _ _
  · exact list _ _

theorem overlooks_getHighValue (same : s.SameTo cfg user t) (may : s.mayPost cfg user group = true)
    : Overlooks (exec ext) s t (dbGetHighValue env group) :=
  overlooks_sql rfl (same.selectNewsgroup may) (Overlooks.pure _)

theorem Store.SameTo.overview (same : s.SameTo cfg user t) (may : s.mayPost cfg user group = true)
    (p : Ngpost → Bool)
    : t.joinPostings ((t.ngRows group).filter p) = s.joinPostings ((s.ngRows group).filter p) := by
  rw [same.rows group may]
  exact same.joinPostings may List.filter_sublist.subset

theorem overlooks_docmdXover (same : s.SameTo cfg user t)
    (selected : ∀ group, r.selectedGroup = some group → s.mayPost cfg user group = true)
    (command : Str)
    : ((docmdXover ext env command).run r).Overlooks (exec ext) s t := by
  have range {group : Str} (may : s.mayPost cfg user group = true) (realMax min max : Nat)
      : Overlooks (exec ext) s t (docmdXover.range ext group realMax min max) := by
    refine Overlooks.ite (overlooks_toSend _) ((overlooks_toSend _).bind (fun _ => ?_))
    refine Overlooks.bind ?_ (fun _ => overlooks_toSend _)
    refine overlooks_sql rfl (same.overview may _) ?_
    exact Overlooks.forM _ (fun row _ => overlooks_toSendRow _ _)
  unfold docmdXover
  refine overlooks_get ?_
  cases is : r.selectedGroup with
  | none => exact overlooks_toSend _ _
  | some group =>
      have may := selected group is
      refine Overlooks.bind (overlooks_getHighValue same may) (fun realMax => ?_) r
      split
      · split
        · exact overlooks_toSend _
        · exact range may _ _ _
      · exact range may _ _ _

theorem overlooks_docmdXhdr (same : s.SameTo cfg user t)
    (selected : ∀ group, r.selectedGroup = some group → s.mayPost cfg user group = true)
    (command : Str)
    : ((docmdXhdr ext env command).run r).Overlooks (exec ext) s t := by
  have rounds (part : XhdrPart) (rows : List (Ngpost × Posting))
      : Overlooks (exec ext) s t
          (rows.forM (xhdrCb ext part) >>= fun _ =>
            modify (fun s => { s with speccmd := .cleared })) := by
    refine Overlooks.bind (Overlooks.forM _ (fun row _ => ?_)) (fun _ => Overlooks.modify _)
    exact Overlooks.read (fun _ => overlooks_toSendRow _ _)
  have reply {group : Str} (may : s.mayPost cfg user group = true) (part : XhdrPart)
      (msgid : Option Str) (min max : Nat)
      : Overlooks (exec ext) s t (xhdrArticles.reply ext group part msgid min max) := by
    refine (overlooks_toSend _).bind (fun _ => Overlooks.bind ?_ (fun _ => overlooks_toSend _))
    refine (Overlooks.modify _).bind (fun _ => ?_)
    cases msgid with
    | none => exact overlooks_sql rfl (same.overview may _) (rounds _ _)
    | some msgid => exact overlooks_sql rfl (same.overview may _) (rounds _ _)
  have range {group : Str} (may : s.mayPost cfg user group = true) (realMax : Nat)
      (part : XhdrPart) (min max : Nat)
      : Overlooks (exec ext) s t (xhdrArticles.range ext group realMax part min max) :=
    Overlooks.ite (overlooks_toSend _) (reply may _ _ _ _)
  unfold docmdXhdr
  refine overlooks_get ?_
  cases is : r.selectedGroup with
  | none => exact overlooks_toSend _ _
  | some group =>
      have may := selected group is
      refine Overlooks.bind (overlooks_getHighValue same may) (fun realMax => ?_) r
      split
      · exact overlooks_toSend _
      split
      · exact overlooks_toSend _
      refine (Overlooks.modify _).bind (fun _ => Overlooks.read (fun r => ?_))
      split
      · split
        · exact overlooks_toSend _
        · exact range may _ _ _ _
      · refine Overlooks.ite (Overlooks.bind ?_ (fun there => ?_)) (range may _ _ _ _)
        · refine overlooks_sql rfl ?_ (Overlooks.pure _)
          exact congrArg (List.filter _) (same.rows group may)
        · exact Overlooks.ite (reply may _ _ _ _) (overlooks_toSend _)

/-- One row of ARTICLE: the header and the body of an article that the user may read. -/
theorem overlooks_articleCb (same : s.SameTo cfg user t) (may : s.mayPost cfg user group = true)
    {row : Ngpost} (member : row ∈ s.ngRows group)
    : Overlooks (exec ext) s t (articleCb cfg row) := by
  have header (cmdtype : Cmdtype) : Overlooks (exec ext) s t (articleSendHeader cmdtype row) := by
    refine Overlooks.ite ?_ (Overlooks.pure _)
    refine overlooks_sql rfl ?_ (Overlooks.forM _ (fun header _ => Overlooks.read (fun r => ?_)))
    · exact congrArg (List.map _) (same.postings group may row member)
    · split
      · exact (overlooks_toSendRow _ _).bind (fun _ => overlooks_toSendRow _ _)
      · exact (overlooks_toSendRow _ _).bind (fun _ => overlooks_toSendRow _ _)
      · exact Overlooks.pure _
  have body (cmdtype : Cmdtype) : Overlooks (exec ext) s t (articleSendBody cfg cmdtype row) := by
    refine Overlooks.ite (Overlooks.ite ?_ (Overlooks.bind ?_ (fun body => ?_))) (Overlooks.pure _)
    · exact fun _ => Prog.Overlooks.stop _
    · exact overlooks_sql rfl (same.bodies group may row member) (Overlooks.pure _)
    · split
      · exact overlooks_toSendRow _ _
      · exact Overlooks.pure _
  refine (Overlooks.modify _).bind (fun _ => Overlooks.read (fun r => ?_))
  refine (overlooks_toSendRow _ _).bind (fun _ => (header _).bind (fun _ => ?_))
  exact (body _).bind (fun _ => Overlooks.modify _)

theorem overlooks_docmdArticle (same : s.SameTo cfg user t)
    (selected : ∀ group, r.selectedGroup = some group → s.mayPost cfg user group = true)
    (command : Str)
    : ((docmdArticle cfg command).run r).Overlooks (exec ext) s t := by
  have rounds {group : Str} (may : s.mayPost cfg user group = true) (p : Ngpost → Bool)
      : Overlooks (exec ext) s t (((s.ngRows group).filter p).forM (articleCb cfg)) :=
    Overlooks.forM _
      (fun row member => overlooks_articleCb same may (List.mem_filter.mp member).1)
  have rows {group : Str} (may : s.mayPost cfg user group = true) (p : Ngpost → Bool)
      : (t.ngRows group).filter p = (s.ngRows group).filter p :=
    congrArg (List.filter p) (same.rows group may)
  have retrieve {group : Str} (may : s.mayPost cfg user group = true) (type : Artcltyp)
      : Overlooks (exec ext) s t (docmdArticle.retrieve cfg group type) := by
    refine Overlooks.bind (Overlooks.read (fun r => ?_)) (fun _ => Overlooks.read (fun r => ?_))
    · cases type with
      | messageId param => exact overlooks_sql rfl (rows may _) (rounds may _)
      | number param => exact overlooks_sql rfl (rows may _) (rounds may _)
      | current => exact overlooks_sql rfl (rows may _) (rounds may _)
    · exact Overlooks.ite (Overlooks.pure _) (overlooks_toSend _)
  unfold docmdArticle
  refine overlooks_modify (overlooks_get ?_)
  dsimp only
  cases is : r.selectedGroup with
  | none => exact overlooks_toSend _ _
  | some group =>
      have may := selected group is
      dsimp only
      split
      · exact overlooks_toSend _ _
      · exact Overlooks.ite (overlooks_toSend _) (retrieve may _) _
      · exact retrieve may _ _

end Reading

-----------------------------------------------------------------------------------------
-- GROUP and LISTGROUP
-----------------------------------------------------------------------------------------

/-- Both programs return, with sessions that are the same to the next command, or both are stopped
for the same reason; the stores stay as they are. -/
def Agree (ext : Extern) (s t : Store) (p p' : Prog Sql Exit (Unit × Session)) : Prop :=
  p.Both (exec ext) p'
    (fun out u out' u' => out.2.view .sqlite3 = out'.2.view .sqlite3 ∧ u = s ∧ u' = t)
    (fun reason u reason' u' => reason = reason' ∧ u = s ∧ u' = t) s t

section Selecting

variable {ext : Extern} {cfg : Config} {env : Env} {user : Option Str} {s t : Store} {group : Str}
  {r : Session}

theorem agree_of_overlooks {p : Prog Sql Exit (Unit × Session)}
    (overlooks : p.Overlooks (exec ext) s t)
    : Agree ext s t p p := by
  obtain ⟨result, here, there⟩ := overlooks
  unfold Agree Prog.Both
  rw [here, there]
  cases result with
  | ok out => exact ⟨rfl, rfl, rfl⟩
  | error reason => exact ⟨rfl, rfl, rfl⟩

theorem overlooks_aclCheckUserGroup (same : s.SameTo cfg user t)
    (acl : (cfg.useAuth && cfg.useAcl) = true) (group : Str)
    : Overlooks (exec ext) s t (aclCheckUserGroup user group) := by
  have allows : t.userAllows user group = s.userAllows user group := by
    have access := same.access group
    unfold Store.mayPost at access
    rwa [if_pos acl, if_pos acl] at access
  intro r
  refine ⟨_, aclCheckUserGroup_run ext s r user group, ?_⟩
  rw [aclCheckUserGroup_run, allows]

theorem overlooks_dbGroup (same : s.SameTo cfg user t) (may : s.mayPost cfg user group = true)
    : Overlooks (exec ext) s t (dbGroup group) := by
  refine Overlooks.read (fun old => overlooks_sql rfl (same.selectNewsgroup may) ?_)
  refine (Overlooks.modify _).bind (fun _ => Overlooks.bind ?_ (fun _ => Overlooks.modify _))
  refine Overlooks.forM _ (fun g member r => ⟨_, groupCb_entered r, ?_⟩)
  have named : g.name = group := beq_iff_eq.mp (List.mem_filter.mp member).2
  rw [groupCb_entered, named, same.firstOf may]

/-- GROUP of a newsgroup without access is answered as if there was none; the sessions may differ in
whether it was found. -/
theorem agree_docmdGroup (same : s.SameTo cfg user t) (named : r.curAuthUser = user) (command : Str)
    : Agree ext s t ((docmdGroup cfg command).run r) ((docmdGroup cfg command).run r) := by
  cases argument : getSlinearg command 1 with
  | none =>
      unfold docmdGroup
      rw [argument]
      exact agree_of_overlooks (overlooks_get (overlooks_toSend _ r))
  | some name =>
      by_cases may : s.mayPost cfg user name = true
      · have looks : (!(t.newsgroups.filter (·.name == name)).isEmpty)
            = !(s.newsgroups.filter (·.name == name)).isEmpty := by
          rw [same.selectNewsgroup may]
        refine agree_of_overlooks (Prog.Overlooks.congr ?_ (docmdGroup_looked argument r rfl)
          (docmdGroup_looked argument r looks))
        refine Overlooks.ite ((overlooks_toSend _).bind (fun _ => Overlooks.modify _)) ?_ _
        by_cases acl : (cfg.useAuth && cfg.useAcl) = true
        · rw [if_pos acl, named]
          refine (overlooks_aclCheckUserGroup same acl name).bind (fun allowed => ?_)
          exact Overlooks.ite (overlooks_dbGroup same may) (overlooks_toSend _)
        · rw [if_neg acl]
          exact overlooks_dbGroup same may
      · subst named
        have hidden (g : Newsgroup) (member : g ∈ s.visible cfg r.curAuthUser) : g.name ≠ name :=
          fun is => may (is ▸ (List.mem_filter.mp member).2)
        obtain ⟨found, here⟩ := @docmdGroup_refused ext cfg s command name argument r hidden
        obtain ⟨found', there⟩ := @docmdGroup_refused ext cfg t command name argument r
          (fun g member => hidden g (same.visible ▸ member))
        unfold Agree Prog.Both
        rw [here, there]
        exact ⟨rfl, rfl, rfl⟩

/-- LISTGROUP with an argument, up to the existence check. -/
theorem docmdListgroup_looked {command name : Str} (argument : getSlinearg command 1 = some name)
    (r : Session) {found : Bool}
    (looks : (!(s.newsgroups.filter (·.name == name)).isEmpty) = found)
    : ((docmdListgroup cfg command).run r).run (exec ext) s
      = ((if !found then do
            modify (fun t => { t with foundGroup := r.foundGroup })
            toSend nosuchgroup
          else do
            modify (fun s => { s with selectedGroup := some name })
            docmdListgroup.listing cfg name : Srv Unit).run (r.lookedFor name found)).run
        (exec ext) s := by
  subst looks
  let rows := s.newsgroups.filter (·.name == name)
  let asked : Session := { r with chkname := some name }
  have exists' : (dbCheckNewsgroupExistence.run asked).run (exec ext) s
      = (.ok ((), r.lookedFor name (!rows.isEmpty)), s) :=
    dbCheckNewsgroupExistence_run ext asked s rfl
  unfold docmdListgroup
  refine (run_bind_ok (rfl : ((get : Srv Session).run r).run (exec ext) s = (.ok (r, r), s))).trans ?_
  rw [argument]
  refine (run_bind_ok (rfl : ((modify _ : Srv PUnit).run r).run (exec ext) s
    = (.ok (⟨⟩, asked), s))).trans ?_
  refine (run_bind_ok exists').trans ?_
  exact run_bind_ok (rfl : ((get : Srv Session).run (r.lookedFor name (!rows.isEmpty))).run
    (exec ext) s = (.ok (r.lookedFor name (!rows.isEmpty), r.lookedFor name (!rows.isEmpty)), s))

/-- LISTGROUP of a newsgroup that the user may read, of one that is on neither server, or of the
selected one. -/
theorem overlooks_docmdListgroup (same : s.SameTo cfg user t) (named : r.curAuthUser = user)
    (selected : ∀ group, r.selectedGroup = some group → s.mayPost cfg user group = true)
    {command : Str}
    (shown
      : ∀ name, getSlinearg command 1 = some name → s.HasGroup name ∨ t.HasGroup name
        → s.mayPost cfg user name = true)
    : ((docmdListgroup cfg command).run r).Overlooks (exec ext) s t := by
  have reply {group : Str} (may : s.mayPost cfg user group = true)
      : Overlooks (exec ext) s t (docmdListgroup.reply group) := by
    refine (overlooks_toSend _).bind (fun _ => (Overlooks.modify _).bind (fun _ => ?_))
    refine overlooks_sql rfl (congrArg (List.insertionSort _) (same.rows group may)) ?_
    refine Overlooks.bind (Overlooks.forM _ (fun row _ => ?_)) (fun _ => ?_)
    · exact (overlooks_toSendRow _ _).bind (fun _ => Overlooks.modify _)
    · exact (Overlooks.modify _).bind (fun _ => overlooks_toSend _)
  have listing {group : Str} (may : s.mayPost cfg user group = true) {r : Session}
      (named : r.curAuthUser = user)
      : ((docmdListgroup.listing cfg group).run r).Overlooks (exec ext) s t := by
    subst named
    show ((if cfg.useAuth && cfg.useAcl then
        aclCheckUserGroup r.curAuthUser group >>= fun allowed =>
          if allowed then docmdListgroup.reply group else toSend nosuchgroup
      else docmdListgroup.reply group : Srv Unit).run r).Overlooks (exec ext) s t
    by_cases acl : (cfg.useAuth && cfg.useAcl) = true
    · rw [if_pos acl]
      refine (overlooks_aclCheckUserGroup same acl group).bind (fun allowed => ?_) r
      exact Overlooks.ite (reply may) (overlooks_toSend _)
    · rw [if_neg acl]
      exact reply may r
  cases argument : getSlinearg command 1 with
  | none =>
      unfold docmdListgroup
      rw [argument]
      refine overlooks_get ?_
      dsimp only
      cases is : r.selectedGroup with
      | none => exact overlooks_toSend _ r
      | some group => exact listing (selected group is) named
  | some name =>
      obtain ⟨found, here⟩ : ∃ found, (!(s.newsgroups.filter (·.name == name)).isEmpty) = found :=
        ⟨_, rfl⟩
      have there : (!(t.newsgroups.filter (·.name == name)).isEmpty) = found := by
        by_cases either : s.HasGroup name ∨ t.HasGroup name
        · rw [same.selectNewsgroup (shown name argument either), here]
        · have neither := not_or.mp either
          rw [← hasGroup_iff, ← hasGroup_iff, Bool.not_eq_true, Bool.not_eq_true] at neither
          rw [neither.2, ← here, neither.1]
      refine Prog.Overlooks.congr ?_ (docmdListgroup_looked argument r here)
        (docmdListgroup_looked argument r there)
      cases found with
      | false => exact (Overlooks.modify _).bind (fun _ => overlooks_toSend _) _
      | true =>
          have may := shown name argument (Or.inl ((hasGroup_iff s).mp here))
          exact listing may (r := { r.lookedFor name true with selectedGroup := some name }) named

end Selecting

-----------------------------------------------------------------------------------------
-- Lines
-----------------------------------------------------------------------------------------

/-- The command is neither AUTHINFO nor POST, and no LISTGROUP of a newsgroup without access. -/
structure ReadsOnly (cfg : Config) (user : Option Str) (s t : Store) (command : Str) : Prop where
  notUser : caseEqPrefix "authinfo user ".toList command = false
  notPass : caseEqPrefix "authinfo pass ".toList command = false
  notPost : caseEqPrefix "post".toList command = false
  shown
    : caseEqPrefix "listgroup".toList command = true
      → ∀ name, getSlinearg command 1 = some name → s.HasGroup name ∨ t.HasGroup name
      → s.mayPost cfg user name = true

section Lines

variable {ext : Extern} {cfg : Config} {env : Env} {user : Option Str} {s t : Store} {r r' : Session}

/-- A command from the same session.
Witness: the branch of `do_command` that is taken.
-/
theorem agree_doCommand (same : s.SameTo cfg user t) (named : r.curAuthUser = user)
    (selected : ∀ group, r.selectedGroup = some group → s.mayPost cfg user group = true)
    {command : Str} (reads : ReadsOnly cfg user s t command)
    : Agree ext s t ((doCommand ext cfg env command).run r) ((doCommand ext cfg env command).run r) := by
  have checked {m : Srv Unit} (passes : Agree ext s t (m.run r) (m.run r))
      : Agree ext s t ((checkMandatoryTls cfg m).run r) ((checkMandatoryTls cfg m).run r) := by
    rw [checkMandatoryTls_run]
    split
    · exact agree_of_overlooks (overlooks_toSend _ r)
    · exact passes
  have alike {m : Srv Unit} (overlooks : (m.run r).Overlooks (exec ext) s t)
      : Agree ext s t ((checkMandatoryTls cfg m).run r) ((checkMandatoryTls cfg m).run r) :=
    checked (agree_of_overlooks overlooks)
  have entries (entry : Str × Srv Unit) (member : entry ∈ authCommands ext cfg env command)
      (selects : caseEqPrefix entry.1 command = true)
      : Agree ext s t (entry.2.run r) (entry.2.run r) := by
    simp only [authCommands, List.mem_cons, List.not_mem_nil, or_false] at member
    rcases member with rfl | rfl | rfl | rfl | rfl | rfl | rfl | rfl | rfl | rfl | rfl | rfl
      | rfl | rfl | rfl | rfl | rfl
    · exact alike (overlooks_docmdList same named command _)
    · exact agree_of_overlooks (overlooks_toSend _ r)
    · exact alike (overlooks_docmdListgroup same named selected (reads.shown selects))
    · exact alike (overlooks_docmdList same named command _)
    · exact alike (overlooks_docmdList same named command _)
    · exact agree_of_overlooks (overlooks_toSend _ r)
    · exact checked (agree_docmdGroup same named command)
    · exact alike (overlooks_docmdXover same selected command)
    · exact alike (overlooks_docmdXhdr same selected command)
    · exact alike (overlooks_docmdArticle same selected command)
    · exact alike (overlooks_docmdArticle same selected command)
    · exact alike (overlooks_docmdArticle same selected command)
    · exact alike (overlooks_docmdArticle same selected command)
    · exact alike (overlooks_toSend _ r)
    · rw [reads.notPost] at selects
      cases selects
    · exact agree_of_overlooks (overlooks_toSend _ r)
    · exact agree_of_overlooks (Overlooks.of_uses docmdCapabilities_uses r)
  show Agree ext s t
    ((if caseEqPrefix "quit".toList command then send quitstring >>= fun _ => killThread
      else if caseEqPrefix "authinfo user ".toList command then _
      else if caseEqPrefix "authinfo pass ".toList command then _
      else _ : Srv Unit).run r)
    ((if caseEqPrefix "quit".toList command then _ else _ : Srv Unit).run r)
  simp only [reads.notUser, reads.notPass, Bool.false_eq_true, if_false]
  by_cases quit : caseEqPrefix "quit".toList command = true
  · rw [if_pos quit]
    exact agree_of_overlooks (Overlooks.of_uses quit_uses r)
  · rw [if_neg quit]
    split
    · rename_i entry chosen
      have selects := List.find?_some chosen
      simp only [Bool.and_eq_true] at selects
      exact entries entry (List.mem_of_find?_eq_some chosen) selects.2
    · exact agree_of_overlooks (Overlooks.of_uses (lastCommands_uses _ command) r)

/-- Two connections after a line: both go on, with sessions that are the same to the next command,
or both end for the same reason. -/
def Twins (ext : Extern) (s t : Store) (p p' : Prog Sql Exit (Unit × Session)) : Prop :=
  (∃ q q' tls, p.run (exec ext) s = (.ok ((), q), s) ∧ p'.run (exec ext) t = (.ok ((), q'), t)
      ∧ q.Like .sqlite3 (Calm tls) q')
  ∨ ∃ reason, p.run (exec ext) s = (.error reason, s) ∧ p'.run (exec ext) t = (.error reason, t)

/-- A command from two sessions that are the same to it: on the other server first from the same
session, then from the other one. -/
theorem twins_doCommand (same : s.SameTo cfg user t) (named : r.curAuthUser = user)
    (selected : ∀ group, r.selectedGroup = some group → s.mayPost cfg user group = true)
    {command : Str} (reads : ReadsOnly cfg user s t command) {tls : Bool}
    (like : r.Like .sqlite3 (Calm tls) r')
    : Twins ext s t ((doCommand ext cfg env command).run r)
        ((doCommand ext cfg env command).run r') := by
  have agree := @agree_doCommand ext cfg env user s t r same named selected command reads
  have blinded : Blinded .sqlite3 ext (Session.Like .sqlite3 (Calm tls))
      (SrvBackend.sqlite3.doCommand ext cfg env command) :=
    blinded_doCommand (Calm.passStage tls) (fun _ => blinds_sqlite3) command
      (fun _ => @blinded_lastCommands .sqlite3 ext cfg tls _ command)
  rw [doCommand_sqlite3] at blinded
  unfold Agree Prog.Both at agree
  rcases Blind.run_cases blinded like t with
    ⟨⟨⟩, q, q', t', first, second, related⟩ | ⟨reason, t', first, second⟩
  · have first' : ((doCommand ext cfg env command).run r).run (exec ext) t = (.ok ((), q), t') :=
      first
    rw [first'] at agree
    split at agree
    · rename_i out u out' u' ran ran'
      cases ran'
      obtain ⟨views, rfl, rfl⟩ := agree
      refine Or.inl ⟨out.2, q', tls, ran, second, views.trans related.view, ?_⟩
      have pass : out.2.curAuthPass = q.curAuthPass := congrArg View.curAuthPass views
      have active : out.2.tlsActive = q.tlsActive := congrArg View.tlsActive views
      have switching : out.2.switchToTls = q.switchToTls := congrArg View.switchToTls views
      rw [pass, active, switching]
      exact related.known
    · rename_i ran ran'
      cases ran'
    · exact agree.elim
  · have first' : ((doCommand ext cfg env command).run r).run (exec ext) t = (.error reason, t') :=
      first
    rw [first'] at agree
    split at agree
    · rename_i ran ran'
      cases ran'
    · rename_i reason' u reason'' u' ran ran'
      cases ran'
      obtain ⟨rfl, rfl, rfl⟩ := agree
      exact Or.inr ⟨_, ran, second⟩
    · exact agree.elim

theorem sendReply_run (r : Session) (s : Store)
    : ((sendReply).run r).run (exec ext) s
      = if r.curstring = [] then (.error .crash, s)
        else (.ok ((), { r with sent := r.sent ++ r.curstring, curstring := [] }), s) := by
  show (StateT.run (if r.curstring = [] then crash else _ : Srv Unit) r).run (exec ext) s = _
  split
  · rfl
  · rfl

theorem twins_sendReply {m : Srv Unit} (twins : Twins ext s t (m.run r) (m.run r'))
    : Twins ext s t ((m >>= fun _ => sendReply).run r) ((m >>= fun _ => sendReply).run r') := by
  rcases twins with ⟨q, q', tls, ran, ran', like⟩ | ⟨reason, ran, ran'⟩
  · have reply : q.curstring = q'.curstring := like.curstring
    unfold Twins
    rw [run_bind_ok ran, run_bind_ok ran', sendReply_run, sendReply_run, ← reply]
    by_cases nothing : q.curstring = []
    · rw [if_pos nothing, if_pos nothing]
      exact Or.inr ⟨_, rfl, rfl⟩
    · rw [if_neg nothing, if_neg nothing]
      refine Or.inl ⟨_, _, tls, rfl, rfl, ?_, like.known⟩
      exact congrArg (fun v : View => { v with sent := v.sent ++ q.curstring, curstring := [] })
        like.view
  · exact Or.inr ⟨reason, run_bind_error ran, run_bind_error ran'⟩

/-- A line, with the switch to TLS in front of it. -/
theorem twins_program (same : s.SameTo cfg user t) (named : r.curAuthUser = user)
    (selected : ∀ group, r.selectedGroup = some group → s.mayPost cfg user group = true)
    {line : Line} (reads : ReadsOnly cfg user s t line.command) {tls : Bool}
    (like : r.Like .sqlite3 (Calm tls) r')
    : Twins ext s t (Connection.program ext cfg ⟨r, s⟩ line)
        (Connection.program ext cfg ⟨r', t⟩ line) := by
  have views : Session.view .sqlite3 { r with sent := [] }
      = Session.view .sqlite3 { r' with sent := [] } :=
    congrArg (fun v : View => { v with sent := [] }) like.view
  have command {q q' : Session} {tls : Bool} (named : q.curAuthUser = user)
      (selected : ∀ group, q.selectedGroup = some group → s.mayPost cfg user group = true)
      (like : q.Like .sqlite3 (Calm tls) q')
      : Twins ext s t
          ((doCommand ext cfg line.env line.command >>= fun _ => sendReply).run q)
          ((doCommand ext cfg line.env line.command >>= fun _ => sendReply).run q') :=
    twins_sendReply (twins_doCommand same named selected reads like)
  rw [program_eq, program_eq, StateT.run_bind, StateT.run_bind, switchToTls_run, switchToTls_run]
  have switching : r'.switchToTls = r.switchToTls := (congrArg View.switchToTls like.view).symm
  dsimp only
  by_cases due : r.switchToTls = true
  · rw [if_pos due, if_pos (switching.trans due)]
    by_cases init : line.env.tlsSessionInit = true
    · rw [if_pos init, if_pos init]
      refine @command { r.switched with sent := [] } { r'.switched with sent := [] } true
        named (fun group none' => by cases none') ⟨?_, like.known.1, rfl, fun _ => rfl⟩
      exact congrArg (fun v : View =>
        { v with
          switchToTls := false
          tlsActive := true
          selectedGroup := none
          selectedArticle := none }) views
    · rw [if_neg init, if_neg init]
      exact Or.inr ⟨_, rfl, rfl⟩
  · rw [if_neg due, if_neg (switching ▸ due)]
    exact @command { r with sent := [] } { r' with sent := [] } _ named selected
      ⟨views, like.known⟩

/-- What a reading line does to the user and to the selection. -/
theorem within_of_serve {q : Session} {line : Line} (idle : r.curstring = [])
    (named : r.curAuthUser = user)
    (selected : ∀ group, r.selectedGroup = some group → s.mayPost cfg user group = true)
    (reads : ReadsOnly cfg user s t line.command)
    (served : Connection.serve ext cfg ⟨r, s⟩ line = some ⟨q, s⟩)
    : q.curstring = [] ∧ q.curAuthUser = user
      ∧ ∀ group, q.selectedGroup = some group → s.mayPost cfg user group = true := by
  obtain ⟨⟨A', step, replying⟩, nothing, -⟩ :=
    serve_steps (P := fun _ => True) idle (fun _ _ _ => trivial) served
  have user' : r.access.atCommand.curAuthUser = user := (atCommand_auth _).2.trans named
  have selected' (group : Str) (is : r.access.atCommand.selectedGroup = some group)
      : s.mayPost cfg user group = true := by
    unfold AccessState.atCommand at is
    split at is
    · cases is
    · exact selected group is
  have access : q.curAuthUser = A'.curAuthUser ∧ q.selectedGroup = A'.selectedGroup := by
    rw [← replying.access]
    exact ⟨rfl, rfl⟩
  rw [access.1, access.2]
  refine ⟨nothing, ?_⟩
  have shows' (name : Str) (may : s.mayPost cfg user name = true) (group : Str)
      (is : some name = some group)
      : s.mayPost cfg user group = true := by
    cases is
    exact may
  cases step with
  | unchanged event => exact ⟨user', selected'⟩
  | starttls event => exact ⟨user', selected'⟩
  | authinfo event evaluated =>
      have other : authinfoEvent cfg r.access.atCommand.tlsActive line.command = none := by
        unfold authinfoEvent
        simp only [reads.notUser, reads.notPass, Bool.false_eq_true, if_false, ite_self]
      rw [show authinfoEvent cfg _ line.command = none from other] at evaluated
      cases evaluated
  | group name event allowed =>
      refine ⟨user', shows' name ?_⟩
      unfold Store.mayPost
      split
      · rename_i acl
        exact user' ▸ allowed acl
      · rfl
  | listgroup name event isListgroup may tls arg there =>
      exact ⟨user', shows' name (reads.shown isListgroup name arg (Or.inl there))⟩

end Lines

-----------------------------------------------------------------------------------------
-- Runs
-----------------------------------------------------------------------------------------

/-- A line of the client, and what the others have made of the two stores when it is served. -/
structure TwinRound where
  line : Line
  here : Store
  there : Store

def TwinRound.onHere (round : TwinRound) : Round := ⟨round.line, fun _ => round.here⟩

def TwinRound.onThere (round : TwinRound) : Round := ⟨round.line, fun _ => round.there⟩

theorem program_sqlite3 (ext : Extern) (cfg : Config) (conn : Connection) (line : Line)
    : SrvBackend.sqlite3.program ext cfg conn line = conn.program ext cfg line := by
  unfold SrvBackend.program
  rw [serveLine_sqlite3]
  rfl

theorem serve_sqlite3 (ext : Extern) (cfg : Config) (conn : Connection) (line : Line)
    : SrvBackend.sqlite3.serve ext cfg conn line = conn.serve ext cfg line := by
  unfold SrvBackend.serve
  rw [program_sqlite3]
  rfl

theorem reply_sqlite3 (ext : Extern) (cfg : Config) (conn : Connection) (line : Line)
    : SrvBackend.sqlite3.reply ext cfg conn line = conn.reply ext cfg line := by
  unfold SrvBackend.reply
  rw [program_sqlite3]
  rfl

/-- Two connections that are the same to the next command.
Witness: induction on the rounds; each leaves two such connections, and what is selected is still
accessible in the later rounds.
-/
theorem replies_of_twins {ext : Extern} {cfg : Config} {user : Option Str} {rounds : List TwinRound}
    (same : ∀ round ∈ rounds, round.here.SameTo cfg user round.there)
    (reads : ∀ round ∈ rounds, ReadsOnly cfg user round.here round.there round.line.command)
    (lasting
      : rounds.Pairwise (fun a b =>
          ∀ group, a.here.mayPost cfg user group = true → b.here.mayPost cfg user group = true))
    {r r' : Session} {tls : Bool} (like : r.Like .sqlite3 (Calm tls) r') (idle : r.curstring = [])
    (named : r.curAuthUser = user)
    (selected
      : ∀ group, r.selectedGroup = some group →
        ∀ round ∈ rounds, round.here.mayPost cfg user group = true)
    (s t : Store)
    : SrvBackend.sqlite3.replies ext cfg ⟨r, s⟩ (rounds.map TwinRound.onHere)
      = SrvBackend.sqlite3.replies ext cfg ⟨r', t⟩ (rounds.map TwinRound.onThere) := by
  induction rounds generalizing r r' tls s t with
  | nil => rfl
  | cons round rest ih =>
      have twins := @twins_program ext cfg user round.here round.there r r'
        (same round (by simp)) named (fun group is => selected group is round (by simp)) round.line
        (reads round (by simp)) tls like
      obtain ⟨later, lasting'⟩ := List.pairwise_cons.mp lasting
      simp only [List.map_cons, SrvBackend.replies, reply_sqlite3, serve_sqlite3]
      show Connection.reply ext cfg ⟨r, round.here⟩ round.line
            :: ((Connection.serve ext cfg ⟨r, round.here⟩ round.line).map
              (SrvBackend.sqlite3.replies ext cfg · (rest.map TwinRound.onHere))).getD []
          = Connection.reply ext cfg ⟨r', round.there⟩ round.line
            :: ((Connection.serve ext cfg ⟨r', round.there⟩ round.line).map
              (SrvBackend.sqlite3.replies ext cfg · (rest.map TwinRound.onThere))).getD []
      rcases twins with ⟨q, q', tls', ran, ran', like'⟩ | ⟨reason, ran, ran'⟩
      · have served : Connection.serve ext cfg ⟨r, round.here⟩ round.line = some ⟨q, round.here⟩ := by
          rw [Connection.serve, ran]
        have served' : Connection.serve ext cfg ⟨r', round.there⟩ round.line
            = some ⟨q', round.there⟩ := by
          rw [Connection.serve, ran']
        obtain ⟨idle', named', selected'⟩ := within_of_serve idle named
          (fun group is => selected group is round (by simp)) (reads round (by simp)) served
        have further := ih (fun other member => same other (List.mem_cons_of_mem _ member))
          (fun other member => reads other (List.mem_cons_of_mem _ member)) lasting' like' idle' named'
          (fun group is other member => later other member group (selected' group is))
          round.here round.there
        rw [served, served', Connection.reply, Connection.reply, ran, ran']
        simp only [Option.map_some, Option.getD_some]
        rw [like'.sent, further]
      · rw [Connection.reply, Connection.reply, Connection.serve, Connection.serve, ran, ran']
        -- the thread ends, with the lines it had sent or none
        cases reason <;> rfl

/-- Two servers on SQLite that differ in newsgroups, and their articles, that a user has no access
to; other clients and the tool may change both between two lines, as long as they still differ in
no more and take no access from the user. Whatever the user sends but AUTHINFO, POST and LISTGROUP
of such a newsgroup, the replies are the same on both. -/
theorem hidden_groups_leave_no_trace (ext : Extern) (cfg : Config) (user : Option Str)
    (rounds : List TwinRound)
    (same : ∀ round ∈ rounds, round.here.SameTo cfg user round.there)
    (reads : ∀ round ∈ rounds, ReadsOnly cfg user round.here round.there round.line.command)
    (lasting
      : rounds.Pairwise (fun a b =>
          ∀ group, a.here.mayPost cfg user group = true → b.here.mayPost cfg user group = true))
    (r : Session) (waiting : r.Waiting) (named : r.curAuthUser = user)
    (selected
      : ∀ group, r.selectedGroup = some group →
        ∀ round ∈ rounds, round.here.mayPost cfg user group = true)
    (s t : Store)
    : SrvBackend.sqlite3.replies ext cfg ⟨r, s⟩ (rounds.map TwinRound.onHere)
      = SrvBackend.sqlite3.replies ext cfg ⟨r, t⟩ (rounds.map TwinRound.onThere) :=
  replies_of_twins same reads lasting (waiting.like .sqlite3) waiting.idle named selected s t

/-- The sample server without the newsgroup that Alice may not read. -/
def openStore : Store :=
  { sampleStore with
    newsgroups := [⟨"open".toList, 'y', 1⟩]
    ngposts := [⟨"<cdp2@a>".toList, "open".toList, 1⟩]
    postings := [⟨"<cdp2@a>".toList, 0, "b@c".toList, "open".toList, "s".toList, 1, []⟩] }

theorem sampleStore_sameTo_alice : sampleStore.SameTo sampleConfig (some "alice".toList) openStore := by
  have only (group : Str)
      (may : sampleStore.mayPost sampleConfig (some "alice".toList) group = true)
      : group = "open".toList := by
    by_contra other
    have refused : sampleStore.mayPost sampleConfig (some "alice".toList) group = false := by
      have unlisted : group ≠ ['o', 'p', 'e', 'n'] := other
      simp [Store.mayPost, Store.userAllows, Store.aclAllows, sampleConfig, sampleStore, Store.empty,
        unlisted]
    rw [refused] at may
    cases may
  constructor
  · exact fun group => rfl
  · decide
  · intro group may
    rw [only group may]
    decide
  · intro group may
    rw [only group may]
    decide
  · exact fun group may n member => rfl

/-- Alice lists the newsgroups, tries the hidden one and reads the other. -/
def aliceReads : List TwinRound :=
  ["LIST", "GROUP closed", "GROUP open", "STAT 1"].map
    (fun text => ⟨sampleLine text, sampleStore, openStore⟩)

theorem closed_group_leaves_no_trace
    : SrvBackend.sqlite3.replies sampleExtern sampleConfig ⟨sampleReader, sampleStore⟩
        (aliceReads.map TwinRound.onHere)
      = SrvBackend.sqlite3.replies sampleExtern sampleConfig ⟨sampleReader, openStore⟩
        (aliceReads.map TwinRound.onThere) := by
  have plain (text : String) (reads : text ∈ ["LIST", "GROUP closed", "GROUP open", "STAT 1"])
      : ReadsOnly sampleConfig (some "alice".toList) sampleStore openStore
          (sampleLine text).command := by
    simp only [List.mem_cons, List.not_mem_nil, or_false] at reads
    rcases reads with rfl | rfl | rfl | rfl
    all_goals exact ⟨by decide, by decide, by decide, fun lists => absurd lists (by decide)⟩
  refine hidden_groups_leave_no_trace sampleExtern sampleConfig (some "alice".toList) aliceReads
    ?_ ?_ ?_ sampleReader ⟨rfl, rfl, fun active => by cases active⟩ rfl ?_ sampleStore openStore
  · intro round member
    obtain ⟨text, -, rfl⟩ := List.mem_map.mp member
    exact sampleStore_sameTo_alice
  · intro round member
    obtain ⟨text, reads, rfl⟩ := List.mem_map.mp member
    exact plain text reads
  · refine List.pairwise_map.mpr (List.pairwise_of_forall (fun _ _ _ may => may))
  · intro group is round member
    cases is
    obtain ⟨text, -, rfl⟩ := List.mem_map.mp member
    exact (by decide : sampleStore.mayPost sampleConfig (some "alice".toList) "open".toList = true)

end WendzelNNTPd
