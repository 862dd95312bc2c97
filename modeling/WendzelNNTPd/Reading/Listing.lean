import WendzelNNTPd.Reading.Advertised

/-! What LIST shows. LIST, LIST NEWSGROUPS and XGTITLE ask the access check for each newsgroup,
GROUP asks it for the one that it is to select.
-/

namespace WendzelNNTPd

open CString Atomic

-----------------------------------------------------------------------------------------
-- The rows of LIST
-----------------------------------------------------------------------------------------

/-- The newsgroups that a user is shown. The check is the one of POST. -/
def Store.visible (s : Store) (cfg : Config) (user : Option Str) : List Newsgroup :=
  s.newsgroups.filter (fun g => s.mayPost cfg user g.name)

/-- The session behind texts that were made from no row of `ngposts`. -/
def Session.told (r : Session) (texts : List Str) : Session :=
  { r with curstring := r.curstring ++ texts.map (fun text => ⟨text, none⟩) }

section Rows

variable {ext : Extern} {cfg : Config} {s : Store} {cmdtyp : ListCmdtyp}

theorem told_nil (r : Session) : r.told [] = r := by
  simp only [Session.told, List.map_nil, List.append_nil]

theorem told_told (r : Session) (texts more : List Str)
    : (r.told texts).told more = r.told (texts ++ more) := by
  simp only [Session.told, List.map_append, List.append_assoc]

/-- One row: its line if the user may see it and it matches. -/
theorem listCb_run (g : Newsgroup) {r : Session} (listing : r.speccmd = .listing cmdtyp)
    : ((listCb ext cfg g).run r).run (exec ext) s
      = (.ok ((), r.told
          (if s.mayPost cfg r.curAuthUser g.name then (listLine ext cmdtyp r.wildmat g).toList
            else [])), s) := by
  unfold listCb
  refine (run_bind_ok (rfl : ((get : Srv Session).run r).run (exec ext) s = (.ok (r, r), s))).trans ?_
  refine (run_bind_ok (aclCheckIfUsed_run ext cfg r.curAuthUser g.name s r)).trans ?_
  have matches' (text : Str)
      : ((if ext.regexContains (r.wildmat.getD []) g.name then toSend text else pure ()
            : Srv Unit).run r).run (exec ext) s
        = (.ok ((), r.told
            (if ext.regexContains (r.wildmat.getD []) g.name then some text else none).toList),
            s) := by
    split
    · rfl
    · exact congrArg (fun r' => (Except.ok ((), r'), s)) (told_nil r).symm
  cases s.mayPost cfg r.curAuthUser g.name with
  | false => exact congrArg (fun r' => (Except.ok ((), r'), s)) (told_nil r).symm
  | true =>
      rw [listing]
      cases cmdtyp with
      | list => rfl
      | xgtitle => exact matches' _
      | listNewsgroups => exact matches' _

/-- Witness: induction on the rows; no row changes what the later ones look at. -/
theorem listRows_run (rows : List Newsgroup) {r : Session} (listing : r.speccmd = .listing cmdtyp)
    : ((rows.forM (listCb ext cfg)).run r).run (exec ext) s
      = (.ok ((), r.told
          ((rows.filter (fun g => s.mayPost cfg r.curAuthUser g.name)).filterMap
            (listLine ext cmdtyp r.wildmat))), s) := by
  induction rows generalizing r with
  | nil => exact congrArg (fun r' => (Except.ok ((), r'), s)) (told_nil r).symm
  | cons g rest ih =>
      refine (run_bind_ok (listCb_run g listing)).trans ?_
      refine (ih (r := r.told _) listing).trans ?_
      rw [told_told]
      refine congrArg (fun texts => (Except.ok ((), r.told texts), s)) ?_
      show _ ++ (rest.filter (fun g => s.mayPost cfg r.curAuthUser g.name)).filterMap
        (listLine ext cmdtyp r.wildmat) = _
      cases shown : s.mayPost cfg r.curAuthUser g.name with
      | false =>
          rw [List.filter_cons_of_neg (by simp [shown])]
          rfl
      | true =>
          rw [List.filter_cons_of_pos (by simpa using shown), List.filterMap_cons]
          cases listLine ext cmdtyp r.wildmat g with
          | none => rfl
          | some text => rfl

/-- The texts of a listing. -/
def listTexts (ext : Extern) (cfg : Config) (s : Store) (user : Option Str) (cmdtyp : ListCmdtyp)
    (reply : Str) (wildmat : Option Str)
    : List Str :=
  reply :: (s.visible cfg user).filterMap (listLine ext cmdtyp wildmat) ++ [periodEnd]

theorem docmdListList_run (reply : Str) (wildmat : Option Str) (r : Session)
    : ((docmdList.list ext cfg cmdtyp reply wildmat).run r).run (exec ext) s
      = (.ok ((), { r.told (listTexts ext cfg s r.curAuthUser cmdtyp reply wildmat) with
          wildmat := none, speccmd := .cleared }), s) := by
  let asked : Session := { r.told [reply] with wildmat := wildmat, speccmd := .listing cmdtyp }
  have rows : ((s.newsgroups.forM (listCb ext cfg)).run asked).run (exec ext) s
      = (.ok ((), asked.told ((s.visible cfg r.curAuthUser).filterMap
          (listLine ext cmdtyp wildmat))), s) :=
    listRows_run s.newsgroups (r := asked) rfl
  have lists : ((dbList ext cfg cmdtyp wildmat).run (r.told [reply])).run (exec ext) s
      = (.ok ((), { asked.told ((s.visible cfg r.curAuthUser).filterMap
          (listLine ext cmdtyp wildmat)) with wildmat := none, speccmd := .cleared }), s) := by
    refine (run_bind_ok (rfl : ((modify _ : Srv PUnit).run _).run (exec ext) s
      = (.ok (⟨⟩, asked), s))).trans ?_
    refine (run_sql_bind ext s asked .selectNewsgroups _).trans ?_
    exact (run_bind_ok rows).trans rfl
  refine (run_bind_ok (rfl : ((toSend reply).run r).run (exec ext) s
    = (.ok ((), r.told [reply]), s))).trans ?_
  refine (run_bind_ok lists).trans ?_
  have whole : r.told (listTexts ext cfg s r.curAuthUser cmdtyp reply wildmat)
      = ((r.told [reply]).told ((s.visible cfg r.curAuthUser).filterMap
          (listLine ext cmdtyp wildmat))).told [periodEnd] := by
    rw [told_told, told_told]
    rfl
  rw [whole]
  rfl

end Rows

-----------------------------------------------------------------------------------------
-- LIST and GROUP
-----------------------------------------------------------------------------------------

/-- A command that lists newsgroups, with its status line and its wildmat. -/
inductive AsksForList (command : Str) : ListCmdtyp → Str → Option Str → Prop
  | list (begins : caseEqPrefix "list".toList command = true)
    (notNewsgroups : caseEqPrefix "list newsgroups".toList command = false)
    (notOverview : caseEqPrefix "list overview.fmt".toList command = false)
    (notListgroup : caseEqPrefix "listgroup".toList command = false)
    : AsksForList command .list listReply none
  | listNewsgroups (begins : caseEqPrefix "list newsgroups".toList command = true)
    : AsksForList command .listNewsgroups listNewsgroupsReply
        (some ((getSlinearg command 2).getD ".*".toList))
  | xgtitle (begins : caseEqPrefix "xgtitle".toList command = true) (wildmat : Str)
    (argument : getSlinearg command 1 = some wildmat)
    : AsksForList command .xgtitle xgtitleReply (some wildmat)

section Commands

variable {ext : Extern} {cfg : Config} {s : Store} {cmdtyp : ListCmdtyp} {reply : Str}
  {wildmat : Option Str}

theorem docmdList_of_asks {command : Str} (asks : AsksForList command cmdtyp reply wildmat)
    : docmdList ext cfg command cmdtyp = docmdList.list ext cfg cmdtyp reply wildmat := by
  cases asks with
  | list => rfl
  | listNewsgroups => rfl
  | xgtitle begins wildmat argument =>
      unfold docmdList
      rw [argument]

/-- A listing command goes to its branch. -/
theorem doCommand_list {env : Env} {command : Str} (asks : AsksForList command cmdtyp reply wildmat)
    {r : Session} (authenticated : (r.authIsThere || !cfg.useAuth) = true)
    (secured : (!r.tlsActive && cfg.tlsIsMandatory) = false)
    : (doCommand ext cfg env command).run r
      = (docmdList.list ext cfg cmdtyp reply wildmat).run r := by
  have goes (key : Str) (begins : caseEqPrefix key command = true)
      (apart : caseEqPrefix "authinfo".toList key = false ∧ caseEqPrefix key "authinfo".toList = false
        ∧ caseEqPrefix "quit".toList key = false ∧ caseEqPrefix key "quit".toList = false)
      : (SrvBackend.sqlite3.doCommand ext cfg env command).run r
        = (SrvBackend.sqlite3.branch ext cfg env true command).run r := by
    obtain ⟨authinfo, authinfo', quit, quit'⟩ := apart
    rw [doCommand_branch (caseEqPrefix_apart begins authinfo' authinfo), authenticated]
    rw [caseEqPrefix_apart begins quit' quit]
    exact Bool.false_ne_true
  have branch
      : (SrvBackend.sqlite3.doCommand ext cfg env command).run r
        = (checkMandatoryTls cfg (docmdList ext cfg command cmdtyp)).run r := by
    cases asks with
    | list begins notNewsgroups notOverview notListgroup =>
        rw [goes _ begins (by decide)]
        simp only [SrvBackend.branch, SrvBackend.authCommands, List.find?_cons, begins,
          notNewsgroups, notOverview, notListgroup, Bool.and_true, Bool.and_false]
        rfl
    | listNewsgroups begins =>
        rw [goes _ begins (by decide)]
        simp only [SrvBackend.branch, SrvBackend.authCommands, List.find?_cons, begins,
          Bool.and_true]
        rfl
    | xgtitle begins =>
        have other (key : Str) (left : caseEqPrefix "xgtitle".toList key = false)
            (right : caseEqPrefix key "xgtitle".toList = false)
            : caseEqPrefix key command = false :=
          caseEqPrefix_apart begins left right
        rw [goes _ begins (by decide)]
        simp only [SrvBackend.branch, SrvBackend.authCommands, List.find?_cons, begins,
          other "list newsgroups".toList (by decide) (by decide),
          other "list overview.fmt".toList (by decide) (by decide),
          other "listgroup".toList (by decide) (by decide),
          other "list".toList (by decide) (by decide), Bool.and_true, Bool.and_false]
        rfl
  rw [← doCommand_sqlite3, branch, checkMandatoryTls_run, secured, docmdList_of_asks asks]
  rfl

/-- What a line that lists newsgroups does. -/
theorem program_list {r : Session} (commands : r.Commands cfg) {line : Line}
    (asks : AsksForList line.command cmdtyp reply wildmat)
    : ∃ r', ((Connection.program ext cfg ⟨r, s⟩ line).run (exec ext) s = (.ok ((), r'), s))
        ∧ r'.Commands cfg ∧ r'.curAuthUser = r.curAuthUser
        ∧ r'.sent.map (·.text) = listTexts ext cfg s r.curAuthUser cmdtyp reply wildmat := by
  let fresh : Session := { r with sent := [] }
  have ran : ((doCommand ext cfg line.env line.command).run fresh).run (exec ext) s
      = (.ok ((), { fresh.told (listTexts ext cfg s r.curAuthUser cmdtyp reply wildmat) with
          wildmat := none, speccmd := .cleared }), s) := by
    rw [@doCommand_list ext cfg cmdtyp reply wildmat line.env line.command asks fresh
      commands.authenticated commands.secured]
    exact docmdListList_run reply wildmat fresh
  refine ⟨_, @program_of_doCommand ext cfg ⟨r, s⟩ line _ _ commands.settled ran ?_, ?_, rfl, ?_⟩
  · exact List.append_ne_nil_of_right_ne_nil _ (List.cons_ne_nil _ _)
  · exact ⟨rfl, commands.authenticated, commands.secured, commands.settled⟩
  · simp only [Session.told, fresh, commands.idle, List.nil_append, List.map_map]
    exact List.map_id _

/-- A user has no access to a newsgroup that is there but not shown. -/
theorem not_allowed_of_hidden {name : Str} {user : Option Str} (there : s.HasGroup name)
    (hidden : ∀ g ∈ s.visible cfg user, g.name ≠ name)
    : (cfg.useAuth && cfg.useAcl) = true ∧ s.userAllows user name = false := by
  obtain ⟨g, row, rfl⟩ := there
  have denied : ¬s.mayPost cfg user g.name = true :=
    fun shown => hidden g (List.mem_filter.mpr ⟨row, shown⟩) rfl
  unfold Store.mayPost at denied
  split at denied
  · rename_i acl
    exact ⟨acl, by simpa using denied⟩
  · exact absurd rfl denied

/-- GROUP of a newsgroup that is missing or hidden. -/
theorem docmdGroup_refused {command name : Str} (named : getSlinearg command 1 = some name)
    {r : Session} (hidden : ∀ g ∈ s.visible cfg r.curAuthUser, g.name ≠ name)
    : ∃ found, ((docmdGroup cfg command).run r).run (exec ext) s
        = (.ok ((), (r.lookedFor name found).told [nosuchgroup]), s) := by
  cases looks : !(s.newsgroups.filter (·.name == name)).isEmpty with
  | false => exact ⟨r.foundGroup, (docmdGroup_looked named r looks).trans rfl⟩
  | true =>
      obtain ⟨acl, refused⟩ := not_allowed_of_hidden ((hasGroup_iff s).mp looks) hidden
      refine ⟨true, (docmdGroup_looked named r looks).trans ?_⟩
      have checked := aclCheckUserGroup_run ext s (r.lookedFor name true) r.curAuthUser name
      rw [refused] at checked
      rw [if_neg (by simp), if_pos acl]
      exact (run_bind_ok checked).trans rfl

/-- What GROUP answers is decided by the newsgroups that are shown. -/
theorem reply_group (names : (s.newsgroups.map (·.name)).Nodup) {r : Session}
    (commands : r.Commands cfg) {line : Line} {name : Str}
    (begins : caseEqPrefix "group".toList line.command = true)
    (argument : getSlinearg line.command 1 = some name)
    : (Connection.reply ext cfg ⟨r, s⟩ line).map (·.text)
      = [((s.visible cfg r.curAuthUser).find? (·.name == name)).elim nosuchgroup groupLine] := by
  cases shown : (s.visible cfg r.curAuthUser).find? (·.name == name) with
  | some g =>
      obtain rfl : g.name = name := by simpa using List.find?_some shown
      obtain ⟨row, may⟩ := List.mem_filter.mp (List.mem_of_find?_eq_some shown)
      have only : s.newsgroups.filter (·.name == g.name) = [g] := by
        rw [← filter_of_key names row]
        exact List.filter_congr (fun other _ => Bool.beq_eq_decide_eq _ _)
      have allowed (acl : (cfg.useAuth && cfg.useAcl) = true)
          : s.userAllows r.curAuthUser g.name = true := by
        rw [Store.mayPost, if_pos acl] at may
        exact may
      obtain ⟨reader', ran, -, sent⟩ :=
        @program_group ext cfg s g only r ⟨commands, allowed⟩ line begins argument
      rw [Connection.reply, ran]
      exact sent
  | none =>
      have hidden (g : Newsgroup) (member : g ∈ s.visible cfg r.curAuthUser) : g.name ≠ name := by
        simpa using List.find?_eq_none.mp shown g member
      let fresh : Session := { r with sent := [] }
      obtain ⟨found, refused⟩ := @docmdGroup_refused ext cfg s line.command name argument fresh hidden
      have ran : ((doCommand ext cfg line.env line.command).run fresh).run (exec ext) s
          = (.ok ((), (fresh.lookedFor name found).told [nosuchgroup]), s) := by
        rw [@doCommand_group ext cfg line.env line.command fresh begins commands.authenticated
          commands.secured, docmdGroup_sqlite3]
        exact refused
      have replied : ((fresh.lookedFor name found).told [nosuchgroup]).curstring ≠ [] :=
        List.append_ne_nil_of_right_ne_nil _ (List.cons_ne_nil _ _)
      rw [Connection.reply, @program_of_doCommand ext cfg ⟨r, s⟩ line _ _ commands.settled ran replied]
      simp only [Session.told, Session.lookedFor, fresh, commands.idle, List.nil_append]
      rfl

end Commands

end WendzelNNTPd
