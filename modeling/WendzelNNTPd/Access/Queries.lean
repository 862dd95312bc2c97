import WendzelNNTPd.Access.Authentication
import WendzelNNTPd.Access.BackendFrames

/-! What commands do to the store: POST does what `docmd_post` does on its own, and every other
command performs queries only.
-/

namespace WendzelNNTPd

open CString Atomic

/-- The handler performs queries only. -/
abbrev OnlyAsks {α : Type} (m : Srv α) : Prop := HandlerUses (fun op : Stmt => op.isQuery = true) m

section Handlers

variable {ext : Extern} {cfg : Config} {env : Env}

theorem onlyAsks_sql {op : Stmt} (query : op.isQuery = true) : OnlyAsks (sql op) :=
  fun _ => ⟨query, fun _ => trivial⟩

theorem onlyAsks_crash {α : Type} : OnlyAsks (crash : Srv α) := fun _ => trivial

theorem onlyAsks_toSendRow (row : Ngpost) (text : Str) : OnlyAsks (toSendRow row text) :=
  HandlerUses.modify _

theorem onlyAsks_aclCheckUserGroup (user : Option Str) (group : Str)
    : OnlyAsks (aclCheckUserGroup user group) := by
  cases user with
  | none => exact HandlerUses.pure _
  | some user =>
      refine (onlyAsks_sql rfl).bind (fun direct => HandlerUses.ite (fun _ => ?_) (fun _ => ?_))
      · exact (onlyAsks_sql rfl).bind (fun _ => HandlerUses.pure _)
      · exact HandlerUses.pure _

theorem onlyAsks_aclCheckIfUsed (user : Option Str) (group : Str)
    : OnlyAsks (aclCheckIfUsed cfg user group) :=
  HandlerUses.ite (fun _ => onlyAsks_aclCheckUserGroup user group) (fun _ => HandlerUses.pure _)

theorem onlyAsks_listCb (g : Newsgroup) : OnlyAsks (listCb ext cfg g) := by
  refine HandlerUses.get.bind (fun s => (onlyAsks_aclCheckIfUsed _ _).bind (fun visible => ?_))
  refine HandlerUses.ite (fun _ => ?_) (fun _ => HandlerUses.pure _)
  split
  · exact HandlerUses.ite (fun _ => toSend_uses _) (fun _ => HandlerUses.pure _)
  · exact HandlerUses.ite (fun _ => toSend_uses _) (fun _ => HandlerUses.pure _)
  · exact toSend_uses _

theorem onlyAsks_docmdList (command : Str) (cmdtyp : ListCmdtyp)
    : OnlyAsks (docmdList ext cfg command cmdtyp) := by
  have list (reply : Str) (wildmat : Option Str)
      : OnlyAsks (docmdList.list ext cfg cmdtyp reply wildmat) := by
    refine (toSend_uses _).bind (fun _ => HandlerUses.bind ?_ (fun _ => toSend_uses _))
    refine (HandlerUses.modify _).bind (fun _ => (onlyAsks_sql rfl).bind (fun rows => ?_))
    exact (HandlerUses.forM rows (fun g _ => onlyAsks_listCb g)).bind
      (fun _ => HandlerUses.modify _)
  unfold docmdList
  split
  · exact list _ _
  · split
    · exact toSend_uses _
    · exact list _ _
  · exact list _ _

theorem onlyAsks_dbGetHighValue (newsgroup : Str) : OnlyAsks (dbGetHighValue env newsgroup) :=
  (onlyAsks_sql rfl).bind (fun _ => HandlerUses.pure _)

theorem onlyAsks_docmdXhdr (command : Str) : OnlyAsks (docmdXhdr ext env command) := by
  have reply (group : Str) (part : XhdrPart) (msgid : Option Str) (min max : Nat)
      : OnlyAsks (xhdrArticles.reply ext group part msgid min max) := by
    refine (toSend_uses _).bind (fun _ => HandlerUses.bind ?_ (fun _ => toSend_uses _))
    have rounds (rows : List (Ngpost × Posting)) : OnlyAsks (rows.forM (xhdrCb ext part)) :=
      HandlerUses.forM rows (fun row _ => HandlerUses.get.bind (fun _ => onlyAsks_toSendRow _ _))
    refine (HandlerUses.modify _).bind (fun _ => ?_)
    dsimp only
    split
    · exact (onlyAsks_sql rfl).bind (fun rows => (rounds rows).bind (fun _ => HandlerUses.modify _))
    · exact (onlyAsks_sql rfl).bind (fun rows => (rounds rows).bind (fun _ => HandlerUses.modify _))
  have range (group : Str) (realMax : Nat) (part : XhdrPart) (min max : Nat)
      : OnlyAsks (xhdrArticles.range ext group realMax part min max) :=
    HandlerUses.ite (fun _ => toSend_uses _) (fun _ => reply _ _ _ _ _)
  refine HandlerUses.get.bind (fun s => ?_)
  split
  · exact toSend_uses _
  · refine (onlyAsks_dbGetHighValue _).bind (fun realMax => ?_)
    split
    · exact toSend_uses _
    · split
      · exact toSend_uses _
      · refine (HandlerUses.modify _).bind (fun _ => HandlerUses.get.bind (fun s => ?_))
        split
        · split
          · exact toSend_uses _
          · exact range _ _ _ _ _
        · refine HandlerUses.ite (fun _ => ?_) (fun _ => range _ _ _ _ _)
          refine HandlerUses.bind ?_ (fun there => ?_)
          · exact (onlyAsks_sql rfl).bind (fun _ => HandlerUses.pure _)
          · exact HandlerUses.ite (fun _ => reply _ _ _ _ _) (fun _ => toSend_uses _)

theorem onlyAsks_docmdXover (command : Str) : OnlyAsks (docmdXover ext env command) := by
  have range (group : Str) (realMax min max : Nat)
      : OnlyAsks (docmdXover.range ext group realMax min max) := by
    refine HandlerUses.ite (fun _ => toSend_uses _) (fun _ => ?_)
    refine (toSend_uses _).bind (fun _ => HandlerUses.bind ?_ (fun _ => toSend_uses _))
    exact (onlyAsks_sql rfl).bind
      (fun rows => HandlerUses.forM rows (fun _ _ => onlyAsks_toSendRow _ _))
  refine HandlerUses.get.bind (fun s => ?_)
  split
  · exact toSend_uses _
  · refine (onlyAsks_dbGetHighValue _).bind (fun realMax => ?_)
    split
    · split
      · exact toSend_uses _
      · exact range _ _ _ _
    · exact range _ _ _ _

theorem onlyAsks_articleCb (row : Ngpost) : OnlyAsks (articleCb cfg row) := by
  refine (HandlerUses.modify _).bind (fun _ => HandlerUses.get.bind (fun s => ?_))
  refine (onlyAsks_toSendRow _ _).bind (fun _ => HandlerUses.bind ?_ (fun _ => HandlerUses.bind ?_ ?_))
  · refine HandlerUses.ite (fun _ => ?_) (fun _ => HandlerUses.pure _)
    refine (onlyAsks_sql rfl).bind (fun headers => HandlerUses.forM headers (fun header _ => ?_))
    refine HandlerUses.get.bind (fun s => ?_)
    split
    · exact (onlyAsks_toSendRow _ _).bind (fun _ => onlyAsks_toSendRow _ _)
    · exact (onlyAsks_toSendRow _ _).bind (fun _ => onlyAsks_toSendRow _ _)
    · exact HandlerUses.pure _
  · refine HandlerUses.ite (fun _ => ?_) (fun _ => HandlerUses.pure _)
    refine HandlerUses.ite (fun _ => onlyAsks_crash) (fun _ => ?_)
    refine HandlerUses.bind ((onlyAsks_sql rfl).bind (fun _ => HandlerUses.pure _)) (fun body => ?_)
    split
    · exact onlyAsks_toSendRow _ _
    · exact HandlerUses.pure _
  · exact fun _ => HandlerUses.modify _

theorem onlyAsks_docmdArticle (command : Str) : OnlyAsks (docmdArticle cfg command) := by
  have retrieve (group : Str) (type : Artcltyp) : OnlyAsks (docmdArticle.retrieve cfg group type) := by
    have rounds (rows : List Ngpost) : OnlyAsks (rows.forM (articleCb cfg)) :=
      HandlerUses.forM rows (fun row _ => onlyAsks_articleCb row)
    refine HandlerUses.bind (HandlerUses.get.bind (fun s => ?_)) (fun _ => ?_)
    · dsimp only
      split
      · exact (onlyAsks_sql rfl).bind rounds
      · exact (onlyAsks_sql rfl).bind rounds
      · exact (onlyAsks_sql rfl).bind rounds
    · refine HandlerUses.get.bind (fun s => ?_)
      exact HandlerUses.ite (fun _ => HandlerUses.pure _) (fun _ => toSend_uses _)
  refine (HandlerUses.modify _).bind (fun _ => HandlerUses.get.bind (fun s => ?_))
  split
  · exact toSend_uses _
  · split
    · exact toSend_uses _
    · exact HandlerUses.ite (fun _ => toSend_uses _) (fun _ => retrieve _ _)
    · exact retrieve _ _

theorem onlyAsks_checkNewsgroupExistence : OnlyAsks dbCheckNewsgroupExistence := by
  refine (HandlerUses.modify _).bind (fun _ => HandlerUses.get.bind (fun s => ?_))
  split
  · exact onlyAsks_crash
  · exact (onlyAsks_sql rfl).bind (fun _ => HandlerUses.modify _)

theorem onlyAsks_docmdGroup (command : Str) : OnlyAsks (docmdGroup cfg command) := by
  have groupCb (g : Newsgroup) : OnlyAsks (groupCb g) := by
    refine (toSend_uses _).bind (fun _ => (HandlerUses.modify _).bind (fun _ => ?_))
    refine (onlyAsks_sql rfl).bind (fun rows => ?_)
    exact (HandlerUses.forM rows (fun _ _ => HandlerUses.modify _)).bind
      (fun _ => HandlerUses.modify _)
  have dbGroup (group : Str) : OnlyAsks (dbGroup group) := by
    refine HandlerUses.get.bind (fun old => (onlyAsks_sql rfl).bind (fun rows => ?_))
    refine (HandlerUses.modify _).bind (fun _ => HandlerUses.bind ?_ (fun _ => HandlerUses.modify _))
    exact HandlerUses.forM rows (fun g _ => groupCb g)
  refine HandlerUses.get.bind (fun old => ?_)
  split
  · exact toSend_uses _
  · refine (HandlerUses.modify _).bind (fun _ => onlyAsks_checkNewsgroupExistence.bind (fun _ => ?_))
    refine HandlerUses.get.bind (fun s => HandlerUses.ite (fun _ => ?_) (fun _ => ?_))
    · exact (toSend_uses _).bind (fun _ => HandlerUses.modify _)
    · refine HandlerUses.ite (fun _ => ?_) (fun _ => dbGroup _)
      refine (onlyAsks_aclCheckUserGroup _ _).bind (fun allowed => ?_)
      exact HandlerUses.ite (fun _ => dbGroup _) (fun _ => toSend_uses _)

theorem onlyAsks_docmdListgroup (command : Str) : OnlyAsks (docmdListgroup cfg command) := by
  have listgroupCb (row : Ngpost) : OnlyAsks (listgroupCb row) :=
    (onlyAsks_toSendRow _ _).bind (fun _ => HandlerUses.modify _)
  have reply (group : Str) : OnlyAsks (docmdListgroup.reply group) := by
    refine (toSend_uses _).bind (fun _ => (HandlerUses.modify _).bind (fun _ => ?_))
    refine (onlyAsks_sql rfl).bind (fun rows => ?_)
    refine (HandlerUses.forM rows (fun row _ => listgroupCb row)).bind (fun _ => ?_)
    exact (HandlerUses.modify _).bind (fun _ => toSend_uses _)
  have listing (group : Str) : OnlyAsks (docmdListgroup.listing cfg group) := by
    refine HandlerUses.get.bind (fun s => HandlerUses.ite (fun _ => ?_) (fun _ => reply _))
    refine (onlyAsks_aclCheckUserGroup _ _).bind (fun allowed => ?_)
    exact HandlerUses.ite (fun _ => reply _) (fun _ => toSend_uses _)
  refine HandlerUses.get.bind (fun s => ?_)
  split
  · split
    · exact toSend_uses _
    · exact listing _
  · refine (HandlerUses.modify _).bind (fun _ => onlyAsks_checkNewsgroupExistence.bind (fun _ => ?_))
    refine HandlerUses.get.bind (fun found => HandlerUses.ite (fun _ => ?_) (fun _ => ?_))
    · exact (HandlerUses.modify _).bind (fun _ => toSend_uses _)
    · exact (HandlerUses.modify _).bind (fun _ => listing _)

end Handlers

-----------------------------------------------------------------------------------------
-- What a line does to the store
-----------------------------------------------------------------------------------------

section Lines

variable {ext : Extern} {cfg : Config} {env : Env}

/-- A handler that asks only leaves the store as it is. -/
theorem store_of_asks {α : Type} {m : Srv α} (asks : OnlyAsks m) (r : Session) (s : Store)
    : ((m.run r).run (exec ext) s).2 = s := by
  have keeps (op : Stmt) (s' : Store) (query : op.isQuery = true) (same : s' = s)
      : (exec ext op s').2 = s := by
    rw [← same]
    exact execOn_query .sqlite3 ext query s'
  exact @Prog.Uses.run_invariant _ _ _ _ _ (exec ext) (fun s' => s' = s) keeps _ (asks r) s rfl

/-- Whatever holds of handlers that ask only, and of POST, holds of every command.
Witness: the branch of `do_command` that is taken.
-/
theorem doCommand_cases {P : Prog Sql Exit (Unit × Session) → Prop} {r : Session}
    (asks : ∀ m : Srv Unit, OnlyAsks m → P (m.run r))
    (posts : P ((docmdPost ext cfg env).run r)) (command : Str)
    : P ((doCommand ext cfg env command).run r) := by
  have ite {c : Prop} [Decidable c] {m m' : Srv Unit} (yes : P (m.run r)) (no : P (m'.run r))
      : P ((if c then m else m').run r) := by
    split
    · exact yes
    · exact no
  have checked {m : Srv Unit} (passes : P (m.run r)) : P ((checkMandatoryTls cfg m).run r) := by
    rw [checkMandatoryTls_run]
    split
    · exact asks _ (toSend_uses _)
    · exact passes
  have pass : OnlyAsks (docmdAuthinfoPass ext cfg command) := by
    intro r'
    refine (docmdAuthinfoPass_uses command r').mono (fun op query => ?_)
    obtain ⟨name, password, rfl⟩ := query
    rfl
  refine ite (asks _ quit_uses) (ite (checked (asks _ (docmdAuthinfoUser_uses command)))
    (ite (checked (asks _ pass)) ?_))
  dsimp only
  split
  · rename_i entry found
    have member := List.mem_of_find?_eq_some found
    simp only [authCommands, List.mem_cons, List.not_mem_nil, or_false] at member
    rcases member with rfl | rfl | rfl | rfl | rfl | rfl | rfl | rfl | rfl | rfl | rfl | rfl
      | rfl | rfl | rfl | rfl | rfl
    · exact checked (asks _ (onlyAsks_docmdList command _))
    · exact asks _ (toSend_uses _)
    · exact checked (asks _ (onlyAsks_docmdListgroup command))
    · exact checked (asks _ (onlyAsks_docmdList command _))
    · exact checked (asks _ (onlyAsks_docmdList command _))
    · exact asks _ (toSend_uses _)
    · exact checked (asks _ (onlyAsks_docmdGroup command))
    · exact checked (asks _ (onlyAsks_docmdXover command))
    · exact checked (asks _ (onlyAsks_docmdXhdr command))
    · exact checked (asks _ (onlyAsks_docmdArticle command))
    · exact checked (asks _ (onlyAsks_docmdArticle command))
    · exact checked (asks _ (onlyAsks_docmdArticle command))
    · exact checked (asks _ (onlyAsks_docmdArticle command))
    · exact checked (asks _ (toSend_uses _))
    · exact checked posts
    · exact asks _ (toSend_uses _)
    · exact asks _ docmdCapabilities_uses
  · exact asks _ (lastCommands_uses _ command)

/-- The end of a round of the main loop, where the reply is sent. -/
def sendReply : Srv Unit := do
  let s ← get
  if s.curstring = [] then crash
  else modify (fun s => { s with sent := s.sent ++ s.curstring, curstring := [] })

theorem onlyAsks_sendReply : OnlyAsks sendReply :=
  HandlerUses.get.bind
    (fun _ => HandlerUses.ite (fun _ => onlyAsks_crash) (fun _ => HandlerUses.modify _))

theorem onlyAsks_switchToTls : OnlyAsks (switchToTls env) := by
  intro r
  rw [switchToTls_run]
  split
  · split
    · trivial
    · trivial
  · trivial

theorem program_eq (conn : Connection) (line : Line)
    : conn.program ext cfg line
      = (switchToTls line.env >>= fun _ =>
          doCommand ext cfg line.env line.command >>= fun _ => sendReply).run
          { conn.session with sent := [] } :=
  rfl

/-- The reply is sent behind the command and changes nothing. -/
theorem store_of_sendReply {m : Srv Unit} (r : Session) (s : Store)
    : (((m >>= fun _ => sendReply).run r).run (exec ext) s).2 = ((m.run r).run (exec ext) s).2 := by
  rw [StateT.run_bind, Prog.run_bind]
  split
  · rename_i out s' ran
    rw [ran, store_of_asks onlyAsks_sendReply]
  · rename_i reason s' ran
    rw [ran]

theorem user_of_switchToTls {r : Session} {out : Unit × Session} {s s' : Store}
    (ran : ((switchToTls env).run r).run (exec ext) s = (.ok out, s'))
    : out.2.curAuthUser = r.curAuthUser := by
  rw [switchToTls_run] at ran
  split at ran
  · split at ran
    · cases ran
      rfl
    · cases ran
  · cases ran
    rfl

/-- Serving a line leaves the store as it is, or does to it what `docmd_post` does for the user of
the session. -/
theorem store_of_program (conn : Connection) (line : Line)
    : ((conn.program ext cfg line).run (exec ext) conn.store).2 = conn.store
      ∨ ∃ session, session.curAuthUser = conn.session.curAuthUser
          ∧ ((conn.program ext cfg line).run (exec ext) conn.store).2
            = (((docmdPost ext cfg line.env).run session).run (exec ext) conn.store).2 := by
  have switched := @store_of_asks ext _ _ (@onlyAsks_switchToTls line.env)
    { conn.session with sent := [] } conn.store
  rw [program_eq, StateT.run_bind, Prog.run_bind]
  split
  · rename_i out s ran
    rw [ran] at switched
    obtain rfl : s = conn.store := switched
    have user := user_of_switchToTls ran
    rw [store_of_sendReply]
    refine doCommand_cases (P := fun p =>
      (p.run (exec ext) conn.store).2 = conn.store
      ∨ ∃ session, session.curAuthUser = conn.session.curAuthUser
          ∧ (p.run (exec ext) conn.store).2
            = (((docmdPost ext cfg line.env).run session).run (exec ext) conn.store).2) ?_ ?_ _
    · exact fun m asks => Or.inl (store_of_asks asks out.2 conn.store)
    · exact Or.inr ⟨out.2, user, rfl⟩
  · rename_i reason s ran
    rw [ran] at switched
    exact Or.inl switched

end Lines

end WendzelNNTPd
