import WendzelNNTPd.Access.Authentication
import WendzelNNTPd.Access.BackendFrames
import WendzelNNTPd.Database.AclCheck

/-! What a command that is answered with an error leaves behind, on each of the three backends.
A handler either leaves the selection and the store alone, or begins its reply with a status
that is no error before it changes anything; LISTGROUP alone selects a newsgroup before the
access check.
-/

namespace WendzelNNTPd

open CString Atomic

section Property

/-- The status lines of the replies to a command: what was sent while it was served, and the
beginning of its reply. -/
def statusLines : Except Exit (Unit × Session) → List Piece
  | .ok (_, session) => session.sent ++ session.curstring.take 1
  | .error (.killThread sent) => sent
  | .error _ => []

/-- The tables of the database. -/
structure Store.SameTables (s s' : Store) : Prop where
  newsgroups : s'.newsgroups = s.newsgroups
  ngposts : s'.ngposts = s.ngposts
  postings : s'.postings = s.postings
  users : s'.users = s.users
  roles : s'.roles = s.roles
  users2roles : s'.users2roles = s.users2roles
  aclUsers : s'.aclUsers = s.aclUsers
  aclRoles : s'.aclRoles = s.aclRoles

variable (db : SrvBackend) (ext : Extern) (cfg : Config) (env : Env) (session : Session)
  (s : Store)

/-- What becomes of a command on a connection that has the store to itself; nothing of a reply
is there before. -/
def SrvBackend.outcome (command : Str) : Except Exit (Unit × Session) × Store :=
  ((db.doCommand ext cfg env command).run { session with curstring := [], sent := [] }).run
    (execOn db.dbase ext) s

/-- If a command other than AUTHINFO is answered with an error, the selection and the tables are
as before. -/
def ErrorsChangeNothing (command : Str) : Prop :=
  caseEqPrefix "authinfo".toList command = false →
  (∃ line ∈ statusLines (db.outcome ext cfg env session s command).1, isError line.text = true) →
    (∀ session', (db.outcome ext cfg env session s command).1 = .ok ((), session') →
      session'.selectedGroup = session.selectedGroup
      ∧ session'.selectedArticle = session.selectedArticle)
    ∧ s.SameTables (db.outcome ext cfg env session s command).2

/-- The existence check of the backend finds the newsgroup, and its access check refuses it to
the user of the session. -/
def SrvBackend.Hides (name : Str) : Prop :=
  ∃ found refused,
    (db.checkNewsgroupExistence.run
        { session with curstring := [], sent := [], chkname := some name }).run
      (execOn db.dbase ext) s = (.ok ((), found), s)
    ∧ found.foundGroup = true
    ∧ ((db.aclCheck found.curAuthUser name).run { found with selectedGroup := some name }).run
      (execOn db.dbase ext) s = (.ok (false, refused), s)

/-- The command is a LISTGROUP, from a client that may command, that names an existing newsgroup
which is hidden from the user and not selected. -/
def ListsHidden (command : Str) : Prop :=
  caseEqPrefix "listgroup".toList command = true
  ∧ (session.authIsThere || !cfg.useAuth) = true
  ∧ (!session.tlsActive && cfg.tlsIsMandatory) = false
  ∧ (cfg.useAuth && cfg.useAcl) = true
  ∧ ∃ name, getSlinearg command 1 = some name ∧ session.selectedGroup ≠ some name
    ∧ db.Hides ext session s name

end Property

section Safe

variable {dbase : Dbase} {ext : Extern}

/-- No error has been sent. -/
def Clean (sent : List Piece) : Prop := ∀ piece ∈ sent, isError piece.text = false

/-- The selection and the store are as before, or the replies report success. -/
def Face.Unharmed (f : Face) (s₀ : Store) (r : Session) (s : Store) : Prop :=
  (r.selectedGroup = f.selectedGroup ∧ r.selectedArticle = f.selectedArticle ∧ s = s₀)
  ∨ (Clean r.sent ∧ ∃ piece, [piece] <+: r.curstring ∧ isError piece.text = false)

/-- The store is as before, or no error was sent. -/
def Exit.Harmless (s₀ : Store) (reason : Exit) (s : Store) : Prop :=
  s = s₀ ∨ ∀ sent, reason = .killThread sent → Clean sent

/-- Nothing is changed unless the replies report success. -/
def Safe (dbase : Dbase) (ext : Extern) (f : Face) (s₀ : Store) (m : Srv Unit) : Prop :=
  Ensures (execOn dbase ext) (fun r s => r.face = f ∧ s = s₀) m
    (fun _ => f.Unharmed s₀) (Exit.Harmless s₀)

variable {f : Face} {s₀ : Store}

theorem harmless_of_sentIs (clean : Clean f.sent) {reason : Exit} (same : reason.SentIs f.sent)
    (s : Store)
    : reason.Harmless s₀ s := by
  apply Or.inr
  intro sent killed
  subst killed
  exact same ▸ clean

theorem Listing.safe {m : Srv Unit} (listing : Listing dbase ext m) (clean : Clean f.sent)
    : Safe dbase ext f s₀ m := by
  intro r s start
  obtain ⟨face, store⟩ := start
  subst face
  apply Prog.wp_mono _ (listing r.selectedGroup r.selectedArticle [] r.sent s₀ r s
    ⟨⟨rfl, rfl, List.nil_prefix, rfl⟩, store⟩)
  · exact fun out s' done => Or.inl ⟨done.1.1, done.1.2.1, done.2⟩
  · exact fun reason s' stopped => harmless_of_sentIs clean stopped s'

theorem Answers.safe {m : Srv Unit} (answers : Answers dbase ext m) (idle : f.curstring = [])
    (clean : Clean f.sent)
    : Safe dbase ext f s₀ m := by
  intro r s start
  apply Prog.wp_mono _ (answers f s₀ idle r s start)
  · intro out s' done
    obtain ⟨same | accepts, store⟩ := done
    · exact Or.inl ⟨congrArg Face.selectedGroup same, congrArg Face.selectedArticle same, store⟩
    · exact Or.inr ⟨accepts.1 ▸ clean, accepts.2⟩
  · exact fun reason s' stopped => harmless_of_sentIs clean stopped s'

theorem Safe.bind_lookup {β : Type} {m : Srv β} {rest : β → Srv Unit}
    (first : Lookup dbase ext m) (clean : Clean f.sent)
    (safe : ∀ b, Safe dbase ext f s₀ (rest b))
    : Safe dbase ext f s₀ (m >>= rest) := by
  intro r s start
  rw [StateT.run_bind, Prog.wp_bind]
  apply Prog.wp_mono _ (first f s₀ r s start)
  · exact fun out s' done => safe out.1 out.2 s' done
  · exact fun reason s' stopped => harmless_of_sentIs clean stopped s'

theorem Safe.get_bind {rest : Session → Srv Unit}
    (safe : ∀ r, r.face = f → Safe dbase ext f s₀ (rest r))
    : Safe dbase ext f s₀ (get >>= rest) :=
  fun r s start => safe r start.1 r s start

theorem Safe.ite {c : Prop} [Decidable c] {m m' : Srv Unit} (yes : Safe dbase ext f s₀ m)
    (no : Safe dbase ext f s₀ m')
    : Safe dbase ext f s₀ (if c then m else m') :=
  Ensures.ite (fun _ => yes) (fun _ => no)

end Safe

section Handlers

variable {db : SrvBackend} {ext : Extern} {cfg : Config} {env : Env} {f : Face} {s₀ : Store}

theorem safe_docmdList (frames : db.Frames ext) (clean : Clean f.sent) (command : Str)
    (cmdtyp : ListCmdtyp)
    : Safe db.dbase ext f s₀ (db.docmdList ext cfg command cmdtyp) := by
  have list (reply : Str) (wildmat : Option Str)
      : Safe db.dbase ext f s₀
          (SrvBackend.docmdList.list db ext cfg cmdtyp reply wildmat) := by
    apply Listing.safe _ clean
    refine Listing.bind (Listing.toSend _) (fun _ => ?_)
    exact Listing.bind (frames.list cfg cmdtyp wildmat) (fun _ => Listing.toSend _)
  cases cmdtyp with
  | list => exact list _ _
  | listNewsgroups => exact list _ _
  | xgtitle =>
      simp only [SrvBackend.docmdList]
      split
      · exact (Listing.toSend _).safe clean
      · exact list _ _

theorem safe_docmdXhdr (frames : db.Frames ext) (clean : Clean f.sent) (command : Str)
    : Safe db.dbase ext f s₀ (db.docmdXhdr ext env command) := by
  have reply (group : Str) (part : XhdrPart) (msgid : Option Str) (min max : Nat)
      : Safe db.dbase ext f s₀
          (SrvBackend.xhdrArticles.reply db ext group part msgid min max) := by
    apply Listing.safe _ clean
    refine Listing.bind (Listing.toSend _) (fun _ => ?_)
    exact Listing.bind (frames.xhdr part group msgid min max) (fun _ => Listing.toSend _)
  have refuse (text : Str) : Safe db.dbase ext f s₀ (toSend text) := (Listing.toSend _).safe clean
  have range (group : Str) (realMax : Nat) (part : XhdrPart) (min max : Nat)
      : Safe db.dbase ext f s₀
          (SrvBackend.xhdrArticles.range db ext group realMax part min max) :=
    (refuse _).ite (reply _ _ _ _ _)
  have articles (group : Str) (realMax : Nat) (part : XhdrPart)
      : Safe db.dbase ext f s₀ (db.xhdrArticles ext command group realMax part) := by
    refine Safe.get_bind (fun r _ => ?_)
    split
    · split
      · exact refuse _
      · exact range _ _ _ _ _
    · apply Safe.ite _ (range _ _ _ _ _)
      refine Safe.bind_lookup (frames.chkIfMsgidExists _ _) clean (fun there => ?_)
      exact (reply _ _ _ _ _).ite (refuse _)
  refine Safe.get_bind (fun r _ => ?_)
  split
  · exact refuse _
  · refine Safe.bind_lookup (frames.getHighValue _ _) clean (fun realMax => ?_)
    split
    · exact refuse _
    · split
      · exact refuse _
      · refine Safe.bind_lookup (Lookup.modify (fun _ => rfl)) clean (fun _ => ?_)
        exact articles _ _ _

theorem safe_docmdXover (frames : db.Frames ext) (clean : Clean f.sent) (command : Str)
    : Safe db.dbase ext f s₀ (db.docmdXover ext env command) := by
  have refuse (text : Str) : Safe db.dbase ext f s₀ (toSend text) := (Listing.toSend _).safe clean
  have range (group : Str) (realMax min max : Nat)
      : Safe db.dbase ext f s₀ (SrvBackend.docmdXover.range db ext group realMax min max) := by
    apply Safe.ite (refuse _)
    apply Listing.safe _ clean
    refine Listing.bind (Listing.toSend _) (fun _ => ?_)
    exact Listing.bind (frames.xover group min max) (fun _ => Listing.toSend _)
  refine Safe.get_bind (fun r _ => ?_)
  split
  · exact refuse _
  · refine Safe.bind_lookup (frames.getHighValue _ _) clean (fun realMax => ?_)
    split
    · split
      · exact refuse _
      · exact range _ _ _ _
    · exact range _ _ _ _

theorem safe_docmdArticle (frames : db.Frames ext) (idle : f.curstring = [])
    (clean : Clean f.sent) (command : Str)
    : Safe db.dbase ext f s₀ (db.docmdArticle cfg command) := by
  have refuse (text : Str) : Safe db.dbase ext f s₀ (toSend text) := (Listing.toSend _).safe clean
  have retrieve (group : Str) (type : Artcltyp)
      : Safe db.dbase ext f s₀ (SrvBackend.docmdArticle.retrieve db cfg group type) := by
    intro r s start
    unfold SrvBackend.docmdArticle.retrieve
    rw [StateT.run_bind, Prog.wp_bind]
    apply Prog.wp_mono _ (frames.article cfg group type f s₀ idle r s start)
    · intro out s' done
      have last : Listing db.dbase ext
          (get >>= fun s : Session => if s.foundArticle then pure () else toSend nosucharticle) :=
        Listing.get_bind (fun r => (Listing.pure _).ite (Listing.toSend _))
      obtain ⟨same | accepts, store⟩ := done
      · exact last.safe clean out.2 s' ⟨same, store⟩
      · apply Prog.wp_mono _ (last.moving.accepts f.sent s₀ out.2 s' ⟨accepts, store⟩)
        · exact fun out s' done => Or.inr ⟨done.1.1 ▸ clean, done.1.2⟩
        · exact fun reason s' stopped => harmless_of_sentIs clean stopped s'
    · exact fun reason s' stopped => harmless_of_sentIs clean stopped s'
  refine Safe.bind_lookup (Lookup.modify (fun _ => rfl)) clean (fun _ => ?_)
  refine Safe.get_bind (fun r _ => ?_)
  split
  · exact refuse _
  · split
    · exact refuse _
    · exact (refuse _).ite (retrieve _ _)
    · exact retrieve _ _

theorem lookup_aclCheck (frames : db.Frames ext) (user : Option Str) (group : Str)
    : Lookup db.dbase ext (db.aclCheck user group) := by
  cases user with
  | none => exact Lookup.pure _
  | some user => exact frames.aclCheckUserGroup user group

theorem safe_docmdGroup (frames : db.Frames ext) (idle : f.curstring = []) (clean : Clean f.sent)
    (command : Str)
    : Safe db.dbase ext f s₀ (db.docmdGroup cfg command) := by
  have refuse (text : Str) : Safe db.dbase ext f s₀ (toSend text) := (Listing.toSend _).safe clean
  have select (name : Str) : Safe db.dbase ext f s₀ (db.group name) :=
    (frames.group name).safe idle clean
  refine Safe.get_bind (fun old _ => ?_)
  split
  · exact refuse _
  · refine Safe.bind_lookup (Lookup.modify (fun _ => rfl)) clean (fun _ => ?_)
    refine Safe.bind_lookup frames.checkNewsgroupExistence clean (fun _ => ?_)
    refine Safe.get_bind (fun r _ => ?_)
    apply Safe.ite
    · apply Listing.safe _ clean
      exact Listing.bind (Listing.toSend _) (fun _ => Listing.modify (fun _ => rfl))
    · apply Safe.ite _ (select _)
      refine Safe.bind_lookup (lookup_aclCheck frames _ _) clean (fun allowed => ?_)
      exact (select _).ite (refuse _)

/-- A reply that begins with success. -/
theorem safe_listgroupReply (frames : db.Frames ext) (idle : f.curstring = [])
    (clean : Clean f.sent) (group : Str)
    : Safe db.dbase ext f s₀ (SrvBackend.docmdListgroup.reply db group) :=
  (Begins.append_bind rfl (frames.listgroup group)).answers.safe idle clean

theorem listgroupReply_succeeds (frames : db.Frames ext) (group : Str)
    : Ensures (execOn db.dbase ext)
        (fun r s => (r.curstring = [] ∧ r.sent = []) ∧ s = s₀)
        (SrvBackend.docmdListgroup.reply db group) (fun _ => f.Unharmed s₀)
        (Exit.Harmless s₀) := by
  have nothing : Clean [] := fun piece member => by cases member
  have begins : Begins db.dbase ext (SrvBackend.docmdListgroup.reply db group) :=
    Begins.append_bind rfl (frames.listgroup group)
  intro r s start
  apply Prog.wp_mono _ (begins [] s₀ r s start)
  · exact fun out s' done => Or.inr ⟨done.1.1 ▸ nothing, done.1.2⟩
  · exact fun reason s' stopped => harmless_of_sentIs (f := ⟨none, none, [], []⟩) nothing stopped s'

/-- What a lookup returns is what its run returns. -/
theorem Lookup.exact {dbase : Dbase} {β : Type} {m : Srv β} (lookup : Lookup dbase ext m)
    {r₁ : Session} (clean : Clean r₁.sent)
    : Ensures (execOn dbase ext) (fun r s => r = r₁ ∧ s = s₀) m
        (fun b r s =>
          (m.run r₁).run (execOn dbase ext) s₀ = (.ok (b, r), s₀) ∧ r.face = r₁.face ∧ s = s₀)
        (Exit.Harmless s₀) := by
  intro r s start
  obtain ⟨same, store⟩ := start
  subst same store
  have done := lookup r.face s r s ⟨rfl, rfl⟩
  unfold Prog.wp at done ⊢
  split
  · rename_i out s' ran
    rw [ran] at done
    obtain ⟨face, store⟩ := done
    subst store
    exact ⟨ran, face, rfl⟩
  · rename_i reason s' ran
    rw [ran] at done
    exact harmless_of_sentIs clean done s'

/-- LISTGROUP of the selected newsgroup, or behind the access check. -/
theorem safe_listing (frames : db.Frames ext) (idle : f.curstring = []) (clean : Clean f.sent)
    (group : Str)
    : Safe db.dbase ext f s₀ (SrvBackend.docmdListgroup.listing db cfg group) := by
  refine Safe.get_bind (fun r _ => ?_)
  apply Safe.ite _ (safe_listgroupReply frames idle clean group)
  refine Safe.bind_lookup (lookup_aclCheck frames _ _) clean (fun allowed => ?_)
  exact (safe_listgroupReply frames idle clean group).ite ((Listing.toSend _).safe clean)

/-- A newsgroup is listed, or the access check refuses it: then the selection has to be the one
from before.
Witness: what the access check returns is what its run returns, and a list of articles begins
with success.
-/
theorem listing_checked (frames : db.Frames ext) {r₁ : Session} (idle : r₁.curstring = [])
    (sent : r₁.sent = []) {group : Str}
    (refused : ∀ r', (cfg.useAuth && cfg.useAcl) = true →
      ((db.aclCheck r₁.curAuthUser group).run r₁).run (execOn db.dbase ext) s₀
        = (.ok (false, r'), s₀) →
      r₁.selectedGroup = f.selectedGroup ∧ r₁.selectedArticle = f.selectedArticle)
    : Ensures (execOn db.dbase ext) (fun r s => r = r₁ ∧ s = s₀)
        (SrvBackend.docmdListgroup.listing db cfg group) (fun _ => f.Unharmed s₀)
        (Exit.Harmless s₀) := by
  have nothing : Clean r₁.sent := fun piece member => by simp [sent] at member
  have reply : Ensures (execOn db.dbase ext) (fun r s => r.face = r₁.face ∧ s = s₀)
      (SrvBackend.docmdListgroup.reply db group) (fun _ => f.Unharmed s₀) (Exit.Harmless s₀) := by
    apply (listgroupReply_succeeds frames group).pre
    intro r s start
    exact ⟨⟨(congrArg Face.curstring start.1).trans idle, (congrArg Face.sent start.1).trans sent⟩,
      start.2⟩
  intro r s start
  obtain ⟨rfl, rfl⟩ := start
  simp only [SrvBackend.docmdListgroup.listing]
  have checked : Ensures (execOn db.dbase ext) (fun r' s' => r' = r ∧ s' = s)
      (if (cfg.useAuth && cfg.useAcl) = true then do
          let allowed ← db.aclCheck r.curAuthUser group
          if allowed = true then SrvBackend.docmdListgroup.reply db group else toSend nosuchgroup
        else SrvBackend.docmdListgroup.reply db group)
      (fun _ => f.Unharmed s) (Exit.Harmless s) := by
    refine Ensures.ite (fun used => ?_) (fun unused => ?_)
    · refine Ensures.bind ((lookup_aclCheck frames _ _).exact nothing) (fun allowed => ?_)
      refine Ensures.ite (fun yes => reply.pre (fun r' s' start => start.2)) (fun no => ?_)
      intro r' s' start
      obtain ⟨asked, face, rfl⟩ := start
      have denied : allowed = false := by simpa using no
      subst denied
      obtain ⟨sameGroup, sameArticle⟩ := refused r' used asked
      exact Or.inl ⟨(congrArg Face.selectedGroup face).trans sameGroup,
        (congrArg Face.selectedArticle face).trans sameArticle, rfl⟩
    · exact reply.pre (fun r' s' start => ⟨congrArg Session.face start.1, start.2⟩)
  exact checked r s ⟨rfl, rfl⟩

/-- LISTGROUP, unless it selects a newsgroup that is hidden from the user.
Witness: what the existence check and the access check return is what makes the newsgroup a
hidden one.
-/
theorem safe_docmdListgroup (frames : db.Frames ext) {session : Session} {s₀ : Store}
    {command : Str}
    (shown : ∀ name, (cfg.useAuth && cfg.useAcl) = true → getSlinearg command 1 = some name →
      session.selectedGroup ≠ some name → ¬db.Hides ext session s₀ name)
    : Ensures (execOn db.dbase ext)
        (fun r s => r = { session with curstring := [], sent := [] } ∧ s = s₀)
        (db.docmdListgroup cfg command)
        (fun _ => Face.Unharmed ⟨session.selectedGroup, session.selectedArticle, [], []⟩ s₀)
        (Exit.Harmless s₀) := by
  have nothing : Clean [] := fun piece member => by cases member
  refine Ensures.get_bind (fun old => ?_)
  cases arg : getSlinearg command 1 with
  | none =>
      have start (r : Session) (s : Store)
          (pre : r = old ∧ old = { session with curstring := [], sent := [] } ∧ s = s₀)
          : r.face = ⟨session.selectedGroup, session.selectedArticle, [], []⟩ ∧ s = s₀ := by
        obtain ⟨rfl, rfl, rfl⟩ := pre
        exact ⟨rfl, rfl⟩
      dsimp only
      split
      · exact Ensures.pre ((Listing.toSend _).safe nothing) start
      · exact Ensures.pre (safe_listing frames rfl nothing _) start
  | some ptr =>
      refine Ensures.bind (R := fun _ r s =>
        r = { session with curstring := [], sent := [], chkname := some ptr } ∧ s = s₀) ?_ (fun _ => ?_)
      · apply Ensures.modify
        intro r s start
        obtain ⟨rfl, rfl, rfl⟩ := start
        exact ⟨rfl, rfl⟩
      refine Ensures.bind (frames.checkNewsgroupExistence.exact nothing) (fun _ => ?_)
      refine Ensures.get_bind (fun found => ?_)
      refine Ensures.ite (fun missing => ?_) (fun exists' => ?_)
      · refine Ensures.pre (Listing.safe ?_ nothing) (fun r s start => ?_)
        · exact Listing.bind (Listing.modify (fun _ => rfl)) (fun _ => Listing.toSend _)
        · obtain ⟨rfl, ran, face, rfl⟩ := start
          exact ⟨face, rfl⟩
      · intro r s start
        obtain ⟨rfl, ran, face, rfl⟩ := start
        have foundGroup : r.foundGroup = true := by simpa using exists'
        simp only [Session.face, Face.mk.injEq] at face
        obtain ⟨-, article, idle, sent⟩ := face
        have checked : Ensures (execOn db.dbase ext)
            (fun r' s' => r' = { r with selectedGroup := some ptr } ∧ s' = s)
            (SrvBackend.docmdListgroup.listing db cfg ptr)
            (fun _ => Face.Unharmed ⟨session.selectedGroup, session.selectedArticle, [], []⟩ s)
            (Exit.Harmless s) := by
          apply listing_checked frames
          · exact idle
          · exact sent
          · intro r' used refused
            by_cases selected : session.selectedGroup = some ptr
            · exact ⟨selected.symm, article⟩
            · exact absurd ⟨r, r', ran, foundGroup, refused⟩ (shown ptr used arg selected)
        exact checked _ s ⟨rfl, rfl⟩

-----------------------------------------------------------------------------------------
-- POST
-----------------------------------------------------------------------------------------

/-- The handler replies with success, or ends the thread without having sent an error. -/
def Succeeds (dbase : Dbase) (ext : Extern) (f : Face) (m : Srv Unit) : Prop :=
  Ensures (execOn dbase ext) (fun r _ => r.face = f) m
    (fun _ r _ => Clean r.sent ∧ ∃ piece, [piece] <+: r.curstring ∧ isError piece.text = false)
    (fun reason _ => ∀ sent, reason = .killThread sent → Clean sent)

theorem Succeeds.safe {dbase : Dbase} {m : Srv Unit} (succeeds : Succeeds dbase ext f m)
    : Safe dbase ext f s₀ m := by
  intro r s start
  apply Prog.wp_mono _ (succeeds r s start.1)
  · exact fun out s' done => Or.inr done
  · exact fun reason s' stopped => Or.inr stopped

theorem Succeeds.bind_writing {dbase : Dbase} {β : Type} {m : Srv β} {rest : β → Srv Unit}
    (first : Writing dbase ext m) (clean : Clean f.sent)
    (succeeds : ∀ b, Succeeds dbase ext f (rest b))
    : Succeeds dbase ext f (m >>= rest) := by
  intro r s start
  rw [StateT.run_bind, Prog.wp_bind]
  apply Prog.wp_mono _ (first f r s ⟨start, trivial⟩)
  · exact fun out s' done => succeeds out.1 out.2 s' done.1
  · intro reason s' stopped sent killed
    subst killed
    exact stopped ▸ clean

theorem writing_getUniqnum {dbase : Dbase} : Writing dbase ext getUniqnum := by
  have write (id : Nat) : Writing dbase ext (getUniqnum.write id) :=
    (Writing.sql _).bind (fun _ => (Lookup.pure _).writing)
  refine Writing.bind (Writing.sql _) (fun opened => Writing.ite ?_ ?_)
  · refine Writing.bind (Writing.sql _) (fun id => ?_)
    cases id with
    | none => exact (Lookup.pure _).writing
    | some id => exact write (id + 1)
  · exact Writing.bind (Writing.sql _) (fun created => (write 1).ite (Lookup.pure _).writing)

theorem writing_postToGroups (frames : db.Frames ext) (messageId : Str) (groups : List Str)
    (stack : Charstack)
    : Writing db.dbase ext (db.postToGroups cfg env messageId groups stack) := by
  induction groups generalizing stack with
  | nil => exact (Lookup.pure _).writing
  | cons newsgroup rest ih =>
      have allows (user : Option Str)
          : Lookup db.dbase ext (db.aclCheckIfUsed cfg user newsgroup) :=
        (lookup_aclCheck frames _ _).ite (Lookup.pure _)
      intro face
      refine Keeps.get_bind (fun r _ => ?_)
      refine Writing.bind (allows _).writing (fun allowed => ?_) face
      refine Writing.ite (ih stack) ?_
      refine Writing.bind (frames.getHighValue _ _).writing (fun curHigh => ?_)
      refine Writing.ite Lookup.killThread.writing (Writing.ite (ih stack) ?_)
      refine Writing.bind (frames.postInsertIntoNgposts _ _ _) (fun _ => ?_)
      exact Writing.bind (frames.postUpdateHighValue _ _) (fun _ => ih _)

theorem succeeds_storeArticle (frames : db.Frames ext) (clean : Clean f.sent)
    (idle : f.curstring = []) (row : Posting) (header body : Str) (groups : List Str)
    : Succeeds db.dbase ext f (db.storeArticle cfg env row header body groups) := by
  have stores : Writing db.dbase ext (db.storeBody cfg row.msgid body) := by
    apply Writing.ite (frames.storeMessageBody _ _)
    exact (Writing.sql _).bind (fun _ => (Writing.sql _).bind (fun _ => (Lookup.pure _).writing))
  have secures (value : Option Str) : Writing db.dbase ext (db.secure value) := by
    unfold SrvBackend.secure
    split
    · exact (Lookup.pure _).writing
    · exact (Lookup.pure _).writing
    · exact Lookup.crash.writing
  refine Succeeds.bind_writing stores clean (fun _ => ?_)
  refine Succeeds.bind_writing (secures _) clean (fun author => ?_)
  refine Succeeds.bind_writing (secures _) clean (fun subject => ?_)
  refine Succeeds.bind_writing (frames.postInsertIntoPostings _) clean (fun _ => ?_)
  refine Succeeds.bind_writing (writing_postToGroups frames _ _ _) clean (fun _ => ?_)
  intro r s start
  subst start
  have begun : r.curstring = [] := idle
  exact ⟨clean, ⟨postdone, none⟩, by simp [begun], rfl⟩

theorem succeeds_postAccepted (frames : db.Frames ext) (clean : Clean f.sent)
    (idle : f.curstring = []) (len : Nat) (header ngstrp body : Str)
    : Succeeds db.dbase ext f (db.postAccepted ext cfg env len header ngstrp body) := by
  have kills : Succeeds db.dbase ext f killThread := by
    intro r s start
    subst start
    intro sent killed
    cases killed
    exact clean
  have crashes : Succeeds db.dbase ext f crash := by
    intro r s start sent killed
    cases killed
  have number : Writing db.dbase ext (db.newMessageNumber cfg) :=
    frames.dbGetUniqnum.ite writing_getUniqnum
  refine Succeeds.bind_writing number clean (fun newid => ?_)
  split
  · split
    · exact crashes
    · exact kills
    · exact succeeds_storeArticle frames clean idle _ _ _ _
  · exact kills

/-- The check of the names refuses with a reply, or goes on as if nothing had happened. -/
theorem chkNgNameCorrectness_answers (frames : db.Frames ext) (groups : List Str)
    : Ensures (execOn db.dbase ext) (fun r s => r.face = f ∧ s = s₀)
        (db.chkNgNameCorrectness groups)
        (fun ok r s => (ok = true → r.face = f)
          ∧ r.selectedGroup = f.selectedGroup ∧ r.selectedArticle = f.selectedArticle ∧ s = s₀)
        (fun reason _ => reason.SentIs f.sent) := by
  have refuse (text : Str)
      : Ensures (execOn db.dbase ext) (fun r s => r.face = f ∧ s = s₀)
          (do
            toSend text
            pure false : Srv Bool)
          (fun ok r s => (ok = true → r.face = f)
            ∧ r.selectedGroup = f.selectedGroup ∧ r.selectedArticle = f.selectedArticle ∧ s = s₀)
          (fun reason _ => reason.SentIs f.sent) := by
    intro r s start
    obtain ⟨rfl, rfl⟩ := start
    exact ⟨fun ok => absurd ok Bool.false_ne_true, rfl, rfl, rfl⟩
  have sets (g : Session → Session) (same : ∀ r, (g r).face = r.face)
      : Ensures (execOn db.dbase ext) (fun r s => r.face = f ∧ s = s₀)
          (modify g : Srv PUnit) (fun _ r s => r.face = f ∧ s = s₀)
          (fun reason _ => reason.SentIs f.sent) :=
    (Lookup.modify same : Lookup db.dbase ext _) f s₀
  induction groups with
  | nil =>
      intro r s start
      obtain ⟨rfl, rfl⟩ := start
      exact ⟨fun _ => rfl, rfl, rfl, rfl⟩
  | cons newsgroup rest ih =>
      refine Ensures.bind (sets _ (fun _ => rfl)) (fun _ => ?_)
      refine Ensures.bind (frames.checkNewsgroupExistence f s₀) (fun _ => ?_)
      refine Ensures.bind (sets _ (fun _ => rfl)) (fun _ => Ensures.read (fun r _ => ?_))
      refine Ensures.ite (fun _ => refuse _) (fun _ => ?_)
      refine Ensures.bind (sets _ (fun _ => rfl)) (fun _ => ?_)
      refine Ensures.bind (frames.checkNewsgroupPostingAllowed f s₀) (fun _ => ?_)
      refine Ensures.bind (sets _ (fun _ => rfl)) (fun _ => Ensures.read (fun r' _ => ?_))
      refine Ensures.ite (fun _ => refuse _) (fun _ => ?_)
      exact Ensures.bind (sets _ (fun _ => rfl)) (fun _ => ih)

theorem safe_postArticle (frames : db.Frames ext) (clean : Clean f.sent)
    (idle : f.curstring = []) (buf : Str)
    : Safe db.dbase ext f s₀ (db.postArticle ext cfg env buf) := by
  unfold SrvBackend.postArticle
  split
  · exact fun r s start => Or.inl start.2
  · exact fun r s start => Or.inl start.2
  · exact (Listing.toSend _).safe clean
  · rename_i len header ngstrp body _
    intro r s start
    rw [StateT.run_bind, Prog.wp_bind]
    apply Prog.wp_mono _ (chkNgNameCorrectness_answers frames _ r s start)
    · intro out s' done
      obtain ⟨passed, group, article, store⟩ := done
      split
      · exact (succeeds_postAccepted frames clean idle _ _ _ _).safe _ _ ⟨passed ‹_›, store⟩
      · exact Or.inl ⟨group, article, store⟩
    · exact fun reason s' stopped => harmless_of_sentIs clean stopped s'

theorem safe_docmdPost (frames : db.Frames ext) (idle : f.curstring = []) (nothing : f.sent = [])
    : Safe db.dbase ext f s₀ (db.docmdPost ext cfg env) := by
  have clean : Clean [⟨postok, none⟩] := by
    intro piece member
    rw [List.mem_singleton.mp member]
    rfl
  have ready : Ensures (execOn db.dbase ext) (fun r s => r.face = f ∧ s = s₀) (send postok)
      (fun _ r s => r.face = { f with sent := [⟨postok, none⟩] } ∧ s = s₀)
      (Exit.Harmless s₀) := by
    apply Ensures.modify
    intro r s start
    obtain ⟨rfl, rfl⟩ := start
    have sent : r.sent = [] := nothing
    exact ⟨by simp [Session.face, sent], rfl⟩
  refine ready.bind (fun _ => ?_)
  split
  · exact safe_postArticle (f := { f with sent := [⟨postok, none⟩] }) frames clean idle _
  · exact fun r s start => Or.inl start.2
  · exact fun r s start => Or.inl start.2
  · exact fun r s start => Or.inl start.2

end Handlers

-----------------------------------------------------------------------------------------
-- do_command
-----------------------------------------------------------------------------------------

section Commands

variable {db : SrvBackend} {ext : Extern} {cfg : Config} {env : Env} {f : Face} {s₀ : Store}

theorem safe_checkMandatoryTls {m : Srv Unit} {dbase : Dbase} (clean : Clean f.sent)
    (safe : Safe dbase ext f s₀ m)
    : Safe dbase ext f s₀ (checkMandatoryTls cfg m) :=
  Safe.get_bind (fun _ _ => ((Listing.toSend _).safe clean).ite safe)

theorem listing_docmdCapabilities {dbase : Dbase} (cfg : Config)
    : Listing dbase ext (docmdCapabilities cfg) := by
  have last : Listing dbase ext (toSend capsstringPost >>= fun _ => toSend periodEnd) :=
    (Listing.toSend _).bind (fun _ => Listing.toSend _)
  refine Listing.get_bind (fun r => ?_)
  refine (Listing.toSend _).bind (fun _ => (Listing.toSend _).bind (fun _ => ?_))
  refine (Listing.toSend _).bind (fun _ => (Listing.toSend _).bind (fun _ => ?_))
  refine Listing.ite ((Listing.toSend _).bind (fun _ => ?_)) ?_
  all_goals exact ((Listing.toSend _).bind (fun _ => last)).ite last

theorem listing_lastCommands {dbase : Dbase} (cfg : Config) (authenticated : Bool) (command : Str)
    : Listing dbase ext (lastCommands cfg authenticated command) := by
  have starttls : Listing dbase ext (docmdStarttls cfg) := by
    refine Listing.get_bind (fun r => (Listing.toSend _).ite ((Listing.toSend _).ite ?_))
    apply (Listing.toSend _).ite
    exact Listing.bind (Listing.modify (fun _ => rfl)) (fun _ => Listing.toSend _)
  exact starttls.ite ((Listing.toSend _).ite ((Listing.toSend _).ite (Listing.toSend _)))

/-- Every command for the authenticated but LISTGROUP is safe. -/
theorem safe_authCommands (frames : db.Frames ext) (idle : f.curstring = [])
    (nothing : f.sent = []) (command : Str) (entry : Str × Srv Unit)
    (member : entry ∈ db.authCommands ext cfg env command)
    : entry = ("listgroup".toList, checkMandatoryTls cfg (db.docmdListgroup cfg command))
      ∨ Safe db.dbase ext f s₀ entry.2 := by
  have clean : Clean f.sent := fun piece sent => by simp [nothing] at sent
  have tells (text : Str) : Safe db.dbase ext f s₀ (toSend text) := (Listing.toSend _).safe clean
  have lists (cmdtyp : ListCmdtyp)
      : Safe db.dbase ext f s₀ (checkMandatoryTls cfg (db.docmdList ext cfg command cmdtyp)) :=
    safe_checkMandatoryTls clean (safe_docmdList frames clean command cmdtyp)
  have reads
      : Safe db.dbase ext f s₀ (checkMandatoryTls cfg (db.docmdArticle cfg command)) :=
    safe_checkMandatoryTls clean (safe_docmdArticle frames idle clean command)
  simp only [SrvBackend.authCommands, List.mem_cons, List.not_mem_nil, or_false] at member
  rcases member with rfl | rfl | rfl | rfl | rfl | rfl | rfl | rfl | rfl | rfl | rfl | rfl | rfl
    | rfl | rfl | rfl | rfl
  · exact Or.inr (lists _)
  · exact Or.inr (tells _)
  · exact Or.inl rfl
  · exact Or.inr (lists _)
  · exact Or.inr (lists _)
  · exact Or.inr (tells _)
  · exact Or.inr (safe_checkMandatoryTls clean (safe_docmdGroup frames idle clean command))
  · exact Or.inr (safe_checkMandatoryTls clean (safe_docmdXover frames clean command))
  · exact Or.inr (safe_checkMandatoryTls clean (safe_docmdXhdr frames clean command))
  · exact Or.inr reads
  · exact Or.inr reads
  · exact Or.inr reads
  · exact Or.inr reads
  · exact Or.inr (safe_checkMandatoryTls clean (tells _))
  · exact Or.inr (safe_checkMandatoryTls clean (safe_docmdPost frames idle nothing))
  · exact Or.inr (tells _)
  · exact Or.inr ((listing_docmdCapabilities cfg).safe clean)

/-- The branch of `do_command` behind QUIT and AUTHINFO. -/
def SrvBackend.branch (db : SrvBackend) (ext : Extern) (cfg : Config) (env : Env)
    (authenticated : Bool) (command : Str)
    : Srv Unit :=
  match (db.authCommands ext cfg env command).find?
    (fun entry => authenticated && caseEqPrefix entry.1 command) with
  | some entry => entry.2
  | none => lastCommands cfg authenticated command

theorem doCommand_branch {command : Str} (other : caseEqPrefix "authinfo".toList command = false)
    (notQuit : ¬caseEqPrefix "quit".toList command = true) (r : Session)
    : (db.doCommand ext cfg env command).run r
      = (db.branch ext cfg env (r.authIsThere || !cfg.useAuth) command).run r := by
  have notAuthinfo {key : Str} (longer : caseEqPrefix "authinfo".toList key = true)
      : ¬caseEqPrefix key command = true := by
    intro begins
    rw [caseEqPrefix_trans longer begins] at other
    cases other
  have notUser : ¬caseEqPrefix "authinfo user ".toList command = true := notAuthinfo (by decide)
  have notPass : ¬caseEqPrefix "authinfo pass ".toList command = true := notAuthinfo (by decide)
  simp only [SrvBackend.doCommand, notQuit, notUser, notPass, Bool.false_eq_true, if_false]
  rfl

/-- Every command but AUTHINFO and a LISTGROUP that names a hidden newsgroup.
Witness: the branch of `do_command` that is taken; only for LISTGROUP does the precondition
matter.
-/
theorem unharmed_doCommand (frames : db.Frames ext) {session : Session} {s : Store}
    {command : Str} (other : caseEqPrefix "authinfo".toList command = false)
    (shown : ¬ListsHidden db ext cfg session s command)
    : ((db.doCommand ext cfg env command).run { session with curstring := [], sent := [] }).wp
        (execOn db.dbase ext)
        (fun out => Face.Unharmed ⟨session.selectedGroup, session.selectedArticle, [], []⟩ s out.2)
        (Exit.Harmless s) s := by
  by_cases quit : caseEqPrefix "quit".toList command = true
  · simp only [SrvBackend.doCommand, quit, if_true]
    exact Or.inl rfl
  rw [doCommand_branch other quit]
  unfold SrvBackend.branch
  split
  · rename_i entry chosen
    obtain ⟨may, selects⟩ :
        (session.authIsThere || !cfg.useAuth) = true ∧ caseEqPrefix entry.1 command = true := by
      simpa only [Bool.and_eq_true] using List.find?_some chosen
    have kinds : entry = ("listgroup".toList, checkMandatoryTls cfg (db.docmdListgroup cfg command))
        ∨ Safe db.dbase ext ⟨session.selectedGroup, session.selectedArticle, [], []⟩ s entry.2 :=
      safe_authCommands frames rfl rfl command entry (List.mem_of_find?_eq_some chosen)
    rcases kinds with rfl | branch
    · rw [checkMandatoryTls_run]
      split
      · exact Or.inl ⟨rfl, rfl, rfl⟩
      · rename_i free
        apply safe_docmdListgroup frames _ _ _ ⟨rfl, rfl⟩
        intro name used arg selected hides
        exact shown ⟨selects, may, by simpa using free, used, name, arg, selected, hides⟩
    · exact branch _ _ ⟨rfl, rfl⟩
  · have nothing : Clean [] := fun piece member => by cases member
    exact ((listing_lastCommands cfg _ command).safe
      (f := ⟨session.selectedGroup, session.selectedArticle, [], []⟩) nothing) _ _ ⟨rfl, rfl⟩

/-- A LISTGROUP goes to its branch. -/
theorem branch_listgroup {command : Str}
    (isListgroup : caseEqPrefix "listgroup".toList command = true)
    : db.branch ext cfg env true command
      = checkMandatoryTls cfg (db.docmdListgroup cfg command) := by
  have notNewsgroups : caseEqPrefix "list newsgroups".toList command = false :=
    caseEqPrefix_apart isListgroup (by decide) (by decide)
  have notOverview : caseEqPrefix "list overview.fmt".toList command = false :=
    caseEqPrefix_apart isListgroup (by decide) (by decide)
  simp only [SrvBackend.branch, SrvBackend.authCommands, List.find?_cons, notNewsgroups,
    notOverview, isListgroup, Bool.and_true, Bool.and_false]

/-- LISTGROUP selects a newsgroup that exists. -/
theorem docmdListgroup_run {command name : Str} {r found : Session} {s : Store}
    (arg : getSlinearg command 1 = some name)
    (looked : (db.checkNewsgroupExistence.run { r with chkname := some name }).run
      (execOn db.dbase ext) s = (.ok ((), found), s))
    (there : found.foundGroup = true)
    : ((db.docmdListgroup cfg command).run r).run (execOn db.dbase ext) s
      = ((SrvBackend.docmdListgroup.listing db cfg name).run
          { found with selectedGroup := some name }).run (execOn db.dbase ext) s := by
  have rest : ((db.checkNewsgroupExistence >>= fun _ => do
      let found ← get
      if !found.foundGroup then do
        modify (fun t => { t with foundGroup := r.foundGroup })
        toSend nosuchgroup
      else do
        modify (fun s => { s with selectedGroup := some name })
        SrvBackend.docmdListgroup.listing db cfg name : Srv Unit).run
          { r with chkname := some name }).run (execOn db.dbase ext) s
      = ((SrvBackend.docmdListgroup.listing db cfg name).run
          { found with selectedGroup := some name }).run (execOn db.dbase ext) s := by
    have exists' : ¬(!found.foundGroup) = true := by simp [there]
    rw [run_bind_ok looked]
    show ((if (!found.foundGroup) = true then _ else _ : Srv Unit).run found).run _ s = _
    rw [if_neg exists']
    rfl
  unfold SrvBackend.docmdListgroup
  simp only [arg]
  exact rest

/-- The access check refuses the newsgroup. -/
theorem listing_refused {group : Str} {r refused : Session} {s : Store}
    (used : (cfg.useAuth && cfg.useAcl) = true)
    (denied : ((db.aclCheck r.curAuthUser group).run r).run (execOn db.dbase ext) s
      = (.ok (false, refused), s))
    : ((SrvBackend.docmdListgroup.listing db cfg group).run r).run (execOn db.dbase ext) s
      = (.ok ((), { refused with curstring := refused.curstring ++ [⟨nosuchgroup, none⟩] }),
          s) := by
  have rest : ((db.aclCheck r.curAuthUser group >>= fun allowed =>
      if allowed then SrvBackend.docmdListgroup.reply db group else toSend nosuchgroup).run r).run
        (execOn db.dbase ext) s
      = (.ok ((), { refused with curstring := refused.curstring ++ [⟨nosuchgroup, none⟩] }),
          s) := by
    rw [run_bind_ok denied]
    rfl
  unfold SrvBackend.docmdListgroup.listing
  simp only [used, if_true]
  exact rest

/-- The session behind a LISTGROUP that names a hidden newsgroup. -/
theorem outcome_of_listsHidden (frames : db.Frames ext) {session : Session} {s : Store}
    {command : Str} (hidden : ListsHidden db ext cfg session s command)
    : ∃ session',
        db.outcome ext cfg env session s command = (.ok ((), session'), s)
        ∧ session'.selectedGroup ≠ session.selectedGroup
        ∧ ⟨nosuchgroup, none⟩ ∈ session'.curstring.take 1 := by
  obtain ⟨isListgroup, may, free, used, name, arg, notSelected, found, refused, looked, there,
    denied⟩ := hidden
  have other : caseEqPrefix "authinfo".toList command = false :=
    caseEqPrefix_apart isListgroup (by decide) (by decide)
  have notQuit : ¬caseEqPrefix "quit".toList command = true :=
    Bool.eq_false_iff.mp (caseEqPrefix_apart isListgroup (by decide) (by decide))
  have face : found.face
      = ⟨session.selectedGroup, session.selectedArticle, [], []⟩ :=
    (Ensures.run_ok (frames.checkNewsgroupExistence _ s) ⟨rfl, rfl⟩ looked).1
  have face' : refused.face = { found with selectedGroup := some name }.face :=
    (Ensures.run_ok (lookup_aclCheck frames found.curAuthUser name _ s) ⟨rfl, rfl⟩ denied).1
  refine ⟨{ refused with curstring := refused.curstring ++ [⟨nosuchgroup, none⟩] }, ?_, ?_, ?_⟩
  · unfold SrvBackend.outcome
    rw [doCommand_branch other notQuit]
    simp only [may, branch_listgroup isListgroup, checkMandatoryTls_run, free,
      Bool.false_eq_true, if_false]
    exact (docmdListgroup_run arg looked there).trans (listing_refused used denied)
  · intro same
    apply notSelected
    rw [← same]
    exact congrArg Face.selectedGroup face'
  · have idle : refused.curstring = [] :=
      (congrArg Face.curstring face').trans (congrArg Face.curstring face)
    simp [idle]

end Commands

-----------------------------------------------------------------------------------------
-- Errors change nothing
-----------------------------------------------------------------------------------------

section Errors

variable {db : SrvBackend} {ext : Extern} {cfg : Config} {env : Env} {session : Session}
  {s : Store} {command : Str}

theorem errorsChangeNothing_of_shown (frames : db.Frames ext)
    (shown : ¬ListsHidden db ext cfg session s command)
    : ErrorsChangeNothing db ext cfg env session s command := by
  intro other failed
  have unharmed := @unharmed_doCommand db ext cfg env frames session s command other shown
  unfold Prog.wp at unharmed
  unfold SrvBackend.outcome at failed ⊢
  generalize ((db.doCommand ext cfg env command).run
    { session with curstring := [], sent := [] }).run (execOn db.dbase ext) s = result
    at unharmed failed ⊢
  obtain ⟨line, member, error⟩ := failed
  have success {lines : List Piece} (clean : Clean lines) : line ∉ lines := by
    intro inside
    rw [clean line inside] at error
    cases error
  obtain ⟨end', s'⟩ := result
  cases end' with
  | ok out =>
      rcases unharmed with ⟨group, article, same⟩ | ⟨clean, piece, begun, reported⟩
      · refine ⟨?_, ?_⟩
        · intro session' ran
          cases ran
          exact ⟨group, article⟩
        · rw [same]
          exact ⟨rfl, rfl, rfl, rfl, rfl, rfl, rfl, rfl⟩
      · -- the only status line besides what was sent is the one that reports success
        exfalso
        obtain ⟨rest, whole⟩ := begun
        rcases List.mem_append.mp member with sent | first
        · exact success clean sent
        · have is : line = piece := by simpa [← whole] using first
          rw [is, reported] at error
          cases error
  | error reason =>
      constructor
      · intro session' ran
        cases ran
      · rcases unharmed with same | clean
        · rw [same]
          exact ⟨rfl, rfl, rfl, rfl, rfl, rfl, rfl, rfl⟩
        · cases reason with
          | killThread sent => exact absurd member (success (clean sent rfl))
          | crash => cases member
          | waiting => cases member

end Errors

section Backends

variable (servers : DbServers) (dbase : Dbase) (ext : Extern) (cfg : Config) (env : Env)
  (session : Session) (s : Store) (command : Str)

/-- On each backend a command that is answered with an error changes neither the selection nor
the tables, unless it is a LISTGROUP that names a newsgroup hidden from the user: that one is
selected although the answer is 411.
Witness: `unharmed_doCommand` for the one direction; for the other the session behind such a
LISTGROUP.
-/
theorem errors_change_nothing_iff (single : servers.SingleStatements)
    : ErrorsChangeNothing (srvBackend servers dbase) ext cfg env session s command
      ↔ ¬ListsHidden (srvBackend servers dbase) ext cfg session s command := by
  refine ⟨fun nothing hidden => ?_, errorsChangeNothing_of_shown (frames single dbase ext)⟩
  obtain ⟨session', ran, moved, told⟩ :=
    @outcome_of_listsHidden _ ext cfg env (frames single dbase ext) session s command hidden
  have other : caseEqPrefix "authinfo".toList command = false :=
    caseEqPrefix_apart hidden.1 (by decide) (by decide)
  have failed : ∃ line ∈ statusLines
      ((srvBackend servers dbase).outcome ext cfg env session s command).1,
      isError line.text = true := by
    rw [ran]
    exact ⟨⟨nosuchgroup, none⟩, List.mem_append_right _ told, rfl⟩
  exact moved ((nothing other failed).1 session' (by rw [ran])).1

/-- On SQLite the hidden newsgroups are those with a row but without access for the user. -/
theorem hides_sqlite3_iff (name : Str)
    : SrvBackend.sqlite3.Hides ext session s name
      ↔ s.HasGroup name ∧ s.userAllows session.curAuthUser name = false := by
  have rows : (!(s.newsgroups.filter (·.name == name)).isEmpty) = true ↔ s.HasGroup name := by
    simp [Store.HasGroup, List.filter_eq_nil_iff]
  have looked := dbCheckNewsgroupExistence_run ext
    { session with curstring := [], sent := [], chkname := some name } s rfl
  have asked (r : Session) : ((SrvBackend.sqlite3.aclCheck session.curAuthUser name).run r).run
      (exec ext) s = (.ok (s.userAllows session.curAuthUser name, r), s) := by
    rw [aclCheck_sqlite3]
    exact aclCheckUserGroup_run ext s r _ name
  constructor
  · intro hides
    obtain ⟨found, refused, ran, there, denied⟩ := hides
    cases (looked.symm.trans ran)
    refine ⟨rows.mp there, ?_⟩
    have same := (asked _).symm.trans denied
    simp only [Prod.mk.injEq, Except.ok.injEq, and_true] at same
    exact same.1
  · intro hidden
    have denied := asked
    rw [hidden.2] at denied
    exact ⟨_, _, looked, rows.mpr hidden.1, denied _⟩

end Backends

section Samples

theorem sampleServers_single : sampleServers.SingleStatements :=
  ⟨fun _ _ _ => rfl, fun _ _ _ => rfl⟩

/-- Alice has logged in and selected the first article of the newsgroup she may read. -/
def sampleReader : Session :=
  { Session.fresh sampleConfig false .article .cleared with
    authIsThere := true
    curAuthUser := some "alice".toList
    selectedGroup := some "open".toList
    selectedArticle := some "1".toList }

theorem group_of_hidden_changes_nothing
    : (∃ line ∈ statusLines (SrvBackend.outcome (srvBackend sampleServers .sqlite3) sampleExtern
          sampleConfig sampleEnv sampleReader sampleStore "GROUP closed".toList).1,
          isError line.text = true)
      ∧ ErrorsChangeNothing (srvBackend sampleServers .sqlite3) sampleExtern sampleConfig
          sampleEnv sampleReader sampleStore "GROUP closed".toList := by
  constructor
  · decide +kernel
  · rw [errors_change_nothing_iff sampleServers .sqlite3 sampleExtern sampleConfig sampleEnv
      sampleReader sampleStore "GROUP closed".toList sampleServers_single]
    intro hidden
    exact absurd hidden.1 (by decide)

/-- LISTGROUP of a hidden newsgroup is answered 411 and selects it all the same. -/
theorem listgroup_of_hidden_selects
    : ¬ErrorsChangeNothing (srvBackend sampleServers .sqlite3) sampleExtern sampleConfig
        sampleEnv sampleReader sampleStore "LISTGROUP closed".toList := by
  intro nothing
  obtain ⟨kept, -⟩ := nothing (by decide) (by decide +kernel)
  have ran : (SrvBackend.outcome (srvBackend sampleServers .sqlite3) sampleExtern sampleConfig
      sampleEnv sampleReader sampleStore "LISTGROUP closed".toList).1
        = .ok ((), { sampleReader with
            selectedGroup := some "closed".toList
            chkname := some "closed".toList
            foundGroup := true
            curstring := [⟨nosuchgroup, none⟩] }) := by
    rfl
  cases (kept _ ran).1

end Samples

end WendzelNNTPd
