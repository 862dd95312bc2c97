import WendzelNNTPd.Access.Authentication
import WendzelNNTPd.Access.Blind

/-! What a client sent before STARTTLS and what it gets afterwards. A command depends on a part
of the session only; the switch to TLS resets the selection, but not the rest of that part.
-/

namespace WendzelNNTPd

open CString Atomic

section Handlers

variable {db : SrvBackend} {ext : Extern} {cfg : Config} {env : Env}
  {K : Option Str → Bool → Bool → Prop}

theorem blinded_docmdList (blinds : db.Blinds ext K) (command : Str) (cmdtyp : ListCmdtyp)
    : Blinded db.dbase ext (Session.Like db.dbase K) (db.docmdList ext cfg command cmdtyp) := by
  have list (reply : Str) (wildmat : Option Str)
      : Blinded db.dbase ext (Session.Like db.dbase K)
          (SrvBackend.docmdList.list db ext cfg cmdtyp reply wildmat) := by
    refine Blinded.bind (Blinded.toSend _) (fun _ => ?_)
    exact Blinded.bind (blinds.list cfg cmdtyp wildmat) (fun _ => Blinded.toSend _)
  cases cmdtyp with
  | list => exact list _ _
  | listNewsgroups => exact list _ _
  | xgtitle =>
      simp only [SrvBackend.docmdList]
      split
      · exact Blinded.toSend _
      · exact list _ _

/-- XHDR looks at the selection and at `speccmd` only, if the functions it calls do. -/
theorem blinded_docmdXhdr {P : Session → Session → Prop} [SeesDate P]
    (xhdr : ∀ part group msgid min max,
      Blinded db.dbase ext P (db.xhdr ext part group msgid min max))
    (getHighValue : ∀ group, Blinded db.dbase ext P (db.getHighValue env group))
    (chkIfMsgidExists : ∀ group msgid, Blinded db.dbase ext P (db.chkIfMsgidExists group msgid))
    (command : Str)
    : Blinded db.dbase ext P (db.docmdXhdr ext env command) := by
  have reply (group : Str) (part : XhdrPart) (msgid : Option Str) (min max : Nat)
      : Blinded db.dbase ext P
          (SrvBackend.xhdrArticles.reply db ext group part msgid min max) := by
    refine Blinded.bind (Blinded.toSend _) (fun _ => ?_)
    exact Blinded.bind (xhdr part group msgid min max) (fun _ => Blinded.toSend _)
  have range (group : Str) (realMax : Nat) (part : XhdrPart) (min max : Nat)
      : Blinded db.dbase ext P
          (SrvBackend.xhdrArticles.range db ext group realMax part min max) :=
    (Blinded.toSend _).ite (reply _ _ _ _ _)
  have articles (group : Str) (realMax : Nat) (part : XhdrPart)
      : Blinded db.dbase ext P (db.xhdrArticles ext command group realMax part) := by
    refine Blinded.read (fun r r' related => ?_)
    rw [← SeesDate.selectedArticle r r' related]
    split
    · split
      · exact Blinded.toSend _
      · exact range _ _ _ _ _
    · apply Blinded.ite _ (range _ _ _ _ _)
      refine Blinded.bind (chkIfMsgidExists _ _) (fun there => ?_)
      exact (reply _ _ _ _ _).ite (Blinded.toSend _)
  refine Blinded.read (fun r r' related => ?_)
  rw [← SeesDate.selectedGroup r r' related]
  split
  · exact Blinded.toSend _
  · refine Blinded.bind (getHighValue _) (fun realMax => ?_)
    split
    · exact Blinded.toSend _
    · split
      · exact Blinded.toSend _
      · exact Blinded.bind (blinded_setDate _) (fun _ => articles _ _ _)

theorem blinded_docmdXover (blinds : db.Blinds ext K) (command : Str)
    : Blinded db.dbase ext (Session.Like db.dbase K) (db.docmdXover ext env command) := by
  have range (group : Str) (realMax min max : Nat)
      : Blinded db.dbase ext (Session.Like db.dbase K)
          (SrvBackend.docmdXover.range db ext group realMax min max) := by
    apply Blinded.ite (Blinded.toSend _)
    refine Blinded.bind (Blinded.toSend _) (fun _ => ?_)
    exact Blinded.bind (blinds.xover group min max) (fun _ => Blinded.toSend _)
  refine Blinded.read (fun r r' like => ?_)
  rw [← like.selectedGroup, ← like.selectedArticle]
  split
  · exact Blinded.toSend _
  · refine Blinded.bind (blinds.getHighValue _ _) (fun realMax => ?_)
    split
    · split
      · exact Blinded.toSend _
      · exact range _ _ _ _
    · exact range _ _ _ _

/-- A letter and its capital are the only ones with this small letter. -/
theorem eq_of_toLower {c l u : Char} (same : c.toLower = l) (upper : l.val - 32 = u.val)
    : c = l ∨ c = u := by
  unfold Char.toLower at same
  split at same
  · right
    apply Char.ext
    have value : c.val + 32 = l.val := congrArg Char.val same
    rw [← upper, ← value]
    simp
  · exact Or.inl same

/-- The first letter of a command for `docmd_article` decides which one it is. -/
theorem cmdtypeOf_eq {key command : Str} (selects : caseEqPrefix key command = true)
    (isOne : key = "article".toList ∨ key = "head".toList ∨ key = "body".toList
      ∨ key = "stat".toList)
    (old old' : Cmdtype)
    : cmdtypeOf command old = cmdtypeOf command old' := by
  cases command with
  | nil => rcases isOne with rfl | rfl | rfl | rfl <;> cases selects
  | cons c cs =>
      have letter (l : Char) (rest : Str) (is : key = l :: rest) : c.toLower = l.toLower := by
        subst is
        simp only [caseEqPrefix, Bool.and_eq_true, beq_iff_eq] at selects
        exact selects.1.symm
      rcases isOne with is | is | is | is
      · have upper : 'a'.val - 32 = 'A'.val := by decide
        rcases eq_of_toLower (letter 'a' _ is) upper with rfl | rfl <;> rfl
      · have upper : 'h'.val - 32 = 'H'.val := by decide
        rcases eq_of_toLower (letter 'h' _ is) upper with rfl | rfl <;> rfl
      · have upper : 'b'.val - 32 = 'B'.val := by decide
        rcases eq_of_toLower (letter 'b' _ is) upper with rfl | rfl <;> rfl
      · have upper : 's'.val - 32 = 'S'.val := by decide
        rcases eq_of_toLower (letter 's' _ is) upper with rfl | rfl <;> rfl

theorem blinded_docmdArticle (blinds : db.Blinds ext K) {command : Str}
    (named : ∀ old old', cmdtypeOf command old = cmdtypeOf command old')
    : Blinded db.dbase ext (Session.Like db.dbase K) (db.docmdArticle cfg command) := by
  have retrieve (group : Str) (type : Artcltyp)
      : Blinded db.dbase ext (Session.Reading db.dbase K)
          (SrvBackend.docmdArticle.retrieve db cfg group type) := by
    refine Blinded.bind (blinds.article cfg group type) (fun _ => ?_)
    refine Blinded.read (fun r r' reading => ?_)
    rw [← reading.foundArticle]
    exact (Blinded.pure _).ite (Blinded.toSend _)
  refine Blind.bind (R := Session.Reading db.dbase K) (Blind.modify ?_) (fun _ => ?_)
  · intro r r' like
    refine ⟨⟨?_, like.known⟩, named _ _, rfl⟩
    exact congrArg
      (fun v : View => { v with foundArticle := decide (db.dbase = Dbase.sqlite3) && false })
      like.view
  refine Blind.weaken (Q := Session.Reading db.dbase K) ?_ (fun _ _ start => start)
    (fun _ _ reading => reading.like)
  refine Blinded.read (fun r r' reading => ?_)
  rw [← reading.like.selectedGroup, ← reading.like.selectedArticle]
  split
  · exact Blinded.toSend _
  · split
    · exact Blinded.toSend _
    · exact (Blinded.toSend _).ite (retrieve _ _)
    · exact retrieve _ _

theorem blinded_aclCheck {P : Session → Session → Prop}
    (checks : ∀ user group, Blinded db.dbase ext P (db.aclCheckUserGroup user group))
    (user : Option Str) (group : Str)
    : Blinded db.dbase ext P (db.aclCheck user group) := by
  cases user with
  | none => exact Blinded.pure _
  | some user => exact checks user group

theorem blinded_docmdGroup (blinds : db.Blinds ext K) (command : Str)
    : Blinded db.dbase ext (Session.Like db.dbase K) (db.docmdGroup cfg command) := by
  refine Blinded.read (fun old old' _ => ?_)
  split
  · exact Blinded.toSend _
  · rename_i ptr _
    refine Blind.bind (R := fun r r' => r.Like db.dbase K r' ∧ r.chkname = r'.chkname)
      (Blind.modify (fun r r' like => ⟨⟨like.view, like.known⟩, rfl⟩)) (fun _ => ?_)
    refine Blind.bind blinds.checkNewsgroupExistence (fun _ => ?_)
    refine Blind.read (fun r r' like => ?_)
    rw [← like.2, ← like.1.curAuthUser]
    apply Blind.weaken _ (fun _ _ like => like.1) (fun _ _ like => like)
    apply Blind.ite
    · refine Blind.bind (Blinded.toSend _) (fun _ => ?_)
      exact Blind.modify (fun r r' like => ⟨like.view, like.known⟩)
    · apply Blinded.ite _ (blinds.group _)
      refine Blinded.bind (blinded_aclCheck blinds.aclCheckUserGroup _ _) (fun allowed => ?_)
      exact (blinds.group _).ite (Blinded.toSend _)

theorem blinded_docmdListgroup (blinds : db.Blinds ext K) (command : Str)
    : Blinded db.dbase ext (Session.Like db.dbase K) (db.docmdListgroup cfg command) := by
  have reply (group : Str)
      : Blinded db.dbase ext (Session.Like db.dbase K)
          (SrvBackend.docmdListgroup.reply db group) :=
    (Blinded.toSend _).bind (fun _ => blinds.listgroup group)
  have listing (group : Str)
      : Blinded db.dbase ext (Session.Like db.dbase K)
          (SrvBackend.docmdListgroup.listing db cfg group) := by
    refine Blinded.read (fun r r' like => ?_)
    rw [← like.curAuthUser]
    apply Blinded.ite _ (reply _)
    refine Blinded.bind (blinded_aclCheck blinds.aclCheckUserGroup _ _) (fun allowed => ?_)
    exact (reply _).ite (Blinded.toSend _)
  refine Blinded.read (fun old old' like => ?_)
  split
  · rw [← like.selectedGroup]
    split
    · exact Blinded.toSend _
    · exact listing _
  · rename_i ptr _
    refine Blind.bind (R := fun r r' => r.Like db.dbase K r' ∧ r.chkname = r'.chkname)
      (Blind.modify (fun r r' like => ⟨⟨like.view, like.known⟩, rfl⟩)) (fun _ => ?_)
    refine Blind.bind blinds.checkNewsgroupExistence (fun _ => ?_)
    refine Blind.read (fun r r' like => ?_)
    rw [← like.2]
    apply Blind.weaken _ (fun _ _ like => like.1) (fun _ _ like => like)
    apply Blind.ite
    · refine Blind.bind (R := Session.Like db.dbase K) ?_ (fun _ => Blinded.toSend _)
      exact Blind.modify (fun r r' like => ⟨like.view, like.known⟩)
    · refine Blinded.bind ?_ (fun _ => listing _)
      exact blinded_change (fun v => { v with selectedGroup := some ptr }) (fun _ => rfl)
        (fun _ => ⟨rfl, rfl, rfl⟩)

theorem blinded_chkNgNameCorrectness (blinds : db.Blinds ext K) (groups : List Str)
    : Blinded db.dbase ext (Session.Like db.dbase K) (db.chkNgNameCorrectness groups) := by
  have names (name : Option Str)
      : Blind (execOn db.dbase ext) (Session.Like db.dbase K)
          (fun r r' => r.Like db.dbase K r' ∧ r.chkname = r'.chkname)
          (modify (fun s => { s with chkname := name }) : Srv PUnit)
          (modify (fun s => { s with chkname := name })) :=
    Blind.modify (fun r r' like => ⟨⟨like.view, like.known⟩, rfl⟩)
  have forgets
      : Blind (execOn db.dbase ext)
          (fun r r' => r.Like db.dbase K r' ∧ r.foundGroup = r'.foundGroup)
          (fun r r' => r.Like db.dbase K r' ∧ r.foundGroup = r'.foundGroup)
          (modify (fun s => { s with chkname := none }) : Srv PUnit)
          (modify (fun s => { s with chkname := none })) :=
    Blind.modify (fun r r' like => ⟨⟨like.1.view, like.1.known⟩, like.2⟩)
  induction groups with
  | nil => exact Blinded.pure _
  | cons newsgroup rest ih =>
      refine Blind.bind (names _) (fun _ => Blind.bind blinds.checkNewsgroupExistence (fun _ => ?_))
      refine Blind.bind forgets (fun _ => Blind.read (fun r r' like => ?_))
      rw [← like.2]
      apply Blind.weaken _ (fun _ _ like => like.1) (fun _ _ like => like)
      apply Blinded.ite ((Blinded.toSend _).bind (fun _ => Blinded.pure _))
      refine Blind.bind (names _) (fun _ =>
        Blind.bind blinds.checkNewsgroupPostingAllowed (fun _ => ?_))
      refine Blind.bind forgets (fun _ => Blind.read (fun r r' like => ?_))
      rw [← like.2]
      apply Blind.weaken _ (fun _ _ like => like.1) (fun _ _ like => like)
      apply Blinded.ite ((Blinded.toSend _).bind (fun _ => Blinded.pure _))
      refine Blinded.bind ?_ (fun _ => ih)
      exact blinded_rest (fun _ => rfl)

theorem blinded_postToGroups (blinds : db.Blinds ext K) (messageId : Str) (groups : List Str)
    (stack : Charstack)
    : Blinded db.dbase ext (Session.Like db.dbase K)
        (db.postToGroups cfg env messageId groups stack) := by
  induction groups generalizing stack with
  | nil => exact Blinded.pure _
  | cons newsgroup rest ih =>
      have allows (user : Option Str)
          : Blinded db.dbase ext (Session.Like db.dbase K)
              (db.aclCheckIfUsed cfg user newsgroup) :=
        (blinded_aclCheck blinds.aclCheckUserGroup _ _).ite (Blinded.pure _)
      refine Blinded.read (fun r r' like => ?_)
      rw [← like.curAuthUser]
      refine Blinded.bind (allows _) (fun allowed => Blinded.ite (ih stack) ?_)
      refine Blinded.bind (blinds.getHighValue _ _) (fun curHigh => ?_)
      refine Blinded.ite Blinded.killThread (Blinded.ite (ih stack) ?_)
      refine Blinded.bind (blinds.postInsertIntoNgposts _ _ _) (fun _ => ?_)
      exact Blinded.bind (blinds.postUpdateHighValue _ _) (fun _ => ih _)

theorem blinded_postAccepted (blinds : db.Blinds ext K) (len : Nat) (header ngstrp body : Str)
    : Blinded db.dbase ext (Session.Like db.dbase K)
        (db.postAccepted ext cfg env len header ngstrp body) := by
  have write (id : Nat)
      : Blinded db.dbase ext (Session.Like db.dbase K) (getUniqnum.write id) :=
    (Blinded.sql _).bind (fun _ => Blinded.pure _)
  have counts : Blinded db.dbase ext (Session.Like db.dbase K) getUniqnum := by
    refine Blinded.bind (Blinded.sql _) (fun opened => Blinded.ite ?_ ?_)
    · refine Blinded.bind (Blinded.sql _) (fun id => ?_)
      cases id with
      | none => exact Blinded.pure _
      | some id => exact write (id + 1)
    · exact Blinded.bind (Blinded.sql _) (fun created => (write 1).ite (Blinded.pure _))
  have stores (messageId body : Str)
      : Blinded db.dbase ext (Session.Like db.dbase K) (db.storeBody cfg messageId body) := by
    apply Blinded.ite (blinds.storeMessageBody _ _)
    exact (Blinded.sql _).bind (fun _ => (Blinded.sql _).bind (fun _ => Blinded.pure _))
  have secures (value : Option Str)
      : Blinded db.dbase ext (Session.Like db.dbase K) (db.secure value) := by
    unfold SrvBackend.secure
    split
    · exact Blinded.pure _
    · exact Blinded.pure _
    · exact Blinded.crash
  refine Blinded.bind (blinds.dbGetUniqnum.ite counts) (fun newid => ?_)
  split
  · split
    · exact Blinded.crash
    · exact Blinded.killThread
    · refine Blinded.bind (stores _ _) (fun _ => Blinded.bind (secures _) (fun author => ?_))
      refine Blinded.bind (secures _) (fun subject => ?_)
      refine Blinded.bind (blinds.postInsertIntoPostings _) (fun _ => ?_)
      exact Blinded.bind (blinded_postToGroups blinds _ _ _) (fun _ => Blinded.toSend _)
  · exact Blinded.killThread

theorem blinded_send (text : Str)
    : Blinded db.dbase ext (Session.Like db.dbase K) (send text) :=
  blinded_change (fun v => { v with sent := v.sent ++ [⟨text, none⟩] }) (fun _ => rfl)
    (fun _ => ⟨rfl, rfl, rfl⟩)

theorem blinded_docmdPost (blinds : db.Blinds ext K)
    : Blinded db.dbase ext (Session.Like db.dbase K) (db.docmdPost ext cfg env) := by
  have article (buf : Str)
      : Blinded db.dbase ext (Session.Like db.dbase K) (db.postArticle ext cfg env buf) := by
    unfold SrvBackend.postArticle
    split
    · exact Blinded.killThread
    · exact Blinded.crash
    · exact Blinded.toSend _
    · refine Blinded.bind (blinded_chkNgNameCorrectness blinds _) (fun ok => ?_)
      exact (blinded_postAccepted blinds _ _ _ _).ite (Blinded.pure _)
  refine Blinded.bind (blinded_send _) (fun _ => ?_)
  split
  · exact article _
  · exact (blinded_send _).bind (fun _ => Blinded.killThread)
  · exact Blinded.killThread
  · exact Blind.stop (fun _ _ _ => rfl)

theorem blinded_docmdCapabilities
    : Blinded db.dbase ext (Session.Like db.dbase K) (docmdCapabilities cfg) := by
  have last : Blinded db.dbase ext (Session.Like db.dbase K)
      (toSend capsstringPost >>= fun _ => toSend periodEnd) :=
    (Blinded.toSend _).bind (fun _ => Blinded.toSend _)
  refine Blinded.read (fun r r' like => ?_)
  rw [← like.tlsActive, ← like.authIsThere]
  refine (Blinded.toSend _).bind (fun _ => (Blinded.toSend _).bind (fun _ => ?_))
  refine (Blinded.toSend _).bind (fun _ => (Blinded.toSend _).bind (fun _ => ?_))
  refine Blinded.ite ((Blinded.toSend _).bind (fun _ => ?_)) ?_
  all_goals exact ((Blinded.toSend _).bind (fun _ => last)).ite last

end Handlers

-----------------------------------------------------------------------------------------
-- Commands and lines
-----------------------------------------------------------------------------------------

section Commands

variable {db : SrvBackend} {ext : Extern} {cfg : Config} {env : Env} {tls : Bool}

/-- TLS is active or not; with it no switch to TLS is due. -/
def TlsIs (tls : Bool) (_pass : Option Str) (tlsActive switchToTls : Bool) : Prop :=
  tlsActive = tls ∧ (tls = true → switchToTls = false)

/-- Between two commands there is no password. -/
def Calm (tls : Bool) (pass : Option Str) (tlsActive switchToTls : Bool) : Prop :=
  pass = none ∧ TlsIs tls pass tlsActive switchToTls

theorem blinded_lastCommands (authenticated : Bool) (command : Str)
    : Blinded db.dbase ext (Session.Like db.dbase (Calm tls))
        (lastCommands cfg authenticated command) := by
  have starttls : Blinded db.dbase ext (Session.Like db.dbase (Calm tls)) (docmdStarttls cfg) := by
    refine Blinded.read (fun r r' like => ?_)
    rw [← like.tlsActive, ← like.authIsThere]
    cases tls with
    | true =>
        rw [like.known.2.1]
        exact Blinded.toSend _
    | false =>
        -- the only command that asks for a switch
        refine Blinded.ite (Blinded.toSend _) (Blinded.ite (Blinded.toSend _) ?_)
        refine Blinded.ite (Blinded.toSend _) (Blinded.bind ?_ (fun _ => Blinded.toSend _))
        apply Blinded.modify
        intro r r' like
        refine ⟨?_, like.known.1, like.known.2.1, fun absurd => by cases absurd⟩
        exact congrArg (fun v : View => { v with switchToTls := true }) like.view
  exact starttls.ite ((Blinded.toSend _).ite ((Blinded.toSend _).ite (Blinded.toSend _)))

theorem blinded_docmdAuthinfoUser {K : Option Str → Bool → Bool → Prop} (command : Str)
    : Blinded db.dbase ext (Session.Like db.dbase K) (docmdAuthinfoUser command) := by
  refine Blinded.bind ?_ (fun _ => ?_)
  · exact blinded_change (fun v => { v with authIsThere := false }) (fun _ => rfl)
      (fun _ => ⟨rfl, rfl, rfl⟩)
  · split
    · exact Blinded.toSend _
    · rename_i user _
      refine Blinded.bind ?_ (fun _ => Blinded.toSend _)
      exact blinded_change (fun v => { v with curAuthUser := some user }) (fun _ => rfl)
        (fun _ => ⟨rfl, rfl, rfl⟩)

/-- While the password is there, `K'` is known in the place of `K`. -/
structure PassStage (K K' : Option Str → Bool → Bool → Prop) : Prop where
  sets : ∀ pass pass' tlsActive switchToTls,
    K pass tlsActive switchToTls → K' pass' tlsActive switchToTls
  clears : ∀ pass tlsActive switchToTls,
    K' pass tlsActive switchToTls → K none tlsActive switchToTls

theorem Calm.passStage (tls : Bool) : PassStage (Calm tls) (TlsIs tls) :=
  ⟨fun _ _ _ _ calm => calm.2, fun _ _ _ is => ⟨rfl, is⟩⟩

theorem blinded_docmdAuthinfoPass {K K' : Option Str → Bool → Bool → Prop} (stage : PassStage K K')
    (blinds : db.Blinds ext K') (command : Str)
    : Blinded db.dbase ext (Session.Like db.dbase K) (db.docmdAuthinfoPass ext cfg command) := by
  refine Blinded.bind ?_ (fun _ => Blinded.read (fun r r' like => ?_))
  · exact blinded_change (fun v => { v with authIsThere := false }) (fun _ => rfl)
      (fun _ => ⟨rfl, rfl, rfl⟩)
  rw [← like.curAuthUser]
  split
  · exact Blinded.toSend _
  · rename_i user _
    split
    · exact Blinded.toSend _
    · rename_i pass _
      -- the password is there for the check only
      refine Blind.bind (R := Session.Like db.dbase K') ?_ (fun _ => ?_)
      · apply Blind.modify
        intro r r' like
        refine ⟨?_, stage.sets _ _ _ _ like.known⟩
        exact congrArg (fun v : View =>
          { v with curAuthPass := some (getSha256HashFromStr ext cfg user pass) }) like.view
      refine Blind.bind blinds.authinfoCheck (fun _ => Blind.read (fun r r' like => ?_))
      rw [← like.authIsThere]
      refine Blind.bind (Blinded.toSend _) (fun _ => ?_)
      apply Blind.modify
      intro r r' like
      refine ⟨?_, stage.clears _ _ _ like.known⟩
      exact congrArg (fun v : View =>
        { v with
          curAuthUser := if cfg.useAcl then v.curAuthUser else none
          curAuthPass := none }) like.view

theorem blinded_checkMandatoryTls {K : Option Str → Bool → Bool → Prop} {m : Srv Unit}
    (blinded : Blinded db.dbase ext (Session.Like db.dbase K) m)
    : Blinded db.dbase ext (Session.Like db.dbase K) (checkMandatoryTls cfg m) := by
  refine Blinded.read (fun r r' like => ?_)
  rw [← like.tlsActive]
  exact (Blinded.toSend _).ite blinded

theorem blinded_authCommands {K : Option Str → Bool → Bool → Prop} (blinds : db.Blinds ext K)
    {command : Str} {entry : Str × Srv Unit} (member : entry ∈ db.authCommands ext cfg env command)
    (selects : caseEqPrefix entry.1 command = true)
    : Blinded db.dbase ext (Session.Like db.dbase K) entry.2 := by
  have lists (cmdtyp : ListCmdtyp)
      : Blinded db.dbase ext (Session.Like db.dbase K)
          (checkMandatoryTls cfg (db.docmdList ext cfg command cmdtyp)) :=
    blinded_checkMandatoryTls (blinded_docmdList blinds command cmdtyp)
  have reads {key : Str} (selects : caseEqPrefix key command = true)
      (isOne : key = "article".toList ∨ key = "head".toList ∨ key = "body".toList
        ∨ key = "stat".toList)
      : Blinded db.dbase ext (Session.Like db.dbase K)
          (checkMandatoryTls cfg (db.docmdArticle cfg command)) :=
    blinded_checkMandatoryTls (blinded_docmdArticle blinds (cmdtypeOf_eq selects isOne))
  simp only [SrvBackend.authCommands, List.mem_cons, List.not_mem_nil, or_false] at member
  rcases member with rfl | rfl | rfl | rfl | rfl | rfl | rfl | rfl | rfl | rfl | rfl | rfl | rfl
    | rfl | rfl | rfl | rfl
  · exact lists _
  · exact Blinded.toSend _
  · exact blinded_checkMandatoryTls (blinded_docmdListgroup blinds command)
  · exact lists _
  · exact lists _
  · exact Blinded.toSend _
  · exact blinded_checkMandatoryTls (blinded_docmdGroup blinds command)
  · exact blinded_checkMandatoryTls (blinded_docmdXover blinds command)
  · exact blinded_checkMandatoryTls
      (blinded_docmdXhdr blinds.xhdr (blinds.getHighValue env) blinds.chkIfMsgidExists command)
  · exact reads selects (Or.inl rfl)
  · exact reads selects (Or.inr (Or.inl rfl))
  · exact reads selects (Or.inr (Or.inr (Or.inl rfl)))
  · exact reads selects (Or.inr (Or.inr (Or.inr rfl)))
  · exact blinded_checkMandatoryTls (Blinded.toSend _)
  · exact blinded_checkMandatoryTls (blinded_docmdPost blinds)
  · exact Blinded.toSend _
  · exact blinded_docmdCapabilities

/-- A command, if what is known is kept by its last branches: STARTTLS is one of them. -/
theorem blinded_doCommand {K K' : Option Str → Bool → Bool → Prop} (stage : PassStage K K')
    (blinds : ∀ K, db.Blinds ext K) (command : Str)
    (last : ∀ authenticated, Blinded db.dbase ext (Session.Like db.dbase K)
      (lastCommands cfg authenticated command))
    : Blinded db.dbase ext (Session.Like db.dbase K) (db.doCommand ext cfg env command) := by
  refine Blinded.read (fun r r' like => ?_)
  rw [← like.authIsThere]
  refine Blinded.ite ((blinded_send _).bind (fun _ => Blinded.killThread)) ?_
  refine Blinded.ite (blinded_checkMandatoryTls (blinded_docmdAuthinfoUser command)) ?_
  refine Blinded.ite
    (blinded_checkMandatoryTls (blinded_docmdAuthinfoPass stage (blinds _) command)) ?_
  dsimp only
  split
  · rename_i entry chosen
    have selects := List.find?_some chosen
    simp only [Bool.and_eq_true] at selects
    exact blinded_authCommands (blinds _) (List.mem_of_find?_eq_some chosen) selects.2
  · exact last _

/-- The round of the main loop behind the switch to TLS. -/
def SrvBackend.serveCommand (db : SrvBackend) (ext : Extern) (cfg : Config) (env : Env)
    (recvbuf : Str)
    : Srv Unit := do
  db.doCommand ext cfg env (db.command recvbuf)
  let s ← get
  if s.curstring = [] then crash
  else modify (fun s => { s with sent := s.sent ++ s.curstring, curstring := [] })

theorem blinded_serveCommand {K K' : Option Str → Bool → Bool → Prop} (stage : PassStage K K')
    (blinds : ∀ K, db.Blinds ext K) (recvbuf : Str)
    (last : ∀ authenticated, Blinded db.dbase ext (Session.Like db.dbase K)
      (lastCommands cfg authenticated (db.command recvbuf)))
    : Blinded db.dbase ext (Session.Like db.dbase K) (db.serveCommand ext cfg env recvbuf) := by
  refine Blinded.bind (blinded_doCommand stage blinds _ last)
    (fun _ => Blinded.read (fun r r' like => ?_))
  rw [← like.curstring]
  apply Blinded.ite Blinded.crash
  exact blinded_change (fun v => { v with sent := v.sent ++ v.curstring, curstring := [] })
    (fun _ => rfl) (fun _ => ⟨rfl, rfl, rfl⟩)

theorem serveLine_run (recvbuf : Str) (r : Session)
    : (db.serveLine ext cfg env recvbuf).run r
      = (switchToTls env >>= fun _ => db.serveCommand ext cfg env recvbuf).run r :=
  rfl

end Commands

-----------------------------------------------------------------------------------------
-- The connector
-----------------------------------------------------------------------------------------

/-- The same server behind another connector. -/
def Config.onConnector (cfg : Config) (enableStarttls tlsIsMandatory : Bool) : Config :=
  { cfg with enableStarttls := enableStarttls, tlsIsMandatory := tlsIsMandatory }

section Connector

variable {servers : DbServers} {dbase : Dbase} {ext : Extern} {cfg : Config} {env : Env}
  {enableStarttls tlsIsMandatory : Bool}

theorem list_onConnector (cmdtyp : ListCmdtyp) (wildmat : Option Str)
    : (srvBackend servers dbase).list ext (cfg.onConnector enableStarttls tlsIsMandatory) cmdtyp
          wildmat
      = (srvBackend servers dbase).list ext cfg cmdtyp wildmat := by
  cases dbase with
  | sqlite3 => rfl
  | mysql => rfl
  | postgres => rfl

theorem article_onConnector (group : Str) (type : Artcltyp)
    : (srvBackend servers dbase).article (cfg.onConnector enableStarttls tlsIsMandatory) group type
      = (srvBackend servers dbase).article cfg group type := by
  cases dbase with
  | sqlite3 => rfl
  | mysql => rfl
  | postgres => rfl

theorem postToGroups_onConnector {db : SrvBackend} (messageId : Str) (groups : List Str)
    (stack : Charstack)
    : db.postToGroups (cfg.onConnector enableStarttls tlsIsMandatory) env messageId groups stack
      = db.postToGroups cfg env messageId groups stack := by
  induction groups generalizing stack with
  | nil => rfl
  | cons newsgroup rest ih =>
      simp only [SrvBackend.postToGroups, ih]
      rfl

theorem docmdPost_onConnector {db : SrvBackend}
    : db.docmdPost ext (cfg.onConnector enableStarttls tlsIsMandatory) env
      = db.docmdPost ext cfg env := by
  have stores (row : Posting) (header body : Str) (groups : List Str)
      : db.storeArticle (cfg.onConnector enableStarttls tlsIsMandatory) env row header body groups
        = db.storeArticle cfg env row header body groups := by
    simp only [SrvBackend.storeArticle, postToGroups_onConnector]
    rfl
  have accepts (len : Nat) (header ngstrp body : Str)
      : db.postAccepted ext (cfg.onConnector enableStarttls tlsIsMandatory) env len header ngstrp
            body
        = db.postAccepted ext cfg env len header ngstrp body := by
    simp only [SrvBackend.postAccepted, stores]
    rfl
  have article (buf : Str)
      : db.postArticle ext (cfg.onConnector enableStarttls tlsIsMandatory) env buf
        = db.postArticle ext cfg env buf := by
    simp only [SrvBackend.postArticle, accepts]
  simp only [SrvBackend.docmdPost, article]
  rfl

/-- Branches that run alike, found in tables with the same keys. -/
theorem run_find (selects : Str → Bool) {r : Session} {l l' : List (Str × Srv Unit)}
    {last last' : Srv Unit}
    (same : List.Forall₂ (fun x y => x.1 = y.1 ∧ x.2.run r = y.2.run r) l l')
    (rest : last.run r = last'.run r)
    : StateT.run (match l.find? (fun entry : Str × Srv Unit => selects entry.1) with
        | some entry => entry.2
        | none => last) r
      = StateT.run (match l'.find? (fun entry : Str × Srv Unit => selects entry.1) with
        | some entry => entry.2
        | none => last') r := by
  induction same with
  | nil => exact rest
  | @cons x y _ _ both _ ih =>
      obtain ⟨key, run⟩ := both
      rw [List.find?_cons, List.find?_cons, key]
      cases selects y.1 with
      | true => exact run
      | false => exact ih

/-- With TLS the connector does not matter. -/
theorem doCommand_onConnector {r : Session} (active : r.tlsActive = true) (command : Str)
    : ((srvBackend servers dbase).doCommand ext (cfg.onConnector enableStarttls tlsIsMandatory) env
          command).run r
      = ((srvBackend servers dbase).doCommand ext cfg env command).run r := by
  have checks (cfg : Config) (m : Srv Unit) : (checkMandatoryTls cfg m).run r = m.run r := by
    simp [checkMandatoryTls_run, active]
  have lists (cmdtyp : ListCmdtyp)
      : (srvBackend servers dbase).docmdList ext (cfg.onConnector enableStarttls tlsIsMandatory)
            command cmdtyp
        = (srvBackend servers dbase).docmdList ext cfg command cmdtyp := by
    unfold SrvBackend.docmdList SrvBackend.docmdList.list
    simp only [list_onConnector]
  have reads
      : (srvBackend servers dbase).docmdArticle (cfg.onConnector enableStarttls tlsIsMandatory)
            command
        = (srvBackend servers dbase).docmdArticle cfg command := by
    unfold SrvBackend.docmdArticle SrvBackend.docmdArticle.retrieve
    simp only [article_onConnector]
  have capabilities
      : (docmdCapabilities (cfg.onConnector enableStarttls tlsIsMandatory)).run r
        = (docmdCapabilities cfg).run r := by
    simp only [docmdCapabilities, StateT.run_bind, StateT.run_get, Prog.pure_eq, Prog.done_bind,
      active, Bool.not_true, Bool.false_and]
  have table : List.Forall₂ (fun x y => x.1 = y.1 ∧ x.2.run r = y.2.run r)
      ((srvBackend servers dbase).authCommands ext (cfg.onConnector enableStarttls tlsIsMandatory)
        env command)
      ((srvBackend servers dbase).authCommands ext cfg env command) := by
    simp only [SrvBackend.authCommands, lists, reads, docmdPost_onConnector,
      List.forall₂_cons, true_and, checks, List.Forall₂.nil, and_true]
    exact ⟨rfl, rfl, capabilities⟩
  have last (authenticated : Bool)
      : (lastCommands (cfg.onConnector enableStarttls tlsIsMandatory) authenticated command).run r
        = (lastCommands cfg authenticated command).run r := by
    unfold lastCommands
    split
    · simp only [docmdStarttls, StateT.run_bind, StateT.run_get, Prog.pure_eq, Prog.done_bind,
        active, if_true]
    · rfl
  have dispatch : StateT.run
        (match ((srvBackend servers dbase).authCommands ext
            (cfg.onConnector enableStarttls tlsIsMandatory) env command).find?
            (fun entry => (r.authIsThere || !cfg.useAuth) && caseEqPrefix entry.1 command) with
          | some entry => entry.2
          | none => lastCommands (cfg.onConnector enableStarttls tlsIsMandatory)
              (r.authIsThere || !cfg.useAuth) command) r
      = StateT.run
        (match ((srvBackend servers dbase).authCommands ext cfg env command).find?
            (fun entry => (r.authIsThere || !cfg.useAuth) && caseEqPrefix entry.1 command) with
          | some entry => entry.2
          | none => lastCommands cfg (r.authIsThere || !cfg.useAuth) command) r :=
    run_find (fun key => (r.authIsThere || !cfg.useAuth) && caseEqPrefix key command) table
      (last _)
  simp only [SrvBackend.doCommand, StateT.run_bind, StateT.run_get, Prog.pure_eq, Prog.done_bind]
  split
  · rfl
  · split
    · rw [checks, checks]
    · split
      · rw [checks, checks]
        rfl
      · exact dispatch

/-- A session is served with TLS as behind any other connector. -/
theorem serveCommand_onConnector {r : Session} (active : r.tlsActive = true) (recvbuf : Str)
    : ((srvBackend servers dbase).serveCommand ext (cfg.onConnector enableStarttls tlsIsMandatory)
          env recvbuf).run r
      = ((srvBackend servers dbase).serveCommand ext cfg env recvbuf).run r := by
  unfold SrvBackend.serveCommand
  rw [StateT.run_bind, StateT.run_bind, doCommand_onConnector active]

end Connector

-----------------------------------------------------------------------------------------
-- The switch
-----------------------------------------------------------------------------------------

/-- The session right after a switch to TLS. -/
def Session.switched (r : Session) : Session :=
  { r with
    switchToTls := false
    tlsActive := true
    selectedGroup := none
    selectedArticle := none }

/-- The selection and the login are the same. -/
structure Session.SameState (r r' : Session) : Prop where
  selectedGroup : r.selectedGroup = r'.selectedGroup
  selectedArticle : r.selectedArticle = r'.selectedArticle
  authIsThere : r.authIsThere = r'.authIsThere
  curAuthUser : r.curAuthUser = r'.curAuthUser
  curAuthPass : r.curAuthPass = r'.curAuthPass

section Switch

variable (db : SrvBackend) (ext : Extern) (cfg : Config) (cmdtype : Cmdtype) (speccmd : Speccmd)
  (conn : Connection)

/-- A connection that switches to TLS is one like a fresh connection to a connector with TLS;
`cmdtype` and `speccmd` are what the fields of that name hold before they are assigned. -/
structure FreshAfterSwitch : Prop where
  state : conn.session.switched.SameState (Session.fresh cfg true cmdtype speccmd)
  replies :
    ∀ (enableStarttls tlsIsMandatory : Bool) (rounds : List Round),
      (∀ round ∈ rounds.head?, round.line.env.tlsSessionInit = true) →
      db.replies ext cfg conn rounds
        = db.replies ext (cfg.onConnector enableStarttls tlsIsMandatory)
            ⟨Session.fresh cfg true cmdtype speccmd, conn.store⟩ rounds

/-- Before the switch nothing is left of the plaintext commands: no user name and no change of
the login, on SQLite no article that was found, and no pending conversion of dates. -/
structure Unmarked : Prop where
  curAuthUser : conn.session.curAuthUser = none
  authIsThere : conn.session.authIsThere = !cfg.useAuth
  foundArticle : db.dbase = .sqlite3 → conn.session.foundArticle = false
  date : conn.session.speccmd = .date ↔ speccmd = .date

end Switch

section Lines

variable {db : SrvBackend} {ext : Extern} {cfg : Config} {env : Env}

/-- Between two lines nothing of a reply and no password is there, and with TLS no switch is
due. -/
structure Session.Waiting (r : Session) : Prop where
  idle : r.curstring = []
  pass : r.curAuthPass = none
  steady : r.tlsActive = true → r.switchToTls = false

theorem Session.Waiting.like {r : Session} (waiting : r.Waiting) (dbase : Dbase)
    : r.Like dbase (Calm r.tlsActive) r :=
  ⟨rfl, waiting.pass, rfl, waiting.steady⟩

theorem Session.Waiting.switched {r : Session} (waiting : r.Waiting) : r.switched.Waiting :=
  ⟨waiting.idle, waiting.pass, fun _ => rfl⟩

/-- Nothing is asked of a handler. -/
theorem ensures_true {α : Type} (dbase : Dbase) (m : Srv α)
    : Ensures (execOn dbase ext) (fun _ _ => True) m (fun _ _ _ => True) (fun _ _ => True) := by
  intro r s _
  unfold Prog.wp
  split <;> trivial

theorem serveCommand_waits (blinds : ∀ K, db.Blinds ext K) {recvbuf : Str} {r r' : Session}
    {s s' : Store} (waiting : r.Waiting)
    (ran : ((db.serveCommand ext cfg env recvbuf).run r).run (execOn db.dbase ext) s
      = (.ok ((), r'), s'))
    : r'.Waiting := by
  have sends : Ensures (execOn db.dbase ext) (fun _ _ => True)
      (db.serveCommand ext cfg env recvbuf) (fun _ r _ => r.curstring = []) (fun _ _ => True) := by
    refine Ensures.bind (ensures_true db.dbase _) (fun _ => Ensures.read (fun r _ => ?_))
    refine Ensures.ite (fun _ _ _ _ => trivial) (fun _ => ?_)
    exact Ensures.modify (fun _ _ _ => rfl)
  have blinded : Blinded db.dbase ext (Session.Like db.dbase (Calm r.tlsActive))
      (db.serveCommand ext cfg env recvbuf) :=
    blinded_serveCommand (Calm.passStage _) blinds recvbuf (fun _ => blinded_lastCommands _ _)
  have idle : r'.curstring = [] := sends.run_ok trivial ran
  rcases Blind.run_cases blinded (waiting.like db.dbase) s with
    ⟨_, t, t', s'', first, second, like⟩ | ⟨reason, s'', first, _⟩
  · rw [ran] at first
    cases first
    obtain ⟨pass, active, steady⟩ := like.known
    exact ⟨idle, pass, fun tls => steady (active ▸ tls)⟩
  · rw [ran] at first
    cases first

/-- The switch that STARTTLS asked for, or nothing. -/
theorem serveLine_cases (recvbuf : Str) (r : Session) (s : Store)
    : ((db.serveLine ext cfg env recvbuf).run r).run (execOn db.dbase ext) s
      = if r.switchToTls = true then
          if env.tlsSessionInit = true then
            ((db.serveCommand ext cfg env recvbuf).run r.switched).run (execOn db.dbase ext) s
          else (.error (.killThread r.sent), s)
        else ((db.serveCommand ext cfg env recvbuf).run r).run (execOn db.dbase ext) s := by
  rw [serveLine_run]
  simp only [switchToTls, StateT.run_bind, StateT.run_get, Prog.pure_eq, Prog.done_bind]
  split
  · split
    · rfl
    · rfl
  · rfl

theorem serveLine_steady {recvbuf : Str} {r : Session} {s : Store} (steady : r.switchToTls = false)
    : ((db.serveLine ext cfg env recvbuf).run r).run (execOn db.dbase ext) s
      = ((db.serveCommand ext cfg env recvbuf).run r).run (execOn db.dbase ext) s := by
  rw [serveLine_cases, if_neg]
  simp [steady]

theorem serve_waits (blinds : ∀ K, db.Blinds ext K) {conn conn' : Connection} {line : Line}
    (waiting : conn.session.Waiting) (served : db.serve ext cfg conn line = some conn')
    : conn'.session.Waiting := by
  have forgotten : Session.Waiting { conn.session with sent := [] } :=
    ⟨waiting.idle, waiting.pass, waiting.steady⟩
  unfold SrvBackend.serve SrvBackend.program at served
  rw [serveLine_cases] at served
  split at served
  · rename_i session store ran
    cases served
    split at ran
    · split at ran
      · exact serveCommand_waits blinds forgotten.switched ran
      · cases ran
    · exact serveCommand_waits blinds forgotten ran
  · cases served

/-- Over a whole run. -/
theorem serveRounds_waits (blinds : ∀ K, db.Blinds ext K) {conn conn' : Connection}
    {rounds : List Round} (waiting : conn.session.Waiting)
    (served : db.serveRounds ext cfg conn rounds = some conn')
    : conn'.session.Waiting := by
  induction rounds generalizing conn with
  | nil =>
      cases served
      exact waiting
  | cons round rest ih =>
      obtain ⟨next, first, then'⟩ := Option.bind_eq_some_iff.mp served
      have kept : (conn.meanwhile round).session.Waiting := waiting
      exact ih (serve_waits blinds kept first) then'

end Lines

section Replies

variable {servers : DbServers} {dbase : Dbase} {ext : Extern} {cfg : Config}
  {enableStarttls tlsIsMandatory : Bool}

/-- One line, served with TLS to two sessions that are the same to it. -/
theorem program_cases {r r' : Session}
    (like : r.Like (srvBackend servers dbase).dbase (Calm true) r') (s : Store) (line : Line)
    : (∃ t t' s',
        ((srvBackend servers dbase).program ext cfg ⟨r, s⟩ line).run
            (execOn (srvBackend servers dbase).dbase ext) s = (.ok ((), t), s')
        ∧ ((srvBackend servers dbase).program ext
              (cfg.onConnector enableStarttls tlsIsMandatory) ⟨r', s⟩ line).run
            (execOn (srvBackend servers dbase).dbase ext) s = (.ok ((), t'), s')
        ∧ t.Like (srvBackend servers dbase).dbase (Calm true) t')
      ∨ ∃ reason s',
        ((srvBackend servers dbase).program ext cfg ⟨r, s⟩ line).run
            (execOn (srvBackend servers dbase).dbase ext) s = (.error reason, s')
        ∧ ((srvBackend servers dbase).program ext
              (cfg.onConnector enableStarttls tlsIsMandatory) ⟨r', s⟩ line).run
            (execOn (srvBackend servers dbase).dbase ext) s = (.error reason, s') := by
  have forgotten : Session.Like (srvBackend servers dbase).dbase (Calm true)
      { r with sent := [] } { r' with sent := [] } :=
    ⟨congrArg (fun v : View => { v with sent := [] }) like.view, like.known⟩
  have steady : Session.switchToTls { r with sent := [] } = false := like.known.2.2 rfl
  have steady' : Session.switchToTls { r' with sent := [] } = false :=
    (congrArg View.switchToTls like.view).symm.trans steady
  have active' : Session.tlsActive { r' with sent := [] } = true :=
    like.tlsActive.symm.trans like.known.2.1
  have blinded : Blinded (srvBackend servers dbase).dbase ext
      (Session.Like (srvBackend servers dbase).dbase (Calm true))
      ((srvBackend servers dbase).serveCommand ext cfg line.env line.recvbuf) :=
    blinded_serveCommand (Calm.passStage _) (blinds servers dbase ext) line.recvbuf
      (fun _ => blinded_lastCommands _ _)
  unfold SrvBackend.program
  rw [serveLine_steady steady, serveLine_steady steady', serveCommand_onConnector active']
  rcases Blind.run_cases blinded forgotten s with
    ⟨_, t, t', s', first, second, related⟩ | ⟨reason, s', first, second⟩
  · exact Or.inl ⟨t, t', s', first, second, related⟩
  · exact Or.inr ⟨reason, s', first, second⟩

/-- Two sessions with TLS that are the same to the next command, behind any connectors.
Witness: one line does the same from both and leaves two such sessions; then by induction over
the rounds.
-/
theorem replies_eq_of_like {r r' : Session}
    (like : r.Like (srvBackend servers dbase).dbase (Calm true) r') (s : Store)
    (rounds : List Round)
    : (srvBackend servers dbase).replies ext cfg ⟨r, s⟩ rounds
      = (srvBackend servers dbase).replies ext (cfg.onConnector enableStarttls tlsIsMandatory)
          ⟨r', s⟩ rounds := by
  induction rounds generalizing r r' s with
  | nil => rfl
  | cons round rest ih =>
      simp only [SrvBackend.replies, SrvBackend.reply, SrvBackend.serve, Connection.meanwhile]
      rcases program_cases like (round.others s) round.line with
        ⟨t, t', s', first, second, related⟩ | ⟨reason, s', first, second⟩
      · rw [first, second]
        simp only [Option.map_some, Option.getD_some, related.sent, ih related s']
      · rw [first, second]
        rfl

/-- The first line behind a switch that succeeds. -/
theorem replies_of_switching {conn : Connection} (switching : conn.session.switchToTls = true)
    {rounds : List Round} (succeeds : ∀ round ∈ rounds.head?, round.line.env.tlsSessionInit = true)
    {db : SrvBackend}
    : db.replies ext cfg conn rounds
      = db.replies ext cfg ⟨conn.session.switched, conn.store⟩ rounds := by
  cases rounds with
  | nil => rfl
  | cons round rest =>
      have init : round.line.env.tlsSessionInit = true := succeeds round rfl
      have same : (db.program ext cfg (conn.meanwhile round) round.line).run
            (execOn db.dbase ext) (round.others conn.store)
          = (db.program ext cfg
              (Connection.meanwhile ⟨conn.session.switched, conn.store⟩ round) round.line).run
            (execOn db.dbase ext) (round.others conn.store) := by
        simp only [SrvBackend.program, Connection.meanwhile, serveLine_cases, switching, init,
          if_true]
        rfl
      simp only [SrvBackend.replies, SrvBackend.reply, SrvBackend.serve]
      simp only [Connection.meanwhile] at same ⊢
      rw [same]

end Replies

section Runs

variable (servers : DbServers) (dbase : Dbase) (ext : Extern) (cfg : Config)
  (cmdtype : Cmdtype) (speccmd : Speccmd) (store : Store) (rounds : List Round)

/-- In every run that switches to TLS by STARTTLS without a mark of the plaintext commands, the
session and all later replies are those of a fresh connection with TLS.
Witness: between two lines a session waits; the switch makes a waiting session without marks
the same to the next command as a fresh one.
-/
theorem starttls_as_fresh (conn : Connection)
    (reached : (srvBackend servers dbase).serveRounds ext cfg
      ⟨Session.fresh cfg false cmdtype speccmd, store⟩ rounds = some conn)
    (switching : conn.session.switchToTls = true)
    (unmarked : Unmarked (srvBackend servers dbase) cfg speccmd conn)
    : FreshAfterSwitch (srvBackend servers dbase) ext cfg cmdtype speccmd conn := by
  have fresh : (Session.fresh cfg false cmdtype speccmd).Waiting :=
    ⟨rfl, rfl, fun active => by cases active⟩
  have waiting : conn.session.Waiting := serveRounds_waits (blinds servers dbase ext) fresh reached
  constructor
  · exact ⟨rfl, rfl, unmarked.authIsThere, unmarked.curAuthUser, waiting.pass⟩
  · intro enableStarttls tlsIsMandatory rounds succeeds
    have forgotten : (srvBackend servers dbase).replies ext cfg
          ⟨conn.session.switched, conn.store⟩ rounds
        = (srvBackend servers dbase).replies ext cfg
          ⟨{ conn.session.switched with sent := [] }, conn.store⟩ rounds := by
      cases rounds with
      | nil => rfl
      | cons round rest => rfl
    rw [replies_of_switching switching succeeds, forgotten]
    apply replies_eq_of_like
    constructor
    · simp only [Session.view, Session.switched, Session.fresh, View.mk.injEq, unmarked.curAuthUser,
        unmarked.authIsThere, waiting.pass, waiting.idle, true_and]
      refine ⟨decide_eq_decide.mpr unmarked.date, ?_⟩
      by_cases sqlite : (srvBackend servers dbase).dbase = .sqlite3
      · simp [unmarked.foundArticle sqlite]
      · simp [sqlite]
    · exact ⟨waiting.pass, rfl, fun _ => rfl⟩

end Runs

section Samples

/-- Authentication and STARTTLS. -/
def starttlsConfig : Config := { sampleConfig with enableStarttls := true }

/-- A line on a connection whose handshake succeeds. -/
def starttlsRound (text : String) : Round :=
  ⟨⟨(text ++ "\r\n").toList, { sampleEnv with tlsSessionInit := true }⟩, id⟩

theorem mode_reader_leaves_no_mark
    : ∃ conn,
        (srvBackend sampleServers .sqlite3).serveRounds sampleExtern starttlsConfig
            ⟨Session.fresh starttlsConfig false .article .cleared, sampleStore⟩
            [starttlsRound "CAPABILITIES", starttlsRound "STARTTLS"]
          = some conn
        ∧ FreshAfterSwitch (srvBackend sampleServers .sqlite3) sampleExtern starttlsConfig .article
            .cleared conn :=
  ⟨_, rfl, starttls_as_fresh sampleServers .sqlite3 sampleExtern starttlsConfig .article .cleared
    sampleStore [starttlsRound "CAPABILITIES", starttlsRound "STARTTLS"] _ rfl rfl
    ⟨rfl, rfl, fun _ => rfl, Iff.rfl⟩⟩

/-- A user name sent in plaintext is there after the switch: AUTHINFO PASS alone logs in. -/
theorem plaintext_user_survives_starttls
    : ∃ conn,
        (srvBackend sampleServers .sqlite3).serveRounds sampleExtern starttlsConfig
            ⟨Session.fresh starttlsConfig false .article .cleared, sampleStore⟩
            [starttlsRound "AUTHINFO USER alice", starttlsRound "STARTTLS"]
          = some conn
        ∧ conn.session.switchToTls = true
        ∧ (srvBackend sampleServers .sqlite3).replies sampleExtern starttlsConfig conn
            [starttlsRound "AUTHINFO PASS secret99"] = [[⟨authAccept, none⟩]]
        ∧ ¬FreshAfterSwitch (srvBackend sampleServers .sqlite3) sampleExtern starttlsConfig .article
            .cleared conn := by
  refine ⟨_, rfl, rfl, by decide +kernel, ?_⟩
  intro fresh
  cases fresh.state.curAuthUser

end Samples

end WendzelNNTPd
