import WendzelNNTPd.Lib.Handler
import WendzelNNTPd.Server.Backends

/-! What the functions of a backend leave alone. A lookup replies nothing and changes nothing; a
listing adds to the reply; GROUP and ARTICLE find nothing, or begin a reply that reports
success before they change the selection; the functions of POST change the store only.
-/

namespace WendzelNNTPd

open CString Atomic

/-- Whether a status line reports an error. -/
def isError (line : Str) : Bool := line.head? == some '4' || line.head? == some '5'

/-- A query does not change the store. -/
def Stmt.isQuery : Stmt → Bool
  | .selectUsers _ _ | .selectUser _ | .selectRole _ | .selectNewsgroups | .selectNewsgroup _
  | .selectPostable _ | .selectAclUsers _ _ | .selectAclRoles _ _ | .selectNgpostsMsgid _ _
  | .selectNgpostsPostnum _ _ | .selectFirstPostnum _ | .selectPostnums _ | .selectOverview _ _ _
  | .selectOverviewMsgid _ _ | .selectHeader _ | .bodyRead _ => true
  | _ => false

theorem execOn_query (dbase : Dbase) (ext : Extern) {op : Stmt} (query : op.isQuery = true)
    (s : Store)
    : (execOn dbase ext op s).2 = s := by
  cases dbase with
  | sqlite3 => cases op <;> first | rfl | cases query
  | mysql => cases op <;> first | rfl | cases query
  | postgres => cases op <;> first | rfl | cases query

/-- The database servers execute one statement at a time: a query in whose text a name does not
stand for itself is still a query, and whatever is refused is refused with the error. -/
structure DbServers.SingleStatements (servers : DbServers) : Prop where
  mysql :
    ∀ (ε : Type) (error : ε) (op : Stmt),
      (servers.mysql.misread ε error op).Within
        (fun other : Stmt => op.isQuery = true → other.isQuery = true) (· = error)
  postgres :
    ∀ (ε : Type) (error : ε) (op : Stmt),
      (servers.postgres.misread ε error op).Within
        (fun other : Stmt => op.isQuery = true → other.isQuery = true) (· = error)

/-- The part of a session that a client can see the effect of. -/
structure Face where
  selectedGroup : Option Str
  selectedArticle : Option Str
  curstring : List Piece
  sent : List Piece

def Session.face (r : Session) : Face := ⟨r.selectedGroup, r.selectedArticle, r.curstring, r.sent⟩

/-- A client whose thread is killed has been sent this. -/
def Exit.SentIs (sent : List Piece) : Exit → Prop
  | .killThread sent' => sent' = sent
  | _ => True

section Kinds

variable (dbase : Dbase) (ext : Extern) {α : Type} (m : Srv α)

/-- The handler replies nothing and leaves the selection and the store alone. -/
def Lookup : Prop :=
  ∀ f s₀, Keeps (execOn dbase ext) (fun r => r.face = f) (· = s₀) (Exit.SentIs f.sent) m

/-- The handler adds to the reply and leaves the selection and the store alone. -/
def Listing : Prop :=
  ∀ group article first sent s₀,
    Keeps (execOn dbase ext)
      (fun r => r.selectedGroup = group ∧ r.selectedArticle = article
        ∧ first <+: r.curstring ∧ r.sent = sent)
      (· = s₀) (Exit.SentIs sent) m

/-- The handler adds to the reply and leaves the store alone. -/
def Moving : Prop :=
  ∀ first sent s₀,
    Keeps (execOn dbase ext) (fun r => first <+: r.curstring ∧ r.sent = sent) (· = s₀)
      (Exit.SentIs sent) m

/-- The handler replies nothing and leaves the selection alone. -/
def Writing : Prop :=
  ∀ f, Keeps (execOn dbase ext) (fun r => r.face = f) (fun _ => True) (Exit.SentIs f.sent) m

/-- The reply begins with a status that is no error. -/
def Session.Accepts (sent : List Piece) (r : Session) : Prop :=
  r.sent = sent ∧ ∃ piece, [piece] <+: r.curstring ∧ isError piece.text = false

/-- The handler begins a reply that reports success. -/
def Begins : Prop :=
  ∀ sent s₀,
    Ensures (execOn dbase ext) (fun r s => (r.curstring = [] ∧ r.sent = sent) ∧ s = s₀) m
      (fun _ r s => r.Accepts sent ∧ s = s₀) (fun reason _ => reason.SentIs sent)

/-- The handler finds nothing and does nothing, or begins a reply that reports success. -/
def Answers : Prop :=
  ∀ f s₀, f.curstring = [] →
    Ensures (execOn dbase ext) (fun r s => r.face = f ∧ s = s₀) m
      (fun _ r s => (r.face = f ∨ r.Accepts f.sent) ∧ s = s₀)
      (fun reason _ => reason.SentIs f.sent)

end Kinds

section Rules

variable {dbase : Dbase} {ext : Extern} {α β : Type}

theorem Lookup.pure (a : α) : Lookup dbase ext (Pure.pure a : Srv α) := fun _ _ => Keeps.pure a

theorem Lookup.bind {m : Srv β} {f : β → Srv α} (first : Lookup dbase ext m)
    (rest : ∀ b, Lookup dbase ext (f b))
    : Lookup dbase ext (m >>= f) :=
  fun face s₀ => (first face s₀).bind (fun b => rest b face s₀)

theorem Lookup.get_bind {f : Session → Srv α} (rest : ∀ r, Lookup dbase ext (f r))
    : Lookup dbase ext (get >>= f) :=
  fun face s₀ => Keeps.get_bind (fun r _ => rest r face s₀)

theorem Lookup.modify {g : Session → Session} (same : ∀ r, (g r).face = r.face)
    : Lookup dbase ext (modify g) :=
  fun _ _ => Keeps.modify (fun r start => (same r).trans start)

theorem Lookup.ite {c : Prop} [Decidable c] {m m' : Srv α} (yes : Lookup dbase ext m)
    (no : Lookup dbase ext m')
    : Lookup dbase ext (if c then m else m') :=
  fun face s₀ => Keeps.ite (fun _ => yes face s₀) (fun _ => no face s₀)

theorem Lookup.crash : Lookup dbase ext (crash : Srv α) := fun _ _ _ _ _ => trivial

theorem Lookup.killThread : Lookup dbase ext (killThread : Srv α) :=
  fun _ _ _ _ start => congrArg Face.sent start.1

/-- A program of queries that the session waits for. -/
theorem Lookup.within {program : Session → Prog Sql Exit α}
    (within : ∀ r, (program r).Within (fun op : Stmt => op.isQuery = true) (· = .killThread r.sent))
    : Lookup dbase ext (fun r => program r >>= fun a => Pure.pure (a, r) : Srv α) := by
  intro face s₀ r s start
  change (program r >>= fun a => Pure.pure (a, r)).wp _ _ _ s
  rw [Prog.wp_bind]
  apply (within r).wp (J := (· = s₀)) _ start.2
  · intro a s' same
    exact ⟨start.1, same⟩
  · intro reason s' killed _
    subst killed
    exact congrArg Face.sent start.1
  · intro op s' query same
    exact (execOn_query dbase ext query s').trans same

theorem Lookup.sql {op : Stmt} (query : op.isQuery = true) : Lookup dbase ext (sql op) :=
  fun _ _ _ s start => ⟨start.1, (execOn_query dbase ext query s).trans start.2⟩

theorem Lookup.listing {m : Srv α} (lookup : Lookup dbase ext m) : Listing dbase ext m := by
  intro group article first sent s₀ r s start
  obtain ⟨⟨sameGroup, sameArticle, begun, sameSent⟩, same⟩ := start
  apply Prog.wp_mono _ (lookup r.face s₀ r s ⟨rfl, same⟩)
  · intro out s' done
    obtain ⟨face, store⟩ := done
    simp only [Session.face, Face.mk.injEq] at face
    obtain ⟨g, a, c, t⟩ := face
    exact ⟨⟨g.trans sameGroup, a.trans sameArticle, c ▸ begun, t.trans sameSent⟩, store⟩
  · intro reason s' stopped
    exact sameSent ▸ stopped

theorem Lookup.writing {m : Srv α} (lookup : Lookup dbase ext m) : Writing dbase ext m := by
  intro face r s start
  apply Prog.wp_mono _ (lookup face s r s ⟨start.1, rfl⟩)
  · exact fun out s' done => ⟨done.1, trivial⟩
  · exact fun reason s' stopped => stopped

theorem Listing.pure (a : α) : Listing dbase ext (Pure.pure a : Srv α) :=
  (Lookup.pure a).listing

theorem Listing.bind {m : Srv β} {f : β → Srv α} (first : Listing dbase ext m)
    (rest : ∀ b, Listing dbase ext (f b))
    : Listing dbase ext (m >>= f) :=
  fun g a c t s₀ => (first g a c t s₀).bind (fun b => rest b g a c t s₀)

theorem Listing.get_bind {f : Session → Srv α} (rest : ∀ r, Listing dbase ext (f r))
    : Listing dbase ext (get >>= f) :=
  fun g a c t s₀ => Keeps.get_bind (fun r _ => rest r g a c t s₀)

theorem Listing.ite {c : Prop} [Decidable c] {m m' : Srv α} (yes : Listing dbase ext m)
    (no : Listing dbase ext m')
    : Listing dbase ext (if c then m else m') :=
  fun g a c t s₀ => Keeps.ite (fun _ => yes g a c t s₀) (fun _ => no g a c t s₀)

theorem Listing.forM {γ : Type} {f : γ → Srv PUnit} (l : List γ)
    (round : ∀ x, Listing dbase ext (f x))
    : Listing dbase ext (l.forM f) :=
  fun g a c t s₀ => Keeps.forM l (fun x _ => round x g a c t s₀)

/-- Appending to the reply keeps its beginning. -/
theorem Listing.append {pieces : List Piece}
    : Listing dbase ext
        (modify (fun r => { r with curstring := r.curstring ++ pieces }) : Srv PUnit) := by
  intro g a c t s₀
  apply Keeps.modify
  intro r start
  obtain ⟨group, article, begun, sent⟩ := start
  exact ⟨group, article, begun.trans (List.prefix_append _ _), sent⟩

theorem Listing.toSend (text : Str) : Listing dbase ext (toSend text) := Listing.append

theorem Listing.toSendRow (row : Ngpost) (text : Str) : Listing dbase ext (toSendRow row text) :=
  Listing.append

theorem Listing.modify {g : Session → Session} (same : ∀ r, (g r).face = r.face)
    : Listing dbase ext (modify g) :=
  (Lookup.modify same).listing

theorem Listing.moving {m : Srv α} (listing : Listing dbase ext m) : Moving dbase ext m := by
  intro first sent s₀ r s start
  obtain ⟨⟨begun, sameSent⟩, same⟩ := start
  apply Prog.wp_mono _ (listing r.selectedGroup r.selectedArticle first sent s₀ r s
    ⟨⟨rfl, rfl, begun, sameSent⟩, same⟩)
  · exact fun out s' done => ⟨⟨done.1.2.2.1, done.1.2.2.2⟩, done.2⟩
  · exact fun reason s' stopped => stopped

theorem Moving.bind {m : Srv β} {f : β → Srv α} (first : Moving dbase ext m)
    (rest : ∀ b, Moving dbase ext (f b))
    : Moving dbase ext (m >>= f) :=
  fun c t s₀ => (first c t s₀).bind (fun b => rest b c t s₀)

theorem Moving.get_bind {f : Session → Srv α} (rest : ∀ r, Moving dbase ext (f r))
    : Moving dbase ext (get >>= f) :=
  fun c t s₀ => Keeps.get_bind (fun r _ => rest r c t s₀)

theorem Moving.forM {γ : Type} {f : γ → Srv PUnit} (l : List γ)
    (round : ∀ x, Moving dbase ext (f x))
    : Moving dbase ext (l.forM f) :=
  fun c t s₀ => Keeps.forM l (fun x _ => round x c t s₀)

/-- A change of the session that is not one of the reply. -/
theorem Moving.modify {g : Session → Session}
    (same : ∀ r, (g r).curstring = r.curstring ∧ (g r).sent = r.sent)
    : Moving dbase ext (modify g) := by
  intro c t s₀
  apply Keeps.modify
  intro r start
  rw [(same r).1, (same r).2]
  exact start

theorem Writing.bind {m : Srv β} {f : β → Srv α} (first : Writing dbase ext m)
    (rest : ∀ b, Writing dbase ext (f b))
    : Writing dbase ext (m >>= f) :=
  fun face => (first face).bind (fun b => rest b face)

theorem Writing.ite {c : Prop} [Decidable c] {m m' : Srv α} (yes : Writing dbase ext m)
    (no : Writing dbase ext m')
    : Writing dbase ext (if c then m else m') :=
  fun face => Keeps.ite (fun _ => yes face) (fun _ => no face)

/-- A program that the session waits for. -/
theorem Writing.within {program : Session → Prog Sql Exit α}
    (within : ∀ r, (program r).Within (fun _ => True) (· = .killThread r.sent))
    : Writing dbase ext (fun r => program r >>= fun a => Pure.pure (a, r) : Srv α) := by
  intro face r s start
  change (program r >>= fun a => Pure.pure (a, r)).wp _ _ _ s
  rw [Prog.wp_bind]
  apply (within r).wp (J := fun _ => True) (fun _ _ _ _ => trivial) trivial
  · intro a s' _
    exact ⟨start.1, trivial⟩
  · intro reason s' killed _
    subst killed
    exact congrArg Face.sent start.1

theorem Writing.sql (op : Stmt) : Writing dbase ext (sql op) := fun _ _ _ start => start

theorem Begins.modify_bind {g : Session → Session}
    (same : ∀ r, (g r).curstring = r.curstring ∧ (g r).sent = r.sent) {f : PUnit → Srv α}
    (rest : Begins dbase ext (f ⟨⟩))
    : Begins dbase ext (modify g >>= f) := by
  intro sent s₀ r s start
  apply rest sent s₀ (g r) s
  rw [(same r).1, (same r).2]
  exact start

theorem Begins.get_bind {f : Session → Srv α} (rest : ∀ r, Begins dbase ext (f r))
    : Begins dbase ext (get >>= f) :=
  fun sent s₀ r s start => rest r sent s₀ r s start

/-- The first piece of a reply reports success. -/
theorem Begins.append_bind {piece : Piece} (success : isError piece.text = false)
    {f : PUnit → Srv α} (moving : Moving dbase ext (f ⟨⟩))
    : Begins dbase ext
        (modify (fun r => { r with curstring := r.curstring ++ [piece] }) >>= f) := by
  intro sent s₀ r s start
  obtain ⟨⟨nothing, same⟩, store⟩ := start
  have begun : [piece] <+: r.curstring ++ [piece] := by
    rw [nothing]
    exact List.prefix_refl _
  have moved := moving [piece] sent s₀ { r with curstring := r.curstring ++ [piece] } s
    ⟨⟨begun, same⟩, store⟩
  refine Prog.wp_mono (execOn dbase ext) moved ?_ (fun reason s' stopped => stopped)
  exact fun out s' done => ⟨⟨done.1.2, piece, done.1.1, success⟩, done.2⟩

theorem Begins.answers {m : Srv α} (begins : Begins dbase ext m) : Answers dbase ext m := by
  intro f s₀ idle r s start
  obtain ⟨face, store⟩ := start
  have nothing : r.curstring = [] := (congrArg Face.curstring face).trans idle
  apply Prog.wp_mono _ (begins f.sent s₀ r s ⟨⟨nothing, congrArg Face.sent face⟩, store⟩)
  · exact fun out s' done => ⟨Or.inr done.1, done.2⟩
  · exact fun reason s' stopped => stopped

theorem Answers.of_lookup {m : Srv α} (lookup : Lookup dbase ext m) : Answers dbase ext m := by
  intro f s₀ _
  apply Ensures.post (lookup f s₀)
  exact fun _ r s done => ⟨Or.inl done.1, done.2⟩

/-- A reply that reports success goes on doing so. -/
theorem Moving.accepts {m : Srv α} (moving : Moving dbase ext m) (sent : List Piece) (s₀ : Store)
    : Ensures (execOn dbase ext) (fun r s => r.Accepts sent ∧ s = s₀) m
        (fun _ r s => r.Accepts sent ∧ s = s₀) (fun reason _ => reason.SentIs sent) := by
  intro r s start
  obtain ⟨⟨same, piece, begun, success⟩, store⟩ := start
  apply Prog.wp_mono _ (moving [piece] sent s₀ r s ⟨⟨begun, same⟩, store⟩)
  · exact fun out s' done => ⟨⟨done.1.2, piece, done.1.1, success⟩, done.2⟩
  · exact fun reason s' stopped => stopped

theorem Answers.bind {m : Srv β} {f : β → Srv α} (first : Answers dbase ext m)
    (rest : ∀ b, Answers dbase ext (f b)) (moves : ∀ b, Moving dbase ext (f b))
    : Answers dbase ext (m >>= f) := by
  intro face s₀ idle
  apply Ensures.bind (first face s₀ idle)
  intro b r s start
  obtain ⟨same | accepts, store⟩ := start
  · exact rest b face s₀ idle r s ⟨same, store⟩
  · apply Prog.wp_mono _ ((moves b).accepts face.sent s₀ r s ⟨accepts, store⟩)
    · exact fun out s' done => ⟨Or.inr done.1, done.2⟩
    · exact fun reason s' stopped => stopped

theorem Answers.bind_lookup {m : Srv β} {f : β → Srv α} (first : Lookup dbase ext m)
    (rest : ∀ b, Answers dbase ext (f b))
    : Answers dbase ext (m >>= f) := by
  intro face s₀ idle
  apply Ensures.bind (first face s₀)
  intro b
  exact rest b face s₀ idle

theorem Answers.get_bind {f : Session → Srv α} (rest : ∀ r, Answers dbase ext (f r))
    : Answers dbase ext (get >>= f) :=
  fun face s₀ idle r s start => rest r face s₀ idle r s start

theorem Answers.forM {γ : Type} {f : γ → Srv PUnit} (l : List γ)
    (round : ∀ x, Answers dbase ext (f x)) (moves : ∀ x, Moving dbase ext (f x))
    : Answers dbase ext (l.forM f) := by
  induction l with
  | nil => exact Answers.of_lookup (Lookup.pure _)
  | cons x xs ih => exact (round x).bind (fun _ => ih) (fun _ => Moving.forM xs moves)

end Rules

-----------------------------------------------------------------------------------------
-- The functions of the backends
-----------------------------------------------------------------------------------------

/-- What the functions of a backend leave alone. -/
structure SrvBackend.Frames (db : SrvBackend) (ext : Extern) : Prop where
  getHighValue : ∀ env group, Lookup db.dbase ext (db.getHighValue env group)
  chkIfMsgidExists : ∀ group msgid, Lookup db.dbase ext (db.chkIfMsgidExists group msgid)
  checkNewsgroupPostingAllowed : Lookup db.dbase ext db.checkNewsgroupPostingAllowed
  checkNewsgroupExistence : Lookup db.dbase ext db.checkNewsgroupExistence
  aclCheckUserGroup : ∀ user group, Lookup db.dbase ext (db.aclCheckUserGroup user group)
  list : ∀ cfg cmdtyp wildmat, Listing db.dbase ext (db.list ext cfg cmdtyp wildmat)
  xhdr : ∀ part group msgid min max, Listing db.dbase ext (db.xhdr ext part group msgid min max)
  xover : ∀ group min max, Listing db.dbase ext (db.xover ext group min max)
  article : ∀ cfg group type, Answers db.dbase ext (db.article cfg group type)
  group : ∀ name, Answers db.dbase ext (db.group name)
  listgroup : ∀ name, Moving db.dbase ext (db.listgroup name)
  storeMessageBody : ∀ messageId body, Writing db.dbase ext (db.storeMessageBody messageId body)
  dbGetUniqnum : Writing db.dbase ext db.dbGetUniqnum
  postInsertIntoPostings : ∀ row, Writing db.dbase ext (db.postInsertIntoPostings row)
  postInsertIntoNgposts :
    ∀ messageId newsgroup n, Writing db.dbase ext (db.postInsertIntoNgposts messageId newsgroup n)
  postUpdateHighValue : ∀ n newsgroup, Writing db.dbase ext (db.postUpdateHighValue n newsgroup)

section Common

variable {dbase : Dbase} {ext : Extern}

/-- The existence checks and the posting check differ in their query only. -/
theorem lookup_found {query : Str → Srv (List Newsgroup)}
    (asks : ∀ name, Lookup dbase ext (query name))
    : Lookup dbase ext
        (do
          modify (fun s => { s with foundGroup := false })
          let s ← get
          match s.chkname with
          | none => crash
          | some name => do
              let rows ← query name
              modify (fun s => { s with foundGroup := !rows.isEmpty }) : Srv Unit) := by
  refine Lookup.bind (Lookup.modify (fun _ => rfl)) (fun _ => Lookup.get_bind (fun r => ?_))
  cases r.chkname with
  | none => exact Lookup.crash
  | some name => exact (asks name).bind (fun _ => Lookup.modify (fun _ => rfl))

/-- So do the access checks. -/
theorem lookup_acl {direct : Srv (List AclUser)} {viaRole : Srv (List (User2Role × AclRole))}
    (first : Lookup dbase ext direct) (second : Lookup dbase ext viaRole)
    : Lookup dbase ext
        (do
          let rows ← direct
          if rows.isEmpty then do
            let rows ← viaRole
            pure (!rows.isEmpty)
          else pure true : Srv Bool) :=
  first.bind (fun _ => (second.bind (fun _ => Lookup.pure _)).ite (Lookup.pure _))

theorem listing_xhdrCb (part : XhdrPart) (row : Ngpost × Posting)
    : Listing dbase ext (xhdrCb ext part row) :=
  Listing.get_bind (fun _ => Listing.toSendRow _ _)

/-- The loops of XHDR differ in their query only. -/
theorem listing_xhdr {part : XhdrPart} {query : Srv (List (Ngpost × Posting))}
    (asks : Lookup dbase ext query)
    : Listing dbase ext
        (do
          modify (fun s => { s with speccmd := if part = .date then .date else s.speccmd })
          let rows ← query
          rows.forM (xhdrCb ext part)
          modify (fun s => { s with speccmd := .cleared }) : Srv Unit) := by
  refine Listing.bind (Listing.modify (fun _ => rfl)) (fun _ => ?_)
  refine Listing.bind asks.listing (fun rows => ?_)
  apply Listing.bind (Listing.forM rows (listing_xhdrCb part))
  exact fun _ => Listing.modify (fun _ => rfl)

theorem listing_xoverRows (postlen : Int) (rows : List (Ngpost × Posting))
    : Listing dbase ext (xoverRows ext postlen rows) := by
  induction rows generalizing postlen with
  | nil => exact Listing.pure _
  | cons row rest ih => exact (Listing.toSendRow _ _).bind (fun _ => ih _)

theorem listing_sendListLine (cmdtyp : ListCmdtyp) (wildmat : Option Str) (g : Newsgroup)
    : Listing dbase ext (sendListLine ext cmdtyp wildmat g) := by
  unfold sendListLine
  split
  · exact Listing.toSend _
  · exact Listing.pure _

theorem articleReply_success (cmdtype : Cmdtype) (row : Ngpost)
    : isError (articleReply cmdtype row) = false := by
  cases cmdtype with
  | article => rfl
  | head => rfl
  | body => rfl
  | stat => rfl

theorem listing_articleCbCb2 (row : Ngpost) (header : Str)
    : Listing dbase ext (articleCbCb2 row header) := by
  apply Listing.get_bind
  intro r
  split
  · exact (Listing.toSendRow _ _).bind (fun _ => Listing.toSendRow _ _)
  · exact (Listing.toSendRow _ _).bind (fun _ => Listing.toSendRow _ _)
  · exact Listing.pure _

theorem lookup_filebackendRetrbody (messageId : Str)
    : Lookup dbase ext (filebackendRetrbody messageId) :=
  (Lookup.sql rfl).bind (fun _ => Lookup.pure _)

end Common

section Sqlite3

variable {ext : Extern}

theorem listing_listCb (cfg : Config) (g : Newsgroup)
    : Listing .sqlite3 ext (listCb ext cfg g) := by
  have acl (user : Option Str) : Lookup .sqlite3 ext (aclCheckIfUsed cfg user g.name) := by
    apply Lookup.ite _ (Lookup.pure _)
    cases user with
    | none => exact Lookup.pure _
    | some user => exact lookup_acl (Lookup.sql rfl) (Lookup.sql rfl)
  refine Listing.get_bind (fun r => Listing.bind (acl _).listing (fun visible => ?_))
  apply Listing.ite _ (Listing.pure _)
  split
  · exact (Listing.toSend _).ite (Listing.pure _)
  · exact (Listing.toSend _).ite (Listing.pure _)
  · exact Listing.toSend _

theorem moving_articleRest (cfg : Config) (cmdtype : Cmdtype) (row : Ngpost)
    : Moving .sqlite3 ext
        (do
          articleSendHeader cmdtype row
          articleSendBody cfg cmdtype row
          modify (fun s => { s with foundArticle := true }) : Srv Unit) := by
  have header : Listing .sqlite3 ext (articleSendHeader cmdtype row) := by
    apply Listing.ite _ (Listing.pure _)
    exact Listing.bind (Lookup.sql rfl).listing
      (fun headers => Listing.forM headers (listing_articleCbCb2 row))
  have body : Listing .sqlite3 ext (articleSendBody cfg cmdtype row) := by
    apply Listing.ite _ (Listing.pure _)
    apply Listing.ite Lookup.crash.listing
    refine Listing.bind (lookup_filebackendRetrbody _).listing (fun text => ?_)
    cases text with
    | none => exact Listing.pure _
    | some text => exact Listing.toSendRow _ _
  refine Moving.bind header.moving (fun _ => Moving.bind body.moving (fun _ => ?_))
  exact Moving.modify (fun _ => ⟨rfl, rfl⟩)

theorem begins_articleCb (cfg : Config) (row : Ngpost)
    : Begins .sqlite3 ext (articleCb cfg row) := by
  apply Begins.modify_bind
  · exact fun _ => ⟨rfl, rfl⟩
  · apply Begins.get_bind
    intro r
    exact Begins.append_bind (articleReply_success r.cmdtype row)
      (moving_articleRest cfg r.cmdtype row)

theorem moving_articleCb (cfg : Config) (row : Ngpost)
    : Moving .sqlite3 ext (articleCb cfg row) := by
  refine Moving.bind (Moving.modify (fun _ => ⟨rfl, rfl⟩)) (fun _ => Moving.get_bind (fun r => ?_))
  exact Moving.bind (Listing.toSendRow _ _).moving (fun _ => moving_articleRest cfg r.cmdtype row)

theorem moving_groupRest (g : Newsgroup)
    : Moving .sqlite3 ext
        (do
          modify (fun s => { s with selectedGroup := some g.name, selectedArticle := none })
          let rows : List Ngpost ← sql (.selectFirstPostnum g.name)
          rows.forM (fun n =>
            (modify (fun s => { s with selectedArticle := some (dec n.postnum) }) : Srv Unit))
          modify (fun s => { s with foundGroup := true }) : Srv Unit) := by
  refine Moving.bind (Moving.modify (fun _ => ⟨rfl, rfl⟩)) (fun _ => ?_)
  refine Moving.bind (Lookup.sql rfl).listing.moving (fun rows => ?_)
  refine Moving.bind (Moving.forM rows (fun n => Moving.modify (fun _ => ⟨rfl, rfl⟩))) (fun _ => ?_)
  exact Moving.modify (fun _ => ⟨rfl, rfl⟩)

/-- The functions of SQLite. -/
theorem frames_sqlite3 (ext : Extern) : SrvBackend.sqlite3.Frames ext where
  getHighValue env group := (Lookup.sql rfl).bind (fun _ => Lookup.pure _)
  chkIfMsgidExists group msgid := (Lookup.sql rfl).bind (fun _ => Lookup.pure _)
  checkNewsgroupPostingAllowed := lookup_found (fun name => Lookup.sql rfl)
  checkNewsgroupExistence := lookup_found (fun name => Lookup.sql rfl)
  aclCheckUserGroup user group := lookup_acl (Lookup.sql rfl) (Lookup.sql rfl)
  list cfg cmdtyp wildmat := by
    refine Listing.bind (Listing.modify (fun _ => rfl)) (fun _ => ?_)
    refine Listing.bind (Lookup.sql rfl).listing (fun rows => ?_)
    refine Listing.bind (Listing.forM rows (listing_listCb cfg)) (fun _ => ?_)
    exact Listing.modify (fun _ => rfl)
  xhdr part group msgid min max := by
    cases msgid with
    | none => exact listing_xhdr (Lookup.sql rfl)
    | some msgid => exact listing_xhdr (Lookup.sql rfl)
  xover group min max := by
    refine Listing.bind (Lookup.sql rfl).listing (fun rows => ?_)
    exact Listing.forM rows (fun row => Listing.toSendRow _ _)
  article cfg group type := by
    have rounds (rows : List Ngpost) : Answers .sqlite3 ext (rows.forM (articleCb cfg)) :=
      Answers.forM rows (fun row => (begins_articleCb cfg row).answers) (moving_articleCb cfg)
    refine Answers.get_bind (fun r => ?_)
    cases type with
    | messageId param => exact Answers.bind_lookup (Lookup.sql rfl) rounds
    | number param => exact Answers.bind_lookup (Lookup.sql rfl) rounds
    | current => exact Answers.bind_lookup (Lookup.sql rfl) rounds
  group name := by
    have moves (g : Newsgroup) : Moving .sqlite3 ext (groupCb g) :=
      Moving.bind (Listing.toSend _).moving (fun _ => moving_groupRest g)
    refine Answers.get_bind (fun old => Answers.bind_lookup (Lookup.sql rfl) (fun rows => ?_))
    refine Answers.bind_lookup (Lookup.modify (fun _ => rfl)) (fun _ => ?_)
    have rounds : Answers .sqlite3 ext (rows.forM groupCb) :=
      Answers.forM rows
        (fun g => (Begins.append_bind rfl (moving_groupRest g)).answers) moves
    refine rounds.bind (fun _ => ?_) (fun _ => ?_)
    · exact Answers.of_lookup (Lookup.modify (fun _ => rfl))
    · exact Moving.modify (fun _ => ⟨rfl, rfl⟩)
  listgroup name := by
    refine Moving.bind (Moving.modify (fun _ => ⟨rfl, rfl⟩)) (fun _ => ?_)
    refine Moving.bind (Lookup.sql rfl).listing.moving (fun rows => ?_)
    refine Moving.bind (Moving.forM rows (fun row => ?_)) (fun _ => ?_)
    · refine Moving.bind (Listing.toSendRow _ _).moving (fun _ => Moving.modify (fun r => ?_))
      split <;> exact ⟨rfl, rfl⟩
    · refine Moving.bind (Moving.modify (fun r => ?_)) (fun _ => (Listing.toSend _).moving)
      split <;> exact ⟨rfl, rfl⟩
  storeMessageBody messageId body := Lookup.crash.writing
  dbGetUniqnum := Lookup.crash.writing
  postInsertIntoPostings row := by
    have fails : Writing .sqlite3 ext (secexecError : Srv Unit) := fun f r s start =>
      congrArg Face.sent start.1
    apply Writing.ite _ fails
    exact (Writing.sql _).bind (fun ok => (Lookup.pure _).writing.ite fails)
  postInsertIntoNgposts messageId newsgroup n := by
    have fails : Writing .sqlite3 ext (secexecError : Srv Unit) := fun f r s start =>
      congrArg Face.sent start.1
    exact (Writing.sql _).bind (fun ok => (Lookup.pure _).writing.ite fails)
  postUpdateHighValue n newsgroup := (Writing.sql _).bind (fun _ => (Lookup.pure _).writing)

end Sqlite3

section Engines

/-- An engine whose queries are lookups, and which replies nothing by itself. -/
structure Engine.Sound (engine : Engine) (dbase : Dbase) (ext : Extern) : Prop where
  asks :
    ∀ sqlCmd names op, op.isQuery = true → Lookup dbase ext (engine.perform sqlCmd names op)
  writes : ∀ sqlCmd names op, Writing dbase ext (engine.perform sqlCmd names op)

variable {engine : Engine} {dbase : Dbase} {ext : Extern}

theorem Engine.Sound.getHighValue (sound : engine.Sound dbase ext) (group : Str)
    : Lookup dbase ext (engine.getHighValue group) :=
  (sound.asks _ _ _ rfl).bind (fun _ => Lookup.pure _)

theorem Engine.Sound.chkIfMsgidExists (sound : engine.Sound dbase ext) (group msgid : Str)
    : Lookup dbase ext (engine.chkIfMsgidExists group msgid) :=
  (sound.asks _ _ _ rfl).bind (fun _ => Lookup.pure _)

theorem Engine.Sound.chkNewsgroupPostingAllowed (sound : engine.Sound dbase ext)
    : Lookup dbase ext engine.chkNewsgroupPostingAllowed :=
  lookup_found (fun name => sound.asks _ [name] (.selectPostable name) rfl)

theorem Engine.Sound.chkNewsgroupExistence (sound : engine.Sound dbase ext)
    : Lookup dbase ext engine.chkNewsgroupExistence :=
  lookup_found (fun name => sound.asks _ [name] (.selectNewsgroup name) rfl)

theorem Engine.Sound.begins_articleRow (sound : engine.Sound dbase ext)
    {loadBody : Str → Srv (Option Str)} (loads : ∀ messageId, Lookup dbase ext (loadBody messageId))
    (cfg : Config) (row : Ngpost)
    : Begins dbase ext (engine.articleRow loadBody cfg row) := by
  have header (cmdtype : Cmdtype) : Listing dbase ext (engine.articleSendHeader cmdtype row) := by
    apply Listing.ite _ (Listing.pure _)
    refine Listing.bind (sound.asks _ _ _ rfl).listing (fun headers => ?_)
    split
    · exact listing_articleCbCb2 row _
    · exact Listing.pure _
  have body (cmdtype : Cmdtype)
      : Listing dbase ext (articleSendBodyVia loadBody cfg cmdtype row) := by
    have text : Lookup dbase ext (retrieveBody loadBody cfg row.msgid) :=
      (loads _).ite (lookup_filebackendRetrbody _)
    apply Listing.ite _ (Listing.pure _)
    refine Listing.bind text.listing (fun body => ?_)
    cases body with
    | none => exact Listing.pure _
    | some text => exact Listing.toSendRow _ _
  apply Begins.modify_bind
  · exact fun _ => ⟨rfl, rfl⟩
  · apply Begins.get_bind
    intro r
    apply Begins.append_bind (articleReply_success r.cmdtype row)
    refine Moving.bind (header _).moving (fun _ => Moving.bind (body _).moving (fun _ => ?_))
    exact Moving.modify (fun _ => ⟨rfl, rfl⟩)

theorem Engine.Sound.moving_setFirst (sound : engine.Sound dbase ext) (group : Str)
    : Moving dbase ext (engine.setFirstArticleInGroup group) := by
  refine Moving.bind (Moving.modify (fun _ => ⟨rfl, rfl⟩)) (fun _ => ?_)
  refine Moving.bind (sound.asks _ _ _ rfl).listing.moving (fun rows => ?_)
  split
  · exact Moving.modify (fun _ => ⟨rfl, rfl⟩)
  · exact (Listing.pure _).moving

theorem Engine.Sound.answers_groupRows (sound : engine.Sound dbase ext)
    (rounds : List Newsgroup → List Newsgroup) (group : Str)
    : Answers dbase ext (engine.groupRows rounds group) := by
  have rest (g : Newsgroup)
      : Moving dbase ext
          (modify (fun s =>
              { s with
                selectedGroup := some g.name, selectedArticle := none, foundGroup := true })
            >>= fun _ => engine.setFirstArticleInGroup g.name : Srv Unit) :=
    Moving.bind (Moving.modify (fun _ => ⟨rfl, rfl⟩)) (fun _ => sound.moving_setFirst g.name)
  have moves (g : Newsgroup) : Moving dbase ext (engine.groupRow g) :=
    Moving.bind (Listing.toSend _).moving (fun _ => rest g)
  refine Answers.get_bind (fun old => ?_)
  refine Answers.bind_lookup (Lookup.modify (fun _ => rfl)) (fun _ => ?_)
  refine Answers.bind_lookup (sound.asks _ _ _ rfl) (fun rows => ?_)
  have looped : Answers dbase ext ((rounds rows).forM engine.groupRow) :=
    Answers.forM _ (fun g => (Begins.append_bind rfl (rest g)).answers) moves
  refine looped.bind (fun _ => ?_) (fun _ => ?_)
  · exact Answers.of_lookup (Lookup.modify (fun _ => rfl))
  · exact Moving.modify (fun _ => ⟨rfl, rfl⟩)

theorem Engine.Sound.moving_listgroup (sound : engine.Sound dbase ext) (group : Str)
    : Moving dbase ext (engine.listgroup group) := by
  refine Moving.bind (sound.asks _ _ _ rfl).listing.moving (fun rows => ?_)
  refine Moving.bind (Moving.forM rows (fun row => (Listing.toSendRow _ _).moving)) (fun _ => ?_)
  refine Moving.bind (Moving.modify (fun _ => ⟨rfl, rfl⟩)) (fun _ => ?_)
  exact (Listing.toSend _).moving

theorem Engine.Sound.writing_insert (sound : engine.Sound dbase ext) (sqlCmd : String)
    (names : List Str) (op : Stmt) (ok : op.Result → Bool)
    : Writing dbase ext (engine.insert sqlCmd names op ok) :=
  (sound.writes _ _ _).bind (fun _ => (Lookup.pure _).writing.ite Lookup.killThread.writing)

theorem Engine.Sound.writing_updateHigh (sound : engine.Sound dbase ext) (n : Nat) (group : Str)
    : Writing dbase ext (engine.postUpdateHighValue n group) :=
  (sound.writes _ _ _).bind (fun _ => (Lookup.pure _).writing)

end Engines

section Mysql

variable {servers : DbServers} {ext : Extern}

/-- MySQL performs the statement, or what it misreads it as. -/
theorem mysqlSrv_within (single : servers.SingleStatements) (names : List Str) (op : Stmt)
    (error : Exit)
    : (mysqlRealQuery servers.mysql error names op).Within
        (fun other : Stmt => op.isQuery = true → other.isQuery = true) (· = error) := by
  unfold mysqlRealQuery
  split
  · exact ⟨fun query => query, fun _ => trivial⟩
  · exact single.mysql Exit error op

theorem sound_mysql (single : servers.SingleStatements)
    : (mysqlEngine servers.mysql).Sound .mysql ext where
  asks _ names op query :=
    Lookup.within (fun r =>
      (mysqlSrv_within single names op (.killThread r.sent)).mono (fun _ kind => kind query))
  writes _ names op :=
    Writing.within (fun r =>
      (mysqlSrv_within single names op (.killThread r.sent)).mono (fun _ _ => trivial))

theorem lookup_mysqlSrv (single : servers.SingleStatements) (names : List Str) {op : Stmt}
    (query : op.isQuery = true)
    : Lookup .mysql ext (mysqlSrv servers.mysql names op) :=
  (sound_mysql single).asks "" names op query

/-- The functions of MySQL. -/
theorem frames_mysql (single : servers.SingleStatements) (ext : Extern)
    : (SrvBackend.mysql servers.mysql).Frames ext where
  getHighValue _ group := (sound_mysql single).getHighValue group
  chkIfMsgidExists group msgid := (sound_mysql single).chkIfMsgidExists group msgid
  checkNewsgroupPostingAllowed := (sound_mysql single).chkNewsgroupPostingAllowed
  checkNewsgroupExistence := (sound_mysql single).chkNewsgroupExistence
  aclCheckUserGroup user group :=
    lookup_acl (lookup_mysqlSrv single _ rfl) (lookup_mysqlSrv single _ rfl)
  list cfg cmdtyp wildmat := by
    refine Listing.bind (lookup_mysqlSrv single _ rfl).listing (fun rows => ?_)
    have visible (user : Option Str) (g : Newsgroup)
        : Lookup .mysql ext (mysqlVisible servers.mysql cfg user g.name) := by
      apply Lookup.ite _ (Lookup.pure _)
      cases user with
      | none => exact Lookup.crash
      | some user =>
          exact lookup_acl (lookup_mysqlSrv single _ rfl) (lookup_mysqlSrv single _ rfl)
    refine Listing.forM rows (fun g => Listing.get_bind (fun r => ?_))
    refine Listing.bind (visible r.curAuthUser g).listing (fun shown => ?_)
    exact (listing_sendListLine cmdtyp wildmat g).ite (Listing.pure _)
  xhdr part group msgid min max := by
    cases msgid with
    | none => exact listing_xhdr (lookup_mysqlSrv single _ rfl)
    | some msgid => exact listing_xhdr (lookup_mysqlSrv single _ rfl)
  xover group min max :=
    Listing.bind (lookup_mysqlSrv single _ rfl).listing (listing_xoverRows 0)
  article cfg group type := by
    have asks (article : Option Str)
        : Lookup .mysql ext (mysqlArticleRows servers.mysql group article type) := by
      cases type with
      | messageId param => exact lookup_mysqlSrv single _ rfl
      | number param => exact lookup_mysqlSrv single _ rfl
      | current => exact lookup_mysqlSrv single _ rfl
    refine Answers.get_bind (fun r => Answers.bind_lookup (asks _) (fun rows => ?_))
    split
    · exact ((sound_mysql single).begins_articleRow (fun _ => Lookup.crash) cfg _).answers
    · exact Answers.of_lookup (Lookup.pure _)
  group name := (sound_mysql single).answers_groupRows _ name
  listgroup name := (sound_mysql single).moving_listgroup name
  storeMessageBody _ _ := Lookup.crash.writing
  dbGetUniqnum := Lookup.crash.writing
  postInsertIntoPostings row := by
    have inserts : Writing .mysql ext (mysqlInsertPosting servers.mysql row) := by
      unfold mysqlInsertPosting
      split
      · exact Writing.sql _
      · exact Writing.within (fun r =>
          (single.mysql Exit (.killThread r.sent) (.insertPosting row)).mono (fun _ _ => trivial))
    exact inserts.bind (fun _ => (Lookup.pure _).writing.ite Lookup.killThread.writing)
  postInsertIntoNgposts _ _ _ := (sound_mysql single).writing_insert _ _ _ _
  postUpdateHighValue n newsgroup := (sound_mysql single).writing_updateHigh n newsgroup

end Mysql

section Postgres

variable {servers : DbServers} {ext : Extern}

/-- PostgreSQL performs the statement or refuses it. -/
theorem pqExecParams_within (sqlCmd : String) (params : List Str) (op : Stmt) (error : Exit)
    : (pqExecParams error sqlCmd params op).Within
        (fun other : Stmt => op.isQuery = true → other.isQuery = true) (· = error) := by
  unfold pqExecParams
  split
  · exact ⟨fun query => query, fun _ => trivial⟩
  · rfl

theorem sound_postgres : postgresEngine.Sound .postgres ext where
  asks sqlCmd names op query :=
    Lookup.within (fun r =>
      (pqExecParams_within sqlCmd names op (.killThread r.sent)).mono (fun _ kind => kind query))
  writes sqlCmd names op :=
    Writing.within (fun r =>
      (pqExecParams_within sqlCmd names op (.killThread r.sent)).mono (fun _ _ => trivial))

theorem lookup_postgresSrv (sqlCmd : String) (params : List Str) (op : Stmt)
    (query : op.isQuery = true)
    : Lookup .postgres ext (postgresSrv sqlCmd params op) :=
  sound_postgres.asks sqlCmd params op query

theorem lookup_xhdrGet (single : servers.SingleStatements) (sqlCmd : String)
    (params names : List Str) {op : Stmt} (query : op.isQuery = true)
    : Lookup .postgres ext (xhdrGet servers.postgres sqlCmd params names op) := by
  by_cases quoted : names.all (fun name => !name.contains '\'') = true
  · have same : xhdrGet servers.postgres sqlCmd params names op = postgresSrv sqlCmd params op := by
      funext r
      simp only [xhdrGet, quoted, if_true]
    rw [same]
    exact lookup_postgresSrv sqlCmd params op query
  · have same : xhdrGet servers.postgres sqlCmd params names op
        = fun r => servers.postgres.misread Exit (.killThread r.sent) op
            >>= fun a => pure (a, r) := by
      funext r
      simp only [xhdrGet, quoted, Bool.false_eq_true, if_false]
    rw [same]
    exact Lookup.within (fun r =>
      (single.postgres Exit (.killThread r.sent) op).mono (fun _ kind => kind query))

-- the texts of the statements are not to be evaluated
attribute [local irreducible] postgresSrv

theorem lookup_dbPostgresAcl (user group : Str)
    : Lookup .postgres ext (dbPostgresAclCheckUserGroup user group) :=
  lookup_acl (lookup_postgresSrv _ _ (.selectAclUsers user group) rfl)
    (lookup_postgresSrv _ _ (.selectAclRoles user group) rfl)

theorem listing_dbPostgresList (cfg : Config) (cmdtyp : ListCmdtyp) (wildmat : Option Str)
    : Listing .postgres ext (dbPostgresList ext cfg cmdtyp wildmat) := by
  refine Listing.bind (lookup_postgresSrv _ _ .selectNewsgroups rfl).listing (fun rows => ?_)
  refine Listing.forM rows (fun g => ?_)
  exact Lookup.crash.listing.ite (listing_sendListLine cmdtyp wildmat g)

theorem listing_dbPostgresXhdr (single : servers.SingleStatements) (part : XhdrPart)
    (group : Str) (msgid : Option Str) (min max : Nat)
    : Listing .postgres ext (dbPostgresXhdr servers.postgres ext part group msgid min max) := by
  cases msgid with
  | none => exact listing_xhdr (lookup_xhdrGet single _ _ _ rfl)
  | some msgid => exact listing_xhdr (lookup_xhdrGet single _ _ _ rfl)

theorem listing_dbPostgresXover (group : Str) (min max : Nat)
    : Listing .postgres ext (dbPostgresXover servers.postgres ext group min max) := by
  apply Listing.ite _ Lookup.killThread.listing
  exact Listing.bind (lookup_postgresSrv _ _ (.selectOverview group min max) rfl).listing
    (listing_xoverRows _)

theorem answers_dbPostgresArticle (cfg : Config) (group : Str) (type : Artcltyp)
    : Answers .postgres ext (dbPostgresArticle servers.postgres cfg group type) := by
  have compares (param : Str)
      : Lookup .postgres ext (postgresPostnum servers.postgres group param) := by
    unfold postgresPostnum
    split
    · exact Lookup.killThread
    · exact lookup_postgresSrv _ _ (.selectNgpostsPostnum group param) rfl
  have asks (article : Option Str)
      : Lookup .postgres ext (postgresArticleRows servers.postgres group article type) := by
    cases type with
    | messageId param => exact lookup_postgresSrv _ _ (.selectNgpostsMsgid group param) rfl
    | number param => exact compares _
    | current => exact compares _
  have loads (messageId : Str)
      : Lookup .postgres ext (dbPostgresLoadMessageBody messageId) :=
    lookup_postgresSrv _ _ (.bodyRead messageId) rfl
  refine Answers.get_bind (fun r => Answers.bind_lookup (asks _) (fun rows => ?_))
  split
  · exact (sound_postgres.begins_articleRow loads cfg _).answers
  · exact Answers.of_lookup (Lookup.pure _)

theorem writing_dbPostgresStoreMessageBody (messageId body : Str)
    : Writing .postgres ext (dbPostgresStoreMessageBody messageId body) := by
  refine Writing.bind (Writing.sql _) (fun old => Lookup.killThread.writing.ite ?_)
  refine Writing.bind (sound_postgres.writes _ _ _) (fun ok => ?_)
  exact (Lookup.pure _).writing.ite Lookup.killThread.writing

/-- The functions of PostgreSQL. -/
theorem frames_postgres (single : servers.SingleStatements) (ext : Extern)
    : (SrvBackend.postgres servers.postgres).Frames ext where
  getHighValue _ group := sound_postgres.getHighValue group
  chkIfMsgidExists group msgid := sound_postgres.chkIfMsgidExists group msgid
  checkNewsgroupPostingAllowed := sound_postgres.chkNewsgroupPostingAllowed
  checkNewsgroupExistence := sound_postgres.chkNewsgroupExistence
  aclCheckUserGroup := lookup_dbPostgresAcl
  list := listing_dbPostgresList
  xhdr := listing_dbPostgresXhdr single
  xover := listing_dbPostgresXover
  article := answers_dbPostgresArticle
  group name := sound_postgres.answers_groupRows _ name
  listgroup name := sound_postgres.moving_listgroup name
  storeMessageBody := writing_dbPostgresStoreMessageBody
  dbGetUniqnum :=
    (Writing.sql _).bind (fun _ => (Writing.sql _).bind (fun _ => (Lookup.pure _).writing))
  postInsertIntoPostings _ := sound_postgres.writing_insert _ _ _ _
  postInsertIntoNgposts _ _ _ := sound_postgres.writing_insert _ _ _ _
  postUpdateHighValue n newsgroup := sound_postgres.writing_updateHigh n newsgroup

end Postgres

/-- The functions of each backend. -/
theorem frames {servers : DbServers} (single : servers.SingleStatements) (dbase : Dbase)
    (ext : Extern)
    : (srvBackend servers dbase).Frames ext := by
  cases dbase with
  | sqlite3 => exact frames_sqlite3 ext
  | mysql => exact frames_mysql single ext
  | postgres => exact frames_postgres single ext

end WendzelNNTPd
