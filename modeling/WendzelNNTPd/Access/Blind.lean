import WendzelNNTPd.Lib.TwoRuns
import WendzelNNTPd.Server.Backends

/-! What the functions of a backend do not look at. Several fields of a session are left over
from earlier commands; a function that reads one of them finds in it only what was put there
for this call.
-/

namespace WendzelNNTPd

open CString Atomic

/-- The part of a session that the next command can depend on. The rest is overwritten before it
is read; LISTGROUP reads `found_article` on SQLite only, and of `speccmd` matters only whether
it is `SPECCMD_DATE`. -/
structure View where
  authIsThere : Bool
  curAuthUser : Option Str
  curAuthPass : Option Str
  selectedGroup : Option Str
  selectedArticle : Option Str
  curstring : List Piece
  sent : List Piece
  tlsActive : Bool
  switchToTls : Bool
  date : Bool
  foundArticle : Bool

def Session.view (dbase : Dbase) (r : Session) : View where
  authIsThere := r.authIsThere
  curAuthUser := r.curAuthUser
  curAuthPass := r.curAuthPass
  selectedGroup := r.selectedGroup
  selectedArticle := r.selectedArticle
  curstring := r.curstring
  sent := r.sent
  tlsActive := r.tlsActive
  switchToTls := r.switchToTls
  date := decide (r.speccmd = .date)
  foundArticle := decide (dbase = .sqlite3) && r.foundArticle

/-- Two sessions that are the same to the next command; `K` is what is known of the password
and of TLS. -/
structure Session.Like (dbase : Dbase) (K : Option Str → Bool → Bool → Prop) (r r' : Session)
    : Prop where
  view : r.view dbase = r'.view dbase
  known : K r.curAuthPass r.tlsActive r.switchToTls

namespace Session.Like

variable {dbase : Dbase} {K : Option Str → Bool → Bool → Prop} {r r' : Session}

theorem authIsThere (like : Like dbase K r r') : r.authIsThere = r'.authIsThere :=
  congrArg View.authIsThere like.view

theorem curAuthUser (like : Like dbase K r r') : r.curAuthUser = r'.curAuthUser :=
  congrArg View.curAuthUser like.view

theorem selectedGroup (like : Like dbase K r r') : r.selectedGroup = r'.selectedGroup :=
  congrArg View.selectedGroup like.view

theorem selectedArticle (like : Like dbase K r r') : r.selectedArticle = r'.selectedArticle :=
  congrArg View.selectedArticle like.view

theorem curstring (like : Like dbase K r r') : r.curstring = r'.curstring :=
  congrArg View.curstring like.view

theorem sent (like : Like dbase K r r') : r.sent = r'.sent := congrArg View.sent like.view

theorem tlsActive (like : Like dbase K r r') : r.tlsActive = r'.tlsActive :=
  congrArg View.tlsActive like.view

theorem date (like : Like dbase K r r') : r.speccmd = .date ↔ r'.speccmd = .date := by
  have same : decide (r.speccmd = .date) = decide (r'.speccmd = .date) :=
    congrArg View.date like.view
  simpa using same

end Session.Like

section Rules

variable {dbase : Dbase} {ext : Extern} {P : Session → Session → Prop} {α β : Type}

/-- A relation of sessions that have been sent the same, and that stay related when both replies
grow by the same pieces. -/
class Sees (P : Session → Session → Prop) : Prop where
  sent : ∀ r r', P r r' → r.sent = r'.sent
  append : ∀ r r' pieces, P r r' →
    P { r with curstring := r.curstring ++ pieces } { r' with curstring := r'.curstring ++ pieces }

/-- The handler does the same from two related sessions, and they are related again. -/
def Blinded (dbase : Dbase) (ext : Extern) (P : Session → Session → Prop) (m : Srv α) : Prop :=
  Blind (execOn dbase ext) P P m m

theorem Blinded.pure (a : α) : Blinded dbase ext P (Pure.pure a : Srv α) := Blind.pure a

theorem Blinded.bind {m : Srv β} {f : β → Srv α} (first : Blinded dbase ext P m)
    (rest : ∀ b, Blinded dbase ext P (f b))
    : Blinded dbase ext P (m >>= f) :=
  Blind.bind first rest

theorem Blinded.ite {c : Prop} [Decidable c] {m n : Srv α} (yes : Blinded dbase ext P m)
    (no : Blinded dbase ext P n)
    : Blinded dbase ext P (if c then m else n) :=
  Blind.ite yes no

theorem Blinded.forM {γ : Type} {f : γ → Srv PUnit} (l : List γ)
    (round : ∀ x, Blinded dbase ext P (f x))
    : Blinded dbase ext P (l.forM f) :=
  Blind.forM l round

theorem Blinded.read {f : Session → Srv α}
    (rest : ∀ r r', P r r' → Blind (execOn dbase ext) P P (f r) (f r'))
    : Blinded dbase ext P (get >>= f) :=
  Blind.read rest

theorem Blinded.modify {g : Session → Session} (kept : ∀ r r', P r r' → P (g r) (g r'))
    : Blinded dbase ext P (modify g) :=
  Blind.modify kept

theorem Blinded.crash : Blinded dbase ext P (crash : Srv α) := Blind.stop (fun _ _ _ => rfl)

theorem Blinded.sql (op : Stmt) : Blinded dbase ext P (sql op) := by
  intro r s r' s' start
  obtain ⟨related, rfl⟩ := start
  exact ⟨rfl, related, rfl⟩

variable [Sees P]

theorem Blinded.killThread : Blinded dbase ext P (killThread : Srv α) :=
  Blind.stop (fun r r' related => congrArg Exit.killThread (Sees.sent r r' related))

/-- A program whose errors end the connection. -/
theorem Blinded.program {p : Exit → Prog Sql Exit α}
    : Blinded dbase ext P
        (fun r : Session => p (.killThread r.sent) >>= fun a => Pure.pure (a, r) : Srv α) :=
  Blind.program (p := fun r : Session => p (.killThread r.sent))
    (fun r r' related => congrArg p (congrArg Exit.killThread (Sees.sent r r' related)))

theorem Blinded.toSend (text : Str) : Blinded dbase ext P (toSend text) :=
  Blind.modify (fun r r' related => Sees.append r r' _ related)

theorem Blinded.toSendRow (row : Ngpost) (text : Str)
    : Blinded dbase ext P (toSendRow row text) :=
  Blind.modify (fun r r' related => Sees.append r r' _ related)

end Rules

/-- The sessions have the same selection and agree on whether `speccmd` is `SPECCMD_DATE`; they
stay related when it changes alike in both. -/
class SeesDate (P : Session → Session → Prop) : Prop extends Sees P where
  selectedGroup : ∀ r r', P r r' → r.selectedGroup = r'.selectedGroup
  selectedArticle : ∀ r r', P r r' → r.selectedArticle = r'.selectedArticle
  date : ∀ r r', P r r' → (r.speccmd = .date ↔ r'.speccmd = .date)
  speccmd : ∀ r r' cmd cmd', P r r' → (cmd = .date ↔ cmd' = .date) →
    P { r with speccmd := cmd } { r' with speccmd := cmd' }

section Like

variable {dbase : Dbase} {ext : Extern} {K : Option Str → Bool → Bool → Prop}

instance : SeesDate (Session.Like dbase K) where
  sent _ _ like := like.sent
  append _ _ pieces like :=
    ⟨congrArg (fun v : View => { v with curstring := v.curstring ++ pieces }) like.view,
      like.known⟩
  selectedGroup _ _ like := like.selectedGroup
  selectedArticle _ _ like := like.selectedArticle
  date _ _ like := like.date
  speccmd r r' cmd cmd' like same := by
    have flag : decide (cmd = Speccmd.date) = decide (cmd' = Speccmd.date) :=
      decide_eq_decide.mpr same
    have both : { r.view dbase with date := decide (cmd = Speccmd.date) }
        = { r'.view dbase with date := decide (cmd' = Speccmd.date) } := by
      rw [like.view, flag]
    exact ⟨both, like.known⟩

/-- A change of the session that is one of what the next command depends on. -/
theorem blinded_change {g : Session → Session} (f : View → View)
    (changes : ∀ r, (g r).view dbase = f (r.view dbase))
    (kept : ∀ r, (g r).curAuthPass = r.curAuthPass ∧ (g r).tlsActive = r.tlsActive
      ∧ (g r).switchToTls = r.switchToTls)
    : Blinded dbase ext (Session.Like dbase K) (modify g) := by
  apply Blinded.modify
  intro r r' like
  constructor
  · rw [changes r, changes r', like.view]
  · rw [(kept r).1, (kept r).2.1, (kept r).2.2]
    exact like.known

/-- A change of the rest. -/
theorem blinded_rest {g : Session → Session} (same : ∀ r, (g r).view dbase = r.view dbase)
    : Blinded dbase ext (Session.Like dbase K) (modify g) := by
  apply blinded_change id same
  intro r
  exact ⟨congrArg View.curAuthPass (same r), congrArg View.tlsActive (same r),
    congrArg View.switchToTls (same r)⟩

/-- While an article is sent, the kind of the command and whether there is an article are the
same, too. -/
structure Session.Reading (dbase : Dbase) (K : Option Str → Bool → Bool → Prop) (r r' : Session)
    : Prop where
  like : r.Like dbase K r'
  cmdtype : r.cmdtype = r'.cmdtype
  foundArticle : r.foundArticle = r'.foundArticle

instance : Sees (Session.Reading dbase K) where
  sent _ _ reading := reading.like.sent
  append r r' pieces reading :=
    ⟨Sees.append r r' pieces reading.like, reading.cmdtype, reading.foundArticle⟩

/-- While newsgroups are listed, the kind of the listing and the wildmat are the same, too. -/
structure Session.Listing (dbase : Dbase) (K : Option Str → Bool → Bool → Prop) (r r' : Session)
    : Prop where
  like : r.Like dbase K r'
  speccmd : r.speccmd = r'.speccmd
  wildmat : r.wildmat = r'.wildmat

instance : Sees (Session.Listing dbase K) where
  sent _ _ listing := listing.like.sent
  append r r' pieces listing :=
    ⟨Sees.append r r' pieces listing.like, listing.speccmd, listing.wildmat⟩

end Like

section Reading

variable {dbase : Dbase} {ext : Extern} {K : Option Str → Bool → Bool → Prop}

theorem blinded_articleCbCb2 (row : Ngpost) (header : Str)
    : Blinded dbase ext (Session.Reading dbase K) (articleCbCb2 row header) := by
  refine Blinded.read (fun r r' reading => ?_)
  rw [← reading.cmdtype]
  split
  · exact (Blinded.toSendRow _ _).bind (fun _ => Blinded.toSendRow _ _)
  · exact (Blinded.toSendRow _ _).bind (fun _ => Blinded.toSendRow _ _)
  · exact Blinded.pure _

/-- The rows of ARTICLE differ in how they send the header and the body. -/
theorem blinded_row {header body : Cmdtype → Ngpost → Srv Unit}
    (sendsHeader : ∀ cmdtype row, Blinded dbase ext (Session.Reading dbase K) (header cmdtype row))
    (sendsBody : ∀ cmdtype row, Blinded dbase ext (Session.Reading dbase K) (body cmdtype row))
    (row : Ngpost)
    : Blinded dbase ext (Session.Reading dbase K)
        (do
          modify (fun s => { s with selectedArticle := some (dec row.postnum) })
          let s ← get
          toSendRow row (articleReply s.cmdtype row)
          header s.cmdtype row
          body s.cmdtype row
          modify (fun s => { s with foundArticle := true }) : Srv Unit) := by
  have selects : Blinded dbase ext (Session.Reading dbase K)
      (modify (fun s => { s with selectedArticle := some (dec row.postnum) })) := by
    apply Blinded.modify
    intro r r' reading
    refine ⟨⟨?_, reading.like.known⟩, reading.cmdtype, reading.foundArticle⟩
    exact congrArg (fun v : View => { v with selectedArticle := some (dec row.postnum) })
      reading.like.view
  have finds : Blinded dbase ext (Session.Reading dbase K)
      (modify (fun s => { s with foundArticle := true })) := by
    apply Blinded.modify
    intro r r' reading
    refine ⟨⟨?_, reading.like.known⟩, reading.cmdtype, rfl⟩
    exact congrArg
      (fun v : View => { v with foundArticle := decide (dbase = Dbase.sqlite3) && true })
      reading.like.view
  refine Blinded.bind selects (fun _ => Blinded.read (fun r r' reading => ?_))
  rw [← reading.cmdtype]
  refine Blinded.bind (Blinded.toSendRow _ _) (fun _ => ?_)
  refine Blinded.bind (sendsHeader _ _) (fun _ => ?_)
  exact Blinded.bind (sendsBody _ _) (fun _ => finds)

end Reading

-----------------------------------------------------------------------------------------
-- The functions of the backends
-----------------------------------------------------------------------------------------

/-- What the functions of a backend do not look at. The checks of a newsgroup look at `chkname`,
which the caller has set; ARTICLE looks at `cmdtype`. -/
structure SrvBackend.Blinds (db : SrvBackend) (ext : Extern)
    (K : Option Str → Bool → Bool → Prop)
    : Prop where
  authinfoCheck : Blinded db.dbase ext (Session.Like db.dbase K) db.authinfoCheck
  list : ∀ cfg cmdtyp wildmat, Blinded db.dbase ext (Session.Like db.dbase K) (db.list ext cfg cmdtyp wildmat)
  xhdr : ∀ part group msgid min max,
    Blinded db.dbase ext (Session.Like db.dbase K) (db.xhdr ext part group msgid min max)
  xover : ∀ group min max, Blinded db.dbase ext (Session.Like db.dbase K) (db.xover ext group min max)
  article : ∀ cfg group type,
    Blinded db.dbase ext (Session.Reading db.dbase K) (db.article cfg group type)
  group : ∀ name, Blinded db.dbase ext (Session.Like db.dbase K) (db.group name)
  listgroup : ∀ name, Blinded db.dbase ext (Session.Like db.dbase K) (db.listgroup name)
  getHighValue : ∀ env group, Blinded db.dbase ext (Session.Like db.dbase K) (db.getHighValue env group)
  chkIfMsgidExists : ∀ group msgid, Blinded db.dbase ext (Session.Like db.dbase K) (db.chkIfMsgidExists group msgid)
  checkNewsgroupPostingAllowed :
    Blind (execOn db.dbase ext)
      (fun r r' => r.Like db.dbase K r' ∧ r.chkname = r'.chkname)
      (fun r r' => r.Like db.dbase K r' ∧ r.foundGroup = r'.foundGroup)
      db.checkNewsgroupPostingAllowed db.checkNewsgroupPostingAllowed
  checkNewsgroupExistence :
    Blind (execOn db.dbase ext)
      (fun r r' => r.Like db.dbase K r' ∧ r.chkname = r'.chkname)
      (fun r r' => r.Like db.dbase K r' ∧ r.foundGroup = r'.foundGroup)
      db.checkNewsgroupExistence db.checkNewsgroupExistence
  aclCheckUserGroup : ∀ user group, Blinded db.dbase ext (Session.Like db.dbase K) (db.aclCheckUserGroup user group)
  storeMessageBody : ∀ messageId body, Blinded db.dbase ext (Session.Like db.dbase K) (db.storeMessageBody messageId body)
  dbGetUniqnum : Blinded db.dbase ext (Session.Like db.dbase K) db.dbGetUniqnum
  postInsertIntoPostings : ∀ row, Blinded db.dbase ext (Session.Like db.dbase K) (db.postInsertIntoPostings row)
  postInsertIntoNgposts :
    ∀ messageId newsgroup n, Blinded db.dbase ext (Session.Like db.dbase K) (db.postInsertIntoNgposts messageId newsgroup n)
  postUpdateHighValue : ∀ n newsgroup, Blinded db.dbase ext (Session.Like db.dbase K) (db.postUpdateHighValue n newsgroup)

section Common

variable {dbase : Dbase} {ext : Extern} {K : Option Str → Bool → Bool → Prop}

/-- The login checks differ in their query only. -/
theorem blinded_authinfoCheck {query : Str → Str → Srv (List User)}
    (asks : ∀ user pass, Blinded dbase ext (Session.Like dbase K) (query user pass))
    : Blinded dbase ext (Session.Like dbase K)
        (do
          let s ← get
          match s.curAuthUser, s.curAuthPass with
          | some user, some pass => do
              let rows ← query user pass
              modify (fun s => { s with authIsThere := s.authIsThere || !rows.isEmpty })
          | _, _ => crash : Srv Unit) := by
  refine Blinded.read (fun r r' like => ?_)
  have user : r.curAuthUser = r'.curAuthUser := like.curAuthUser
  have pass : r.curAuthPass = r'.curAuthPass := congrArg View.curAuthPass like.view
  rw [← user, ← pass]
  split
  · refine Blinded.bind (asks _ _) (fun rows => ?_)
    exact blinded_change (fun v => { v with authIsThere := v.authIsThere || !rows.isEmpty })
      (fun _ => rfl) (fun _ => ⟨rfl, rfl, rfl⟩)
  · exact Blinded.crash

/-- So do the checks of a newsgroup. -/
theorem blind_found {query : Str → Srv (List Newsgroup)}
    (asks : ∀ name, Blinded dbase ext (Session.Like dbase K) (query name))
    : Blind (execOn dbase ext)
        (fun r r' => r.Like dbase K r' ∧ r.chkname = r'.chkname)
        (fun r r' => r.Like dbase K r' ∧ r.foundGroup = r'.foundGroup)
        (do
          modify (fun s => { s with foundGroup := false })
          let s ← get
          match s.chkname with
          | none => crash
          | some name => do
              let rows ← query name
              modify (fun s => { s with foundGroup := !rows.isEmpty }) : Srv Unit)
        (do
          modify (fun s => { s with foundGroup := false })
          let s ← get
          match s.chkname with
          | none => crash
          | some name => do
              let rows ← query name
              modify (fun s => { s with foundGroup := !rows.isEmpty }) : Srv Unit) := by
  refine Blind.bind (R := fun r r' => r.Like dbase K r' ∧ r.chkname = r'.chkname)
    (Blind.modify (fun r r' like => ⟨⟨like.1.view, like.1.known⟩, like.2⟩)) (fun _ => ?_)
  refine Blind.read (fun r r' like => ?_)
  rw [← like.2]
  cases r.chkname with
  | none => exact Blind.stop (fun _ _ _ => rfl)
  | some name =>
      refine Blind.bind ((asks name).weaken (fun _ _ like => like.1) (fun _ _ like => like))
        (fun rows => ?_)
      exact Blind.modify (fun r r' like => ⟨⟨like.view, like.known⟩, rfl⟩)

theorem blinded_acl {P : Session → Session → Prop} {direct : Srv (List AclUser)}
    {viaRole : Srv (List (User2Role × AclRole))} (first : Blinded dbase ext P direct)
    (second : Blinded dbase ext P viaRole)
    : Blinded dbase ext P
        (do
          let rows ← direct
          if rows.isEmpty then do
            let rows ← viaRole
            pure (!rows.isEmpty)
          else pure true : Srv Bool) :=
  first.bind (fun _ => (second.bind (fun _ => Blinded.pure _)).ite (Blinded.pure _))

theorem blinded_xhdrCb {P : Session → Session → Prop} [SeesDate P] (part : XhdrPart)
    (row : Ngpost × Posting)
    : Blinded dbase ext P (xhdrCb ext part row) := by
  refine Blinded.read (fun r r' related => ?_)
  have value : (if r.speccmd = .date then ext.localtimeToStr (atol (row.2.column part))
        else row.2.column part)
      = (if r'.speccmd = .date then ext.localtimeToStr (atol (row.2.column part))
        else row.2.column part) := by
    simp only [SeesDate.date r r' related]
  simp only [value]
  exact Blinded.toSendRow _ _

/-- XHDR for the date sets `speccmd`, other fields leave it as it was. -/
theorem blinded_setDate {P : Session → Session → Prop} [SeesDate P] (part : XhdrPart)
    : Blinded dbase ext P
        (modify (fun s => { s with speccmd := if part = .date then .date else s.speccmd })) := by
  apply Blinded.modify
  intro r r' related
  apply SeesDate.speccmd r r' _ _ related
  split
  · exact Iff.rfl
  · exact SeesDate.date r r' related

/-- The loops of XHDR differ in their query only. -/
theorem blinded_xhdr {P : Session → Session → Prop} [SeesDate P] {part : XhdrPart}
    {query : Srv (List (Ngpost × Posting))} (asks : Blinded dbase ext P query)
    : Blinded dbase ext P
        (do
          modify (fun s => { s with speccmd := if part = .date then .date else s.speccmd })
          let rows ← query
          rows.forM (xhdrCb ext part)
          modify (fun s => { s with speccmd := .cleared }) : Srv Unit) := by
  refine Blinded.bind (blinded_setDate part) (fun _ => Blinded.bind asks (fun rows => ?_))
  refine Blinded.bind (Blinded.forM rows (blinded_xhdrCb part)) (fun _ => ?_)
  exact Blinded.modify (fun r r' related => SeesDate.speccmd r r' _ _ related Iff.rfl)

theorem blinded_xoverRows (postlen : Int) (rows : List (Ngpost × Posting))
    : Blinded dbase ext (Session.Like dbase K) (xoverRows ext postlen rows) := by
  induction rows generalizing postlen with
  | nil => exact Blinded.pure _
  | cons row rest ih => exact (Blinded.toSendRow _ _).bind (fun _ => ih _)

theorem blinded_sendListLine (cmdtyp : ListCmdtyp) (wildmat : Option Str) (g : Newsgroup)
    : Blinded dbase ext (Session.Like dbase K) (sendListLine ext cmdtyp wildmat g) := by
  unfold sendListLine
  split
  · exact Blinded.toSend _
  · exact Blinded.pure _

theorem blinded_filebackendRetrbody {P : Session → Session → Prop} (messageId : Str)
    : Blinded dbase ext P (filebackendRetrbody messageId) :=
  (Blinded.sql _).bind (fun _ => Blinded.pure _)

end Common

section Sqlite3

variable {ext : Extern} {K : Option Str → Bool → Bool → Prop}

theorem blinded_listCb (cfg : Config) (g : Newsgroup)
    : Blinded .sqlite3 ext (Session.Listing .sqlite3 K) (listCb ext cfg g) := by
  have acl (user : Option Str)
      : Blinded .sqlite3 ext (Session.Listing .sqlite3 K) (aclCheckIfUsed cfg user g.name) := by
    apply Blinded.ite _ (Blinded.pure _)
    cases user with
    | none => exact Blinded.pure _
    | some user => exact blinded_acl (Blinded.sql _) (Blinded.sql _)
  refine Blinded.read (fun r r' listing => ?_)
  rw [← listing.like.curAuthUser, ← listing.speccmd, ← listing.wildmat]
  refine Blinded.bind (acl _) (fun visible => ?_)
  apply Blinded.ite _ (Blinded.pure _)
  split
  · exact (Blinded.toSend _).ite (Blinded.pure _)
  · exact (Blinded.toSend _).ite (Blinded.pure _)
  · exact Blinded.toSend _

theorem blinded_articleCb (cfg : Config) (row : Ngpost)
    : Blinded .sqlite3 ext (Session.Reading .sqlite3 K) (articleCb cfg row) := by
  apply blinded_row
  · intro cmdtype row
    apply Blinded.ite _ (Blinded.pure _)
    exact Blinded.bind (Blinded.sql _) (fun headers => Blinded.forM headers (blinded_articleCbCb2 row))
  · intro cmdtype row
    apply Blinded.ite _ (Blinded.pure _)
    apply Blinded.ite Blinded.crash
    refine Blinded.bind (blinded_filebackendRetrbody _) (fun text => ?_)
    cases text with
    | none => exact Blinded.pure _
    | some text => exact Blinded.toSendRow _ _

/-- LISTGROUP on SQLite counts the articles it selects. -/
theorem blinded_dbListgroup (group : Str)
    : Blinded .sqlite3 ext (Session.Like .sqlite3 K) (dbListgroup group) := by
  have both {r r' : Session} (like : r.Like .sqlite3 K r') : r.foundArticle = r'.foundArticle :=
    congrArg View.foundArticle like.view
  have round (row : Ngpost)
      : Blinded .sqlite3 ext (fun r r' => r.Like .sqlite3 K r' ∧ r.counter = r'.counter)
          (listgroupCb row) := by
    refine Blinded.bind (m := toSendRow row (dec row.postnum ++ "\r\n".toList)) ?_ (fun _ => ?_)
    · apply Blinded.modify
      intro r r' like
      exact ⟨Sees.append r r' _ like.1, like.2⟩
    · apply Blinded.modify
      intro r r' like
      have same := both like.1
      by_cases found : r.foundArticle = true
      · rw [if_pos found, if_pos (same ▸ found)]
        exact like
      · rw [if_neg found, if_neg (same ▸ found)]
        refine ⟨⟨?_, like.1.known⟩, congrArg (· + 1) like.2⟩
        exact congrArg (fun v : View => { v with selectedArticle := some (dec row.postnum) })
          like.1.view
  refine Blind.bind (R := fun r r' => r.Like .sqlite3 K r' ∧ r.counter = r'.counter)
    (Blind.modify (fun r r' like => ⟨⟨like.view, like.known⟩, rfl⟩)) (fun _ => ?_)
  refine Blind.bind (Blinded.sql _) (fun rows => ?_)
  refine Blind.bind (Blinded.forM rows round) (fun _ => ?_)
  refine Blind.bind (R := Session.Like .sqlite3 K) ?_ (fun _ => Blinded.toSend _)
  apply Blind.modify
  intro r r' like
  by_cases none' : r.counter = 0
  · rw [if_pos none', if_pos (like.2 ▸ none')]
    refine ⟨?_, like.1.known⟩
    exact congrArg (fun v : View => { v with selectedArticle := none }) like.1.view
  · rw [if_neg none', if_neg (like.2 ▸ none')]
    exact like.1

theorem blinded_groupCb (g : Newsgroup)
    : Blinded .sqlite3 ext (Session.Like .sqlite3 K) (groupCb g) := by
  refine Blinded.bind (Blinded.toSend _) (fun _ => ?_)
  refine Blinded.bind ?_ (fun _ => ?_)
  · exact blinded_change (fun v =>
      { v with selectedGroup := some g.name, selectedArticle := none })
      (fun _ => rfl) (fun _ => ⟨rfl, rfl, rfl⟩)
  refine Blinded.bind (Blinded.sql _) (fun rows => ?_)
  refine Blinded.bind (Blinded.forM rows (fun n => ?_)) (fun _ => blinded_rest (fun _ => rfl))
  exact blinded_change (fun v => { v with selectedArticle := some (dec n.postnum) })
    (fun _ => rfl) (fun _ => ⟨rfl, rfl, rfl⟩)

/-- The functions of SQLite. -/
theorem blinds_sqlite3 : SrvBackend.sqlite3.Blinds ext K where
  authinfoCheck := blinded_authinfoCheck (fun _ _ => Blinded.sql _)
  list cfg cmdtyp wildmat := by
    refine Blind.bind (R := Session.Listing .sqlite3 K)
      (Blind.modify (fun r r' like => ⟨⟨?_, like.known⟩, rfl, rfl⟩)) (fun _ => ?_)
    · exact congrArg (fun v : View => { v with date := false }) like.view
    refine Blind.bind (Blinded.sql _) (fun rows => ?_)
    refine Blind.bind (Blinded.forM rows (blinded_listCb cfg)) (fun _ => ?_)
    apply Blind.modify
    intro r r' listing
    refine ⟨?_, listing.like.known⟩
    exact congrArg (fun v : View => { v with date := false }) listing.like.view
  xhdr part group msgid min max := by
    cases msgid with
    | none => exact blinded_xhdr (Blinded.sql _)
    | some msgid => exact blinded_xhdr (Blinded.sql _)
  xover group min max :=
    (Blinded.sql _).bind (fun rows => Blinded.forM rows (fun _ => Blinded.toSendRow _ _))
  article cfg group type := by
    refine Blinded.read (fun r r' reading => ?_)
    rw [← reading.like.selectedArticle]
    have rounds (rows : List Ngpost)
        : Blinded .sqlite3 ext (Session.Reading .sqlite3 K) (rows.forM (articleCb cfg)) :=
      Blinded.forM rows (blinded_articleCb cfg)
    cases type with
    | messageId param => exact (Blinded.sql _).bind rounds
    | number param => exact (Blinded.sql _).bind rounds
    | current => exact (Blinded.sql _).bind rounds
  group name := by
    refine Blinded.read (fun old old' _ => ?_)
    refine Blind.bind (Blinded.sql _) (fun rows => ?_)
    refine Blind.bind (blinded_rest (fun _ => rfl)) (fun _ => ?_)
    refine Blind.bind (Blinded.forM rows blinded_groupCb) (fun _ => ?_)
    exact Blind.modify (fun r r' like => ⟨like.view, like.known⟩)
  listgroup := blinded_dbListgroup
  getHighValue _ _ := (Blinded.sql _).bind (fun _ => Blinded.pure _)
  chkIfMsgidExists _ _ := (Blinded.sql _).bind (fun _ => Blinded.pure _)
  checkNewsgroupPostingAllowed := blind_found (fun _ => Blinded.sql _)
  checkNewsgroupExistence := blind_found (fun _ => Blinded.sql _)
  aclCheckUserGroup _ _ := blinded_acl (Blinded.sql _) (Blinded.sql _)
  storeMessageBody _ _ := Blinded.crash
  dbGetUniqnum := Blinded.crash
  postInsertIntoPostings row := by
    have fails : Blinded .sqlite3 ext (Session.Like .sqlite3 K) (secexecError : Srv Unit) :=
      (Blinded.toSend _).bind (fun _ => Blinded.killThread)
    apply Blinded.ite _ fails
    exact (Blinded.sql _).bind (fun ok => (Blinded.pure _).ite fails)
  postInsertIntoNgposts _ _ _ := by
    have fails : Blinded .sqlite3 ext (Session.Like .sqlite3 K) (secexecError : Srv Unit) :=
      (Blinded.toSend _).bind (fun _ => Blinded.killThread)
    exact (Blinded.sql _).bind (fun ok => (Blinded.pure _).ite fails)
  postUpdateHighValue _ _ := (Blinded.sql _).bind (fun _ => Blinded.pure _)

end Sqlite3

section Engines

variable {engine : Engine} {dbase : Dbase} {ext : Extern} {K : Option Str → Bool → Bool → Prop}

/-- An engine whose statements depend on nothing of the session but what a killed client has been
sent. -/
def Engine.Blinds (engine : Engine) (dbase : Dbase) (ext : Extern) : Prop :=
  ∀ (P : Session → Session → Prop) [Sees P] (sqlCmd : String) (names : List Str) (op : Stmt),
    Blinded dbase ext P (engine.perform sqlCmd names op)

theorem Engine.Blinds.articleRow (blinds : engine.Blinds dbase ext)
    {loadBody : Str → Srv (Option Str)}
    (loads : ∀ messageId, Blinded dbase ext (Session.Reading dbase K) (loadBody messageId))
    (cfg : Config) (row : Ngpost)
    : Blinded dbase ext (Session.Reading dbase K) (engine.articleRow loadBody cfg row) := by
  apply blinded_row
  · intro cmdtype row
    apply Blinded.ite _ (Blinded.pure _)
    refine Blinded.bind (blinds _ _ _ _) (fun headers => ?_)
    split
    · exact blinded_articleCbCb2 row _
    · exact Blinded.pure _
  · intro cmdtype row
    apply Blinded.ite _ (Blinded.pure _)
    refine Blinded.bind ((loads _).ite (blinded_filebackendRetrbody _)) (fun body => ?_)
    cases body with
    | none => exact Blinded.pure _
    | some text => exact Blinded.toSendRow _ _

theorem Engine.Blinds.groupRows (blinds : engine.Blinds dbase ext)
    (rounds : List Newsgroup → List Newsgroup) (group : Str)
    : Blinded dbase ext (Session.Like dbase K) (engine.groupRows rounds group) := by
  have selects (article : Option Str)
      : Blinded dbase ext (Session.Like dbase K)
          (modify (fun s => { s with selectedArticle := article })) :=
    blinded_change (fun v => { v with selectedArticle := article })
      (fun _ => rfl) (fun _ => ⟨rfl, rfl, rfl⟩)
  have round (g : Newsgroup)
      : Blinded dbase ext (Session.Like dbase K) (engine.groupRow g) := by
    refine Blinded.bind (Blinded.toSend _) (fun _ => Blinded.bind ?_ (fun _ => ?_))
    · exact blinded_change (fun v =>
        { v with selectedGroup := some g.name, selectedArticle := none })
        (fun _ => rfl) (fun _ => ⟨rfl, rfl, rfl⟩)
    · refine Blinded.bind (selects none) (fun _ => Blinded.bind (blinds _ _ _ _) (fun rows => ?_))
      split
      · exact selects _
      · exact Blinded.pure _
  refine Blinded.read (fun old old' _ => ?_)
  refine Blind.bind (blinded_rest (fun _ => rfl)) (fun _ => ?_)
  refine Blind.bind (blinds _ _ _ _) (fun rows => ?_)
  refine Blind.bind (Blinded.forM _ round) (fun _ => ?_)
  exact Blind.modify (fun r r' like => ⟨like.view, like.known⟩)

theorem Engine.Blinds.listgroup (blinds : engine.Blinds dbase ext) (group : Str)
    : Blinded dbase ext (Session.Like dbase K) (engine.listgroup group) := by
  refine Blinded.bind (blinds _ _ _ _) (fun rows => ?_)
  refine Blinded.bind (Blinded.forM rows (fun row => Blinded.toSendRow _ _)) (fun _ => ?_)
  refine Blinded.bind ?_ (fun _ => Blinded.toSend _)
  exact blinded_change (fun v =>
    { v with selectedArticle := rows.head?.map (fun n => dec n.postnum) })
    (fun _ => rfl) (fun _ => ⟨rfl, rfl, rfl⟩)

theorem Engine.Blinds.insert (blinds : engine.Blinds dbase ext) (sqlCmd : String)
    (names : List Str) (op : Stmt) (ok : op.Result → Bool)
    : Blinded dbase ext (Session.Like dbase K) (engine.insert sqlCmd names op ok) :=
  (blinds _ _ _ _).bind (fun _ => (Blinded.pure _).ite Blinded.killThread)

end Engines

section Mysql

variable {server : MysqlServer} {ext : Extern} {K : Option Str → Bool → Bool → Prop}

theorem blinds_mysqlEngine : (mysqlEngine server).Blinds .mysql ext :=
  fun _ _ _ names op => Blinded.program (p := fun error => mysqlRealQuery server error names op)

theorem blinded_mysqlSrv {P : Session → Session → Prop} [Sees P] (names : List Str) (op : Stmt)
    : Blinded .mysql ext P (mysqlSrv server names op) :=
  blinds_mysqlEngine P "" names op

/-- The functions of MySQL. -/
theorem blinds_mysql : (SrvBackend.mysql server).Blinds ext K where
  authinfoCheck := blinded_authinfoCheck (fun _ _ => blinded_mysqlSrv _ _)
  list cfg cmdtyp wildmat := by
    have visible (user : Option Str) (g : Newsgroup)
        : Blinded .mysql ext (Session.Like .mysql K) (mysqlVisible server cfg user g.name) := by
      apply Blinded.ite _ (Blinded.pure _)
      cases user with
      | none => exact Blinded.crash
      | some user => exact blinded_acl (blinded_mysqlSrv _ _) (blinded_mysqlSrv _ _)
    refine Blinded.bind (blinded_mysqlSrv _ _) (fun rows => ?_)
    refine Blinded.forM rows (fun g => Blinded.read (fun r r' like => ?_))
    rw [← like.curAuthUser]
    refine Blinded.bind (visible _ g) (fun shown => ?_)
    exact (blinded_sendListLine cmdtyp wildmat g).ite (Blinded.pure _)
  xhdr part group msgid min max := by
    cases msgid with
    | none => exact blinded_xhdr (blinded_mysqlSrv _ _)
    | some msgid => exact blinded_xhdr (blinded_mysqlSrv _ _)
  xover group min max := (blinded_mysqlSrv _ _).bind (blinded_xoverRows 0)
  article cfg group type := by
    have asks (article : Option Str)
        : Blinded .mysql ext (Session.Reading .mysql K)
            (mysqlArticleRows server group article type) := by
      cases type with
      | messageId param => exact blinded_mysqlSrv _ _
      | number param => exact blinded_mysqlSrv _ _
      | current => exact blinded_mysqlSrv _ _
    refine Blinded.read (fun r r' reading => ?_)
    rw [← reading.like.selectedArticle]
    refine Blinded.bind (asks _) (fun rows => ?_)
    split
    · exact blinds_mysqlEngine.articleRow (fun _ => Blinded.crash) cfg _
    · exact Blinded.pure _
  group name := blinds_mysqlEngine.groupRows _ name
  listgroup name := blinds_mysqlEngine.listgroup name
  getHighValue _ _ := (blinded_mysqlSrv _ _).bind (fun _ => Blinded.pure _)
  chkIfMsgidExists _ _ := (blinded_mysqlSrv _ _).bind (fun _ => Blinded.pure _)
  checkNewsgroupPostingAllowed := blind_found (fun _ => blinded_mysqlSrv _ _)
  checkNewsgroupExistence := blind_found (fun _ => blinded_mysqlSrv _ _)
  aclCheckUserGroup _ _ := blinded_acl (blinded_mysqlSrv _ _) (blinded_mysqlSrv _ _)
  storeMessageBody _ _ := Blinded.crash
  dbGetUniqnum := Blinded.crash
  postInsertIntoPostings row := by
    have inserts : Blinded .mysql ext (Session.Like .mysql K) (mysqlInsertPosting server row) := by
      unfold mysqlInsertPosting
      split
      · exact Blinded.sql _
      · exact Blinded.program (p := fun error => server.misread Exit error (.insertPosting row))
    exact inserts.bind (fun _ => (Blinded.pure _).ite Blinded.killThread)
  postInsertIntoNgposts _ _ _ := blinds_mysqlEngine.insert _ _ _ _
  postUpdateHighValue _ _ := (blinded_mysqlSrv _ _).bind (fun _ => Blinded.pure _)

end Mysql

section Postgres

variable {server : PostgresServer} {ext : Extern} {K : Option Str → Bool → Bool → Prop}

theorem blinds_postgresEngine : postgresEngine.Blinds .postgres ext :=
  fun _ _ sqlCmd names op => Blinded.program (p := fun error => pqExecParams error sqlCmd names op)

theorem blinded_postgresSrv {P : Session → Session → Prop} [Sees P] (sqlCmd : String)
    (params : List Str) (op : Stmt)
    : Blinded .postgres ext P (postgresSrv sqlCmd params op) :=
  blinds_postgresEngine P sqlCmd params op

theorem blinded_xhdrGet {P : Session → Session → Prop} [Sees P] (sqlCmd : String)
    (params names : List Str) (op : Stmt)
    : Blinded .postgres ext P (xhdrGet server sqlCmd params names op) := by
  by_cases quoted : names.all (fun name => !name.contains '\'') = true
  · have same : xhdrGet server sqlCmd params names op = postgresSrv sqlCmd params op := by
      funext r
      simp only [xhdrGet, quoted, if_true]
    rw [same]
    exact blinded_postgresSrv sqlCmd params op
  · have same : xhdrGet server sqlCmd params names op
        = fun r => server.misread Exit (.killThread r.sent) op >>= fun a => pure (a, r) := by
      funext r
      simp only [xhdrGet, quoted, Bool.false_eq_true, if_false]
    rw [same]
    exact Blinded.program (p := fun error => server.misread Exit error op)

-- the texts of the statements are not to be evaluated
attribute [local irreducible] postgresSrv

theorem blinded_dbPostgresArticle (cfg : Config) (group : Str) (type : Artcltyp)
    : Blinded .postgres ext (Session.Reading .postgres K)
        (dbPostgresArticle server cfg group type) := by
  have compares (param : Str)
      : Blinded .postgres ext (Session.Reading .postgres K)
          (postgresPostnum server group param) := by
    unfold postgresPostnum
    split
    · exact Blinded.killThread
    · exact blinded_postgresSrv _ _ (.selectNgpostsPostnum group param)
  have asks (article : Option Str)
      : Blinded .postgres ext (Session.Reading .postgres K)
          (postgresArticleRows server group article type) := by
    cases type with
    | messageId param => exact blinded_postgresSrv _ _ (.selectNgpostsMsgid group param)
    | number param => exact compares _
    | current => exact compares _
  refine Blinded.read (fun r r' reading => ?_)
  rw [← reading.like.selectedArticle]
  refine Blinded.bind (asks _) (fun rows => ?_)
  split
  · exact blinds_postgresEngine.articleRow
      (fun messageId => blinded_postgresSrv _ _ (.bodyRead messageId)) cfg _
  · exact Blinded.pure _

/-- The functions of PostgreSQL. -/
theorem blinds_postgres : (SrvBackend.postgres server).Blinds ext K where
  authinfoCheck := blinded_authinfoCheck (fun user pass =>
    blinded_postgresSrv _ _ (.selectUsers user pass))
  list cfg cmdtyp wildmat := by
    refine Blinded.bind (blinded_postgresSrv _ _ .selectNewsgroups) (fun rows => ?_)
    refine Blinded.forM rows (fun g => ?_)
    exact Blinded.crash.ite (blinded_sendListLine cmdtyp wildmat g)
  xhdr part group msgid min max := by
    cases msgid with
    | none => exact blinded_xhdr (blinded_xhdrGet _ _ _ _)
    | some msgid => exact blinded_xhdr (blinded_xhdrGet _ _ _ _)
  xover group min max := by
    apply Blinded.ite _ Blinded.killThread
    exact Blinded.bind (blinded_postgresSrv _ _ (.selectOverview group min max))
      (blinded_xoverRows _)
  article := blinded_dbPostgresArticle
  group name := blinds_postgresEngine.groupRows _ name
  listgroup name := blinds_postgresEngine.listgroup name
  getHighValue _ group :=
    (blinded_postgresSrv _ _ (.selectNewsgroup group)).bind (fun _ => Blinded.pure _)
  chkIfMsgidExists group msgid :=
    (blinded_postgresSrv _ _ (.selectNgpostsMsgid group msgid)).bind (fun _ => Blinded.pure _)
  checkNewsgroupPostingAllowed :=
    blind_found (fun name => blinded_postgresSrv _ [name] (.selectPostable name))
  checkNewsgroupExistence :=
    blind_found (fun name => blinded_postgresSrv _ [name] (.selectNewsgroup name))
  aclCheckUserGroup user group :=
    blinded_acl (blinded_postgresSrv _ _ (.selectAclUsers user group))
      (blinded_postgresSrv _ _ (.selectAclRoles user group))
  storeMessageBody messageId body := by
    refine Blinded.bind (Blinded.sql _) (fun old => Blinded.killThread.ite ?_)
    refine Blinded.bind (blinded_postgresSrv _ _ (.bodyWrite messageId body)) (fun ok => ?_)
    exact (Blinded.pure _).ite Blinded.killThread
  dbGetUniqnum :=
    (Blinded.sql _).bind (fun _ => (Blinded.sql _).bind (fun _ => Blinded.pure _))
  postInsertIntoPostings _ := blinds_postgresEngine.insert _ _ _ _
  postInsertIntoNgposts _ _ _ := blinds_postgresEngine.insert _ _ _ _
  postUpdateHighValue n newsgroup :=
    (blinded_postgresSrv _ _ (.updateHigh newsgroup n)).bind (fun _ => Blinded.pure _)

end Postgres

/-- The functions of each backend. -/
theorem blinds (servers : DbServers) (dbase : Dbase) (ext : Extern)
    (K : Option Str → Bool → Bool → Prop)
    : (srvBackend servers dbase).Blinds ext K := by
  cases dbase with
  | sqlite3 => exact blinds_sqlite3
  | mysql => exact blinds_mysql
  | postgres => exact blinds_postgres

end WendzelNNTPd
