import WendzelNNTPd.Access.TlsSwitch
import WendzelNNTPd.Access.Untouched

/-! Who touches `inf->speccmd`. The field steers the conversion of dates in the callbacks of XHDR;
LIST and XHDR clear it behind their query, and no other command sets it.
-/

namespace WendzelNNTPd

open CString Atomic

/-- Whenever the handler starts without `SPECCMD_DATE` and returns, it returns without it. -/
def Undated (dbase : Dbase) (ext : Extern) {α : Type} (m : Srv α) : Prop :=
  Keeps (execOn dbase ext) (fun r => r.speccmd ≠ .date) (fun _ => True) (fun _ => True) m

namespace Undated

variable {dbase : Dbase} {ext : Extern} {α β : Type}

theorem bind {m : Srv β} {f : β → Srv α} (first : Undated dbase ext m)
    (rest : ∀ b, Undated dbase ext (f b))
    : Undated dbase ext (m >>= f) :=
  Keeps.bind first rest

theorem read {f : Session → Srv α} (rest : ∀ r, Undated dbase ext (f r))
    : Undated dbase ext (get >>= f) :=
  Keeps.get_bind (fun r _ => rest r)

theorem ite {c : Prop} [Decidable c] {m m' : Srv α} (yes : Undated dbase ext m)
    (no : Undated dbase ext m')
    : Undated dbase ext (if c then m else m') :=
  Keeps.ite (fun _ => yes) (fun _ => no)

/-- A change of other fields, or one that clears the flag. -/
theorem modify {g : Session → Session} (kept : ∀ r, (g r).speccmd = .date → r.speccmd = .date)
    : Undated dbase ext (modify g) :=
  Keeps.modify (fun r undated date => undated (kept r date))

theorem toSend (text : Str) : Undated dbase ext (toSend text) := modify (fun _ date => date)

theorem crash : Undated dbase ext (crash : Srv α) := fun _ _ _ => trivial

theorem killThread : Undated dbase ext (killThread : Srv α) := fun _ _ _ => trivial

/-- A handler that runs a program and leaves the session alone. -/
theorem program {p : Session → Prog Sql Exit α}
    : Undated dbase ext (fun r => p r >>= fun a => Pure.pure (a, r) : Srv α) := by
  intro r s start
  show Prog.wp _ (p r >>= fun a => Pure.pure (a, r)) _ _ s
  rw [Prog.wp_bind]
  unfold Prog.wp
  split
  · exact ⟨start.1, trivial⟩
  · trivial

end Undated

/-- What the functions of a backend do with the flag: XHDR clears it, the others leave none
behind. -/
structure SrvBackend.ClearsDate (db : SrvBackend) (ext : Extern) : Prop where
  authinfoCheck : Undated db.dbase ext db.authinfoCheck
  list : ∀ cfg cmdtyp wildmat, Undated db.dbase ext (db.list ext cfg cmdtyp wildmat)
  xhdr : ∀ part group msgid min max,
    Ensures (execOn db.dbase ext) (fun _ _ => True) (db.xhdr ext part group msgid min max)
      (fun _ r _ => r.speccmd ≠ .date ∧ True) (fun _ _ => True)
  xover : ∀ group min max, Undated db.dbase ext (db.xover ext group min max)
  article : ∀ cfg group type, Undated db.dbase ext (db.article cfg group type)
  group : ∀ name, Undated db.dbase ext (db.group name)
  listgroup : ∀ name, Undated db.dbase ext (db.listgroup name)
  getHighValue : ∀ env group, Undated db.dbase ext (db.getHighValue env group)
  checkNewsgroupPostingAllowed : Undated db.dbase ext db.checkNewsgroupPostingAllowed
  checkNewsgroupExistence : Undated db.dbase ext db.checkNewsgroupExistence
  aclCheckUserGroup : ∀ user group, Undated db.dbase ext (db.aclCheckUserGroup user group)
  storeMessageBody : ∀ messageId body, Undated db.dbase ext (db.storeMessageBody messageId body)
  dbGetUniqnum : Undated db.dbase ext db.dbGetUniqnum
  postInsertIntoPostings : ∀ row, Undated db.dbase ext (db.postInsertIntoPostings row)
  postInsertIntoNgposts :
    ∀ messageId newsgroup n, Undated db.dbase ext (db.postInsertIntoNgposts messageId newsgroup n)
  postUpdateHighValue : ∀ n newsgroup, Undated db.dbase ext (db.postUpdateHighValue n newsgroup)

instance : Marked (fun r : Session => r.speccmd ≠ .date) where
  of_marks same start date := start ((congrArg Marks.speccmd same).trans date)
  undated _ undated _ := undated

section Common

variable {dbase : Dbase} {ext : Extern}

/-- The loops of XHDR clear the flag at their end. -/
theorem clears_xhdr {part : XhdrPart} {query : Srv (List (Ngpost × Posting))}
    : Ensures (execOn dbase ext) (fun _ _ => True)
        (do
          modify (fun s => { s with speccmd := if part = .date then .date else s.speccmd })
          let rows ← query
          rows.forM (xhdrCb ext part)
          modify (fun s => { s with speccmd := .cleared }) : Srv Unit)
        (fun _ r _ => r.speccmd ≠ .date ∧ True) (fun _ _ => True) := by
  refine Ensures.bind (ensures_true dbase _) (fun _ => ?_)
  refine Ensures.bind (ensures_true dbase _) (fun _ => ?_)
  refine Ensures.bind (ensures_true dbase _) (fun _ => Ensures.modify (fun r s _ => ?_))
  exact ⟨Speccmd.noConfusion, trivial⟩

end Common

theorem clearsDate (servers : DbServers) (dbase : Dbase) (ext : Extern)
    : (srvBackend servers dbase).ClearsDate ext := by
  have clears (part : XhdrPart) (group : Str) (msgid : Option Str) (min max : Nat)
      : Ensures (execOn (srvBackend servers dbase).dbase ext) (fun _ _ => True)
          ((srvBackend servers dbase).xhdr ext part group msgid min max)
          (fun _ r _ => r.speccmd ≠ .date ∧ True) (fun _ _ => True) := by
    cases dbase with
    | sqlite3 => cases msgid <;> exact clears_xhdr
    | mysql => cases msgid <;> exact clears_xhdr
    | postgres => cases msgid <;> exact clears_xhdr
  have others := leaves (I := fun r : Session => r.speccmd ≠ .date) servers dbase ext
  exact { others with xhdr := clears }

-----------------------------------------------------------------------------------------
-- AUTHINFO
-----------------------------------------------------------------------------------------

section Handlers

variable {db : SrvBackend} {ext : Extern} {cfg : Config}

theorem undated_docmdAuthinfoUser (command : Str)
    : Undated db.dbase ext (docmdAuthinfoUser command) := by
  refine Undated.bind (Undated.modify (fun _ date => date)) (fun _ => ?_)
  split
  · exact Undated.toSend _
  · exact Undated.bind (Undated.modify (fun _ date => date)) (fun _ => Undated.toSend _)

theorem undated_docmdAuthinfoPass (clears : db.ClearsDate ext) (command : Str)
    : Undated db.dbase ext (db.docmdAuthinfoPass ext cfg command) := by
  refine Undated.bind (Undated.modify (fun _ date => date)) (fun _ => Undated.read (fun r => ?_))
  split
  · exact Undated.toSend _
  · split
    · exact Undated.toSend _
    · refine Undated.bind (Undated.modify (fun _ date => date)) (fun _ => ?_)
      refine Undated.bind clears.authinfoCheck (fun _ => Undated.read (fun r => ?_))
      exact Undated.bind (Undated.toSend _) (fun _ => Undated.modify (fun _ date => date))

end Handlers

end WendzelNNTPd
