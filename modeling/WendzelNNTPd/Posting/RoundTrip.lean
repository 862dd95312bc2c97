import WendzelNNTPd.Access.Errors
import WendzelNNTPd.Access.Login
import WendzelNNTPd.Posting.Numbering
import WendzelNNTPd.Posting.OverviewCounts
import WendzelNNTPd.Posting.Together

/-! From POST to BODY. An article is stored in three places, its body in a file that is named
after the message id. None of the places is written again, because no message id is made twice;
so whatever happens in between, ARTICLE, HEAD, BODY and STAT find what POST has left there, as
long as the newsgroup is not deleted.
-/

namespace WendzelNNTPd

open CString Atomic

-----------------------------------------------------------------------------------------
-- What happens to the store
-----------------------------------------------------------------------------------------

/-- A line of some client is served, or the admin tool is called. -/
inductive SystemStep
  | serve (cfg : Config) (session : Session) (line : Line)
  | administer (call : AdmCall)

/-- The store behind a step that nobody interferes with. -/
def SystemStep.perform (ext : Extern) (hashSalt : Str) (s : Store) : SystemStep → Store
  | .serve cfg session line =>
      ((Connection.program ext cfg ⟨session, s⟩ line).run (exec ext) s).2
  | .administer call => admCall ext hashSalt s call

/-- The step is a call of the admin tool that deletes the newsgroup. -/
def SystemStep.Deletes (group : Str) : SystemStep → Prop
  | .serve _ _ _ => False
  | .administer call => admAccepts call.args = some .ngdelete ∧ argv call.args 2 = group

/-- The store behind steps that follow each other. -/
def performAll (ext : Extern) (hashSalt : Str) (s : Store) (steps : List SystemStep) : Store :=
  steps.foldl (SystemStep.perform ext hashSalt) s

section Steps

variable {ext : Extern} {hashSalt : Str} {s : Store}

/-- POST on a store that nobody else uses. -/
def runPost (ext : Extern) (cfg : Config) (env : Env) (session : Session) (s : Store)
    : Except Exit (Unit × Session) × Store :=
  ((docmdPost ext cfg env).run session).run (exec ext) s

/-- Serving a line leaves the store alone, or is a POST of the user. -/
theorem SystemStep.perform_serve (ext : Extern) (hashSalt : Str) (s : Store) (cfg : Config)
    (session : Session) (line : Line)
    : SystemStep.perform ext hashSalt s (.serve cfg session line) = s
      ∨ SystemStep.perform ext hashSalt s (.serve cfg session line)
          = (s.post ext cfg line.env session.curAuthUser).2 := by
  rcases @store_of_program ext cfg ⟨session, s⟩ line with same | ⟨other, user, posted⟩
  · exact Or.inl same
  · refine Or.inr ?_
    have stored := (docmdPost_run ext cfg line.env s other).2
    rw [user] at stored
    exact posted.trans stored

theorem SystemStep.keeps_numbered (numbered : s.Numbered) (step : SystemStep)
    : (step.perform ext hashSalt s).Numbered := by
  cases step with
  | administer call => exact (admCall_effect ext hashSalt s call).keeps_numbered numbered
  | serve cfg session line =>
      rcases perform_serve ext hashSalt s cfg session line with same | posted
      · rw [same]
        exact numbered
      · rw [posted]
        exact numbered_post ext cfg line.env session.curAuthUser numbered

end Steps

-----------------------------------------------------------------------------------------
-- The primary key of ngposts
-----------------------------------------------------------------------------------------

section Keys

/-- Message id and newsgroup are the primary key of `ngposts`, and bodies can be written. -/
structure Store.Filing (s : Store) : Prop where
  keys : (s.ngposts.map (fun n => (n.msgid, n.ng))).Nodup
  writable : s.spoolWritable = true

variable {ext : Extern}

/-- No statement writes a key twice, or locks the spool directory. -/
theorem filing_exec (op : Stmt) (s : Store) (filing : s.Filing) : (exec ext op s).2.Filing := by
  obtain ⟨keys, writable⟩ := filing
  cases op with
  | insertNgpost row => exact ⟨nodup_insertRow keys row, writable⟩
  | deleteNgposts ng => exact ⟨keys.sublist (List.Sublist.map _ List.filter_sublist), writable⟩
  | msgidCreate =>
      simp only [exec]
      split
      · exact ⟨keys, writable⟩
      · exact ⟨keys, writable⟩
  | bodyWrite filename body =>
      rw [exec_bodyWrite]
      exact ⟨keys, writable⟩
  | _ => exact ⟨keys, writable⟩

theorem SystemStep.keeps_filing {hashSalt : Str} {s : Store} (filing : s.Filing) (step : SystemStep)
    : (step.perform ext hashSalt s).Filing := by
  cases step with
  | serve cfg session line => exact Prog.run_invariant filing_exec _ filing
  | administer call => exact Prog.run_invariant filing_exec _ filing

end Keys

-----------------------------------------------------------------------------------------
-- An article in the store
-----------------------------------------------------------------------------------------

/-- A newsgroup has an article with this header and this body. -/
structure Store.Keeps (s : Store) (n : Ngpost) (header body : Str) : Prop where
  row : n ∈ s.ngposts
  posting : ∃ p ∈ s.postings, p.msgid = n.msgid ∧ p.header = header
  file : s.spool (bodyFile n.msgid) = some body

section Kept

variable {ext : Extern} {hashSalt : Str} {s s' : Store} {n : Ngpost} {header body : Str}

/-- Nothing is taken away, and one file at most is written. -/
structure Store.Grows (s s' : Store) (file : Str) : Prop where
  ngposts : s.ngposts ⊆ s'.ngposts
  postings : s.postings ⊆ s'.postings
  spool : ∀ other, other ≠ file → s'.spool other = s.spool other

theorem Store.Keeps.grow {file : Str} (keeps : s.Keeps n header body) (grows : s.Grows s' file)
    (other : bodyFile n.msgid ≠ file)
    : s'.Keeps n header body := by
  obtain ⟨p, member, msgid, same⟩ := keeps.posting
  refine ⟨grows.ngposts keeps.row, ⟨p, grows.postings member, msgid, same⟩, ?_⟩
  rw [grows.spool _ other]
  exact keeps.file

theorem Store.Keeps.counted (keeps : s.Keeps n header body) : s.counted.Keeps n header body := by
  unfold Store.counted
  split
  · exact ⟨keeps.row, keeps.posting, keeps.file⟩
  · exact keeps

theorem grows_saveBody (messageId text : Str)
    : s.Grows (s.saveBody messageId text) (bodyFile messageId) :=
  ⟨List.Subset.refl _, List.Subset.refl _, fun _ other => Function.update_of_ne other _ _⟩

theorem grows_storeAlone (cfg : Config) (env : Env) (user : Option Str) (row : Posting)
    (text : Str) (groups : List Str)
    : s.Grows (s.storeAlone cfg env user row text groups).2 (bodyFile row.msgid) := by
  have saved := @grows_saveBody s row.msgid text
  have delivered (served : List Str)
      : s.Grows (((s.saveBody row.msgid text).withPosting row).deliver env.curHighInit row.msgid
          served) (bodyFile row.msgid) :=
    ⟨List.subset_append_left _ _, List.subset_append_left _ _, saved.spool⟩
  simp only [Store.storeAlone]
  split
  · exact saved
  · split
    · exact delivered _
    · exact delivered _

/-- The file of a body shows the number of its message id. -/
theorem bodyFile_injective {id id' : Nat} {host host' : Str}
    (same : bodyFile (numberedId id host) = bodyFile (numberedId id' host'))
    : id = id' := by
  have whole (id : Nat) (host : Str)
      : numberedId id host = '<' :: bodyFile (numberedId id host) ++ ['>'] := by
    have open' : numberedId id host = '<' :: ("cdp".toList ++ dec id ++ ['@'] ++ host ++ ['>']) := rfl
    rw [bodyFile, open', List.tail_cons, List.dropLast_concat]
    rfl
  refine @numberedId_injective id id' host host' ?_
  rw [whole id host, whole id' host', same]

/-- POST gives the article another file than all articles that are there. -/
theorem Store.Keeps.post (keeps : s.Keeps n header body) (numbered : s.Numbered) (cfg : Config)
    (env : Env) (user : Option Str)
    : (s.post ext cfg env user).2.Keeps n header body := by
  cases stores : s.postStores cfg env with
  | none =>
      rcases (post_of_not_stores ext user stores).2 with same | same <;> rw [same]
      · exact keeps
      · exact keeps.counted
  | some stored =>
      obtain ⟨id, article⟩ := stored
      obtain ⟨ran, -⟩ := post_of_stores ext user stores
      obtain ⟨p, member, msgid, -⟩ := keeps.posting
      obtain ⟨id', host, named, lt⟩ := lt_nextId numbered (postStores_checked stores).2 member
      rw [ran]
      refine keeps.counted.grow (grows_storeAlone cfg env user _ _ _) (fun same => ?_)
      rw [← msgid, named] at same
      have again : id' = id := bodyFile_injective same
      omega

/-- The tool takes a row away only with its newsgroup. -/
theorem AdmEffect.row_kept {args : List Str} (effect : AdmEffect args s s') (row : n ∈ s.ngposts)
    (kept : ¬(admAccepts args = some .ngdelete ∧ argv args 2 = n.ng))
    : n ∈ s'.ngposts := by
  cases effect with
  | delgroup mode =>
      have other : n.ng ≠ argv args 2 := fun same => kept ⟨mode, same.symm⟩
      exact List.mem_filter.mpr ⟨row, bne_iff_ne.mpr other⟩
  | _ => exact row

/-- An article that keeps its row is kept. -/
theorem AdmEffect.keeps_article {args : List Str} (effect : AdmEffect args s s')
    (keeps : s.Keeps n header body) (row : n ∈ s'.ngposts)
    : s'.Keeps n header body := by
  cases effect with
  | delgroup mode =>
      obtain ⟨p, member, msgid, same⟩ := keeps.posting
      refine ⟨row, ⟨p, List.mem_filter.mpr ⟨member, ?_⟩, msgid, same⟩, keeps.file⟩
      exact List.any_eq_true.mpr ⟨n, row, beq_iff_eq.mpr msgid.symm⟩
  | _ => exact ⟨row, keeps.posting, keeps.file⟩

theorem SystemStep.keeps_article (numbered : s.Numbered) (keeps : s.Keeps n header body)
    {step : SystemStep} (kept : ¬step.Deletes n.ng)
    : (step.perform ext hashSalt s).Keeps n header body := by
  cases step with
  | administer call =>
      have effect := admCall_effect ext hashSalt s call
      exact effect.keeps_article keeps (effect.row_kept keeps.row kept)
  | serve cfg session line =>
      rcases perform_serve ext hashSalt s cfg session line with same | posted
      · rw [same]
        exact keeps
      · rw [posted]
        exact keeps.post numbered cfg line.env session.curAuthUser

/-- What holds of a store in which an article can be found. -/
structure Store.Finds (s : Store) (n : Ngpost) (header body : Str) : Prop where
  numbered : s.Numbered
  filing : s.Filing
  keeps : s.Keeps n header body

/-- An article stays where it is until its newsgroup is deleted.
Witness: induction on the steps.
-/
theorem Store.Finds.later (finds : s.Finds n header body) {steps : List SystemStep}
    (kept : ∀ step ∈ steps, ¬step.Deletes n.ng)
    : (performAll ext hashSalt s steps).Finds n header body := by
  induction steps generalizing s with
  | nil => exact finds
  | cons step rest ih =>
      refine ih ?_ (fun other member => kept other (List.mem_cons_of_mem _ member))
      exact
        { numbered := step.keeps_numbered finds.numbered
          filing := step.keeps_filing finds.filing
          keeps := SystemStep.keeps_article finds.numbered finds.keeps (kept step (by simp)) }

/-- Steps from a store without articles. -/
theorem performAll_numbered (accounts : Store) (writable : accounts.spoolWritable = true)
    (steps : List SystemStep)
    : (performAll ext hashSalt accounts.withoutArticles steps).Numbered
      ∧ (performAll ext hashSalt accounts.withoutArticles steps).Filing := by
  have run (s : Store) (numbered : s.Numbered) (filing : s.Filing)
      : (performAll ext hashSalt s steps).Numbered
        ∧ (performAll ext hashSalt s steps).Filing := by
    induction steps generalizing s with
    | nil => exact ⟨numbered, filing⟩
    | cons step rest ih => exact ih _ (step.keeps_numbered numbered) (step.keeps_filing filing)
  exact run _ (numbered_withoutArticles accounts) ⟨List.nodup_nil, writable⟩

end Kept

-----------------------------------------------------------------------------------------
-- The four commands
-----------------------------------------------------------------------------------------

/-- The texts that are made of the header. -/
def Cmdtype.headerTexts (header : Str) : Cmdtype → List Str
  | .article => [header, "\r\n".toList]
  | .head => [header, periodEnd]
  | .body | .stat => []

/-- The texts that are made of the body. -/
def Cmdtype.bodyTexts (body : Str) : Cmdtype → List Str
  | .article | .body => [body]
  | .head | .stat => []

/-- The session behind texts that were made from a row. -/
def Session.sending (r : Session) (n : Ngpost) (texts : List Str) : Session :=
  { r with curstring := r.curstring ++ texts.map (fun text => ⟨text, some n⟩) }

section Read

variable {ext : Extern} {cfg : Config} {s : Store} {n : Ngpost} {header body : Str}

/-- A row with its own key is the only one with it. -/
theorem filter_of_key {α κ : Type} [DecidableEq κ] {key : α → κ} {l : List α}
    (distinct : (l.map key).Nodup) {x : α} (member : x ∈ l)
    : l.filter (fun y => decide (key y = key x)) = [x] := by
  induction l with
  | nil => cases member
  | cons y rest ih =>
      rw [List.map_cons, List.nodup_cons] at distinct
      rcases List.mem_cons.mp member with rfl | later
      · have others : rest.filter (fun y => decide (key y = key x)) = [] := by
          rw [List.filter_eq_nil_iff]
          intro z inside same
          exact distinct.1 (List.mem_map.mpr ⟨z, inside, of_decide_eq_true same⟩)
        rw [List.filter_cons, if_pos (by simp), others]
      · have other : ¬decide (key y = key x) = true := by
          intro same
          exact distinct.1 (List.mem_map.mpr ⟨x, later, (of_decide_eq_true same).symm⟩)
        rw [List.filter_cons, if_neg other]
        exact ih distinct.2 later

theorem headers_of_finds (finds : s.Finds n header body)
    : (s.postings.filter (·.msgid == n.msgid)).map (·.header) = [header] := by
  obtain ⟨p, member, msgid, same⟩ := finds.keeps.posting
  have only := filter_of_key finds.numbered.msgids member
  rw [msgid] at only
  have query : (fun q : Posting => q.msgid == n.msgid) = fun q => decide (q.msgid = n.msgid) :=
    funext fun q => Bool.beq_eq_decide_eq _ _
  rw [query, only, List.map_singleton, same]

theorem sending_nil (r : Session) : r.sending n [] = r := by
  simp only [Session.sending, List.map_nil, List.append_nil]

theorem sending_sending (r : Session) (texts more : List Str)
    : (r.sending n texts).sending n more = r.sending n (texts ++ more) := by
  simp only [Session.sending, List.map_append, List.append_assoc]

theorem articleCbCb2_run (r : Session)
    : ((articleCbCb2 n header).run r).run (exec ext) s
      = (.ok ((), r.sending n (r.cmdtype.headerTexts header)), s) := by
  have two (last : Str)
      : ((r.sending n [header]).sending n [last]) = r.sending n [header, last] :=
    sending_sending r [header] [last]
  refine (run_bind_ok (rfl : ((get : Srv Session).run r).run (exec ext) s = (.ok (r, r), s))).trans ?_
  cases r.cmdtype with
  | article => exact congrArg (fun r' => (Except.ok ((), r'), s)) (two _)
  | head => exact congrArg (fun r' => (Except.ok ((), r'), s)) (two _)
  | body => exact congrArg (fun r' => (Except.ok ((), r'), s)) (sending_nil r).symm
  | stat => exact congrArg (fun r' => (Except.ok ((), r'), s)) (sending_nil r).symm

theorem articleSendHeader_run (finds : s.Finds n header body) (r : Session)
    : ((articleSendHeader r.cmdtype n).run r).run (exec ext) s
      = (.ok ((), r.sending n (r.cmdtype.headerTexts header)), s) := by
  have query : (((sql (.selectHeader n.msgid) >>= fun headers : List Str =>
        headers.forM (articleCbCb2 n) : Srv Unit)).run r).run (exec ext) s
      = (.ok ((), r.sending n (r.cmdtype.headerTexts header)), s) := by
    refine (run_sql_bind ext s r (.selectHeader n.msgid) _).trans ?_
    have headers : (exec ext (.selectHeader n.msgid) s).1 = [header] := headers_of_finds finds
    rw [headers]
    exact (run_bind_ok (articleCbCb2_run r)).trans rfl
  unfold articleSendHeader
  split
  · exact query
  · rename_i silent
    have none : r.cmdtype.headerTexts header = [] := by
      cases type : r.cmdtype with
      | article => exact absurd (Or.inl type) silent
      | head => exact absurd (Or.inr type) silent
      | body => rfl
      | stat => rfl
    rw [none, sending_nil]
    rfl

theorem articleSendBody_run (finds : s.Finds n header body) (inFile : cfg.messageBodyInDb = false)
    (nonempty : body ≠ []) (r : Session)
    : ((articleSendBody cfg r.cmdtype n).run r).run (exec ext) s
      = (.ok ((), r.sending n (r.cmdtype.bodyTexts body)), s) := by
  have load : ((filebackendRetrbody n.msgid).run r).run (exec ext) s = (.ok (some body, r), s) := by
    have file : (s.spool (bodyFile n.msgid)).filter (fun b => !b.isEmpty) = some body := by
      rw [finds.keeps.file, Option.filter_some, if_pos]
      simpa using nonempty
    exact congrArg (fun found => (Except.ok (found, r), s)) file
  unfold articleSendBody
  rw [inFile]
  split
  · rename_i sends
    have one : r.cmdtype.bodyTexts body = [body] := by
      rcases sends with type | type <;> rw [type] <;> rfl
    rw [one]
    exact (run_bind_ok load).trans rfl
  · rename_i silent
    have none : r.cmdtype.bodyTexts body = [] := by
      cases type : r.cmdtype with
      | article => exact absurd (Or.inl type) silent
      | head => rfl
      | body => exact absurd (Or.inr type) silent
      | stat => rfl
    rw [none, sending_nil]
    rfl

/-- What a row of an article adds to the reply. -/
theorem articleCb_run (finds : s.Finds n header body) (inFile : cfg.messageBodyInDb = false)
    (nonempty : body ≠ []) (r : Session)
    : ((articleCb cfg n).run r).run (exec ext) s
      = (.ok ((),
          { r.sending n (articleReply r.cmdtype n
              :: (r.cmdtype.headerTexts header ++ r.cmdtype.bodyTexts body)) with
            selectedArticle := some (dec n.postnum), foundArticle := true }), s) := by
  let begun : Session :=
    { r with selectedArticle := some (dec n.postnum) }.sending n [articleReply r.cmdtype n]
  have head := @articleSendHeader_run ext s n header body finds begun
  have rest := @articleSendBody_run ext cfg s n header body finds inFile nonempty
    (begun.sending n (begun.cmdtype.headerTexts header))
  have run : ((articleCb cfg n).run r).run (exec ext) s
      = ((do
          articleSendHeader begun.cmdtype n
          articleSendBody cfg begun.cmdtype n
          modify (fun s => { s with foundArticle := true })
          : Srv Unit).run begun).run (exec ext) s :=
    rfl
  rw [run, run_bind_ok head]
  refine (run_bind_ok rest).trans ?_
  rw [sending_sending, sending_sending]
  rfl

/-- The queries for an article find its row only. -/
def Artcltyp.Selects (n : Ngpost) : Artcltyp → Prop
  | .messageId param => param = n.msgid
  | .number param => param = dec n.postnum
  | .current => False

/-- SQLite compares a number with its decimal text. -/
def ComparesNumbers (ext : Extern) : Prop := ∀ a b, ext.postnumEq a (dec b) = decide (a = b)

theorem row_of_msgid (finds : s.Finds n header body)
    : (s.ngRows n.ng).filter (·.msgid == n.msgid) = [n] := by
  have only := filter_of_key finds.filing.keys finds.keeps.row
  rw [← only, Store.ngRows, List.filter_filter]
  refine List.filter_congr (fun m _ => ?_)
  simp [Bool.beq_eq_decide_eq]

theorem row_of_number (compares : ComparesNumbers ext) (finds : s.Finds n header body)
    : (s.ngRows n.ng).filter (fun m => ext.postnumEq m.postnum (dec n.postnum)) = [n] := by
  obtain ⟨g, member, named⟩ := finds.numbered.groups n finds.keeps.row
  have numbers := finds.numbered.numbers g member
  have distinct : ((s.ngRows n.ng).map (·.postnum)).Nodup := by
    rw [← named, numbers]
    exact List.nodup_range'
  have row : n ∈ s.ngRows n.ng := List.mem_filter.mpr ⟨finds.keeps.row, beq_self_eq_true _⟩
  rw [← filter_of_key distinct row]
  exact List.filter_congr (fun m _ => compares m.postnum n.postnum)

theorem dbArticle_run (compares : ComparesNumbers ext) (finds : s.Finds n header body)
    (inFile : cfg.messageBodyInDb = false) (nonempty : body ≠ []) {type : Artcltyp}
    (selects : type.Selects n) (r : Session)
    : ((dbArticle cfg n.ng type).run r).run (exec ext) s
      = (.ok ((),
          { r.sending n (articleReply r.cmdtype n
              :: (r.cmdtype.headerTexts header ++ r.cmdtype.bodyTexts body)) with
            selectedArticle := some (dec n.postnum), foundArticle := true }), s) := by
  have one : ((([n] : List Ngpost).forM (articleCb cfg)).run r).run (exec ext) s = _ :=
    (run_bind_ok (articleCb_run finds inFile nonempty r)).trans rfl
  cases type with
  | messageId param =>
      obtain rfl : param = n.msgid := selects
      have rows : (exec ext (.selectNgpostsMsgid n.ng n.msgid) s).1 = [n] := row_of_msgid finds
      refine (run_sql_bind ext s r (.selectNgpostsMsgid n.ng n.msgid) _).trans ?_
      rw [rows]
      exact one
  | number param =>
      obtain rfl : param = dec n.postnum := selects
      have rows : (exec ext (.selectNgpostsPostnum n.ng (dec n.postnum)) s).1 = [n] :=
        row_of_number compares finds
      refine (run_sql_bind ext s r (.selectNgpostsPostnum n.ng (dec n.postnum)) _).trans ?_
      rw [rows]
      exact one
  | current => exact selects.elim

/-- The session behind a command that has found the article. -/
def Session.behindRead (r : Session) (cmdtype : Cmdtype) (n : Ngpost) (header body : Str)
    : Session :=
  { r.sending n (articleReply cmdtype n
      :: (cmdtype.headerTexts header ++ cmdtype.bodyTexts body)) with
    cmdtype := cmdtype, selectedArticle := some (dec n.postnum), foundArticle := true }

theorem docmdArticle_run (compares : ComparesNumbers ext) (finds : s.Finds n header body)
    (inFile : cfg.messageBodyInDb = false) (nonempty : body ≠ []) {command : Str}
    {type : Artcltyp} (addressed : artcltyp (getSlinearg command 1) = some type)
    (selects : type.Selects n) {r : Session} (group : r.selectedGroup = some n.ng)
    : ((docmdArticle cfg command).run r).run (exec ext) s
      = (.ok ((), r.behindRead (cmdtypeOf command r.cmdtype) n header body), s) := by
  let asked : Session :=
    { r with foundArticle := false, cmdtype := cmdtypeOf command r.cmdtype }
  have found := @dbArticle_run ext cfg s n header body compares finds inFile nonempty type selects asked
  have retrieved : ((docmdArticle.retrieve cfg n.ng type).run asked).run (exec ext) s
      = (.ok ((), r.behindRead (cmdtypeOf command r.cmdtype) n header body), s) :=
    (run_bind_ok found).trans rfl
  refine (run_bind_ok (rfl : ((modify _ : Srv PUnit).run r).run (exec ext) s
    = (.ok (⟨⟩, asked), s))).trans ?_
  refine (run_bind_ok (rfl : ((get : Srv Session).run asked).run (exec ext) s
    = (.ok (asked, asked), s))).trans ?_
  have selected : asked.selectedGroup = some n.ng := group
  rw [selected, addressed]
  cases type with
  | messageId param => exact retrieved
  | number param => exact retrieved
  | current => exact selects.elim

end Read

-----------------------------------------------------------------------------------------
-- The lines of the client
-----------------------------------------------------------------------------------------

def Cmdtype.word : Cmdtype → Str
  | .article => "article".toList
  | .head => "head".toList
  | .body => "body".toList
  | .stat => "stat".toList

/-- A command with an argument, as it is received. -/
def readLine (word arg : Str) : Str := word ++ ' ' :: arg ++ "\r\n".toList

/-- Small letters. -/
def isKeyword (key : Str) : Bool := !key.isEmpty && key.all (fun c => 'a' ≤ c && c ≤ 'z')

section Lines

variable {cmdtype : Cmdtype} {key word arg : Str}

theorem isKeyword_word (cmdtype : Cmdtype) : isKeyword cmdtype.word = true := by
  cases cmdtype <;> decide

theorem scan_arg (blankless : ∀ c ∈ word, c ≠ ' ') (rest : Str) (num : Nat)
    : getSlinearg.jump (word ++ ' ' :: rest) num = getSlinearg.scan rest num := by
  induction word with
  | nil => rfl
  | cons c cs ih =>
      rw [List.cons_append, getSlinearg.jump, if_neg (blankless c (by simp))]
      exact ih (fun d member => blankless d (List.mem_cons_of_mem c member))

theorem letter_of_mem (keyword : isKeyword key = true) {c : Char} (member : c ∈ key)
    : 'a' ≤ c ∧ c ≤ 'z' := by
  have letters := (Bool.and_eq_true_iff.mp keyword).2
  simpa using List.all_eq_true.mp letters c member

theorem word_letters (keyword : isKeyword key = true) (named : word.map Char.toLower = key)
    {c : Char} (member : c ∈ word)
    : c ≠ ' ' ∧ c ≠ '\r' ∧ c ≠ '\'' := by
  have lower := letter_of_mem keyword (named ▸ List.mem_map_of_mem (f := Char.toLower) member)
  refine ⟨?_, ?_, ?_⟩
  all_goals
    rintro rfl
    exact absurd lower (by decide)

theorem exists_cons (keyword : isKeyword key = true) (named : word.map Char.toLower = key)
    : ∃ c cs, word = c :: cs ∧ key.head? = some c.toLower := by
  cases word with
  | nil =>
      cases named
      cases keyword
  | cons c cs => exact ⟨c, cs, rfl, by rw [← named]; rfl⟩

theorem command_readLine (keyword : isKeyword key = true) (named : word.map Char.toLower = key)
    (quoteless : '\'' ∉ arg)
    : dbSecureSqlbuffer .sqlite3 (stripCr (readLine word arg)) = word ++ ' ' :: arg := by
  obtain ⟨c, cs, rfl, -⟩ := exists_cons keyword named
  have line : stripCr (readLine (c :: cs) arg) = c :: cs ++ ' ' :: arg := stripCr_line c _
  rw [line, sqlite3_unchanged_iff]
  intro quote
  rcases List.mem_append.mp quote with inside | later
  · exact (word_letters keyword named inside).2.2 rfl
  · rcases List.mem_cons.mp later with same | inside
    · exact absurd same (by decide)
    · exact quoteless inside

theorem getSlinearg_readLine (keyword : isKeyword key = true) (named : word.map Char.toLower = key)
    (is : IsWord arg) (nonempty : arg ≠ [])
    : getSlinearg (word ++ ' ' :: arg) 1 = some arg := by
  have letters (c : Char) (member : c ∈ word) := word_letters keyword named member
  obtain ⟨c, cs, rfl, -⟩ := exists_cons keyword named
  obtain ⟨blank, cr, -⟩ := letters c (by simp)
  have first : ¬(c = ' ' ∨ c = '\r') := by simp [blank, cr]
  rw [getSlinearg, List.cons_append, getSlinearg.scan, if_neg first]
  exact (scan_arg (fun d member => (letters d (List.mem_cons_of_mem c member)).1) arg 0).trans
    ((scan_word is).trans (if_neg nonempty))

theorem cmdtypeOf_readLine (named : word.map Char.toLower = cmdtype.word) (rest : Str)
    (old : Cmdtype)
    : cmdtypeOf (word ++ rest) old = cmdtype := by
  obtain ⟨c, cs, rfl, first⟩ := exists_cons (isKeyword_word cmdtype) named
  have letter (l : Char) (is : cmdtype.word.head? = some l) : c = l.toLower ∨ c = l.toUpper :=
    toLower_eq_iff.mp ((Option.some.inj (first.symm.trans is)).trans (by
      cases cmdtype <;> cases is <;> rfl))
  cases cmdtype with
  | article => rcases letter 'a' rfl with rfl | rfl <;> rfl
  | head => rcases letter 'h' rfl with rfl | rfl <;> rfl
  | body => rcases letter 'b' rfl with rfl | rfl <;> rfl
  | stat => rcases letter 's' rfl with rfl | rfl <;> rfl

theorem begins_readLine (keyword : isKeyword key = true) (named : word.map Char.toLower = key)
    (rest : Str)
    : caseEqPrefix key (word ++ rest) = true := by
  have same : key.length = word.length := by rw [← named, List.length_map]
  have lower : key.map Char.toLower = key := by
    refine (List.map_congr_left (fun c member => ?_)).trans (List.map_id key)
    have letter := letter_of_mem keyword member
    have small : ¬(c.val ≥ 'A'.val ∧ c.val ≤ 'Z'.val) := by
      rintro ⟨-, le⟩
      exact absurd (UInt32.le_trans letter.1 le) (by decide)
    unfold Char.toLower
    rw [dif_neg small]
    rfl
  rw [caseEqPrefix_iff, same, List.take_left, named, lower]
  exact ⟨by rw [List.length_append]; omega, rfl⟩

/-- The four commands go to one handler. -/
theorem branch_read {db : SrvBackend} {ext : Extern} {cfg : Config} {env : Env} {command : Str}
    (begins : caseEqPrefix cmdtype.word command = true)
    : db.branch ext cfg env true command
      = checkMandatoryTls cfg (db.docmdArticle cfg command) := by
  have apart (key : Str) (left : caseEqPrefix cmdtype.word key = false)
      (right : caseEqPrefix key cmdtype.word = false)
      : caseEqPrefix key command = false :=
    caseEqPrefix_apart begins left right
  have notNewsgroups := apart "list newsgroups".toList (by cases cmdtype <;> decide)
    (by cases cmdtype <;> decide)
  have notOverview := apart "list overview.fmt".toList (by cases cmdtype <;> decide)
    (by cases cmdtype <;> decide)
  have notListgroup := apart "listgroup".toList (by cases cmdtype <;> decide)
    (by cases cmdtype <;> decide)
  have notList := apart "list".toList (by cases cmdtype <;> decide) (by cases cmdtype <;> decide)
  have notXgtitle := apart "xgtitle".toList (by cases cmdtype <;> decide)
    (by cases cmdtype <;> decide)
  have notHelp := apart "help".toList (by cases cmdtype <;> decide) (by cases cmdtype <;> decide)
  have notGroup := apart "group".toList (by cases cmdtype <;> decide) (by cases cmdtype <;> decide)
  have notXover := apart "xover".toList (by cases cmdtype <;> decide) (by cases cmdtype <;> decide)
  have notXhdr := apart "xhdr".toList (by cases cmdtype <;> decide) (by cases cmdtype <;> decide)
  simp only [SrvBackend.branch, SrvBackend.authCommands, List.find?_cons, notNewsgroups,
    notOverview, notListgroup, notList, notXgtitle, notHelp, notGroup, notXover, notXhdr,
    Bool.true_and]
  cases cmdtype with
  | article =>
      have is : caseEqPrefix "article".toList command = true := begins
      rw [is]
  | head =>
      have is : caseEqPrefix "head".toList command = true := begins
      rw [is]
      cases caseEqPrefix "article".toList command <;> rfl
  | body =>
      have is : caseEqPrefix "body".toList command = true := begins
      rw [is]
      cases caseEqPrefix "article".toList command <;> cases caseEqPrefix "head".toList command <;> rfl
  | stat =>
      have is : caseEqPrefix "stat".toList command = true := begins
      rw [is]
      cases caseEqPrefix "article".toList command <;> cases caseEqPrefix "head".toList command
        <;> cases caseEqPrefix "body".toList command <;> rfl

end Lines

-----------------------------------------------------------------------------------------
-- The replies
-----------------------------------------------------------------------------------------

/-- A client that may command, before its next line. -/
structure Session.Commands (cfg : Config) (r : Session) : Prop where
  idle : r.curstring = []
  authenticated : (r.authIsThere || !cfg.useAuth) = true
  secured : (!r.tlsActive && cfg.tlsIsMandatory) = false
  settled : r.switchToTls = false

/-- The client has selected a newsgroup. -/
structure Session.ReadsIn (cfg : Config) (group : Str) (r : Session) : Prop
    extends r.Commands cfg where
  selected : r.selectedGroup = some group

section Replies

variable {ext : Extern} {cfg : Config} {s : Store} {n : Ngpost} {header body : Str}

theorem doCommand_read {env : Env} {cmdtype : Cmdtype} {command : Str} {r : Session}
    (begins : caseEqPrefix cmdtype.word command = true)
    (authenticated : (r.authIsThere || !cfg.useAuth) = true)
    (secured : (!r.tlsActive && cfg.tlsIsMandatory) = false)
    : (doCommand ext cfg env command).run r = (docmdArticle cfg command).run r := by
  have authinfo : caseEqPrefix "authinfo".toList command = false :=
    caseEqPrefix_apart begins (by cases cmdtype <;> decide) (by cases cmdtype <;> decide)
  have quit : ¬caseEqPrefix "quit".toList command = true := by
    rw [caseEqPrefix_apart begins (by cases cmdtype <;> decide) (by cases cmdtype <;> decide)]
    exact Bool.false_ne_true
  rw [← doCommand_sqlite3, doCommand_branch authinfo quit, authenticated, branch_read begins,
    checkMandatoryTls_run, secured]
  rfl

theorem branch_post {env : Env} {command : Str} (begins : caseEqPrefix "post".toList command = true)
    : SrvBackend.sqlite3.branch ext cfg env true command
      = checkMandatoryTls cfg (SrvBackend.sqlite3.docmdPost ext cfg env) := by
  have apart (key : Str) (left : caseEqPrefix "post".toList key = false)
      (right : caseEqPrefix key "post".toList = false)
      : caseEqPrefix key command = false :=
    caseEqPrefix_apart begins left right
  simp only [SrvBackend.branch, SrvBackend.authCommands, List.find?_cons, Bool.true_and,
    apart "list newsgroups".toList (by decide) (by decide),
    apart "list overview.fmt".toList (by decide) (by decide),
    apart "listgroup".toList (by decide) (by decide), apart "list".toList (by decide) (by decide),
    apart "xgtitle".toList (by decide) (by decide), apart "help".toList (by decide) (by decide),
    apart "group".toList (by decide) (by decide), apart "xover".toList (by decide) (by decide),
    apart "xhdr".toList (by decide) (by decide), apart "article".toList (by decide) (by decide),
    apart "head".toList (by decide) (by decide), apart "body".toList (by decide) (by decide),
    apart "stat".toList (by decide) (by decide), apart "mode reader".toList (by decide) (by decide),
    begins]

/-- A POST line of a client that may command. -/
theorem perform_post {hashSalt : Str} {session : Session} {line : Line}
    (commands : session.Commands cfg) (begins : caseEqPrefix "post".toList line.command = true)
    : SystemStep.perform ext hashSalt s (.serve cfg session line)
      = (s.post ext cfg line.env session.curAuthUser).2 := by
  have authinfo : caseEqPrefix "authinfo".toList line.command = false :=
    caseEqPrefix_apart begins (by decide) (by decide)
  have quit : ¬caseEqPrefix "quit".toList line.command = true := by
    rw [caseEqPrefix_apart begins (by decide) (by decide)]
    exact Bool.false_ne_true
  let fresh : Session := { session with sent := [] }
  have posts : (doCommand ext cfg line.env line.command).run fresh
      = (docmdPost ext cfg line.env).run fresh := by
    rw [← doCommand_sqlite3, doCommand_branch authinfo quit, commands.authenticated,
      branch_post begins, checkMandatoryTls_run, commands.secured, if_neg Bool.false_ne_true,
      docmdPost_sqlite3]
  have switched : ((switchToTls line.env).run fresh).run (exec ext) s = (.ok ((), fresh), s) := by
    have stays : ¬fresh.switchToTls = true := by
      rw [show fresh.switchToTls = false from commands.settled]
      exact Bool.false_ne_true
    rw [switchToTls_run, if_neg stays]
    rfl
  calc SystemStep.perform ext hashSalt s (.serve cfg session line)
    _ = ((((doCommand ext cfg line.env line.command) >>= fun _ => sendReply).run fresh).run
          (exec ext) s).2 := congrArg Prod.snd (run_bind_ok switched)
    _ = (((docmdPost ext cfg line.env).run fresh).run (exec ext) s).2 := by
      rw [store_of_sendReply, posts]
    _ = (s.post ext cfg line.env session.curAuthUser).2 :=
      (docmdPost_run ext cfg line.env s fresh).2

/-- A line whose command returns with a reply. -/
theorem program_of_doCommand {conn : Connection} {line : Line} {r' : Session} {s' : Store}
    (settled : conn.session.switchToTls = false)
    (ran
      : ((doCommand ext cfg line.env line.command).run { conn.session with sent := [] }).run
        (exec ext) conn.store = (.ok ((), r'), s'))
    (replied : r'.curstring ≠ [])
    : (conn.program ext cfg line).run (exec ext) conn.store
      = (.ok ((), { r' with sent := r'.sent ++ r'.curstring, curstring := [] }), s') := by
  have switched : ((switchToTls line.env).run { conn.session with sent := [] }).run (exec ext)
      conn.store = (.ok ((), { conn.session with sent := [] }), conn.store) := by
    have stays : ¬({ conn.session with sent := [] } : Session).switchToTls = true := by
      rw [settled]
      exact Bool.false_ne_true
    rw [switchToTls_run, if_neg stays]
    rfl
  refine (run_bind_ok switched).trans ((run_bind_ok ran).trans ?_)
  show (StateT.run (if r'.curstring = [] then crash else _) r').run (exec ext) s' = _
  rw [if_neg replied]
  rfl

/-- An argument that stands for an article in its newsgroup. -/
structure Addresses (n : Ngpost) (arg : Str) : Prop where
  word : IsWord arg
  nonempty : arg ≠ []
  quoteless : '\'' ∉ arg
  type : ∃ type, artcltyp (some arg) = some type ∧ type.Selects n

/-- What is sent for a line that reads an article. -/
theorem reply_readLine (compares : ComparesNumbers ext) (finds : s.Finds n header body)
    (inFile : cfg.messageBodyInDb = false) (nonempty : body ≠ []) {cmdtype : Cmdtype}
    {word arg : Str} (named : word.map Char.toLower = cmdtype.word) (addresses : Addresses n arg)
    {r : Session} (reads : r.ReadsIn cfg n.ng) {line : Line} (is : line.recvbuf = readLine word arg)
    : (Connection.reply ext cfg ⟨r, s⟩ line).map (·.text)
      = articleReply cmdtype n :: (cmdtype.headerTexts header ++ cmdtype.bodyTexts body) := by
  have command : line.command = word ++ ' ' :: arg := by
    rw [Line.command, is]
    exact command_readLine (isKeyword_word cmdtype) named addresses.quoteless
  obtain ⟨type, addressed, selects⟩ := addresses.type
  have argument : artcltyp (getSlinearg line.command 1) = some type := by
    rw [command, getSlinearg_readLine (isKeyword_word cmdtype) named addresses.word addresses.nonempty, addressed]
  have begins : caseEqPrefix cmdtype.word line.command = true := by
    rw [command]
    exact begins_readLine (isKeyword_word cmdtype) named _
  have kind (old : Cmdtype) : cmdtypeOf line.command old = cmdtype := by
    rw [command]
    exact cmdtypeOf_readLine named _ old
  let fresh : Session := { r with sent := [] }
  have ran := @docmdArticle_run ext cfg s n header body compares finds inFile nonempty line.command
    type argument selects fresh reads.selected
  rw [kind, ← @doCommand_read ext cfg line.env cmdtype line.command fresh begins
    reads.authenticated reads.secured] at ran
  have sent : (fresh.behindRead cmdtype n header body).sent
      ++ (fresh.behindRead cmdtype n header body).curstring
      = (articleReply cmdtype n :: (cmdtype.headerTexts header ++ cmdtype.bodyTexts body)).map
          (fun text => ⟨text, some n⟩) := by
    simp only [Session.behindRead, Session.sending, fresh, reads.idle, List.nil_append]
  have replied : (fresh.behindRead cmdtype n header body).curstring ≠ [] := by
    simp [Session.behindRead, Session.sending]
  rw [Connection.reply, @program_of_doCommand ext cfg ⟨r, s⟩ line _ _ reads.settled ran replied]
  dsimp only
  rw [sent, List.map_map]
  exact List.map_id _

end Replies

-----------------------------------------------------------------------------------------
-- From POST to the replies
-----------------------------------------------------------------------------------------

/-- Letters, digits, dots, hyphens and underscores of names, and the colons of addresses. -/
def isHostChar (c : Char) : Bool := isalnum c || c == '.' || c == '-' || c == '_' || c == ':'

/-- The peer's address and name are those of a host. -/
def HostNames (env : Env) : Prop :=
  ∀ name, env.addr = some name ∨ env.hostinfo = some name → ∀ c ∈ name, isHostChar c = true

def Cmdtype.code : Cmdtype → Str
  | .article => "220".toList
  | .head => "221".toList
  | .body => "222".toList
  | .stat => "223".toList

def Cmdtype.retrieved : Cmdtype → Str
  | .article => "article retrieved - head and body follow".toList
  | .head => "article retrieved - head follows".toList
  | .body => "article retrieved - body follows".toList
  | .stat => "article retrieved - request text separately".toList

/-- What follows the status line. -/
def Cmdtype.contents (header body : Str) : Cmdtype → Str
  | .article => header ++ "\r\n".toList ++ body
  | .head => header ++ ".\r\n".toList
  | .body => body
  | .stat => []

/-- A reply with the article: a status line with its number and its message id, and what the
command asks for. -/
def Cmdtype.Shows (cmdtype : Cmdtype) (n : Ngpost) (header body : Str) (reply : List Piece)
    : Prop :=
  ∃ status,
    cmdtype.code ++ ' ' :: dec n.postnum ++ ' ' :: n.msgid ++ [' '] <+: status
    ∧ OneLine status
    ∧ reply.flatMap Piece.text = status ++ "\r\n".toList ++ cmdtype.contents header body

section Arguments

variable {n : Ngpost} {id : Nat} {host : Str}

theorem isWord_dec (number : Nat) : IsWord (dec number) := by
  intro c member
  have digit := isDigit_of_mem_dec member
  refine ⟨?_, ?_, ?_, ?_⟩
  all_goals
    rintro rfl
    exact absurd digit (by decide)

theorem artcltyp_dec (k : Nat) : artcltyp (some (dec k)) = some (.number (dec k)) := by
  cases text : dec k with
  | nil => exact absurd text Nat.toDigits_ne_nil
  | cons c cs =>
      have digit : c.isDigit = true := isDigit_of_mem_dec (text ▸ List.mem_cons_self ..)
      have range := isDigit_iff_range.mp digit
      have other : c ≠ '<' := by
        rintro rfl
        exact absurd digit (by decide)
      have digits : '0' ≤ c ∧ c ≤ '9' := range
      simp only [artcltyp, if_neg other, if_pos digits]

theorem addresses_number (n : Ngpost) : Addresses n (dec n.postnum) where
  word := isWord_dec n.postnum
  nonempty := Nat.toDigits_ne_nil
  quoteless := fun quote => absurd (isDigit_of_mem_dec quote) (by decide)
  type := ⟨.number (dec n.postnum), artcltyp_dec n.postnum, rfl⟩

theorem mem_numberedId {c : Char} (hostChars : ∀ c ∈ host, isHostChar c = true)
    (member : c ∈ "<cdp".toList ++ dec id ++ ['@'] ++ host)
    : c ∈ "<cdp@".toList ∨ c.isDigit = true ∨ isHostChar c = true := by
  simp only [List.mem_append, List.mem_singleton] at member
  rcases member with ((label | number) | rfl) | name
  · exact Or.inl (List.mem_append_left ['@'] label)
  · exact Or.inr (Or.inl (isDigit_of_mem_dec number))
  · exact Or.inl (by decide)
  · exact Or.inr (Or.inr (hostChars c name))

/-- None of a few bytes is in a message id in front of its last one. -/
theorem notMem_numberedId {c : Char} (hostChars : ∀ c ∈ host, isHostChar c = true)
    (other : c ∉ "<cdp@".toList ∧ c.isDigit = false ∧ isHostChar c = false)
    : c ∉ "<cdp".toList ++ dec id ++ ['@'] ++ host := by
  intro member
  obtain ⟨label, digit, name⟩ := other
  rcases mem_numberedId hostChars member with inside | is | is
  · exact label inside
  · rw [digit] at is
    cases is
  · rw [name] at is
    cases is

theorem ne_of_mem_numberedId {c d : Char} (hostChars : ∀ c ∈ host, isHostChar c = true)
    (other : d ∉ "<cdp@".toList ∧ d.isDigit = false ∧ isHostChar d = false) (last : d ≠ '>')
    (member : c ∈ numberedId id host)
    : c ≠ d := by
  rintro rfl
  rcases List.mem_append.mp member with inside | is
  · exact notMem_numberedId hostChars other inside
  · exact last (List.mem_singleton.mp is)

theorem artcltyp_msgid {param cs : Str} {i : Nat} (opens : param = '<' :: cs)
    (found : strstr ['>'] param = some i)
    : artcltyp (some param) = some (.messageId (param.take (i + 1))) := by
  subst opens
  simp only [artcltyp, if_pos, found]

/-- The first `>` ends a message id. -/
theorem artcltyp_numberedId (hostChars : ∀ c ∈ host, isHostChar c = true)
    : artcltyp (some (numberedId id host)) = some (.messageId (numberedId id host)) := by
  have front := @notMem_numberedId id host '>' hostChars (by decide)
  have ends : ['>'] <+: (numberedId id host).drop ("<cdp".toList ++ dec id ++ ['@'] ++ host).length := by
    rw [numberedId, List.drop_left]
  obtain ⟨j, found, le⟩ := strstr_le_of_prefix ends (List.sublist_append_left _ _).length_le
  have hit := strstr_some_prefix found
  have same : j = ("<cdp".toList ++ dec id ++ ['@'] ++ host).length := by
    by_contra other
    refine front (List.mem_of_mem_drop (i := j) ?_)
    rw [numberedId, List.drop_append_of_le_length (by omega)] at hit
    obtain ⟨tail, whole⟩ := hit
    cases rest : ("<cdp".toList ++ dec id ++ ['@'] ++ host).drop j with
    | nil =>
        rw [List.drop_eq_nil_iff] at rest
        omega
    | cons c cs =>
        rw [rest] at whole
        rw [(List.cons.inj whole).1]
        exact List.mem_cons_self ..
  have whole : (numberedId id host).take (j + 1) = numberedId id host := by
    refine List.take_of_length_le ?_
    rw [same, numberedId, List.length_append]
    simp
  have opens : numberedId id host = '<' :: ("cdp".toList ++ dec id ++ ['@'] ++ host ++ ['>']) := rfl
  rw [artcltyp_msgid opens found, whole]

theorem addresses_msgid (hostChars : ∀ c ∈ host, isHostChar c = true)
    (named : n.msgid = numberedId id host)
    : Addresses n n.msgid where
  word := by
    rw [named]
    intro c member
    refine ⟨?_, ?_, ?_, ?_⟩
    · exact ne_of_mem_numberedId hostChars (by decide) (by decide) member
    · exact ne_of_mem_numberedId hostChars (by decide) (by decide) member
    · exact ne_of_mem_numberedId hostChars (by decide) (by decide) member
    · exact ne_of_mem_numberedId hostChars (by decide) (by decide) member
  nonempty := by
    rw [named]
    exact List.cons_ne_nil _ _
  quoteless := by
    rw [named]
    exact fun quote => ne_of_mem_numberedId hostChars (by decide) (by decide) quote rfl
  type := ⟨.messageId n.msgid, named ▸ artcltyp_numberedId hostChars, rfl⟩

end Arguments

section RoundTrip

variable {ext : Extern} {hashSalt : Str} {cfg : Config} {env : Env} {session : Session}
  {s : Store}

theorem HostNames.host (hosts : HostNames env) {host : Str}
    (named : messageIdHost cfg env = some host)
    : ∀ c ∈ host, isHostChar c = true := by
  have anonym : nntpdAnonymHost.all isHostChar = true := by decide
  have all (text : Str) : (∀ c ∈ text, isHostChar c = true) ↔ text.all isHostChar = true :=
    List.all_eq_true.symm
  rw [all]
  exact messageIdHost_of (P := fun text => text.all isHostChar = true) anonym rfl
    (fun name known => (all name).mp (hosts name known)) named

/-- Every newsgroup that POST has filed an article in has it. -/
theorem finds_of_answered (numbered : s.Numbered) (filing : s.Filing)
    (answered : (PostEnd.reply postdone).IsEndOf session (runPost ext cfg env session s).1)
    : ∃ id article, s.postStores cfg env = some (id, article)
      ∧ ∀ n ∈ (runPost ext cfg env session s).2.ngposts,
          n.msgid = (article.row ext env id).msgid →
            (runPost ext cfg env session s).2.Finds n (article.row ext env id).header
              article.body := by
  obtain ⟨id, article, stores, postings, file⟩ := posted_of_answered answered
  refine ⟨id, article, stores, fun n member named => ?_⟩
  rw [if_pos filing.writable] at file
  refine ⟨?_, Prog.run_invariant filing_exec _ filing, member, ?_, ?_⟩
  · rw [runPost, (docmdPost_run ext cfg env s session).2]
    exact numbered_post ext cfg env session.curAuthUser numbered
  · refine ⟨article.row ext env id, ?_, named.symm, rfl⟩
    rw [runPost, postings]
    exact List.mem_append_right _ (List.mem_singleton_self _)
  · rw [named]
    exact file

theorem nonempty_of_stored {id : Nat} {article : Article}
    (stores : s.postStores cfg env = some (id, article))
    : article.body ≠ [] := by
  obtain ⟨_, _, _, _, _, passed, ready⟩ := postStores_received stores
  rw [(prepareArticle_ok ready).2]
  exact (passesChecks_of_passed passed).nonempty

/-- The body of an article is what follows its first empty line. -/
theorem body_of_received {buf : Str} (received : postReceive cfg.maxPostSize [] env.recv = .article buf)
    (nulFree : NUL ∉ buf) {id : Nat} {article : Article}
    (stores : s.postStores cfg env = some (id, article))
    : ∃ front, buf = front ++ headerSep ++ article.body
        ∧ strstr headerSep buf = some front.length := by
  obtain ⟨buf', len, header, body, received', passed, ready⟩ := postStores_received stores
  rw [received] at received'
  cases received'
  have passes := passesChecks_of_passed passed
  have boundary := passes.boundary
  have rest := passes.rest
  rw [cstr_eq_self nulFree] at boundary rest
  rw [(prepareArticle_ok ready).2]
  refine ⟨buf.take len, ?_, ?_⟩
  · obtain ⟨tail, cut⟩ := strstr_some_prefix boundary
    have body' : tail = body := by
      rw [rest, ← List.drop_drop, ← cut]
      rfl
    rw [List.append_assoc, ← body', cut, List.take_append_drop]
  · obtain ⟨tail, cut⟩ := strstr_some_prefix boundary
    have inside : len ≤ buf.length := by
      by_contra beyond
      rw [List.drop_eq_nil_of_le (by omega)] at cut
      cases cut
    rw [boundary, List.length_take, Nat.min_eq_left inside]

theorem articleReply_eq (cmdtype : Cmdtype) (n : Ngpost)
    : articleReply cmdtype n
      = cmdtype.code ++ [' '] ++ (dec n.postnum ++ ' ' :: n.msgid) ++ ' ' :: cmdtype.retrieved
        ++ "\r\n".toList := by
  rw [List.append_assoc]
  cases cmdtype <;> rfl

theorem shows_of_texts {n : Ngpost} {id : Nat} {host header body : Str}
    (hostChars : ∀ c ∈ host, isHostChar c = true) (named : n.msgid = numberedId id host)
    {cmdtype : Cmdtype} {reply : List Piece}
    (texts : reply.map (·.text)
      = articleReply cmdtype n :: (cmdtype.headerTexts header ++ cmdtype.bodyTexts body))
    : cmdtype.Shows n header body reply := by
  have msgid : OneLine n.msgid := by
    rw [named]
    constructor
    · exact fun cr => ne_of_mem_numberedId hostChars (by decide) (by decide) cr rfl
    · exact fun lf => ne_of_mem_numberedId hostChars (by decide) (by decide) lf rfl
  have args : OneLine (dec n.postnum ++ ' ' :: n.msgid) :=
    OneLine.append (fieldText_dec n.postnum).2 (OneLine.append (by decide : OneLine [' ']) msgid)
  have contents : (cmdtype.headerTexts header ++ cmdtype.bodyTexts body).flatten
      = cmdtype.contents header body := by
    cases cmdtype <;> simp [Cmdtype.headerTexts, Cmdtype.bodyTexts, Cmdtype.contents, periodEnd]
  have whole : reply.flatMap Piece.text = articleReply cmdtype n ++ cmdtype.contents header body := by
    rw [List.flatMap_def, texts, List.flatten_cons, contents]
  have one : OneLine (' ' :: cmdtype.retrieved) := by
    cases cmdtype <;> decide
  have code : OneLine (cmdtype.code ++ [' ']) := by
    cases cmdtype <;> decide
  refine ⟨_, ⟨cmdtype.retrieved, ?_⟩, OneLine.append (OneLine.append code args) one, ?_⟩
  · simp only [List.append_assoc, List.cons_append, List.nil_append]
  · rw [whole, articleReply_eq]

end RoundTrip

/-- POST answers a session as its computation on the store ends. -/
theorem isEndOf_of_post {ext : Extern} {cfg : Config} {env : Env} {s : Store} {session : Session}
    {code : Str} (posted : (s.post ext cfg env session.curAuthUser).1 = .reply code)
    : (PostEnd.reply code).IsEndOf session (runPost ext cfg env session s).1 := by
  obtain ⟨isEnd, -⟩ := docmdPost_run ext cfg env s session
  exact (isEndOf_reply_iff isEnd).mpr posted

/-- A call of the tool that adds a newsgroup to which everybody may post. -/
def addGroupCall (group : Str) : AdmCall := ⟨["addgroup".toList, group, "y".toList], []⟩

/-- A server with one newsgroup. -/
def oneGroup : Store :=
  performAll sampleExtern [] Store.empty.withoutArticles [.administer (addGroupCall "a".toList)]

theorem comparesNumbers_sampleExtern : ComparesNumbers sampleExtern := by
  intro a b
  show (dec a == dec b) = decide (a = b)
  rw [Bool.beq_eq_decide_eq, decide_eq_decide, dec_injective.eq_iff]

theorem hostNames_replyEnv : HostNames replyEnv := by
  intro name known
  rcases known with known | known
  · cases known
    exact List.all_eq_true.mp (by decide)
  · cases known

theorem oneGroup_posted
    : (oneGroup.post sampleExtern openConfig replyEnv none).1 = .reply postdone
      ∧ oneGroup.postStores openConfig replyEnv = some (1, replyArticle)
      ∧ (oneGroup.post sampleExtern openConfig replyEnv none).2.ngposts
        = [⟨numberedId 1 nntpdAnonymHost, "a".toList, 1⟩]
      ∧ (oneGroup.post sampleExtern openConfig replyEnv none).2.newsgroups
        = [⟨"a".toList, 'y', 1⟩] := by
  unfold replyEnv articleWith sampleExtern replyArticle
  repeat rw [String.toList_ofList]
  decide +kernel

end WendzelNNTPd
