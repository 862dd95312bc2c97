import WendzelNNTPd.Posting.Alone

/-! When POST is all or nothing. The body and the row in `postings` are written before the loop
over the newsgroups, which can stop in the middle; there is no transaction. What remains is
whole exactly if the loop gets to every newsgroup of the article for the first time.
-/

namespace WendzelNNTPd

open CString Atomic

section Property

/-- Articles, numbers, newsgroups and bodies are the same. -/
structure Store.SameArticles (s s' : Store) : Prop where
  postings : s'.postings = s.postings
  ngposts : s'.ngposts = s.ngposts
  newsgroups : s'.newsgroups = s.newsgroups
  spool : s'.spool = s.spool

/-- The tables that POST has no business with are the same. -/
structure Store.SameAccounts (s s' : Store) : Prop where
  users : s'.users = s.users
  roles : s'.roles = s.roles
  users2roles : s'.users2roles = s.users2roles
  aclUsers : s'.aclUsers = s.aclUsers
  aclRoles : s'.aclRoles = s.aclRoles

/-- An article is stored with its body, and each of the newsgroups has got its next number. -/
structure Store.StoredIn (s s' : Store) (row : Posting) (body : Str) (groups : List Str)
    : Prop where
  fresh : s.hasPosting row.msgid = false
  postings : s'.postings = s.postings ++ [row]
  spool : s'.spool = Function.update s.spool (bodyFile row.msgid) (some body)
  ngposts :
    ∃ number : Str → Nat,
      (∀ g ∈ groups, ∃ r ∈ s.newsgroups, r.name = g ∧ number g = r.high + 1)
      ∧ s'.ngposts = s.ngposts ++ groups.map (fun g => ⟨row.msgid, g, number g⟩)
  newsgroups :
    s'.newsgroups
      = s.newsgroups.map (fun r => if r.name ∈ groups then { r with high := r.high + 1 } else r)

/-- POST has left everything as it was, or stored the article in all newsgroups of its
Newsgroups value that the user may post to; it has answered 240 only in the second case. -/
def PostAllOrNothing (cfg : Config) (env : Env) (session : Session) (s : Store)
    (result : Except Exit (Unit × Session)) (s' : Store)
    : Prop :=
  s.SameAccounts s'
  ∧ (s.SameArticles s' ∧ ¬(PostEnd.reply postdone).IsEndOf session result
    ∨ ∃ buf len header ngstrp body row groups,
        postReceive cfg.maxPostSize [] env.recv = .article buf
        ∧ checkArticle buf = .passed len header ngstrp body
        ∧ groups ≠ [] ∧ groups.Nodup
        ∧ (∀ g, g ∈ groups ↔ g ∈ strtok ',' ngstrp ∧ s.mayPost cfg session.curAuthUser g = true)
        ∧ s.StoredIn s' row body groups)

end Property

section Condition

variable (s : Store)

/-- The number and the article with which POST comes to store something, if it does. -/
def Store.postStores (cfg : Config) (env : Env) : Option (Nat × Article) :=
  match prepare cfg env with
  | .checked ngstrp (.ok article) =>
      if (s.postRefusal (strtok ',' ngstrp)).isNone && !cfg.messageCountInDb then
        s.nextId.map (fun id => (id, article))
      else none
  | _ => none

/-- A newsgroup can take an article: it exists under one high value below the limit, and has no
row for this message id. -/
def Store.CanTake (messageId newsgroup : Str) : Prop :=
  s.HasGroup newsgroup
  ∧ (∃ high ≤ highLimit, ∀ r ∈ s.newsgroups, r.name = newsgroup → r.high = high)
  ∧ s.hasNgpost messageId newsgroup = false

/-- A newsgroup has room for another article behind the next one. -/
def Store.HasRoom (newsgroup : Str) : Prop :=
  ∀ r ∈ s.newsgroups, r.name = newsgroup → r.high < highLimit

/-- Whatever newsgroup is named again while another one is still to come is remembered by the
stack and has room for another article. -/
def RepeatsCaught (hasRoom : Str → Prop) : List Str → Charstack → List Str → Prop
  | [], _, _ => True
  | newsgroup :: rest, stack, served =>
      if newsgroup ∈ served then
        ((∃ other ∈ rest, other ∉ served) → stack.checkFor newsgroup = true ∧ hasRoom newsgroup)
        ∧ RepeatsCaught hasRoom rest stack served
      else RepeatsCaught hasRoom rest (stack.pushOn newsgroup) (served ++ [newsgroup])

/-- The condition on an article that is about to be stored: `postings` refuses it and its body
is already there, or everything can be written. -/
def Store.StoresWhole (row : Posting) (body : Str) (groups : List Str) : Prop :=
  if s.refusesPosting row then
    s.spool (bodyFile row.msgid) = if s.spoolWritable then some body else none
  else
    s.spoolWritable = true ∧ groups ≠ [] ∧ (∀ g ∈ groups, s.CanTake row.msgid g)
    ∧ RepeatsCaught s.HasRoom groups .empty []

end Condition

section Serve

variable {s : Store} {init : Nat} {messageId : Str}

/-- The values the stack remembers. -/
def Charstack.values : Charstack → List Str
  | .empty => []
  | .hasdata value next => value :: next

theorem checkFor_iff {stack : Charstack} {v : Str} : stack.checkFor v = true ↔ v ∈ stack.values := by
  cases stack with
  | empty => simp [Charstack.checkFor, Charstack.values]
  | hasdata value next =>
      simp only [Charstack.checkFor, Charstack.values, Bool.or_eq_true, beq_iff_eq,
        List.contains_iff_mem, List.mem_cons]
      exact or_congr_left eq_comm

theorem mem_values_pushOn {stack : Charstack} {v w : Str} (member : w ∈ (stack.pushOn v).values)
    : w ∈ stack.values ∨ w = v := by
  cases stack with
  | empty => exact Or.inr (by simpa [Charstack.pushOn, Charstack.values] using member)
  | hasdata value next =>
      rcases (by simpa [Charstack.pushOn, Charstack.values] using member : w = value ∨ w = v) with
        first | last
      · exact Or.inl (by simp [Charstack.values, first])
      · exact Or.inr last

/-- The newsgroups that the loop has served: each once, each of those it was given, with a
number that was free. -/
structure Served (s : Store) (init : Nat) (messageId : Str) (served : List Str) : Prop where
  nodup : served.Nodup
  free : ∀ g ∈ served, s.hasNgpost messageId g = false
  room : ∀ g ∈ served, s.highValue init g ≤ highLimit

theorem Served.append {served : List Str} {newsgroup : Str} (before : Served s init messageId served)
    (free : (s.hasNgpost messageId newsgroup || served.contains newsgroup) = false)
    (room : s.highValue init newsgroup ≤ highLimit)
    : Served s init messageId (served ++ [newsgroup]) := by
  simp only [Bool.or_eq_false_iff, List.contains_eq_mem, decide_eq_false_iff_not] at free
  refine ⟨?_, ?_, ?_⟩
  · rw [List.nodup_append]
    refine ⟨before.nodup, by simp, ?_⟩
    rintro a member b last rfl
    exact free.2 (List.mem_singleton.mp last ▸ member)
  · intro g member
    rcases List.mem_append.mp member with earlier | last
    · exact before.free g earlier
    · rw [List.mem_singleton.mp last]
      exact free.1
  · intro g member
    rcases List.mem_append.mp member with earlier | last
    · exact before.room g earlier
    · rw [List.mem_singleton.mp last]
      exact room

/-- What the loop has served when it ends.
Witness: induction on the newsgroups; a newsgroup is added only if its row is new.
-/
theorem serve_served (groups : List Str) (stack : Charstack) {served : List Str}
    (before : Served s init messageId served)
    : Served s init messageId (s.serve init messageId groups stack served).2
      ∧ served ⊆ (s.serve init messageId groups stack served).2
      ∧ (s.serve init messageId groups stack served).2 ⊆ served ++ groups := by
  induction groups generalizing stack served with
  | nil => exact ⟨before, List.Subset.refl _, by simp [Store.serve]⟩
  | cons newsgroup rest ih =>
      have wider : served ++ rest ⊆ served ++ newsgroup :: rest := by
        intro g member
        rcases List.mem_append.mp member with earlier | later
        · exact List.mem_append_left _ earlier
        · exact List.mem_append_right _ (List.mem_cons_of_mem _ later)
      simp only [Store.serve]
      split
      · exact ⟨before, List.Subset.refl _, List.subset_append_left _ _⟩
      · split
        · obtain ⟨all, keeps, within⟩ := ih stack before
          exact ⟨all, keeps, fun g member => wider (within member)⟩
        · split
          · exact ⟨before, List.Subset.refl _, List.subset_append_left _ _⟩
          · rename_i notFull _ notTaken
            have free := Bool.eq_false_iff.mpr notTaken
            have fresh : newsgroup ∉ served := by
              intro member
              simp [member] at free
            rw [highValue_deliver_of_notMem fresh] at notFull
            have next := before.append free (Nat.not_lt.mp notFull)
            obtain ⟨all, keeps, within⟩ := ih (stack.pushOn newsgroup) next
            refine ⟨all, fun g member => keeps (List.mem_append_left _ member), ?_⟩
            simpa only [List.append_assoc, List.singleton_append] using within

/-- Newsgroups that have been served cannot stop the loop too early. -/
theorem repeatsCaught_of_served {hasRoom : Str → Prop} {rest : List Str} {stack : Charstack}
    {served : List Str} (all : ∀ g ∈ rest, g ∈ served)
    : RepeatsCaught hasRoom rest stack served := by
  induction rest with
  | nil => trivial
  | cons newsgroup rest ih =>
      simp only [RepeatsCaught, all newsgroup (by simp), if_true]
      refine ⟨?_, ih (fun g member => all g (List.mem_cons_of_mem _ member))⟩
      rintro ⟨other, member, missing⟩
      exact absurd (all other (List.mem_cons_of_mem _ member)) missing

/-- A newsgroup exists and all its rows have the high value that is read. -/
def Store.Uniform (s : Store) (init : Nat) (newsgroup : Str) : Prop :=
  s.HasGroup newsgroup ∧ ∀ r ∈ s.newsgroups, r.name = newsgroup → r.high = s.highValue init newsgroup

theorem Store.Uniform.lt_iff {newsgroup : Str} (uniform : s.Uniform init newsgroup)
    : s.HasRoom newsgroup ↔ s.highValue init newsgroup < highLimit := by
  obtain ⟨⟨r, member, named⟩, same⟩ := uniform
  constructor
  · intro room
    rw [← same r member named]
    exact room r member named
  · intro room r member named
    rw [same r member named]
    exact room

/-- The loop serves all newsgroups if and only if it can take each of them and catches every
repetition in front of a newsgroup still to come.
Witness: induction on the newsgroups. A repetition that stops the loop is harmless if all the
others have been served; a newsgroup that comes for the first time is unknown to the stack.
-/
theorem serve_complete_iff (groups : List Str) (stack : Charstack) {served : List Str}
    (before : Served s init messageId served) (remembered : stack.values ⊆ served)
    (existing : ∀ g ∈ served ++ groups, s.Uniform init g)
    : (∀ g ∈ groups, g ∈ (s.serve init messageId groups stack served).2)
      ↔ (∀ g ∈ groups, g ∉ served →
          s.hasNgpost messageId g = false ∧ s.highValue init g ≤ highLimit)
        ∧ RepeatsCaught s.HasRoom groups stack served := by
  induction groups generalizing stack served with
  | nil => simp [RepeatsCaught]
  | cons newsgroup rest ih =>
      by_cases known : newsgroup ∈ served
      · have uniform := existing newsgroup (List.mem_append_left _ known)
        have limit := before.room newsgroup known
        have raised : (s.deliver init messageId served).highValue init newsgroup
            = s.highValue init newsgroup + 1 := by
          rw [highValue_deliver_of_mem known uniform.1]
          exact Nat.mod_eq_of_lt (by unfold highLimit at limit; omega)
        by_cases goesOn : stack.checkFor newsgroup = true ∧ s.highValue init newsgroup < highLimit
        · have notFull : ¬s.highValue init newsgroup + 1 > highLimit := by omega
          have kept : newsgroup ∈ (s.serve init messageId rest stack served).2 :=
            (serve_served rest stack before).2.1 known
          have next := ih stack before remembered
            (fun g member => existing g (by simp at member ⊢; tauto))
          simp only [Store.serve, RepeatsCaught, raised, notFull, goesOn.1, known, if_true,
            if_false, List.forall_mem_cons, kept, true_and, uniform.lt_iff, goesOn.2, not_true_eq_false,
            false_imp_iff, and_self, implies_true, next]
        · have stopped : (s.serve init messageId (newsgroup :: rest) stack served).2 = served := by
            simp only [Store.serve, raised]
            split
            · rfl
            · split
              · rename_i notFull caught
                exact absurd ⟨caught, by omega⟩ goesOn
              · simp [known]
          rw [stopped]
          constructor
          · intro all
            refine ⟨fun g member missing => absurd (all g member) missing, ?_⟩
            exact repeatsCaught_of_served all
          · rintro ⟨-, caught⟩ g member
            simp only [RepeatsCaught, known, if_true, uniform.lt_iff] at caught
            rcases List.mem_cons.mp member with rfl | later
            · exact known
            · by_contra missing
              exact goesOn (caught.1 ⟨g, later, missing⟩)
      · have unknown : ¬stack.checkFor newsgroup = true := by
          rw [checkFor_iff]
          exact fun member => known (remembered member)
        by_cases takes : s.hasNgpost messageId newsgroup = false
            ∧ s.highValue init newsgroup ≤ highLimit
        · have free : (s.hasNgpost messageId newsgroup || served.contains newsgroup) = false := by
            simp [takes.1, known]
          have notFull : ¬s.highValue init newsgroup > highLimit := Nat.not_lt.mpr takes.2
          have extended := before.append free takes.2
          have kept := (serve_served rest (stack.pushOn newsgroup) extended).2.1
            (List.mem_append_right served (List.mem_singleton.mpr rfl))
          have next := ih (stack.pushOn newsgroup) extended
            (fun g member => by
              rcases mem_values_pushOn member with earlier | rfl
              · exact List.mem_append_left _ (remembered earlier)
              · exact List.mem_append_right _ (List.mem_singleton.mpr rfl))
            (fun g member => existing g (by simp at member ⊢; tauto))
          have goesOn : s.serve init messageId (newsgroup :: rest) stack served
              = s.serve init messageId rest (stack.pushOn newsgroup) (served ++ [newsgroup]) := by
            simp only [Store.serve, highValue_deliver_of_notMem known, notFull, unknown, free,
              if_false, Bool.false_eq_true]
          rw [goesOn]
          simp only [RepeatsCaught, known, if_false, List.forall_mem_cons, kept, true_and,
            not_false_eq_true, takes.1, takes.2, and_self, forall_const, next]
          refine and_congr_left (fun _ => forall₂_congr (fun g _ => ?_))
          by_cases same : g = newsgroup
          · subst same
            simp [takes]
          · simp [same]
        · have stopped : (s.serve init messageId (newsgroup :: rest) stack served).2 = served := by
            simp only [Store.serve, highValue_deliver_of_notMem known, unknown]
            split
            · rfl
            · rename_i notFull
              have taken : s.hasNgpost messageId newsgroup = true := by
                by_contra free
                exact takes ⟨Bool.eq_false_iff.mpr free, Nat.not_lt.mp notFull⟩
              simp [taken]
          rw [stopped]
          constructor
          · intro all
            exact absurd (all newsgroup (by simp)) known
          · rintro ⟨all, -⟩
            exact absurd (all newsgroup (by simp) known) takes

end Serve

section Stored

variable {s : Store} {init : Nat} {row : Posting} {body : Str}

/-- The store behind the insert into `postings`. -/
def Store.posted (s : Store) (row : Posting) (body : Str) : Store :=
  (s.saveBody row.msgid body).withPosting row

/-- A delivery stores the article whole if and only if the body could be written and every
newsgroup it has gone to exists under one high value. -/
theorem storedIn_deliver_iff {delivered : List Str} (fresh : s.hasPosting row.msgid = false)
    {row' : Posting} {body' : Str} {groups : List Str}
    : s.StoredIn ((s.posted row body).deliver init row.msgid delivered) row' body' groups
      ↔ row' = row ∧ body' = body ∧ groups = delivered ∧ s.spoolWritable = true
        ∧ ∀ g ∈ delivered, s.Uniform init g := by
  constructor
  · intro stored
    obtain ⟨number, numbers, rows⟩ := stored.ngposts
    have sameRow : row' = row := by
      simpa [Store.deliver, Store.posted, Store.withPosting, Store.saveBody] using stored.postings.symm
    subst sameRow
    have written := congrFun stored.spool (bodyFile row'.msgid)
    simp only [Store.deliver, Store.posted, Store.withPosting, Store.saveBody,
      Function.update_self] at written
    have writable : s.spoolWritable = true := by
      by_contra readOnly
      rw [if_neg readOnly] at written
      cases written
    rw [if_pos writable, Option.some.injEq] at written
    have delivery : delivered.map (fun g => Ngpost.mk row'.msgid g (s.highValue init g + 1))
        = groups.map (fun g => Ngpost.mk row'.msgid g (number g)) :=
      List.append_cancel_left rows
    have sameGroups : groups = delivered := by
      have names := congrArg (List.map (fun n : Ngpost => n.ng)) delivery
      simp only [List.map_map, Function.comp_def, List.map_id'] at names
      exact names.symm
    subst sameGroups
    refine ⟨rfl, written.symm, rfl, writable, fun g member => ⟨?_, ?_⟩⟩
    · obtain ⟨r, found, named, -⟩ := numbers g member
      exact ⟨r, found, named⟩
    · intro r found named
      have changed := List.map_inj_left.mp stored.newsgroups r found
      simp only [named, member, if_true, Newsgroup.mk.injEq] at changed
      exact (Nat.succ.inj changed.2.2).symm
  · rintro ⟨rfl, rfl, rfl, writable, uniform⟩
    refine ⟨fresh, rfl, ?_, ⟨fun g => s.highValue init g + 1, ?_, rfl⟩, ?_⟩
    · simp [Store.deliver, Store.posted, Store.withPosting, Store.saveBody, writable]
    · intro g member
      obtain ⟨⟨r, found, named⟩, same⟩ := uniform g member
      exact ⟨r, found, named, by rw [same r found named]⟩
    · refine List.map_congr_left (fun r found => ?_)
      split
      · rename_i member
        rw [(uniform r.name member).2 r found rfl]
        rfl
      · rfl

/-- The high value that is read is the one all rows of the newsgroup have. -/
theorem highValue_of_rows {newsgroup : Str} {high : Nat} (found : s.HasGroup newsgroup)
    (same : ∀ r ∈ s.newsgroups, r.name = newsgroup → r.high = high) (small : high < 2 ^ 32)
    : s.highValue init newsgroup = high := by
  obtain ⟨r, member, named⟩ := found
  have there : s.newsgroups.filter (·.name == newsgroup) ≠ [] :=
    List.ne_nil_of_mem (List.mem_filter.mpr ⟨member, by simpa using named⟩)
  have last := List.mem_filter.mp (List.getLast_mem there)
  simp only [Store.highValue, List.getLast?_eq_some_getLast there, Option.map_some,
    Option.getD_some]
  rw [same _ last.1 (by simpa using last.2), Nat.mod_eq_of_lt small]

theorem canTake_iff {messageId newsgroup : Str}
    : s.CanTake messageId newsgroup
      ↔ s.Uniform init newsgroup ∧ s.hasNgpost messageId newsgroup = false
        ∧ s.highValue init newsgroup ≤ highLimit := by
  constructor
  · rintro ⟨found, ⟨high, limit, same⟩, free⟩
    have read : s.highValue init newsgroup = high :=
      highValue_of_rows found same (by unfold highLimit at limit; omega)
    exact ⟨⟨found, fun r member named => (same r member named).trans read.symm⟩, free, read ▸ limit⟩
  · rintro ⟨⟨found, same⟩, free, limit⟩
    exact ⟨found, ⟨_, limit, same⟩, free⟩

/-- The end of POST stores the article whole or changes nothing if and only if the condition
holds.
Witness: if the message id is in use, only the body file can have changed. Otherwise there is a
new row, and the loop must have delivered the article to all newsgroups.
-/
theorem storeAlone_whole_iff (s : Store) (row : Posting) (body : Str) (cfg : Config) (env : Env) (user : Option Str) (groups : List Str)
    : (s.SameArticles (s.storeAlone cfg env user row body groups).2
        ∧ (s.storeAlone cfg env user row body groups).1 ≠ .reply postdone
      ∨ ∃ row' whole,
          whole ≠ [] ∧ whole.Nodup ∧ (∀ g, g ∈ whole ↔ g ∈ groups ∧ s.mayPost cfg user g = true)
          ∧ s.StoredIn (s.storeAlone cfg env user row body groups).2 row' body whole)
      ↔ s.StoresWhole row body (groups.filter (s.mayPost cfg user)) := by
  by_cases used : s.refusesPosting row = true
  · have ended : s.storeAlone cfg env user row body groups
        = (.killed, s.saveBody row.msgid body) := by
      simp only [Store.storeAlone, used, if_true]
    rw [ended, Store.StoresWhole, if_pos used]
    constructor
    · rintro (⟨same, -⟩ | ⟨_, _, _, _, _, stored⟩)
      · exact (Function.update_eq_self_iff.mp same.spool).symm
      · have sameRow := stored.postings
        simp [Store.saveBody] at sameRow
    · intro there
      refine Or.inl ⟨⟨rfl, rfl, rfl, ?_⟩, by simp⟩
      exact Function.update_eq_self_iff.mpr there.symm
  · have accepted := Bool.eq_false_iff.mpr used
    have fresh : s.hasPosting row.msgid = false := (Bool.or_eq_false_iff.mp accepted).2
    generalize loop : (s.posted row body).serve env.curHighInit row.msgid
      (groups.filter (s.mayPost cfg user)) .empty [] = outcome
    have start : Served (s.posted row body) env.curHighInit row.msgid [] :=
      ⟨List.nodup_nil, by simp, by simp⟩
    have after := serve_served (groups.filter (s.mayPost cfg user)) .empty start
    rw [loop] at after
    have ended : (s.storeAlone cfg env user row body groups).2
        = (s.posted row body).deliver env.curHighInit row.msgid outcome.2 := by
      obtain ⟨finished, delivered⟩ := outcome
      simp only [Store.posted] at loop ⊢
      cases finished <;> simp only [Store.storeAlone, accepted, Bool.false_eq_true, if_false, loop]
    rw [ended, Store.StoresWhole, if_neg used]
    have complete (existing : ∀ g ∈ groups.filter (s.mayPost cfg user), s.Uniform env.curHighInit g) :=
      serve_complete_iff (groups.filter (s.mayPost cfg user)) .empty start
        (by simp [Charstack.values]) existing
    rw [loop] at complete
    constructor
    · rintro (⟨same, -⟩ | ⟨row', whole, nonempty, -, members, stored⟩)
      · have samePostings := same.postings
        simp [Store.deliver, Store.posted, Store.withPosting, Store.saveBody] at samePostings
      · obtain ⟨-, -, rfl, writable, uniform⟩ := (storedIn_deliver_iff fresh).mp stored
        have all : ∀ g ∈ groups.filter (s.mayPost cfg user), g ∈ outcome.2 :=
          fun g member => (members g).mpr (List.mem_filter.mp member)
        have existing := fun g member => uniform g (all g member)
        obtain ⟨takes, caught⟩ := (complete existing).mp all
        refine ⟨writable, ?_, fun g member => ?_, caught⟩
        · obtain ⟨g, member⟩ := List.exists_mem_of_ne_nil _ nonempty
          exact List.ne_nil_of_mem (List.mem_filter.mpr ((members g).mp member))
        · exact canTake_iff.mpr ⟨existing g member, takes g member List.not_mem_nil⟩
    · rintro ⟨writable, nonempty, takes, caught⟩
      have existing : ∀ g ∈ groups.filter (s.mayPost cfg user), s.Uniform env.curHighInit g :=
        fun g member => (canTake_iff.mp (takes g member)).1
      have all := (complete existing).mpr
        ⟨fun g member _ => (canTake_iff.mp (takes g member)).2, caught⟩
      have members (g : Str) : g ∈ outcome.2 ↔ g ∈ groups ∧ s.mayPost cfg user g = true := by
        rw [← List.mem_filter]
        exact ⟨fun member => by simpa using after.2.2 member, all g⟩
      refine Or.inr ⟨row, outcome.2, ?_, after.1.nodup, members, (storedIn_deliver_iff fresh).mpr ?_⟩
      · obtain ⟨g, member⟩ := List.exists_mem_of_ne_nil _ nonempty
        exact List.ne_nil_of_mem (all g member)
      · refine ⟨rfl, rfl, rfl, writable, fun g member => ?_⟩
        exact existing g (List.mem_filter.mpr ((members g).mp member))

end Stored

section Ends

theorem checkArticle_ne {buf message : Str} (refused : checkArticle buf = .refused message)
    : message ≠ postdone := by
  have others : ∀ m ∈ [progerr503, hdrerrorNewsgroup, hdrerrorFrom, hdrerrorSubject],
      m ≠ postdone := by
    decide
  exact others message (message_of_refused refused)

theorem postRefusal_ne {s : Store} {groups : List Str} {message : Str}
    (refused : s.postRefusal groups = some message)
    : message ≠ postdone := by
  induction groups with
  | nil => cases refused
  | cons newsgroup rest ih =>
      simp only [Store.postRefusal] at refused
      split at refused
      · cases refused
        decide
      · split at refused
        · cases refused
          decide
        · exact ih refused

variable {cfg : Config} {env : Env}

/-- No end before the store is a 240. -/
theorem prepare_ended_ne {ends : PostEnd} (ended : prepare cfg env = .ended ends)
    : ends ≠ .reply postdone := by
  unfold prepare prepareBuffer at ended
  rintro rfl
  split at ended
  · cases ended
  · cases ended
  · cases ended
  · split at ended
    · cases ended
    · cases ended
    · rename_i refused
      cases ended
      exact checkArticle_ne refused rfl
    · cases ended

theorem prepareArticle_error_ne {len : Nat} {header ngstrp body : Str} {ends : PostEnd}
    (ended : prepareArticle cfg env len header ngstrp body = .error ends)
    : ends ≠ .reply postdone := by
  unfold prepareArticle at ended
  rintro rfl
  repeat' split at ended
  all_goals cases ended

/-- What an article that is to be stored was received as. -/
theorem prepare_checked {ngstrp : Str} {next : Except PostEnd Article}
    (checked : prepare cfg env = .checked ngstrp next)
    : ∃ buf len header body,
        postReceive cfg.maxPostSize [] env.recv = .article buf
        ∧ checkArticle buf = .passed len header ngstrp body
        ∧ next = prepareArticle cfg env len header ngstrp body := by
  unfold prepare prepareBuffer at checked
  split at checked
  · cases checked
  · cases checked
  · cases checked
  · rename_i buf received
    split at checked
    · cases checked
    · cases checked
    · cases checked
    · rename_i len header ngstrp body passed
      cases checked
      exact ⟨buf, len, header, body, received, passed, rfl⟩

theorem prepareArticle_ok {len : Nat} {header ngstrp body : Str} {article : Article}
    (ready : prepareArticle cfg env len header ngstrp body = .ok article)
    : article.ngstrp = ngstrp ∧ article.body = body := by
  unfold prepareArticle at ready
  repeat' split at ready
  all_goals cases ready
  exact ⟨rfl, rfl⟩

end Ends

/-- A run has one end. -/
theorem isEndOf_reply_iff {session : Session} {result : Except Exit (Unit × Session)}
    {ends : PostEnd} (isEnd : ends.IsEndOf session result) {message : Str}
    : (PostEnd.reply message).IsEndOf session result ↔ ends = .reply message := by
  constructor
  · rintro ⟨session', returned, reply⟩
    cases ends with
    | reply other =>
        obtain ⟨session'', returned', reply'⟩ := isEnd
        rw [returned] at returned'
        cases returned'
        rw [reply] at reply'
        simpa using reply'.symm
    | killed =>
        obtain ⟨sent, stopped⟩ := isEnd
        rw [returned] at stopped
        cases stopped
    | crashed =>
        rw [PostEnd.IsEndOf, returned] at isEnd
        cases isEnd
    | waiting =>
        rw [PostEnd.IsEndOf, returned] at isEnd
        cases isEnd
  · rintro rfl
    exact isEnd

section Whole

variable (ext : Extern) {cfg : Config} {env : Env} (user : Option Str) {s : Store}

/-- POST that does not come to the store changes at most the counter file. -/
theorem post_of_not_stores (stores : s.postStores cfg env = none)
    : (s.post ext cfg env user).1 ≠ .reply postdone
      ∧ ((s.post ext cfg env user).2 = s ∨ (s.post ext cfg env user).2 = s.counted) := by
  unfold Store.post
  unfold Store.postStores at stores
  cases prepared : prepare cfg env with
  | ended ends => exact ⟨prepare_ended_ne prepared, Or.inl rfl⟩
  | checked ngstrp next =>
      simp only [Store.postPrepared]
      rw [prepared] at stores
      cases refusal : s.postRefusal (strtok ',' ngstrp) with
      | some message => exact ⟨by simpa using postRefusal_ne refusal, Or.inl rfl⟩
      | none =>
          by_cases inDb : cfg.messageCountInDb = true
          · simp [inDb]
          · simp only [inDb, Bool.false_eq_true, if_false]
            cases taken : s.nextId with
            | none => exact ⟨by simp, Or.inl rfl⟩
            | some id =>
                cases next with
                | error ends =>
                    obtain ⟨_, _, _, _, _, _, ended⟩ := prepare_checked prepared
                    exact ⟨prepareArticle_error_ne ended.symm, Or.inr rfl⟩
                | ok article => simp [refusal, inDb, taken] at stores

theorem post_of_stores {id : Nat} {article : Article}
    (stores : s.postStores cfg env = some (id, article))
    : s.post ext cfg env user
        = s.counted.storeAlone cfg env user (article.row ext env id) article.body article.groups
      ∧ s.counted = { s with msgidFile := some (some id) } := by
  unfold Store.post
  unfold Store.postStores at stores
  cases prepared : prepare cfg env with
  | ended ends => simp [prepared] at stores
  | checked ngstrp next =>
      rw [prepared] at stores
      cases next with
      | error ends => cases stores
      | ok found =>
          simp only at stores
          split at stores
          · rename_i goesOn
            simp only [Bool.and_eq_true, Option.isNone_iff_eq_none, Bool.not_eq_true'] at goesOn
            obtain ⟨taken, number, same⟩ := Option.map_eq_some_iff.mp stores
            cases same
            refine ⟨?_, by simp only [Store.counted, number]⟩
            simp only [Store.postPrepared, goesOn.1, goesOn.2, number, Bool.false_eq_true, if_false]
          · cases stores

theorem postStores_received {id : Nat} {article : Article}
    (stores : s.postStores cfg env = some (id, article))
    : ∃ buf len header body,
        postReceive cfg.maxPostSize [] env.recv = .article buf
        ∧ checkArticle buf = .passed len header article.ngstrp body
        ∧ prepareArticle cfg env len header article.ngstrp body = .ok article := by
  unfold Store.postStores at stores
  split at stores
  · rename_i ngstrp found prepared
    split at stores
    · obtain ⟨_, _, same⟩ := Option.map_eq_some_iff.mp stores
      cases same
      obtain ⟨buf, len, header, body, received, passed, ready⟩ := prepare_checked prepared
      rw [← (prepareArticle_ok ready.symm).1] at passed ready
      exact ⟨buf, len, header, body, received, passed, ready.symm⟩
    · cases stores
  · cases stores

theorem postStores_checked {id : Nat} {article : Article}
    (stores : s.postStores cfg env = some (id, article))
    : s.postRefusal article.groups = none ∧ s.nextId = some id := by
  unfold Store.postStores at stores
  split at stores
  · rename_i ngstrp found prepared
    split at stores
    · rename_i goesOn
      simp only [Bool.and_eq_true, Option.isNone_iff_eq_none] at goesOn
      obtain ⟨_, taken, same⟩ := Option.map_eq_some_iff.mp stores
      cases same
      obtain ⟨_, _, _, _, _, _, ready⟩ := prepare_checked prepared
      rw [Article.groups, (prepareArticle_ok ready.symm).1]
      exact ⟨goesOn.1, taken⟩
    · cases stores
  · cases stores

theorem sameAccounts_post : s.SameAccounts (s.post ext cfg env user).2 := by
  have counted : s.SameAccounts s.counted := by
    unfold Store.counted
    split <;> exact ⟨rfl, rfl, rfl, rfl, rfl⟩
  cases stores : s.postStores cfg env with
  | none =>
      rcases (post_of_not_stores ext user stores).2 with same | same <;> rw [same]
      · exact ⟨rfl, rfl, rfl, rfl, rfl⟩
      · exact counted
  | some stored =>
      obtain ⟨id, article⟩ := stored
      rw [(post_of_stores ext user stores).1]
      simp only [Store.storeAlone]
      split
      · exact ⟨counted.users, counted.roles, counted.users2roles, counted.aclUsers, counted.aclRoles⟩
      · split
        all_goals
          exact ⟨counted.users, counted.roles, counted.users2roles, counted.aclUsers,
            counted.aclRoles⟩

end Whole

section Repeated

/-- A server without authentication and TLS. -/
def openConfig : Config where
  useAuth := false
  useAcl := false
  messageBodyInDb := false
  messageCountInDb := false
  tlsIsMandatory := false
  anonymMessageIds := true
  maxPostSize := 1024
  hashSalt := []
  enableStarttls := false

/-- Library functions as POST needs them, with a fixed date. -/
def postExtern : Extern :=
  ⟨fun _ => [], fun _ _ => false, fun _ => "Thu, 01 Jan 1970 00:00:00".toList, fun _ _ => false⟩

/-- A client that sends the given text in one piece. -/
def sendingEnv (text : Str) : Env where
  ltime := some 0
  dateText := []
  fam4 := true
  addr := some "127.0.0.1".toList
  hostinfo := none
  hostname := some "news".toList
  domainname := none
  curHighInit := 0
  recv := [.data text]
  tlsSessionInit := false

/-- An article that names the second of four newsgroups again before the last one. -/
def repeatingArticle : Str :=
  ("From: a@b.org\r\nNewsgroups: a,b,c,b,d\r\nSubject: hi\r\n\r\nhello\r\n.\r\n").toList

/-- Four newsgroups without articles. -/
def fourGroups : Store :=
  { Store.empty with
    newsgroups :=
      [⟨"a".toList, 'y', 0⟩, ⟨"b".toList, 'y', 0⟩, ⟨"c".toList, 'y', 0⟩, ⟨"d".toList, 'y', 0⟩] }

end Repeated

end WendzelNNTPd
