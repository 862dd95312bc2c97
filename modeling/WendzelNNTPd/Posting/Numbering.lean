import WendzelNNTPd.Posting.AllOrNothing
import WendzelNNTPd.Admin.Effects

/-! The numbers of the articles and of the message ids. The high value in `newsgroups`, the rows
in `ngposts` and the counter in `MSGID_FILE` are kept in step by the order of the statements
alone; they are, as long as one operation follows the other.
-/

namespace WendzelNNTPd

open CString Atomic

/-- Numbers, references and message ids fit together. -/
structure Store.Numbered (s : Store) : Prop where
  names : (s.newsgroups.map (·.name)).Nodup
  valid : ∀ g ∈ s.newsgroups, validGroupName g.name = true
  numbers : ∀ g ∈ s.newsgroups, (s.ngRows g.name).map (·.postnum) = List.range' 1 g.high
  limit : ∀ g ∈ s.newsgroups, g.high ≤ 2 ^ 31 - 1
  groups : ∀ n ∈ s.ngposts, s.HasGroup n.ng
  articles : ∀ n ∈ s.ngposts, s.hasPosting n.msgid = true
  msgids : (s.postings.map (·.msgid)).Nodup
  counters :
    ∀ p ∈ s.postings, ∃ id host counter,
      p.msgid = numberedId id host ∧ s.msgidFile = some (some counter) ∧ id ≤ counter

section MessageIds

/-- The number of a message id can be read back.
Witness: a decimal number has no `@`, so that the first one ends it.
-/
theorem numberedId_injective {id id' : Nat} {host host' : Str}
    (same : numberedId id host = numberedId id' host')
    : id = id' := by
  have digits (n : Nat) (text : Str)
      : (dec n ++ '@' :: text).takeWhile (· != '@') = dec n := by
    rw [List.takeWhile_append_of_pos]
    · simp
    · intro c member
      have digit := isDigit_of_mem_dec member
      have other : c ≠ '@' := by
        rintro rfl
        exact absurd digit (by decide)
      simpa using other
  have tails : dec id ++ '@' :: (host ++ ['>']) = dec id' ++ '@' :: (host' ++ ['>']) := by
    simpa [numberedId] using same
  have numbers := congrArg (List.takeWhile (· != '@')) tails
  rw [digits, digits] at numbers
  exact dec_injective numbers

/-- The number that `get_uniqnum` takes is above those of all articles. -/
theorem lt_nextId {s : Store} (numbered : s.Numbered) {next : Nat} (taken : s.nextId = some next)
    {p : Posting} (member : p ∈ s.postings)
    : ∃ id host, p.msgid = numberedId id host ∧ id < next := by
  obtain ⟨id, host, counter, named, file, le⟩ := numbered.counters p member
  refine ⟨id, host, named, ?_⟩
  unfold Store.nextId at taken
  split at taken
  · rw [file] at taken
    obtain rfl : counter + 1 = next := by simpa using taken
    omega
  · cases taken

theorem numbered_counted {s : Store} (numbered : s.Numbered) : s.counted.Numbered := by
  cases taken : s.nextId with
  | none => simpa only [Store.counted, taken] using numbered
  | some next =>
      simp only [Store.counted, taken]
      refine ⟨numbered.names, numbered.valid, numbered.numbers, numbered.limit, numbered.groups,
        numbered.articles, numbered.msgids, fun p member => ?_⟩
      obtain ⟨id, host, named, lt⟩ := lt_nextId numbered taken member
      exact ⟨id, host, next, named, rfl, Nat.le_of_lt lt⟩

theorem hasPosting_of_nextId {s : Store} (numbered : s.Numbered) {next : Nat}
    (taken : s.nextId = some next) (host : Str)
    : s.hasPosting (numberedId next host) = false := by
  rw [Store.hasPosting, List.any_eq_false]
  intro p member same
  obtain ⟨id, host', named, lt⟩ := lt_nextId numbered taken member
  rw [beq_iff_eq, named] at same
  exact absurd (numberedId_injective same) (by omega)

end MessageIds

section Checks

/-- A name that is valid behind the escaping was not changed by it. -/
theorem escaped_eq_of_valid {name : Str} (valid : validGroupName (dbSecureSqlbuffer .sqlite3 name))
    : dbSecureSqlbuffer .sqlite3 name = name := by
  rw [sqlite3_unchanged_iff]
  intro quote
  have kept : '\'' ∈ dbSecureSqlbuffer .sqlite3 name :=
    List.mem_flatMap.mpr ⟨'\'', quote, by simp⟩
  exact absurd (List.all_eq_true.mp valid _ kept) (by decide)

/-- The names that the check of POST finds are those that are posted to: escaping changes a name
only into one that no newsgroup has. -/
theorem hasGroup_of_checked {s : Store} (valid : ∀ g ∈ s.newsgroups, validGroupName g.name = true)
    {groups : List Str} (passed : s.postRefusal groups = none) {newsgroup : Str}
    (member : newsgroup ∈ groups)
    : s.HasGroup newsgroup := by
  induction groups with
  | nil => cases member
  | cons first rest ih =>
      simp only [Store.postRefusal] at passed
      split at passed
      · cases passed
      · rename_i found
        split at passed
        · cases passed
        · rcases List.mem_cons.mp member with rfl | later
          · have exists' : s.HasGroup (dbSecureSqlbuffer .sqlite3 newsgroup) :=
              (hasGroup_iff s).mp (by simpa using found)
            obtain ⟨g, row, named⟩ := exists'
            have unchanged := escaped_eq_of_valid (named ▸ valid g row)
            exact ⟨g, row, named.trans unchanged⟩
          · exact ih passed later

end Checks

section Deliveries

variable {s : Store} {init : Nat}

/-- With unique names, what is read is the high value of the row. -/
theorem highValue_of_numbered (numbered : s.Numbered) {g : Newsgroup} (row : g ∈ s.newsgroups)
    : s.highValue init g.name = g.high := by
  refine highValue_of_rows ⟨g, row, rfl⟩ (fun r member named => ?_) ?_
  · rw [List.inj_on_of_nodup_map numbered.names member row named]
  · have limit := numbered.limit g row
    omega

/-- The rows of a newsgroup behind a delivery. -/
theorem ngRows_deliver {messageId : Str} {groups : List Str} (nodup : groups.Nodup) (name : Str)
    : (s.deliver init messageId groups).ngRows name
      = s.ngRows name
        ++ if name ∈ groups then [⟨messageId, name, s.highValue init name + 1⟩] else [] := by
  simp only [Store.ngRows, Store.deliver, List.filter_append, List.filter_map]
  congr 1
  have once : groups.filter (· == name) = if name ∈ groups then [name] else [] := by
    rw [List.filter_beq, nodup.count]
    split <;> rfl
  have names : ((fun n : Ngpost => n.ng == name) ∘ fun g =>
      Ngpost.mk messageId g (s.highValue init g + 1)) = (· == name) := rfl
  rw [names, once]
  split <;> rfl

/-- A new article and its deliveries keep the numbers in step. -/
theorem numbered_deliver {row : Posting} {body : Str} {id : Nat} {host : Str} {groups : List Str}
    (numbered : s.Numbered) (named : row.msgid = numberedId id host)
    (counted : s.msgidFile = some (some id)) (fresh : s.hasPosting row.msgid = false)
    (served : Served s init row.msgid groups) (existing : ∀ g ∈ groups, s.HasGroup g)
    : ((s.posted row body).deliver init row.msgid groups).Numbered := by
  have sameNames : ((s.posted row body).deliver init row.msgid groups).newsgroups.map (·.name)
      = s.newsgroups.map (·.name) := by
    simp only [Store.deliver, List.map_map]
    refine List.map_congr_left (fun r _ => ?_)
    simp only [Function.comp_apply]
    split <;> rfl
  have hasGroup (name : Str) : ((s.posted row body).deliver init row.msgid groups).HasGroup name
      ↔ s.HasGroup name := by
    have members := congrArg (name ∈ ·) sameNames
    simpa [Store.HasGroup] using members
  refine ⟨sameNames ▸ numbered.names, ?_, ?_, ?_, ?_, ?_, ?_, ?_⟩
  · intro g member
    obtain ⟨r, found, rfl⟩ := List.mem_map.mp member
    split <;> exact numbered.valid r found
  · intro g member
    obtain ⟨r, found, rfl⟩ := List.mem_map.mp member
    have high : (s.posted row body).highValue init r.name = r.high :=
      highValue_of_numbered numbered found
    have before := numbered.numbers r found
    by_cases delivered : r.name ∈ groups
    · rw [if_pos delivered, ngRows_deliver served.nodup, if_pos delivered, List.map_append, high,
        List.range'_1_concat, Nat.add_comm 1 r.high]
      exact congrArg (· ++ [r.high + 1]) before
    · rw [if_neg delivered, ngRows_deliver served.nodup, if_neg delivered, List.append_nil]
      exact before
  · intro g member
    obtain ⟨r, found, rfl⟩ := List.mem_map.mp member
    split
    · rename_i delivered
      have room := served.room r.name delivered
      exact Nat.succ_le_succ room
    · exact numbered.limit r found
  · intro n member
    rw [hasGroup]
    rcases List.mem_append.mp member with old | new
    · exact numbered.groups n old
    · obtain ⟨g, delivered, rfl⟩ := List.mem_map.mp new
      exact existing g delivered
  · intro n member
    simp only [Store.hasPosting, Store.deliver, Store.posted, Store.withPosting, Store.saveBody,
      List.any_append, Bool.or_eq_true]
    rcases List.mem_append.mp member with old | new
    · exact Or.inl (numbered.articles n old)
    · obtain ⟨g, delivered, rfl⟩ := List.mem_map.mp new
      exact Or.inr (by simp)
  · simp only [Store.deliver, Store.posted, Store.withPosting, Store.saveBody, List.map_append,
      List.map_cons, List.map_nil]
    rw [List.nodup_append]
    refine ⟨numbered.msgids, by simp, ?_⟩
    rintro a old b new rfl
    obtain ⟨p, member, sameId⟩ := List.mem_map.mp old
    have used : s.hasPosting row.msgid = true := by
      rw [Store.hasPosting, List.any_eq_true]
      exact ⟨p, member, by simpa using sameId.trans (List.mem_singleton.mp new)⟩
    rw [fresh] at used
    cases used
  · intro p member
    rcases List.mem_append.mp member with old | new
    · exact numbered.counters p old
    · rw [List.mem_singleton.mp new]
      exact ⟨id, host, id, named, counted, Nat.le_refl id⟩

end Deliveries

section Operations

/-- The numbers depend on four parts of the store only. -/
theorem Store.Numbered.congr {s s' : Store} (numbered : s.Numbered)
    (newsgroups : s'.newsgroups = s.newsgroups) (ngposts : s'.ngposts = s.ngposts)
    (postings : s'.postings = s.postings) (msgidFile : s'.msgidFile = s.msgidFile)
    : s'.Numbered := by
  obtain ⟨_, _, _, _, _, _, _, _, _, _, _, _⟩ := s'
  cases newsgroups
  cases ngposts
  cases postings
  cases msgidFile
  exact ⟨numbered.names, numbered.valid, numbered.numbers, numbered.limit, numbered.groups,
    numbered.articles, numbered.msgids, numbered.counters⟩

/-- The end of POST keeps the numbers in step, wherever the loop stops. -/
theorem numbered_storeAlone {s : Store} (cfg : Config) (env : Env) (user : Option Str)
    {row : Posting} {body : Str} {groups : List Str} {id : Nat} {host : Str}
    (numbered : s.Numbered) (named : row.msgid = numberedId id host)
    (counted : s.msgidFile = some (some id)) (fresh : s.hasPosting row.msgid = false)
    (existing : ∀ g ∈ groups, s.HasGroup g)
    : (s.storeAlone cfg env user row body groups).2.Numbered := by
  simp only [Store.storeAlone]
  split
  · exact numbered.congr rfl rfl rfl rfl
  · have start : Served (s.posted row body) env.curHighInit row.msgid [] :=
      ⟨List.nodup_nil, by simp, by simp⟩
    obtain ⟨served, -, within⟩ := serve_served (groups.filter (s.mayPost cfg user)) .empty start
    simp only [Store.posted] at served within
    generalize ((s.saveBody row.msgid body).withPosting row).serve env.curHighInit row.msgid
      (groups.filter (s.mayPost cfg user)) .empty [] = outcome at served within ⊢
    have delivered : ((s.posted row body).deliver env.curHighInit row.msgid outcome.2).Numbered := by
      refine numbered_deliver numbered named counted fresh
        ⟨served.nodup, served.free, served.room⟩ (fun g member => existing g ?_)
      exact (List.mem_filter.mp (by simpa using within member)).1
    split
    · exact delivered
    · exact delivered

/-- POST keeps the numbers in step, however it ends.
Witness: the article gets a number above all others, so that `postings` takes it; what the loop
has delivered when it stops is a list of existing newsgroups with free numbers.
-/
theorem numbered_post {s : Store} (ext : Extern) (cfg : Config) (env : Env) (user : Option Str)
    (numbered : s.Numbered)
    : (s.post ext cfg env user).2.Numbered := by
  cases stores : s.postStores cfg env with
  | none =>
      rcases (post_of_not_stores ext user stores).2 with same | same <;> rw [same]
      · exact numbered
      · exact numbered_counted numbered
  | some stored =>
      obtain ⟨id, article⟩ := stored
      obtain ⟨ran, counted⟩ := post_of_stores ext user stores
      obtain ⟨passed, taken⟩ := postStores_checked stores
      have after := numbered_counted numbered
      rw [ran]
      rw [counted] at after ⊢
      exact numbered_storeAlone cfg env user after rfl rfl
        (hasPosting_of_nextId numbered taken article.host)
        (fun g member => hasGroup_of_checked numbered.valid passed member)

/-- A new newsgroup starts with no articles. -/
theorem ngRows_of_missing {s : Store} (numbered : s.Numbered) {name : Str}
    (missing : ¬s.HasGroup name)
    : s.ngRows name = [] := by
  rw [Store.ngRows, List.filter_eq_nil_iff]
  intro n member same
  exact missing (beq_iff_eq.mp same ▸ numbered.groups n member)

theorem numbered_addgroup {s : Store} (numbered : s.Numbered) {name : Str} (pflag : Char)
    (valid : validGroupName name = true) (missing : ¬s.HasGroup name)
    : Store.Numbered { s with newsgroups := s.newsgroups ++ [⟨name, pflag, 0⟩] } := by
  have rows := ngRows_of_missing numbered missing
  refine ⟨?_, ?_, ?_, ?_, ?_, numbered.articles, numbered.msgids, numbered.counters⟩
  · rw [List.map_append, List.nodup_append]
    refine ⟨numbered.names, by simp, ?_⟩
    rintro a old b new rfl
    obtain ⟨g, member, named⟩ := List.mem_map.mp old
    exact missing ⟨g, member, named.trans (by simpa using new)⟩
  · intro g member
    rcases List.mem_append.mp member with old | new
    · exact numbered.valid g old
    · rw [List.mem_singleton.mp new]
      exact valid
  · intro g member
    rcases List.mem_append.mp member with old | new
    · exact numbered.numbers g old
    · rw [List.mem_singleton.mp new]
      exact congrArg (List.map (·.postnum)) rows
  · intro g member
    rcases List.mem_append.mp member with old | new
    · exact numbered.limit g old
    · rw [List.mem_singleton.mp new]
      exact Nat.zero_le _
  · intro n member
    obtain ⟨g, found, named⟩ := numbered.groups n member
    exact ⟨g, List.mem_append_left _ found, named⟩

theorem numbered_delgroup {s : Store} (numbered : s.Numbered) (group : Str)
    : (s.withoutGroup group).Numbered := by
  refine ⟨?_, ?_, ?_, ?_, ?_, ?_, ?_, ?_⟩
  · exact numbered.names.sublist (List.Sublist.map _ List.filter_sublist)
  · intro g member
    exact numbered.valid g (List.mem_filter.mp member).1
  · intro g member
    obtain ⟨old, other⟩ := List.mem_filter.mp member
    have rows : (s.withoutGroup group).ngRows g.name = s.ngRows g.name := by
      simp only [Store.ngRows, Store.withoutGroup, List.filter_filter]
      refine List.filter_congr (fun n _ => ?_)
      by_cases named : n.ng = g.name
      · simpa [named] using other
      · simp [named]
    rw [rows]
    exact numbered.numbers g old
  · intro g member
    exact numbered.limit g (List.mem_filter.mp member).1
  · intro n member
    obtain ⟨old, other⟩ := List.mem_filter.mp member
    exact hasGroup_withoutGroup.mpr ⟨numbered.groups n old, bne_iff_ne.mp other⟩
  · intro n member
    obtain ⟨p, posted, same⟩ := List.any_eq_true.mp
      (numbered.articles n (List.mem_filter.mp member).1)
    refine List.any_eq_true.mpr ⟨p, List.mem_filter.mpr ⟨posted, ?_⟩, same⟩
    exact List.any_eq_true.mpr ⟨n, member, beq_iff_eq.mpr (beq_iff_eq.mp same).symm⟩
  · exact numbered.msgids.sublist (List.Sublist.map _ List.filter_sublist)
  · intro p member
    exact numbered.counters p (List.mem_filter.mp member).1

theorem numbered_modgroup {s : Store} (numbered : s.Numbered) (group : Str) (pflag : Char)
    : (s.withPflag group pflag).Numbered := by
  have sameNames : (s.withPflag group pflag).newsgroups.map (·.name) = s.newsgroups.map (·.name) := by
    simp only [Store.withPflag, List.map_map]
    refine List.map_congr_left (fun r _ => ?_)
    simp only [Function.comp_apply]
    split <;> rfl
  refine ⟨sameNames ▸ numbered.names, ?_, ?_, ?_, ?_, numbered.articles, numbered.msgids,
    numbered.counters⟩
  · intro g member
    obtain ⟨r, found, rfl⟩ := List.mem_map.mp member
    split <;> exact numbered.valid r found
  · intro g member
    obtain ⟨r, found, rfl⟩ := List.mem_map.mp member
    split <;> exact numbered.numbers r found
  · intro g member
    obtain ⟨r, found, rfl⟩ := List.mem_map.mp member
    split <;> exact numbered.limit r found
  · intro n member
    exact hasGroup_withPflag.mpr (numbered.groups n member)

/-- A call of the admin tool keeps the numbers in step. -/
theorem AdmEffect.keeps_numbered {args : List Str} {s s' : Store} (effect : AdmEffect args s s')
    (numbered : s.Numbered)
    : s'.Numbered := by
  cases effect with
  | nothing => exact numbered
  | addgroup pflag mode valid fresh flag => exact numbered_addgroup numbered pflag valid fresh
  | delgroup mode => exact numbered_delgroup numbered _
  | modgroup pflag mode => exact numbered_modgroup numbered _ pflag
  | _ => exact numbered.congr rfl rfl rfl rfl

/-- An operation on the store: a POST command of some session, or a call of the admin tool. -/
inductive Operation
  | post (cfg : Config) (env : Env) (session : Session)
  | admin (call : AdmCall)

/-- The store behind an operation that nobody interferes with. -/
def Operation.perform (ext : Extern) (hashSalt : Str) (s : Store) : Operation → Store
  | .post cfg env session => (((docmdPost ext cfg env).run session).run (exec ext) s).2
  | .admin call => admCall ext hashSalt s call

theorem Operation.keeps_numbered (ext : Extern) (hashSalt : Str) {s : Store} (numbered : s.Numbered)
    (operation : Operation)
    : (operation.perform ext hashSalt s).Numbered := by
  cases operation with
  | post cfg env session =>
      rw [Operation.perform, (docmdPost_run ext cfg env s session).2]
      exact numbered_post ext cfg env session.curAuthUser numbered
  | admin call => exact (admCall_effect ext hashSalt s call).keeps_numbered numbered

/-- A store without newsgroups, articles and counter; the accounts may be any. -/
def Store.withoutArticles (accounts : Store) : Store :=
  { accounts with newsgroups := [], ngposts := [], postings := [], msgidFile := none }

theorem numbered_withoutArticles (accounts : Store) : accounts.withoutArticles.Numbered := by
  refine ⟨List.nodup_nil, ?_, ?_, ?_, ?_, ?_, List.nodup_nil, ?_⟩
  all_goals
    intro x member
    cases member

/-- Starting without newsgroups and articles, the numbers are in step behind every sequence of
operations.
Witness: `Operation.keeps_numbered` over the run.
-/
theorem operations_keep_numbers (ext : Extern) (hashSalt : Str) (accounts : Store)
    (operations : List Operation)
    : (operations.foldl (Operation.perform ext hashSalt) accounts.withoutArticles).Numbered := by
  have run (s : Store) (numbered : s.Numbered)
      : (operations.foldl (Operation.perform ext hashSalt) s).Numbered := by
    induction operations generalizing s with
    | nil => exact numbered
    | cons operation rest ih =>
        exact ih _ (Operation.keeps_numbered ext hashSalt numbered operation)
  exact run _ (numbered_withoutArticles accounts)

end Operations

end WendzelNNTPd
