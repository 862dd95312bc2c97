import WendzelNNTPd.Posting.Client

/-! Clients that post to a common newsgroup at the same time. The number of an article is read
from the newsgroup, used in an insert and written back by three statements of their own, so that
two clients can use the same number. They cannot if every insert and every write-back is made
while no other client has a number of the newsgroup in hand.
-/

namespace WendzelNNTPd

open CString Atomic

section Property

variable {ι : Type}

/-- The statements that come behind the read of a newsgroup's high value. -/
def Stmt.usesNumber (g : Str) : Stmt → Bool
  | .insertNgpost row => row.ng == g
  | .updateHigh name _ => name == g
  | _ => false

/-- A client has read the high value of a newsgroup and not yet written it back. -/
def InHand {α : Type} (g : Str) (p : Prog Sql Exit α) : Bool := p.nextAct.any (Stmt.usesNumber g)

/-- The client has been answered 240. -/
def PostClient.answered (c : PostClient) : Prog Sql Exit (Unit × Session) → Bool
  | .done value => value.2.curstring == c.session.curstring ++ [⟨postdone, none⟩]
  | _ => false

/-- The client's article goes to a newsgroup. -/
def PostClient.postsTo (s₀ : Store) (g : Str) (c : PostClient) : Bool :=
  c.article.any (fun article => (c.targets s₀ article).contains g)

/-- The numbers given in a newsgroup since `s₀`. -/
def Store.givenNumbers (s₀ s : Store) (g : Str) : List Nat :=
  ((s.ngRows g).drop (s₀.ngRows g).length).map (·.postnum)

/-- As many numbers as articles were given in a newsgroup, no number was given twice, and the
high value has grown by the number of articles. -/
structure NumberedApart (s₀ s : Store) (g : Str) (articles : Nat) : Prop where
  given : (s₀.givenNumbers s g).length = articles
  distinct : (s₀.givenNumbers s g).Nodup
  grown :
    (s.newsgroups.filter (·.name == g)).map (·.high)
      = (s₀.newsgroups.filter (·.name == g)).map (·.high + articles)

/-- The chosen client does not step with a number of the newsgroup in hand while another client
has one in hand, too. -/
def OneInHand (g : Str) (pool : Pool Sql Exit (Unit × Session) Store ι) (i : ι) : Prop :=
  InHand g (pool.threads i) = true → ∀ j, j ≠ i → InHand g (pool.threads j) = false

instance [Fintype ι] [DecidableEq ι] (g : Str) (pool : Pool Sql Exit (Unit × Session) Store ι) (i : ι)
    : Decidable (OneInHand g pool i) :=
  inferInstanceAs (Decidable (InHand g (pool.threads i) = true →
    ∀ j, j ≠ i → InHand g (pool.threads j) = false))

end Property

section Modes

/-- The number of a newsgroup that a client has read and not yet used. -/
def PostMode.held (g : Str) : PostMode → Option Nat
  | .holding _ _ _ group high => if group = g then some high else none
  | _ => none

/-- The number of a newsgroup that a client has used and not yet written back. -/
def PostMode.due (g : Str) : PostMode → Option Nat
  | .inserted _ _ _ group high => if group = g then some high else none
  | _ => none

/-- The message id of a client that has a number. -/
def PostClient.msgid (c : PostClient) (mode : PostMode) : Option Str :=
  mode.number.bind (fun id => c.article.map (fun article => numberedId id article.host))

/-- What one move of a client does to a newsgroup. -/
inductive GroupMove (c : PostClient) (g : Str) (mode : PostMode) (s : Store)
    : PostMode → Store → Prop
  | quiet {mode' : PostMode} {s' : Store} (nothingDue : mode.due g = none)
    (notHeld : mode'.held g = none) (notDue : mode'.due g = none)
    (delivered : mode'.delivered g = mode.delivered g) (rows : s'.ngRows g = s.ngRows g)
    (group : s'.newsgroups.filter (·.name == g) = s.newsgroups.filter (·.name == g))
    : GroupMove c g mode s mode' s'
  | hold {mode' : PostMode} {init : Nat} (nothingDue : mode.due g = none)
    (held : mode'.held g = some (s.highValue init g)) (room : s.highValue init g ≤ highLimit)
    (notDue : mode'.due g = none) (delivered : mode'.delivered g = mode.delivered g)
    : GroupMove c g mode s mode' s
  | number {mode' : PostMode} {s' : Store} (messageId : Str) {v : Nat} (held : mode.held g = some v)
    (nothingDue : mode.due g = none) (notHeld : mode'.held g = none) (due : mode'.due g = some v)
    (msgid : c.msgid mode' = some messageId) (free : s.hasNgpost messageId g = false)
    (delivered : mode'.delivered g = true)
    (rows : s'.ngRows g = s.ngRows g ++ [⟨messageId, g, v + 1⟩])
    (group : s'.newsgroups = s.newsgroups)
    : GroupMove c g mode s mode' s'
  | raise {mode' : PostMode} {s' : Store} {v : Nat} (due : mode.due g = some v)
    (notHeld : mode'.held g = none) (notDue : mode'.due g = none)
    (delivered : mode'.delivered g = mode.delivered g) (rows : s'.ngRows g = s.ngRows g)
    (group
      : s'.newsgroups
        = s.newsgroups.map (fun r => if r.name == g then { r with high := v + 1 } else r))
    : GroupMove c g mode s mode' s'

variable {ext : Extern} {c : PostClient} {mode mode' : PostMode} {op : Stmt} {s : Store}

/-- Every move of a client is one of the moves on a newsgroup.
Witness: the statements about other newsgroups, and all the others, leave it as it is.
-/
theorem PostMove.groupMove (move : PostMove ext c mode op s mode') (g : Str)
    : GroupMove c g mode s mode' (exec ext op s).2 := by
  cases move
  case hold id stack served group unknown room =>
    by_cases named : group = g
    · subst named
      exact .hold rfl (if_pos rfl) room rfl rfl
    · exact .quiet rfl (if_neg named) rfl rfl rfl rfl
  case number id stack served group high article ready free =>
    have inserted := exec_insertNgpost ext ⟨numberedId id article.host, group, high + 1⟩ s
    rw [inserted.trans (if_neg (Bool.eq_false_iff.mp free))]
    by_cases named : group = g
    · subst named
      refine .number (numberedId id article.host) (if_pos rfl) rfl rfl (if_pos rfl) ?_ free ?_ ?_ rfl
      · simp [PostClient.msgid, PostMode.number, ready]
      · simp [PostMode.delivered]
      · simp [Store.ngRows]
    · refine .quiet rfl rfl (if_neg named) ?_ ?_ rfl
      · simp [PostMode.delivered, named]
      · simp [Store.ngRows, named]
  case raise id stack served group high =>
    by_cases named : group = g
    · subst named
      refine .raise (if_pos rfl) rfl rfl ?_ rfl rfl
      simp [PostMode.delivered]
    · refine .quiet (if_neg named) rfl rfl ?_ rfl ?_
      · simp [PostMode.delivered, named, Ne.symm named]
      · simp only [exec]
        rw [filter_map_name (by intro r; split <;> rfl)]
        refine (List.map_congr_left (fun r member => ?_)).trans (List.map_id _)
        have other : r.name = g := by simpa using (List.mem_filter.mp member).2
        rw [if_neg (by simpa [other] using Ne.symm named)]
        rfl
  case insertFails id article ready used =>
    rw [(exec_insertPosting ext s _).trans (if_pos used)]
    exact .quiet rfl rfl rfl rfl rfl rfl
  case insert id article ready fresh =>
    rw [(exec_insertPosting ext s _).trans (if_neg (Bool.eq_false_iff.mp fresh))]
    exact .quiet rfl rfl rfl rfl rfl rfl
  case numberFails id stack served group high article ready taken =>
    have inserted := exec_insertNgpost ext ⟨numberedId id article.host, group, high + 1⟩ s
    rw [inserted.trans (if_pos taken)]
    exact .quiet rfl rfl rfl rfl rfl rfl
  case createFile writable =>
    simp only [exec, if_pos writable]
    exact .quiet rfl rfl rfl rfl rfl rfl
  case createFails failed =>
    simp only [exec, failed]
    exact .quiet rfl rfl rfl rfl rfl rfl
  case save =>
    rw [exec_bodyWrite]
    exact .quiet rfl rfl rfl rfl rfl rfl
  all_goals exact .quiet rfl rfl rfl rfl rfl rfl

end Modes

section Rows

variable {s s' : Store} {g messageId : Str}

theorem hasNgpost_ngRows : s.hasNgpost messageId g = (s.ngRows g).any (·.msgid == messageId) := by
  simp only [Store.hasNgpost, Store.ngRows, List.any_filter]
  congr 1
  funext n
  exact Bool.and_comm _ _

/-- The rows of a newsgroup decide about its high value. -/
theorem highValue_of_exists (found : s.HasGroup g) (init : Nat)
    : s.highValue init g = s.highValue 0 g := by
  obtain ⟨r, member, named⟩ := found
  have there : s.newsgroups.filter (·.name == g) ≠ [] :=
    List.ne_nil_of_mem (List.mem_filter.mpr ⟨member, by simpa using named⟩)
  simp only [Store.highValue, List.getLast?_eq_some_getLast there, Option.map_some, Option.getD_some]

theorem highValue_congr
    (group : s'.newsgroups.filter (·.name == g) = s.newsgroups.filter (·.name == g)) (init : Nat)
    : s'.highValue init g = s.highValue init g := by
  simp only [Store.highValue, group]

theorem uniform_congr
    (group : s'.newsgroups.filter (·.name == g) = s.newsgroups.filter (·.name == g))
    (uniform : s.Uniform 0 g)
    : s'.Uniform 0 g := by
  have rows : ∀ r, (r ∈ s'.newsgroups ∧ r.name = g) ↔ (r ∈ s.newsgroups ∧ r.name = g) := by
    intro r
    have same := congrArg (r ∈ ·) group
    simpa [List.mem_filter] using same
  obtain ⟨⟨r, member, named⟩, same⟩ := uniform
  obtain ⟨member', named'⟩ := (rows r).mpr ⟨member, named⟩
  refine ⟨⟨r, member', named'⟩, fun r member named => ?_⟩
  obtain ⟨before, named⟩ := (rows r).mp ⟨member, named⟩
  rw [highValue_congr group, same r before named]

/-- The write-back of a number that is not too large. -/
theorem uniform_raise {v : Nat} (small : v + 1 < 2 ^ 32)
    (group
      : s'.newsgroups
        = s.newsgroups.map (fun r => if r.name == g then { r with high := v + 1 } else r))
    (found : s.HasGroup g)
    : s'.Uniform 0 g ∧ s'.highValue 0 g = v + 1 := by
  have rows : ∀ r ∈ s'.newsgroups, r.name = g → r.high = v + 1 := by
    intro r member named
    rw [group, List.mem_map] at member
    obtain ⟨old, _, rfl⟩ := member
    by_cases same : (old.name == g) = true
    · rw [if_pos same]
    · rw [if_neg same] at named
      exact absurd (by simpa using named) same
  have exists' : s'.HasGroup g := by
    obtain ⟨r, member, named⟩ := found
    refine ⟨{ r with high := v + 1 }, ?_, named⟩
    rw [group, List.mem_map]
    exact ⟨r, member, by simp [named]⟩
  have value : s'.highValue 0 g = v + 1 := by
    obtain ⟨r, member, named⟩ := exists'
    have there : s'.newsgroups.filter (·.name == g) ≠ [] :=
      List.ne_nil_of_mem (List.mem_filter.mpr ⟨member, by simpa using named⟩)
    have last := List.getLast_mem there
    rw [List.mem_filter] at last
    rw [Store.highValue, List.getLast?_eq_some_getLast there, Option.map_some, Option.getD_some,
      rows _ last.1 (by simpa using last.2)]
    exact Nat.mod_eq_of_lt small
  exact ⟨⟨exists', fun r member named => by rw [rows r member named, value]⟩, value⟩

end Rows

section Invariant

variable {ι : Type} [Fintype ι] [DecidableEq ι] (clients : ι → PostClient) (s₀ : Store) (g : Str)

/-- The numbers given so far are consecutive, and the high value is the last of them unless a
client is about to write it back. -/
structure GroupInv (modes : ι → PostMode) (s : Store) : Prop where
  frozen : s₀.Frozen s
  uniform : s.Uniform 0 g
  rows : ∃ new, s.ngRows g = s₀.ngRows g ++ new
    ∧ new.map (·.postnum)
      = List.range' (s₀.highValue 0 g + 1) (countModes (PostMode.delivered g) modes)
  held : ∀ i v, (modes i).held g = some v → v = s.highValue 0 g ∧ v ≤ highLimit
  due : ∀ i v, (modes i).due g = some v →
    v = s.highValue 0 g ∧ v ≤ highLimit
    ∧ v + 1 = s₀.highValue 0 g + countModes (PostMode.delivered g) modes
  settled : (∀ i, (modes i).due g = none) →
    s.highValue 0 g = s₀.highValue 0 g + countModes (PostMode.delivered g) modes
  delivered : ∀ i, (modes i).delivered g = true →
    ∃ messageId, (clients i).msgid (modes i) = some messageId ∧ s.hasNgpost messageId g = true

variable {clients s₀ g}

omit [DecidableEq ι] in
theorem groupInv_start (uniform : s₀.Uniform 0 g) : GroupInv clients s₀ g (fun _ => .checking) s₀ := by
  have none : countModes (PostMode.delivered g) (fun _ : ι => PostMode.checking) = 0 := by
    simp [countModes, PostMode.delivered]
  refine ⟨.refl s₀, uniform, ⟨[], by simp, by simp [none]⟩, ?_, ?_, ?_, ?_⟩
  · intro i v held
    cases held
  · intro i v due
    cases due
  · intro _
    rw [none]
    rfl
  · intro i delivered
    cases delivered

variable {modes : ι → PostMode} {s s' : Store} {i : ι} {mode' : PostMode}

/-- A client whose article is in the newsgroup keeps its message id. -/
theorem msgid_of_delivered {c : PostClient} {mode : PostMode}
    (kept : ∀ id, mode.number = some id → mode'.number = some id)
    (delivered : mode.delivered g = true)
    : c.msgid mode' = c.msgid mode := by
  have numbered : ∃ id, mode.number = some id := by
    cases mode
    all_goals first | exact ⟨_, rfl⟩ | cases delivered
  obtain ⟨id, number⟩ := numbered
  simp only [PostClient.msgid, number, kept id number]

/-- What `GroupInv` says of the clients with an article in the newsgroup, behind a move that adds
at most rows. -/
theorem GroupInv.delivered_step (inv : GroupInv clients s₀ g modes s)
    (kept : ∀ id, (modes i).number = some id → mode'.number = some id)
    (added : s.ngRows g ⊆ s'.ngRows g)
    (own
      : mode'.delivered g = true →
        (modes i).delivered g = true
        ∨ ∃ messageId, (clients i).msgid mode' = some messageId ∧ s'.hasNgpost messageId g = true)
    : ∀ j, (Function.update modes i mode' j).delivered g = true →
        ∃ messageId, (clients j).msgid (Function.update modes i mode' j) = some messageId
          ∧ s'.hasNgpost messageId g = true := by
  have grows : ∀ messageId, s.hasNgpost messageId g = true → s'.hasNgpost messageId g = true := by
    intro messageId there
    rw [hasNgpost_ngRows, List.any_eq_true] at there ⊢
    obtain ⟨row, member, named⟩ := there
    exact ⟨row, added member, named⟩
  rw [Function.forall_update_iff modes
    (fun j mode => mode.delivered g = true →
      ∃ messageId, (clients j).msgid mode = some messageId ∧ s'.hasNgpost messageId g = true)]
  constructor
  · intro delivered
    rcases own delivered with before | fresh
    · obtain ⟨messageId, msgid, row⟩ := inv.delivered i before
      exact ⟨messageId, (msgid_of_delivered kept before).trans msgid, grows messageId row⟩
    · exact fresh
  · intro j _ delivered
    obtain ⟨messageId, msgid, row⟩ := inv.delivered j delivered
    exact ⟨messageId, msgid, grows messageId row⟩

/-- A move that leaves the newsgroup as it is. -/
theorem GroupInv.quiet (inv : GroupInv clients s₀ g modes s) (frozen : s₀.Frozen s')
    (kept : ∀ id, (modes i).number = some id → mode'.number = some id)
    (nothingDue : (modes i).due g = none) (held : ∀ v, mode'.held g = some v →
      v = s.highValue 0 g ∧ v ≤ highLimit)
    (notDue : mode'.due g = none) (delivered : mode'.delivered g = (modes i).delivered g)
    (rows : s'.ngRows g = s.ngRows g)
    (group : s'.newsgroups.filter (·.name == g) = s.newsgroups.filter (·.name == g))
    : GroupInv clients s₀ g (Function.update modes i mode') s' := by
  have high := highValue_congr group 0
  have count : countModes (PostMode.delivered g) (Function.update modes i mode')
      = countModes (PostMode.delivered g) modes :=
    countModes_update_of_eq delivered
  obtain ⟨new, appended, numbers⟩ := inv.rows
  refine ⟨frozen, uniform_congr group inv.uniform, ⟨new, rows.trans appended, count ▸ numbers⟩,
    ?_, ?_, ?_, ?_⟩
  · intro j v
    rw [high]
    by_cases chosen : j = i
    · rw [chosen, Function.update_self]
      exact held v
    · rw [Function.update_of_ne chosen]
      exact inv.held j v
  · intro j v
    rw [high, count]
    by_cases chosen : j = i
    · rw [chosen, Function.update_self, notDue]
      exact fun due => nomatch due
    · rw [Function.update_of_ne chosen]
      exact inv.due j v
  · intro nobody
    rw [high, count]
    refine inv.settled (fun j => ?_)
    by_cases chosen : j = i
    · rw [chosen]
      exact nothingDue
    · simpa only [Function.update_of_ne chosen] using nobody j
  · refine inv.delivered_step kept (by rw [rows]; exact List.Subset.refl _) (fun now => Or.inl ?_)
    rw [← delivered]
    exact now

/-- The insert with a number, made while no other client has one in hand. -/
theorem GroupInv.number (inv : GroupInv clients s₀ g modes s) (frozen : s₀.Frozen s')
    (kept : ∀ id, (modes i).number = some id → mode'.number = some id)
    (alone : ∀ j, j ≠ i → (modes j).held g = none ∧ (modes j).due g = none)
    {messageId : Str} {v : Nat} (held : (modes i).held g = some v)
    (nothingDue : (modes i).due g = none) (notHeld : mode'.held g = none)
    (due : mode'.due g = some v) (msgid : (clients i).msgid mode' = some messageId)
    (free : s.hasNgpost messageId g = false) (delivered : mode'.delivered g = true)
    (rows : s'.ngRows g = s.ngRows g ++ [⟨messageId, g, v + 1⟩])
    (group : s'.newsgroups = s.newsgroups)
    : GroupInv clients s₀ g (Function.update modes i mode') s' := by
  have sameRows : s'.newsgroups.filter (·.name == g) = s.newsgroups.filter (·.name == g) := by
    rw [group]
  have high := highValue_congr sameRows 0
  have first : (modes i).delivered g = false := by
    by_contra before
    have before := Bool.not_eq_false _ ▸ before
    obtain ⟨earlier, msgid', row⟩ := inv.delivered i before
    rw [← msgid_of_delivered kept before, msgid] at msgid'
    cases msgid'
    rw [free] at row
    cases row
  have count := countModes_update_of_new first delivered
  obtain ⟨rfl, room⟩ := inv.held i v held
  have settled := inv.settled (fun j => by
    by_cases chosen : j = i
    · rw [chosen]
      exact nothingDue
    · exact (alone j chosen).2)
  obtain ⟨new, appended, numbers⟩ := inv.rows
  refine ⟨frozen, uniform_congr sameRows inv.uniform, ?_, ?_, ?_, ?_, ?_⟩
  · refine ⟨new ++ [⟨messageId, g, s.highValue 0 g + 1⟩], ?_, ?_⟩
    · rw [rows, appended, List.append_assoc]
    · rw [List.map_append, numbers, count, List.range'_1_concat, settled]
      simp [Nat.add_right_comm]
  · intro j v
    by_cases chosen : j = i
    · rw [chosen, Function.update_self, notHeld]
      exact fun other => nomatch other
    · rw [Function.update_of_ne chosen, (alone j chosen).1]
      exact fun other => nomatch other
  · intro j v
    by_cases chosen : j = i
    · rw [chosen, Function.update_self, due, high, count, settled]
      rintro ⟨rfl⟩
      exact ⟨rfl, settled ▸ room, by omega⟩
    · rw [Function.update_of_ne chosen, (alone j chosen).2]
      exact fun other => nomatch other
  · intro nobody
    have mine := nobody i
    rw [Function.update_self, due] at mine
    cases mine
  · refine inv.delivered_step kept ?_ (fun _ => Or.inr ⟨messageId, msgid, ?_⟩)
    · rw [rows]
      exact List.subset_append_left _ _
    · rw [hasNgpost_ngRows, rows]
      simp

/-- The write-back of a number, made while no other client has one in hand. -/
theorem GroupInv.raise (inv : GroupInv clients s₀ g modes s) (frozen : s₀.Frozen s')
    (kept : ∀ id, (modes i).number = some id → mode'.number = some id)
    (alone : ∀ j, j ≠ i → (modes j).held g = none ∧ (modes j).due g = none)
    {v : Nat} (due : (modes i).due g = some v) (notHeld : mode'.held g = none)
    (notDue : mode'.due g = none) (delivered : mode'.delivered g = (modes i).delivered g)
    (rows : s'.ngRows g = s.ngRows g)
    (group
      : s'.newsgroups
        = s.newsgroups.map (fun r => if r.name == g then { r with high := v + 1 } else r))
    : GroupInv clients s₀ g (Function.update modes i mode') s' := by
  obtain ⟨-, room, next⟩ := inv.due i v due
  have small : v + 1 < 2 ^ 32 := by
    unfold highLimit at room
    omega
  obtain ⟨uniform, high⟩ := uniform_raise small group inv.uniform.1
  have count := countModes_update_of_eq (p := PostMode.delivered g) delivered
  have nobody : ∀ j, (Function.update modes i mode' j).held g = none
      ∧ (Function.update modes i mode' j).due g = none := by
    intro j
    by_cases chosen : j = i
    · rw [chosen, Function.update_self]
      exact ⟨notHeld, notDue⟩
    · rw [Function.update_of_ne chosen]
      exact alone j chosen
  obtain ⟨new, appended, numbers⟩ := inv.rows
  refine ⟨frozen, uniform, ⟨new, rows.trans appended, count ▸ numbers⟩, ?_, ?_, ?_, ?_⟩
  · intro j v held
    rw [(nobody j).1] at held
    cases held
  · intro j v due
    rw [(nobody j).2] at due
    cases due
  · intro _
    rw [high, count, next]
  · refine inv.delivered_step kept (by rw [rows]; exact List.Subset.refl _) (fun now => Or.inl ?_)
    rw [← delivered]
    exact now

/-- Every move keeps the invariant if a client that has a number in hand is the only one.
Witness: by what the move does to the newsgroup.
-/
theorem GroupInv.step (inv : GroupInv clients s₀ g modes s) (frozen : s₀.Frozen s')
    (kept : ∀ id, (modes i).number = some id → mode'.number = some id)
    (move : GroupMove (clients i) g (modes i) s mode' s')
    (alone
      : ((modes i).held g).isSome || ((modes i).due g).isSome →
        ∀ j, j ≠ i → (modes j).held g = none ∧ (modes j).due g = none)
    : GroupInv clients s₀ g (Function.update modes i mode') s' := by
  cases move with
  | quiet nothingDue notHeld notDue delivered rows group =>
      refine inv.quiet frozen kept nothingDue ?_ notDue delivered rows group
      rw [notHeld]
      exact fun v other => nomatch other
  | hold nothingDue held room notDue delivered =>
      refine inv.quiet frozen kept nothingDue ?_ notDue delivered rfl rfl
      rw [held, ← highValue_of_exists inv.uniform.1]
      rintro v ⟨rfl⟩
      exact ⟨rfl, room⟩
  | number messageId held nothingDue notHeld due msgid free delivered rows group =>
      exact inv.number frozen kept (alone (by simp [held])) held nothingDue notHeld due msgid free
        delivered rows group
  | raise due notHeld notDue delivered rows group =>
      exact inv.raise frozen kept (alone (by simp [due])) due notHeld notDue delivered rows group

end Invariant

section Runs

variable {ext : Extern} {c : PostClient} {s₀ : Store} {g : Str}

/-- A client whose mode has a number in hand is about to use it. -/
theorem inHand_of_mode {p : Prog Sql Exit (Unit × Session)} {mode : PostMode}
    (follows : p.Follows (exec ext) (c.protocol ext s₀) (StopsFor ext s₀ c) mode (Returns s₀ c))
    (inUse : (mode.held g).isSome || (mode.due g).isSome)
    : InHand g p = true := by
  have running : mode.running = true := by
    cases mode
    all_goals first | rfl | cases inUse
  obtain ⟨op, mode', next, move⟩ := acts_of_running follows running
  rw [InHand, next, Option.any_some]
  cases move
  case number id stack served group high article ready free =>
    by_contra other
    simp_all [Stmt.usesNumber, PostMode.held, PostMode.due]
  case numberFails id stack served group high article ready taken =>
    by_contra other
    simp_all [Stmt.usesNumber, PostMode.held, PostMode.due]
  case raise id stack served group high =>
    by_contra other
    simp_all [Stmt.usesNumber, PostMode.held, PostMode.due]
  all_goals cases inUse

/-- A client that has been answered 240 has its article in all its newsgroups. -/
theorem delivered_of_answered {p : Prog Sql Exit (Unit × Session)} {mode : PostMode}
    (follows : p.Follows (exec ext) (c.protocol ext s₀) (StopsFor ext s₀ c) mode (Returns s₀ c))
    (answered : c.answered p = true)
    : mode.due g = none ∧ mode.delivered g = c.postsTo s₀ g := by
  cases p with
  | done value =>
      rcases follows with ⟨-, not240⟩ | ⟨id, stack, served, article, rfl, ready, all⟩
      · exact absurd ⟨value.2, rfl, by simpa [PostClient.answered] using answered⟩ not240
      · refine ⟨rfl, ?_⟩
        rw [PostClient.postsTo, ready, Bool.eq_iff_iff]
        simpa [PostMode.delivered] using all g
  | stop reason => cases answered
  | act op next => cases answered

theorem Store.Frozen.group_length {s : Store} (frozen : s₀.Frozen s)
    : (s.newsgroups.filter (·.name == g)).length = (s₀.newsgroups.filter (·.name == g)).length := by
  have mapped : ∀ rows : List Newsgroup,
      (rows.filter (·.name == g)).length
        = ((rows.map (fun r => (r.name, r.pflag))).filter (·.1 == g)).length := by
    intro rows
    rw [List.filter_map, List.length_map]
    rfl
  rw [mapped, mapped, frozen.groups]

/-- All high values of a newsgroup that has one. -/
theorem map_high_of_uniform {s : Store} (uniform : s.Uniform 0 g) (n : Nat)
    : (s.newsgroups.filter (·.name == g)).map (·.high + n)
      = List.replicate (s.newsgroups.filter (·.name == g)).length (s.highValue 0 g + n) := by
  rw [← List.map_const']
  refine List.map_congr_left (fun r member => ?_)
  obtain ⟨member, named⟩ := List.mem_filter.mp member
  rw [uniform.2 r member (by simpa using named)]

variable {ι : Type} [Fintype ι] [DecidableEq ι] {clients : ι → PostClient}

omit [DecidableEq ι] in
/-- What the invariant says when nobody is about to write a number back. -/
theorem GroupInv.numberedApart {modes : ι → PostMode} {s : Store}
    (inv : GroupInv clients s₀ g modes s) (uniform : s₀.Uniform 0 g)
    (nobody : ∀ i, (modes i).due g = none)
    : NumberedApart s₀ s g (countModes (PostMode.delivered g) modes) := by
  obtain ⟨new, appended, numbers⟩ := inv.rows
  have given : s₀.givenNumbers s g
      = List.range' (s₀.highValue 0 g + 1) (countModes (PostMode.delivered g) modes) := by
    rw [Store.givenNumbers, appended, List.drop_left, numbers]
  refine ⟨?_, ?_, ?_⟩
  · rw [given, List.length_range']
  · rw [given]
    exact List.nodup_range'
  · have after := map_high_of_uniform inv.uniform 0
    simp only [Nat.add_zero] at after
    rw [after, map_high_of_uniform uniform, inv.settled nobody, inv.frozen.group_length]

/-- The invariant holds in every state of a run in which no client steps with a number in hand
while another has one. -/
theorem groupInv_run (uniform : s₀.Uniform 0 g) (schedule : List ι)
    (exclusive : (postPool ext clients s₀).RunsUnder (exec ext) (OneInHand g) schedule)
    : ∃ modes, PostsGoverned ext clients s₀ (GroupInv clients s₀ g)
        ((postPool ext clients s₀).run (exec ext) schedule) modes := by
  obtain ⟨modes, governed, -⟩ := Pool.Governed.run (fun _ _ => True)
    (fun modes s inv i => inv.frozen)
    (fun pool modes i op next mode' governed exclusive _ move _ => by
      refine governed.inv.step (PostMove.frozen move governed.inv.frozen)
        (fun id => PostMove.number_kept move) (PostMove.groupMove move g) ?_
      intro inUse j other
      have theirs := exclusive (inHand_of_mode (governed.follows i) inUse) j other
      have unused : ¬(((modes j).held g).isSome || ((modes j).due g).isSome) = true := by
        intro inUse
        rw [inHand_of_mode (governed.follows j) inUse] at theirs
        cases theirs
      simpa using unused)
    (fun _ _ _ _ _ _ => ⟨trivial, fun _ _ => trivial⟩) schedule _ _
    (postPool_governed ext clients s₀ (groupInv_start uniform)) exclusive
  exact ⟨modes, governed⟩

end Runs

section TwoClients

/-- An article for the newsgroup `a`. -/
def plainArticle : Str :=
  ("From: a@b.org\r\nNewsgroups: a\r\nSubject: hi\r\n\r\nhello\r\n.\r\n").toList

/-- A client that posts it. -/
def plainClient : PostClient :=
  ⟨openConfig, sendingEnv plainArticle, Session.fresh openConfig false .article .cleared⟩

theorem uniform_fourGroups : fourGroups.Uniform 0 "a".toList :=
  ⟨⟨⟨"a".toList, 'y', 0⟩, by decide, rfl⟩, by decide⟩

instance neZero_two : NeZero 2 := ⟨by decide⟩

/-- The clients take turns, but not between the read of the number and its write-back. -/
def takeTurns : List (Fin 2) :=
  List.replicate 8 0 ++ List.replicate 8 1 ++ List.replicate 3 0 ++ List.replicate 3 1

end TwoClients

/-- Clients post at the same time, in any interleaving in which no client inserts or writes back
a number of the newsgroup while another one has a number of it in hand. Once all of them have
been answered 240, the numbers in the newsgroup are apart and its high value has grown by the
number of articles.
Witness: `GroupInv` holds in every state of the run, and in the last one nobody has a number to
write back.
-/
theorem answered_posts_numberedApart (ext : Extern) {ι : Type} [Fintype ι] [DecidableEq ι]
    (clients : ι → PostClient) (s₀ : Store) (g : Str) (uniform : s₀.Uniform 0 g)
    (schedule : List ι)
    (exclusive : (postPool ext clients s₀).RunsUnder (exec ext) (OneInHand g) schedule)
    (answered
      : ∀ i, (clients i).answered
          (((postPool ext clients s₀).run (exec ext) schedule).threads i) = true)
    : NumberedApart s₀ ((postPool ext clients s₀).run (exec ext) schedule).store g
        (countModes (PostClient.postsTo s₀ g) clients) := by
  obtain ⟨modes, governed⟩ := groupInv_run uniform schedule exclusive
  have last := fun i => delivered_of_answered (g := g) (governed.follows i) (answered i)
  have count : countModes (PostMode.delivered g) modes = countModes (PostClient.postsTo s₀ g) clients := by
    simp only [countModes, (last _).2]
  rw [← count]
  exact governed.inv.numberedApart uniform (fun i => (last i).1)

theorem turns_numberedApart
    : NumberedApart fourGroups
        ((postPool postExtern (fun _ => plainClient) fourGroups).run (exec postExtern)
          takeTurns).store "a".toList
        (countModes (PostClient.postsTo fourGroups "a".toList) (fun _ : Fin 2 => plainClient)) :=
  answered_posts_numberedApart postExtern (fun _ => plainClient) fourGroups "a".toList
    uniform_fourGroups takeTurns (by decide +kernel) (by decide +kernel)

section ReadTwice

/-- Both clients read the high value 0 before the first of them writes 1 back. -/
def readTwice : List (Fin 2) := List.replicate 9 0 ++ List.replicate 9 1 ++ [0, 0, 1, 1]

/-- Both clients are answered 240, and both articles get the number 1. -/
theorem common_number_given_twice
    : (∀ i, plainClient.answered
        (((postPool postExtern (fun _ => plainClient) fourGroups).run (exec postExtern)
          readTwice).threads i) = true)
      ∧ ¬NumberedApart fourGroups
          ((postPool postExtern (fun _ => plainClient) fourGroups).run (exec postExtern)
            readTwice).store "a".toList
          (countModes (PostClient.postsTo fourGroups "a".toList) (fun _ : Fin 2 => plainClient)) := by
  constructor
  · decide +kernel
  · intro apart
    have numbers : fourGroups.givenNumbers
        ((postPool postExtern (fun _ => plainClient) fourGroups).run (exec postExtern)
          readTwice).store "a".toList = [1, 1] := by
      decide +kernel
    have distinct := apart.distinct
    rw [numbers] at distinct
    exact absurd distinct (by decide)

end ReadTwice

end WendzelNNTPd
