import WendzelNNTPd.Posting.Numbering
import WendzelNNTPd.Posting.Client

/-! The counter file and the clients that take numbers from it at the same time. The file is
opened, read and written, or found missing, created and written, by operations of their own. Its
numbers are taken once each if no client reads or creates it between the read or the failed open
of another one and its write.
-/

namespace WendzelNNTPd

open CString Atomic

/-- The operations that use what is in the counter file, or put something new there. -/
def Stmt.usesCounter : Stmt → Bool
  | .msgidRead | .msgidCreate => true
  | _ => false

/-- The operations behind the read or the failed open of the counter file. -/
def Stmt.setsCounter : Stmt → Bool
  | .msgidCreate | .msgidWrite _ => true
  | _ => false

/-- A number is used for an article of a store, or for a body file of one. -/
def Store.UsesId (s : Store) (id : Nat) : Prop :=
  ∃ host, (∃ p ∈ s.postings, bodyFile p.msgid = bodyFile (numberedId id host))
    ∨ ∃ n ∈ s.ngposts, n.msgid = numberedId id host

/-- The next number of the counter file is above all numbers in use. -/
def Store.CountsAhead (s : Store) : Prop :=
  ∀ next, s.nextId = some next → ∀ id, s.UsesId id → id < next

theorem bodyFile_numberedId (id : Nat) (host : Str)
    : bodyFile (numberedId id host) = "cdp".toList ++ dec id ++ '@' :: host := by
  have bracketed : numberedId id host = '<' :: (("cdp".toList ++ dec id ++ '@' :: host) ++ ['>']) := by
    simp [numberedId]
  rw [bodyFile, bracketed, List.tail_cons, List.dropLast_concat]

/-- Body files of different numbers are different. -/
theorem bodyFile_numberedId_injective {id id' : Nat} {host host' : Str}
    (same : bodyFile (numberedId id host) = bodyFile (numberedId id' host'))
    : id = id' := by
  rw [bodyFile_numberedId, bodyFile_numberedId] at same
  have whole : numberedId id host = numberedId id' host' := by
    simpa [numberedId] using congrArg (· ++ ['>']) same
  exact numberedId_injective whole

/-- Stores that sequential operations lead to count ahead. -/
theorem countsAhead_of_numbered {s : Store} (numbered : s.Numbered) : s.CountsAhead := by
  intro next taken id used
  obtain ⟨host, ⟨p, member, file⟩ | ⟨n, member, named⟩⟩ := used
  · obtain ⟨id', host', named, lt⟩ := lt_nextId numbered taken member
    rw [named] at file
    rw [← bodyFile_numberedId_injective file]
    exact lt
  · obtain ⟨p, member, same⟩ := List.any_eq_true.mp (numbered.articles n member)
    obtain ⟨id', host', named', lt⟩ := lt_nextId numbered taken member
    rw [beq_iff_eq, named', named] at same
    rw [← numberedId_injective same]
    exact lt

section Counter

variable {ι : Type} (s₀ : Store)

/-- A number is above all those that are in use or have been taken. -/
structure FreshId (modes : ι → PostMode) (id : Nat) : Prop where
  unused : ∀ id', s₀.UsesId id' → id' < id
  untaken : ∀ i id', (modes i).number = some id' → id' < id

/-- The counter file and the clients that are about to change it. -/
structure CounterInv (modes : ι → PostMode) (s : Store) : Prop where
  writable : s.msgidWritable = s₀.msgidWritable
  opened : ∀ i, modes i = .opened → s.msgidFile.isSome = true ∧ s₀.msgidWritable = true
  missing : ∀ i, modes i = .missing → s₀.msgidWritable = true → s.msgidFile = none
  writing : ∀ i id, modes i = .writing id →
    s.msgidFile.isSome = true ∧ s₀.msgidWritable = true ∧ FreshId s₀ modes id
  alone : ∀ i j id id', modes i = .writing id → modes j = .writing id' → i = j
  counter : ∀ id, s.msgidFile = some (some id) → s₀.msgidWritable = true → FreshId s₀ modes (id + 1)
  absent : s.msgidFile = none → s₀.msgidWritable = true → FreshId s₀ modes 1
  created : s.msgidFile = some none → (∀ i id, modes i ≠ .writing id) → s₀.msgidFile = some none
  distinct : ∀ i j id, (modes i).number = some id → (modes j).number = some id → i = j
  fresh : ∀ i id, (modes i).number = some id → ¬s₀.UsesId id
  noNumber : ∀ i, modes i = .noNumber → s₀.nextId = none

variable {s₀}

theorem counterInv_start (ahead : s₀.CountsAhead)
    : CounterInv s₀ (fun _ : ι => .checking) s₀ := by
  have fresh : ∀ id, s₀.nextId = some id → FreshId s₀ (fun _ : ι => PostMode.checking) id := by
    intro id taken
    refine ⟨ahead id taken, fun _ _ number => ?_⟩
    cases number
  refine ⟨rfl, ?_, ?_, ?_, ?_, ?_, ?_, ?_, ?_, ?_, ?_⟩
  · intro _ mode
    cases mode
  · intro _ mode
    cases mode
  · intro _ _ mode
    cases mode
  · intro _ _ _ _ mode
    cases mode
  · intro id file writable
    exact fresh (id + 1) (by simp [Store.nextId, file, writable])
  · intro file writable
    exact fresh 1 (by simp [Store.nextId, file, writable])
  · exact fun file _ => file
  · intro _ _ _ mode
    cases mode
  · intro _ _ mode
    cases mode
  · intro _ mode
    cases mode

variable [DecidableEq ι] {modes : ι → PostMode} {s s' : Store} {i : ι} {mode' : PostMode}

theorem FreshId.update {id : Nat} (fresh : FreshId s₀ modes id)
    (own : ∀ id', mode'.number = some id' → id' < id)
    : FreshId s₀ (Function.update modes i mode') id := by
  refine ⟨fresh.unused, fun j id' number => ?_⟩
  by_cases chosen : j = i
  · rw [chosen, Function.update_self] at number
    exact own id' number
  · rw [Function.update_of_ne chosen] at number
    exact fresh.untaken j id' number

/-- A client whose number stays the same leaves fresh numbers fresh. -/
theorem FreshId.update_same {id : Nat} (fresh : FreshId s₀ modes id)
    (number : mode'.number = (modes i).number)
    : FreshId s₀ (Function.update modes i mode') id :=
  fresh.update (fun id' own => fresh.untaken i id' (number ▸ own))

/-- A move of a client that is not about to write the counter file, and leaves it as it is. -/
theorem CounterInv.quiet (inv : CounterInv s₀ modes s) (file : s'.msgidFile = s.msgidFile)
    (writable : s'.msgidWritable = s.msgidWritable) (number : mode'.number = (modes i).number)
    (before : ∀ id, modes i ≠ .writing id) (after : ∀ id, mode' ≠ .writing id)
    (opened : mode' = .opened → s.msgidFile.isSome = true ∧ s₀.msgidWritable = true)
    (missing : mode' = .missing → s₀.msgidWritable = true → s.msgidFile = none)
    (noNumber : mode' = .noNumber → s₀.nextId = none)
    : CounterInv s₀ (Function.update modes i mode') s' := by
  have writers : ∀ j id, Function.update modes i mode' j = .writing id → j ≠ i ∧ modes j = .writing id := by
    intro j id mode
    by_cases chosen : j = i
    · rw [chosen, Function.update_self] at mode
      exact absurd mode (after id)
    · rw [Function.update_of_ne chosen] at mode
      exact ⟨chosen, mode⟩
  have numbers : ∀ j, (Function.update modes i mode' j).number = (modes j).number := by
    intro j
    by_cases chosen : j = i
    · rw [chosen, Function.update_self, number]
    · rw [Function.update_of_ne chosen]
  refine ⟨writable.trans inv.writable, ?_, ?_, ?_, ?_, ?_, ?_, ?_, ?_, ?_, ?_⟩
  · intro j mode
    rw [file]
    by_cases chosen : j = i
    · rw [chosen, Function.update_self] at mode
      exact opened mode
    · rw [Function.update_of_ne chosen] at mode
      exact inv.opened j mode
  · intro j mode
    rw [file]
    by_cases chosen : j = i
    · rw [chosen, Function.update_self] at mode
      exact missing mode
    · rw [Function.update_of_ne chosen] at mode
      exact inv.missing j mode
  · intro j id mode
    obtain ⟨there, allowed, fresh⟩ := inv.writing j id (writers j id mode).2
    exact ⟨file ▸ there, allowed, fresh.update_same number⟩
  · intro j k id id' first second
    exact inv.alone j k id id' (writers j id first).2 (writers k id' second).2
  · intro id counter allowed
    exact (inv.counter id (file ▸ counter) allowed).update_same number
  · intro none allowed
    exact (inv.absent (file ▸ none) allowed).update_same number
  · intro empty nobody
    refine inv.created (file ▸ empty) (fun j id mode => ?_)
    by_cases chosen : j = i
    · exact before id (chosen ▸ mode)
    · exact nobody j id (by rw [Function.update_of_ne chosen, mode])
  · intro j k id
    rw [numbers, numbers]
    exact inv.distinct j k id
  · intro j id
    rw [numbers]
    exact inv.fresh j id
  · intro j mode
    by_cases chosen : j = i
    · rw [chosen, Function.update_self] at mode
      exact noNumber mode
    · rw [Function.update_of_ne chosen] at mode
      exact inv.noNumber j mode

/-- A client comes to write the next number while no other is about to. The file is there
already, or it has just been created. -/
theorem CounterInv.next (inv : CounterInv s₀ modes s) {id : Nat} (mode : (modes i).number = none)
    (writable : s'.msgidWritable = s.msgidWritable) (there : s'.msgidFile.isSome = true)
    (allowed : s₀.msgidWritable = true) (next : FreshId s₀ modes id)
    (file : s'.msgidFile = s.msgidFile ∨ s'.msgidFile = some none)
    (nobody : ∀ j, j ≠ i → modes j ≠ .missing ∧ ∀ id', modes j ≠ .writing id')
    : CounterInv s₀ (Function.update modes i (.writing id)) s' := by
  have number : PostMode.number (.writing id) = (modes i).number := mode.symm
  have numbers : ∀ j, (Function.update modes i (.writing id) j).number = (modes j).number := by
    intro j
    by_cases chosen : j = i
    · rw [chosen, Function.update_self, number]
    · rw [Function.update_of_ne chosen]
  have writer : ∀ j id', Function.update modes i (.writing id) j = .writing id' → j = i ∧ id' = id := by
    intro j id' mode
    by_cases chosen : j = i
    · rw [chosen, Function.update_self] at mode
      cases mode
      exact ⟨chosen, rfl⟩
    · rw [Function.update_of_ne chosen] at mode
      exact absurd mode ((nobody j chosen).2 id')
  refine ⟨writable.trans inv.writable, ?_, ?_, ?_, ?_, ?_, ?_, ?_, ?_, ?_, ?_⟩
  · intro j _
    exact ⟨there, allowed⟩
  · intro j mode
    by_cases chosen : j = i
    · rw [chosen, Function.update_self] at mode
      cases mode
    · rw [Function.update_of_ne chosen] at mode
      exact absurd mode (nobody j chosen).1
  · intro j id' mode
    obtain ⟨-, rfl⟩ := writer j id' mode
    exact ⟨there, allowed, next.update_same number⟩
  · intro j k id' id'' first second
    rw [(writer j id' first).1, (writer k id'' second).1]
  · intro id' counter allowed
    rcases file with same | empty
    · exact (inv.counter id' (same ▸ counter) allowed).update_same number
    · rw [empty] at counter
      cases counter
  · intro none _
    rw [none] at there
    cases there
  · intro _ nobody'
    exact absurd (Function.update_self i _ modes) (nobody' i id)
  · intro j k id'
    rw [numbers, numbers]
    exact inv.distinct j k id'
  · intro j id'
    rw [numbers]
    exact inv.fresh j id'
  · intro j mode
    by_cases chosen : j = i
    · rw [chosen, Function.update_self] at mode
      cases mode
    · rw [Function.update_of_ne chosen] at mode
      exact inv.noNumber j mode

/-- The write of a number, which its client then has. -/
theorem CounterInv.write (inv : CounterInv s₀ modes s) {id : Nat} (mode : modes i = .writing id)
    : CounterInv s₀ (Function.update modes i (.numbered id)) { s with msgidFile := some (some id) } := by
  obtain ⟨there, allowed, fresh⟩ := inv.writing i id mode
  have others : ∀ j id', Function.update modes i (.numbered id) j ≠ .writing id' := by
    intro j id' other
    by_cases chosen : j = i
    · rw [chosen, Function.update_self] at other
      cases other
    · rw [Function.update_of_ne chosen] at other
      exact chosen (inv.alone j i id' id other mode)
  have numbers : ∀ j id', (Function.update modes i (.numbered id) j).number = some id' →
      j = i ∧ id' = id ∨ j ≠ i ∧ (modes j).number = some id' := by
    intro j id' number
    by_cases chosen : j = i
    · rw [chosen, Function.update_self] at number
      cases number
      exact Or.inl ⟨chosen, rfl⟩
    · rw [Function.update_of_ne chosen] at number
      exact Or.inr ⟨chosen, number⟩
  refine ⟨inv.writable, ?_, ?_, ?_, ?_, ?_, ?_, ?_, ?_, ?_, ?_⟩
  · intro j _
    exact ⟨rfl, allowed⟩
  · intro j missing _
    by_cases chosen : j = i
    · rw [chosen, Function.update_self] at missing
      cases missing
    · rw [Function.update_of_ne chosen] at missing
      rw [inv.missing j missing allowed] at there
      cases there
  · intro j id' other
    exact absurd other (others j id')
  · intro j k id' id'' other
    exact absurd other (others j id')
  · intro id' counter _
    cases counter
    refine ⟨fun used member => ?_, fun j id' number => ?_⟩
    · exact Nat.lt_succ_of_lt (fresh.unused used member)
    · rcases numbers j id' number with ⟨-, rfl⟩ | ⟨-, taken⟩
      · exact Nat.lt_succ_self _
      · exact Nat.lt_succ_of_lt (fresh.untaken j id' taken)
  · exact fun none _ => nomatch none
  · exact fun empty _ => nomatch empty
  · intro j k id' first second
    rcases numbers j id' first with ⟨rfl, rfl⟩ | ⟨-, firstTaken⟩
    · rcases numbers k id' second with ⟨rfl, -⟩ | ⟨-, taken⟩
      · rfl
      · exact absurd (fresh.untaken k id' taken) (Nat.lt_irrefl _)
    · rcases numbers k id' second with ⟨rfl, rfl⟩ | ⟨-, secondTaken⟩
      · exact absurd (fresh.untaken j id' firstTaken) (Nat.lt_irrefl _)
      · exact inv.distinct j k id' firstTaken secondTaken
  · intro j id' number used
    rcases numbers j id' number with ⟨-, rfl⟩ | ⟨-, taken⟩
    · exact absurd (fresh.unused id' used) (Nat.lt_irrefl _)
    · exact inv.fresh j id' taken used
  · intro j other
    by_cases chosen : j = i
    · rw [chosen, Function.update_self] at other
      cases other
    · rw [Function.update_of_ne chosen] at other
      exact inv.noNumber j other

/-- Every move keeps the invariant of the counter file if a client that reads or creates it is
not between another one and its write.
Witness: only the read of a number, the creation of the file and the write of a number are not
quiet.
-/
theorem CounterInv.step {ext : Extern} {c : PostClient} {op : Stmt} (inv : CounterInv s₀ modes s)
    (move : PostMove ext c (modes i) op s mode')
    (alone
      : op.usesCounter = true →
        ∀ j, j ≠ i → modes j ≠ .missing ∧ ∀ id, modes j ≠ .writing id)
    : CounterInv s₀ (Function.update modes i mode') (exec ext op s).2 := by
  generalize mode : modes i = m at move
  cases move
  case openFile found =>
    rw [Bool.and_eq_true, inv.writable] at found
    refine inv.quiet rfl rfl (congrArg PostMode.number mode).symm ?_ ?_ (fun _ => found) ?_ ?_
    all_goals simp [mode]
  case openFails failed =>
    refine inv.quiet rfl rfl (congrArg PostMode.number mode).symm ?_ ?_ ?_ (fun _ allowed => ?_) ?_
    case refine_4 =>
      rw [inv.writable, allowed, Bool.and_true, Option.isSome_eq_false_iff] at failed
      exact Option.isNone_iff_eq_none.mp failed
    all_goals simp [mode]
  case readFile id counter =>
    have file : s.msgidFile = some (some id) := Option.join_eq_some_iff.mp counter
    obtain ⟨there, allowed⟩ := inv.opened i mode
    exact inv.next (by rw [mode]; rfl) rfl there allowed (inv.counter id file allowed) (Or.inl rfl)
      (alone rfl)
  case readFails empty =>
    obtain ⟨there, allowed⟩ := inv.opened i mode
    have file : s.msgidFile = some none := by
      obtain ⟨content, file⟩ := Option.isSome_iff_exists.mp there
      rw [file, Option.join_some] at empty
      rw [file, empty]
    have before : s₀.msgidFile = some none := by
      refine inv.created file (fun j id writing => ?_)
      by_cases chosen : j = i
      · rw [chosen, mode] at writing
        cases writing
      · exact (alone rfl j chosen).2 id writing
    refine inv.quiet rfl rfl (congrArg PostMode.number mode).symm ?_ ?_ ?_ ?_ (fun _ => ?_)
    case refine_5 => simp [Store.nextId, before]
    all_goals simp [mode]
  case createFile writable =>
    have allowed : s₀.msgidWritable = true := inv.writable ▸ writable
    simp only [exec, if_pos writable]
    exact inv.next (by rw [mode]; rfl) rfl rfl allowed (inv.absent (inv.missing i mode allowed) allowed)
      (Or.inr rfl) (alone rfl)
  case createFails failed =>
    have unwritable : s₀.msgidWritable = false := inv.writable ▸ failed
    have unchanged : (exec ext .msgidCreate s).2 = s := by simp [exec, failed]
    rw [unchanged]
    refine inv.quiet rfl rfl (congrArg PostMode.number mode).symm ?_ ?_ ?_ ?_ (fun _ => ?_)
    case refine_5 => simp [Store.nextId, unwritable]
    all_goals simp [mode]
  case writeFile id => exact inv.write mode
  case save =>
    rw [exec_bodyWrite]
    refine inv.quiet rfl rfl (congrArg PostMode.number mode).symm ?_ ?_ ?_ ?_ ?_
    all_goals simp [mode]
  all_goals
    refine inv.quiet rfl rfl (congrArg PostMode.number mode).symm ?_ ?_ ?_ ?_ ?_
    all_goals simp [mode]

end Counter

end WendzelNNTPd
