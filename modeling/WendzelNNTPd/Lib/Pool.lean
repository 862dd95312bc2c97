import WendzelNNTPd.Lib.Prog
import Mathlib.Data.Fintype.Card

/-! Programs interleaved over one store, and protocols that every program keeps to.
A pool runs one action of one chosen program at a time. A protocol gives a program a mode
that each of its actions moves, as long as the store is one the program may rely on; an
invariant of the modes and the store that every permitted move keeps then holds in every
state the pool reaches.
-/

namespace Atomic

variable {S : Signature} {ε α β σ ι : Type}

/-- Several programs and the store they share. -/
structure Pool (S : Signature) (ε α σ ι : Type) where
  threads : ι → Prog S ε α
  store : σ

namespace Pool

variable [DecidableEq ι]

/-- One action of the chosen thread; a thread that has ended does nothing. -/
def step (exec : Exec S σ) (pool : Pool S ε α σ ι) (i : ι) : Pool S ε α σ ι :=
  match pool.threads i with
  | .act op next =>
      {
        threads := Function.update pool.threads i (next (exec op pool.store).1)
        store := (exec op pool.store).2
      }
  | _ => pool

/-- The pool after the chosen threads have made one step each, in this order. -/
def run (exec : Exec S σ) (schedule : List ι) (pool : Pool S ε α σ ι) : Pool S ε α σ ι :=
  schedule.foldl (step exec) pool

/-- Every step of the run meets a condition on the state before it and the chosen thread. -/
def RunsUnder (exec : Exec S σ) (cond : Pool S ε α σ ι → ι → Prop)
    : List ι → Pool S ε α σ ι → Prop
  | [], _ => True
  | i :: rest, pool => cond pool i ∧ RunsUnder exec cond rest (pool.step exec i)

instance decidableRunsUnder {exec : Exec S σ} {cond : Pool S ε α σ ι → ι → Prop}
    [∀ pool i, Decidable (cond pool i)]
    : ∀ (schedule : List ι) (pool : Pool S ε α σ ι), Decidable (RunsUnder exec cond schedule pool)
  | [], _ => inferInstanceAs (Decidable True)
  | i :: rest, pool =>
      @instDecidableAnd _ _ inferInstance (decidableRunsUnder rest (pool.step exec i))

/-- The actions of a run, each with the thread that performed it. -/
def trace (exec : Exec S σ) : List ι → Pool S ε α σ ι → List (ι × S.Act)
  | [], _ => []
  | i :: rest, pool =>
      (pool.threads i).nextAct.toList.map (fun op => (i, op)) ++ trace exec rest (pool.step exec i)

variable (exec : Exec S σ)

@[simp] theorem run_nil (pool : Pool S ε α σ ι) : run exec [] pool = pool := rfl

@[simp] theorem run_cons (i : ι) (rest : List ι) (pool : Pool S ε α σ ι)
    : run exec (i :: rest) pool = run exec rest (pool.step exec i) :=
  rfl

/-- A step either leaves the pool alone or performs the next action of the chosen thread. -/
theorem step_cases (pool : Pool S ε α σ ι) (i : ι)
    : pool.step exec i = pool ∧ (pool.threads i).nextAct = none
      ∨ ∃ op next,
          pool.threads i = .act op next
          ∧ pool.step exec i
            = ⟨Function.update pool.threads i (next (exec op pool.store).1),
                (exec op pool.store).2⟩ := by
  unfold step
  cases h : pool.threads i with
  | done value => exact Or.inl ⟨rfl, rfl⟩
  | stop reason => exact Or.inl ⟨rfl, rfl⟩
  | act op next => exact Or.inr ⟨op, next, rfl, rfl⟩

/-- What every permitted step keeps is kept by every run of permitted steps. -/
theorem run_invariant {cond : Pool S ε α σ ι → ι → Prop} {Inv : Pool S ε α σ ι → Prop}
    (keeps
      : ∀ pool i op next, Inv pool → cond pool i → pool.threads i = .act op next →
          Inv ⟨Function.update pool.threads i (next (exec op pool.store).1),
            (exec op pool.store).2⟩)
    (schedule : List ι) {pool : Pool S ε α σ ι} (start : Inv pool)
    (under : pool.RunsUnder exec cond schedule)
    : Inv (pool.run exec schedule) := by
  induction schedule generalizing pool with
  | nil => exact start
  | cons i rest ih =>
      rw [run_cons]
      refine ih ?_ under.2
      rcases step_cases exec pool i with ⟨idle, -⟩ | ⟨op, next, thread, stepped⟩
      · rw [idle]
        exact start
      · rw [stepped]
        exact keeps pool i op next start under.1 thread

theorem RunsUnder.mono {cond wider : Pool S ε α σ ι → ι → Prop}
    (imp : ∀ pool i, cond pool i → wider pool i) {schedule : List ι} {pool : Pool S ε α σ ι}
    (under : pool.RunsUnder exec cond schedule)
    : pool.RunsUnder exec wider schedule := by
  induction schedule generalizing pool with
  | nil => trivial
  | cons i rest ih => exact ⟨imp pool i under.1, ih under.2⟩

end Pool

section Protocols

variable {M : Type}

/-- A protocol with modes in `M`: the moves that actions may make on a store, and the stores
that a thread may rely on. -/
structure Protocol (S : Signature) (σ M : Type) where
  Move : M → S.Act → σ → M → Prop
  Rely : σ → Prop

/-- From mode `mode` the program keeps to the protocol on all stores it may rely on. It ends in
a mode `Q` admits and is stopped only in a mode `E` admits. -/
def Prog.Follows (exec : Exec S σ) (A : Protocol S σ M) (E : ε → M → Prop)
    : Prog S ε α → M → (α → M → Prop) → Prop
  | .done value, mode, Q => Q value mode
  | .stop reason, mode, _ => E reason mode
  | .act op next, mode, Q =>
      ∀ s, A.Rely s →
        ∃ mode', A.Move mode op s mode' ∧ (next (exec op s).1).Follows exec A E mode' Q

namespace Prog.Follows

variable {exec : Exec S σ} {A : Protocol S σ M} {E : ε → M → Prop}

theorem mono {p : Prog S ε α} {mode : M} {Q R : α → M → Prop}
    (h : p.Follows exec A E mode Q) (imp : ∀ value mode', Q value mode' → R value mode')
    : p.Follows exec A E mode R := by
  induction p generalizing mode with
  | done value => exact imp _ _ h
  | stop reason => exact h
  | act op next ih =>
      intro s relied
      obtain ⟨mode', move, rest⟩ := h s relied
      exact ⟨mode', move, ih _ rest⟩

/-- A sequence follows the protocol if its second part continues where the first ended. -/
theorem bind {p : Prog S ε α} {f : α → Prog S ε β} {mode : M} {Q : β → M → Prop}
    (h : p.Follows exec A E mode (fun value mode' => (f value).Follows exec A E mode' Q))
    : (p >>= f).Follows exec A E mode Q := by
  induction p generalizing mode with
  | done value => exact h
  | stop reason => exact h
  | act op next ih =>
      intro s relied
      obtain ⟨mode', move, rest⟩ := h s relied
      exact ⟨mode', move, ih _ rest⟩

/-- A program whose actions never move the mode. -/
theorem of_uses {allowed : S.Act → Prop} {p : Prog S ε α} (uses : p.Uses allowed) {mode : M}
    (stays : ∀ op s, allowed op → A.Move mode op s mode) (ends : ∀ reason, E reason mode)
    : p.Follows exec A E mode (fun _ mode' => mode' = mode) := by
  induction p with
  | done value => rfl
  | stop reason => exact ends reason
  | act op next ih => exact fun s _ => ⟨mode, stays op s uses.1, ih _ (uses.2 _)⟩

theorem embed {ε' : Type} {E' : ε' → M → Prop} {p : Prog S ε α} {mode : M}
    {Q : α → M → Prop} {R : β → M → Prop}
    (h : p.Follows exec A E mode Q) {f : ε → ε'} {g : α → β}
    (stopped : ∀ reason mode', E reason mode' → E' (f reason) mode')
    (ended : ∀ value mode', Q value mode' → R (g value) mode')
    : (p.embed f g).Follows exec A E' mode R := by
  induction p generalizing mode with
  | done value => exact ended _ _ h
  | stop reason => exact stopped _ _ h
  | act op next ih =>
      intro s relied
      obtain ⟨mode', move, rest⟩ := h s relied
      exact ⟨mode', move, ih _ rest⟩

end Prog.Follows

variable {exec : Exec S σ} {A : ι → Protocol S σ M} {E : ι → ε → M → Prop}
  {Q : ι → α → M → Prop} {Inv : (ι → M) → σ → Prop}

/-- A pool invariant carried by modes: every thread follows its protocol from its mode, and the
modes and the store are related by `Inv`. -/
structure Pool.Governed (exec : Exec S σ) (A : ι → Protocol S σ M) (E : ι → ε → M → Prop)
    (Q : ι → α → M → Prop) (Inv : (ι → M) → σ → Prop) (pool : Pool S ε α σ ι) (modes : ι → M)
    : Prop where
  follows : ∀ i, (pool.threads i).Follows exec (A i) (E i) (modes i) (Q i)
  inv : Inv modes pool.store

variable [DecidableEq ι]

/-- Pool runs keep a governed pool governed, and the modes at the end have recorded every action
of the run that modes record.
Witness: induction on the schedule; a step moves one thread and its mode, and `keeps` is the
invariant's own step lemma, used only for moves the protocol permits.
-/
theorem Pool.Governed.run {cond : Pool S ε α σ ι → ι → Prop} (Recorded : S.Act → M → Prop)
    (relies : ∀ modes s, Inv modes s → ∀ i, (A i).Rely s)
    (keeps
      : ∀ (pool : Pool S ε α σ ι) modes i op next mode',
          pool.Governed exec A E Q Inv modes
          → cond pool i
          → pool.threads i = .act op next
          → (A i).Move (modes i) op pool.store mode'
          → (next (exec op pool.store).1).Follows exec (A i) (E i) mode' (Q i)
          → Inv (Function.update modes i mode') (exec op pool.store).2)
    (records
      : ∀ i mode op s mode', (A i).Move mode op s mode' →
          Recorded op mode' ∧ ∀ earlier, Recorded earlier mode → Recorded earlier mode')
    (schedule : List ι) (pool : Pool S ε α σ ι) (modes : ι → M)
    (governed : pool.Governed exec A E Q Inv modes)
    (under : pool.RunsUnder exec cond schedule)
    : ∃ modes', (pool.run exec schedule).Governed exec A E Q Inv modes'
        ∧ (∀ i op, (i, op) ∈ pool.trace exec schedule → Recorded op (modes' i))
        ∧ ∀ i op, Recorded op (modes i) → Recorded op (modes' i) := by
  induction schedule generalizing pool modes with
  | nil => exact ⟨modes, governed, fun _ _ member => (List.not_mem_nil member).elim, fun _ _ => id⟩
  | cons i rest ih =>
      rw [Pool.run_cons]
      rcases Pool.step_cases exec pool i with ⟨idle, silent⟩ | ⟨op, next, thread, stepped⟩
      · rw [idle]
        simp only [Pool.trace, silent, Option.toList_none, List.map_nil, List.nil_append, idle]
        exact ih pool modes governed (by simpa only [idle] using under.2)
      · have follows := governed.follows i
        rw [thread] at follows
        obtain ⟨mode', move, continues⟩ :=
          follows pool.store (relies modes pool.store governed.inv i)
        obtain ⟨recorded, kept⟩ := records i _ _ _ _ move
        have next' : (pool.step exec i).Governed exec A E Q Inv (Function.update modes i mode') := by
          rw [stepped]
          refine ⟨fun j => ?_, keeps pool modes i op next mode' governed under.1 thread move continues⟩
          by_cases same : j = i
          · subst same
            simpa only [Function.update_self] using continues
          · simpa only [Function.update_of_ne same] using governed.follows j
        obtain ⟨modes', governed', traced, grown⟩ := ih (pool.step exec i) _ next' under.2
        refine ⟨modes', governed', fun j earlier member => ?_, fun j earlier before => ?_⟩
        · simp only [Pool.trace, thread, Prog.nextAct, Option.toList_some, List.map_cons,
            List.map_nil, List.singleton_append] at member
          rcases List.mem_cons.mp member with first | later
          · cases first
            exact grown i op (by simpa only [Function.update_self] using recorded)
          · exact traced j earlier later
        · refine grown j earlier ?_
          by_cases same : j = i
          · subst same
            simpa only [Function.update_self] using kept earlier before
          · simpa only [Function.update_of_ne same] using before

end Protocols

section Count

variable {M : Type} [Fintype ι] [DecidableEq ι]

/-- How many threads are in a mode with some property. -/
def countModes (p : M → Bool) (modes : ι → M) : Nat :=
  (Finset.univ.filter (fun i => p (modes i) = true)).card

variable {p : M → Bool} {modes : ι → M} {i : ι} {mode' : M}

theorem countModes_update_of_eq (same : p mode' = p (modes i))
    : countModes p (Function.update modes i mode') = countModes p modes := by
  unfold countModes
  congr 2
  funext j
  by_cases chosen : j = i
  · subst chosen
    rw [Function.update_self, same]
  · rw [Function.update_of_ne chosen]

theorem countModes_update_of_new (before : p (modes i) = false) (after : p mode' = true)
    : countModes p (Function.update modes i mode') = countModes p modes + 1 := by
  have grown : Finset.univ.filter (fun j => p (Function.update modes i mode' j) = true)
      = insert i (Finset.univ.filter (fun j => p (modes j) = true)) := by
    ext j
    by_cases chosen : j = i
    · subst chosen
      simp [after]
    · simp [chosen]
  have fresh : i ∉ Finset.univ.filter (fun j => p (modes j) = true) := by
    simp [before]
  rw [countModes, grown, Finset.card_insert_of_notMem fresh]
  rfl

end Count

end Atomic
