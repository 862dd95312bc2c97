import Mathlib.Logic.Function.Basic
import Mathlib.Control.Basic

/-! Programs built from atomic actions on a shared store.
A program is a tree: it has ended, it has been stopped, or it performs one action and
continues with the action's result. Running a program alone and interleaving several
programs are two readings of the same tree.
-/

namespace Atomic

/-- The actions of a store, with the type of result each of them returns. -/
structure Signature where
  Act : Type
  Res : Act → Type

/-- A program ends with a value, is stopped for a reason, or performs one action. -/
inductive Prog (S : Signature) (ε α : Type) : Type
  | done (value : α)
  | stop (reason : ε)
  | act (op : S.Act) (next : S.Res op → Prog S ε α)

/-- What one action does to a store of type `σ`. -/
abbrev Exec (S : Signature) (σ : Type) := (op : S.Act) → σ → S.Res op × σ

namespace Prog

variable {S : Signature} {ε α β σ : Type}

protected def bind : Prog S ε α → (α → Prog S ε β) → Prog S ε β
  | .done value, f => f value
  | .stop reason, _ => .stop reason
  | .act op next, f => .act op (fun r => (next r).bind f)

instance : Monad (Prog S ε) where
  pure := .done
  bind := Prog.bind

/-- The program that performs one action and returns its result. -/
def perform (op : S.Act) : Prog S ε (S.Res op) := .act op .done

@[simp] theorem pure_eq (value : α) : (pure value : Prog S ε α) = .done value := rfl

@[simp] theorem done_bind (value : α) (f : α → Prog S ε β)
    : (Prog.done value >>= f) = f value :=
  rfl

@[simp] theorem stop_bind (reason : ε) (f : α → Prog S ε β)
    : ((Prog.stop reason : Prog S ε α) >>= f) = .stop reason :=
  rfl

@[simp] theorem act_bind (op : S.Act) (next : S.Res op → Prog S ε α) (f : α → Prog S ε β)
    : (Prog.act op next >>= f) = .act op (fun r => next r >>= f) :=
  rfl

@[simp] theorem perform_bind (op : S.Act) (f : S.Res op → Prog S ε β)
    : (perform op >>= f) = .act op f :=
  rfl

/-- The action a program performs next, if it has not ended. -/
def nextAct : Prog S ε α → Option S.Act
  | .act op _ => some op
  | _ => none

-----------------------------------------------------------------------------------------
-- A program running alone
-----------------------------------------------------------------------------------------

/-- Run a program alone on a store: all its actions, one after another. -/
def run (exec : Exec S σ) : Prog S ε α → σ → Except ε α × σ
  | .done value, s => (.ok value, s)
  | .stop reason, s => (.error reason, s)
  | .act op next, s => (next (exec op s).1).run exec (exec op s).2

section Run

variable (exec : Exec S σ)

@[simp] theorem run_done (value : α) (s : σ)
    : (Prog.done value : Prog S ε α).run exec s = (.ok value, s) :=
  rfl

@[simp] theorem run_stop (reason : ε) (s : σ)
    : (Prog.stop reason : Prog S ε α).run exec s = (.error reason, s) :=
  rfl

theorem run_act (op : S.Act) (next : S.Res op → Prog S ε α) (s : σ)
    : (Prog.act op next).run exec s = (next (exec op s).1).run exec (exec op s).2 :=
  rfl

/-- Running a sequence runs the second part only if the first one ended with a value. -/
theorem run_bind (p : Prog S ε α) (f : α → Prog S ε β) (s : σ)
    : (p >>= f).run exec s
      = match p.run exec s with
        | (.ok value, s') => (f value).run exec s'
        | (.error reason, s') => (.error reason, s') := by
  induction p generalizing s with
  | done value => rfl
  | stop reason => rfl
  | act op next ih => exact ih _ _

/-- The actions that a program running alone performs. -/
def performed : Prog S ε α → σ → List S.Act
  | .done _, _ => []
  | .stop _, _ => []
  | .act op next, s => op :: (next (exec op s).1).performed (exec op s).2

/-- A run leaves the store alone if every action it performs does. -/
theorem run_store_of_performed {p : Prog S ε α} {s : σ}
    (idle : ∀ op ∈ p.performed exec s, ∀ s', (exec op s').2 = s')
    : (p.run exec s).2 = s := by
  induction p generalizing s with
  | done value => rfl
  | stop reason => rfl
  | act op next ih =>
      have kept : (exec op s).2 = s := idle op (List.mem_cons_self ..) s
      rw [run_act, ih _ (fun op' later => idle op' (List.mem_cons_of_mem op later)), kept]

/-- What every action keeps is kept by every program running alone. -/
theorem run_invariant {Inv : σ → Prop} {exec : Exec S σ}
    (keeps : ∀ op s, Inv s → Inv (exec op s).2) (p : Prog S ε α) {s : σ} (start : Inv s)
    : Inv (p.run exec s).2 := by
  induction p generalizing s with
  | done value => exact start
  | stop reason => exact start
  | act op next ih => exact ih _ (keeps op s start)

end Run

-----------------------------------------------------------------------------------------
-- Weakest preconditions of a program running alone
-----------------------------------------------------------------------------------------

/-- The stores from which a program running alone ends in `Q` or is stopped in `E`. -/
def wp (exec : Exec S σ) (p : Prog S ε α) (Q : α → σ → Prop) (E : ε → σ → Prop) (s : σ)
    : Prop :=
  match p.run exec s with
  | (.ok value, s') => Q value s'
  | (.error reason, s') => E reason s'

section Wp

variable (exec : Exec S σ) {Q R : α → σ → Prop} {E F : ε → σ → Prop}

@[simp] theorem wp_done (value : α) (s : σ)
    : (Prog.done value : Prog S ε α).wp exec Q E s ↔ Q value s :=
  Iff.rfl

@[simp] theorem wp_stop (reason : ε) (s : σ)
    : (Prog.stop reason : Prog S ε α).wp exec Q E s ↔ E reason s :=
  Iff.rfl

@[simp] theorem wp_act (op : S.Act) (next : S.Res op → Prog S ε α) (s : σ)
    : (Prog.act op next).wp exec Q E s
      ↔ (next (exec op s).1).wp exec Q E (exec op s).2 :=
  Iff.rfl

/-- A sequence meets a postcondition if its first part establishes what the second needs. -/
theorem wp_bind {Q : β → σ → Prop} (p : Prog S ε α) (f : α → Prog S ε β) (s : σ)
    : (p >>= f).wp exec Q E s ↔ p.wp exec (fun value => (f value).wp exec Q E) E s := by
  induction p generalizing s with
  | done value => rfl
  | stop reason => rfl
  | act op next ih => exact ih _ _

theorem wp_mono {p : Prog S ε α} {s : σ} (h : p.wp exec Q E s)
    (ok : ∀ value s', Q value s' → R value s') (err : ∀ reason s', E reason s' → F reason s')
    : p.wp exec R F s := by
  unfold wp at *
  split at h
  · exact ok _ _ h
  · exact err _ _ h

end Wp

-----------------------------------------------------------------------------------------
-- The actions a program can perform, whatever their results
-----------------------------------------------------------------------------------------

/-- Every action the program can ever perform, for any results, is allowed. -/
def Uses (allowed : S.Act → Prop) : Prog S ε α → Prop
  | .done _ => True
  | .stop _ => True
  | .act op next => allowed op ∧ ∀ r, (next r).Uses allowed

theorem Uses.bind {allowed : S.Act → Prop} {p : Prog S ε α} {f : α → Prog S ε β}
    (first : p.Uses allowed) (rest : ∀ value, (f value).Uses allowed)
    : (p >>= f).Uses allowed := by
  induction p with
  | done value => exact rest value
  | stop reason => trivial
  | act op next ih => exact ⟨first.1, fun r => ih r (first.2 r)⟩

theorem Uses.mono {allowed wider : S.Act → Prop} {p : Prog S ε α}
    (uses : p.Uses allowed) (imp : ∀ op, allowed op → wider op)
    : p.Uses wider := by
  induction p with
  | done value => trivial
  | stop reason => trivial
  | act op next ih => exact ⟨imp op uses.1, fun r => ih r (uses.2 r)⟩

theorem Uses.and {allowed allowed' : S.Act → Prop} {p : Prog S ε α}
    (uses : p.Uses allowed) (uses' : p.Uses allowed')
    : p.Uses (fun op => allowed op ∧ allowed' op) := by
  induction p with
  | done value => trivial
  | stop reason => trivial
  | act op next ih => exact ⟨⟨uses.1, uses'.1⟩, fun r => ih r (uses.2 r) (uses'.2 r)⟩

theorem Uses.forall {κ : Type} {allowed : κ → S.Act → Prop} {p : Prog S ε α}
    (uses : ∀ k, p.Uses (allowed k))
    : p.Uses (fun op => ∀ k, allowed k op) := by
  induction p with
  | done value => trivial
  | stop reason => trivial
  | act op next ih => exact ⟨fun k => (uses k).1, fun r => ih r (fun k => (uses k).2 r)⟩

/-- Stores that treat the allowed actions alike run a program alike. -/
theorem Uses.run_congr {allowed : S.Act → Prop} {exec exec' : Exec S σ}
    (same : ∀ op s, allowed op → exec op s = exec' op s)
    {p : Prog S ε α} (uses : p.Uses allowed) (s : σ)
    : p.run exec s = p.run exec' s := by
  induction p generalizing s with
  | done value => rfl
  | stop reason => rfl
  | act op next ih => rw [run_act, run_act, same op s uses.1, ih _ (uses.2 _)]

/-- What every allowed action keeps is kept by the whole program running alone.
Witness: induction over the tree; each performed action is one step of the invariant.
-/
theorem Uses.run_invariant {allowed : S.Act → Prop} {exec : Exec S σ} {Inv : σ → Prop}
    (keeps : ∀ op s, allowed op → Inv s → Inv (exec op s).2)
    {p : Prog S ε α} (uses : p.Uses allowed) {s : σ} (start : Inv s)
    : Inv (p.run exec s).2 := by
  induction p generalizing s with
  | done value => exact start
  | stop reason => exact start
  | act op next ih => exact ih _ (uses.2 _) (keeps op s uses.1 start)

/-- The program performs allowed actions only, and is stopped only for an allowed reason. -/
def Within (allowed : S.Act → Prop) (stops : ε → Prop) : Prog S ε α → Prop
  | .done _ => True
  | .stop reason => stops reason
  | .act op next => allowed op ∧ ∀ r, (next r).Within allowed stops

theorem Within.mono {allowed wider : S.Act → Prop} {stops : ε → Prop} {p : Prog S ε α}
    (within : p.Within allowed stops) (imp : ∀ op, allowed op → wider op)
    : p.Within wider stops := by
  induction p with
  | done value => trivial
  | stop reason => exact within
  | act op next ih => exact ⟨imp op within.1, fun r => ih r (within.2 r)⟩

/-- A program whose actions keep an invariant meets every postcondition that the invariant
implies, whatever it returns. -/
theorem Within.wp {allowed : S.Act → Prop} {stops : ε → Prop} {exec : Exec S σ} {J : σ → Prop}
    (keeps : ∀ op s, allowed op → J s → J (exec op s).2) {p : Prog S ε α}
    (within : p.Within allowed stops) {Q : α → σ → Prop} {E : ε → σ → Prop} {s : σ} (start : J s)
    (ok : ∀ value s', J s' → Q value s')
    (err : ∀ reason s', stops reason → J s' → E reason s')
    : p.wp exec Q E s := by
  induction p generalizing s with
  | done value => exact ok value s start
  | stop reason => exact err reason s within start
  | act op next ih =>
      rw [wp_act]
      exact ih _ (within.2 _) (keeps op s within.1 start)

/-- All actions are early ones up to one that turns; behind that one there are only actions it
is followed by. -/
def UsesUntil (early turns : S.Act → Prop) (late : S.Act → S.Act → Prop) : Prog S ε α → Prop
  | .done _ => True
  | .stop _ => True
  | .act op next =>
      (early op ∧ ∀ r, (next r).UsesUntil early turns late)
      ∨ (turns op ∧ ∀ r, (next r).Uses (late op))

theorem Uses.bind_until {early turns : S.Act → Prop} {late : S.Act → S.Act → Prop}
    {p : Prog S ε α} {f : α → Prog S ε β} (first : p.Uses early)
    (rest : ∀ value, (f value).UsesUntil early turns late)
    : (p >>= f).UsesUntil early turns late := by
  induction p with
  | done value => exact rest value
  | stop reason => trivial
  | act op next ih => exact Or.inl ⟨first.1, fun r => ih r (first.2 r)⟩

-----------------------------------------------------------------------------------------
-- Programs with other values and reasons
-----------------------------------------------------------------------------------------

variable {ε' : Type}

/-- The same program, with its reason or value translated at its end. -/
def embed (f : ε → ε') (g : α → β) : Prog S ε α → Prog S ε' β
  | .done value => .done (g value)
  | .stop reason => .stop (f reason)
  | .act op next => .act op (fun r => (next r).embed f g)

theorem Uses.embed {allowed : S.Act → Prop} {p : Prog S ε α} (uses : p.Uses allowed)
    (f : ε → ε') (g : α → β)
    : (p.embed f g).Uses allowed := by
  induction p with
  | done value => trivial
  | stop reason => trivial
  | act op next ih => exact ⟨uses.1, fun r => ih r (uses.2 r)⟩

theorem UsesUntil.embed {early turns : S.Act → Prop} {late : S.Act → S.Act → Prop}
    {p : Prog S ε α} (uses : p.UsesUntil early turns late) (f : ε → ε') (g : α → β)
    : (p.embed f g).UsesUntil early turns late := by
  induction p with
  | done value => trivial
  | stop reason => trivial
  | act op next ih =>
      rcases uses with ⟨before, rest⟩ | ⟨turn, rest⟩
      · exact Or.inl ⟨before, fun r => ih r (rest r)⟩
      · exact Or.inr ⟨turn, fun r => (rest r).embed f g⟩

end Prog

end Atomic
