import WendzelNNTPd.Lib.Handler
import WendzelNNTPd.Lib.Pool

/-! Programs that share a store which only ever moves on. What one of them has found out, and
what no action can undo, it can rely on from then on, whatever the others do in between.
-/

namespace Atomic

variable {S : Signature} {ε ρ α β σ ι : Type}

/-- What the programs rely on and what they guarantee: the store moves along a preorder, and
an action is performed only on a store on which it may be. -/
structure Discipline (exec : Exec S σ) where
  Later : σ → σ → Prop
  May : S.Act → σ → Prop
  refl : ∀ s, Later s s
  trans : ∀ {s t u}, Later s t → Later t u → Later s u
  moves : ∀ op s, May op s → Later s (exec op s).2

variable {exec : Exec S σ} {D : Discipline exec}

/-- A condition that no later store breaks. -/
def Discipline.Stable (D : Discipline exec) (P : σ → Prop) : Prop :=
  ∀ s t, P s → D.Later s t → P t

namespace Discipline.Stable

variable {P Q : σ → Prop}

theorem and (first : D.Stable P) (second : D.Stable Q) : D.Stable (fun s => P s ∧ Q s) :=
  fun s t both moved => ⟨first s t both.1 moved, second s t both.2 moved⟩

theorem all {P : β → σ → Prop} (each : ∀ b, D.Stable (P b)) (l : List β)
    : D.Stable (fun s => ∀ b ∈ l, P b s) :=
  fun s t held moved b member => each b s t (held b member) moved

end Discipline.Stable

/-- From a store on, the program performs its actions only where it may, and returns in `Q`,
while others move the store between any two of its actions. -/
def Prog.Heeds (D : Discipline exec) : Prog S ε α → (α → σ → Prop) → σ → Prop
  | .done value, Q, s => ∀ t, D.Later s t → Q value t
  | .stop _, _, _ => True
  | .act op next, Q, s =>
      ∀ t, D.Later s t → D.May op t ∧ (next (exec op t).1).Heeds D Q (exec op t).2

namespace Prog.Heeds

variable {p : Prog S ε α} {Q R : α → σ → Prop} {s t : σ}

theorem later (heeds : p.Heeds D Q s) (moved : D.Later s t) : p.Heeds D Q t := by
  cases p with
  | done value => exact fun u further => heeds u (D.trans moved further)
  | stop reason => trivial
  | act op next => exact fun u further => heeds u (D.trans moved further)

theorem mono (heeds : p.Heeds D Q s) (imp : ∀ value t, Q value t → R value t)
    : p.Heeds D R s := by
  induction p generalizing s with
  | done value => exact fun t moved => imp value t (heeds t moved)
  | stop reason => trivial
  | act op next ih => exact fun t moved => ⟨(heeds t moved).1, ih _ (heeds t moved).2⟩

theorem bind {f : α → Prog S ε β} {R : β → σ → Prop}
    (heeds : p.Heeds D (fun value t => (f value).Heeds D R t) s)
    : (p >>= f).Heeds D R s := by
  induction p generalizing s with
  | done value => exact heeds s (D.refl s)
  | stop reason => trivial
  | act op next ih => exact fun t moved => ⟨(heeds t moved).1, ih _ (heeds t moved).2⟩

/-- What lasts from the start on holds at the end. -/
theorem frame {J : σ → Prop} (heeds : p.Heeds D Q s) (lasts : ∀ t, D.Later s t → J t)
    : p.Heeds D (fun value t => Q value t ∧ J t) s := by
  induction p generalizing s with
  | done value => exact fun t moved => ⟨heeds t moved, lasts t moved⟩
  | stop reason => trivial
  | act op next ih =>
      intro t moved
      obtain ⟨may, continues⟩ := heeds t moved
      refine ⟨may, ih _ continues (fun u further => lasts u ?_)⟩
      exact D.trans moved (D.trans (D.moves op t may) further)

/-- A program whose actions may be performed on every store. -/
theorem of_uses {allowed : S.Act → Prop} (uses : p.Uses allowed)
    (may : ∀ op, allowed op → ∀ s, D.May op s)
    : p.Heeds D (fun _ t => D.Later s t) s := by
  have further (start : σ) (before : D.Later s start)
      : p.Heeds D (fun _ t => D.Later s t) start := by
    induction p generalizing start with
    | done value => exact fun t moved => D.trans before moved
    | stop reason => trivial
    | act op next ih =>
        intro t moved
        have allowed := may op uses.1 t
        exact ⟨allowed, ih _ (uses.2 _) _ (D.trans (D.trans before moved) (D.moves op t allowed))⟩
  exact further s (D.refl s)

end Prog.Heeds

/-- From local states and stores in `P` the handler heeds the discipline and returns in `Q`. -/
def Heeding (D : Discipline exec) (P : ρ → σ → Prop) (m : Handler S ε ρ α)
    (Q : α → ρ → σ → Prop)
    : Prop :=
  ∀ r s, P r s → (m.run r).Heeds D (fun out => Q out.1 out.2) s

namespace Heeding

variable {P P' : ρ → σ → Prop} {Q Q' : α → ρ → σ → Prop}

/-- An action that may be performed, and what others do behind it. -/
theorem act {op : S.Act} {J : σ → Prop} {Q : S.Res op → σ → Prop} (stable : D.Stable J)
    (may : ∀ s, J s → D.May op s)
    (after : ∀ s t, J s → D.Later (exec op s).2 t → Q (exec op s).1 t)
    : Heeding D (fun (_ : ρ) s => J s)
        (fun r => .act op (fun result => .done (result, r)) : Handler S ε ρ (S.Res op))
        (fun result _ s => Q result s) := by
  intro r s start t moved
  have held := stable s t start moved
  exact ⟨may t held, fun u further => after t u held further⟩

theorem weaken {m : Handler S ε ρ α} (heeding : Heeding D P m Q)
    (pre : ∀ r s, P' r s → P r s) (post : ∀ a r s, Q a r s → Q' a r s)
    : Heeding D P' m Q' :=
  fun r s start => (heeding r s (pre r s start)).mono (fun out => post out.1 out.2)

theorem pure {a : α} (kept : ∀ r s t, P r s → D.Later s t → Q a r t)
    : Heeding D P (Pure.pure a : Handler S ε ρ α) Q :=
  fun r s start t moved => kept r s t start moved

theorem bind {R : β → ρ → σ → Prop} {m : Handler S ε ρ β} {f : β → Handler S ε ρ α}
    (first : Heeding D P m R) (rest : ∀ b, Heeding D (R b) (f b) Q)
    : Heeding D P (m >>= f) Q := by
  intro r s start
  rw [StateT.run_bind]
  exact Prog.Heeds.bind ((first r s start).mono (fun out t mid => rest out.1 out.2 t mid))

theorem read {f : ρ → Handler S ε ρ α}
    (rest : ∀ r, Heeding D (fun r' s => r' = r ∧ P r s) (f r) Q)
    : Heeding D P (get >>= f) Q :=
  fun r s start => rest r r s ⟨rfl, start⟩

theorem modify {g : ρ → ρ} {Q : PUnit → ρ → σ → Prop}
    (kept : ∀ r s t, P r s → D.Later s t → Q ⟨⟩ (g r) t)
    : Heeding D P (modify g : Handler S ε ρ PUnit) Q :=
  fun r s start t moved => kept r s t start moved

theorem ite {c : Prop} [Decidable c] {m m' : Handler S ε ρ α} (yes : c → Heeding D P m Q)
    (no : ¬c → Heeding D P m' Q)
    : Heeding D P (if c then m else m') Q := by
  split
  · exact yes ‹_›
  · exact no ‹_›

theorem frame {J : σ → Prop} {m : Handler S ε ρ α} (heeding : Heeding D P m Q)
    (stable : D.Stable J)
    : Heeding D (fun r s => P r s ∧ J s) m (fun a r s => Q a r s ∧ J s) :=
  fun r s start => (heeding r s start.1).frame (fun t moved => stable s t start.2 moved)

/-- A handler whose actions may be performed on every store, for a condition on the store that
lasts. -/
theorem of_uses {allowed : S.Act → Prop} {m : Handler S ε ρ α} (uses : HandlerUses allowed m)
    (may : ∀ op, allowed op → ∀ s, D.May op s) {J : σ → Prop} (stable : D.Stable J)
    : Heeding D (fun _ s => J s) m (fun _ _ s => J s) :=
  fun r s start => (Prog.Heeds.of_uses (uses r) may).mono (fun _ t moved => stable s t start moved)

end Heeding

/-- In a pool of programs that heed a discipline the store moves on, and what all actions keep
lasts, whatever the order of their actions.
Witness: induction on the schedule; an action of one program is for the others a move of the
store.
-/
theorem Pool.heeds_run [DecidableEq ι] {Q : ι → α → σ → Prop} {I : σ → Prop}
    (keeps : ∀ op s, D.May op s → I s → I (exec op s).2) (schedule : List ι)
    {pool : Pool S ε α σ ι} (heeds : ∀ i, (pool.threads i).Heeds D (Q i) pool.store)
    (start : I pool.store)
    : D.Later pool.store (pool.run exec schedule).store
      ∧ I (pool.run exec schedule).store
      ∧ ∀ i, ((pool.run exec schedule).threads i).Heeds D (Q i) (pool.run exec schedule).store := by
  induction schedule generalizing pool with
  | nil => exact ⟨D.refl _, start, heeds⟩
  | cons i rest ih =>
      rw [Pool.run_cons]
      rcases Pool.step_cases exec pool i with ⟨idle, -⟩ | ⟨op, next, thread, stepped⟩
      · rw [idle]
        exact ih heeds start
      · have acts := heeds i
        rw [thread] at acts
        obtain ⟨may, continues⟩ := acts pool.store (D.refl _)
        have moved : D.Later pool.store (pool.step exec i).store := by
          rw [stepped]
          exact D.moves op pool.store may
        have heeds' (j : ι)
            : ((pool.step exec i).threads j).Heeds D (Q j) (pool.step exec i).store := by
          rw [stepped]
          by_cases same : j = i
          · subst same
            simpa only [Function.update_self] using continues
          · simpa only [Function.update_of_ne same] using
              (heeds j).later (D.moves op pool.store may)
        have start' : I (pool.step exec i).store := by
          rw [stepped]
          exact keeps op pool.store may start
        obtain ⟨onward, kept, further⟩ := ih heeds' start'
        exact ⟨D.trans moved onward, kept, further⟩

end Atomic
