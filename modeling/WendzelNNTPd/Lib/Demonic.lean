import WendzelNNTPd.Lib.Handler
import WendzelNNTPd.Lib.Pool

/-! What a program does whatever results its actions get. In a pool the others change the store
between any two actions of a thread, so that a thread can rely on nothing about a result but what
a guard says of it. A thread that has only finitely many actions to perform ends in every pool
that does not neglect it.
-/

namespace Atomic

variable {S : Signature} {ε ε' α β σ ρ ι : Type}

/-- Whatever results admitted by `guard` its actions get, the program returns in `Q` and is
stopped in `E`. -/
def Prog.Always (guard : (op : S.Act) → S.Res op → Prop) (Q : α → Prop) (E : ε → Prop)
    : Prog S ε α → Prop
  | .done value => Q value
  | .stop reason => E reason
  | .act op next => ∀ result, guard op result → (next result).Always guard Q E

namespace Prog.Always

variable {guard tighter : (op : S.Act) → S.Res op → Prop} {Q R : α → Prop} {E : ε → Prop}

theorem mono {p : Prog S ε α} (h : p.Always guard Q E) (imp : ∀ value, Q value → R value)
    : p.Always guard R E := by
  induction p with
  | done value => exact imp _ h
  | stop reason => exact h
  | act op next ih => exact fun result admitted => ih _ (h result admitted)

/-- Fewer results may be admitted. -/
theorem tighten {p : Prog S ε α} (h : p.Always guard Q E)
    (results : ∀ op result, tighter op result → guard op result)
    : p.Always tighter Q E := by
  induction p with
  | done value => exact h
  | stop reason => exact h
  | act op next ih => exact fun result admitted => ih _ (h result (results op result admitted))

theorem bind {Q : β → Prop} {p : Prog S ε α} {f : α → Prog S ε β}
    (h : p.Always guard (fun value => (f value).Always guard Q E) E)
    : (p >>= f).Always guard Q E := by
  induction p with
  | done value => exact h
  | stop reason => exact h
  | act op next ih => exact fun result admitted => ih _ (h result admitted)

theorem of_within {allowed : S.Act → Prop} {stops : ε → Prop} {p : Prog S ε α}
    (within : p.Within allowed stops) (ends : ∀ reason, stops reason → E reason)
    : p.Always guard (fun _ => True) E := by
  induction p with
  | done value => trivial
  | stop reason => exact ends reason within
  | act op next ih => exact fun result _ => ih _ (within.2 result)

theorem embed {p : Prog S ε α} (h : p.Always guard Q E) {f : ε → ε'} {g : α → β}
    {R : β → Prop} {E' : ε' → Prop} (returned : ∀ value, Q value → R (g value))
    (stopped : ∀ reason, E reason → E' (f reason))
    : (p.embed f g).Always guard R E' := by
  induction p with
  | done value => exact returned _ h
  | stop reason => exact stopped _ h
  | act op next ih => exact fun result admitted => ih _ (h result admitted)

end Prog.Always

/-- As `Always`, where the first action gets any result that `first` admits. -/
def Prog.AlwaysThen (first later : (op : S.Act) → S.Res op → Prop) (Q : α → Prop) (E : ε → Prop)
    : Prog S ε α → Prop
  | .done value => Q value
  | .stop reason => E reason
  | .act op next => ∀ result, first op result → (next result).Always later Q E

theorem Prog.Always.then {first later : (op : S.Act) → S.Res op → Prop} {Q : α → Prop}
    {E : ε → Prop} {p : Prog S ε α} (h : p.Always first Q E)
    (results : ∀ op result, later op result → first op result)
    : p.AlwaysThen first later Q E := by
  cases p with
  | done value => exact h
  | stop reason => exact h
  | act op next => exact fun result admitted => (h result admitted).tighten results

theorem Prog.AlwaysThen.mono {first later : (op : S.Act) → S.Res op → Prop} {Q R : α → Prop}
    {E : ε → Prop} {p : Prog S ε α} (h : p.AlwaysThen first later Q E)
    (imp : ∀ value, Q value → R value)
    : p.AlwaysThen first later R E := by
  cases p with
  | done value => exact imp _ h
  | stop reason => exact h
  | act op next => exact fun result admitted => (h result admitted).mono imp

theorem Prog.AlwaysThen.embed {first later : (op : S.Act) → S.Res op → Prop} {Q : α → Prop}
    {E : ε → Prop} {p : Prog S ε α} (h : p.AlwaysThen first later Q E) {f : ε → ε'} {g : α → β}
    {R : β → Prop} {E' : ε' → Prop} (returned : ∀ value, Q value → R (g value))
    (stopped : ∀ reason, E reason → E' (f reason))
    : (p.embed f g).AlwaysThen first later R E' := by
  cases p with
  | done value => exact returned _ h
  | stop reason => exact stopped _ h
  | act op next => exact fun result admitted => (h result admitted).embed returned stopped

/-- From local states in `P` the handler, whatever results admitted by `guard` its actions get,
returns in `Q` and is stopped in `E`. -/
def Settles (guard : (op : S.Act) → S.Res op → Prop) (E : ε → Prop) (P : ρ → Prop)
    (m : Handler S ε ρ α) (Q : α → ρ → Prop)
    : Prop :=
  ∀ r, P r → (m.run r).Always guard (fun out => Q out.1 out.2) E

namespace Settles

variable {guard : (op : S.Act) → S.Res op → Prop} {E : ε → Prop} {P P' : ρ → Prop}
  {Q Q' : α → ρ → Prop}

theorem weaken {m : Handler S ε ρ α} (h : Settles guard E P m Q)
    (pre : ∀ r, P' r → P r) (post : ∀ a r, Q a r → Q' a r)
    : Settles guard E P' m Q' :=
  fun r start => (h r (pre r start)).mono (fun out => post out.1 out.2)

theorem pre {m : Handler S ε ρ α} (h : Settles guard E P m Q) (imp : ∀ r, P' r → P r)
    : Settles guard E P' m Q :=
  h.weaken imp (fun _ _ => id)

theorem post {m : Handler S ε ρ α} (h : Settles guard E P m Q) (imp : ∀ a r, Q a r → Q' a r)
    : Settles guard E P m Q' :=
  h.weaken (fun _ => id) imp

theorem pure {a : α} (h : ∀ r, P r → Q a r)
    : Settles guard E P (Pure.pure a : Handler S ε ρ α) Q :=
  h

theorem bind {R : β → ρ → Prop} {m : Handler S ε ρ β} {f : β → Handler S ε ρ α}
    (first : Settles guard E P m R) (rest : ∀ b, Settles guard E (R b) (f b) Q)
    : Settles guard E P (m >>= f) Q := by
  intro r start
  rw [StateT.run_bind]
  exact Prog.Always.bind ((first r start).mono (fun out mid => rest out.1 out.2 mid))

/-- What was read is a local state in which the precondition holds. -/
theorem get_bind {f : ρ → Handler S ε ρ α} (rest : ∀ r, P r → Settles guard E P (f r) Q)
    : Settles guard E P (get >>= f) Q :=
  fun r start => rest r start r start

theorem modify {g : ρ → ρ} {Q : PUnit → ρ → Prop} (h : ∀ r, P r → Q ⟨⟩ (g r))
    : Settles guard E P (modify g : Handler S ε ρ PUnit) Q :=
  h

theorem ite {c : Prop} [Decidable c] {m m' : Handler S ε ρ α}
    (yes : c → Settles guard E P m Q) (no : ¬c → Settles guard E P m' Q)
    : Settles guard E P (if c then m else m') Q := by
  split
  · exact yes ‹_›
  · exact no ‹_›

/-- A loop over a list keeps what each of its rounds keeps. -/
theorem forM {γ : Type} {f : γ → Handler S ε ρ PUnit} (l : List γ)
    (round : ∀ x ∈ l, Settles guard E P (f x) (fun _ => P))
    : Settles guard E P (l.forM f) (fun _ => P) := by
  induction l with
  | nil => exact pure (fun _ start => start)
  | cons x xs ih =>
      exact (round x (List.mem_cons_self ..)).bind
        (fun _ => ih (fun y member => round y (List.mem_cons_of_mem x member)))

end Settles

/-- A thread keeps its promise in every pool in which its actions get admitted results: all but
the first are to be admitted by `later` as well.
Witness: the thread is at its start, or what is left of it makes its promise for `later`.
-/
theorem Pool.run_always [DecidableEq ι] {exec : Exec S σ} {i : ι}
    {first later : (op : S.Act) → S.Res op → Prop} {Q : α → Prop} {E : ε → Prop}
    {start : Prog S ε α} (h : start.AlwaysThen first later Q E) {pool : Pool S ε α σ ι}
    (starts : pool.threads i = start) {schedule : List ι}
    (under : pool.RunsUnder exec
      (fun pool j => j = i → ∀ op next, pool.threads i = .act op next →
        first op (exec op pool.store).1
        ∧ (pool.threads i = start ∨ later op (exec op pool.store).1))
      schedule)
    : (pool.run exec schedule).threads i = start
      ∨ ((pool.run exec schedule).threads i).Always later Q E := by
  refine @Pool.run_invariant S ε α σ ι _ exec _
    (fun pool => pool.threads i = start ∨ (pool.threads i).Always later Q E) ?_ schedule pool
    (Or.inl starts) under
  intro pool j op next inv admitted thread
  by_cases chosen : i = j
  · subst chosen
    apply Or.inr
    show (Function.update pool.threads i _ i).Always later Q E
    rw [Function.update_self]
    obtain ⟨admittedFirst, again⟩ := admitted rfl op next thread
    rcases inv with fresh | left
    · rw [← fresh, thread] at h
      exact h _ admittedFirst
    · rcases again with fresh | admittedLater
      · rw [← fresh, thread] at h
        exact h _ admittedFirst
      · rw [thread] at left
        exact left _ admittedLater
  · show Function.update pool.threads j _ i = start ∨ (Function.update pool.threads j _ i).Always _ _ _
    rw [Function.update_of_ne chosen]
    exact inv

/-- A run under a condition, made of two parts. -/
theorem Pool.RunsUnder.append [DecidableEq ι] {exec : Exec S σ}
    {cond : Pool S ε α σ ι → ι → Prop} {schedule rest : List ι} {pool : Pool S ε α σ ι}
    (first : pool.RunsUnder exec cond schedule)
    (second : (pool.run exec schedule).RunsUnder exec cond rest)
    : pool.RunsUnder exec cond (schedule ++ rest) := by
  induction schedule generalizing pool with
  | nil => exact second
  | cons i others ih => exact ⟨first.1, ih first.2 second⟩

section Fairness

variable [DecidableEq ι]

/-- The pool after the first steps of an infinite schedule. -/
def Pool.after (exec : Exec S σ) (f : Nat → ι) (pool : Pool S ε α σ ι) : Nat → Pool S ε α σ ι
  | 0 => pool
  | n + 1 => (pool.after exec f n).step exec (f n)

variable {exec : Exec S σ} {f : Nat → ι} {pool : Pool S ε α σ ι} {i : ι}

/-- A thread stands still until it is chosen. -/
theorem Pool.after_of_unchosen {n k : Nat} (unchosen : ∀ m, n ≤ m → m < n + k → f m ≠ i)
    : (pool.after exec f (n + k)).threads i = (pool.after exec f n).threads i := by
  induction k with
  | zero => rfl
  | succ k ih =>
      have other : f (n + k) ≠ i := unchosen (n + k) (by omega) (by omega)
      have before := ih (fun m lower upper => unchosen m lower (by omega))
      rw [← before]
      show ((pool.after exec f (n + k)).step exec (f (n + k))).threads i = _
      rcases Pool.step_cases exec (pool.after exec f (n + k)) (f (n + k)) with
        ⟨idle, -⟩ | ⟨op, next, -, stepped⟩
      · rw [idle]
      · rw [stepped]
        exact Function.update_of_ne (Ne.symm other) _ _

/-- A thread that is chosen again and again ends.
Witness: by induction on what is left of its program.
-/
theorem Pool.ends_of_fair (fair : ∀ n, ∃ m, n ≤ m ∧ f m = i)
    : ∃ n, ((pool.after exec f n).threads i).nextAct = none := by
  have ends (p : Prog S ε α)
      : ∀ n, (pool.after exec f n).threads i = p →
          ∃ m, ((pool.after exec f m).threads i).nextAct = none := by
    induction p with
    | done value =>
        intro n is
        exact ⟨n, by rw [is]; rfl⟩
    | stop reason =>
        intro n is
        exact ⟨n, by rw [is]; rfl⟩
    | act op next ih =>
        intro n is
        -- the next time that the thread is chosen
        obtain ⟨chosen, first⟩ := (⟨_, Nat.find_spec (fair n), fun m => Nat.find_min (fair n)⟩
          : ∃ k, (n ≤ k ∧ f k = i) ∧ ∀ m, m < k → ¬(n ≤ m ∧ f m = i))
        obtain ⟨k, rfl⟩ := Nat.exists_eq_add_of_le first.1.1
        have still := @Pool.after_of_unchosen S ε α σ ι _ exec f pool i n k
          (fun m lower upper is => first.2 m upper ⟨lower, is⟩)
        refine ih ((exec op (pool.after exec f (n + k)).store).1) (n + k + 1) ?_
        show ((pool.after exec f (n + k)).step exec (f (n + k))).threads i = _
        rw [first.1.2]
        unfold Pool.step
        rw [still, is]
        exact Function.update_self _ _ _
  exact ends _ 0 rfl

end Fairness

end Atomic
