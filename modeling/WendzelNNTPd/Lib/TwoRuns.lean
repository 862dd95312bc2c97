import WendzelNNTPd.Lib.Handler

/-! Rules for two runs: two handlers, each running alone with a local state and a store of its
own, end alike. -/

namespace Atomic

variable {S : Signature} {ε ρ α β α' β' σ : Type}

/-- Both programs return in `Q`, or both are stopped in `E`. -/
def Prog.Both (exec : Exec S σ) (p : Prog S ε α) (p' : Prog S ε α')
    (Q : α → σ → α' → σ → Prop) (E : ε → σ → ε → σ → Prop) (s s' : σ)
    : Prop :=
  match p.run exec s, p'.run exec s' with
  | (.ok a, t), (.ok a', t') => Q a t a' t'
  | (.error reason, t), (.error reason', t') => E reason t reason' t'
  | _, _ => False

namespace Prog

variable {exec : Exec S σ} {E : ε → σ → ε → σ → Prop}

theorem Both.mono {p : Prog S ε α} {p' : Prog S ε α'} {Q R : α → σ → α' → σ → Prop} {s s' : σ}
    (both : p.Both exec p' Q E s s') (imp : ∀ a t a' t', Q a t a' t' → R a t a' t')
    : p.Both exec p' R E s s' := by
  unfold Both at *
  split at both
  · exact imp _ _ _ _ both
  · exact both
  · exact both

theorem Both.bind {p : Prog S ε α} {p' : Prog S ε α'} {f : α → Prog S ε β} {f' : α' → Prog S ε β'}
    {Q : β → σ → β' → σ → Prop} {s s' : σ}
    (both : p.Both exec p' (fun a t a' t' => (f a).Both exec (f' a') Q E t t') E s s')
    : (p >>= f).Both exec (p' >>= f') Q E s s' := by
  unfold Both at both
  split at both
  · rename_i a t a' t' first first'
    unfold Both
    rw [run_bind, run_bind, first, first']
    exact both
  · rename_i reason t reason' t' first first'
    unfold Both
    rw [run_bind, run_bind, first, first']
    exact both
  · exact both.elim

end Prog

/-- From local states and stores in `P` the two handlers, each running alone, both return in
`Q`, or both are stopped in `E`. -/
def Coupled (exec : Exec S σ) (P : ρ → σ → ρ → σ → Prop) (m : Handler S ε ρ α)
    (m' : Handler S ε ρ α') (Q : α → ρ → σ → α' → ρ → σ → Prop) (E : ε → σ → ε → σ → Prop)
    : Prop :=
  ∀ r s r' s', P r s r' s' →
    (m.run r).Both exec (m'.run r') (fun out t out' t' => Q out.1 out.2 t out'.1 out'.2 t') E s s'

namespace Coupled

variable {exec : Exec S σ} {P P' : ρ → σ → ρ → σ → Prop} {E : ε → σ → ε → σ → Prop}

theorem weaken {m : Handler S ε ρ α} {m' : Handler S ε ρ α'}
    {Q Q' : α → ρ → σ → α' → ρ → σ → Prop} (h : Coupled exec P m m' Q E)
    (pre : ∀ r s r' s', P' r s r' s' → P r s r' s')
    (post : ∀ a r s a' r' s', Q a r s a' r' s' → Q' a r s a' r' s')
    : Coupled exec P' m m' Q' E := by
  intro r s r' s' start
  exact (h r s r' s' (pre r s r' s' start)).mono (fun out t out' t' => post _ _ _ _ _ _)

theorem pure {a : α} {a' : α'} {Q : α → ρ → σ → α' → ρ → σ → Prop}
    (h : ∀ r s r' s', P r s r' s' → Q a r s a' r' s')
    : Coupled exec P (Pure.pure a : Handler S ε ρ α) (Pure.pure a' : Handler S ε ρ α') Q E :=
  h

theorem bind {m : Handler S ε ρ α} {m' : Handler S ε ρ α'} {f : α → Handler S ε ρ β}
    {f' : α' → Handler S ε ρ β'} {R : α → ρ → σ → α' → ρ → σ → Prop}
    {Q : β → ρ → σ → β' → ρ → σ → Prop} (first : Coupled exec P m m' R E)
    (rest : ∀ a a', Coupled exec (fun r s r' s' => R a r s a' r' s') (f a) (f' a') Q E)
    : Coupled exec P (m >>= f) (m' >>= f') Q E := by
  intro r s r' s' start
  rw [StateT.run_bind, StateT.run_bind]
  apply Prog.Both.bind
  exact (first r s r' s' start).mono (fun out t out' t' mid => rest _ _ _ _ _ _ mid)

/-- What both have read are local states in which the precondition held. -/
theorem read {f : ρ → Handler S ε ρ α} {f' : ρ → Handler S ε ρ α'}
    {Q : α → ρ → σ → α' → ρ → σ → Prop}
    (rest : ∀ r r', (∃ s s', P r s r' s') → Coupled exec P (f r) (f' r') Q E)
    : Coupled exec P (get >>= f) (get >>= f') Q E :=
  fun r s r' s' start => rest r r' ⟨s, s', start⟩ r s r' s' start

theorem modify {g g' : ρ → ρ} {Q : PUnit → ρ → σ → PUnit → ρ → σ → Prop}
    (h : ∀ r s r' s', P r s r' s' → Q ⟨⟩ (g r) s ⟨⟩ (g' r') s')
    : Coupled exec P (modify g : Handler S ε ρ PUnit) (modify g' : Handler S ε ρ PUnit) Q E :=
  h

/-- Both take the same branch of a test. -/
theorem ite {c c' : Prop} [Decidable c] [Decidable c'] {m n : Handler S ε ρ α}
    {m' n' : Handler S ε ρ α'} {Q : α → ρ → σ → α' → ρ → σ → Prop} (same : c ↔ c')
    (yes : c → c' → Coupled exec P m m' Q E) (no : ¬c → ¬c' → Coupled exec P n n' Q E)
    : Coupled exec P (if c then m else n) (if c' then m' else n') Q E := by
  by_cases h : c
  · rw [if_pos h, if_pos (same.mp h)]
    exact yes h (same.mp h)
  · rw [if_neg h, if_neg (fun h' => h (same.mpr h'))]
    exact no h (fun h' => h (same.mpr h'))

/-- Loops over the same list. -/
theorem forM {γ : Type} {I : ρ → σ → ρ → σ → Prop} {f f' : γ → Handler S ε ρ PUnit} (l : List γ)
    (round : ∀ x ∈ l, Coupled exec I (f x) (f' x) (fun _ r s _ r' s' => I r s r' s') E)
    : Coupled exec I (l.forM f) (l.forM f') (fun _ r s _ r' s' => I r s r' s') E := by
  induction l with
  | nil => exact pure (fun _ _ _ _ start => start)
  | cons x xs ih =>
      exact (round x (by simp)).bind
        (fun _ _ => ih (fun y member => round y (List.mem_cons_of_mem x member)))

end Coupled

-----------------------------------------------------------------------------------------
-- Two runs on the same store
-----------------------------------------------------------------------------------------

/-- From local states in `P`, and the same store, the two handlers do the same to the store and
return the same value, with local states in `Q`. -/
def Blind (exec : Exec S σ) (P Q : ρ → ρ → Prop) (m m' : Handler S ε ρ α) : Prop :=
  Coupled exec (fun r s r' s' => P r r' ∧ s = s') m m'
    (fun a r s a' r' s' => a = a' ∧ Q r r' ∧ s = s')
    (fun reason s reason' s' => reason = reason' ∧ s = s')

namespace Blind

variable {exec : Exec S σ} {P P' Q Q' R : ρ → ρ → Prop}

theorem weaken {m m' : Handler S ε ρ α} (h : Blind exec P Q m m')
    (pre : ∀ r r', P' r r' → P r r') (post : ∀ r r', Q r r' → Q' r r')
    : Blind exec P' Q' m m' :=
  Coupled.weaken h (fun r _ r' _ start => ⟨pre r r' start.1, start.2⟩)
    (fun _ r _ _ r' _ done => ⟨done.1, post r r' done.2.1, done.2.2⟩)

theorem pure (a : α) : Blind exec P P (Pure.pure a : Handler S ε ρ α) (Pure.pure a) :=
  Coupled.pure (fun _ _ _ _ start => ⟨rfl, start⟩)

theorem bind {m m' : Handler S ε ρ β} {f f' : β → Handler S ε ρ α} (first : Blind exec P R m m')
    (rest : ∀ b, Blind exec R Q (f b) (f' b))
    : Blind exec P Q (m >>= f) (m' >>= f') := by
  apply Coupled.bind first
  intro b b' r s r' s' mid
  obtain ⟨rfl, mid⟩ := mid
  exact rest b r s r' s' mid

theorem read {f f' : ρ → Handler S ε ρ α}
    (rest : ∀ r r', P r r' → Blind exec P Q (f r) (f' r'))
    : Blind exec P Q (get >>= f) (get >>= f') :=
  Coupled.read (fun r r' start => rest r r' (by obtain ⟨_, _, held⟩ := start; exact held.1))

theorem modify {g g' : ρ → ρ} (h : ∀ r r', P r r' → Q (g r) (g' r'))
    : Blind exec P Q (modify g : Handler S ε ρ PUnit) (modify g') :=
  Coupled.modify (fun r _ r' _ start => ⟨rfl, h r r' start.1, start.2⟩)

theorem ite {c : Prop} [Decidable c] {m m' n n' : Handler S ε ρ α} (yes : Blind exec P Q m m')
    (no : Blind exec P Q n n')
    : Blind exec P Q (if c then m else n) (if c then m' else n') :=
  Coupled.ite Iff.rfl (fun _ _ => yes) (fun _ _ => no)

theorem forM {γ : Type} {f f' : γ → Handler S ε ρ PUnit} (l : List γ)
    (round : ∀ x, Blind exec P P (f x) (f' x))
    : Blind exec P P (l.forM f) (l.forM f') := by
  induction l with
  | nil => exact pure _
  | cons x xs ih => exact (round x).bind (fun _ => ih)

/-- The two runs, read off. -/
theorem run_cases {m m' : Handler S ε ρ α} (h : Blind exec P Q m m') {r r' : ρ}
    (start : P r r') (s : σ)
    : (∃ a t t' s',
        (m.run r).run exec s = (.ok (a, t), s') ∧ (m'.run r').run exec s = (.ok (a, t'), s')
        ∧ Q t t')
      ∨ ∃ reason s',
        (m.run r).run exec s = (.error reason, s')
        ∧ (m'.run r').run exec s = (.error reason, s') := by
  have both := h r s r' s ⟨start, rfl⟩
  unfold Prog.Both at both
  split at both
  · rename_i out t out' t' ran ran'
    obtain ⟨value, related, store⟩ := both
    refine Or.inl ⟨out.1, out.2, out'.2, t, ran, ?_, related⟩
    rw [ran', store, value]
  · rename_i reason t reason' t' ran ran'
    obtain ⟨same, store⟩ := both
    refine Or.inr ⟨reason, t, ran, ?_⟩
    rw [ran', store, same]
  · exact both.elim

/-- A program that both local states give rise to. -/
theorem program {p : ρ → Prog S ε α} (same : ∀ r r', P r r' → p r = p r')
    : Blind exec P P (fun r => p r >>= fun a => Pure.pure (a, r) : Handler S ε ρ α)
        (fun r => p r >>= fun a => Pure.pure (a, r)) := by
  intro r s r' s' start
  obtain ⟨start, rfl⟩ := start
  show Prog.Both exec (p r >>= fun a => Pure.pure (a, r)) (p r' >>= fun a => Pure.pure (a, r')) _ _
    s s
  rw [← same r r' start]
  apply Prog.Both.bind
  unfold Prog.Both
  cases (p r).run exec s with
  | mk end' t =>
      cases end' with
      | ok a => exact ⟨rfl, start, rfl⟩
      | error reason => exact ⟨rfl, rfl⟩

/-- Two handlers that are stopped for the same reason. -/
theorem stop {reason : ρ → ε} (same : ∀ r r', P r r' → reason r = reason r')
    : Blind exec P Q (fun r => .stop (reason r) : Handler S ε ρ α) (fun r => .stop (reason r)) :=
  fun r _ r' _ start => ⟨same r r' start.1, start.2⟩

end Blind

-----------------------------------------------------------------------------------------
-- The same run on two stores
-----------------------------------------------------------------------------------------

/-- The program does the same on both stores, and leaves them as they are. -/
def Prog.Overlooks (exec : Exec S σ) (s s' : σ) (p : Prog S ε α) : Prop :=
  ∃ result, p.run exec s = (result, s) ∧ p.run exec s' = (result, s')

namespace Prog.Overlooks

variable {exec : Exec S σ} {s s' : σ}

theorem done (a : α) : (Prog.done a : Prog S ε α).Overlooks exec s s' := ⟨.ok a, rfl, rfl⟩

theorem stop (reason : ε) : (Prog.stop reason : Prog S ε α).Overlooks exec s s' :=
  ⟨.error reason, rfl, rfl⟩

/-- An action with the same result on both stores, which changes neither. -/
theorem act {op : S.Act} {next : S.Res op → Prog S ε α}
    (same : exec op s' = ((exec op s).1, s')) (leaves : (exec op s).2 = s)
    (rest : (next (exec op s).1).Overlooks exec s s')
    : (Prog.act op next).Overlooks exec s s' := by
  obtain ⟨result, here, there⟩ := rest
  refine ⟨result, ?_, ?_⟩
  · rw [run_act, leaves]
    exact here
  · rw [run_act, same]
    exact there

theorem bind {p : Prog S ε α} {f : α → Prog S ε β} (first : p.Overlooks exec s s')
    (rest : ∀ a, p.run exec s = (.ok a, s) → (f a).Overlooks exec s s')
    : (p >>= f).Overlooks exec s s' := by
  obtain ⟨result, here, there⟩ := first
  cases result with
  | error reason =>
      refine ⟨.error reason, ?_, ?_⟩
      · rw [run_bind, here]
      · rw [run_bind, there]
  | ok a =>
      obtain ⟨result', here', there'⟩ := rest a here
      refine ⟨result', ?_, ?_⟩
      · rw [run_bind, here]
        exact here'
      · rw [run_bind, there]
        exact there'

/-- Another program that runs as this one does on both stores. -/
theorem congr {p q : Prog S ε α} (overlooks : q.Overlooks exec s s')
    (here : p.run exec s = q.run exec s) (there : p.run exec s' = q.run exec s')
    : p.Overlooks exec s s' := by
  obtain ⟨result, ran, ran'⟩ := overlooks
  exact ⟨result, here.trans ran, there.trans ran'⟩

/-- Nothing is asked of the stores. -/
theorem of_uses {p : Prog S ε α} (uses : p.Uses (fun _ => False)) : p.Overlooks exec s s' := by
  cases p with
  | done a => exact done a
  | stop reason => exact stop reason
  | act op next => exact uses.1.elim

end Prog.Overlooks

/-- The handler does the same on both stores, from every local state. -/
def Overlooks (exec : Exec S σ) (s s' : σ) (m : Handler S ε ρ α) : Prop :=
  ∀ r, (m.run r).Overlooks exec s s'

namespace Overlooks

variable {exec : Exec S σ} {s s' : σ}

theorem pure (a : α) : Overlooks exec s s' (Pure.pure a : Handler S ε ρ α) :=
  fun _ => Prog.Overlooks.done _

theorem modify (g : ρ → ρ) : Overlooks exec s s' (modify g : Handler S ε ρ PUnit) :=
  fun _ => Prog.Overlooks.done _

theorem bind {m : Handler S ε ρ β} {f : β → Handler S ε ρ α} (first : Overlooks exec s s' m)
    (rest : ∀ b, Overlooks exec s s' (f b))
    : Overlooks exec s s' (m >>= f) :=
  fun r => Prog.Overlooks.bind (first r) (fun out _ => rest out.1 out.2)

theorem read {f : ρ → Handler S ε ρ α} (rest : ∀ r, Overlooks exec s s' (f r))
    : Overlooks exec s s' (get >>= f) :=
  fun r => rest r r

theorem ite {c : Prop} [Decidable c] {m n : Handler S ε ρ α} (yes : Overlooks exec s s' m)
    (no : Overlooks exec s s' n)
    : Overlooks exec s s' (if c then m else n) := by
  split
  · exact yes
  · exact no

theorem forM {γ : Type} {f : γ → Handler S ε ρ PUnit} (l : List γ)
    (round : ∀ x ∈ l, Overlooks exec s s' (f x))
    : Overlooks exec s s' (l.forM f) := by
  induction l with
  | nil => exact pure _
  | cons x rest ih =>
      exact (round x (by simp)).bind
        (fun _ => ih (fun y member => round y (List.mem_cons_of_mem x member)))

theorem of_uses {m : Handler S ε ρ α} (uses : HandlerUses (fun _ => False) m)
    : Overlooks exec s s' m :=
  fun r => Prog.Overlooks.of_uses (uses r)

end Overlooks

end Atomic
