import WendzelNNTPd.Lib.Prog

/-! Rules of pre- and postconditions for handlers: programs with a local state of their own
besides the store they share.
-/

namespace Atomic

/-- A program with a local state of type `ρ`. -/
abbrev Handler (S : Signature) (ε ρ α : Type) := StateT ρ (Prog S ε) α

variable {S : Signature} {ε ρ α β σ : Type}

section Run

variable {exec : Exec S σ} {m : Handler S ε ρ β} {f : β → Handler S ε ρ α} {r : ρ} {s s' : σ}

/-- A handler goes on behind a part that returned. -/
theorem run_bind_ok {b : β} {r' : ρ} (first : (m.run r).run exec s = (.ok (b, r'), s'))
    : ((m >>= f).run r).run exec s = ((f b).run r').run exec s' := by
  rw [StateT.run_bind, Prog.run_bind, first]

/-- A handler ends where a part of it was stopped. -/
theorem run_bind_error {reason : ε} (first : (m.run r).run exec s = (.error reason, s'))
    : ((m >>= f).run r).run exec s = (.error reason, s') := by
  rw [StateT.run_bind, Prog.run_bind, first]

end Run

/-- From local states and stores in `P` the handler, running alone, returns in `Q` or is
stopped in `E`. -/
def Ensures (exec : Exec S σ) (P : ρ → σ → Prop) (m : Handler S ε ρ α)
    (Q : α → ρ → σ → Prop) (E : ε → σ → Prop)
    : Prop :=
  ∀ r s, P r s → (m.run r).wp exec (fun out => Q out.1 out.2) E s

namespace Ensures

variable {exec : Exec S σ} {P P' : ρ → σ → Prop} {Q Q' : α → ρ → σ → Prop}
  {E : ε → σ → Prop}

theorem weaken {m : Handler S ε ρ α} (h : Ensures exec P m Q E)
    (pre : ∀ r s, P' r s → P r s) (post : ∀ a r s, Q a r s → Q' a r s)
    : Ensures exec P' m Q' E := by
  intro r s start
  exact Prog.wp_mono exec (h r s (pre r s start)) (fun out s' => post out.1 out.2 s')
    (fun _ _ stopped => stopped)

theorem pre {m : Handler S ε ρ α} (h : Ensures exec P m Q E)
    (imp : ∀ r s, P' r s → P r s)
    : Ensures exec P' m Q E :=
  h.weaken imp (fun _ _ _ done => done)

theorem post {m : Handler S ε ρ α} (h : Ensures exec P m Q E)
    (imp : ∀ a r s, Q a r s → Q' a r s)
    : Ensures exec P m Q' E :=
  h.weaken (fun _ _ start => start) imp

theorem pure {a : α} (h : ∀ r s, P r s → Q a r s)
    : Ensures exec P (Pure.pure a : Handler S ε ρ α) Q E :=
  h

theorem bind {R : β → ρ → σ → Prop} {m : Handler S ε ρ β} {f : β → Handler S ε ρ α}
    (first : Ensures exec P m R E) (rest : ∀ b, Ensures exec (R b) (f b) Q E)
    : Ensures exec P (m >>= f) Q E := by
  intro r s start
  rw [StateT.run_bind, Prog.wp_bind]
  exact Prog.wp_mono exec (first r s start) (fun out s' mid => rest out.1 out.2 s' mid)
    (fun _ _ stopped => stopped)

/-- Reading the local state fixes it for the rest of the handler. -/
theorem get_bind {f : ρ → Handler S ε ρ α}
    (rest : ∀ r, Ensures exec (fun r' s => r' = r ∧ P r s) (f r) Q E)
    : Ensures exec P (get >>= f) Q E :=
  fun r s start => rest r r s ⟨rfl, start⟩

/-- What was read is a local state in which the precondition held. -/
theorem read {f : ρ → Handler S ε ρ α}
    (rest : ∀ r, (∃ s, P r s) → Ensures exec P (f r) Q E)
    : Ensures exec P (get >>= f) Q E :=
  fun r s start => rest r ⟨s, start⟩ r s start

theorem modify {g : ρ → ρ} {Q : PUnit → ρ → σ → Prop} (h : ∀ r s, P r s → Q ⟨⟩ (g r) s)
    : Ensures exec P (modify g : Handler S ε ρ PUnit) Q E :=
  h

/-- One rule for both branches of a test. -/
theorem ite {c : Prop} [Decidable c] {m m' : Handler S ε ρ α}
    (yes : c → Ensures exec P m Q E) (no : ¬c → Ensures exec P m' Q E)
    : Ensures exec P (if c then m else m') Q E := by
  split
  · exact yes ‹_›
  · exact no ‹_›

/-- A loop over a list keeps what each of its rounds keeps. -/
theorem forM {γ : Type} {I : ρ → σ → Prop} {f : γ → Handler S ε ρ PUnit} (l : List γ)
    (round : ∀ x ∈ l, Ensures exec I (f x) (fun _ => I) E)
    : Ensures exec I (l.forM f) (fun _ => I) E := by
  induction l with
  | nil => exact pure (fun _ _ start => start)
  | cons x xs ih =>
      exact (round x (by simp)).bind
        (fun _ => ih (fun y member => round y (List.mem_cons_of_mem x member)))

/-- A handler that only computes a value from the local state and the store. -/
theorem of_run {m : Handler S ε ρ α} {v : ρ → σ → α}
    (ran : ∀ r s, (m.run r).run exec s = (.ok (v r s, r), s))
    : Ensures exec P m (fun a r s => P r s ∧ a = v r s) E := by
  intro r s start
  rw [Prog.wp, ran]
  exact ⟨start, rfl⟩

/-- What a handler ensures, read off its run. -/
theorem run_ok {m : Handler S ε ρ α} (h : Ensures exec P m Q E) {r : ρ} {s : σ}
    (start : P r s) {a : α} {r' : ρ} {s' : σ}
    (ran : (m.run r).run exec s = (.ok (a, r'), s'))
    : Q a r' s' := by
  have done := h r s start
  unfold Prog.wp at done
  rw [ran] at done
  exact done

end Ensures

/-- The handler, running alone, keeps an invariant of its local state and one of the store,
and is stopped only for a reason in `E`. -/
def Keeps (exec : Exec S σ) (I : ρ → Prop) (J : σ → Prop) (E : ε → Prop)
    (m : Handler S ε ρ α)
    : Prop :=
  Ensures exec (fun r s => I r ∧ J s) m (fun _ r s => I r ∧ J s) (fun reason _ => E reason)

namespace Keeps

variable {exec : Exec S σ} {I : ρ → Prop} {J : σ → Prop} {E : ε → Prop}

theorem pure (a : α) : Keeps exec I J E (Pure.pure a : Handler S ε ρ α) :=
  Ensures.pure (fun _ _ start => start)

theorem bind {m : Handler S ε ρ β} {f : β → Handler S ε ρ α}
    (first : Keeps exec I J E m) (rest : ∀ b, Keeps exec I J E (f b))
    : Keeps exec I J E (m >>= f) :=
  Ensures.bind first rest

/-- What was read is a local state in which the invariant holds. -/
theorem get_bind {f : ρ → Handler S ε ρ α} (rest : ∀ r, I r → Keeps exec I J E (f r))
    : Keeps exec I J E (get >>= f) :=
  fun r s start => rest r start.1 r s start

theorem modify {g : ρ → ρ} (h : ∀ r, I r → I (g r))
    : Keeps exec I J E (modify g : Handler S ε ρ PUnit) :=
  Ensures.modify (fun r _ start => ⟨h r start.1, start.2⟩)

theorem ite {c : Prop} [Decidable c] {m m' : Handler S ε ρ α}
    (yes : c → Keeps exec I J E m) (no : ¬c → Keeps exec I J E m')
    : Keeps exec I J E (if c then m else m') :=
  Ensures.ite yes no

theorem forM {γ : Type} {f : γ → Handler S ε ρ PUnit} (l : List γ)
    (round : ∀ x ∈ l, Keeps exec I J E (f x))
    : Keeps exec I J E (l.forM f) :=
  Ensures.forM l round

end Keeps

/-- Every action of the handler is allowed, from any local state and whatever its actions
return. -/
def HandlerUses (allowed : S.Act → Prop) (m : Handler S ε ρ α) : Prop :=
  ∀ r, (m.run r).Uses allowed

namespace HandlerUses

variable {allowed : S.Act → Prop}

theorem pure (a : α) : HandlerUses allowed (Pure.pure a : Handler S ε ρ α) :=
  fun _ => trivial

theorem bind {m : Handler S ε ρ β} {f : β → Handler S ε ρ α}
    (first : HandlerUses allowed m) (rest : ∀ b, HandlerUses allowed (f b))
    : HandlerUses allowed (m >>= f) := by
  intro r
  rw [StateT.run_bind]
  exact (first r).bind (fun out => rest out.1 out.2)

theorem get : HandlerUses allowed (MonadState.get : Handler S ε ρ ρ) := fun _ => trivial

theorem modify (g : ρ → ρ) : HandlerUses allowed (modify g : Handler S ε ρ PUnit) :=
  fun _ => trivial

theorem ite {c : Prop} [Decidable c] {m m' : Handler S ε ρ α}
    (yes : c → HandlerUses allowed m) (no : ¬c → HandlerUses allowed m')
    : HandlerUses allowed (if c then m else m') := by
  split
  · exact yes ‹_›
  · exact no ‹_›

theorem forM {γ : Type} {f : γ → Handler S ε ρ PUnit} (l : List γ)
    (round : ∀ x ∈ l, HandlerUses allowed (f x))
    : HandlerUses allowed (l.forM f) := by
  induction l with
  | nil => exact pure _
  | cons x xs ih =>
      exact (round x (by simp)).bind
        (fun _ => ih (fun y member => round y (List.mem_cons_of_mem x member)))

end HandlerUses

/-- From any local state, the handler performs early actions up to one that turns, and behind
that one only actions it is followed by. -/
def HandlerUsesUntil (early turns : S.Act → Prop) (late : S.Act → S.Act → Prop)
    (m : Handler S ε ρ α)
    : Prop :=
  ∀ r, (m.run r).UsesUntil early turns late

theorem HandlerUses.bind_until {early turns : S.Act → Prop} {late : S.Act → S.Act → Prop}
    {m : Handler S ε ρ β} {f : β → Handler S ε ρ α}
    (first : HandlerUses early m) (rest : ∀ b, HandlerUsesUntil early turns late (f b))
    : HandlerUsesUntil early turns late (m >>= f) := by
  intro r
  rw [StateT.run_bind]
  exact (first r).bind_until (fun out => rest out.1 out.2)

end Atomic
