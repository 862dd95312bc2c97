import Mathlib.Data.List.Induction
import Mathlib.Data.Set.Basic

/-! Registers. Entries are made and struck one at a time; an entry has parties, other entries that
must be there when it is made and that take it along when they are struck. What is in the register
is then a matter of its history alone.
-/

namespace Register

/-- What the entries rest on; the parties of a party are parties themselves. -/
structure Scheme (φ : Type) where
  parties : φ → List φ
  trans : ∀ {f g h : φ}, f ∈ parties g → g ∈ parties h → f ∈ parties h

inductive Op (φ : Type)
  | enter (f : φ)
  | strike (f : φ)
  deriving DecidableEq, Repr

variable {φ : Type} (A : Scheme φ)

/-- The operation removes the entry, if it is there. -/
def Strikes : Op φ → φ → Prop
  | .enter _, _ => False
  | .strike f, g => g = f ∨ f ∈ A.parties g

/-- An entry is made if its parties are there. -/
def step (S : Set φ) : Op φ → Set φ
  | .enter f => {g | g ∈ S ∨ g = f ∧ ∀ p ∈ A.parties f, p ∈ S}
  | .strike f => {g | g ∈ S ∧ ¬Strikes A (.strike f) g}

def run (S : Set φ) (ops : List (Op φ)) : Set φ := ops.foldl (step A) S

/-- Nothing is there without its parties. -/
def Complete (S : Set φ) : Prop := ∀ f ∈ S, ∀ p ∈ A.parties f, p ∈ S

/-- By the history, the entry was made when its parties stood, and nothing has struck it since. -/
inductive Standing : List (Op φ) → φ → Prop
  | entered {before after : List (Op φ)} {f : φ}
    (parties : ∀ p ∈ A.parties f, Standing before p) (kept : ∀ op ∈ after, ¬Strikes A op f)
    : Standing (before ++ .enter f :: after) f

variable {A} {S : Set φ} {ops : List (Op φ)} {op : Op φ} {f : φ}

theorem complete_step (complete : Complete A S) : Complete A (step A S op) := by
  cases op with
  | enter f =>
      rintro g (there | ⟨rfl, parties⟩) p party
      · exact Or.inl (complete g there p party)
      · exact Or.inl (parties p party)
  | strike f =>
      rintro g ⟨there, kept⟩ p party
      refine ⟨complete g there p party, ?_⟩
      rintro (rfl | above)
      · exact kept (Or.inr party)
      · exact kept (Or.inr (A.trans above party))

theorem complete_run (complete : Complete A S) : Complete A (run A S ops) := by
  induction ops generalizing S with
  | nil => exact complete
  | cons op rest ih => exact ih (complete_step complete)

/-- An entry without one of its parties is not made. -/
theorem step_enter_of_missing {p : φ} (party : p ∈ A.parties f) (missing : p ∉ S)
    : step A S (.enter f) = S := by
  ext g
  constructor
  · rintro (there | ⟨rfl, parties⟩)
    · exact there
    · exact absurd (parties p party) missing
  · exact Or.inl

/-- An entry that is there is not made again. -/
theorem step_enter_of_mem (there : f ∈ S) : step A S (.enter f) = S := by
  ext g
  constructor
  · rintro (old | ⟨rfl, -⟩)
    · exact old
    · exact there
  · exact Or.inl

/-- Where there is no entry, none is struck. -/
theorem step_strike_of_notMem (complete : Complete A S) (missing : f ∉ S)
    : step A S (.strike f) = S := by
  ext g
  constructor
  · exact And.left
  · refine fun there => ⟨there, ?_⟩
    rintro (rfl | above)
    · exact missing there
    · exact missing (complete g there f above)

theorem run_append (ops more : List (Op φ)) : run A S (ops ++ more) = run A (run A S ops) more :=
  List.foldl_append

/-- One operation more: the entry is made, or it stood and is not struck. -/
theorem standing_concat_iff
    : Standing A (ops ++ [op]) f
      ↔ op = .enter f ∧ (∀ p ∈ A.parties f, Standing A ops p)
        ∨ Standing A ops f ∧ ¬Strikes A op f := by
  constructor
  · intro standing
    generalize whole : ops ++ [op] = history at standing
    cases standing with
    | @entered before after f parties kept =>
        rcases List.eq_nil_or_concat after with rfl | ⟨after, last, rfl⟩
        · obtain ⟨rfl, same⟩ := List.append_inj' whole rfl
          exact Or.inl ⟨List.singleton_inj.mp same, parties⟩
        · rw [List.concat_eq_append] at whole kept
          rw [← List.cons_append, ← List.append_assoc] at whole
          obtain ⟨rfl, same⟩ := List.append_inj' whole rfl
          obtain rfl := List.singleton_inj.mp same
          refine Or.inr ⟨.entered parties (fun op member => kept op ?_), kept op ?_⟩
          · exact List.mem_append_left _ member
          · exact List.mem_append_right _ (List.mem_singleton_self op)
  · rintro (⟨rfl, parties⟩ | ⟨standing, kept⟩)
    · exact .entered parties (by simp)
    · cases standing with
      | @entered before after f parties earlier =>
          rw [List.append_assoc]
          refine .entered parties (fun other member => ?_)
          rcases List.mem_append.mp member with old | new
          · exact earlier other old
          · rw [List.mem_singleton.mp new]
            exact kept

/-- The register keeps what stands by its history, and nothing else.
Witness: induction on the history, from its end.
-/
theorem mem_run_iff (f : φ) : f ∈ run A ∅ ops ↔ Standing A ops f := by
  induction ops using List.reverseRecOn generalizing f with
  | nil =>
      refine ⟨fun none => none.elim, fun standing => ?_⟩
      generalize whole : ([] : List (Op φ)) = history at standing
      cases standing with
      | entered => simp at whole
  | append_singleton ops op ih =>
      rw [run_append, standing_concat_iff, ← ih]
      cases op with
      | enter g =>
          constructor
          · rintro (there | ⟨rfl, parties⟩)
            · exact Or.inr ⟨there, id⟩
            · exact Or.inl ⟨rfl, fun p party => (ih p).mp (parties p party)⟩
          · rintro (⟨same, parties⟩ | ⟨there, -⟩)
            · obtain rfl := Op.enter.inj same
              exact Or.inr ⟨rfl, fun p party => (ih p).mpr (parties p party)⟩
            · exact Or.inl there
      | strike g =>
          constructor
          · exact Or.inr
          · rintro (⟨same, -⟩ | kept)
            · cases same
            · exact kept

end Register
