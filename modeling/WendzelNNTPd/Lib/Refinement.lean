import Mathlib.Data.List.Basic

/-! Systems whose steps are moves of a simpler system. Each step either cannot be seen in the
image of the state, or is one move there that the step permits.
-/

namespace Refinement

/-- A system of states `σ` and steps `ι`, read as one of states `τ` and moves `μ`. The
invariant says which states are considered, `Admits` which steps. -/
structure Mapping (σ ι τ μ : Type) where
  step : σ → ι → σ
  move : τ → μ → τ
  image : σ → τ
  Invariant : σ → Prop
  Admits : ι → Prop
  Permits : σ → ι → μ → Prop
  keeps : ∀ {s i}, Invariant s → Admits i → Invariant (step s i)
  moves
    : ∀ {s i}, Invariant s → Admits i →
        image (step s i) = image s
        ∨ ∃ m, Permits s i m ∧ image (step s i) = move (image s) m

namespace Mapping

variable {σ ι τ μ : Type} {M : Mapping σ ι τ μ} {s : σ} {steps : List ι} {ms : List μ}

/-- The moves that a run stands for, each of them permitted in the state of its step. -/
inductive Follows (M : Mapping σ ι τ μ) : σ → List ι → List μ → Prop
  | nil (s : σ) : M.Follows s [] []
  | stutter {s i steps ms} (same : M.image (M.step s i) = M.image s)
    (rest : M.Follows (M.step s i) steps ms)
    : M.Follows s (i :: steps) ms
  | move {s i m steps ms} (permitted : M.Permits s i m)
    (moved : M.image (M.step s i) = M.move (M.image s) m)
    (rest : M.Follows (M.step s i) steps ms)
    : M.Follows s (i :: steps) (m :: ms)

theorem invariant_run (start : M.Invariant s) (admitted : ∀ i ∈ steps, M.Admits i)
    : M.Invariant (steps.foldl M.step s) := by
  induction steps generalizing s with
  | nil => exact start
  | cons i rest ih =>
      exact ih (M.keeps start (admitted i (by simp)))
        (fun other member => admitted other (List.mem_cons_of_mem _ member))

/-- Every run stands for moves.
Witness: induction on the steps, with the invariant.
-/
theorem exists_follows (start : M.Invariant s) (admitted : ∀ i ∈ steps, M.Admits i)
    : ∃ ms, M.Follows s steps ms := by
  induction steps generalizing s with
  | nil => exact ⟨[], .nil s⟩
  | cons i rest ih =>
      have admits := admitted i (by simp)
      obtain ⟨ms, follows⟩ := ih (M.keeps start admits)
        (fun other member => admitted other (List.mem_cons_of_mem _ member))
      rcases M.moves start admits with same | ⟨m, permitted, moved⟩
      · exact ⟨ms, .stutter same follows⟩
      · exact ⟨m :: ms, .move permitted moved follows⟩

namespace Follows

/-- The moves lead to the image of the last state. -/
theorem image (follows : M.Follows s steps ms)
    : M.image (steps.foldl M.step s) = ms.foldl M.move (M.image s) := by
  induction follows with
  | nil s => rfl
  | stutter same rest ih => exact ih.trans (congrArg (List.foldl M.move · _) same)
  | move permitted moved rest ih => exact ih.trans (congrArg (List.foldl M.move · _) moved)

/-- Every move is one that a step of the run permits in a state that is considered. -/
theorem permitted (follows : M.Follows s steps ms) (start : M.Invariant s)
    (admitted : ∀ i ∈ steps, M.Admits i) {m : μ} (member : m ∈ ms)
    : ∃ i ∈ steps, ∃ t, M.Invariant t ∧ M.Permits t i m := by
  induction follows with
  | nil s => cases member
  | stutter same rest ih =>
      obtain ⟨i, inside, t, permits⟩ := ih (M.keeps start (admitted _ (by simp)))
        (fun other later => admitted other (List.mem_cons_of_mem _ later)) member
      exact ⟨i, List.mem_cons_of_mem _ inside, t, permits⟩
  | @move s i m' steps ms permitted moved rest ih =>
      rcases List.mem_cons.mp member with rfl | later
      · exact ⟨i, by simp, s, start, permitted⟩
      · obtain ⟨j, inside, t, permits⟩ := ih (M.keeps start (admitted _ (by simp)))
          (fun other later => admitted other (List.mem_cons_of_mem _ later)) later
        exact ⟨j, List.mem_cons_of_mem _ inside, t, permits⟩

end Follows

end Mapping

end Refinement
