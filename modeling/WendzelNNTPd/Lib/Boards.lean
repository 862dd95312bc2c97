import Mathlib.Data.List.Basic
import Mathlib.Data.List.Nodup

/-! Boards on which items are put up, one behind the other. An item is addressed by the name of a
board and its position there, which it keeps as long as the board is not taken down.
-/

namespace Boards

/-- A board with its items in the order in which they were put up. -/
structure Board (κ φ ι : Type) where
  name : κ
  flag : φ
  items : List ι

inductive Move (κ φ ι : Type)
  | create (name : κ) (flag : φ)
  | remove (name : κ)
  | reflag (name : κ) (flag : φ)
  | publish (names : List κ) (item : ι)

variable {κ φ ι : Type} [DecidableEq κ]

/-- The boards behind a move; new boards and items come last. -/
def Move.apply (boards : List (Board κ φ ι)) : Move κ φ ι → List (Board κ φ ι)
  | .create name flag => boards ++ [⟨name, flag, []⟩]
  | .remove name => boards.filter (fun b => decide (b.name ≠ name))
  | .reflag name flag =>
      boards.map (fun b => if b.name = name then { b with flag := flag } else b)
  | .publish names item =>
      boards.map (fun b => if b.name ∈ names then { b with items := b.items ++ [item] } else b)

def find (boards : List (Board κ φ ι)) (name : κ) : Option (Board κ φ ι) :=
  boards.find? (fun b => decide (b.name = name))

/-- The item at a position of the board of this name. -/
def itemAt (boards : List (Board κ φ ι)) (name : κ) (position : Nat) : Option ι :=
  (find boards name).bind (fun b => b.items[position]?)

variable {boards : List (Board κ φ ι)} {name : κ} {b : Board κ φ ι} {position : Nat} {item : ι}

theorem mem_of_find (found : find boards name = some b) : b ∈ boards ∧ b.name = name :=
  ⟨List.mem_of_find?_eq_some found, of_decide_eq_true (List.find?_some found :)⟩

theorem find_of_mem (distinct : (boards.map (·.name)).Nodup) (member : b ∈ boards)
    : find boards b.name = some b := by
  obtain ⟨c, found⟩ : ∃ c, find boards b.name = some c := by
    rw [← Option.isSome_iff_exists, find, List.find?_isSome]
    exact ⟨b, member, decide_eq_true rfl⟩
  obtain ⟨inside, named⟩ := mem_of_find found
  rw [found, List.inj_on_of_nodup_map distinct inside member named]

theorem find_eq_none : find boards name = none ↔ ∀ b ∈ boards, b.name ≠ name := by
  simp only [find, List.find?_eq_none, decide_eq_true_eq, ne_eq]

theorem itemAt_eq_some
    : itemAt boards name position = some item
      ↔ ∃ b, find boards name = some b ∧ b.items[position]? = some item := by
  simp only [itemAt, Option.bind_eq_some_iff]

/-- A change that leaves the names alone. -/
theorem find_map {change : Board κ φ ι → Board κ φ ι} (names : ∀ b, (change b).name = b.name)
    : find (boards.map change) name = (find boards name).map change := by
  rw [find, List.find?_map, find]
  simp only [Function.comp_def, names]

/-- An item stays where it is, unless its board is taken down. -/
theorem itemAt_apply (shown : itemAt boards name position = some item) {m : Move κ φ ι}
    (kept : m ≠ .remove name)
    : itemAt (m.apply boards) name position = some item := by
  obtain ⟨b, found, at'⟩ := itemAt_eq_some.mp shown
  rw [itemAt_eq_some]
  cases m with
  | create other flag =>
      refine ⟨b, ?_, at'⟩
      rw [find, Move.apply, List.find?_append]
      exact Option.or_eq_some_iff.mpr (Or.inl found)
  | remove other =>
      have differs : ¬other = name := fun same => kept (congrArg Move.remove same)
      refine ⟨b, ?_, at'⟩
      rw [find, Move.apply, List.find?_filter, ← found, find]
      congr 1
      funext c
      by_cases named : c.name = name
      · simp [named, Ne.symm differs]
      · simp [named]
  | reflag other flag =>
      have changed := @find_map κ φ ι _ boards name
        (fun b => if b.name = other then { b with flag := flag } else b)
        (fun b => by split <;> rfl)
      rw [found] at changed
      refine ⟨_, changed, ?_⟩
      dsimp only
      split
      · exact at'
      · exact at'
  | publish names new =>
      have changed := @find_map κ φ ι _ boards name
        (fun b => if b.name ∈ names then { b with items := b.items ++ [new] } else b)
        (fun b => by split <;> rfl)
      rw [found] at changed
      refine ⟨_, changed, ?_⟩
      dsimp only
      split
      · exact (List.getElem?_append_left (List.getElem?_eq_some_iff.mp at').1).trans at'
      · exact at'

/-- An item stays where it is behind moves that do not take its board down. -/
theorem itemAt_foldl (shown : itemAt boards name position = some item) {ms : List (Move κ φ ι)}
    (kept : Move.remove name ∉ ms)
    : itemAt (ms.foldl Move.apply boards) name position = some item := by
  induction ms generalizing boards with
  | nil => exact shown
  | cons m rest ih =>
      refine ih (itemAt_apply shown ?_) (fun later => kept (List.mem_cons_of_mem _ later))
      rintro rfl
      exact kept (by simp)

end Boards
