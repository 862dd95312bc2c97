import WendzelNNTPd.Lib.CString

/-! Allocations whose every access is checked, and loops over them that are given a number of
rounds. A loop that ends within its rounds and never leaves the allocation has a result.
-/

namespace Allocation

open CString

/-- Why there is no result: an access outside the allocation, or rounds that do not suffice. -/
inductive Fault
  | outside (index : Nat)
  | running
  deriving DecidableEq, Repr

@[simp] theorem ok_bind {α β : Type} (a : α) (next : α → Except Fault β)
    : (Except.ok a >>= next) = next a := rfl

section Access

variable {α : Type*}

def load (cells : List α) (i : Nat) : Except Fault α :=
  match cells[i]? with
  | some c => .ok c
  | none => .error (.outside i)

def store (cells : List α) (i : Nat) (c : α) : Except Fault (List α) :=
  if i < cells.length then .ok (cells.set i c) else .error (.outside i)

theorem load_of_some {cells : List α} {i : Nat} {c : α} (there : cells[i]? = some c)
    : load cells i = .ok c := by
  rw [load, there]

theorem store_of_lt {cells : List α} {i : Nat} (inside : i < cells.length) (c : α)
    : store cells i c = .ok (cells.set i c) :=
  if_pos inside

end Access

/-- The loop of `strlen`, from index `i` on. -/
def strlen (cells : Str) : Nat → Nat → Except Fault Nat
  | 0, _ => .error .running
  | rounds + 1, i => do
      let c ← load cells i
      if c = NUL then pure i else strlen cells rounds (i + 1)

/-- `strncasecmp(cells + i, key, strlen(key)) == 0` -/
def strncasecmp (cells : Str) (i : Nat) : Str → Except Fault Bool
  | [] => pure true
  | k :: ks => do
      let c ← load cells i
      if c.toLower = k.toLower then strncasecmp cells (i + 1) ks else pure false

/-- `strlen` ends at the first NUL.
Witness: induction on the rounds; a round is spent on each byte of the text.
-/
theorem strlen_eq {text tail : Str} (nul : NUL ∉ text) {rounds i : Nat}
    (within : i ≤ text.length)
    (enough : text.length < rounds + i)
    : strlen (text ++ NUL :: tail) rounds i = .ok text.length := by
  induction rounds generalizing i with
  | zero => omega
  | succ rounds ih =>
      rw [strlen]
      rcases Nat.lt_or_eq_of_le within with before | rfl
      · have there : (text ++ NUL :: tail)[i]? = some text[i] := by
          rw [List.getElem?_append_left before, List.getElem?_eq_getElem before]
        have other : ¬text[i] = NUL := fun same => nul (same ▸ List.getElem_mem before)
        rw [load_of_some there, ok_bind, if_neg other]
        exact ih before (by omega)
      · have there : (text ++ NUL :: tail)[text.length]? = some NUL := by simp
        rw [load_of_some there, ok_bind, if_pos rfl]
        rfl

/-- A comparison does not pass a byte that no letter of the key stands for.
Witness: induction on the key; each letter that is equal leaves that byte further on.
-/
theorem strncasecmp_eq {cells key : Str} {i stop : Nat} {c : Char} (stands : cells[stop]? = some c)
    (other : c.toLower ∉ key.map Char.toLower) (before : i ≤ stop)
    : strncasecmp cells i key = .ok (caseEqPrefix key (cells.drop i))
      ∧ (caseEqPrefix key (cells.drop i) = true → i + key.length ≤ stop) := by
  obtain ⟨inside, -⟩ := List.getElem?_eq_some_iff.mp stands
  induction key generalizing i with
  | nil => exact ⟨by rw [caseEqPrefix]; rfl, fun _ => before⟩
  | cons k ks ih =>
      have within : i < cells.length := Nat.lt_of_le_of_lt before inside
      have there := List.getElem?_eq_getElem within
      rw [List.map_cons, List.mem_cons, not_or] at other
      rw [strncasecmp, load_of_some there, ok_bind, List.drop_eq_getElem_cons within, caseEqPrefix]
      by_cases same : cells[i].toLower = k.toLower
      · have further : i ≠ stop := by
          rintro rfl
          obtain rfl : cells[i] = c := Option.some.inj (there.symm.trans stands)
          exact other.1 same
        have next : i + 1 ≤ stop := by omega
        obtain ⟨compared, room⟩ := ih other.2 next
        rw [← same, beq_self_eq_true, Bool.true_and]
        refine ⟨(if_pos rfl).trans compared, fun found => ?_⟩
        have rest := room found
        rw [List.length_cons]
        omega
      · have differ : (k.toLower == cells[i].toLower) = false :=
          beq_eq_false_iff_ne.mpr (Ne.symm same)
        rw [differ, Bool.false_and]
        refine ⟨if_neg same, fun found => ?_⟩
        cases found

end Allocation
