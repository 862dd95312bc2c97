import Mathlib.Data.List.Basic
import Mathlib.Data.List.TakeWhile

/-! The words of a list: its maximal runs without a separator. A list can be cut into pieces at
some of its separators first; each piece then has a group of words.
-/

namespace Words

variable {α : Type*} (sep cut : α → Bool)

/-- The words of a list, from left to right. -/
def words (l : List α) : List (List α) := (l.splitOnP sep).filter (fun word => !word.isEmpty)

/-- The words of each piece between two cuts; a piece without a word is left out. -/
def groups (l : List α) : List (List (List α)) :=
  ((l.splitOnP cut).map (words sep)).filter (fun group => !group.isEmpty)

variable {sep cut}

/-- A list splits into a first piece and the rest. -/
theorem exists_splitOnP (p : α → Bool) (l : List α)
    : ∃ first rest, l.splitOnP p = first :: rest :=
  List.exists_cons_of_ne_nil (List.splitOnP_ne_nil p l)

@[simp] theorem words_nil : words sep [] = [] := rfl

/-- A separator at the head belongs to no word. -/
theorem words_cons_of_sep {c : α} {l : List α} (separates : sep c = true)
    : words sep (c :: l) = words sep l := by
  simp [words, List.splitOnP_cons_eq_if_modifyHead, separates]

/-- The first piece is what stands before the first separator. -/
theorem splitOnP_head {p : α → Bool} {l first : List α} {rest : List (List α)}
    (split : l.splitOnP p = first :: rest)
    : first = l.takeWhile (fun c => !p c) := by
  induction l generalizing first rest with
  | nil =>
      cases split
      rfl
  | cons c l ih =>
      rw [List.splitOnP_cons_eq_if_modifyHead] at split
      by_cases here : p c = true
      · rw [if_pos here] at split
        cases split
        simp [here]
      · obtain ⟨next, others, inner⟩ := exists_splitOnP p l
        rw [if_neg here, inner, List.modifyHead_cons] at split
        cases split
        simp [here, ih inner]

/-- Any other element at the head begins the first word. -/
theorem head?_words_of_not {c : α} {l : List α} (plain : ¬sep c = true)
    : (words sep (c :: l)).head? = some ((c :: l).takeWhile (fun d => !sep d)) := by
  obtain ⟨first, rest, split⟩ := exists_splitOnP sep (c :: l)
  have run := splitOnP_head split
  have nonempty : (!first.isEmpty) = true := by
    rw [run]
    simp [plain]
  rw [words, split, List.filter_cons, if_pos nonempty, List.head?_cons, run]

/-- At a cut the groups start afresh. -/
theorem groups_cons_of_cut {c : α} {l : List α} (cuts : cut c = true)
    : groups sep cut (c :: l) = groups sep cut l := by
  simp [groups, List.splitOnP_cons_eq_if_modifyHead, cuts]

/-- Another element goes to the first piece. -/
theorem groups_cons_of_not {c : α} {l first : List α} {rest : List (List α)}
    (whole : ¬cut c = true) (split : l.splitOnP cut = first :: rest)
    : groups sep cut (c :: l)
      = ((words sep (c :: first)) :: rest.map (words sep)).filter
          (fun group => !group.isEmpty) := by
  rw [groups, List.splitOnP_cons_eq_if_modifyHead, if_neg whole, split, List.modifyHead_cons,
    List.map_cons]

/-- A separator that is no cut changes no group. -/
theorem groups_cons_of_sep {c : α} {l : List α} (whole : ¬cut c = true)
    (separates : sep c = true)
    : groups sep cut (c :: l) = groups sep cut l := by
  obtain ⟨first, rest, split⟩ := exists_splitOnP cut l
  rw [groups_cons_of_not whole split, words_cons_of_sep separates, groups, split, List.map_cons]

theorem ne_nil_of_mem_groups {l : List α} {group : List (List α)}
    (member : group ∈ groups sep cut l)
    : group ≠ [] := by
  have nonempty := (List.mem_filter.mp member).2
  simpa using nonempty

theorem words_append_of_sep {c : α} (separates : sep c = true) (front rest : List α)
    : words sep (front ++ c :: rest) = words sep front ++ words sep rest := by
  rw [words, List.splitOnP_append_cons _ _ separates, List.filter_append]
  rfl

theorem groups_append_of_cut {c : α} (cuts : cut c = true) (front rest : List α)
    : groups sep cut (front ++ c :: rest) = groups sep cut front ++ groups sep cut rest := by
  rw [groups, List.splitOnP_append_cons _ _ cuts, List.map_append, List.filter_append]
  rfl

/-- The groups hold the words in their order, if every cut is a separator.
Witness: induction on the length; a list with a cut falls into two shorter ones.
-/
theorem flatten_groups (separates : ∀ c, cut c = true → sep c = true) (l : List α)
    : (groups sep cut l).flatten = words sep l := by
  induction size : l.length using Nat.strong_induction_on generalizing l with
  | _ n ih =>
      by_cases whole : ∀ c ∈ l, cut c = false
      · rw [groups, List.splitOnP_eq_singleton whole]
        cases here : words sep l <;> simp [here]
      · simp only [not_forall, Bool.not_eq_false] at whole
        obtain ⟨c, member, cuts⟩ := whole
        obtain ⟨front, rest, rfl⟩ := List.append_of_mem member
        rw [List.length_append, List.length_cons] at size
        rw [groups_append_of_cut cuts, List.flatten_append, ih front.length (by omega) front rfl,
          ih rest.length (by omega) rest rfl, words_append_of_sep (separates c cuts)]

/-- An element that is no separator begins the first group with the first word of the list. -/
theorem groups_cons_of_plain (separates : ∀ c, cut c = true → sep c = true) {c : α}
    {l first : List α} {rest : List (List α)} (plain : ¬sep c = true)
    (split : l.splitOnP cut = first :: rest)
    : ∃ group, group.head? = some ((c :: l).takeWhile (fun d => !sep d))
      ∧ groups sep cut (c :: l)
        = group :: (rest.map (words sep)).filter (fun group => !group.isEmpty) := by
  have some := @head?_words_of_not _ sep c first plain
  have nonempty : words sep (c :: first) ≠ [] := by
    intro empty
    rw [empty] at some
    cases some
  have parts := @groups_cons_of_not _ sep cut c l first rest (mt (separates c) plain) split
  rw [List.filter_cons, if_pos (by simpa using nonempty)] at parts
  have begins := @head?_words_of_not _ sep c l plain
  rw [← flatten_groups separates, parts, List.flatten_cons,
    List.head?_append_of_ne_nil _ nonempty] at begins
  exact ⟨words sep (c :: first), begins, parts⟩

/-- The first element of a part of a concatenation, by its place in the whole.
Witness: induction on the parts; each of them takes its own length off the index.
-/
theorem head?_getElem?_eq_flatten {gs : List (List α)} (nonempty : ∀ g ∈ gs, g ≠ [])
    (n : Nat)
    : gs[n]?.bind List.head? = gs.flatten[(gs.take n).flatten.length]? := by
  induction gs generalizing n with
  | nil => rfl
  | cons g gs ih =>
      cases n with
      | zero =>
          obtain ⟨first, others, rfl⟩ :=
            List.exists_cons_of_ne_nil (nonempty g (List.mem_cons_self ..))
          rfl
      | succ n =>
          have later := ih (fun other there => nonempty other (List.mem_cons_of_mem g there)) n
          rw [List.getElem?_cons_succ, later, List.take_succ_cons, List.flatten_cons,
            List.flatten_cons, List.length_append,
            List.getElem?_append_right (Nat.le_add_right _ _), Nat.add_sub_cancel_left]

/-- Parts that are not empty have at least one element each, and exactly one each if there are as
many elements as parts. -/
theorem length_flatten_parts {gs : List (List α)} (nonempty : ∀ g ∈ gs, g ≠ [])
    : gs.length ≤ gs.flatten.length
      ∧ (gs.flatten.length = gs.length ↔ ∀ g ∈ gs, g.length = 1) := by
  induction gs with
  | nil => simp
  | cons g gs ih =>
      obtain ⟨le, same⟩ := ih (fun other there => nonempty other (List.mem_cons_of_mem g there))
      have one : 1 ≤ g.length := List.length_pos_iff.mpr (nonempty g (List.mem_cons_self ..))
      rw [List.flatten_cons, List.length_append, List.length_cons, List.forall_mem_cons, ← same]
      omega

end Words
