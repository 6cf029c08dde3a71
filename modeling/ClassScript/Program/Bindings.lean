namespace ClassScript

inductive Literal where
  | bool (value : Bool)
  | number (value : Float)
  | text (value : String)

/-- Values by name. The names ascend, so that equal contents are equal. -/
structure Bindings where
  entries : List (String × Literal)
  ascending : entries.Pairwise fun earlier later => earlier.1 < later.1

namespace Bindings

def empty : Bindings := ⟨[], .nil⟩

def insertEntry (entry : String × Literal) : List (String × Literal) → List (String × Literal)
  | [] => [entry]
  | other :: later =>
    if entry.1 < other.1 then entry :: other :: later
    else if other.1 < entry.1 then other :: insertEntry entry later
    else other :: later

theorem mem_insertEntry {entry other : String × Literal} {entries : List (String × Literal)}
    (member : other ∈ insertEntry entry entries) : other = entry ∨ other ∈ entries := by
  induction entries with
  | nil => exact Or.inl (List.mem_singleton.mp member)
  | cons head tail ih =>
    unfold insertEntry at member
    split at member
    · rcases List.mem_cons.mp member with same | member
      · exact Or.inl same
      · exact Or.inr member
    · split at member
      · rcases List.mem_cons.mp member with same | member
        · exact Or.inr (List.mem_cons.mpr (Or.inl same))
        · rcases ih member with same | member
          · exact Or.inl same
          · exact Or.inr (List.mem_cons_of_mem _ member)
      · exact Or.inr member

theorem insertEntry_ascending {entry : String × Literal} {entries : List (String × Literal)}
    (ascending : entries.Pairwise fun earlier later => earlier.1 < later.1) :
    (insertEntry entry entries).Pairwise fun earlier later => earlier.1 < later.1 := by
  induction entries with
  | nil => exact List.pairwise_singleton _ _
  | cons head tail ih =>
    obtain ⟨first, rest⟩ := List.pairwise_cons.mp ascending
    unfold insertEntry
    split
    · rename_i before
      refine List.pairwise_cons.mpr ⟨?_, ascending⟩
      intro other member
      rcases List.mem_cons.mp member with rfl | member
      · exact before
      · exact String.lt_trans before (first other member)
    · split
      · rename_i behind
        refine List.pairwise_cons.mpr ⟨?_, ih rest⟩
        intro other member
        rcases mem_insertEntry member with rfl | member
        · exact behind
        · exact first other member
      · exact ascending

def insert (entry : String × Literal) (bindings : Bindings) : Bindings :=
  ⟨insertEntry entry bindings.entries, insertEntry_ascending bindings.ascending⟩

def ofList (entries : List (String × Literal)) : Bindings := entries.foldr insert empty

theorem insertEntry_of_first {entry : String × Literal} {entries : List (String × Literal)}
    (first : ∀ later ∈ entries, entry.1 < later.1) : insertEntry entry entries = entry :: entries := by
  cases entries with
  | nil => rfl
  | cons head tail => simp [insertEntry, first head (List.mem_cons_self ..)]

theorem entries_ofList {entries : List (String × Literal)}
    (ascending : entries.Pairwise fun earlier later => earlier.1 < later.1) : (ofList entries).entries = entries := by
  induction entries with
  | nil => rfl
  | cons head tail ih =>
    obtain ⟨first, rest⟩ := List.pairwise_cons.mp ascending
    have inner : (ofList tail).entries = tail := ih rest
    calc (ofList (head :: tail)).entries = insertEntry head (ofList tail).entries := rfl
      _ = head :: tail := by rw [inner, insertEntry_of_first first]

theorem ofList_entries (bindings : Bindings) : ofList bindings.entries = bindings := by
  have same := entries_ofList bindings.ascending
  cases bindings
  generalize ofList _ = other at same ⊢
  cases other
  cases same
  rfl

end Bindings

end ClassScript
