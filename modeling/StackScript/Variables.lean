import StackScript.Token

/-!
The table of variables. Each name has at most one value, and names are kept in ascending order.
-/

namespace StackScript

structure Variables where
  entries : List (String × Token) := []
deriving DecidableEq, Repr

namespace Variables

def find? (vars : Variables) (name : String) : Option Token :=
  vars.entries.lookup name

def insertEntry (name : String) (value : Token) : List (String × Token) → List (String × Token)
  | [] => [(name, value)]
  | (other, old) :: rest =>
    if name = other then (name, value) :: rest
    else if name < other then (name, value) :: (other, old) :: rest
    else (other, old) :: insertEntry name value rest

/-- Gives a name a value in place of any it had before. -/
def assign (vars : Variables) (name : String) (value : Token) : Variables :=
  ⟨insertEntry name value vars.entries⟩

theorem lookup_insertEntry_self (name : String) (value : Token) (entries : List (String × Token)) :
    (insertEntry name value entries).lookup name = some value := by
  induction entries with
  | nil => simp [insertEntry]
  | cons entry rest ih =>
    obtain ⟨key, old⟩ := entry
    unfold insertEntry
    split
    · simp
    · rename_i hkey
      split
      · simp
      · simp [List.lookup_cons, beq_false_of_ne hkey, ih]

theorem lookup_insertEntry_of_ne {name other : String} (h : other ≠ name) (value : Token)
    (entries : List (String × Token)) :
    (insertEntry name value entries).lookup other = entries.lookup other := by
  have hbeq : (other == name) = false := beq_false_of_ne h
  induction entries with
  | nil => simp [insertEntry, List.lookup_cons, hbeq]
  | cons entry rest ih =>
    obtain ⟨key, old⟩ := entry
    unfold insertEntry
    split
    · rename_i hkey
      simp [List.lookup_cons, ← hkey, hbeq]
    · split
      · simp [List.lookup_cons, hbeq]
      · simp [List.lookup_cons, ih]

theorem mem_insertEntry {name : String} {value : Token} {entry : String × Token}
    {entries : List (String × Token)} (h : entry ∈ insertEntry name value entries) :
    entry = (name, value) ∨ entry ∈ entries := by
  induction entries with
  | nil => exact Or.inl (List.mem_singleton.mp h)
  | cons first rest ih =>
    obtain ⟨key, old⟩ := first
    unfold insertEntry at h
    split at h
    · exact (List.mem_cons.mp h).imp_right (List.mem_cons_of_mem _)
    · split at h
      · exact List.mem_cons.mp h
      · rcases List.mem_cons.mp h with rfl | hrest
        · exact Or.inr List.mem_cons_self
        · exact (ih hrest).imp_right (List.mem_cons_of_mem _)

theorem mem_entries_of_find? {vars : Variables} {name : String} {value : Token}
    (h : vars.find? name = some value) : (name, value) ∈ vars.entries := by
  obtain ⟨before, after, hentries, -⟩ := List.lookup_eq_some_iff.mp h
  rw [hentries]
  exact List.mem_append_right before List.mem_cons_self

@[simp]
theorem find?_assign_self (vars : Variables) (name : String) (value : Token) :
    (vars.assign name value).find? name = some value :=
  lookup_insertEntry_self name value vars.entries

theorem find?_assign_of_ne (vars : Variables) {name other : String} (h : other ≠ name)
    (value : Token) : (vars.assign name value).find? other = vars.find? other :=
  lookup_insertEntry_of_ne h value vars.entries

end Variables

end StackScript
