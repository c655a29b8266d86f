/-!
# Maps from names, in the order of the names

A finite map whose keys are texts, kept as the list of its entries in strictly increasing order of
their keys.  Listings of variables, macros, commands and packages follow this order, so it belongs
to the type.
-/

namespace LineShell

/-- A finite map from names, its entries in strictly increasing order of the names. -/
structure NameMap (α : Type) where
  entries : List (String × α)
  sorted : entries.Pairwise (fun a b => a.1 < b.1)

namespace NameMap

variable {α : Type}

/-- The map without entries. -/
def empty : NameMap α := ⟨[], .nil⟩

instance : Inhabited (NameMap α) := ⟨empty⟩

/-- The names in order. -/
def names (map : NameMap α) : List String := map.entries.map Prod.fst

/-- The number of entries. -/
def size (map : NameMap α) : Nat := map.entries.length

/-- Whether there is no entry. -/
def isEmpty (map : NameMap α) : Bool := map.entries.isEmpty

/-- The value under a name. -/
def find? (map : NameMap α) (name : String) : Option α := map.entries.lookup name

/-- Whether there is a value under a name. -/
def contains (map : NameMap α) (name : String) : Bool := (map.find? name).isSome

/-- Puts an entry at its place in an ordered list, in place of one of the same name. -/
def insertEntry (name : String) (value : α) : List (String × α) → List (String × α)
  | [] => [(name, value)]
  | (other, x) :: rest =>
    if name < other then (name, value) :: (other, x) :: rest
    else if name = other then (name, value) :: rest
    else (other, x) :: insertEntry name value rest

theorem lt_of_not_lt_of_ne {a b : String} (h : ¬ a < b) (hne : a ≠ b) : b < a := by
  rcases Std.lt_trichotomy a b with hlt | heq | hgt
  · exact absurd hlt h
  · exact absurd heq hne
  · exact hgt

theorem mem_insertEntry {name : String} {value : α} {entries : List (String × α)}
    {e : String × α} (h : e ∈ insertEntry name value entries) :
    e = (name, value) ∨ e ∈ entries := by
  induction entries with
  | nil => simpa [insertEntry] using h
  | cons head rest ih =>
    obtain ⟨other, x⟩ := head
    rw [insertEntry] at h
    split at h
    · simpa using h
    · split at h
      · rcases List.mem_cons.1 h with h | h
        · exact .inl h
        · exact .inr (List.mem_cons_of_mem _ h)
      · rcases List.mem_cons.1 h with h | h
        · exact .inr (h ▸ List.mem_cons_self)
        · exact (ih h).imp_right (List.mem_cons_of_mem _)

theorem sorted_insertEntry (name : String) (value : α) {entries : List (String × α)}
    (h : entries.Pairwise (fun a b => a.1 < b.1)) :
    (insertEntry name value entries).Pairwise (fun a b => a.1 < b.1) := by
  induction entries with
  | nil => simp [insertEntry]
  | cons head rest ih =>
    obtain ⟨other, x⟩ := head
    rw [List.pairwise_cons] at h
    rw [insertEntry]
    split
    · next hlt =>
      refine List.pairwise_cons.2 ⟨fun e he => ?_, List.pairwise_cons.2 h⟩
      rcases List.mem_cons.1 he with rfl | he
      · exact hlt
      · exact String.lt_trans hlt (h.1 e he)
    · next hnlt =>
      split
      · next heq => exact List.pairwise_cons.2 ⟨fun e he => heq ▸ h.1 e he, h.2⟩
      · next hne =>
        refine List.pairwise_cons.2 ⟨fun e he => ?_, ih h.2⟩
        rcases mem_insertEntry he with rfl | he
        · exact lt_of_not_lt_of_ne hnlt hne
        · exact h.1 e he

/-- The map with a value under a name, in place of the one that may be there. -/
def insert (map : NameMap α) (name : String) (value : α) : NameMap α :=
  ⟨insertEntry name value map.entries, sorted_insertEntry name value map.sorted⟩

/-- The map without the entry of a name. -/
def erase (map : NameMap α) (name : String) : NameMap α :=
  ⟨map.entries.filter (fun e => e.1 != name), map.sorted.filter _⟩

/-- The entries of a list put in one after the other. -/
def ofList (entries : List (String × α)) : NameMap α :=
  entries.foldl (fun map e => map.insert e.1 e.2) empty

/-- All entries of `other` put into `map`. -/
def insertAll (map other : NameMap α) : NameMap α :=
  other.entries.foldl (fun m e => m.insert e.1 e.2) map

end NameMap

end LineShell
