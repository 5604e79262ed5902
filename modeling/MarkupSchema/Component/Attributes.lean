/-!
# Attribute tables

The attributes a component accepts, each with the expression that declares
its type. A table keeps the order in which names first came in. Writing a
name again gives it the new type at its old place, so no name stands twice;
the type carries that fact.

Two tables that differ only in order assign the same types to the same
names. `agrees` tells whether they do by looking from one side and comparing
sizes, which is enough because no name stands twice.
-/

namespace MarkupSchema

namespace Attributes

/-- Writes one entry: in place where the name stands already, at the end
otherwise. -/
def put (name type : String) : List (String × String) → List (String × String)
  | [] => [(name, type)]
  | entry :: rest =>
      if entry.1 = name then (name, type) :: rest else entry :: put name type rest

/-- Writing a name that stands already moves no name; a new one goes last. -/
theorem names_put (name type : String) (entries : List (String × String)) :
    (put name type entries).map Prod.fst =
      if name ∈ entries.map Prod.fst then entries.map Prod.fst
      else entries.map Prod.fst ++ [name] := by
  induction entries with
  | nil => simp [put]
  | cons entry rest ih =>
      by_cases h : entry.1 = name
      · simp [put, h]
      · have h' : name ≠ entry.1 := fun e => h e.symm
        simp only [put, h, if_false, List.map_cons, ih, List.mem_cons, h', false_or]
        split <;> simp

theorem nodup_put {name type : String} {entries : List (String × String)}
    (h : (entries.map Prod.fst).Nodup) : ((put name type entries).map Prod.fst).Nodup := by
  rw [names_put]
  split
  · exact h
  · next hnew =>
      rw [List.nodup_append]
      refine ⟨h, by simp, ?_⟩
      intro a ha b hb
      simp only [List.mem_singleton] at hb
      subst hb
      rintro rfl
      exact hnew ha

end Attributes

/-- An attribute table. -/
structure Attributes where
  entries : List (String × String)
  nodup : (entries.map Prod.fst).Nodup
  deriving DecidableEq

namespace Attributes

/-- The table without attributes. -/
def empty : Attributes := ⟨[], by simp⟩

instance : Inhabited Attributes := ⟨empty⟩

/-- The names in the order in which they first came in. -/
def names (table : Attributes) : List String := table.entries.map Prod.fst

/-- The number of names. -/
def size (table : Attributes) : Nat := table.entries.length

/-- The type written for a name. -/
def get? (table : Attributes) (name : String) : Option String := table.entries.lookup name

/-- Gives a name its type. -/
def insert (table : Attributes) (name type : String) : Attributes :=
  ⟨put name type table.entries, nodup_put table.nodup⟩

/-- The table that results from writing the entries one after another. -/
def ofList (entries : List (String × String)) : Attributes :=
  entries.foldl (fun table entry => table.insert entry.1 entry.2) empty

/-- Whether two tables assign the same types to the same names. -/
def agrees (a b : Attributes) : Bool :=
  a.size == b.size && a.entries.all fun entry => b.get? entry.1 == some entry.2

theorem names_insert (table : Attributes) (name type : String) :
    (table.insert name type).names =
      if name ∈ table.names then table.names else table.names ++ [name] :=
  names_put name type table.entries

theorem lookup_put (name type other : String) (entries : List (String × String)) :
    (put name type entries).lookup other =
      if other = name then some type else entries.lookup other := by
  by_cases hother : other = name
  · rw [if_pos hother]
    induction entries with
    | nil => rw [put, List.lookup_cons, beq_iff_eq.mpr hother]
    | cons entry rest ih =>
        rw [put]
        split
        · rw [List.lookup_cons, beq_iff_eq.mpr hother]
        · next h =>
            rw [List.lookup_cons, beq_false_of_ne fun e => h (e.symm.trans hother)]
            exact ih
  · rw [if_neg hother]
    induction entries with
    | nil => rw [put, List.lookup_cons, beq_false_of_ne hother]
    | cons entry rest ih =>
        rw [put]
        split
        · next h => rw [List.lookup_cons, List.lookup_cons, h, beq_false_of_ne hother]
        · rw [List.lookup_cons, List.lookup_cons, ih]

theorem get?_insert (table : Attributes) (name type other : String) :
    (table.insert name type).get? other = if other = name then some type else table.get? other :=
  lookup_put name type other table.entries

theorem ofList_concat (entries : List (String × String)) (name type : String) :
    ofList (entries ++ [(name, type)]) = (ofList entries).insert name type := by
  rw [ofList, List.foldl_append]
  rfl

end Attributes

end MarkupSchema
