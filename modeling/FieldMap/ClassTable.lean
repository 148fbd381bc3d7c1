import FieldMap.Error

/-!
# Tables keyed by class

A class hierarchy gives each class its lineage: the class itself and its ancestors, nearest first.
A `ClassTable` registers values for classes, and `ClassTable.find` answers with the value of the
first class of the lineage that is registered. A class is registered at most once (`distinct`), so
the number of entries is the number of registered classes.
-/

namespace FieldMap

/-- Classes with their lineages and names. -/
class ClassHierarchy (Class : Type) where
  /-- The class itself and its ancestors, nearest first. -/
  lineage : Class → List Class
  name : Class → String

/-- Whether `c` is `ancestor` or inherits from it. -/
def isSubclass {Class : Type} [DecidableEq Class] [ClassHierarchy Class] (c ancestor : Class) :
    Bool :=
  (ClassHierarchy.lineage c).contains ancestor

/-- Values that a table is asked about by their class. A stand-in answers with the class of what it
stands for. -/
class HasClass (α : Type) (Class : outParam Type) where
  lookupClass : α → Class

/-- No class of the lineage of the named class is registered. -/
structure ClassNotFound where
  name : String

/-- The text of a failed lookup. -/
def ClassNotFound.message (e : ClassNotFound) : String :=
  "Class " ++ e.name ++ " not found in lookup."

/-- A failed lookup among all failures. -/
def ClassNotFound.toError (e : ClassNotFound) : Error :=
  .lookup e.message

/-- Values registered for classes, each class at most once. -/
structure ClassTable (Class Value : Type) where
  entries : List (Class × Value)
  distinct : (entries.map Prod.fst).Nodup

namespace ClassTable

variable {Class Value : Type}

/-- The table without entries. -/
def empty : ClassTable Class Value :=
  ⟨[], .nil⟩

/-- The number of registered classes. -/
def size (table : ClassTable Class Value) : Nat :=
  table.entries.length

/-- Whether no class is registered. -/
def isEmpty (table : ClassTable Class Value) : Bool :=
  table.entries.isEmpty

variable [DecidableEq Class]

/-- The entries with `c` set to `value`: in its place if it is there, else at the end. -/
def putEntry (c : Class) (value : Value) : List (Class × Value) → List (Class × Value)
  | [] => [(c, value)]
  | (k, v) :: rest => if k = c then (k, value) :: rest else (k, v) :: putEntry c value rest

theorem keys_putEntry (c : Class) (value : Value) (entries : List (Class × Value)) :
    (putEntry c value entries).map Prod.fst =
      if c ∈ entries.map Prod.fst then entries.map Prod.fst
      else entries.map Prod.fst ++ [c] := by
  induction entries with
  | nil => simp [putEntry]
  | cons entry rest ih =>
    obtain ⟨k, v⟩ := entry
    by_cases h : k = c
    · simp [putEntry, h]
    · have h' : ¬ c = k := fun e => h e.symm
      simp only [putEntry, h, if_false, List.map_cons, ih, List.mem_cons, h', false_or]
      split <;> simp

theorem nodup_putEntry (c : Class) (value : Value) {entries : List (Class × Value)}
    (h : (entries.map Prod.fst).Nodup) : ((putEntry c value entries).map Prod.fst).Nodup := by
  rw [keys_putEntry]
  split
  · exact h
  · rename_i hc
    rw [List.nodup_append]
    refine ⟨h, by simp, fun a ha b hb => ?_⟩
    simp only [List.mem_singleton] at hb
    rintro rfl
    exact hc (hb ▸ ha)

theorem lookup_putEntry (c k : Class) (value : Value) (entries : List (Class × Value)) :
    (putEntry c value entries).lookup k = if k = c then some value else entries.lookup k := by
  induction entries with
  | nil => by_cases h : k = c <;> simp [putEntry, h]
  | cons entry rest ih =>
    obtain ⟨k', v⟩ := entry
    by_cases h : k' = c
    · subst h
      by_cases hk : k = k'
      · simp [putEntry, hk]
      · have : (k == k') = false := by simp [hk]
        simp [putEntry, List.lookup_cons, hk, this]
    · by_cases hk : k = k'
      · subst hk
        simp [putEntry, h]
      · have : (k == k') = false := by simp [hk]
        simp [putEntry, List.lookup_cons, h, this, ih]

/-- The value registered for exactly this class. -/
def get? (table : ClassTable Class Value) (c : Class) : Option Value :=
  table.entries.lookup c

/-- Registers a value for a class; also the value it replaces. -/
def insert (table : ClassTable Class Value) (c : Class) (value : Value) :
    Option Value × ClassTable Class Value :=
  (table.get? c, ⟨putEntry c value table.entries, nodup_putEntry c value table.distinct⟩)

/-- After an insertion the class has its new value and every other class the value it had. -/
theorem get?_insert (table : ClassTable Class Value) (c k : Class) (value : Value) :
    (table.insert c value).2.get? k = if k = c then some value else table.get? k :=
  lookup_putEntry c k value table.entries

/-- The table of a list of pairs; of several pairs with one class the last one counts. -/
def ofList (pairs : List (Class × Value)) : ClassTable Class Value :=
  pairs.foldl (fun table pair => (table.insert pair.1 pair.2).2) empty

variable [ClassHierarchy Class]

/-- The value registered for the class or else for its nearest registered ancestor. -/
def find (table : ClassTable Class Value) (c : Class) : Except ClassNotFound Value :=
  match (ClassHierarchy.lineage c).findSome? table.get? with
  | some value => .ok value
  | none => .error ⟨ClassHierarchy.name c⟩

/-- The value found for the class of a value. -/
def findFor {α : Type} [HasClass α Class] (table : ClassTable Class Value) (x : α) :
    Except ClassNotFound Value :=
  table.find (HasClass.lookupClass x)

end ClassTable

end FieldMap
