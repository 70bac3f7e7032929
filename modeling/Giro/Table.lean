/-!
# Tables

Rows under keys, in the order in which the keys first appeared. Writing a row
under a key that is there replaces the row and keeps its place.
-/

namespace Giro

/-- Rows under keys. -/
structure Table (κ α : Type) where
  rows : List (κ × α)

namespace Table

variable {κ α : Type}

/-- The table without rows. -/
def empty : Table κ α := ⟨[]⟩

instance : Inhabited (Table κ α) := ⟨empty⟩

/-- The rows without their keys. -/
def values (table : Table κ α) : List α :=
  table.rows.map Prod.snd

/-- The table with a function applied to every row. -/
def mapValues (function : α -> α) (table : Table κ α) : Table κ α :=
  ⟨table.rows.map (fun row => (row.1, function row.2))⟩

variable [DecidableEq κ]

/-- The row under a key. -/
def get? (table : Table κ α) (key : κ) : Option α :=
  (table.rows.find? (fun row => row.1 = key)).map Prod.snd

/-- Whether there is a row under a key. -/
def contains (table : Table κ α) (key : κ) : Bool :=
  (table.get? key).isSome

/-- Rows with one of them replaced or added. -/
def putRow (key : κ) (value : α) : List (κ × α) -> List (κ × α)
  | [] => [(key, value)]
  | row :: rest =>
      if row.1 = key then (key, value) :: rest else row :: putRow key value rest

/-- The table with a row written under a key. -/
def put (table : Table κ α) (key : κ) (value : α) : Table κ α :=
  ⟨putRow key value table.rows⟩

/-- The table without the row under a key. -/
def erase (table : Table κ α) (key : κ) : Table κ α :=
  ⟨table.rows.filter (fun row => row.1 != key)⟩

/-- The table with all rows of another one written over it. -/
def overwrite (table updates : Table κ α) : Table κ α :=
  updates.rows.foldl (fun result row => result.put row.1 row.2) table

/-- The table with the row under a key changed, if there is one. -/
def modify (table : Table κ α) (key : κ) (change : α -> α) : Table κ α :=
  ⟨table.rows.map (fun row => if row.1 = key then (row.1, change row.2) else row)⟩

@[simp] theorem get?_empty (key : κ) : (empty : Table κ α).get? key = none := rfl

theorem find?_putRow (rows : List (κ × α)) (key other : κ) (value : α) :
    ((putRow key value rows).find? (fun row => row.1 = other)).map Prod.snd =
      if key = other then some value
      else (rows.find? (fun row => row.1 = other)).map Prod.snd := by
  induction rows with
  | nil => by_cases same : key = other <;> simp [putRow, same]
  | cons row rest ih =>
      by_cases here : row.1 = key
      · by_cases same : key = other <;> simp [putRow, here, same]
      · by_cases there : row.1 = other
        · have different : key ≠ other := fun same => here (there.trans same.symm)
          simp [putRow, there, different, Ne.symm different]
        · simp [putRow, here, there, ih]

/-- A written row is found under its key, every other row as before. -/
theorem get?_put (table : Table κ α) (key other : κ) (value : α) :
    (table.put key value).get? other =
      if key = other then some value else table.get? other :=
  find?_putRow table.rows key other value

/-- An erased key has no row, every other row is found as before. -/
theorem get?_erase (table : Table κ α) (key other : κ) :
    (table.erase key).get? other = if key = other then none else table.get? other := by
  obtain ⟨rows⟩ := table
  simp only [get?, erase]
  induction rows with
  | nil => simp
  | cons row rest ih =>
      obtain ⟨name, value⟩ := row
      by_cases here : name = key
      · subst here
        by_cases same : name = other <;> simp_all
      · by_cases there : name = other
        · subst there
          simp [here, Ne.symm here]
        · simp_all

/-- A changed row is found as it was changed, every other row as before. -/
theorem get?_modify (table : Table κ α) (key other : κ) (change : α -> α) :
    (table.modify key change).get? other =
      if key = other then (table.get? other).map change else table.get? other := by
  obtain ⟨rows⟩ := table
  simp only [get?, modify]
  induction rows with
  | nil => simp
  | cons row rest ih =>
      obtain ⟨name, value⟩ := row
      by_cases there : name = other
      · subst there
        by_cases here : name = key
        · simp [here]
        · simp [here, Ne.symm here]
      · by_cases here : name = key <;> simp_all

/-- There is a row under a written key and under every key that had one. -/
theorem contains_put (table : Table κ α) (key other : κ) (value : α) :
    (table.put key value).contains other =
      (decide (key = other) || table.contains other) := by
  by_cases same : key = other <;> simp [contains, get?_put, same]

end Table
end Giro
