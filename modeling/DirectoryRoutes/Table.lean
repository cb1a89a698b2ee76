/-! Tables: names with values, in the order in which the names first came. -/

namespace DirectoryRoutes

/-- Names with values; each name occurs once. -/
abbrev Table (α : Type) := List (String × α)

namespace Table

variable {α : Type}

def get? (name : String) : Table α → Option α
  | [] => none
  | (n, v) :: rest => if n = name then some v else get? name rest

/-- Gives a name a value. A new name goes to the end, a known one keeps its place. -/
def set (name : String) (value : α) : Table α → Table α
  | [] => [(name, value)]
  | (n, v) :: rest => if n = name then (name, value) :: rest else (n, v) :: set name value rest

/-- A table with the same names and other values. -/
def mapValues {β : Type} (f : α → β) (t : Table α) : Table β :=
  t.map fun entry => (entry.1, f entry.2)

/-- A name has the value that it was given last, by induction on the entries. -/
theorem get?_set_self (name : String) (value : α) (t : Table α)
    : get? name (set name value t) = some value := by
  induction t with
  | nil => simp [set, get?]
  | cons entry rest ih => by_cases h : entry.1 = name <;> simp [set, get?, h, ih]

/-- The other names keep their values, by induction on the entries. -/
theorem get?_set_of_ne {name other : String} (value : α) (t : Table α) (h : other ≠ name)
    : get? other (set name value t) = get? other t := by
  induction t with
  | nil => simp [set, get?, h.symm]
  | cons entry rest ih =>
      by_cases hn : entry.1 = name
      · simp [set, get?, hn, h.symm]
      · simp [set, get?, hn, ih]

/-- Nothing changes if a name is given the value that it has, by induction on the entries. -/
theorem set_of_get? {name : String} {value : α} {t : Table α} (found : get? name t = some value)
    : set name value t = t := by
  induction t with
  | nil => simp [get?] at found
  | cons entry rest ih =>
      by_cases h : entry.1 = name
      · simp only [get?, h, if_true, Option.some.injEq] at found
        simp [set, ← h, ← found]
      · simp only [get?, h, if_false] at found
        simp [set, h, ih found]

/-- A name has the image of its value, by induction on the entries. -/
@[simp]
theorem get?_mapValues {β : Type} (f : α → β) (name : String) (t : Table α)
    : get? name (t.mapValues f) = (get? name t).map f := by
  induction t with
  | nil => rfl
  | cons entry rest ih =>
      by_cases h : entry.1 = name
      · simp [mapValues, get?, h]
      · simpa [mapValues, get?, h] using ih

/-- Values can be mapped before or after a name is given one, by induction on the entries. -/
theorem set_mapValues {β : Type} (f : α → β) (name : String) (value : α) (t : Table α)
    : set name (f value) (t.mapValues f) = (set name value t).mapValues f := by
  induction t with
  | nil => rfl
  | cons entry rest ih =>
      by_cases h : entry.1 = name
      · simp [mapValues, set, h]
      · simpa [mapValues, set, h] using ih

end Table

end DirectoryRoutes
