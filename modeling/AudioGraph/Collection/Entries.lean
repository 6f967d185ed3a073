/-!
# Named entries

Lists of named entries, and tables of them: lists in which no name stands twice.  Putting an entry under a name that is
there replaces the value and keeps the place.

- `Entries.get?_put` says what a list holds after an entry was put into it.
- `Entries.names_put` says which names it has then, and in which order.
-/

namespace AudioGraph

universe u

variable {α : Type u}

namespace Entries

/-- The value of the first entry with a name. -/
def get? (name : String) : List (String × α) → Option α
  | [] => none
  | entry :: rest => if entry.1 = name then some entry.2 else get? name rest

/-- Puts an entry in place of the one with its name, or else at the end. -/
def put (name : String) (value : α) : List (String × α) → List (String × α)
  | [] => [(name, value)]
  | entry :: rest => if entry.1 = name then (name, value) :: rest else entry :: put name value rest

/-- The names of the entries. -/
def names (entries : List (String × α)) : List String := entries.map (·.1)

/-- The entries without repeated names: of equal names the last value counts, at the place of the first. -/
def merge (entries : List (String × α)) : List (String × α) :=
  entries.foldl (fun merged entry => put entry.1 entry.2 merged) []

theorem get?_put (name other : String) (value : α) (entries : List (String × α)) :
    get? other (put name value entries) = if name = other then some value else get? other entries := by
  induction entries with
  | nil => simp [put, get?]
  | cons entry rest ih =>
    unfold put
    by_cases h : entry.1 = name
    · by_cases ho : name = other <;> simp [get?, h, ho]
    · by_cases ho : name = other
      · subst ho
        simp [get?, h, ih]
      · simp [get?, h, ih, ho]

theorem names_put (name : String) (value : α) (entries : List (String × α)) :
    names (put name value entries) = if name ∈ names entries then names entries else names entries ++ [name] := by
  induction entries with
  | nil => simp [put, names]
  | cons entry rest ih =>
    unfold put
    by_cases h : entry.1 = name
    · simp [names, h]
    · have hne : name ≠ entry.1 := fun e => h e.symm
      simp only [names] at ih
      by_cases hm : name ∈ rest.map (·.1) <;> simp_all [names]

theorem nodup_names_put {name : String} {value : α} {entries : List (String × α)} (h : (names entries).Nodup) :
    (names (put name value entries)).Nodup := by
  rw [names_put]
  split
  · exact h
  · next hm =>
    refine List.nodup_append.2 ⟨h, by simp, fun a ha b hb => ?_⟩
    rw [List.mem_singleton.1 hb]
    rintro rfl
    exact hm ha

theorem nodup_names_merge (entries : List (String × α)) : (names (merge entries)).Nodup := by
  suffices ∀ merged : List (String × α), (names merged).Nodup →
      (names (entries.foldl (fun merged entry => put entry.1 entry.2 merged) merged)).Nodup from this [] .nil
  induction entries with
  | nil => exact fun _ h => h
  | cons entry rest ih => exact fun merged h => ih _ (nodup_names_put h)

end Entries

/-- Named entries in which no name stands twice, in the order in which the names came. -/
structure Table (α : Type u) where
  entries : List (String × α)
  distinct : (Entries.names entries).Nodup
  deriving DecidableEq

namespace Table

/-- The table without entries. -/
def empty : Table α := ⟨[], .nil⟩

instance : Inhabited (Table α) := ⟨empty⟩

/-- The table of a list of entries: of equal names the last value counts, at the place of the first. -/
def ofList (entries : List (String × α)) : Table α := ⟨Entries.merge entries, Entries.nodup_names_merge entries⟩

/-- The value under a name. -/
def get? (table : Table α) (name : String) : Option α := Entries.get? name table.entries

/-- The names, in their order. -/
def names (table : Table α) : List String := Entries.names table.entries

/-- Puts a value under a name. -/
def put (table : Table α) (name : String) (value : α) : Table α :=
  ⟨Entries.put name value table.entries, Entries.nodup_names_put table.distinct⟩

/-- The table with a function applied to each value. -/
def map {β : Type u} (f : α → β) (table : Table α) : Table β :=
  ⟨table.entries.map fun entry => (entry.1, f entry.2), by
    have h := table.distinct
    simp only [Entries.names, List.map_map, Function.comp_def] at h ⊢
    exact h⟩

/-- Whether the table has no entries. -/
def isEmpty (table : Table α) : Bool := table.entries.isEmpty

theorem get?_put (table : Table α) (name other : String) (value : α) :
    (table.put name value).get? other = if name = other then some value else table.get? other :=
  Entries.get?_put name other value table.entries

theorem get?_map {β : Type u} (f : α → β) (table : Table α) (name : String) :
    (table.map f).get? name = (table.get? name).map f := by
  obtain ⟨entries, _⟩ := table
  simp only [get?, map]
  induction entries with
  | nil => rfl
  | cons entry rest ih =>
    simp only [List.map_cons, Entries.get?]
    split
    · rfl
    · exact ih (List.nodup_cons.1 ‹_›).2

end Table

end AudioGraph
