import Mathlib.Data.List.Find
import Mathlib.Data.List.Nodup
import AudioGraph.Collection.Entries
import AudioGraph.Collection.Repeats

/-!
# Looking names up

The searches of the library, described by the members of the lists that they go through.

* (repeats) `markRepeats` marks nothing exactly when the names are distinct, and marks an element that is added under a
  name that is there (`markRepeats_concat_of_named`), which no search finds (`find?_concat_of_named`).
* (searches) A search by name finds the first element of the name (`IsFirst`).  When the names are distinct this is the
  only element of the name, so that everything about the name is about this element (`flatMap_eq_of_nodup`).
* (changes) Where elements are changed and their names are kept, or at least kept apart, a search finds what it has
  found, changed (`find?_map_of_named`, `find?_map_of_renamed`), and repeats are marked alike
  (`markRepeats_map_of_named`, `markRepeats_map_of_renamed`).
* (tables) A table has a value exactly under its names, in whichever order it lists them (`Table.get?_of_perm`), and
  merging entries with distinct names changes nothing.
-/

namespace AudioGraph

universe u v

variable {α : Type u} {β : Type v}

/-! ### Repeats -/

private theorem unmarkedFrom_iff {name : α → String} {seen : List String} {xs : List α} :
    (∀ m ∈ markRepeatsFrom name seen xs, m.2 = false) ↔ (xs.map name).Nodup ∧ ∀ x ∈ xs, name x ∉ seen := by
  -- the scan adds each name to those seen before
  induction xs generalizing seen with
  | nil => simp [markRepeatsFrom]
  | cons x rest ih =>
    have head : (seen.contains (name x) = false) ↔ name x ∉ seen := by simp
    have tail : (∀ y ∈ rest, name y ∉ name x :: seen) ↔ name x ∉ rest.map name ∧ ∀ y ∈ rest, name y ∉ seen := by
      simp only [List.mem_cons, not_or, List.mem_map, not_exists, not_and]
      exact forall₂_and
    rw [markRepeatsFrom, List.forall_mem_cons, ih, tail, head, List.map_cons, List.nodup_cons, List.forall_mem_cons]
    constructor
    · rintro ⟨hx, hnodup, hnew, hseen⟩
      exact ⟨⟨hnew, hnodup⟩, hx, hseen⟩
    · rintro ⟨⟨hnew, hnodup⟩, hx, hseen⟩
      exact ⟨hx, hnodup, hnew, hseen⟩

/-- No element is marked exactly when the names are distinct, and then the elements are those of the list. -/
theorem forall_mem_markRepeats_iff {name : α → String} {xs : List α} {P : α → Prop} :
    (∀ m ∈ markRepeats name xs, m.2 = false ∧ P m.1) ↔ (xs.map name).Nodup ∧ ∀ x ∈ xs, P x := by
  have marks : (∀ m ∈ markRepeats name xs, m.2 = false) ↔ (xs.map name).Nodup := by
    rw [markRepeats, unmarkedFrom_iff]
    simp
  have elements : (∀ m ∈ markRepeats name xs, P m.1) ↔ ∀ x ∈ xs, P x := by
    conv => rhs; rw [← map_fst_markRepeatsFrom name [] xs]
    exact List.forall_mem_map.symm
  rw [forall₂_and, marks, elements]

/-- Nothing is marked if the names are distinct. -/
theorem markRepeats_of_nodup {name : α → String} {xs : List α} (distinct : (xs.map name).Nodup) :
    markRepeats name xs = xs.map fun x => (x, false) := by
  have unmarked : ∀ m ∈ markRepeats name xs, (m.1, false) = m := by
    intro m hm
    have h := forall_mem_markRepeats_iff.2 ⟨distinct, fun _ _ => trivial⟩ m hm
    exact Prod.ext rfl h.1.symm
  calc markRepeats name xs
      = (markRepeats name xs).map fun m => (m.1, false) := by rw [List.map_congr_left unmarked, List.map_id']
    _ = ((markRepeats name xs).map (·.1)).map fun x => (x, false) := by rw [List.map_map]; rfl
    _ = xs.map fun x => (x, false) := by rw [markRepeats, map_fst_markRepeatsFrom]

private theorem markRepeatsFrom_concat (name : α → String) (seen : List String) (xs : List α) (x : α) :
    markRepeatsFrom name seen (xs ++ [x]) =
      markRepeatsFrom name seen xs ++ [(x, seen.contains (name x) || (xs.map name).contains (name x))] := by
  -- a name is seen at the end if it was seen before, or if it stands on the way
  induction xs generalizing seen with
  | nil => simp [markRepeatsFrom]
  | cons y rest ih =>
    have met : ((name y :: seen).contains (name x) || (rest.map name).contains (name x)) =
        (seen.contains (name x) || ((y :: rest).map name).contains (name x)) := by
      rw [List.map_cons, List.contains_cons, List.contains_cons, Bool.or_comm (name x == name y), Bool.or_assoc]
    rw [List.cons_append, markRepeatsFrom, markRepeatsFrom, ih, met, List.cons_append]

/-- At the end, an element is marked exactly if its name is there. -/
theorem markRepeats_concat (name : α → String) (xs : List α) (x : α) :
    markRepeats name (xs ++ [x]) = markRepeats name xs ++ [(x, (xs.map name).contains (name x))] := by
  rw [markRepeats, markRepeatsFrom_concat, List.contains_nil, Bool.false_or, markRepeats]

theorem markRepeats_concat_of_named {name : α → String} {xs : List α} {x : α} (there : ∃ y ∈ xs, name y = name x) :
    markRepeats name (xs ++ [x]) = markRepeats name xs ++ [(x, true)] := by
  have met : (xs.map name).contains (name x) = true := List.contains_iff_mem.2 (List.mem_map.2 there)
  rw [markRepeats_concat, met]

/-! ### Searches -/

/-- `x` is the first element of a list with a given name. -/
def IsFirst (name : α → String) (key : String) (xs : List α) (x : α) : Prop :=
  ∃ before after, xs = before ++ x :: after ∧ name x = key ∧ ∀ y ∈ before, name y ≠ key

theorem IsFirst.mem {name : α → String} {key : String} {xs : List α} {x : α} (h : IsFirst name key xs x) : x ∈ xs := by
  obtain ⟨before, after, rfl, -, -⟩ := h
  simp

theorem IsFirst.name_eq {name : α → String} {key : String} {xs : List α} {x : α} (h : IsFirst name key xs x) :
    name x = key := by
  obtain ⟨-, -, -, hx, -⟩ := h
  exact hx

/-- What is added at the end does not change the first element of a name. -/
theorem IsFirst.append {name : α → String} {key : String} {xs : List α} {x : α} (h : IsFirst name key xs x)
    (more : List α) : IsFirst name key (xs ++ more) x := by
  obtain ⟨before, after, rfl, hx, hb⟩ := h
  exact ⟨before, after ++ more, by simp, hx, hb⟩

/-- A search by name finds the first element of the name. -/
theorem find?_eq_some_iff_isFirst {name : α → String} {key : String} {xs : List α} {x : α} :
    (xs.find? fun y => name y == key) = some x ↔ IsFirst name key xs x := by
  rw [List.find?_eq_some_iff_append]
  constructor
  · rintro ⟨hx, before, after, rfl, hb⟩
    exact ⟨before, after, rfl, by simpa using hx, fun y hy => by simpa using hb y hy⟩
  · rintro ⟨before, after, rfl, hx, hb⟩
    exact ⟨by simpa using hx, before, after, rfl, fun y hy => by simpa using hb y hy⟩

theorem IsFirst.unique {name : α → String} {key : String} {xs : List α} {x y : α} (hx : IsFirst name key xs x)
    (hy : IsFirst name key xs y) : x = y :=
  Option.some.inj ((find?_eq_some_iff_isFirst.2 hx).symm.trans (find?_eq_some_iff_isFirst.2 hy))

/-- A search by name finds what the first element of the name has. -/
theorem map_find?_eq_some_iff {name : α → String} {key : String} {xs : List α} {f : α → β} {b : β} :
    (xs.find? fun y => name y == key).map f = some b ↔ ∃ x, IsFirst name key xs x ∧ f x = b := by
  rw [Option.map_eq_some_iff]
  exact exists_congr fun x => and_congr_left fun _ => find?_eq_some_iff_isFirst

/-- A search by name succeeds exactly when some element has the name. -/
theorem isSome_find?_iff {name : α → String} {key : String} {xs : List α} :
    (xs.find? fun y => name y == key).isSome = true ↔ ∃ x ∈ xs, name x = key := by
  simp [List.find?_isSome]

theorem exists_isFirst {name : α → String} {key : String} {xs : List α} (h : ∃ x ∈ xs, name x = key) :
    ∃ x, IsFirst name key xs x := by
  obtain ⟨x, hx⟩ := Option.isSome_iff_exists.1 (isSome_find?_iff.2 h)
  exact ⟨x, find?_eq_some_iff_isFirst.1 hx⟩

/-- What is added under a name that is there is not found. -/
theorem find?_concat_of_named {name : α → String} {xs : List α} {x : α} (there : ∃ y ∈ xs, name y = name x)
    (key : String) : ((xs ++ [x]).find? fun y => name y == key) = xs.find? fun y => name y == key := by
  rw [List.find?_append]
  by_cases h : name x = key
  · subst h
    exact Option.or_of_isSome (isSome_find?_iff.2 there)
  · have missed : ([x].find? fun y => name y == key) = none := by simpa using h
    rw [missed, Option.or_none]

/-- Among distinct names, the first element of a name is the element of the name. -/
theorem isFirst_iff_of_nodup {name : α → String} {key : String} {xs : List α} {x : α} (distinct : (xs.map name).Nodup) :
    IsFirst name key xs x ↔ x ∈ xs ∧ name x = key := by
  constructor
  · exact fun h => ⟨h.mem, h.name_eq⟩
  · rintro ⟨hx, rfl⟩
    obtain ⟨y, hy⟩ := exists_isFirst ⟨x, hx, rfl⟩
    obtain rfl := List.inj_on_of_nodup_map distinct hy.mem hx hy.name_eq
    exact hy

/-- Among distinct names, a search finds the same wherever the elements stand. -/
theorem find?_eq_of_perm {name : α → String} {xs ys : List α} (distinct : (xs.map name).Nodup) (h : xs.Perm ys)
    (key : String) : (xs.find? fun x => name x == key) = ys.find? fun x => name x == key := by
  have distinct' : (ys.map name).Nodup := (h.map name).nodup_iff.1 distinct
  refine Option.ext fun x => ?_
  rw [find?_eq_some_iff_isFirst, find?_eq_some_iff_isFirst, isFirst_iff_of_nodup distinct,
    isFirst_iff_of_nodup distinct', h.mem_iff]

/-- Where only the elements of one name count, and names are distinct, one element makes the whole. -/
theorem flatMap_eq_of_nodup {κ : Type} {name : α → κ} {xs : List α} {x : α} {f : α → List β}
    (distinct : (xs.map name).Nodup) (hx : x ∈ xs) (hf : ∀ y ∈ xs, name y ≠ name x → f y = []) :
    xs.flatMap f = f x := by
  obtain ⟨before, after, rfl⟩ := List.append_of_mem hx
  have others : ∀ y ∈ before ++ after, f y = [] := by
    intro y hy
    have hy' : y ∈ before ++ x :: after := by
      rcases List.mem_append.1 hy with h | h <;> simp [h]
    refine hf y hy' fun same => ?_
    rw [List.map_append, List.map_cons, List.nodup_middle, List.nodup_cons, ← List.map_append] at distinct
    exact distinct.1 (List.mem_map.2 ⟨y, hy, same⟩)
  have hb : before.flatMap f = [] := List.flatMap_eq_nil_iff.2 fun y hy => others y (List.mem_append_left _ hy)
  have ha : after.flatMap f = [] := List.flatMap_eq_nil_iff.2 fun y hy => others y (List.mem_append_right _ hy)
  rw [List.flatMap_append, List.flatMap_cons, hb, ha, List.nil_append, List.append_nil]

/-- Among distinct names, one element has the name of an element. -/
theorem filter_name_eq_singleton {name : α → String} {xs : List α} {x : α} (distinct : (xs.map name).Nodup)
    (hx : x ∈ xs) : (xs.filter fun y => name y == name x) = [x] := by
  have h := flatMap_eq_of_nodup (f := fun y => if name y == name x then [y] else []) distinct hx (by simp)
  rw [← List.filterMap_eq_filter, List.filterMap_eq_flatMap_toList]
  simpa [Option.guard, apply_ite Option.toList] using h

/-- The elements of a name start with the first one, and end with it if names are distinct. -/
theorem IsFirst.filter_eq {name : α → String} {key : String} {xs : List α} {x : α} (h : IsFirst name key xs x) :
    ∃ more, (xs.filter fun y => name y == key) = x :: more ∧ ((xs.map name).Nodup → more = []) := by
  have hm := h.mem
  obtain ⟨before, after, rfl, rfl, hb⟩ := h
  have none : (before.filter fun y => name y == name x) = [] := by
    refine List.filter_eq_nil_iff.2 fun y hy => ?_
    simpa using hb y hy
  have first : ((before ++ x :: after).filter fun y => name y == name x) =
      x :: after.filter fun y => name y == name x := by
    rw [List.filter_append, none, List.nil_append, List.filter_cons_of_pos (by simp)]
  refine ⟨_, first, fun distinct => ?_⟩
  rw [filter_name_eq_singleton distinct hm] at first
  exact (List.cons.inj first).2.symm

/-! ### Changed elements -/

section Changed

variable (name : α → String) (change : α → α) (rename : String → String)

/-- A search under a new name finds what the search under the old one has found. -/
theorem find?_map_of_renamed (named : ∀ x, name (change x) = rename (name x)) {key : String} {xs : List α}
    (apart : ∀ x ∈ xs, rename (name x) = rename key → name x = key) :
    ((xs.map change).find? fun x => name x == rename key) = (xs.find? fun x => name x == key).map change := by
  rw [List.find?_map]
  refine congrArg (Option.map change) (List.find?_congr fun x hx => ?_)
  rw [Function.comp_apply, named, Bool.eq_iff_iff, beq_iff_eq, beq_iff_eq]
  exact ⟨apart x hx, congrArg rename⟩

private theorem markRepeatsFrom_map_of_renamed (named : ∀ x, name (change x) = rename (name x)) (seen : List String)
    {xs : List α} (apart : ∀ a ∈ seen ++ xs.map name, ∀ b ∈ seen ++ xs.map name, rename a = rename b → a = b) :
    markRepeatsFrom name (seen.map rename) (xs.map change) =
      (markRepeatsFrom name seen xs).map fun m => (change m.1, m.2) := by
  -- the names seen before are kept apart from those to come
  induction xs generalizing seen with
  | nil => rfl
  | cons x rest ih =>
    have head : (seen.map rename).contains (name (change x)) = seen.contains (name x) := by
      rw [Bool.eq_iff_iff, List.contains_iff_mem, List.contains_iff_mem, named, List.mem_map]
      constructor
      · rintro ⟨a, ha, same⟩
        exact apart a (by simp [ha]) (name x) (by simp) same ▸ ha
      · exact fun h => ⟨name x, h, rfl⟩
    have same (a : String) : a ∈ name x :: seen ++ rest.map name ↔ a ∈ seen ++ (x :: rest).map name :=
      List.perm_middle.symm.mem_iff
    have tail := ih (name x :: seen) fun a ha b hb => apart a ((same a).1 ha) b ((same b).1 hb)
    rw [List.map_cons, markRepeatsFrom, markRepeatsFrom, head, List.map_cons, named, ← List.map_cons, tail]

/-- Repeats are marked alike under new names. -/
theorem markRepeats_map_of_renamed (named : ∀ x, name (change x) = rename (name x)) {xs : List α}
    (apart : ∀ a ∈ xs.map name, ∀ b ∈ xs.map name, rename a = rename b → a = b) :
    markRepeats name (xs.map change) = (markRepeats name xs).map fun m => (change m.1, m.2) :=
  markRepeatsFrom_map_of_renamed name change rename named [] apart

/-- A search finds what it has found, changed, if elements keep their names. -/
theorem find?_map_of_named (named : ∀ x, name (change x) = name x) (key : String) (xs : List α) :
    ((xs.map change).find? fun x => name x == key) = (xs.find? fun x => name x == key).map change :=
  find?_map_of_renamed name change id named fun _ _ => id

/-- Repeats are marked alike if elements keep their names. -/
theorem markRepeats_map_of_named (named : ∀ x, name (change x) = name x) (xs : List α) :
    markRepeats name (xs.map change) = (markRepeats name xs).map fun m => (change m.1, m.2) :=
  markRepeats_map_of_renamed name change id named fun _ _ _ _ => id

/-- What is collected from changed elements is changed if it is so for each of them. -/
theorem flatMap_map_of_renamed {collect collect' : α → List β} {renamed : β → β} {xs : List α}
    (h : ∀ x ∈ xs, collect' (change x) = (collect x).map renamed) :
    (xs.map change).flatMap collect' = (xs.flatMap collect).map renamed := by
  rw [List.flatMap_map, List.map_flatMap]
  exact List.flatMap_congr h

end Changed

/-! ### Tables -/

namespace Entries

/-- There is a value under a name exactly when the name is there. -/
theorem isSome_get?_iff {name : String} {entries : List (String × α)} :
    (get? name entries).isSome = true ↔ name ∈ names entries := by
  induction entries with
  | nil => simp [get?, names]
  | cons entry rest ih =>
    unfold get? names
    by_cases h : entry.1 = name
    · simp [h]
    · simp only [h, ↓reduceIte, ih, List.map_cons, List.mem_cons]
      exact ⟨Or.inr, fun hm => hm.resolve_left (Ne.symm h)⟩

/-- What stands under a name is one of the entries. -/
theorem mem_of_get? {name : String} {value : α} {entries : List (String × α)} (h : get? name entries = some value) :
    (name, value) ∈ entries := by
  induction entries with
  | nil => cases h
  | cons entry rest ih =>
    rw [get?] at h
    split at h
    · next same =>
      obtain rfl := Option.some.inj h
      exact same ▸ List.mem_cons_self
    · exact List.mem_cons_of_mem _ (ih h)

/-- A look-up is a search by name. -/
theorem get?_eq_find? (name : String) (entries : List (String × α)) :
    get? name entries = (entries.find? fun entry => entry.1 == name).map (·.2) := by
  induction entries with
  | nil => rfl
  | cons entry rest ih =>
    by_cases h : entry.1 = name
    · simp [get?, h]
    · simp [get?, h, ih]

private theorem put_of_notMem {name : String} {value : α} {entries : List (String × α)} (h : name ∉ names entries) :
    put name value entries = entries ++ [(name, value)] := by
  induction entries with
  | nil => rfl
  | cons entry rest ih =>
    simp only [names, List.map_cons, List.mem_cons, not_or] at h
    have hne : ¬entry.1 = name := Ne.symm h.1
    rw [put, if_neg hne, ih h.2, List.cons_append]

/-- Entries with distinct names are merged into themselves. -/
theorem merge_eq_self {entries : List (String × α)} (distinct : (names entries).Nodup) : merge entries = entries := by
  suffices ∀ merged : List (String × α), (names (merged ++ entries)).Nodup →
      entries.foldl (fun merged entry => put entry.1 entry.2 merged) merged = merged ++ entries from
    this [] distinct
  -- what is merged so far has none of the names still to come
  clear distinct
  induction entries with
  | nil => simp
  | cons entry rest ih =>
    intro merged h
    have hnew : entry.1 ∉ names merged := by
      simp only [names, List.map_append, List.map_cons, List.nodup_middle, List.nodup_cons] at h
      exact fun hm => h.1 (List.mem_append_left _ hm)
    rw [List.foldl_cons, put_of_notMem hnew, ih _ (by simpa using h), List.append_assoc, List.singleton_append]

end Entries

namespace Table

/-- A table is its entries. -/
theorem eq_of_entries {s t : Table α} (h : s.entries = t.entries) : s = t := by
  cases s
  cases t
  congr

theorem entries_ofList {entries : List (String × α)} (distinct : (Entries.names entries).Nodup) :
    (ofList entries).entries = entries :=
  Entries.merge_eq_self distinct

/-- The table of the entries of a table is the table. -/
theorem ofList_entries (table : Table α) : ofList table.entries = table := by
  obtain ⟨entries, distinct⟩ := table
  simp only [ofList, Entries.merge_eq_self distinct]

/-- Changed values stand under the same names. -/
theorem names_map {γ : Type u} (f : α → γ) (table : Table α) : (table.map f).names = table.names := by
  simp only [names, map, Entries.names, List.map_map, Function.comp_def]

/-- A table has a value under a name exactly if this is one of its entries. -/
theorem get?_eq_some_iff {table : Table α} {name : String} {value : α} :
    table.get? name = some value ↔ (name, value) ∈ table.entries := by
  rw [get?, Entries.get?_eq_find?, map_find?_eq_some_iff]
  constructor
  · rintro ⟨entry, first, rfl⟩
    exact first.name_eq ▸ first.mem
  · intro hm
    exact ⟨(name, value), (isFirst_iff_of_nodup table.distinct).2 ⟨hm, rfl⟩, rfl⟩

/-- In which order a table lists its entries makes no difference to what stands under a name. -/
theorem get?_of_perm {s t : Table α} (h : s.entries.Perm t.entries) (name : String) : s.get? name = t.get? name := by
  rw [get?, get?, Entries.get?_eq_find?, Entries.get?_eq_find?, find?_eq_of_perm s.distinct h]

/-- A table has a value exactly under its names. -/
theorem isSome_get?_iff {table : Table α} {name : String} : (table.get? name).isSome = true ↔ name ∈ table.names :=
  Entries.isSome_get?_iff

end Table

end AudioGraph
