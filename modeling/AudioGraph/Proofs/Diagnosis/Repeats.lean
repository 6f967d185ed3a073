import Mathlib.Data.Finset.Card
import AudioGraph.Proofs.Diagnosis.Order

/-!
# How often a name is reported as repeated

Of the declarations of a name all but the first are reported, each once and where it stands.  So the reports count the
declarations: there is one less for a name than there are declarations of it, and all in all there are as many as there
are declarations more than names.

* (lists) The elements behind another one of their name (`repeats`) are those that a scan marks
  (`filter_markRepeats`).  How many there are is known element by element, from the front to the end of the list
  (`repeats_concat`): for each name (`countP_repeats`) and for all names together (`length_repeats`).
* (reports) What a check reports of repeats is what the scan marks, whatever else it reports on the way
  (`filter_flatMap_markRepeats`).
-/

namespace AudioGraph

open Violation (ifNot flatMap_ifNot)

universe u

/-! ### Lists -/

section Lists

variable {α : Type u}

/-- The elements that stand behind another one of their name, in their order. -/
def repeats (name : α → String) (xs : List α) : List α :=
  (xs.zipIdx.filter fun p => (xs.take p.2).any fun y => name y == name p.1).map (·.1)

/-- At the end, an element stands behind another one of its name exactly if the name is there. -/
theorem repeats_concat (name : α → String) (xs : List α) (x : α) :
    repeats name (xs ++ [x]) = repeats name xs ++ if name x ∈ xs.map name then [x] else [] := by
  have front : ∀ p ∈ xs.zipIdx, ((xs ++ [x]).take p.2).any (fun y => name y == name p.1) =
      (xs.take p.2).any fun y => name y == name p.1 := by
    intro p hp
    rw [List.take_append_of_le_length (Nat.le_of_lt (List.snd_lt_of_mem_zipIdx hp))]
  have last : (xs.any fun y => name y == name x) = decide (name x ∈ xs.map name) := by
    rw [Bool.eq_iff_iff, decide_eq_true_iff, List.any_eq_true, List.mem_map]
    simp only [beq_iff_eq]
  rw [repeats, repeats, List.zipIdx_append, List.filter_append, List.filter_congr front, List.map_append]
  refine congrArg _ ?_
  rw [List.zipIdx_singleton, List.filter_cons, List.filter_nil, Nat.zero_add, List.take_left, last]
  by_cases h : name x ∈ xs.map name
  · simp only [h, decide_true, if_true, List.map_cons, List.map_nil]
  · simp only [h, decide_false, Bool.false_eq_true, if_false, List.map_nil]

/-- A scan marks the elements that stand behind another one of their name. -/
theorem filter_markRepeats (name : α → String) (xs : List α) :
    ((markRepeats name xs).filter (·.2)).map (·.1) = repeats name xs := by
  -- the scan has seen the names of what it has passed
  induction xs using List.reverseRecOn with
  | nil => rfl
  | append_singleton xs x ih =>
    rw [markRepeats_concat, repeats_concat, List.filter_append, List.map_append, ih]
    refine congrArg _ ?_
    by_cases h : name x ∈ xs.map name
    · simp [h]
    · simp [h]

/-- For a name there are as many repeats as there are elements of it behind the first. -/
theorem countP_repeats (name : α → String) (xs : List α) (key : String) :
    (repeats name xs).countP (fun x => name x == key) = (xs.map name).count key - 1 := by
  induction xs using List.reverseRecOn with
  | nil => rfl
  | append_singleton xs x ih =>
    rw [repeats_concat, List.countP_append, ih, List.map_append, List.count_append, List.map_singleton,
      List.count_singleton]
    by_cases there : name x ∈ xs.map name
    · rw [if_pos there, List.countP_singleton]
      by_cases same : name x = key
      · have some_there : 0 < (xs.map name).count key := List.count_pos_iff.2 (same ▸ there)
        simp only [same, beq_self_eq_true, if_true]
        omega
      · simp [same]
    · rw [if_neg there, List.countP_nil]
      by_cases same : name x = key
      · have none_there : (xs.map name).count key = 0 := List.count_eq_zero.2 (same ▸ there)
        simp [same, none_there]
      · simp [same]

/-- There are as many repeats as there are more elements than names. -/
theorem length_repeats (name : α → String) (xs : List α) :
    (repeats name xs).length + (xs.map name).toFinset.card = xs.length := by
  induction xs using List.reverseRecOn with
  | nil => rfl
  | append_singleton xs x ih =>
    have names : ((xs ++ [x]).map name).toFinset = insert (name x) (xs.map name).toFinset := by
      ext key
      simp
    rw [repeats_concat, names, List.length_append, List.length_append, List.length_singleton]
    by_cases there : name x ∈ xs.map name
    · rw [if_pos there, Finset.insert_eq_of_mem (List.mem_toFinset.2 there), List.length_singleton]
      omega
    · rw [if_neg there, Finset.card_insert_of_notMem (mt List.mem_toFinset.1 there), List.length_nil]
      omega

end Lists

/-! ### Reports -/

/-- The reports of repeated names: one for each element behind another one of its name, in the order of the elements.
So for each name there is one less than there are elements of it, and there is none for a name without elements; and
all together are as many as there are more elements than names. -/
structure CountsRepeats {α : Type u} (name : α → String) (xs : List α) (report : String → Diagnostic)
    (about : String → Diagnostic → Bool) (reports : List Diagnostic) : Prop where
  behind : reports = (repeats name xs).map fun x => report (name x)
  declared : ∀ key ∈ xs.map name, reports.countP (about key) + 1 = (xs.map name).count key
  undeclared : ∀ key, key ∉ xs.map name → reports.countP (about key) = 0
  total : reports.length + (xs.map name).toFinset.card = xs.length

theorem countsRepeats_map_repeats {α : Type u} (name : α → String) (xs : List α) {report : String → Diagnostic}
    {about : String → Diagnostic → Bool} (tells : ∀ key other, about key (report other) = (other == key)) :
    CountsRepeats name xs report about ((repeats name xs).map fun x => report (name x)) := by
  have counted (key : String) : ((repeats name xs).map fun x => report (name x)).countP (about key) =
      (xs.map name).count key - 1 := by
    rw [List.countP_map, ← countP_repeats]
    exact List.countP_congr fun x _ => by rw [Function.comp_apply, tells]
  refine ⟨rfl, fun key there => ?_, fun key absent => ?_, ?_⟩
  · have some_there : 0 < (xs.map name).count key := List.count_pos_iff.2 there
    rw [counted]
    omega
  · rw [counted, List.count_eq_zero.2 absent]
  · rw [List.length_map, length_repeats]

/-- What a check reports of repeats is what the scan marks, whatever else it reports of the elements. -/
theorem filter_flatMap_markRepeats {α : Type} (name : α → String) (xs : List α) {selects : Violation → Bool}
    (report : α → Violation) (others : α → List Violation) (selected : ∀ x, selects (report x) = true)
    (skipped : ∀ x, ∀ v ∈ others x, selects v = false) :
    ((markRepeats name xs).flatMap fun m => ifNot (!m.2) (report m.1) ++ others m.1).filter selects =
      (repeats name xs).map report := by
  have one (m : α × Bool) : (ifNot (!m.2) (report m.1) ++ others m.1).filter selects =
      ifNot (!m.2) (report m.1) := by
    have none : (others m.1).filter selects = [] := List.filter_eq_nil_iff.2 (by simpa using skipped m.1)
    rw [List.filter_append, none, List.append_nil]
    cases m.2 <;> simp [ifNot, selected]
  rw [List.filter_flatMap, ← filter_markRepeats, List.map_map]
  simp only [one, flatMap_ifNot, Bool.not_not]
  rfl

theorem Violation.toDiagnostic_duplicateNode (id : String) :
    (duplicateNode id).toDiagnostic =
      ⟨"V005", .validate, .structural, "Duplicate node ID: '" ++ id ++ "'", some id⟩ := by
  have wording : (duplicateNode id).message = "Duplicate node ID: " ++ ("'" ++ id ++ "'") := rfl
  rw [toDiagnostic, wording, ← String.append_assoc, ← String.append_assoc]
  rfl

theorem Violation.toDiagnostic_duplicateVariable (name : String) :
    (duplicateVariable name).toDiagnostic =
      ⟨"V003", .validate, .structural, "Duplicate variable name: '" ++ name ++ "'", none⟩ := by
  have wording : (duplicateVariable name).message = "Duplicate variable name: " ++ ("'" ++ name ++ "'") := rfl
  rw [toDiagnostic, wording, ← String.append_assoc, ← String.append_assoc]
  rfl

namespace Specification

variable (spec : Specification) (catalogue : Catalogue)

/-- The diagnostics of a code are those of the violations of the code. -/
theorem filter_code_validate (code : String) :
    (spec.validate catalogue).filter (fun d => d.code == code) =
      ((spec.violations catalogue).filter fun v => v.code == code).map Violation.toDiagnostic := by
  rw [validate, List.filter_map]
  rfl

theorem duplicateNodes_eq_repeats :
    (spec.violations catalogue).filter (fun v => v.code == "V005") =
      (repeats Node.id spec.nodes).map fun node => .duplicateNode node.id := by
  have staged : ∀ v : Violation, (v.code == "V005") = true → v.stage = 3 := by
    intro v
    cases v <;> simp [Violation.code, Violation.stage]
  rw [filter_violations_of_stage (by decide) staged]
  refine filter_flatMap_markRepeats Node.id spec.nodes (fun node => .duplicateNode node.id)
    (spec.nodeKindViolations catalogue) ?_ ?_
  · intro node
    rfl
  · intro node v hv
    rw [nodeKindViolations_eq] at hv
    split at hv
    · cases hv
    · rw [List.mem_singleton.1 hv, Node.unknown]
      cases node.kind <;> rfl

theorem duplicateVariables_eq_repeats :
    (spec.violations catalogue).filter (fun v => v.code == "V003") =
      (repeats Variable.name spec.vars).map fun v => .duplicateVariable v.name := by
  have staged : ∀ v : Violation, (v.code == "V003") = true → v.stage = 2 := by
    intro v
    cases v <;> simp [Violation.code, Violation.stage]
  rw [filter_violations_of_stage (by decide) staged]
  refine filter_flatMap_markRepeats Variable.name spec.vars (fun v => .duplicateVariable v.name)
    (fun v => ifNot (catalogue.isPinType v.pinType) (.unknownVariableType v.name v.pinType)) ?_ ?_
  · intro v
    rfl
  · intro v w hw
    rw [(Violation.mem_ifNot.1 hw).2]
    rfl

/-- Repeated ids of nodes and repeated names of variables are reported once for each declaration behind the first, and
nothing else is reported under their codes. -/
theorem repeats_reported :
    CountsRepeats Node.id spec.nodes
      (fun id => ⟨"V005", .validate, .structural, "Duplicate node ID: '" ++ id ++ "'", some id⟩)
      (fun id d => d.node == some id)
      ((spec.validate catalogue).filter fun d => d.code == "V005") ∧
    CountsRepeats Variable.name spec.vars
      (fun name => ⟨"V003", .validate, .structural, "Duplicate variable name: '" ++ name ++ "'", none⟩)
      (fun name d => d.message == "Duplicate variable name: '" ++ name ++ "'")
      ((spec.validate catalogue).filter fun d => d.code == "V003") := by
  constructor
  · rw [filter_code_validate, duplicateNodes_eq_repeats, List.map_map]
    simp only [Function.comp_def, Violation.toDiagnostic_duplicateNode]
    exact countsRepeats_map_repeats Node.id spec.nodes fun key other => by simp
  · rw [filter_code_validate, duplicateVariables_eq_repeats, List.map_map]
    simp only [Function.comp_def, Violation.toDiagnostic_duplicateVariable]
    exact countsRepeats_map_repeats Variable.name spec.vars fun key other => by simp

end Specification

end AudioGraph
