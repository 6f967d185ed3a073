import AudioGraph.Report
import AudioGraph.Proofs.Diagnosis.Order

/-!
# What the code of a diagnostic stands for

Sixteen codes tell what is wrong with a specification (`codeTable`).  A code stands for a category, for the stage in
which it is reported, and for what the node of the diagnostic is: there is none, or it is the node at fault, or it is
the node at one end of a connection, if there is a node at that end.

* (table) Every violation is of an entry of the table, and its code tells which one (`entry_mem_codeTable`,
  `eq_entry_of_code`).
* (nodes) Where a diagnostic names a node, it is a node of the specification (`exists_node_of_mem_violations`).  For the
  pins of connections this is so since they are looked at between known ends only (`mem_connectionViolations_cases`).
* (reports) From this it follows what the report of a specification can be relied on for (`SoundReport`).
-/

namespace AudioGraph

/-- What the node of a diagnostic is. -/
inductive Subject where
  /-- There is no node. -/
  | nothing
  /-- The node at fault. -/
  | node
  /-- The node at which a connection starts, if it starts at a node. -/
  | source
  /-- The node at which a connection ends, if it ends at a node. -/
  | destination
  deriving DecidableEq

/-- A code and what it stands for. -/
structure CodeEntry where
  code : String
  stage : Nat
  kind : ProblemKind
  subject : Subject
  deriving DecidableEq

/-- The codes of all that can be wrong with a specification. -/
def codeTable : List CodeEntry :=
  [⟨"V001", 0, .catalogueLookup, .nothing⟩, ⟨"V002", 1, .catalogueLookup, .nothing⟩,
    ⟨"V003", 2, .structural, .nothing⟩, ⟨"V004", 2, .catalogueLookup, .nothing⟩,
    ⟨"V005", 3, .structural, .node⟩, ⟨"V006", 3, .structural, .node⟩, ⟨"V007", 3, .catalogueLookup, .node⟩,
    ⟨"V008", 4, .structural, .nothing⟩, ⟨"V009", 4, .structural, .nothing⟩,
    ⟨"V010", 4, .pinResolution, .source⟩, ⟨"V011", 4, .pinResolution, .destination⟩,
    ⟨"V012", 4, .type, .destination⟩, ⟨"V013", 5, .completeness, .node⟩, ⟨"V014", 6, .completeness, .node⟩,
    ⟨"V015", 7, .completeness, .nothing⟩, ⟨"V016", 7, .completeness, .nothing⟩]

theorem nodup_codes : (codeTable.map CodeEntry.code).Nodup := by
  decide

/-! ### Single violations -/

namespace Violation

/-- What the node of a violation is. -/
def subject : Violation → Subject
  | duplicateNode _ | undeclaredVariable .. | unknownNodeType .. | unknownDefault .. | unfedInput .. => .node
  | unknownOutput .. => .source
  | unknownInput .. | typeMismatch .. => .destination
  | unknownAssetType .. | unknownInterface .. | duplicateVariable _ | unknownVariableType .. | danglingSource _
  | danglingDestination _ | missingInput .. | missingOutput .. => .nothing

/-- The entry of the table that a violation is of. -/
def entry (v : Violation) : CodeEntry := ⟨v.code, v.stage, v.kind, v.subject⟩

theorem entry_mem_codeTable (v : Violation) : v.entry ∈ codeTable := by
  cases v <;> simp [entry, codeTable, code, stage, kind, subject]

theorem eq_entry_of_code {v : Violation} {x : CodeEntry} (hx : x ∈ codeTable) (same : x.code = v.code) :
    x = v.entry :=
  List.inj_on_of_nodup_map nodup_codes hx v.entry_mem_codeTable same

theorem entry_eq_of_code_eq {v w : Violation} (same : v.code = w.code) : v.entry = w.entry :=
  eq_entry_of_code v.entry_mem_codeTable same

/-- The ends of connections are looked at in one stage. -/
theorem stage_of_subject_end {v : Violation} (h : v.subject = .source ∨ v.subject = .destination) : v.stage = 4 := by
  rcases h with h | h <;> cases v <;> first | rfl | cases h

theorem node?_of_subject_nothing {v : Violation} (h : v.subject = .nothing) : v.node? = none := by
  cases v <;> first | rfl | cases h

theorem node?_of_subject_node {v : Violation} (h : v.subject = .node) : ∃ id, v.node? = some id := by
  cases v <;> first | exact ⟨_, rfl⟩ | cases h

end Violation

open Violation (mem_ifNot)

/-! ### Connections -/

namespace PinResolver

variable {pins : PinResolver} {c : Connection} {v : Violation}

/-- What may be reported of a connection: an unknown end, or, between known ends, an unknown pin or two types that do
not go together. -/
theorem mem_connectionViolations_cases (h : v ∈ pins.connectionViolations c) :
    v = .danglingSource c.source ∨ v = .danglingDestination c.destination ∨
      pins.containsBoth c = true ∧
        (v = .unknownOutput c.source c.sourcePin ∨ v = .unknownInput c.destination c.destinationPin ∨
          ∃ sourceType destinationType targets, v = .typeMismatch c sourceType destinationType targets) := by
  unfold connectionViolations at h
  split at h
  · next known =>
    refine .inr (.inr ⟨known, ?_⟩)
    split at h
    · exact .inr (.inr ⟨_, _, _, (mem_ifNot.1 h).2⟩)
    · rcases List.mem_append.1 h with h | h
      · exact .inl (mem_ifNot.1 h).2
      · exact .inr (.inl (mem_ifNot.1 h).2)
  · rcases List.mem_append.1 h with h | h
    · exact .inl (mem_ifNot.1 h).2
    · exact .inr (.inl (mem_ifNot.1 h).2)

theorem node?_of_subject_source (h : v ∈ pins.connectionViolations c) (subject : v.subject = .source) :
    v.node? = c.source.nodeId? := by
  rcases mem_connectionViolations_cases h with rfl | rfl | ⟨-, rfl | rfl | ⟨s, d, targets, rfl⟩⟩
  case inr.inr.inl => rfl
  all_goals cases subject

theorem node?_of_subject_destination (h : v ∈ pins.connectionViolations c) (subject : v.subject = .destination) :
    v.node? = c.destination.nodeId? := by
  rcases mem_connectionViolations_cases h with rfl | rfl | ⟨-, rfl | rfl | ⟨s, d, targets, rfl⟩⟩
  case inr.inr.inr.inl => rfl
  case inr.inr.inr.inr => rfl
  all_goals cases subject

/-- A connection is reported with the node at one of its ends only if both its ends are known. -/
theorem contains_of_mem_connectionViolations (h : v ∈ pins.connectionViolations c) {id : String}
    (named : v.node? = some id) : pins.contains (.node id) = true := by
  have source : c.source.nodeId? = some id → c.source = .node id := by
    cases c.source <;> simp [Endpoint.nodeId?]
  have destination : c.destination.nodeId? = some id → c.destination = .node id := by
    cases c.destination <;> simp [Endpoint.nodeId?]
  rcases mem_connectionViolations_cases h with rfl | rfl | ⟨known, rfl | rfl | ⟨s, d, targets, rfl⟩⟩
  · cases named
  · cases named
  · exact source named ▸ (containsBoth_iff.1 known).1
  · exact destination named ▸ (containsBoth_iff.1 known).2
  · exact destination named ▸ (containsBoth_iff.1 known).2

end PinResolver

/-! ### Nodes -/

namespace Node

variable {node : Node} {catalogue : Catalogue} {fed : String → Bool} {v : Violation}

theorem node?_unknown (node : Node) : node.unknown.node? = some node.id := by
  unfold unknown
  cases node.kind <;> rfl

theorem node?_of_mem_unknownDefaults (h : v ∈ node.unknownDefaults catalogue) : v.node? = some node.id := by
  unfold unknownDefaults at h
  split at h
  · cases h
  · obtain ⟨pin, -, rfl⟩ := List.mem_map.1 h
    rfl

theorem node?_of_mem_unfedInputs (h : v ∈ node.unfedInputs catalogue fed) : v.node? = some node.id := by
  unfold unfedInputs at h
  split at h
  · cases h
  · obtain ⟨pin, -, rfl⟩ := List.mem_map.1 h
    rfl

end Node

namespace Specification

variable {spec : Specification} {catalogue : Catalogue} {v : Violation}

theorem exists_node_of_mem_nodeViolations (h : v ∈ spec.nodeViolations catalogue) :
    ∃ node ∈ spec.nodes, v.node? = some node.id := by
  obtain ⟨m, hm, h⟩ := List.mem_flatMap.1 h
  have there : m.1 ∈ spec.nodes := by
    rw [← map_fst_markRepeatsFrom Node.id [] spec.nodes]
    exact List.mem_map_of_mem hm
  refine ⟨m.1, there, ?_⟩
  rcases List.mem_append.1 h with h | h
  · rw [(mem_ifNot.1 h).2]
    rfl
  · rw [nodeKindViolations_eq] at h
    split at h
    · cases h
    · rw [List.mem_singleton.1 h, Node.node?_unknown]

/-- A node that is named in a diagnosis is a node of the specification. -/
theorem exists_node_of_mem_violations (h : v ∈ spec.violations catalogue) {id : String} (named : v.node? = some id) :
    ∃ node ∈ spec.nodes, node.id = id := by
  have of_node : (∃ node ∈ spec.nodes, v.node? = some node.id) → ∃ node ∈ spec.nodes, node.id = id := by
    rintro ⟨node, hn, same⟩
    exact ⟨node, hn, Option.some.inj (same.symm.trans named)⟩
  have staged := spec.mem_stageViolations_of_mem catalogue h
  cases v with
  | duplicateNode _ | undeclaredVariable _ _ | unknownNodeType _ _ =>
    exact of_node (exists_node_of_mem_nodeViolations staged)
  | unknownOutput _ _ | unknownInput _ _ | typeMismatch _ _ _ _ =>
    obtain ⟨c, -, reported⟩ := List.mem_flatMap.1 staged
    exact PinResolver.contains_new_iff.1 (PinResolver.contains_of_mem_connectionViolations reported named)
  | unknownDefault _ _ _ =>
    rw [Violation.stage, stageViolations_five_eq_flatMap] at staged
    obtain ⟨node, hn, reported⟩ := List.mem_flatMap.1 staged
    exact of_node ⟨node, hn, Node.node?_of_mem_unknownDefaults reported⟩
  | unfedInput _ _ _ =>
    rw [Violation.stage, stageViolations_six_eq_flatMap] at staged
    obtain ⟨node, hn, reported⟩ := List.mem_flatMap.1 staged
    exact of_node ⟨node, hn, Node.node?_of_mem_unfedInputs reported⟩
  | unknownAssetType _ _ | unknownInterface _ _ | duplicateVariable _ | unknownVariableType _ _ | danglingSource _
  | danglingDestination _ | missingInput _ _ | missingOutput _ _ => cases named

/-! ### Whole diagnoses -/

section

variable (spec : Specification) (catalogue : Catalogue)

/-- The diagnostics of a single connection. -/
def connectionReports (c : Connection) : List Diagnostic :=
  ((PinResolver.new spec catalogue).connectionViolations c).map Violation.toDiagnostic

/-- A diagnostic is reported of a connection, and it names the node at the given end of each connection of which it is
reported, if there is a node. -/
def NamesEnd (side : Connection → Endpoint) (d : Diagnostic) : Prop :=
  (∃ c ∈ spec.connections, d ∈ spec.connectionReports catalogue c) ∧
    ∀ c ∈ spec.connections, d ∈ spec.connectionReports catalogue c → d.node = (side c).nodeId?

/-- The node of a diagnostic is what its code stands for. -/
def Names (d : Diagnostic) : Subject → Prop
  | .nothing => d.node = none
  | .node => ∃ id, d.node = some id
  | .source => spec.NamesEnd catalogue Connection.source d
  | .destination => spec.NamesEnd catalogue Connection.destination d

/-- What can be relied on in the report of a specification. -/
structure SoundReport (report : List Diagnostic) : Prop where
  phase : ∀ d ∈ report, d.phase = .validate
  /-- The category and the node are those that the code stands for. -/
  listed : ∀ d ∈ report, ∃ x ∈ codeTable, d.code = x.code ∧ d.kind = x.kind ∧ spec.Names catalogue d x.subject
  declared : ∀ d ∈ report, ∀ id, d.node = some id → ∃ node ∈ spec.nodes, node.id = id
  /-- The stages that the codes stand for come in turn. -/
  ordered : report.Pairwise fun d e =>
    ∀ x ∈ codeTable, ∀ y ∈ codeTable, x.code = d.code → y.code = e.code → x.stage ≤ y.stage
  /-- There is one asset type only. -/
  once : (report.filter fun d => d.code == "V001").length ≤ 1

variable {spec catalogue}

theorem namesEnd_toDiagnostic {side : Connection → Endpoint} {subject : Subject}
    (node?_of_subject : ∀ {c : Connection} {w : Violation},
      w ∈ (PinResolver.new spec catalogue).connectionViolations c → w.subject = subject →
        w.node? = (side c).nodeId?)
    (h : v ∈ spec.stageViolations catalogue 4) (hv : v.subject = subject) :
    spec.NamesEnd catalogue side v.toDiagnostic := by
  constructor
  · obtain ⟨c, hc, reported⟩ := List.mem_flatMap.1 h
    exact ⟨c, hc, List.mem_map_of_mem reported⟩
  · -- the diagnostic does not tell which violation it stands for, but it has the code and the node of any of them
    intro c _ reported
    obtain ⟨w, hw, same⟩ := List.mem_map.1 reported
    have same_code : w.code = v.code := congrArg Diagnostic.code same
    have same_node : w.node? = v.node? := congrArg Diagnostic.node same
    have hs : w.subject = subject := (congrArg CodeEntry.subject (Violation.entry_eq_of_code_eq same_code)).trans hv
    exact same_node.symm.trans (node?_of_subject hw hs)

theorem names_toDiagnostic (h : v ∈ spec.violations catalogue) : spec.Names catalogue v.toDiagnostic v.subject := by
  have staged := spec.mem_stageViolations_of_mem catalogue h
  cases subject : v.subject with
  | nothing => exact Violation.node?_of_subject_nothing subject
  | node => exact Violation.node?_of_subject_node subject
  | source =>
    rw [Violation.stage_of_subject_end (.inl subject)] at staged
    exact namesEnd_toDiagnostic PinResolver.node?_of_subject_source staged subject
  | destination =>
    rw [Violation.stage_of_subject_end (.inr subject)] at staged
    exact namesEnd_toDiagnostic PinResolver.node?_of_subject_destination staged subject

theorem length_assetTypeViolations_le (spec : Specification) (catalogue : Catalogue) :
    (spec.assetTypeViolations catalogue).length ≤ 1 := by
  rw [assetTypeViolations, Violation.ifNot]
  split <;> simp

theorem soundReport_validate (spec : Specification) (catalogue : Catalogue) :
    spec.SoundReport catalogue (spec.validate catalogue) where
  phase d hd := by
    obtain ⟨v, -, rfl⟩ := List.mem_map.1 hd
    rfl
  listed d hd := by
    obtain ⟨v, hv, rfl⟩ := List.mem_map.1 hd
    exact ⟨v.entry, v.entry_mem_codeTable, rfl, rfl, names_toDiagnostic hv⟩
  declared d hd id named := by
    obtain ⟨v, hv, rfl⟩ := List.mem_map.1 hd
    exact exists_node_of_mem_violations hv named
  ordered := by
    refine List.pairwise_map.2 ((spec.pairwise_stage_violations catalogue).imp ?_)
    intro v w hle x hx y hy hxv hyw
    rw [Violation.eq_entry_of_code hx hxv, Violation.eq_entry_of_code hy hyw]
    exact hle
  once := by
    have first_stage (v : Violation) : (v.toDiagnostic.code == "V001") = (v.stage == 0) := by
      cases v <;> rfl
    have first : (spec.violations catalogue).filter (fun v => v.stage == 0) = spec.assetTypeViolations catalogue := by
      rw [spec.filter_stage_violations catalogue (· == 0)]
      exact List.flatMap_singleton ..
    rw [validate, List.filter_map, List.length_map]
    simp only [Function.comp_def, first_stage, first]
    exact spec.length_assetTypeViolations_le catalogue

end

/-- The text of a specification is diagnosed as the specification that it stands for is, and the report is sound for it,
or else the text is not read, and the only report is that of the reader, which is about no node. -/
theorem validateText_soundReport (catalogue : Catalogue) :
    (∀ spec : Specification, spec.SoundReport catalogue (spec.validate catalogue)) ∧
      ∀ text,
        (∃ spec, Specification.ofText text = .ok spec ∧ validateText text catalogue = spec.validate catalogue) ∨
          ∃ d, validateText text catalogue = [d] ∧ d.phase = .parse ∧ d.node = none := by
  refine ⟨fun spec => spec.soundReport_validate catalogue, fun text => ?_⟩
  unfold validateText
  cases read : Specification.ofText text with
  | ok spec => exact .inl ⟨spec, rfl, rfl⟩
  | error e => exact .inr ⟨e.toDiagnostic, rfl, by cases e <;> rfl, by cases e <;> rfl⟩

end Specification

end AudioGraph
