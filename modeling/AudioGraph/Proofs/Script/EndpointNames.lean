import AudioGraph.Proofs.Diagnosis.WellFormed
import AudioGraph.Proofs.Script.RoundTrip

/-!
# The names of endpoints

In a document an endpoint is a name: the id of a node, or the name that is reserved for the boundary.  Nothing keeps a
node from having the reserved name for its id, and no check reports it.  This is the one case in which names do not tell
endpoints apart.

* (names) Names tell the known endpoints apart exactly if no node has the reserved name (`name_injOn_iff`).
* (documents) A connection is read as it was written exactly if neither end is a node of the reserved name
  (`Operation.ofJson_connect_iff`).
* (accepted specifications) Where no node has the reserved name, an accepted specification has a script in which this
  name is that of the boundary only (`endpoints_apart_of_accepted`).
-/

namespace AudioGraph

/-! ### Names -/

theorem Endpoint.normal_eq_self_iff {endpoint : Endpoint} :
    endpoint.normal = endpoint ↔ endpoint ≠ .node boundaryName := by
  cases endpoint with
  | boundary => simp [normal]
  | node id =>
    by_cases h : id = boundaryName <;> simp [normal, h]

theorem Endpoint.eq_of_name_eq {a b : Endpoint} (ha : a ≠ .node boundaryName) (hb : b ≠ .node boundaryName)
    (same : a.name = b.name) : a = b := by
  calc a = a.normal := (normal_eq_self_iff.2 ha).symm
    _ = ofName a.name := (ofName_name a).symm
    _ = ofName b.name := congrArg ofName same
    _ = b.normal := ofName_name b
    _ = b := normal_eq_self_iff.2 hb

namespace Specification

variable {spec : Specification}

/-- No node has the name that is reserved for the boundary. -/
def SparesBoundaryName (spec : Specification) : Prop := ∀ node ∈ spec.nodes, node.id ≠ Endpoint.boundaryName

theorem SparesBoundaryName.ne_of_declares (spares : spec.SparesBoundaryName) {endpoint : Endpoint}
    (declared : spec.Declares endpoint) : endpoint ≠ .node Endpoint.boundaryName := by
  rintro rfl
  obtain ⟨node, hn, same⟩ := declared
  exact spares node hn same

/-- Names tell the known endpoints apart exactly if no node has the reserved name. -/
theorem name_injOn_iff :
    (∀ a b, spec.Declares a → spec.Declares b → a.name = b.name → a = b) ↔ spec.SparesBoundaryName := by
  constructor
  · intro apart node hn same
    exact nomatch apart .boundary (.node node.id) trivial ⟨node, hn, rfl⟩ same.symm
  · intro spares a b ha hb
    exact Endpoint.eq_of_name_eq (spares.ne_of_declares ha) (spares.ne_of_declares hb)

end Specification

/-! ### Documents -/

theorem Connection.normal_eq_self_iff {c : Connection} :
    c.normal = c ↔ c.source ≠ .node Endpoint.boundaryName ∧ c.destination ≠ .node Endpoint.boundaryName := by
  obtain ⟨source, sourcePin, destination, destinationPin⟩ := c
  simp [normal, Endpoint.normal_eq_self_iff]

/-- A connection is read as it was written exactly if neither end is a node of the reserved name. -/
theorem Operation.ofJson_connect_iff {c : Connection} :
    ofJson (connect c).toJson = .ok (connect c) ↔
      c.source ≠ .node Endpoint.boundaryName ∧ c.destination ≠ .node Endpoint.boundaryName := by
  have finite : (connect c).FinitePlacement := nofun
  rw [ofJson_toJson finite, Except.ok.injEq, normal, connect.injEq, Connection.normal_eq_self_iff]

namespace Specification

theorem exists_node_of_mem_script {spec : Specification} {target id : String} {op : Operation}
    (hm : op ∈ spec.script target) (places : op.placedNode? = some id) : ∃ node ∈ spec.nodes, node.id = id := by
  have placed := mem_script_iff.1 hm
  rw [Operation.phase_of_placedNode? places] at placed
  obtain ⟨node, hn, rfl⟩ := List.mem_map.1 placed
  exact ⟨node, hn, Option.some.inj (node.placedNode?_placement.symm.trans places)⟩

/-- In an accepted specification names tell endpoints apart exactly if no node has the reserved name.  If none has, its
script places none under the reserved name, and every connection is read as it was written. -/
theorem endpoints_apart_of_accepted {spec : Specification} {catalogue : Catalogue}
    (accepted : spec.validate catalogue = []) :
    ((∀ a b, (PinResolver.new spec catalogue).contains a = true → (PinResolver.new spec catalogue).contains b = true →
        a.name = b.name → a = b) ↔ spec.SparesBoundaryName) ∧
    (spec.SparesBoundaryName → ∀ target,
      (∀ op ∈ spec.script target, op.placedNode? ≠ some Endpoint.boundaryName) ∧
      ∀ c, .connect c ∈ spec.script target → Operation.ofJson (Operation.connect c).toJson = .ok (.connect c)) := by
  refine ⟨?_, fun spares target => ⟨fun op hm places => ?_, fun c hm => ?_⟩⟩
  · simp only [PinResolver.contains_new_iff]
    exact name_injOn_iff
  · obtain ⟨node, hn, same⟩ := exists_node_of_mem_script hm places
    exact spares node hn same
  · -- a connection of an accepted specification has known ends
    obtain ⟨_, hc, ⟨⟩⟩ := List.mem_map.1 (mem_script_iff.1 hm)
    have wellFormed := (validate_eq_nil_iff_wellFormed spec catalogue).1 accepted
    obtain ⟨sourceType, destinationType, gives, takes, -⟩ := wellFormed.connections c hc
    exact Operation.ofJson_connect_iff.2 ⟨spares.ne_of_declares gives.declares, spares.ne_of_declares takes.declares⟩

theorem endpoints_apart_tone :
    tone.validate .builtIn = [] ∧ tone.SparesBoundaryName ∧
    (∀ a b, (PinResolver.new tone .builtIn).contains a = true → (PinResolver.new tone .builtIn).contains b = true →
      a.name = b.name → a = b) ∧
    ∀ c, .connect c ∈ tone.script defaultTarget →
      Operation.ofJson (Operation.connect c).toJson = .ok (.connect c) := by
  have accepted := (validate_eq_nil_iff_wellFormed tone .builtIn).2 wellFormed_tone
  have spares : tone.SparesBoundaryName := by
    unfold SparesBoundaryName
    decide
  obtain ⟨names, documents⟩ := endpoints_apart_of_accepted accepted
  exact ⟨accepted, spares, names.2 spares, (documents spares defaultTarget).2⟩

/-- A sine under the name of the boundary. -/
def masked : Specification :=
  { empty "Masked" "Patch" with
    outputs := [⟨"Out", "Audio"⟩]
    nodes := [.ofKind Endpoint.boundaryName (.external "Sine")]
    connections := [⟨.node Endpoint.boundaryName, "Audio", .boundary, "Out"⟩] }

/-- The sine is accepted, although its name is that of the boundary, for which it is taken where its connection is
read. -/
theorem endpoints_mistaken_masked :
    masked.validate .builtIn = [] ∧
    (∃ a b, (PinResolver.new masked .builtIn).contains a = true ∧ (PinResolver.new masked .builtIn).contains b = true ∧
      a.name = b.name ∧ a ≠ b) ∧
    (.placeNode Endpoint.boundaryName "Sine" none ∈ masked.script defaultTarget) ∧
    .connect ⟨.node Endpoint.boundaryName, "Audio", .boundary, "Out"⟩ ∈ masked.script defaultTarget ∧
    Operation.ofJson (Operation.connect ⟨.node Endpoint.boundaryName, "Audio", .boundary, "Out"⟩).toJson =
      .ok (.connect ⟨.boundary, "Audio", .boundary, "Out"⟩) := by
  have ids : (masked.nodes.map Node.id).Nodup := by decide
  have wired : ∀ c ∈ masked.connections, masked.Wired .builtIn c := by
    refine List.forall_mem_singleton.2 (wired_of_resolved ids "Audio" "Audio" ?_ (by decide) (by decide +kernel))
    rw [PinResolver.outputType?_node]
    decide +kernel
  have accepted := (validate_eq_nil_iff_wellFormed masked .builtIn).2 (wellFormed_of_wired wired (by decide +kernel))
  have known : (PinResolver.new masked .builtIn).contains (.node Endpoint.boundaryName) = true :=
    PinResolver.contains_new_iff.2 ⟨_, List.mem_singleton_self _, rfl⟩
  exact ⟨accepted, ⟨.boundary, .node Endpoint.boundaryName, rfl, known, rfl, nofun⟩, by decide, by decide, by decide⟩

end Specification

end AudioGraph
