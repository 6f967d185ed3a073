import AudioGraph.Proofs.Catalogue.Reordering

/-!
# What keeps a catalogue from being loaded

A catalogue is loaded exactly if it declares every pin type that it mentions: the sources and the targets of its
compatibility table, and the types of the inputs and outputs of its node types and of its interfaces.  The places are
looked through until the first one that is at fault, and the tables have no order of their own, so that of several
places at fault any one may be reported.

* (mentions) The places that are looked through are those where a pin type is mentioned (`mentions_iff`).
* (loading) In whichever order the tables are gone through, the same catalogues are loaded, and what is reported is
  at fault (`ofText_in_any_order`).
-/

namespace AudioGraph

namespace Catalogue

variable {catalogue : Catalogue}

/-! ### Mentions -/

/-- A catalogue mentions a pin type at a place, which is given as messages call it. -/
inductive Mentions (catalogue : Catalogue) : String → String → Prop where
  | source {source : String} {targets : NameSet} : catalogue.compatibility.get? source = some targets →
      Mentions catalogue ("compatibility entry '" ++ source ++ "'") source
  | target {source target : String} {targets : NameSet} : catalogue.compatibility.get? source = some targets →
      target ∈ targets → Mentions catalogue ("compatibility entry '" ++ source ++ "'") target
  | nodeInput {nodeType : String} {signature : NodeSignature} {pin : InputPin} :
      catalogue.nodeType? nodeType = some signature → pin ∈ signature.inputs →
        Mentions catalogue ("node type '" ++ nodeType ++ "' input '" ++ pin.name ++ "'") pin.pinType
  | nodeOutput {nodeType : String} {signature : NodeSignature} {pin : Pin} :
      catalogue.nodeType? nodeType = some signature → pin ∈ signature.outputs →
        Mentions catalogue ("node type '" ++ nodeType ++ "' output '" ++ pin.name ++ "'") pin.pinType
  | interfaceInput {name : String} {i : Interface} {pin : Pin} : catalogue.interface? name = some i →
      pin ∈ i.inputs → Mentions catalogue ("interface '" ++ name ++ "' input '" ++ pin.name ++ "'") pin.pinType
  | interfaceOutput {name : String} {i : Interface} {pin : Pin} : catalogue.interface? name = some i →
      pin ∈ i.outputs → Mentions catalogue ("interface '" ++ name ++ "' output '" ++ pin.name ++ "'") pin.pinType

theorem mem_rowPlaces_iff {p : PinTypePlace × String} {source : String} {targets : NameSet} :
    p ∈ rowPlaces source targets ↔ ∃ pinType, (pinType = source ∨ pinType ∈ targets) ∧
      p = (.compatibility source, pinType) := by
  simp only [rowPlaces, List.mem_map, List.mem_cons, eq_comm, NameSet.mem_def]

theorem mem_signaturePlaces_iff {p : PinTypePlace × String} {nodeType : String} {signature : NodeSignature} :
    p ∈ signaturePlaces nodeType signature ↔
      (∃ pin ∈ signature.inputs, p = (.nodeInput nodeType pin.name, pin.pinType)) ∨
      ∃ pin ∈ signature.outputs, p = (.nodeOutput nodeType pin.name, pin.pinType) := by
  simp only [signaturePlaces, List.mem_append, List.mem_map, eq_comm]

theorem mem_interfacePlaces_iff {p : PinTypePlace × String} {name : String} {i : Interface} :
    p ∈ interfacePlaces name i ↔
      (∃ pin ∈ i.inputs, p = (.interfaceInput name pin.name, pin.pinType)) ∨
      ∃ pin ∈ i.outputs, p = (.interfaceOutput name pin.name, pin.pinType) := by
  simp only [interfacePlaces, List.mem_append, List.mem_map, eq_comm]

/-- The places of a catalogue are those of the rows of its three tables. -/
theorem mem_places_iff {p : PinTypePlace × String} :
    p ∈ catalogue.places ↔
      (∃ source targets, catalogue.compatibility.get? source = some targets ∧ p ∈ rowPlaces source targets) ∨
      (∃ nodeType signature, catalogue.nodeType? nodeType = some signature ∧ p ∈ signaturePlaces nodeType signature) ∨
      ∃ name i, catalogue.interface? name = some i ∧ p ∈ interfacePlaces name i := by
  simp only [places, List.mem_append, List.mem_flatMap, Prod.exists, nodeType?, interface?, Table.get?_eq_some_iff,
    or_assoc]

/-- A pin type is mentioned exactly at the places of the catalogue. -/
theorem mentions_iff {location pinType : String} :
    catalogue.Mentions location pinType ↔
      ∃ place, (place, pinType) ∈ catalogue.places ∧ place.message = location := by
  constructor
  · intro mentioned
    cases mentioned with
    | source row =>
      exact ⟨_, mem_places_iff.2 (.inl ⟨_, _, row, mem_rowPlaces_iff.2 ⟨_, .inl rfl, rfl⟩⟩), rfl⟩
    | target row hm =>
      exact ⟨_, mem_places_iff.2 (.inl ⟨_, _, row, mem_rowPlaces_iff.2 ⟨_, .inr hm, rfl⟩⟩), rfl⟩
    | nodeInput row hm =>
      exact ⟨_, mem_places_iff.2 (.inr (.inl ⟨_, _, row, mem_signaturePlaces_iff.2 (.inl ⟨_, hm, rfl⟩)⟩)), rfl⟩
    | nodeOutput row hm =>
      exact ⟨_, mem_places_iff.2 (.inr (.inl ⟨_, _, row, mem_signaturePlaces_iff.2 (.inr ⟨_, hm, rfl⟩)⟩)), rfl⟩
    | interfaceInput row hm =>
      exact ⟨_, mem_places_iff.2 (.inr (.inr ⟨_, _, row, mem_interfacePlaces_iff.2 (.inl ⟨_, hm, rfl⟩)⟩)), rfl⟩
    | interfaceOutput row hm =>
      exact ⟨_, mem_places_iff.2 (.inr (.inr ⟨_, _, row, mem_interfacePlaces_iff.2 (.inr ⟨_, hm, rfl⟩)⟩)), rfl⟩
  · rintro ⟨place, hp, rfl⟩
    rcases mem_places_iff.1 hp with ⟨source, targets, row, hp⟩ | ⟨nodeType, signature, row, hp⟩ | ⟨name, i, row, hp⟩
    · obtain ⟨_, rfl | hm, same⟩ := mem_rowPlaces_iff.1 hp
      · cases same
        exact .source row
      · cases same
        exact .target row hm
    · rcases mem_signaturePlaces_iff.1 hp with ⟨pin, hm, same⟩ | ⟨pin, hm, same⟩
      · cases same
        exact .nodeInput row hm
      · cases same
        exact .nodeOutput row hm
    · rcases mem_interfacePlaces_iff.1 hp with ⟨pin, hm, same⟩ | ⟨pin, hm, same⟩
      · cases same
        exact .interfaceInput row hm
      · cases same
        exact .interfaceOutput row hm

/-! ### Loading -/

/-- What is refused is refused for a place that names an undeclared pin type. -/
theorem undeclared_of_requireClosed {e : LoadError} (refused : catalogue.requireClosed = .error e) :
    ∃ place pinType, e = .undeclaredPinType place pinType ∧ (place, pinType) ∈ catalogue.places ∧
      pinType ∉ catalogue.pinTypes := by
  unfold requireClosed at refused
  split at refused
  · cases refused
  · next place pinType found =>
    cases refused
    have undeclared := List.find?_some found
    refine ⟨place, pinType, rfl, List.mem_of_find?_eq_some found, ?_⟩
    simpa [isPinType] using undeclared

theorem closed_iff_mentions :
    catalogue.Closed ↔ ∀ location pinType, catalogue.Mentions location pinType → pinType ∈ catalogue.pinTypes := by
  constructor
  · intro closed location pinType mentioned
    obtain ⟨place, hp, -⟩ := mentions_iff.1 mentioned
    exact closed _ hp
  · intro declared p hp
    exact declared _ _ (mentions_iff.2 ⟨_, hp, rfl⟩)

/-- A catalogue that is read from a text is loaded exactly if it declares all pin types that it mentions, and then it is
loaded as it is.  Otherwise a pin type is reported that it does not declare, at a place where it mentions this pin type.
All this holds for whichever order in which the entries of its tables are visited. -/
theorem ofText_in_any_order {text : String} (read : shape.readText ofJson text = .ok catalogue) :
    ofText text = catalogue.requireClosed ∧ ∀ visited, catalogue.Reordered visited →
      ((∃ loaded, visited.requireClosed = .ok loaded) ↔
        ∀ location pinType, catalogue.Mentions location pinType → pinType ∈ catalogue.pinTypes) ∧
      (∀ loaded, visited.requireClosed = .ok loaded → loaded = visited) ∧
      ∀ e, visited.requireClosed = .error e →
        ∃ place pinType, e = .undeclaredPinType place pinType ∧ pinType ∉ catalogue.pinTypes ∧
          catalogue.Mentions place.message pinType ∧
          e.message = place.message ++ " references undeclared pin type '" ++ pinType ++ "'" := by
  refine ⟨ofText_of_readText_ok read .asWritten, fun visited reordered =>
    ⟨?_, fun loaded h => (requireClosed_eq_ok_iff.1 h).1, ?_⟩⟩
  · rw [← closed_iff_mentions, reordered.closed_iff]
    constructor
    · rintro ⟨loaded, h⟩
      exact (requireClosed_eq_ok_iff.1 h).2
    · intro closed
      exact ⟨visited, requireClosed_eq_ok_iff.2 ⟨rfl, closed⟩⟩
  · intro e refused
    obtain ⟨place, pinType, rfl, hp, undeclared⟩ := undeclared_of_requireClosed refused
    refine ⟨place, pinType, rfl, ?_, mentions_iff.2 ⟨_, reordered.places.mem_iff.2 hp, rfl⟩, rfl⟩
    rw [reordered.pinTypes]
    exact undeclared

/-- A catalogue with two node types, each of which has a pin of a type that is not declared. -/
def misspelled : Catalogue :=
  { assetTypes := .empty
    pinTypes := .ofList ["Audio"]
    compatibility := .empty
    interfaces := .empty
    nodeTypes := .ofList [("Sine", ⟨[], [⟨"Out", "Adio"⟩]⟩), ("Noise", ⟨[⟨"Seed", "Int", true, none⟩], []⟩)] }

/-- Which of the two pins is reported depends on the order of the node types, but one of them always is. -/
theorem ofText_in_any_order_misspelled :
    let text := "\x7b\"pin_types\": [\"Audio\"], \"node_types\": " ++
      "\x7b\"Sine\": \x7b\"outputs\": [[\"Out\", \"Adio\"]]\x7d, \"Noise\": \x7b\"inputs\": [[\"Seed\", \"Int\"]]\x7d\x7d\x7d"
    let turned := { misspelled with nodeTypes := .ofList misspelled.nodeTypes.entries.reverse }
    shape.readText ofJson text = .ok misspelled ∧ misspelled.Reordered turned ∧
      ofText text = .error (.undeclaredPinType (.nodeOutput "Sine" "Out") "Adio") ∧
      turned.requireClosed = .error (.undeclaredPinType (.nodeInput "Noise" "Seed") "Int") ∧
      misspelled.Mentions "node type 'Noise' input 'Seed'" "Int" ∧
      ¬∃ loaded, turned.requireClosed = .ok loaded := by
  intro text turned
  have read : shape.readText ofJson text = .ok misspelled := by decide +kernel
  have reordered : misspelled.Reordered turned :=
    { assetTypes := rfl
      pinTypes := rfl
      compatibility := .refl _
      interfaces := .refl _
      nodeTypes := by decide +kernel }
  have refused : turned.requireClosed = .error (.undeclaredPinType (.nodeInput "Noise" "Seed") "Int") := by
    decide +kernel
  obtain ⟨loading, any_order⟩ := ofText_in_any_order read
  obtain ⟨accepted, -, reports⟩ := any_order turned reordered
  obtain ⟨place, pinType, same, undeclared, mentioned, -⟩ := reports _ refused
  cases same
  refine ⟨read, reordered, loading.trans (by decide +kernel), refused, mentioned, fun loaded => ?_⟩
  exact undeclared (accepted.1 loaded _ _ mentioned)

end Catalogue

end AudioGraph
