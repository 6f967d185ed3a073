import AudioGraph.Proofs.Shape.Layout
import AudioGraph.Proofs.Catalogue.Reordering

/-!
# Layouts of a catalogue

Texts of a catalogue that differ only in layout are loaded as catalogues that may list the entries of their tables in
different orders, but are otherwise the same.  So nobody who asks these catalogues something gets to see the layout.

* (rows) What layout leaves on the rows of a catalogue is the order of its tables (`reordered_of_alike`).
* (texts) If one of the texts is loaded, then so is the other, and every specification gets the same diagnosis
  (`validate_of_relaid`).
-/

namespace AudioGraph

/-! ### Rows -/

section

variable {α : Type} {item : Shape} {make : item.Value → α}

theorem NameSet.ofList_eq_of_alike {xs ys : List String} (alike : (Shape.list .text).Alike xs ys) :
    ofList xs = ofList ys := by
  rcases alike with itemwise | ⟨-, same⟩
  · have same : List.Forall₂ (· = ·) xs ys := itemwise
    rw [List.forall₂_eq_eq_eq] at same
    rw [same]
  · apply ext_mem
    intro name
    rw [mem_ofList, mem_ofList]
    exact same name

/-- A list of anything but texts is read item by item. -/
theorem map_eq_of_alike {xs ys : List item.Value} (alike : (Shape.list item).Alike xs ys)
    (each : ∀ x y, item.Alike x y → make x = make y) (noText : item ≠ .text) : xs.map make = ys.map make := by
  rcases alike with itemwise | ⟨text, -⟩
  · induction itemwise with
    | nil => rfl
    | cons h _ ih => exact congrArg₂ List.cons (each _ _ h) ih
  · exact absurd text noText

theorem Table.perm_of_alike (each : ∀ x y, item.Alike x y → make x = make y) {s t : Table item.Value}
    (alike : (Shape.table item).Alike s t) : (s.map make).entries.Perm (t.map make).entries := by
  obtain ⟨moved, reordered, entrywise⟩ := alike
  have made : moved.map (fun e => (e.1, make e.2)) = t.entries.map fun e => (e.1, make e.2) := by
    clear reordered
    generalize t.entries = entries at entrywise
    induction entrywise with
    | nil => rfl
    | cons h _ ih => exact congrArg₂ List.cons (Prod.ext h.1 (each _ _ h.2)) ih
  exact (reordered.map _).trans (.of_eq made)

end

theorem Pin.ofRow_eq_of_alike {title : String} (x y : (shape title).Value) (alike : (shape title).Alike x y) :
    ofRow x = ofRow y := by
  obtain ⟨name, pinType, ⟨⟩⟩ := x
  obtain ⟨name', pinType', ⟨⟩⟩ := y
  obtain ⟨rfl, rfl, -⟩ := alike
  rfl

theorem InputPin.ofRow_eq_of_alike (x y : shape.Value) (alike : shape.Alike x y) : ofRow x = ofRow y := by
  obtain ⟨name, pinType, required, default, ⟨⟩⟩ := x
  obtain ⟨name', pinType', required', default', ⟨⟩⟩ := y
  obtain ⟨rfl, rfl, rfl, rfl, -⟩ := alike
  rfl

theorem Interface.ofRow_eq_of_alike (x y : shape.Value) (alike : shape.Alike x y) : ofRow x = ofRow y := by
  obtain ⟨inputs, outputs, ⟨⟩⟩ := x
  obtain ⟨inputs', outputs', ⟨⟩⟩ := y
  obtain ⟨sameInputs, sameOutputs, -⟩ := alike
  exact congrArg₂ Interface.mk (map_eq_of_alike sameInputs Pin.ofRow_eq_of_alike nofun)
    (map_eq_of_alike sameOutputs Pin.ofRow_eq_of_alike nofun)

theorem NodeSignature.ofRow_eq_of_alike (x y : shape.Value) (alike : shape.Alike x y) : ofRow x = ofRow y := by
  obtain ⟨inputs, outputs, ⟨⟩⟩ := x
  obtain ⟨inputs', outputs', ⟨⟩⟩ := y
  obtain ⟨sameInputs, sameOutputs, -⟩ := alike
  exact congrArg₂ NodeSignature.mk (map_eq_of_alike sameInputs InputPin.ofRow_eq_of_alike nofun)
    (map_eq_of_alike sameOutputs Pin.ofRow_eq_of_alike nofun)

namespace Catalogue

theorem reordered_of_alike {x y : shape.Value} (alike : shape.Alike x y) : (ofRow x).Reordered (ofRow y) := by
  obtain ⟨assetTypes, pinTypes, compatibility, interfaces, nodeTypes, ⟨⟩⟩ := x
  obtain ⟨assetTypes', pinTypes', compatibility', interfaces', nodeTypes', ⟨⟩⟩ := y
  obtain ⟨sameAssets, samePins, sameTargets, sameInterfaces, sameNodes, -⟩ := alike
  exact
    { assetTypes := NameSet.ofList_eq_of_alike sameAssets
      pinTypes := NameSet.ofList_eq_of_alike samePins
      compatibility := Table.perm_of_alike (fun _ _ => NameSet.ofList_eq_of_alike) sameTargets
      interfaces := Table.perm_of_alike Interface.ofRow_eq_of_alike sameInterfaces
      nodeTypes := Table.perm_of_alike NodeSignature.ofRow_eq_of_alike sameNodes }

/-! ### Texts -/

theorem exists_reordered_of_relaid {document other : Json} {catalogue : Catalogue}
    (relaid : shape.Relaid document other) (read : ofJson document = .ok catalogue) :
    ∃ moved, ofJson other = .ok moved ∧ catalogue.Reordered moved := by
  obtain ⟨row, hrow, rfl⟩ := map_eq_ok_iff.1 read
  obtain ⟨row', hrow', alike⟩ := shape.readsAlike document other row relaid hrow
  exact ⟨ofRow row', map_eq_ok_iff.2 ⟨row', hrow', rfl⟩, reordered_of_alike alike⟩

/-- A text is loaded as the catalogue of its document, if this is closed. -/
theorem ofText_eq_ok_iff {text : String} {document : Json} {catalogue : Catalogue}
    (written : shape.documentOfText text = .ok document) :
    ofText text = .ok catalogue ↔ ofJson document = .ok catalogue ∧ catalogue.Closed := by
  cases read : ofJson document with
  | ok stored =>
    have reading : shape.readText ofJson text = .ok stored := by
      simp only [Shape.readText, written, read]
    rw [ofText_of_readText_ok reading, VisitingOrder.arrange_asWritten, requireClosed_eq_ok_iff, Except.ok.injEq]
    constructor
    · rintro ⟨rfl, closed⟩
      exact ⟨rfl, closed⟩
    · rintro ⟨rfl, closed⟩
      exact ⟨rfl, closed⟩
  | error m =>
    have reading : ∃ e, shape.readText ofJson text = .error e := by
      simp only [Shape.readText, written, read]
      exact ⟨_, rfl⟩
    obtain ⟨e, reading⟩ := reading
    rw [ofText_of_readText_error reading]
    exact ⟨nofun, nofun⟩

/-- If two texts of catalogues differ only in layout and one of them is loaded, then so is the other one, every
specification gets the same diagnosis against both, and the same pin types feed each other. -/
theorem validate_of_relaid {text text' : String} {document document' : Json} {catalogue : Catalogue}
    (written : shape.documentOfText text = .ok document) (written' : shape.documentOfText text' = .ok document')
    (relaid : shape.Relaid document document') (loaded : ofText text = .ok catalogue) :
    ∃ moved, ofText text' = .ok moved ∧
      (∀ spec : Specification, spec.validate catalogue = spec.validate moved) ∧
      (∀ source, catalogue.compatibleTargets source = moved.compatibleTargets source) ∧
      ∀ source destination, catalogue.isCompatible source destination = moved.isCompatible source destination := by
  obtain ⟨read, closed⟩ := (ofText_eq_ok_iff written).1 loaded
  obtain ⟨moved, read', reordered⟩ := exists_reordered_of_relaid relaid read
  refine ⟨moved, (ofText_eq_ok_iff written').2 ⟨read', reordered.closed_iff.1 closed⟩, fun spec => ?_, ?_, ?_⟩
  · exact Specification.validate_of_reordered reordered
  · exact reordered.compatibleTargets
  · exact reordered.isCompatible

/-- A catalogue of interfaces that ask for nothing. -/
def silent (interfaces : List String) : Catalogue :=
  { assetTypes := .ofList ["Patch", "Source"]
    pinTypes := .empty
    compatibility := .empty
    interfaces := .ofList (interfaces.map fun name => (name, ⟨[], []⟩))
    nodeTypes := .empty }

private theorem relaid_silentDocuments :
    shape.Relaid
      (.obj [("asset_types", .arr [.str "Source", .str "Patch"]),
        ("interfaces", .obj [("Wet", .obj []), ("Dry", .obj [])])])
      (.obj [("interfaces", .obj [("Dry", .obj []), ("Wet", .obj [])]),
        ("asset_types", .arr [.str "Patch", .str "Source", .str "Patch"])]) := by
  have names : (Shape.list .text).Relaid (.arr [.str "Source", .str "Patch"])
      (.arr [.str "Patch", .str "Source", .str "Patch"]) := by
    refine .inr ⟨rfl, fun j => ?_⟩
    simp [or_comm]
  have empty : Interface.shape.Relaid (.obj []) (.obj []) := ⟨[], .nil, .nil⟩
  have interfaces : (Shape.table Interface.shape).Relaid (.obj [("Wet", .obj []), ("Dry", .obj [])])
      (.obj [("Dry", .obj []), ("Wet", .obj [])]) :=
    ⟨by decide, _, .swap _ _ _, .cons ⟨rfl, empty⟩ (.cons ⟨rfl, empty⟩ .nil)⟩
  refine ⟨_, .swap _ _ _, .cons ⟨rfl, ?_⟩ (.cons ⟨rfl, ?_⟩ .nil)⟩
  · exact Fields.memberRelaid_of_declares
      (.there (by decide) (.there (by decide) (.there (by decide) (.here (by decide))))) interfaces
  · exact Fields.memberRelaid_of_declares (.here (by decide)) names

/-- A catalogue keeps its interfaces in the order of its text, and no diagnosis shows it. -/
theorem validate_of_relaid_silent :
    let text := "\x7b\"asset_types\": [\"Source\", \"Patch\"], " ++
      "\"interfaces\": \x7b\"Wet\": \x7b\x7d, \"Dry\": \x7b\x7d\x7d\x7d"
    let text' := "\x7b\"interfaces\": \x7b\"Dry\": \x7b\x7d, \"Wet\": \x7b\x7d\x7d, " ++
      "\"asset_types\": [\"Patch\", \"Source\", \"Patch\"]\x7d"
    ofText text = .ok (silent ["Wet", "Dry"]) ∧ ofText text' = .ok (silent ["Dry", "Wet"]) ∧
      silent ["Wet", "Dry"] ≠ silent ["Dry", "Wet"] ∧
      ∀ spec : Specification, spec.validate (silent ["Wet", "Dry"]) = spec.validate (silent ["Dry", "Wet"]) := by
  intro text text'
  have written : shape.documentOfText text = .ok (.obj [("asset_types", .arr [.str "Source", .str "Patch"]),
      ("interfaces", .obj [("Wet", .obj []), ("Dry", .obj [])])]) := by
    decide +kernel
  have written' : shape.documentOfText text' = .ok (.obj [("interfaces", .obj [("Dry", .obj []), ("Wet", .obj [])]),
      ("asset_types", .arr [.str "Patch", .str "Source", .str "Patch"])]) := by
    decide +kernel
  have loaded : ofText text = .ok (silent ["Wet", "Dry"]) := by decide +kernel
  have loaded' : ofText text' = .ok (silent ["Dry", "Wet"]) := by decide +kernel
  obtain ⟨moved, same, diagnoses, -⟩ := validate_of_relaid written written' relaid_silentDocuments loaded
  obtain rfl := Except.ok.inj (loaded'.symm.trans same)
  exact ⟨loaded, loaded', by decide +kernel, diagnoses⟩

end Catalogue

end AudioGraph
