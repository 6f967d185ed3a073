import AudioGraph.Proofs.Script.References

/-!
# Extending catalogues

A later catalogue extends an earlier one if it still has all that the earlier one had, and asks for nothing more.  The
signature of a node type may get further pins behind the ones it has: outputs, and inputs that can do without a
connection and without a literal value.

Not every check gets quieter by that.  A node whose type the earlier catalogue does not know has no required inputs and
no unknown literal values there, and may have both in the later one.  But a well-formed specification has no such node:
its pins, types and interfaces are those of the earlier catalogue, and what they were is what they still are.

* (pins) An endpoint gives and takes what it gave and took (`Gives.extend`, `Takes.extend`).
* (specifications) A well-formed specification stays well formed (`WellFormed.extend`), and so is built as before.
-/

namespace AudioGraph

/-! ### Extensions -/

/-- A signature has further outputs behind those of an earlier one, and further inputs that need not be fed. -/
structure NodeSignature.Extends (later earlier : NodeSignature) : Prop where
  outputs : ∃ more, later.outputs = earlier.outputs ++ more
  inputs : ∃ more, later.inputs = earlier.inputs ++ more ∧ ∀ pin ∈ more, pin.required = false ∨ pin.default ≠ none

/-- An interface asks for no boundary pin that an earlier one did not ask for. -/
structure Interface.AsksNoMore (later earlier : Interface) : Prop where
  inputs : ∀ pin ∈ later.inputs, ∃ old ∈ earlier.inputs, old.name = pin.name
  outputs : ∀ pin ∈ later.outputs, ∃ old ∈ earlier.outputs, old.name = pin.name

/-- A catalogue has all that an earlier one has, and asks for nothing more. -/
structure Catalogue.Extends (later earlier : Catalogue) : Prop where
  assetTypes : ∀ name ∈ earlier.assetTypes, name ∈ later.assetTypes
  pinTypes : ∀ name ∈ earlier.pinTypes, name ∈ later.pinTypes
  targets : ∀ source, ∀ name ∈ earlier.listedTargets source, name ∈ later.listedTargets source
  nodeTypes : ∀ name signature, earlier.nodeType? name = some signature →
    ∃ extended, later.nodeType? name = some extended ∧ extended.Extends signature
  interfaces : ∀ name i, earlier.interface? name = some i →
    ∃ extended, later.interface? name = some extended ∧ extended.AsksNoMore i

namespace NodeSignature.Extends

variable {later earlier : NodeSignature}

theorem isFirst_output (h : later.Extends earlier) {pin : String} {output : Pin}
    (first : IsFirst Pin.name pin earlier.outputs output) : IsFirst Pin.name pin later.outputs output := by
  obtain ⟨more, same⟩ := h.outputs
  exact same ▸ first.append more

theorem isFirst_input (h : later.Extends earlier) {pin : String} {input : InputPin}
    (first : IsFirst InputPin.name pin earlier.inputs input) : IsFirst InputPin.name pin later.inputs input := by
  obtain ⟨more, same, -⟩ := h.inputs
  exact same ▸ first.append more

/-- An input was there, or need not be fed. -/
theorem mem_inputs (h : later.Extends earlier) {pin : InputPin} (hp : pin ∈ later.inputs) :
    pin ∈ earlier.inputs ∨ pin.required = false ∨ pin.default ≠ none := by
  obtain ⟨more, same, optional⟩ := h.inputs
  rw [same, List.mem_append] at hp
  exact hp.imp_right (optional pin)

end NodeSignature.Extends

theorem Catalogue.Extends.feeds {later earlier : Catalogue} (h : later.Extends earlier) {source destination : String}
    (feeds : earlier.Feeds source destination) : later.Feeds source destination := by
  rw [← isCompatible_iff_feeds] at feeds ⊢
  simp only [isCompatible, isPinType, Bool.and_eq_true, Bool.or_eq_true, beq_iff_eq, decide_eq_true_eq] at feeds ⊢
  exact ⟨h.pinTypes _ feeds.1, feeds.2.imp_right (h.targets source destination)⟩

namespace Specification

variable {spec : Specification} {later earlier : Catalogue}

/-! ### Pins -/

theorem KindGives.extend (h : later.Extends earlier) {kind : NodeKind} {pin pinType : String}
    (gives : spec.KindGives earlier kind pin pinType) : spec.KindGives later kind pin pinType := by
  cases gives with
  | external hs ho =>
    obtain ⟨extended, he, hx⟩ := h.nodeTypes _ _ hs
    exact .external he (hx.isFirst_output ho)
  | read hv => exact .read hv
  | delayedRead hv => exact .delayedRead hv

theorem KindTakes.extend (h : later.Extends earlier) {kind : NodeKind} {pin pinType : String}
    (takes : spec.KindTakes earlier kind pin pinType) : spec.KindTakes later kind pin pinType := by
  cases takes with
  | external hs hi =>
    obtain ⟨extended, he, hx⟩ := h.nodeTypes _ _ hs
    exact .external he (hx.isFirst_input hi)
  | value hv => exact .value hv
  | execute => exact .execute

theorem Gives.extend (h : later.Extends earlier) {endpoint : Endpoint} {pin pinType : String}
    (gives : spec.Gives earlier endpoint pin pinType) : spec.Gives later endpoint pin pinType := by
  cases gives with
  | boundary hi => exact .boundary hi
  | node hn hk => exact .node hn (hk.extend h)

theorem Takes.extend (h : later.Extends earlier) {endpoint : Endpoint} {pin pinType : String}
    (takes : spec.Takes earlier endpoint pin pinType) : spec.Takes later endpoint pin pinType := by
  cases takes with
  | boundary ho => exact .boundary ho
  | node hn hk => exact .node hn (hk.extend h)

theorem Wired.extend (h : later.Extends earlier) {c : Connection} (wired : spec.Wired earlier c) :
    spec.Wired later c := by
  obtain ⟨sourceType, destinationType, gives, takes, feeds⟩ := wired
  exact ⟨sourceType, destinationType, gives.extend h, takes.extend h, h.feeds feeds⟩

/-! ### Nodes -/

theorem KindKnown.extend (h : later.Extends earlier) {kind : NodeKind} (known : spec.KindKnown earlier kind) :
    spec.KindKnown later kind := by
  cases kind with
  | external typeName =>
    obtain ⟨signature, hs⟩ := known
    obtain ⟨extended, he, -⟩ := h.nodeTypes typeName signature hs
    exact ⟨extended, he⟩
  | read name => exact known
  | delayedRead name => exact known
  | write name => exact known

/-- The signature of a known node extends one that the node had before. -/
theorem KindKnown.signature_extends (h : later.Extends earlier) {node : Node}
    (known : spec.KindKnown earlier node.kind) {extended : NodeSignature} (hs : node.HasSignature later extended) :
    ∃ signature, node.HasSignature earlier signature ∧ extended.Extends signature := by
  obtain ⟨typeName, hkind, hlater⟩ := hs
  rw [hkind] at known
  obtain ⟨signature, hearlier⟩ := known
  obtain ⟨other, hother, hx⟩ := h.nodeTypes typeName signature hearlier
  obtain rfl := Option.some.inj (hlater.symm.trans hother)
  exact ⟨signature, ⟨typeName, hkind, hearlier⟩, hx⟩

/-! ### Specifications -/

/-- A well-formed specification stays well formed if its catalogue is extended. -/
theorem WellFormed.extend (h : later.Extends earlier) (wellFormed : spec.WellFormed earlier) :
    spec.WellFormed later where
  assetType := h.assetTypes _ wellFormed.assetType
  interfaces name hname := by
    obtain ⟨i, hi⟩ := wellFormed.interfaces name hname
    obtain ⟨extended, he, -⟩ := h.interfaces name i hi
    exact ⟨extended, he⟩
  variableNames := wellFormed.variableNames
  variableTypes v hv := h.pinTypes _ (wellFormed.variableTypes v hv)
  nodeIds := wellFormed.nodeIds
  nodeKinds node hn := (wellFormed.nodeKinds node hn).extend h
  connections c hc := (wellFormed.connections c hc).extend h
  defaults node hn extended hs pin hp := by
    obtain ⟨signature, hearlier, hx⟩ := (wellFormed.nodeKinds node hn).signature_extends h hs
    obtain ⟨input, hi, hname⟩ := wellFormed.defaults node hn signature hearlier pin hp
    obtain ⟨more, same, -⟩ := hx.inputs
    exact ⟨input, same ▸ List.mem_append_left more hi, hname⟩
  requiredInputs node hn extended hs pin hp required := by
    obtain ⟨signature, hearlier, hx⟩ := (wellFormed.nodeKinds node hn).signature_extends h hs
    rcases hx.mem_inputs hp with old | optional | documented
    · exact wellFormed.requiredInputs node hn signature hearlier pin old required
    · exact absurd (optional.symm.trans required) Bool.false_ne_true
    · exact Or.inr (Or.inr documented)
  interfacePins name hname extended he := by
    -- the pins that the extended interface asks for are asked for by the one before, and so are there
    obtain ⟨i, hi⟩ := wellFormed.interfaces name hname
    obtain ⟨other, hother, less⟩ := h.interfaces name i hi
    obtain rfl := Option.some.inj (he.symm.trans hother)
    obtain ⟨inputs, outputs⟩ := wellFormed.interfacePins name hname i hi
    refine ⟨fun pin hp => ?_, fun pin hp => ?_⟩
    · obtain ⟨old, ho, hold⟩ := less.inputs pin hp
      exact hold ▸ inputs old ho
    · obtain ⟨old, ho, hold⟩ := less.outputs pin hp
      exact hold ▸ outputs old ho

/-- What is accepted under a catalogue is accepted under every extension of it, and built into the same script. -/
theorem build_of_extends (extension : later.Extends earlier) (accepted : spec.validate earlier = []) :
    spec.validate later = [] ∧
      ∀ target, ∃ script, spec.build earlier target = .ok script ∧ spec.build later target = .ok script := by
  rw [validate, List.map_eq_nil_iff, violations_eq_nil_iff] at accepted ⊢
  have still : spec.WellFormed later := accepted.extend extension
  exact ⟨still, fun target =>
    ⟨spec.script target, build_eq_ok_iff.2 ⟨accepted, rfl⟩, build_eq_ok_iff.2 ⟨still, rfl⟩⟩⟩

/-- The built-in catalogue with spectra, which the sine takes and gives at further pins of the names it has, and with
an interface that asks for less. -/
def spectralCatalogue : Catalogue :=
  let sine := (Catalogue.builtIn.nodeType? "Sine").getD ⟨[], []⟩
  { Catalogue.builtIn with
    pinTypes := Catalogue.builtIn.pinTypes.insert "Spectrum"
    interfaces := Catalogue.builtIn.interfaces.put "UE.Attenuation" ⟨[], []⟩
    nodeTypes := Catalogue.builtIn.nodeTypes.put "Sine"
      ⟨sine.inputs ++ [⟨"Frequency", "Spectrum", true, some .null⟩], sine.outputs ++ [⟨"Audio", "Spectrum"⟩]⟩ }

private theorem spectralCatalogue_extends : spectralCatalogue.Extends .builtIn where
  assetTypes _ h := h
  pinTypes name h := NameSet.mem_insert.2 (Or.inr h)
  targets _ _ h := h
  nodeTypes name signature hs := by
    unfold spectralCatalogue Catalogue.nodeType?
    rw [Table.get?_put]
    split
    · next same =>
      subst same
      have sine : Catalogue.builtIn.nodeTypes.get? "Sine" = some signature := hs
      rw [sine]
      exact ⟨_, rfl, ⟨_, rfl⟩, _, rfl, by simp⟩
    · exact ⟨signature, hs, ⟨[], by simp⟩, [], by simp, nofun⟩
  interfaces name i hi := by
    unfold spectralCatalogue Catalogue.interface?
    rw [Table.get?_put]
    split
    · exact ⟨_, rfl, nofun, nofun⟩
    · exact ⟨i, hi, fun pin hp => ⟨pin, hp, rfl⟩, fun pin hp => ⟨pin, hp, rfl⟩⟩

/-- The tone is built as before when its sine can do more. -/
theorem build_spectral_tone :
    spectralCatalogue.Extends .builtIn ∧ tone.validate .builtIn = [] ∧ tone.validate spectralCatalogue = [] ∧
      ∀ target, ∃ script,
        tone.build .builtIn target = .ok script ∧ tone.build spectralCatalogue target = .ok script := by
  have accepted : tone.validate .builtIn = [] := List.map_eq_nil_iff.2 (violations_eq_nil_iff.2 wellFormed_tone)
  exact ⟨spectralCatalogue_extends, accepted, build_of_extends spectralCatalogue_extends accepted⟩

end Specification

end AudioGraph
