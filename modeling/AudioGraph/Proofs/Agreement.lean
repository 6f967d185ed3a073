import AudioGraph.Host
import AudioGraph.Proofs.Catalogue.Loading

/-!
# Checking and building agree

`checkText` and `buildText` take the same steps in their own ways: the catalogue is loaded, the specification is read,
and what is read is checked.  Each request loads the catalogue for itself, and goes through its tables in an order of
its own.

* (loading) The text of a catalogue stands for the same catalogue in every order, or it fails in every order for the
  same reason, or it is refused in every order for an undeclared pin type, which need not be the same one
  (`loading_cases`).
* (checking) A catalogue that does not load is all that is reported; otherwise every diagnostic is reported, with its
  category (`checkText_cases`).
* (building) A script is built where nothing is reported (`buildText_eq_ok_iff`), and where something is, the same is
  reported (`buildText_eq_error_iff`).
* (handing over) Reports always reach the host, and a script does if its numbers are safe; another one may be lost
  (`Host.build_eq_null`).
-/

namespace AudioGraph

/-! ### Loading -/

/-- The text of a catalogue stands for a catalogue. -/
def Loads (text : String) (order : VisitingOrder) (catalogue : Catalogue) : Prop :=
  (isBlank text = true ∧ catalogue = order.arrange .builtIn) ∨
    (isBlank text = false ∧ Catalogue.ofText text order = .ok catalogue)

/-- The text of a catalogue does not load. -/
def LoadFails (text : String) (order : VisitingOrder) (e : LoadError) : Prop :=
  isBlank text = false ∧ Catalogue.ofText text order = .error e

/-- A load error tells of a place where the catalogue of a text mentions a pin type that it does not declare. -/
def NamesUndeclared (text : String) (e : LoadError) : Prop :=
  ∃ catalogue location pinType, Catalogue.shape.readText Catalogue.ofJson text = .ok catalogue ∧
    catalogue.Mentions location pinType ∧ pinType ∉ catalogue.pinTypes ∧
    e.message = location ++ " references undeclared pin type '" ++ pinType ++ "'"

theorem catalogueOfText_of_loads {text : String} {order : VisitingOrder} {catalogue : Catalogue}
    (h : Loads text order catalogue) : catalogueOfText text order = .ok catalogue := by
  rcases h with ⟨blank, rfl⟩ | ⟨filled, loaded⟩
  · rw [catalogueOfText, if_pos blank]
  · rw [catalogueOfText, if_neg (ne_true_of_eq_false filled), loaded]

theorem catalogueOfText_of_loadFails {text : String} {order : VisitingOrder} {e : LoadError}
    (h : LoadFails text order e) : catalogueOfText text order = .error (.ofLoadError e) := by
  rw [catalogueOfText, if_neg (ne_true_of_eq_false h.1), h.2]

/-- Every text of a catalogue loads or fails to load. -/
theorem loads_or_loadFails (text : String) (order : VisitingOrder) :
    (∃ catalogue, Loads text order catalogue) ∨ ∃ e, LoadFails text order e := by
  cases blank : isBlank text with
  | true => exact .inl ⟨_, .inl ⟨blank, rfl⟩⟩
  | false =>
    cases loaded : Catalogue.ofText text order with
    | ok catalogue => exact .inl ⟨catalogue, .inr ⟨blank, loaded⟩⟩
    | error e => exact .inr ⟨e, blank, loaded⟩

theorem not_loads_of_loadFails {text : String} {order : VisitingOrder} {e : LoadError} (h : LoadFails text order e)
    (catalogue : Catalogue) : ¬Loads text order catalogue := by
  rintro (⟨blank, -⟩ | ⟨-, loaded⟩)
  · cases h.1.symm.trans blank
  · cases h.2.symm.trans loaded

/-- A catalogue that is not closed is refused in every order, for an undeclared pin type. -/
theorem loadFails_of_not_closed {text : String} {catalogue : Catalogue} (filled : isBlank text = false)
    (read : Catalogue.shape.readText Catalogue.ofJson text = .ok catalogue) (opened : ¬catalogue.Closed)
    (order : VisitingOrder) : ∃ e, LoadFails text order e ∧ NamesUndeclared text e := by
  have reordered := order.reordered catalogue
  have loading := Catalogue.ofText_of_readText_ok read order
  cases visited : (order.arrange catalogue).requireClosed with
  | ok accepted => exact absurd (reordered.closed_iff.2 (Catalogue.requireClosed_eq_ok_iff.1 visited).2) opened
  | error e =>
    obtain ⟨place, pinType, rfl, hp, undeclared⟩ := Catalogue.undeclared_of_requireClosed visited
    refine ⟨_, ⟨filled, loading.trans visited⟩, catalogue, place.message, pinType, read, ?_, ?_, rfl⟩
    · exact Catalogue.mentions_iff.2 ⟨place, reordered.places.mem_iff.2 hp, rfl⟩
    · rwa [reordered.pinTypes]

/-- What the order of a load decides: neither whether a text loads, nor what it stands for, but only which of the
undeclared pin types is reported. -/
theorem loading_cases (text : String) :
    (∃ catalogue, ∀ order : VisitingOrder, Loads text order (order.arrange catalogue)) ∨
    (∃ e, ∀ order, LoadFails text order e) ∨
    ∀ order, ∃ e, LoadFails text order e ∧ NamesUndeclared text e := by
  cases blank : isBlank text with
  | true => exact .inl ⟨.builtIn, fun order => .inl ⟨blank, rfl⟩⟩
  | false =>
    cases read : Catalogue.shape.readText Catalogue.ofJson text with
    | error e => exact .inr (.inl ⟨.malformed e, fun order => ⟨blank, Catalogue.ofText_of_readText_error read order⟩⟩)
    | ok catalogue =>
      by_cases closed : catalogue.Closed
      · refine .inl ⟨catalogue, fun order => .inr ⟨blank, ?_⟩⟩
        rw [Catalogue.ofText_of_readText_ok read, Catalogue.requireClosed_eq_ok_iff]
        exact ⟨rfl, (order.reordered catalogue).closed_iff.1 closed⟩
      · exact .inr (.inr (loadFails_of_not_closed blank read closed))

/-! ### Checking -/

namespace Specification

variable {spec : Specification} {catalogue : Catalogue}

theorem build_of_validate_eq_nil (valid : spec.validate catalogue = []) (target : String) :
    spec.build catalogue target = .ok (spec.script target) := by
  rw [build, valid]

theorem build_of_validate_ne_nil (invalid : spec.validate catalogue ≠ []) (target : String) :
    spec.build catalogue target = .error (spec.validate catalogue) := by
  unfold build
  split
  · next valid => exact absurd valid invalid
  · rfl

theorem validateText_of_ofText_ok {text : String} (read : ofText text = .ok spec) :
    validateText text catalogue = spec.validate catalogue := by
  rw [validateText, read]

theorem validateText_of_ofText_error {text : String} {e : ParseError} (failed : ofText text = .error e) :
    validateText text catalogue = [e.toDiagnostic] := by
  rw [validateText, failed]

theorem validateText_of_reordered {other : Catalogue} (h : catalogue.Reordered other) (text : String) :
    validateText text catalogue = validateText text other := by
  cases read : ofText text with
  | ok spec => rw [validateText_of_ofText_ok read, validateText_of_ofText_ok read, validate_of_reordered h]
  | error e => rw [validateText_of_ofText_error read, validateText_of_ofText_error read]

end Specification

variable {specification catalogue target : String} {order : VisitingOrder}

theorem checkText_of_loadFails {e : LoadError} (h : LoadFails catalogue order e) :
    checkText specification catalogue order = [.ofLoadError e] := by
  rw [checkText, catalogueOfText_of_loadFails h]

theorem checkText_of_loads {loaded : Catalogue} (h : Loads catalogue order loaded) :
    checkText specification catalogue order = (Specification.validateText specification loaded).map .ofDiagnostic := by
  rw [checkText, catalogueOfText_of_loads h]

/-- What is reported in all orders, by what becomes of the catalogue. -/
theorem checkText_cases (specification catalogue : String) :
    (∃ loaded, ∀ order : VisitingOrder, Loads catalogue order (order.arrange loaded) ∧
      checkText specification catalogue order =
        (Specification.validateText specification loaded).map .ofDiagnostic) ∨
    (∃ e, ∀ order, LoadFails catalogue order e ∧ checkText specification catalogue order = [.ofLoadError e]) ∨
    ∀ order, ∃ e, LoadFails catalogue order e ∧ NamesUndeclared catalogue e ∧
      checkText specification catalogue order = [.ofLoadError e] := by
  rcases loading_cases catalogue with ⟨loaded, h⟩ | ⟨e, h⟩ | h
  · refine .inl ⟨loaded, fun order => ⟨h order, ?_⟩⟩
    rw [checkText_of_loads (h order), Specification.validateText_of_reordered (order.reordered loaded)]
  · exact .inr (.inl ⟨e, fun order => ⟨h order, checkText_of_loadFails (h order)⟩⟩)
  · refine .inr (.inr fun order => ?_)
    obtain ⟨e, fails, undeclared⟩ := h order
    exact ⟨e, fails, undeclared, checkText_of_loadFails fails⟩

/-- Whether something is reported does not depend on the order. -/
theorem checkText_eq_nil_iff_in_any_order (order other : VisitingOrder) :
    checkText specification catalogue order = [] ↔ checkText specification catalogue other = [] := by
  rcases checkText_cases specification catalogue with ⟨loaded, h⟩ | ⟨e, h⟩ | h
  · rw [(h order).2, (h other).2]
  · rw [(h order).2, (h other).2]
  · obtain ⟨e, -, -, reported⟩ := h order
    obtain ⟨e', -, -, reported'⟩ := h other
    rw [reported, reported']
    exact iff_of_false (List.cons_ne_nil _ _) (List.cons_ne_nil _ _)

/-! ### Building -/

theorem targetOfText_eq (text : String) : targetOfText text = if text = "" then defaultTarget else text := by
  simp only [targetOfText, String.isEmpty_iff]

/-- A script is built where nothing is reported, and where something is, the same is reported. -/
theorem buildText_cases (specification catalogue target : String) (order : VisitingOrder) :
    (∃ spec, Specification.ofText specification = .ok spec ∧ checkText specification catalogue order = [] ∧
      buildText specification catalogue target order = .ok (spec.script (targetOfText target))) ∨
    (checkText specification catalogue order ≠ [] ∧
      buildText specification catalogue target order = .error (checkText specification catalogue order)) := by
  -- a specification is read only if the catalogue loads, and checked only if it is read
  rcases loads_or_loadFails catalogue order with ⟨loaded, h⟩ | ⟨e, h⟩
  · rw [checkText_of_loads h, buildText, catalogueOfText_of_loads h]
    cases read : Specification.ofText specification with
    | error e =>
      rw [Specification.validateText_of_ofText_error read]
      exact .inr ⟨List.cons_ne_nil _ _, rfl⟩
    | ok spec =>
      rw [Specification.validateText_of_ofText_ok read]
      by_cases valid : spec.validate loaded = []
      · refine .inl ⟨spec, rfl, by rw [valid, List.map_nil], ?_⟩
        simp only [Specification.build_of_validate_eq_nil valid]
      · refine .inr ⟨fun h => valid (List.map_eq_nil_iff.1 h), ?_⟩
        simp only [Specification.build_of_validate_ne_nil valid]
  · rw [checkText_of_loadFails h, buildText, catalogueOfText_of_loadFails h]
    exact .inr ⟨List.cons_ne_nil _ _, rfl⟩

theorem buildText_eq_ok_iff {script : List Operation} :
    buildText specification catalogue target order = .ok script ↔ checkText specification catalogue order = [] ∧
      ∃ spec, Specification.ofText specification = .ok spec ∧ script = spec.script (targetOfText target) := by
  constructor
  · intro h
    rcases buildText_cases specification catalogue target order with ⟨spec, read, valid, built⟩ | ⟨-, failed⟩
    · cases built.symm.trans h
      exact ⟨valid, spec, read, rfl⟩
    · cases failed.symm.trans h
  · rintro ⟨valid, spec, read, rfl⟩
    rcases buildText_cases specification catalogue target order with ⟨spec', read', -, built⟩ | ⟨invalid, -⟩
    · cases read'.symm.trans read
      exact built
    · exact absurd valid invalid

theorem buildText_eq_error_iff {reports : List Report} :
    buildText specification catalogue target order = .error reports ↔
      reports ≠ [] ∧ reports = checkText specification catalogue order := by
  constructor
  · intro h
    rcases buildText_cases specification catalogue target order with ⟨spec, -, -, built⟩ | ⟨invalid, failed⟩
    · cases built.symm.trans h
    · cases failed.symm.trans h
      exact ⟨invalid, rfl⟩
  · rintro ⟨found, rfl⟩
    rcases buildText_cases specification catalogue target order with ⟨spec, -, valid, -⟩ | ⟨-, failed⟩
    · exact absurd valid found
    · exact failed

theorem exists_buildText_eq_ok_iff :
    (∃ script, buildText specification catalogue target order = .ok script) ↔
      checkText specification catalogue order = [] := by
  rcases buildText_cases specification catalogue target order with ⟨spec, -, valid, built⟩ | ⟨invalid, failed⟩
  · exact iff_of_true ⟨_, built⟩ valid
  · rw [failed]
    exact iff_of_false nofun invalid

/-- Checking and building agree, each in an order of its own.  A script is built, in any order and for any target, if
nothing is reported in any order, and it is the one of the specification that was read.  Otherwise the reports of
building are those of checking in the same order, for every target.  In all orders these are the diagnostics of the
specification against the catalogue, or the one reason for which the catalogue does not load, or, each order its own, an
undeclared pin type of the catalogue.  The host gets the values of all reports, and of every script whose numbers are
safe. -/
theorem buildText_agrees_with_checkText {Value : Type} (host : Host Value) (converts : host.Converts)
    (specification catalogue : String) :
    (∀ building checking target, (∃ script, buildText specification catalogue target building = .ok script) ↔
      checkText specification catalogue checking = []) ∧
    (∀ order target script, buildText specification catalogue target order = .ok script →
      ∃ spec, Specification.ofText specification = .ok spec ∧
        script = spec.script (if target = "" then defaultTarget else target)) ∧
    (∀ order target reports, buildText specification catalogue target order = .error reports →
      reports ≠ [] ∧ reports = checkText specification catalogue order ∧
      ∀ other, buildText specification catalogue other order = .error reports) ∧
    ((∃ loaded, ∀ order : VisitingOrder, Loads catalogue order (order.arrange loaded) ∧
        checkText specification catalogue order = (Specification.validateText specification loaded).map (fun d =>
          ⟨d.code, d.phase.name, some d.kind, d.message, d.node⟩) ∧
        ∀ report ∈ checkText specification catalogue order, report.kind ≠ none) ∨
      (∃ e, ∀ order, LoadFails catalogue order e ∧
        checkText specification catalogue order = [⟨"C001", "Catalogue", none, e.message, none⟩]) ∨
      ∀ order, ∃ e, LoadFails catalogue order e ∧ NamesUndeclared catalogue e ∧
        checkText specification catalogue order = [⟨"C001", "Catalogue", none, e.message, none⟩]) ∧
    (∀ order, host.valueOf? (Report.listJson (checkText specification catalogue order)) =
      some (host.check specification catalogue order)) ∧
    ∀ order target, (∀ script, buildText specification catalogue target order = .ok script →
        (Operation.scriptJson script).isSafe = true) →
      host.valueOf? (outcomeJson (buildText specification catalogue target order)) =
        some (host.build specification catalogue target order) := by
  refine ⟨fun building checking target => ?_, fun order target script built => ?_,
    fun order target reports failed => ?_, ?_, fun order => ?_, fun order target safe => ?_⟩
  · rw [← checkText_eq_nil_iff_in_any_order building checking]
    exact exists_buildText_eq_ok_iff
  · obtain ⟨-, spec, read, rfl⟩ := buildText_eq_ok_iff.1 built
    exact ⟨spec, read, congrArg spec.script (targetOfText_eq target)⟩
  · obtain ⟨found, same⟩ := buildText_eq_error_iff.1 failed
    exact ⟨found, same, fun other => buildText_eq_error_iff.2 ⟨found, same⟩⟩
  · refine (checkText_cases specification catalogue).imp_left ?_
    rintro ⟨loaded, h⟩
    refine ⟨loaded, fun order => ⟨(h order).1, (h order).2, ?_⟩⟩
    rw [(h order).2]
    exact List.forall_mem_map.2 fun _ _ => Option.some_ne_none _
  · exact Host.valueOf?_eq_handOver converts (Report.isSafe_listJson _)
  · exact Host.valueOf?_eq_handOver converts (isSafe_outcomeJson safe)

/-- The text of an empty graph. -/
def emptyPatchText : String :=
  "\x7b\"name\": \"Empty\", \"asset_type\": \"Patch\", \"nodes\": [], \"connections\": []\x7d"

/-- The text of a catalogue with two node types, each of which has a pin of a type that is not declared. -/
def misspelledText : String :=
  "\x7b\"pin_types\": [\"Audio\"], \"node_types\": \x7b\"Sine\": \x7b\"outputs\": [[\"Out\", \"Adio\"]]\x7d, " ++
    "\"Noise\": \x7b\"inputs\": [[\"Seed\", \"Int\"]]\x7d\x7d\x7d"

/-- The table with its entries in the opposite order. -/
def Table.reverse {α : Type} (table : Table α) : Table α :=
  ⟨table.entries.reverse, by
    have h := table.distinct
    rwa [Entries.names, List.map_reverse, List.nodup_reverse]⟩

/-- The order that goes through all tables backwards. -/
def VisitingOrder.backwards : VisitingOrder where
  arrange catalogue :=
    { catalogue with
      compatibility := catalogue.compatibility.reverse
      interfaces := catalogue.interfaces.reverse
      nodeTypes := catalogue.nodeTypes.reverse }
  reordered _ :=
    { assetTypes := rfl
      pinTypes := rfl
      compatibility := (List.reverse_perm _).symm
      interfaces := (List.reverse_perm _).symm
      nodeTypes := (List.reverse_perm _).symm }

private theorem loadFails_misspelledText :
    LoadFails misspelledText .asWritten (.undeclaredPinType (.nodeOutput "Sine" "Out") "Adio") ∧
    LoadFails misspelledText .backwards (.undeclaredPinType (.nodeInput "Noise" "Seed") "Int") := by
  have filled : isBlank misspelledText = false := by decide +kernel
  have read : Catalogue.shape.readText Catalogue.ofJson misspelledText = .ok Catalogue.misspelled := by
    decide +kernel
  refine ⟨⟨filled, ?_⟩, filled, ?_⟩
  · rw [Catalogue.ofText_of_readText_ok read]
    decide +kernel
  · rw [Catalogue.ofText_of_readText_ok read]
    decide +kernel

/-- In different orders checking and building may report different pin types, and so may building twice, for two
targets. -/
theorem reports_differ_misspelledText :
    let adio := "node type 'Sine' output 'Out' references undeclared pin type 'Adio'"
    let int := "node type 'Noise' input 'Seed' references undeclared pin type 'Int'"
    buildText emptyPatchText misspelledText "" .asWritten = .error [⟨"C001", "Catalogue", none, adio, none⟩] ∧
    checkText emptyPatchText misspelledText .backwards = [⟨"C001", "Catalogue", none, int, none⟩] ∧
    buildText emptyPatchText misspelledText "/Game/" .backwards = .error [⟨"C001", "Catalogue", none, int, none⟩] ∧
    adio ≠ int := by
  intro adio int
  obtain ⟨written, backwards⟩ := loadFails_misspelledText
  have reported : checkText emptyPatchText misspelledText .asWritten = [⟨"C001", "Catalogue", none, adio, none⟩] :=
    (checkText_of_loadFails written).trans (by decide)
  have reported' : checkText emptyPatchText misspelledText .backwards = [⟨"C001", "Catalogue", none, int, none⟩] :=
    (checkText_of_loadFails backwards).trans (by decide)
  refine ⟨buildText_eq_error_iff.2 ⟨List.cons_ne_nil _ _, reported.symm⟩, reported',
    buildText_eq_error_iff.2 ⟨List.cons_ne_nil _ _, reported'.symm⟩, by decide⟩

/-- A host whose values are the documents with safe numbers. -/
def floatHost : Host (Option Json) where
  valueOf? document := if document.isSafe then some (some document) else none
  null := none

private theorem floatHost_valueOf?_of_isSafe {document : Json} (safe : document.isSafe = true) :
    floatHost.valueOf? document = some (some document) :=
  if_pos safe

private theorem floatHost_converts : floatHost.Converts := by
  intro document safe
  rw [floatHost_valueOf?_of_isSafe safe]
  rfl

private theorem loadFails_bracket : ∃ e, LoadFails "[" .asWritten e := by
  have failed : (Catalogue.ofText "[").isOk = false := by decide +kernel
  cases loaded : Catalogue.ofText "[" with
  | error e => exact ⟨e, by decide, loaded⟩
  | ok catalogue =>
    rw [loaded] at failed
    cases failed

private theorem isSafe_emptyPatch {spec : Specification} (read : Specification.ofText emptyPatchText = .ok spec) :
    (Operation.scriptJson (spec.script defaultTarget)).isSafe = true := by
  have safe : ((Specification.ofText emptyPatchText).toOption.map fun spec =>
      (Operation.scriptJson (spec.script defaultTarget)).isSafe) = some true := by decide +kernel
  rw [read] at safe
  exact Option.some.inj safe

theorem buildText_emptyPatchText :
    floatHost.Converts ∧
    (∃ spec, Specification.ofText emptyPatchText = .ok spec ∧ ∀ order,
      buildText emptyPatchText "" "" order = .ok (spec.script defaultTarget) ∧
      floatHost.build emptyPatchText "" "" order = some (outcomeJson (.ok (spec.script defaultTarget)))) ∧
    (∀ order target, ∃ e, LoadFails "[" order e ∧
      buildText emptyPatchText "[" target order = .error [⟨"C001", "Catalogue", none, e.message, none⟩]) ∧
    ∀ order, ∃ e, LoadFails misspelledText order e ∧ NamesUndeclared misspelledText e := by
  have valid : checkText emptyPatchText "" = [] := by decide +kernel
  obtain ⟨_, bracketFails⟩ := loadFails_bracket
  obtain ⟨written, backwards⟩ := loadFails_misspelledText
  obtain ⟨accepts, scripts, -, -, -, values⟩ :=
    buildText_agrees_with_checkText floatHost floatHost_converts emptyPatchText ""
  obtain ⟨accepts', -, reports, bracket, -⟩ :=
    buildText_agrees_with_checkText floatHost floatHost_converts emptyPatchText "["
  obtain ⟨-, -, -, misspelled, -⟩ :=
    buildText_agrees_with_checkText floatHost floatHost_converts emptyPatchText misspelledText
  have scriptOf (order : VisitingOrder) : ∃ spec, Specification.ofText emptyPatchText = .ok spec ∧
      buildText emptyPatchText "" "" order = .ok (spec.script defaultTarget) := by
    obtain ⟨script, built⟩ := (accepts order .asWritten "").2 valid
    obtain ⟨spec, read, rfl⟩ := scripts order "" script built
    exact ⟨spec, read, built⟩
  have unread (order : VisitingOrder) : ∃ e, LoadFails "[" order e ∧
      checkText emptyPatchText "[" order = [⟨"C001", "Catalogue", none, e.message, none⟩] := by
    rcases bracket with ⟨loaded, h⟩ | ⟨e, h⟩ | h
    · exact absurd (h .asWritten).1 (not_loads_of_loadFails bracketFails _)
    · exact ⟨e, h order⟩
    · obtain ⟨e, fails, -, reported⟩ := h order
      exact ⟨e, fails, reported⟩
  refine ⟨floatHost_converts, ?_, fun order target => ?_, ?_⟩
  · obtain ⟨spec, read, -⟩ := scriptOf .asWritten
    have safe := isSafe_emptyPatch read
    refine ⟨spec, read, fun order => ?_⟩
    obtain ⟨spec', read', built⟩ := scriptOf order
    cases read.symm.trans read'
    have value := values order "" fun script h => by
      cases built.symm.trans h
      exact safe
    rw [built, floatHost_valueOf?_of_isSafe (isSafe_outcomeJson fun _ h => Except.ok.inj h ▸ safe)] at value
    exact ⟨built, (Option.some.inj value).symm⟩
  · obtain ⟨e, fails, reported⟩ := unread order
    cases built : buildText emptyPatchText "[" target order with
    | ok script => cases reported.symm.trans ((accepts' order order target).1 ⟨script, built⟩)
    | error found => exact ⟨e, fails, congrArg Except.error ((reports order target found built).2.1.trans reported)⟩
  · rcases misspelled with ⟨loaded, h⟩ | ⟨e, h⟩ | h
    · exact absurd (h .asWritten).1 (not_loads_of_loadFails written _)
    · -- the two orders do not fail for the same reason
      cases (written.2.symm.trans (h .asWritten).1.2).trans ((h .backwards).1.2.symm.trans backwards.2)
    · intro order
      obtain ⟨e, fails, undeclared, -⟩ := h order
      exact ⟨e, fails, undeclared⟩

/-! ### Handing over -/

/-- A host that refuses every other document gets its null for a script with a number that is not safe, although there
is nothing to report. -/
theorem Host.build_eq_null {Value : Type} {host : Host Value}
    (refuses : ∀ document : Json, document.isSafe = false → host.valueOf? document = none) {script : List Operation}
    (built : buildText specification catalogue target order = .ok script) {op : Operation} (hm : op ∈ script)
    (lossy : op.toJson.isSafe = false) :
    host.build specification catalogue target order = host.null ∧ checkText specification catalogue order = [] := by
  refine ⟨?_, exists_buildText_eq_ok_iff.1 ⟨script, built⟩⟩
  have written : (Operation.scriptJson script).isSafe = false := by
    refine Bool.eq_false_iff.2 fun safe => ?_
    have := Json.isSafe_arr.1 safe op.toJson (List.mem_map.2 ⟨op, hm, rfl⟩)
    rw [lossy] at this
    cases this
  have outcome : (outcomeJson (.ok script)).isSafe = false := by
    simp only [outcomeJson, Json.isSafe, Json.membersSafe, written, Bool.false_and, Bool.and_false]
  rw [Host.build, Host.handOver, built, refuses _ outcome, Option.getD_none]

example : floatHost.build
    ("\x7b\"name\": \"Seeded\", \"asset_type\": \"Patch\", \"nodes\": [], \"connections\": [], \"variables\": " ++
      "[\x7b\"name\": \"Seed\", \"type\": \"Float\", \"default\": 9007199254740993\x7d]\x7d") "" "" = none := by
  decide +kernel

end AudioGraph
