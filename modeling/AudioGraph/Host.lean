import AudioGraph.Report
import AudioGraph.Script.Document

/-!
# Hosts

An editor runs in a host that has values of its own.  What is reported and what is built is handed over to it as the
value of a document.  How a document becomes a value is the host's business, and not every document becomes one: hosts
whose numbers are floats have no value for an integer that floats do not tell from its neighbours.  In place of a
document without a value the host gets its null.

Reports hold no numbers, so that they are always handed over (`Report.isSafe_listJson`).
-/

namespace AudioGraph

/-- The greatest integer that floats tell from both its neighbours: one less than the power of two of the 53 bits of a
significand. -/
def greatestSafeInteger : Nat := 9007199254740991

/-- Whether a number is safe: a float, or an integer that floats tell from its neighbours. -/
def Number.isSafe : Number → Bool
  | int n => n.natAbs ≤ greatestSafeInteger
  | float _ => true

namespace Json

mutual

/-- Whether all numbers of a document are safe. -/
def isSafe : Json → Bool
  | null | bool _ | str _ => true
  | num n => n.isSafe
  | arr items => itemsSafe items
  | obj members => membersSafe members

/-- Whether all numbers of the items of a list are safe. -/
def itemsSafe : List Json → Bool
  | [] => true
  | item :: rest => item.isSafe && itemsSafe rest

/-- Whether all numbers of the members of an object are safe. -/
def membersSafe : List (String × Json) → Bool
  | [] => true
  | (_, value) :: rest => value.isSafe && membersSafe rest

end

theorem isSafe_arr {items : List Json} : (arr items).isSafe = true ↔ ∀ item ∈ items, item.isSafe = true := by
  rw [isSafe]
  induction items with
  | nil => exact ⟨nofun, fun _ => rfl⟩
  | cons item rest ih => rw [itemsSafe, Bool.and_eq_true, ih, List.forall_mem_cons]

theorem isSafe_obj {members : List (String × Json)} :
    (obj members).isSafe = true ↔ ∀ m ∈ members, m.2.isSafe = true := by
  rw [isSafe]
  induction members with
  | nil => exact ⟨nofun, fun _ => rfl⟩
  | cons m rest ih => rw [membersSafe, Bool.and_eq_true, ih, List.forall_mem_cons]

end Json

namespace Report

/-- The document of a list of reports. -/
def listJson (reports : List Report) : Json := .arr (reports.map toJson)

theorem isSafe_toJson (r : Report) : r.toJson.isSafe = true := by
  have optional (s : Option String) : (Diagnostic.optionalText s).isSafe = true := by
    cases s <;> rfl
  rw [toJson, Json.isSafe_obj]
  simp only [List.forall_mem_cons, Json.isSafe, optional, List.not_mem_nil, false_implies, implies_true, and_self]

theorem isSafe_listJson (reports : List Report) : (listJson reports).isSafe = true :=
  Json.isSafe_arr.2 (List.forall_mem_map.2 fun r _ => r.isSafe_toJson)

end Report

/-- The document of what comes of building: a script, or else reports. -/
def outcomeJson : Except (List Report) (List Operation) → Json
  | .ok script => .obj [("status", .str "success"), ("operations", Operation.scriptJson script)]
  | .error reports => .obj [("status", .str "errors"), ("errors", Report.listJson reports)]

theorem isSafe_outcomeJson {outcome : Except (List Report) (List Operation)}
    (safe : ∀ script, outcome = .ok script → (Operation.scriptJson script).isSafe = true) :
    (outcomeJson outcome).isSafe = true := by
  cases outcome with
  | ok script => simp [outcomeJson, Json.isSafe, Json.membersSafe, safe script rfl]
  | error reports => simp [outcomeJson, Json.isSafe, Json.membersSafe, Report.isSafe_listJson]

/-- Where documents become values. -/
structure Host (Value : Type) where
  /-- The value of a document, if it has one. -/
  valueOf? : Json → Option Value
  /-- What is handed over in place of a document without a value. -/
  null : Value

namespace Host

variable {Value : Type}

/-- Every document whose numbers are safe has a value. -/
def Converts (host : Host Value) : Prop := ∀ document : Json, document.isSafe = true → (host.valueOf? document).isSome

/-- What is handed over for a document. -/
def handOver (host : Host Value) (document : Json) : Value := (host.valueOf? document).getD host.null

/-- What the host gets when it asks to check a specification. -/
def check (host : Host Value) (specification catalogue : String) (order : VisitingOrder := .asWritten) : Value :=
  host.handOver (Report.listJson (checkText specification catalogue order))

/-- What the host gets when it asks to build a specification. -/
def build (host : Host Value) (specification catalogue target : String) (order : VisitingOrder := .asWritten) : Value :=
  host.handOver (outcomeJson (buildText specification catalogue target order))

/-- A document whose numbers are safe is handed over as its value. -/
theorem valueOf?_eq_handOver {host : Host Value} (converts : host.Converts) {document : Json}
    (safe : document.isSafe = true) : host.valueOf? document = some (host.handOver document) := by
  obtain ⟨value, h⟩ := Option.isSome_iff_exists.1 (converts document safe)
  rw [handOver, h, Option.getD_some]

end Host

end AudioGraph
