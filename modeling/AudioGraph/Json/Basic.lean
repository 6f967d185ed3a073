/-!
# Documents

A document is a tree of JSON values.  Numbers keep apart what was written as an integer and what was written as
a fraction, every float is finite, and the members of an object keep their order.

- `Found` names what stands at a place of a document, for messages about it.
- Equality of documents is decidable (`Json.decEq`).
-/

namespace AudioGraph

/-- A 64-bit float other than the infinities and the results that are no number. -/
abbrev FiniteFloat := { x : Float // x.isFinite = true }

/-- A float, if it is finite. -/
def FiniteFloat.ofFloat? (x : Float) : Option FiniteFloat :=
  if h : x.isFinite = true then some ⟨x, h⟩ else none

/-- A number of a document: an integer, or a finite float. -/
inductive Number where
  | int (value : Int)
  | float (value : FiniteFloat)
  deriving DecidableEq

/-- The float nearest to a number, if it is finite. -/
def Number.toFloat? : Number → Option FiniteFloat
  | int n => FiniteFloat.ofFloat? (.ofInt n)
  | float x => some x

/-- A document: a JSON value whose objects are lists of named members. -/
inductive Json where
  | null
  | bool (value : Bool)
  | num (value : Number)
  | str (value : String)
  | arr (items : List Json)
  | obj (members : List (String × Json))

namespace Json

instance : Inhabited Json := ⟨null⟩

/-- The document of a float.  One that is not finite has no number and becomes null. -/
def ofFloat (x : Float) : Json :=
  match FiniteFloat.ofFloat? x with
  | some x => num (.float x)
  | none => null

mutual

/-- Equality of documents is decidable. -/
def decEq : (a b : Json) → Decidable (a = b)
  | null, null => isTrue rfl
  | bool a, bool b =>
    if h : a = b then isTrue (by rw [h]) else isFalse (by simpa using h)
  | num a, num b =>
    if h : a = b then isTrue (by rw [h]) else isFalse (by simpa using h)
  | str a, str b =>
    if h : a = b then isTrue (by rw [h]) else isFalse (by simpa using h)
  | arr as, arr bs =>
    match decEqItems as bs with
    | isTrue h => isTrue (by rw [h])
    | isFalse h => isFalse (by simpa using h)
  | obj as, obj bs =>
    match decEqMembers as bs with
    | isTrue h => isTrue (by rw [h])
    | isFalse h => isFalse (by simpa using h)
  | null, bool _ | null, num _ | null, str _ | null, arr _ | null, obj _ => isFalse nofun
  | bool _, null | bool _, num _ | bool _, str _ | bool _, arr _ | bool _, obj _ => isFalse nofun
  | num _, null | num _, bool _ | num _, str _ | num _, arr _ | num _, obj _ => isFalse nofun
  | str _, null | str _, bool _ | str _, num _ | str _, arr _ | str _, obj _ => isFalse nofun
  | arr _, null | arr _, bool _ | arr _, num _ | arr _, str _ | arr _, obj _ => isFalse nofun
  | obj _, null | obj _, bool _ | obj _, num _ | obj _, str _ | obj _, arr _ => isFalse nofun

/-- Equality of lists of documents is decidable. -/
def decEqItems : (as bs : List Json) → Decidable (as = bs)
  | [], [] => isTrue rfl
  | [], _ :: _ => isFalse nofun
  | _ :: _, [] => isFalse nofun
  | a :: as, b :: bs =>
    match decEq a b, decEqItems as bs with
    | isTrue h, isTrue t => isTrue (by rw [h, t])
    | isFalse h, _ => isFalse (by simp [h])
    | _, isFalse t => isFalse (by simp [t])

/-- Equality of lists of members is decidable. -/
def decEqMembers : (as bs : List (String × Json)) → Decidable (as = bs)
  | [], [] => isTrue rfl
  | [], _ :: _ => isFalse nofun
  | _ :: _, [] => isFalse nofun
  | (j, a) :: as, (k, b) :: bs =>
    match decEq a b, decEqMembers as bs with
    | isTrue h, isTrue t =>
      if n : j = k then isTrue (by rw [n, h, t]) else isFalse (by simp [n])
    | isFalse h, _ => isFalse (by simp [h])
    | _, isFalse t => isFalse (by simp [t])

end

instance : DecidableEq Json := decEq

end Json

/-- What stands at a place of a document, as far as messages tell it. -/
inductive Found where
  | null
  | bool (value : Bool)
  | num (value : Number)
  | str (value : String)
  | list
  | object
  deriving DecidableEq

/-- What a document is, as far as messages tell it. -/
def Json.found : Json → Found
  | null => .null
  | bool b => .bool b
  | num n => .num n
  | str s => .str s
  | arr _ => .list
  | obj _ => .object

end AudioGraph
