import ZigAdvisor.Number.Double
import ZigAdvisor.Text.Basic

/-!
# JSON values

Whole numbers are kept apart from the others and are exact. The members of an object have an order,
and no two of them have the same key.
-/

namespace ZigAdvisor

inductive Json
  | null
  | bool (b : Bool)
  | int (i : Int)
  | float (d : Double)
  | str (t : Text)
  | arr (items : List Json)
  | obj (members : List (Text × Json))

namespace Json

instance : Inhabited Json := ⟨null⟩

def object (members : List (String × Json)) : Json :=
  obj (members.map fun (key, value) => (Text.ofString key, value))

def constant (s : String) : Json := str s

def find? (members : List (Text × Json)) (key : Text) : Option Json := members.lookup key

/-- The members with the value of a key set: where the key stood before, or else at the end. -/
def put (key : Text) (value : Json) : List (Text × Json) → List (Text × Json)
  | [] => [(key, value)]
  | (k, v) :: rest => if k = key then (k, value) :: rest else (k, v) :: put key value rest

def erase (key : Text) (members : List (Text × Json)) : List (Text × Json) :=
  members.filter (·.1 ≠ key)

/-- The members read one after the other; of two with the same key the last value counts, in the
place of the first. -/
def collect (members : List (Text × Json)) : List (Text × Json) :=
  members.foldl (fun known m => put m.1 m.2 known) []

def member? (j : Json) (key : Text) : Option Json :=
  match j with
  | obj members => find? members key
  | _ => none

def text? : Json → Option Text
  | str t => some t
  | _ => none

/-- Whether a value counts as missing: null, false, a zero, or something empty. -/
def isBlank : Json → Bool
  | null => true
  | bool b => !b
  | int i => i == 0
  | float d => d.isZero
  | str t => t.isEmpty
  | arr items => items.isEmpty
  | obj members => members.isEmpty

end Json

end ZigAdvisor
