import ZigAdvisor.Build.Manifest
import ZigAdvisor.Json.Basic
import ZigAdvisor.Zig.OptimizeMode

/-!
# Arguments of tools

Arguments are the members of an object. A required text has to be there; an optional one counts as
left out if it is anything else; lists are checked item by item.
-/

namespace ZigAdvisor

abbrev Arguments := List (Text × Json)

inductive ArgumentFault
  /-- A required text is missing or is none. -/
  | noText (key : Text)
  | noTextList (key : Text)
  | noObjectList (key : Text)
  /-- An entry of a list of packages is no object or has no name. -/
  | namelessEntry (key : Text) (index : Nat)
  /-- A source text is longer than the limit. -/
  | tooLarge (limit : Int)
  | unknownMode (name : Text)

namespace ArgumentFault

def message : ArgumentFault → Text
  | noText key => .concat ["'", key, "' is required and must be a string"]
  | noTextList key => .concat ["'", key, "' must be a list of strings"]
  | noObjectList key => .concat ["'", key, "' must be a list of objects"]
  | namelessEntry key index =>
    .concat ["'", key, "[", .ofNat index, "]' must be an object with a string 'name'"]
  | tooLarge limit => .concat ["Code too large (max ", .ofInt (limit.fdiv 1024), "KB)"]
  | unknownMode name =>
    .concat [
      "Unknown optimizationLevel '", name, "' (expected one of ",
      .join ", " (OptimizeMode.all.map fun mode => .ofString mode.name), ")"]

end ArgumentFault

namespace Arguments

def requireText (args : Arguments) (key : Text) : Except ArgumentFault Text :=
  match (Json.find? args key).bind Json.text? with
  | some t => .ok t
  | none => .error (.noText key)

def text? (args : Arguments) (key : Text) : Option Text :=
  (Json.find? args key).bind Json.text?

def textList (args : Arguments) (key : Text) : Except ArgumentFault (List Text) :=
  match Json.find? args key with
  | none => .ok []
  | some .null => .ok []
  | some (.arr items) =>
    match items.mapM Json.text? with
    | some texts => .ok texts
    | none => .error (.noTextList key)
  | some _ => .error (.noTextList key)

def package? (item : Json) : Option Dependency :=
  ((item.member? "name").bind Json.text?).map fun name =>
    .ofUrl name (((item.member? "url").bind Json.text?).getD [])

def entries (key : Text) : (index : Nat) → List Json → Except ArgumentFault (List Dependency)
  | _, [] => .ok []
  | index, item :: items =>
    match package? item with
    | none => .error (.namelessEntry key index)
    | some d => (entries key (index + 1) items).map (d :: ·)

def dependencyList (args : Arguments) (key : Text) : Except ArgumentFault (List Dependency) :=
  match Json.find? args key with
  | none => .ok []
  | some .null => .ok []
  | some (.arr items) => entries key 0 items
  | some _ => .error (.noObjectList key)

end Arguments

namespace OptimizeMode

def ofJson? (j : Json) : Option OptimizeMode := j.text?.bind ofName?

def usual : OptimizeMode := releaseSafe

end OptimizeMode

end ZigAdvisor
