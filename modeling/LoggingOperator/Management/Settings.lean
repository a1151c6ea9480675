/-
  LoggingOperator.Management.Settings — SETTINGS IN ONE SPELLING.

  A cluster echoes the settings of a template as nested objects of strings,
  while they are sent under dotted keys with numbers.  Both are brought into
  one spelling before they are compared: one object whose keys are the paths
  joined by dots and whose values are strings.
-/
import LoggingOperator.Json.Printer

namespace LoggingOperator.Management

/-! ## §1. The leaves of a value -/

/-- A path with one more key. -/
def joinPath (path key : String) : String :=
  if path = "" then key else s!"{path}.{key}"

/-- The text of a leaf: a string stands for itself. -/
def leafText : Json → String
  | .string s => s
  | v => v.text

mutual

/-- The leaves below a path, with their own paths, in key order.  `null` is no
    leaf, and an array is one. -/
def leaves (path : String) : Json → List (String × String)
  | .object fields => leavesOf path fields
  | .null => []
  | v => [(path, leafText v)]

/-- The leaves of the fields of an object. -/
def leavesOf (path : String) : List (String × Json) → List (String × String)
  | [] => []
  | (key, v) :: rest => leaves (joinPath path key) v ++ leavesOf path rest

end

/-! ## §2. Flat settings -/

/-- The object of these leaves; of two with one path the later wins. -/
def ofLeaves (pairs : List (String × String)) : Json :=
  .ofFields (pairs.reverse.map fun (path, text) => (path, .string text))

/-- The body with its settings in one spelling. -/
def flattenSettings (body : Json) : Json :=
  body.modify "settings" fun settings => ofLeaves (leaves "" settings)

end LoggingOperator.Management
