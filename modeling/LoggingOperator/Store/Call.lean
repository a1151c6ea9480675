/-
  LoggingOperator.Store.Call — CALLS TO THE OBJECT STORE.

  Objects are read, created, replaced and given a status through an object
  store.  Whatever their kind, they travel as JSON.
-/
import LoggingOperator.Kube.Object

namespace LoggingOperator

/-- The operations of an object store. -/
inductive StoreOp where
  | get
  | create
  | update
  | updateStatus
deriving DecidableEq, Repr

namespace StoreOp

/-- The word for an operation. -/
def word : StoreOp → String
  | .get => "get"
  | .create => "create"
  | .update => "update"
  | .updateStatus => "update_status"

/-- Every operation. -/
def all : List StoreOp := [.get, .create, .update, .updateStatus]

/-- Does the operation change an object? -/
def isWrite : StoreOp → Bool
  | .get => false
  | _ => true

end StoreOp

/-- A call to an object store.  It is answered by the object as it is stored
    then. -/
inductive StoreCall where
  | get (kind : Kind) (name : String) (ns : Option String)
  /-- Fails if the object is there. -/
  | create (kind : Kind) (object : Json)
  /-- Fails if the object carries the resource version of an older state. -/
  | update (kind : Kind) (object : Json)
  /-- Replaces the status alone; fails as `update` does. -/
  | replaceStatus (kind : Kind) (object : Json)
deriving DecidableEq

namespace StoreCall

/-- The operation of a call. -/
def op : StoreCall → StoreOp
  | .get .. => .get
  | .create .. => .create
  | .update .. => .update
  | .replaceStatus .. => .updateStatus

/-- The kind of the object. -/
def kind : StoreCall → Kind
  | .get kind _ _ | .create kind _ | .update kind _ | .replaceStatus kind _ => kind

/-- The name of the object. -/
def name : StoreCall → Except StoreError String
  | .get _ name _ => .ok name
  | .create _ object | .update _ object | .replaceStatus _ object => object.name

/-- The namespace of the object, if one is given. -/
def ns? : StoreCall → Option String
  | .get _ _ ns => ns
  | .create _ object | .update _ object | .replaceStatus _ object => object.namespace?

end StoreCall

end LoggingOperator
