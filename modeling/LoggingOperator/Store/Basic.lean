/-
  LoggingOperator.Store.Basic — AN OBJECT STORE HELD IN MEMORY.

  The store does the bookkeeping of a server: it stamps new objects with a
  resource version, a uid and a time, gives services their addresses, fills in
  a few defaults, and refuses a write that carries the version of an older
  state.  Every call is recorded, and a call can be made to fail.

  Main definitions:
    * `Store.answer` — what a call does and what it is answered with;
    * `Store.insert`, `Store.mutate` — changes by somebody else.
-/
import LoggingOperator.Store.Call
import LoggingOperator.Text.Numeral

namespace LoggingOperator

/-! ## §1. Keys and contents -/

/-- Under what an object is stored.  The namespace is empty for kinds that
    live in none. -/
structure StoreKey where
  kind : Kind
  ns : String
  name : String
deriving DecidableEq

namespace StoreKey

/-- The key of an object. -/
def of (kind : Kind) (ns : Option String) (name : String) : StoreKey where
  kind := kind
  ns := if kind.namespaced then ns.getD "" else ""
  name := name

/-- Keys are ordered by kind, then namespace, then name. -/
instance : LT StoreKey :=
  ⟨fun a b => a.kind.rank < b.kind.rank
    ∨ a.kind.rank = b.kind.rank ∧ (a.ns < b.ns ∨ a.ns = b.ns ∧ a.name < b.name)⟩

instance : DecidableLT StoreKey := fun a b =>
  inferInstanceAs (Decidable (a.kind.rank < b.kind.rank
    ∨ a.kind.rank = b.kind.rank ∧ (a.ns < b.ns ∨ a.ns = b.ns ∧ a.name < b.name)))

end StoreKey

/-- What the server puts on a new object. -/
structure Stamp where
  uid : String
  time : String
deriving DecidableEq, Repr

/-- A recorded call. -/
structure StoreRecord where
  op : StoreOp
  kind : Kind
  name : String
deriving DecidableEq, Repr

/-- An object store. -/
structure Store where
  objects : List (StoreKey × Json) := []
  calls : List StoreRecord := []
  /-- Calls that will fail, and how; each entry is used once. -/
  failures : List (StoreOp × Kind × StoreError) := []
  /-- The last resource version that was given out. -/
  version : Nat := 0
  /-- How many service addresses were given out. -/
  addresses : Nat := 0
  /-- The stamp of an object whose first resource version is this one. -/
  stamps : Nat → Stamp

namespace Store

/-- The object under a key. -/
def object? (key : StoreKey) (s : Store) : Option Json :=
  Keyed.get? key s.objects

/-- Put an object under a key. -/
def put (key : StoreKey) (object : Json) (s : Store) : Store :=
  { s with objects := Keyed.insert key object s.objects }

/-- The calls that changed an object. -/
def writes (s : Store) : List StoreRecord :=
  s.calls.filter fun call => call.op.isWrite

/-! ## §2. Bookkeeping -/

/-- Set a metadata field; metadata is made where it is missing. -/
def setMeta (field : String) (value : Json) (object : Json) : Json :=
  (object.setIfNew "metadata" .empty).modify "metadata" fun metadata => metadata.set field value

/-- A resource version as it is written. -/
def versionText (version : Nat) : String :=
  String.ofList (Text.decimal version)

/-- Give out the next resource version. -/
def bump (s : Store) : Json × Store :=
  (.string (versionText (s.version + 1)), { s with version := s.version + 1 })

/-- Defaults of a service's port. -/
def portDefaults (port : Json) : Json :=
  port.setIfNew "protocol" (.string "TCP")

/-- Defaults of a spec. -/
def specDefaults (kind : Kind) (spec : Json) : Json :=
  if kind = .service then
    ((spec.setIfNew "type" (.string "ClusterIP")).setIfNew "sessionAffinity" (.string "None")).modify
      "ports" (Json.mapItems portDefaults)
  else if kind.isWorkload then spec.setIfNew "revisionHistoryLimit" (Json.int32 10)
  else spec

/-- Fill in what the server does by default. -/
def applyDefaults (kind : Kind) (object : Json) : Json :=
  object.modify "spec" (specDefaults kind)

/-- The address with this number. -/
def addressText (n : Nat) : String :=
  String.ofList ("10.96.".toList ++ Text.decimal (n / 250) ++ '.' :: Text.decimal (n % 250 + 1))

/-- Does the object bring an address of its own? -/
def hasAddress (object : Json) : Bool :=
  match (object.at? ["spec", "clusterIP"]).bind Json.string? with
  | some address => address != ""
  | none => false

/-- Give a new service an address, unless it brings its own. -/
def giveAddress (kind : Kind) (object : Json) (s : Store) : Json × Store :=
  if kind = .service ∧ !hasAddress object then
    let address := Json.string (addressText (s.addresses + 1))
    (object.modify "spec" fun spec =>
        (spec.set "clusterIP" address).set "clusterIPs" (.array [address]),
      { s with addresses := s.addresses + 1 })
  else (object, s)

/-- Stamp a new object. -/
def stampNew (kind : Kind) (object : Json) (s : Store) : Json × Store :=
  let (version, s) := s.bump
  let stamp := s.stamps s.version
  let object := setMeta "resourceVersion" version object
  let object := setMeta "uid" (.string stamp.uid) object
  let object := setMeta "creationTimestamp" (.string stamp.time) object
  let (object, s) := s.giveAddress kind object
  (applyDefaults kind object, s)

/-! ## §3. Failures -/

/-- The first entry for an operation on a kind, and the entries without it. -/
def takeFailure (op : StoreOp) (kind : Kind) :
    List (StoreOp × Kind × StoreError) → Option StoreError × List (StoreOp × Kind × StoreError)
  | [] => (none, [])
  | (o, k, e) :: rest =>
    if o = op ∧ k = kind then (some e, rest)
    else
      let (found, rest) := takeFailure op kind rest
      (found, (o, k, e) :: rest)

/-- Record a call, and say how it fails if it was made to. -/
def record (op : StoreOp) (kind : Kind) (name : String) (s : Store) : Option StoreError × Store :=
  let (failure, failures) := takeFailure op kind s.failures
  (failure, { s with calls := s.calls ++ [⟨op, kind, name⟩], failures })

/-! ## §4. Answering -/

/-- Refuse a write that carries a version other than the stored one. -/
def checkVersion (incoming current : Json) : Except StoreError Unit :=
  match incoming.metaString? "resourceVersion", current.metaString? "resourceVersion" with
  | some carried, some stored =>
    if carried = stored then .ok ()
    else .error (.conflict ("the object has been modified; resourceVersion " ++ carried
      ++ " is stale (current " ++ stored ++ ")"))
  | _, _ => .ok ()

/-- The incoming object with what an update cannot change. -/
def keepIdentity (current incoming : Json) : Json :=
  let keep (object : Json) (field : String) : Json :=
    match (current.get? "metadata").bind (Json.get? field) with
    | some value => setMeta field value object
    | none => object
  keep (keep incoming "uid") "creationTimestamp"

/-- The incoming object with the status that is stored. -/
def keepStatus (current incoming : Json) : Json :=
  match current.get? "status" with
  | some status => incoming.set "status" status
  | none => incoming.remove "status"

/-- Create an object that is not there. -/
def create (kind : Kind) (key : StoreKey) (object : Json) (s : Store) :
    Except StoreError Json × Store :=
  match s.object? key with
  | some _ => (.error (.alreadyExists kind key.name), s)
  | none =>
    let (stored, s) := s.stampNew kind object
    (.ok stored, s.put key stored)

/-- Replace an object that is there. -/
def update (kind : Kind) (key : StoreKey) (object : Json) (s : Store) :
    Except StoreError Json × Store :=
  match s.object? key with
  | none => (.error (.notFound kind key.name), s)
  | some current =>
    match checkVersion object current with
    | .error e => (.error e, s)
    | .ok () =>
      let next := applyDefaults kind (keepStatus current (keepIdentity current object))
      let (version, s) := s.bump
      let next := setMeta "resourceVersion" version next
      (.ok next, s.put key next)

/-- Replace the status of an object that is there. -/
def replaceStatus (kind : Kind) (key : StoreKey) (object : Json) (s : Store) :
    Except StoreError Json × Store :=
  match s.object? key with
  | none => (.error (.notFound kind key.name), s)
  | some current =>
    match checkVersion object current with
    | .error e => (.error e, s)
    | .ok () =>
      let (version, s) := s.bump
      let next := current.set "status" ((object.get? "status").getD .null)
      let next := setMeta "resourceVersion" version next
      (.ok next, s.put key next)

/-- Read an object. -/
def get (kind : Kind) (key : StoreKey) (s : Store) : Except StoreError Json :=
  match s.object? key with
  | some object => .ok object
  | none => .error (.notFound kind key.name)

/-- What a call does to the objects, and its answer. -/
def act (call : StoreCall) (key : StoreKey) (s : Store) : Except StoreError Json × Store :=
  match call with
  | .get kind _ _ => (s.get kind key, s)
  | .create kind object => s.create kind key object
  | .update kind object => s.update kind key object
  | .replaceStatus kind object => s.replaceStatus kind key object

/-- Answer a call.  An object without a name is refused before the call is
    recorded. -/
def answer (call : StoreCall) (s : Store) : Except StoreError Json × Store :=
  match call.name with
  | .error e => (.error e, s)
  | .ok name =>
    match s.record call.op call.kind name with
    | (some e, s) => (.error e, s)
    | (none, s) => s.act call (StoreKey.of call.kind call.ns? name)

/-! ## §5. Changes by somebody else -/

/-- Somebody else stores an object. -/
def insert (kind : Kind) (object : Json) (s : Store) : Json × Store :=
  let key := StoreKey.of kind object.namespace? ((object.metaString? "name").getD "")
  let (stored, s) := s.stampNew kind object
  (stored, s.put key stored)

/-- Somebody else changes an object, if it is there.  A resource version is
    used up either way. -/
def mutate (key : StoreKey) (change : Json → Json) (s : Store) : Bool × Store :=
  let (version, s) := s.bump
  match s.object? key with
  | some object => (true, s.put key (setMeta "resourceVersion" version (change object)))
  | none => (false, s)

end Store

end LoggingOperator
