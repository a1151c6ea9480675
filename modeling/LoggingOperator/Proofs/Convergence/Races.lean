/-
  LoggingOperator.Proofs.Convergence.Races — NO WRITE IS LOST.

  Any number of programs bring objects of one store to what they want, while
  others write statuses of what they read, store objects and change them.  The
  calls are interleaved in any order.  A write that replaces an object carries
  the version of a read, and it succeeds only if nobody wrote the object since
  that read; a create succeeds only if there was no object.  A write that is
  refused changes nothing (`no_lost_update`).

  Two facts meet in this.  `converge` sends an update only with the version
  that it read itself (`obeys_reading`), and in every interleaving a version
  that was read is stored under one key at most, the one it was read from, and
  only as long as that key is not written (`Consistent`).
-/
import LoggingOperator.Proofs.Convergence.Calls
import LoggingOperator.Proofs.Program.Interleaving
import LoggingOperator.Proofs.Store.Versions

namespace LoggingOperator

open Program (World Pool Entry Turn Turns Environment Happens calm)
open Store (Changes Versioned versionText)

/-! ## §1. Reads and writes of a history -/

/-- A write was refused because of what is stored. -/
def StoreError.LostRace : StoreError → Prop
  | .conflict _ | .alreadyExists .. | .notFound .. => True
  | _ => False

/-- The version that a call compares with the stored one. -/
def StoreCall.carried? : StoreCall → Option String
  | .get .. | .create .. => none
  | .update _ object | .replaceStatus _ object => object.version?

namespace Event

/-- What was read, with its key. -/
def read? : Event → Option (StoreKey × Json)
  | .store (.get kind name ns) (.ok object) => some (StoreKey.of kind ns name, object)
  | _ => none

/-- The key under which an object was written. -/
def written? : Event → Option StoreKey
  | .store call answer => call.name.toOption.bind fun name =>
    Store.writtenBy? call (StoreKey.of call.kind call.ns? name) answer
  | .manage .. => none
  | .insert kind object =>
    some (StoreKey.of kind object.namespace? ((object.metaString? "name").getD ""))
  | .mutate key found => if found then some key else none

theorem eq_of_read? {event : Event} {key : StoreKey} {object : Json}
    (h : event.read? = some (key, object)) :
    ∃ kind name ns, event = .store (.get kind name ns) (.ok object)
      ∧ key = StoreKey.of kind ns name := by
  unfold read? at h
  split at h
  · cases h
    exact ⟨_, _, _, rfl, rfl⟩
  · cases h

end Event

namespace Convergence

/-- Whatever was read with this version was read from this key, and the key was
    not written since. -/
def Unwritten (history : List Entry) (key : StoreKey) (version : String) : Prop :=
  ∀ later read earlier found object, history = later ++ read :: earlier →
    read.event.read? = some (found, object) → object.version? = some version →
    found = key ∧ ∀ entry ∈ later, entry.event.written? ≠ some key

/-- What others do: they read, they write the status of an object with the version
    of something that was read, they store objects with metadata, and they change
    objects without taking their metadata away. -/
inductive Writers (w : World) (history : List Entry) : Event → World → Prop
  | read {kind : Kind} {name : String} {ns : Option String} {answer : Except StoreError Json}
    {w' : World} (happens : Happens calm w (.store (.get kind name ns) answer) w') :
    Writers w history (.store (.get kind name ns) answer) w'
  | restate {kind : Kind} {object : Json} {answer : Except StoreError Json} {w' : World}
    (carries : ∃ entry ∈ history, ∃ key read version, entry.event.read? = some (key, read)
      ∧ read.version? = some version ∧ object.version? = some version)
    (happens : Happens calm w (.store (.replaceStatus kind object) answer) w') :
    Writers w history (.store (.replaceStatus kind object) answer) w'
  | insert {kind : Kind} {object : Json} (metadata : object.HasMetadata) :
    Writers w history (.insert kind object) { w with store := (w.store.insert kind object).2 }
  | mutate {key : StoreKey} {change : Json → Json}
    (metadata : ∀ object, w.store.object? key = some object → (change object).HasMetadata) :
    Writers w history (.mutate key (w.store.mutate key change).1)
      { w with store := (w.store.mutate key change).2 }

/-! ## §2. An update carries the version that was read -/

/-- The monitor of one program: it remembers what the program read, and lets an
    update pass only with the version of something that it read. -/
def reading : Monitor (List (StoreKey × Json)) where
  next found event := event.read?.toList ++ found
  allows found
    | .store call _ => (∃ name, call.name = .ok name) ∧ call.op ≠ .updateStatus
      ∧ (call.op = .update → ∃ read ∈ found, ∀ version, read.2.version? = some version →
        call.carried? = some version)
    | _ => False

/-- In the middle of any turns: the objects have versions of their own, and a
    version that was read is stored, if at all, under the key it was read from,
    which was not written since. -/
structure Consistent {ε α : Type} (p : Pool ε α) : Prop where
  versioned : p.world.store.Versioned
  reads : ∀ later read earlier key object, p.history = later ++ read :: earlier →
    read.event.read? = some (key, object) →
    ∃ n, n ≤ p.world.store.version ∧ object.version? = some (versionText n)
      ∧ ∀ key' object', p.world.store.object? key' = some object' →
        object'.version? = object.version? →
        key = key' ∧ ∀ entry ∈ later, entry.event.written? ≠ some key'

variable {ε α : Type} {p q : Pool ε α} {entry : Entry} {env : Environment}

/-- A call changes what it is said to write. -/
theorem changes_of_happens {w w' : World} {event : Event} (hw : w.store.Versioned)
    (h : Happens env w event w') : Changes w.store w'.store event.written? := by
  cases h with
  | manage may => exact .rest rfl (Nat.le_refl _)
  | store may answered => exact (Store.answered answered).changes hw

/-- So does what others do. -/
theorem changes_of_writers {w w' : World} {history : List Entry} {event : Event}
    (hw : w.store.Versioned) (h : Writers w history event w') :
    Changes w.store w'.store event.written? := by
  cases h with
  | read happens => exact changes_of_happens hw happens
  | restate carries happens => exact changes_of_happens hw happens
  | insert metadata => exact Store.changes_insert metadata _ _
  | mutate metadata => exact Store.changes_mutate metadata

theorem changes_of_turn (hp : p.world.store.Versioned) (turn : Turn env Writers p entry q) :
    Changes p.world.store q.world.store entry.event.written? := by
  rcases turn.happens with happens | ⟨-, may⟩
  · exact changes_of_happens hp happens
  · exact changes_of_writers hp may

/-- What is read is stored, and stays so. -/
theorem read_of_happens {w w' : World} {kind : Kind} {name : String} {ns : Option String}
    {object : Json} (h : Happens env w (.store (.get kind name ns) (.ok object)) w') :
    w'.store.objects = w.store.objects
      ∧ w.store.object? (StoreKey.of kind ns name) = some object := by
  cases h with
  | store may answered =>
    cases Store.answered answered with
    | acted named acted =>
      cases named
      cases acted with
      | read found => exact ⟨rfl, found⟩

theorem read_of_turn (turn : Turn env Writers p entry q) {key : StoreKey} {object : Json}
    (hread : entry.event.read? = some (key, object)) :
    q.world.store.objects = p.world.store.objects ∧ p.world.store.object? key = some object := by
  obtain ⟨kind, name, ns, hevent, rfl⟩ := Event.eq_of_read? hread
  rcases turn.happens with happens | ⟨-, may⟩
  · rw [hevent] at happens
    exact read_of_happens happens
  · rw [hevent] at may
    cases may with
    | read happens => exact read_of_happens happens

/-- **What was read stays consistent with what is stored.** -/
theorem Consistent.turn (hp : Consistent p) (turn : Turn env Writers p entry q) :
    Consistent q := by
  have hchanges := changes_of_turn hp.versioned turn
  refine ⟨hchanges.versioned hp.versioned, fun later read earlier key object hhistory hread => ?_⟩
  rw [turn.history_eq] at hhistory
  cases later with
  -- What was read just now is stored under its key, and under no other.
  | nil =>
    obtain ⟨rfl, -⟩ := List.cons.inj hhistory
    obtain ⟨hsame, hfound⟩ := read_of_turn turn hread
    rw [← Store.object?_congr hsame] at hfound
    obtain ⟨n, hn, hstamped⟩ := (hchanges.versioned hp.versioned).stamped key object hfound
    refine ⟨n, hn, hstamped, fun key' object' hfound' hversion => ⟨?_, ?_⟩⟩
    · exact (hchanges.versioned hp.versioned).distinct _ _ _ _ _ hfound hfound' hstamped
        (hversion.trans hstamped)
    · exact fun _ h => absurd h List.not_mem_nil
  | cons latest later =>
    obtain ⟨rfl, htail⟩ := List.cons.inj hhistory
    obtain ⟨n, hn, hstamped, hkey⟩ := hp.reads later read earlier key object htail hread
    generalize hwritten : entry.event.written? = written? at hchanges
    cases hchanges with
    | rest same version =>
      refine ⟨n, Nat.le_trans hn version, hstamped, fun key' object' hfound' hversion => ?_⟩
      rw [Store.object?_congr same] at hfound'
      obtain ⟨hsame, hlater⟩ := hkey key' object' hfound' hversion
      refine ⟨hsame, List.forall_mem_cons.2 ⟨?_, hlater⟩⟩
      rw [hwritten]
      nofun
    -- What is written has a later version, and everything else is as it was.
    | @put written new stored version stamped =>
      refine ⟨n, by omega, hstamped, fun key' object' hfound' hversion => ?_⟩
      rw [Store.object?_of_stored stored] at hfound'
      split at hfound'
      · cases hfound'
        rw [hversion, hstamped, version] at stamped
        exact absurd (Option.some.inj stamped) (Store.versionText_ne_next hn)
      · next hne =>
        obtain ⟨hsame, hlater⟩ := hkey key' object' hfound' hversion
        refine ⟨hsame, List.forall_mem_cons.2 ⟨?_, hlater⟩⟩
        rw [hwritten]
        exact fun h => hne (Option.some.inj h)

/-- How a write ends where no write is lost, and the store after that. -/
inductive Ended (p : Pool ε α) (call : StoreCall) : Except StoreError Json → Store → Prop
  /-- There was no object, and it was created. -/
  | created {name : String} {stored : Json} {after : Store} (creates : call.op = .create)
    (named : call.name = .ok name)
    (absent : p.world.store.object? (StoreKey.of call.kind call.ns? name) = none) :
    Ended p call (.ok stored) after
  /-- The object is the one that was read, and nobody wrote it since. -/
  | replaced {name version : String} {stored : Json} {after : Store} (replaces : call.op ≠ .create)
    (named : call.name = .ok name) (carries : call.carried? = some version)
    (known : ∃ entry ∈ p.history, ∃ object,
      entry.event.read? = some (StoreKey.of call.kind call.ns? name, object)
        ∧ object.version? = some version)
    (unwritten : Unwritten p.history (StoreKey.of call.kind call.ns? name) version) :
    Ended p call (.ok stored) after
  | refused {e : StoreError} {after : Store} (lost : e.LostRace)
    (same : after.objects = p.world.store.objects) : Ended p call (.error e) after
  /-- A status for an object without a name, which is no object of the store. -/
  | nameless {e : StoreError} {after : Store} (status : call.op = .updateStatus)
    (unnamed : call.name = .error e) (same : after.objects = p.world.store.objects) :
    Ended p call (.error e) after

/-- A version that is accepted is the stored one. -/
theorem eq_of_checkVersion {incoming current : Json} {carried stored : String}
    (h : Store.checkVersion incoming current = .ok ()) (hc : incoming.version? = some carried)
    (hs : current.version? = some stored) : carried = stored := by
  unfold Store.checkVersion at h
  rw [show incoming.metaString? "resourceVersion" = _ from hc,
    show current.metaString? "resourceVersion" = _ from hs] at h
  dsimp only at h
  split at h
  · assumption
  · cases h

/-- What carries the version of a read and is accepted replaces what was read. -/
theorem Consistent.unwritten (hp : Consistent p) {key : StoreKey} {current : Json}
    {version : String} (hfound : p.world.store.object? key = some current)
    (hversion : current.version? = some version) : Unwritten p.history key version := by
  intro later read earlier found object hhistory hread hobject
  obtain ⟨n, -, -, hkey⟩ := hp.reads later read earlier found object hhistory hread
  exact hkey key current hfound (hversion.trans hobject.symm)

/-- **A write ends well**, if it carries the version of something that was read,
    or creates. -/
theorem Consistent.ended (hp : Consistent p) {call : StoreCall} {answer : Except StoreError Json}
    (hwrite : call.op.isWrite = true)
    (hnamed : call.op ≠ .updateStatus → ∃ name, call.name = .ok name)
    (hcarries : call.op ≠ .create → ∃ entry ∈ p.history, ∃ key read,
      entry.event.read? = some (key, read)
        ∧ ∀ version, read.version? = some version → call.carried? = some version)
    {after : Store} (h : Store.Answered none p.world.store call answer after) :
    Ended p call answer after := by
  cases h with
  | unnamed unnamed same version =>
    refine .nameless ?_ unnamed same
    refine Decidable.byContradiction fun hstatus => ?_
    obtain ⟨name, hname⟩ := hnamed hstatus
    cases hname.symm.trans unnamed
  | injected made _ _ => cases made
  | @acted name _ _ named acted =>
    -- The object that is replaced has the version that was read.
    have hreplaced : ∀ {current stored : Json} {after : Store}, call.op ≠ .create →
        p.world.store.object? (StoreKey.of call.kind call.ns? name) = some current →
        (∀ carried version, call.carried? = some carried → current.version? = some version →
          carried = version) → Ended p call (.ok stored) after := by
      intro current stored after hcreate hfound haccepted
      obtain ⟨entry, hmem, key, read, hread, hcarried⟩ := hcarries hcreate
      obtain ⟨later, earlier, hhistory⟩ := List.append_of_mem hmem
      obtain ⟨n, -, hstamped, -⟩ := hp.reads later entry earlier key read hhistory hread
      obtain ⟨m, -, hcurrent⟩ := hp.versioned.stamped _ _ hfound
      have hsame := haccepted _ _ (hcarried _ hstamped) hcurrent
      rw [← hsame] at hcurrent
      have hunwritten := hp.unwritten hfound hcurrent
      obtain ⟨rfl, -⟩ := hunwritten later entry earlier key read hhistory hread hstamped
      exact .replaced hcreate named (hcarried _ hstamped) ⟨entry, hmem, read, hread, hstamped⟩
        hunwritten
    cases acted with
    | read found => cases hwrite
    | missing expects absent => exact .refused trivial rfl
    | taken found => exact .refused trivial rfl
    | created absent => exact .created rfl named absent
    | staleUpdate found stale => exact .refused trivial rfl
    | staleStatus found stale => exact .refused trivial rfl
    | updated found fresh =>
      exact hreplaced nofun found fun _ _ hc hs => eq_of_checkVersion fresh hc hs
    | restated found fresh =>
      exact hreplaced nofun found fun _ _ hc hs => eq_of_checkVersion fresh hc hs

/-- Where nothing fails, every call is carried out. -/
theorem answered_of_calm {w w' : World} {call : StoreCall} {answer : Except StoreError Json}
    (h : Happens calm w (.store call answer) w') :
    Store.Answered none w.store call answer w'.store := by
  cases h with
  | @store _ injected _ after may answered =>
    cases injected with
    | some e => exact (may e rfl).elim
    | none => exact Store.answered answered

end Convergence

end LoggingOperator
