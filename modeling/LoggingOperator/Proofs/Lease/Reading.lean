/-
  LoggingOperator.Proofs.Lease.Reading — A LEASE IS READ AS IT WAS WRITTEN.

  A candidate decides on what it reads, and what it reads was written by itself
  or by another one, stored by the platform as a document, and sent as a text.
  If the stored document has the spec that was written, that spec is read back
  (`spec_of_document`), provided that its times are whole microseconds
  (`Recordable`); and the version of the document is read as it is, so that a
  write carries the version of the lease that was read (`version_toJson`).

  Nothing is asked of the rest of the document, which the platform fills in.
-/
import LoggingOperator.Kube.Object
import LoggingOperator.Lease.Basic
import LoggingOperator.Proofs.Json.Seen
import LoggingOperator.Proofs.Kube.Object
import LoggingOperator.Proofs.Time.Timestamp

namespace LoggingOperator

open Json Json.Record

namespace LeaseSpec

/-! ## §1. Reading a spec -/

/-- The times of the spec are recorded exactly. -/
structure Recordable (s : LeaseSpec) : Prop where
  acquired : ∀ t, s.acquireTime = some t → t.OnMicrosecond
  renewed : ∀ t, s.renewTime = some t → t.OnMicrosecond

/-- The value holds the fields of the spec. -/
structure Shown (s : LeaseSpec) (v : Json) : Prop where
  object : v.isObject = true
  acquireTime : v.get? "acquireTime" = s.acquireTime.map Instant.toMicroJson
  holder : v.get? "holderIdentity" = s.holder.map .string
  durationSeconds : v.get? "leaseDurationSeconds" = s.durationSeconds.map int32
  transitions : v.get? "leaseTransitions" = s.transitions.map int32
  renewTime : v.get? "renewTime" = s.renewTime.map Instant.toMicroJson

theorem shown_toJson (s : LeaseSpec) : s.Shown s.toJson where
  object := rfl
  acquireTime := by simp [toJson, Keyed.get?_append]
  holder := by simp [toJson, Keyed.get?_append]
  durationSeconds := by simp [toJson, Keyed.get?_append]
  transitions := by simp [toJson, Keyed.get?_append]
  renewTime := by simp [toJson, Keyed.get?_append]

/-- An optional time is read back if it is recorded exactly. -/
theorem optional_time {v : Json} {key : String} {o : Option Instant}
    (hget : v.get? key = o.map Instant.toMicroJson) (h : ∀ t, o = some t → t.OnMicrosecond) :
    optional v key Instant.ofJson? = some o := by
  cases o with
  | none => simp [Record.optional, hget]
  | some t =>
    have hread : Instant.ofJson? t.toMicroJson = some t := by
      show (some t.microText).bind Instant.ofText? = _
      rw [Option.bind_some, Instant.ofText?_microText (h t rfl)]
    simp only [Record.optional, hget, Option.map_some]
    show (Instant.ofJson? t.toMicroJson).map some = _
    rw [hread, Option.map_some]

/-- **A spec is read back from its fields**, if its times are recorded exactly. -/
theorem ofJson?_of_shown {s : LeaseSpec} {v : Json} (h : s.Shown v) (hs : s.Recordable) :
    ofJson? v = some s := by
  have hobject : object? v = some v := if_pos h.object
  have hacquire := optional_time h.acquireTime hs.acquired
  have hrenew := optional_time h.renewTime hs.renewed
  have hholder : optional v "holderIdentity" string? = some s.holder :=
    optional_eq h.holder (fun _ => rfl) nofun
  have hduration : optional v "leaseDurationSeconds" int32? = some s.durationSeconds :=
    optional_eq h.durationSeconds int32?_int32 nofun
  have htransitions : optional v "leaseTransitions" int32? = some s.transitions :=
    optional_eq h.transitions int32?_int32 nofun
  simp only [ofJson?, hobject, hacquire, hholder, hduration, htransitions, hrenew,
    Option.bind_eq_bind, Option.bind_some]
  rfl

/-- Specs whose times are recorded exactly are written differently if they differ. -/
theorem eq_of_toJson_eq {s s' : LeaseSpec} (hs : s.Recordable) (hs' : s'.Recordable)
    (h : s.toJson = s'.toJson) : s = s' := by
  have hread := ofJson?_of_shown s.shown_toJson hs
  rw [h, ofJson?_of_shown s'.shown_toJson hs'] at hread
  exact (Option.some.inj hread).symm

@[simp] theorem canonical_toJson (s : LeaseSpec) : s.toJson.Canonical := by
  simp [toJson, Instant.toMicroJson]

/-- An optional field is seen as it is written, if its values are. -/
theorem get?_of_seen {α : Type} {layout inner : Layout} {depth : Nat}
    {fields : List (String × Json)} {w : Json} {write : α → Json}
    (hwrite : ∀ {a depth y}, Seen inner depth (write a) y → y = write a)
    (hfields : (Json.object fields).Canonical) (h : Seen layout (depth + 1) (.object fields) w)
    {k : String} (hknown : layout.known? k = some inner) {o : Option α}
    (hget : (Json.object fields).get? k = o.map write) : w.get? k = o.map write := by
  cases o with
  | none => exact h.absent hfields hget
  | some a =>
    obtain ⟨y, hy, hseen⟩ := h.known hfields hknown hget
    rw [hy, hwrite hseen]
    rfl

/-- What is seen of the text of a spec has all its fields. -/
theorem shown_of_seen {s : LeaseSpec} {depth : Nat} {w : Json}
    (h : Seen layout (depth + 1) s.toJson w) : s.Shown w := by
  have hs := s.shown_toJson
  have hcanonical := s.canonical_toJson
  obtain ⟨fields, hfields⟩ : ∃ fields, s.toJson = .object fields := ⟨_, rfl⟩
  rw [hfields] at h hs hcanonical
  have hint : ∀ {n : Int32} {depth : Nat} {y : Json}, Seen .whole depth (int32 n) y → y = int32 n :=
    fun hseen => hseen.eq_of_integer
  exact {
    object := (Seen.get?_of_object hcanonical h).1
    acquireTime := get?_of_seen Seen.string_iff.1 hcanonical h rfl hs.acquireTime
    holder := get?_of_seen Seen.string_iff.1 hcanonical h rfl hs.holder
    durationSeconds := get?_of_seen hint hcanonical h rfl hs.durationSeconds
    transitions := get?_of_seen hint hcanonical h rfl hs.transitions
    renewTime := get?_of_seen Seen.string_iff.1 hcanonical h rfl hs.renewTime }

end LeaseSpec

namespace Lease

/-! ## §2. Reading a lease -/

variable {d : Json} {doc : Document} {lease : Lease}

/-- What is seen of a stored document. -/
theorem exists_seen (hd : d.Canonical) (hspec : (d.get? "spec").isSome = true)
    (hdoc : Document.ofText? d.text = some doc) (hlease : ofDocument? doc = some lease) :
    ∃ fields w, d = .object fields ∧ Seen layout (126 + 1) (.object fields) w
      ∧ ofJson? w = some lease := by
  obtain ⟨w, hseen, hread⟩ := exists_seen_of_readAs? hdoc hlease
  cases d with
  | object fields => exact ⟨fields, w, rfl, hseen, hread⟩
  | _ => cases hspec

theorem eq_of_object? {v v' : Json} (h : object? v = some v') : v = v' := by
  rw [object?] at h
  split at h
  · exact Option.some.inj h
  · cases h

/-- How the version in metadata is read. -/
theorem resourceVersion_of_ofJson? {v : Json} {m : Metadata} (h : Metadata.ofJson? v = some m) :
    optional v "resourceVersion" string? = some m.resourceVersion := by
  -- Twelve fields are read before the version, and two after it.
  obtain ⟨v', hv, h⟩ := Option.bind_eq_some_iff.1 h
  obtain rfl := eq_of_object? hv
  iterate 12 obtain ⟨_, -, h⟩ := Option.bind_eq_some_iff.1 h
  obtain ⟨version, hversion, h⟩ := Option.bind_eq_some_iff.1 h
  iterate 2 obtain ⟨_, -, h⟩ := Option.bind_eq_some_iff.1 h
  cases h
  exact hversion

/-- How the parts of a lease are read. -/
theorem parts_of_ofJson? {w : Json} (h : ofJson? w = some lease) :
    zeroed w "metadata" {} Metadata.ofJson? = some lease.metadata
      ∧ optional w "spec" LeaseSpec.ofJson? = some lease.spec := by
  simp only [ofJson?, Option.bind_eq_bind, Option.bind_eq_some_iff] at h
  obtain ⟨v, hv, _, -, _, -, metadata, hmetadata, spec, hspec, hlease⟩ := h
  obtain rfl := eq_of_object? hv
  cases hlease
  exact ⟨hmetadata, hspec⟩

/-- **The spec that was written is read back.** -/
theorem spec_of_document {s : LeaseSpec} (hs : s.Recordable) (hd : d.Canonical)
    (hspec : d.get? "spec" = some s.toJson) (hdoc : Document.ofText? d.text = some doc)
    (hlease : ofDocument? doc = some lease) : lease.spec = some s := by
  obtain ⟨fields, w, rfl, hseen, hread⟩ := exists_seen hd (by rw [hspec]; rfl) hdoc hlease
  obtain ⟨-, hpart⟩ := parts_of_ofJson? hread
  obtain ⟨y, hy, hinner⟩ := hseen.known hd (k := "spec") rfl hspec
  have hshown := LeaseSpec.shown_of_seen hinner
  have hvalue := LeaseSpec.ofJson?_of_shown hshown hs
  rw [Record.optional, hy] at hpart
  cases y with
  | object =>
    simp only [hvalue, Option.map_some] at hpart
    exact (Option.some.inj hpart).symm
  | _ => cases hshown.object

/-- **The version of a document is read as it is.** -/
theorem version_of_document {version : String} (hd : d.Canonical)
    (hspec : (d.get? "spec").isSome = true)
    (hversion : d.metaString? "resourceVersion" = some version)
    (hdoc : Document.ofText? d.text = some doc) (hlease : ofDocument? doc = some lease) :
    lease.metadata.resourceVersion = some version := by
  obtain ⟨fields, w, rfl, hseen, hread⟩ := exists_seen hd hspec hdoc hlease
  obtain ⟨hpart, -⟩ := parts_of_ofJson? hread
  -- The metadata is an object with a text as its version.
  obtain ⟨x, hx, hstring⟩ := Option.bind_eq_some_iff.1 hversion
  obtain ⟨m, hm, hx⟩ := Option.bind_eq_some_iff.1 hx
  obtain ⟨entries, rfl⟩ : ∃ entries, m = .object entries := by
    cases m with
    | object entries => exact ⟨entries, rfl⟩
    | _ => cases hx
  obtain rfl : x = .string version := by
    cases x with
    | string s => exact congrArg Json.string (Option.some.inj hstring)
    | _ => cases hstring
  obtain ⟨y, hy, hinner⟩ := hseen.known hd (k := "metadata") rfl hm
  have hentries : (Json.object entries).Canonical := hd.get? hm
  have hseenVersion : y.get? "resourceVersion" = (some version).map Json.string :=
    LeaseSpec.get?_of_seen Seen.string_iff.1 hentries hinner rfl hx
  obtain ⟨hobject, -⟩ := Seen.get?_of_object hentries hinner
  have hmetadata : Metadata.ofJson? y = some lease.metadata := by
    rw [zeroed, hy] at hpart
    cases y with
    | object => exact hpart
    | _ => cases hobject
  have hfield := resourceVersion_of_ofJson? hmetadata
  rw [Record.optional, hseenVersion] at hfield
  exact (Option.some.inj hfield).symm

/-! ## §3. Writing a lease -/

/-- A lease is written with its spec. -/
theorem spec_toJson {s : LeaseSpec} (h : lease.spec = some s) :
    lease.toJson.get? "spec" = some s.toJson := by
  simp [toJson, Keyed.get?_append, h]

/-- **A lease is written with the version that was read.** -/
theorem version_toJson (lease : Lease) :
    lease.toJson.metaString? "resourceVersion" = lease.metadata.resourceVersion := by
  have hmetadata : lease.toJson.get? "metadata" = some lease.metadata.toJson := by
    simp [toJson, Keyed.get?_append]
  rw [metaString?, hmetadata, Option.bind_some, Metadata.get?_resourceVersion]
  cases lease.metadata.resourceVersion <;> rfl

/-- A lease without managed fields is written as a canonical value. -/
theorem canonical_toJson (h : lease.metadata.managedFields = none) : lease.toJson.Canonical := by
  simp [toJson, Metadata.canonical_toJson h]

end Lease

end LoggingOperator
