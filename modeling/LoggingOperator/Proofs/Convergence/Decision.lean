/-
  LoggingOperator.Proofs.Convergence.Decision — WHEN AN OBJECT IS UPDATED.

  A stored object is left alone exactly if it is in sync and nothing was
  dropped.  Both halves are said here place by place:

    * it is in sync if every declared place is admitted (`InSync`);
    * with a readable record of the last write, a field counts as dropped if
      it is gone at the end of a path of object keys (`decide_update_iff`).
      A field inside an item of a list is out of reach of this test, though
      one like it is found outside of lists: see `skip_of_dropped_in_item`.

  An object that carries the record of the very value that is desired has
  dropped nothing, however its numbers are read back (`not_hasDropped`).
-/
import LoggingOperator.Convergence.Decision
import LoggingOperator.Proofs.Convergence.Comparable
import LoggingOperator.Proofs.Json.Rereading

namespace LoggingOperator.Convergence

open Json
open Quantity (quantityAt respellIf)

/-! ## §1. In sync -/

/-- At every declared place the stored object has what was declared, or nothing
    if that is a zero value. -/
def InSync (kind : Kind) (desired stored : Json) : Prop :=
  ∀ p x, (comparable kind desired).walk p = some x →
    x.admits ((comparable kind stored).head? p) = true

theorem contains_comparable_iff {kind : Kind} {desired stored : Json} (hd : desired.Canonical) :
    (comparable kind stored).contains (comparable kind desired) = true
      ↔ InSync kind desired stored :=
  contains_iff (canonical_comparable kind hd)

/-! ## §2. Dropped fields -/

theorem canonical_lastApplied {stored last : Json} (h : lastApplied? stored = some last) :
    last.Canonical := by
  obtain ⟨s, -, hs⟩ := Option.bind_eq_some_iff.1 h
  exact canonical_of_read? hs

/-- With a record of the last write, a field was dropped if one is gone at the
    end of a path of object keys. -/
theorem hasDropped_iff {kind : Kind} {desired stored last : Json}
    (h : lastApplied? stored = some last) :
    hasDropped kind desired stored = true ↔
      ∃ (keys : List String) (k : String),
        Gone (comparable kind last) (comparable kind desired) (comparable kind stored)
          (keys.map .key) k := by
  rw [hasDropped, h]
  exact dropped_iff (canonical_comparable kind (canonical_lastApplied h))

theorem decide_update_iff' {kind : Kind} {desired stored : Json} :
    decide kind desired (some stored) = .update ↔
      (comparable kind stored).contains (comparable kind desired) = false
        ∨ hasDropped kind desired stored = true := by
  rw [decide]
  cases (comparable kind stored).contains (comparable kind desired) <;>
    cases hasDropped kind desired stored <;> simp

theorem decide_skip_iff {kind : Kind} {desired stored : Json} :
    decide kind desired (some stored) = .skip ↔
      (comparable kind stored).contains (comparable kind desired) = true
        ∧ hasDropped kind desired stored = false := by
  rw [decide]
  cases (comparable kind stored).contains (comparable kind desired) <;>
    cases hasDropped kind desired stored <;> simp

/-- **When an object with a record of the last write is updated**: if it lacks
    something declared, or if a field that was written last and is no longer
    declared is gone at the end of a path of object keys alone.  A field that is
    gone inside an item of a list does not count. -/
theorem decide_update_iff {kind : Kind} {desired stored last : Json}
    (h : lastApplied? stored = some last) :
    decide kind desired (some stored) = .update ↔
      (comparable kind stored).contains (comparable kind desired) = false
        ∨ ∃ (keys : List String) (k : String),
          Gone (comparable kind last) (comparable kind desired) (comparable kind stored)
            (keys.map .key) k := by
  rw [decide_update_iff', hasDropped_iff h]

/-- A daemon set whose one container has the given fields. -/
def oneContainer (container annotations : List (String × Json)) : Json :=
  .object [
    ("metadata", .object [("annotations", .object annotations), ("name", .string "agent")]),
    ("spec", .object [
      ("template", .object [
        ("spec", .object [("containers", .array [.object container])])])])]

/-- The container as it was last written. -/
def withEnvFrom : List (String × Json) :=
  [("envFrom", .array [.object [("secretRef", .object [("name", .string "extra")])]]),
    ("name", .string "agent")]

/-- The container as it is declared now. -/
def withoutEnvFrom : List (String × Json) :=
  [("name", .string "agent")]

/-- An object that still has everything that was last written. -/
def storedContainer : Json :=
  oneContainer withEnvFrom [(lastAppliedKey, .string (oneContainer withEnvFrom []).text)]

theorem lastApplied?_storedContainer :
    lastApplied? storedContainer = some (oneContainer withEnvFrom []) := by
  decide +kernel

/-- The test for an update, put to an object that lost a field of its container. -/
theorem decide_update_iff_storedContainer :
    lastApplied? storedContainer = some (oneContainer withEnvFrom []) ∧
      (decide .daemonSet (oneContainer withoutEnvFrom []) (some storedContainer) = .update ↔
        (comparable .daemonSet storedContainer).contains
            (comparable .daemonSet (oneContainer withoutEnvFrom [])) = false
          ∨ ∃ (keys : List String) (k : String),
            Gone (comparable .daemonSet (oneContainer withEnvFrom []))
              (comparable .daemonSet (oneContainer withoutEnvFrom []))
              (comparable .daemonSet storedContainer) (keys.map .key) k) :=
  ⟨lastApplied?_storedContainer, decide_update_iff lastApplied?_storedContainer⟩

/-- A field that is gone from an item of a list is not seen: the stored object
    stays as it is. -/
theorem skip_of_dropped_in_item :
    lastApplied? storedContainer = some (oneContainer withEnvFrom [])
      ∧ Gone (comparable .daemonSet (oneContainer withEnvFrom []))
          (comparable .daemonSet (oneContainer withoutEnvFrom []))
          (comparable .daemonSet storedContainer)
          [.key "spec", .key "template", .key "spec", .key "containers", .item 0] "envFrom"
      ∧ decide .daemonSet (oneContainer withoutEnvFrom []) (some storedContainer) = .skip := by
  refine ⟨lastApplied?_storedContainer, ⟨?_, ?_, ?_⟩, by decide +kernel⟩
  · exact ⟨_, rfl, rfl⟩
  · exact ⟨_, rfl, rfl⟩
  · exact ⟨_, _, rfl, rfl, rfl⟩

/-! ## §3. Records of the desired value itself -/

/-- The place of the record of the last write. -/
def recordPath : Path :=
  [.key "metadata", .key "annotations", .key lastAppliedKey]

/-- The object carries the record of this desired value. -/
def Recorded (desired stored : Json) : Prop :=
  stored.head? recordPath = some (.string desired.text)

theorem lastApplied?_of_recorded {desired stored : Json} (h : Recorded desired stored) :
    lastApplied? stored = read? desired.text := by
  obtain ⟨x, hx, hhead⟩ := head?_eq_some.1 h
  have hstring : x = .string desired.text := by
    cases x <;> simp_all [head]
  have hat : stored.at? ["metadata", "annotations", lastAppliedKey]
      = some (.string desired.text) := by
    rw [at?_eq_walk, ← hstring]
    exact hx
  rw [lastApplied?, hat]
  rfl

/-- A record is kept by every change at other places. -/
theorem Recorded.congr {desired v w : Json} (h : Recorded desired v)
    (hvw : w.head? recordPath = v.head? recordPath) : Recorded desired w :=
  hvw.trans h

/-- Values of one shape have comparable parts with heads at the same places. -/
theorem isSome_comparable {kind : Kind} {v w : Json} (h : SameShape w v) (p : Path) :
    ((comparable kind w).head? p).isSome = ((comparable kind v).head? p).isSome := by
  rw [head?_comparable, head?_comparable]
  split
  · rfl
  · rw [Option.isSome_map, Option.isSome_map]
    exact h.isSome p

/-- No field is gone between a value and another one of its shape. -/
theorem not_gone {kind : Kind} {last desired stored : Json} (h : SameShape last desired)
    {p : Path} {k : String} :
    ¬ Gone (comparable kind last) (comparable kind desired) stored p k := by
  rintro ⟨⟨lf, hl, hlk⟩, ⟨df, hd, hdk⟩, -⟩
  have hfield : ∀ {v : Json} {fields : List (String × Json)},
      v.walk p = some (.object fields) →
      (v.head? (p ++ [.key k])).isSome = Keyed.has k fields := by
    intro v fields hv
    rw [head?_append, hv]
    exact isSome_head?_key k (.object fields)
  -- A field that is gone would be at a place where only one of the two has a head.
  have hsame : ((comparable kind last).head? (p ++ [.key k])).isSome
      = ((comparable kind desired).head? (p ++ [.key k])).isSome := isSome_comparable h _
  rw [hfield hl, hfield hd, hlk, hdk] at hsame
  cases hsame

/-- **An object with the record of the desired value has dropped nothing.** -/
theorem not_hasDropped {kind : Kind} {desired stored : Json} (hd : desired.Canonical)
    (h : Recorded desired stored) : hasDropped kind desired stored = false := by
  have hlast := lastApplied?_of_recorded h
  cases hread : read? desired.text with
  | none =>
    rw [hasDropped, hlast, hread]
  | some last =>
    rw [hread] at hlast
    cases hdropped : hasDropped kind desired stored with
    | false => rfl
    | true =>
      obtain ⟨keys, k, hgone⟩ := (hasDropped_iff hlast).1 hdropped
      exact absurd hgone (not_gone (sameShape_of_read?_text hd hread))

/-- An object that is in sync and carries the record of the desired value is
    left alone. -/
theorem decide_skip {kind : Kind} {desired stored : Json} (hd : desired.Canonical)
    (hsync : InSync kind desired stored) (hrecord : Recorded desired stored) :
    decide kind desired (some stored) = .skip :=
  decide_skip_iff.2 ⟨(contains_comparable_iff hd).2 hsync, not_hasDropped hd hrecord⟩

end LoggingOperator.Convergence
