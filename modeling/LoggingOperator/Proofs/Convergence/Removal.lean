/-
  LoggingOperator.Proofs.Convergence.Removal — WHAT BECOMES OF DROPPED FIELDS.

  A field that was written last and is no longer desired makes an update
  necessary, and the record that tells so is replaced by that very update.
  The field must therefore be gone with it, since no later pass could notice
  what is left.

  Outside of the annotations an update is as desired, so a dropped field is
  gone (`head?_comparable_elsewhere`).  But every stored annotation that is not
  desired is merged back, whether somebody else put it there or the record of
  the last write has it.  `vacant_dropped_iff` says exactly what is left behind:
  such annotations, and the two objects around them.  So an annotation of the
  operator's own stays for good once it is dropped from the declaration: see
  `dropped_annotation_left`.
-/
import LoggingOperator.Proofs.Convergence.Prepared

namespace LoggingOperator.Convergence

open Json Store
open Quantity (respellIf)

/-! ## §1. Dropped fields and vacant places -/

/-- At the end of a path of object keys the field `k` was last written, and the
    object that is desired there does not have it. -/
def DroppedField (kind : Kind) (desired stored : Json) (keys : List String) (k : String) : Prop :=
  ∃ last, lastApplied? stored = some last
    ∧ ((comparable kind last).head? (keys.map .key ++ [.key k])).isSome = true
    ∧ (comparable kind desired).head? (keys.map .key) = some .object
    ∧ (comparable kind desired).head? (keys.map .key ++ [.key k]) = none

section

variable {kind : Kind} {desired stored : Json} {keys : List String} {k : String}

/-- What was compared of the last write is compared of the update. -/
theorem DroppedField.visible (h : DroppedField kind desired stored keys k) :
    hidden kind (keys.map .key ++ [.key k]) = false := by
  obtain ⟨last, -, hlast, -, -⟩ := h
  obtain ⟨x, hx⟩ := Option.isSome_iff_exists.1 hlast
  exact hidden_of_head?_comparable hx

/-- Above a dropped field everything is desired. -/
theorem DroppedField.head?_above (h : DroppedField kind desired stored keys k) {front rest : Path}
    (hpath : keys.map .key ++ [.key k] = front ++ rest) (hrest : rest ≠ []) :
    (comparable kind desired).head? front ≠ none := by
  obtain ⟨last, -, -, hparent, -⟩ := h
  rw [← List.dropLast_concat_getLast hrest, ← List.append_assoc] at hpath
  obtain ⟨hkeys, -⟩ := List.append_inj' hpath rfl
  intro hnone
  rw [hkeys, head?_append_of_none hnone] at hparent
  cases hparent

/-- The field itself is not. -/
theorem DroppedField.undesired (h : DroppedField kind desired stored keys k) :
    (comparable kind desired).head? (keys.map .key ++ [.key k]) = none := by
  obtain ⟨last, -, -, -, hnone⟩ := h
  exact hnone

end

/-- At a place there is nothing, or at most an empty object. -/
def Vacant (v : Json) (p : Path) : Prop :=
  ∀ x, v.walk p = some x → x = .empty

theorem vacant_iff {v : Json} {p : Path} :
    Vacant v p ↔
      ∀ x, v.head? p = some x → x = .object ∧ ∀ k, v.head? (p ++ [.key k]) = none := by
  constructor
  · intro h x hx
    obtain ⟨y, hy, rfl⟩ := head?_eq_some.1 hx
    obtain rfl := h y hy
    refine ⟨rfl, fun k => ?_⟩
    rw [head?_append, hy]
    rfl
  · intro h y hy
    obtain ⟨hhead, hnone⟩ := h y.head (head?_eq_some.2 ⟨y, hy, rfl⟩)
    obtain ⟨fields, rfl⟩ := head_eq_object.1 hhead
    cases fields with
    | nil => rfl
    | cons f fields =>
      have hfirst := hnone f.1
      rw [head?_append, hy, Option.bind_some, head?_key, get?_object, Keyed.get?_cons,
        if_pos rfl] at hfirst
      cases hfirst

theorem vacant_of_head?_eq_none {v : Json} {p : Path} (h : v.head? p = none) : Vacant v p := by
  intro x hx
  rw [head?_eq_none.1 h] at hx
  cases hx

/-! ## §2. Where the compared part of an update comes from -/

/-- What an update leaves of dropped fields: stored annotations, and the objects
    around them. -/
inductive LeftBehind (stored : Json) : Path → Prop
  | metadata : LeftBehind stored [.key "metadata"]
  | annotations {key : String} (foreign : key ≠ lastAppliedKey)
    (found : annotated? stored key ≠ none) : LeftBehind stored annotationsPath
  | carried {key : String} {x : Json} (found : annotated? stored key = some x)
    (notEmpty : x ≠ .empty) : LeftBehind stored (annotationsPath ++ [.key key])

section

variable {kind : Kind} {desired stored object : Json}

/-- The places around the annotations, one by one. -/
theorem aroundAnnotations_cases {p : Path} (h : aroundAnnotations p = true) :
    p = [.key "metadata"] ∨ ∃ q, p = annotationsPath ++ q := by
  obtain ⟨q, rfl, hq⟩ := Region.exists_of_within h
  match q with
  | [] => exact Or.inl rfl
  | .item i :: q => cases hq
  | .key k :: q =>
    obtain rfl : k = "annotations" := by simpa using hq
    exact Or.inr ⟨q, rfl⟩

/-- What is left behind is around the annotations. -/
theorem LeftBehind.around {p : Path} (h : LeftBehind stored p) : aroundAnnotations p = true := by
  cases h with
  | metadata | annotations | carried => rfl

theorem leftBehind_annotations_iff :
    LeftBehind stored annotationsPath ↔
      ∃ key, key ≠ lastAppliedKey ∧ annotated? stored key ≠ none := by
  constructor
  · intro h
    generalize hp : annotationsPath = p at h
    cases h with
    | metadata => cases hp
    | annotations foreign found => exact ⟨_, foreign, found⟩
    | carried => cases hp
  · rintro ⟨key, foreign, found⟩
    exact .annotations foreign found

theorem leftBehind_annotation_iff {key : String} :
    LeftBehind stored (annotationsPath ++ [.key key]) ↔
      ∃ x, annotated? stored key = some x ∧ x ≠ .empty := by
  constructor
  · intro h
    generalize hp : annotationsPath ++ [.key key] = p at h
    cases h with
    | metadata | annotations => cases hp
    | carried found notEmpty =>
      cases hp
      exact ⟨_, found, notEmpty⟩
  · rintro ⟨x, found, notEmpty⟩
    exact .carried found notEmpty

theorem not_leftBehind_below {key : String} {step : PathStep} {q : Path} :
    ¬ LeftBehind stored (annotationsPath ++ .key key :: step :: q) := by
  intro h
  generalize hp : annotationsPath ++ .key key :: step :: q = p at h
  cases h with
  | metadata | annotations | carried => cases hp

/-- What is hidden of the metadata: all of it in a workload. -/
theorem hidden_metadata (kind : Kind) (p : Path) :
    hidden kind (.key "metadata" :: p)
      = (kind.isWorkload || metadataRegion (.key "metadata" :: p)) := by
  cases kind <;> simp [hidden, envelopeRegion, assignedRegion, envelopeFields, Kind.isWorkload]

theorem hidden_annotationsPath (kind : Kind) : hidden kind annotationsPath = kind.isWorkload := by
  rw [annotationsPath, hidden_metadata]
  simp [metadataRegion, platformFields]

/-- Of the annotations, the record of the last write is hidden. -/
theorem hidden_annotated (kind : Kind) (key : String) (p : Path) :
    hidden kind (annotationsPath ++ .key key :: p)
      = (kind.isWorkload || key == lastAppliedKey) := by
  show hidden kind (.key "metadata" :: .key "annotations" :: .key key :: p) = _
  rw [hidden_metadata]
  simp [metadataRegion, platformFields, Bool.beq_eq_decide_eq]

/-- The objects around the annotations of an update. -/
theorem head?_around_prepareUpdate (h : prepareUpdate kind desired stored = .ok object) :
    object.head? [.key "metadata"] = some .object
      ∧ object.head? annotationsPath = some .object := by
  obtain ⟨annotations, hwalk, -⟩ := walk_annotations_prepareUpdate h
  refine ⟨?_, head?_eq_some.2 ⟨_, hwalk, rfl⟩⟩
  obtain ⟨m, hm, hrest⟩ := Option.bind_eq_some_iff.1 hwalk
  refine head?_eq_some.2 ⟨m, by rw [walk_key, show object.get? "metadata" = some m from hm]; rfl, ?_⟩
  cases m with
  | object fields => rfl
  | _ => cases hrest

/-- What is not compared of a visible place is not there. -/
theorem walk_eq_none_of_visible {v : Json} {p : Path} (hvisible : hidden kind p = false)
    (h : (comparable kind v).head? p = none) : v.walk p = none := by
  rwa [head?_comparable_of_visible hvisible, Option.map_eq_none_iff, head?_eq_none] at h

/-- **Elsewhere an update compares like the desired object.** -/
theorem head?_comparable_elsewhere (h : prepareUpdate kind desired stored = .ok object) {p : Path}
    (haround : aroundAnnotations p = false) :
    (comparable kind object).head? p = (comparable kind desired).head? p := by
  rw [head?_comparable, head?_comparable]
  cases hmerged : mergedRegion kind p with
  | false => rw [agreeOutside_prepareUpdate h p hmerged]
  | true =>
    -- Of the other merged places none is compared.
    rw [hidden_of_mergedRegion hmerged haround]
    rfl

/-- What is compared of an annotation depends on the annotation alone. -/
theorem head?_comparable_annotated {v w : Json} {key : String}
    (h : annotated? v key = annotated? w key) (p : Path) :
    (comparable kind v).head? (annotationsPath ++ .key key :: p)
      = (comparable kind w).head? (annotationsPath ++ .key key :: p) := by
  rw [head?_comparable, head?_comparable, head?_annotated, head?_annotated, h]

/-- An annotation that is desired is sent as it is desired. -/
theorem head?_comparable_desired (h : prepareUpdate kind desired stored = .ok object)
    {key : String} (hdesired : annotated? desired key ≠ none) (p : Path) :
    (comparable kind object).head? (annotationsPath ++ .key key :: p)
      = (comparable kind desired).head? (annotationsPath ++ .key key :: p) := by
  by_cases hkey : key = lastAppliedKey
  · have hhidden : hidden kind (annotationsPath ++ .key key :: p) = true :=
      hkey ▸ hidden_lastApplied kind p
    rw [head?_comparable, head?_comparable, if_pos hhidden, if_pos hhidden]
  · obtain ⟨x, hx⟩ := Option.ne_none_iff_exists'.1 hdesired
    refine head?_comparable_annotated ?_ p
    rw [annotated?_prepareUpdate h, if_neg hkey, hx, Option.some_or]

/-- Where nothing is hidden, the compared part is as vacant as the whole. -/
theorem vacant_comparable_iff {v : Json} {p : Path} (hvisible : hidden kind p = false)
    (hbelow : ∀ k, hidden kind (p ++ [.key k]) = false) :
    Vacant (comparable kind v) p ↔ Vacant v p := by
  have hobject : ∀ b x, respellIf b x = .object ↔ x = .object := by
    intro b x
    cases b <;> cases x <;> simp [Quantity.canonicalHead]
  simp only [vacant_iff, head?_comparable_of_visible hvisible,
    head?_comparable_of_visible (hbelow _), Option.map_eq_some_iff, Option.map_eq_none_iff]
  constructor
  · intro h x hx
    obtain ⟨hhead, hnone⟩ := h _ ⟨x, hx, rfl⟩
    exact ⟨(hobject _ x).1 hhead, hnone⟩
  · rintro h _ ⟨x, hx, rfl⟩
    obtain ⟨hhead, hnone⟩ := h x hx
    exact ⟨(hobject _ x).2 hhead, hnone⟩

/-! ## §3. What is left of a dropped field -/

section Dropped

variable {keys : List String} {k : String}

/-- Metadata is always sent: at least the record of the desired object is inside. -/
theorem not_vacant_metadata (h : prepareUpdate kind desired stored = .ok object)
    (hvisible : hidden kind [.key "metadata"] = false) :
    ¬ Vacant (comparable kind object) [.key "metadata"] := by
  intro hvacant
  have hworkload : kind.isWorkload = false := by
    rw [hidden_metadata] at hvisible
    exact (Bool.or_eq_false_iff.1 hvisible).1
  obtain ⟨hmetadata, hannotations⟩ := head?_around_prepareUpdate h
  have hwhole : (comparable kind object).head? [.key "metadata"] = some .object := by
    rw [head?_comparable_of_visible hvisible, hmetadata]
    rfl
  have hinside : (comparable kind object).head? annotationsPath = none :=
    (vacant_iff.1 hvacant _ hwhole).2 "annotations"
  rw [head?_comparable_of_visible ((hidden_annotationsPath kind).trans hworkload),
    hannotations] at hinside
  cases hinside

/-- Dropped annotations: what is left is what other annotations there are. -/
theorem vacant_annotations_iff (h : prepareUpdate kind desired stored = .ok object)
    (hvisible : hidden kind annotationsPath = false)
    (hdropped : ∀ key, annotated? desired key = none) :
    Vacant (comparable kind object) annotationsPath ↔
      ∀ key, key ≠ lastAppliedKey → annotated? stored key = none := by
  have hworkload : kind.isWorkload = false := hidden_annotationsPath kind ▸ hvisible
  have hhead : (comparable kind object).head? annotationsPath = some .object := by
    rw [head?_comparable_of_visible hvisible, (head?_around_prepareUpdate h).2]
    rfl
  have hnone : ∀ key, (comparable kind object).head? (annotationsPath ++ [.key key]) = none
      ↔ key ≠ lastAppliedKey → annotated? stored key = none := by
    intro key
    rw [head?_comparable, hidden_annotated, hworkload, Bool.false_or, head?_annotated,
      annotated?_prepareUpdate h, hdropped]
    by_cases hkey : key = lastAppliedKey
    · simp [hkey]
    · cases hfound : annotated? stored key <;> simp [hkey]
  rw [vacant_iff, hhead]
  simp [hnone]

/-- A dropped annotation: what is left is the stored one. -/
theorem vacant_annotation_iff {key : String} (h : prepareUpdate kind desired stored = .ok object)
    (hvisible : hidden kind (annotationsPath ++ [.key key]) = false)
    (hdropped : annotated? desired key = none) :
    Vacant (comparable kind object) (annotationsPath ++ [.key key]) ↔
      ∀ x, annotated? stored key = some x → x = .empty := by
  have hplace : ∀ p, hidden kind (annotationsPath ++ .key key :: p) = false :=
    fun p => (hidden_annotated kind key p).trans ((hidden_annotated kind key []).symm.trans hvisible)
  have hkey : key ≠ lastAppliedKey := by
    rintro rfl
    rw [hidden_annotated, beq_self_eq_true, Bool.or_true] at hvisible
    cases hvisible
  have hmerged : annotated? object key = annotated? stored key := by
    rw [annotated?_prepareUpdate h, if_neg hkey, hdropped, Option.none_or]
  rw [vacant_comparable_iff hvisible fun k => hplace [.key k]]
  show (∀ x, annotated? object key = some x → x = .empty) ↔ _
  rw [hmerged]

/-- Where a dropped field can be around the annotations.  Below an annotation it can only
    be if the annotation itself is desired. -/
theorem DroppedField.place (h : DroppedField kind desired stored keys k) {p : Path}
    (hp : keys.map .key ++ [.key k] = p) (haround : aroundAnnotations p = true) :
    p = [.key "metadata"] ∨ p = annotationsPath ∨ (∃ key, p = annotationsPath ++ [.key key])
      ∨ ∃ key step q, p = annotationsPath ++ .key key :: step :: q
          ∧ annotated? desired key ≠ none := by
  rcases aroundAnnotations_cases haround with hmetadata | ⟨q, hq⟩
  · exact Or.inl hmetadata
  match q with
  | [] => exact Or.inr (Or.inl (hq.trans (List.append_nil _)))
  | .item i :: q =>
    have hmem : PathStep.item i ∈ keys.map .key ++ [.key k] := by
      rw [hp, hq]
      simp
    simp at hmem
  | [.key key] => exact Or.inr (Or.inr (Or.inl ⟨key, hq⟩))
  | .key key :: step :: q =>
    refine Or.inr (Or.inr (Or.inr ⟨key, step, q, hq, fun hundesired => ?_⟩))
    have habove : keys.map .key ++ [.key k] = (annotationsPath ++ [.key key]) ++ step :: q := by
      rw [hp, hq, List.append_assoc]
      rfl
    refine h.head?_above habove (List.cons_ne_nil step q) ?_
    rw [head?_comparable, head?_eq_none.2 hundesired]
    exact ite_self none

/-- **What becomes of a dropped field** with the update that replaces the record of
    it: its place in the compared part is vacant, unless an annotation of the
    stored object is left there. -/
theorem vacant_dropped_iff (h : prepareUpdate kind desired stored = .ok object) :
    Recorded desired object
      ∧ ∀ keys k, DroppedField kind desired stored keys k →
          (Vacant (comparable kind object) (keys.map .key ++ [.key k])
            ↔ ¬ LeftBehind stored (keys.map .key ++ [.key k])) := by
  refine ⟨?_, fun keys k hdropped => ?_⟩
  · show object.head? (annotationsPath ++ [.key lastAppliedKey]) = _
    rw [head?_annotated, annotated?_prepareUpdate h, if_pos rfl]
    rfl
  have hvisible := hdropped.visible
  have hnone := hdropped.undesired
  generalize hp : (keys.map .key ++ [.key k] : Path) = p at hvisible hnone ⊢
  cases haround : aroundAnnotations p with
  | false =>
    refine iff_of_true (vacant_of_head?_eq_none ?_) fun hleft => ?_
    · exact (head?_comparable_elsewhere h haround).trans hnone
    · rw [hleft.around] at haround
      cases haround
  | true =>
    -- The object around all metadata, the one around the annotations, an annotation, or below one.
    rcases hdropped.place hp haround with rfl | rfl | ⟨key, rfl⟩ | ⟨key, step, q, rfl, hdesired⟩
    · exact iff_of_false (not_vacant_metadata h hvisible) (not_not_intro .metadata)
    · have hempty : ∀ key, annotated? desired key = none := fun key => by
        rw [annotated?_eq, walk_eq_none_of_visible hvisible hnone]
        rfl
      rw [vacant_annotations_iff h hvisible hempty, leftBehind_annotations_iff]
      simp
    · rw [vacant_annotation_iff h hvisible (walk_eq_none_of_visible hvisible hnone),
        leftBehind_annotation_iff]
      simp
    · refine iff_of_true (vacant_of_head?_eq_none ?_) not_leftBehind_below
      exact (head?_comparable_desired h hdesired _).trans hnone

end Dropped

end

/-- Settings with the given entries and annotations. -/
def settingsWith (data annotations : List (String × Json)) : Json :=
  .object [("data", .object data),
    ("metadata", .object [("annotations", .object annotations), ("name", .string "settings")])]

/-- The settings as they were last written, with one entry more. -/
def lastSettings : Json :=
  settingsWith [("level", .string "info"), ("output", .string "file")] []

/-- Settings whose second entry is no longer declared. -/
def fewerSettings : Json :=
  settingsWith [("level", .string "info")] []

/-- The stored settings, annotated by somebody else. -/
def storedSettings : Json :=
  settingsWith [("level", .string "info"), ("output", .string "file")]
    [("audited", .string "true"), (lastAppliedKey, .string lastSettings.text)]

/-- An entry of a config map that is no longer declared is gone. -/
theorem vacant_dropped_iff_entry :
    ∃ object, prepareUpdate .configMap fewerSettings storedSettings = .ok object
      ∧ DroppedField .configMap fewerSettings storedSettings ["data"] "output"
      ∧ Vacant (comparable .configMap object) [.key "data", .key "output"] := by
  have hdropped : DroppedField .configMap fewerSettings storedSettings ["data"] "output" :=
    ⟨lastSettings, by decide +kernel, by decide +kernel, by decide +kernel, by decide +kernel⟩
  refine ⟨_, rfl, hdropped, ?_⟩
  obtain ⟨-, hvacant⟩ := vacant_dropped_iff
    (show prepareUpdate .configMap fewerSettings storedSettings = .ok _ from rfl)
  refine (hvacant ["data"] "output" hdropped).2 fun hleft => ?_
  have haround := hleft.around
  cases haround

/-- Settings annotated by the operator, with this record of the last write. -/
def annotatedSettings (last : Json) : Json :=
  settingsWith [("level", .string "info"), ("output", .string "file")]
    [(lastAppliedKey, .string last.text), ("ours", .string "1")]

/-- The settings as they were last written, with an annotation more. -/
def lastAnnotated : Json :=
  settingsWith [("level", .string "info"), ("output", .string "file")] [("ours", .string "1")]

/-- An annotation of the operator's own that is no longer declared makes an update
    necessary, and is still there after it.  The new record does not have it, so from
    then on the object counts as in sync. -/
theorem dropped_annotation_left :
    lastApplied? (annotatedSettings lastAnnotated) = some lastAnnotated
      ∧ DroppedField .configMap lastSettings (annotatedSettings lastAnnotated)
          ["metadata", "annotations"] "ours"
      ∧ decide .configMap lastSettings (some (annotatedSettings lastAnnotated)) = .update
      ∧ prepareUpdate .configMap lastSettings (annotatedSettings lastAnnotated)
          = .ok (annotatedSettings lastSettings)
      ∧ (comparable .configMap (annotatedSettings lastSettings)).walk
          (annotationsPath ++ [.key "ours"]) = some (.string "1")
      ∧ decide .configMap lastSettings (some (annotatedSettings lastSettings)) = .skip := by
  have hlast : lastApplied? (annotatedSettings lastAnnotated) = some lastAnnotated := by
    decide +kernel
  exact ⟨hlast, ⟨lastAnnotated, hlast, by decide +kernel, by decide +kernel, by decide +kernel⟩,
    by decide +kernel, rfl, by decide +kernel, by decide +kernel⟩

end LoggingOperator.Convergence
