/-
  LoggingOperator.Proofs.Management.Echo — WHAT A CLUSTER MAKES OF A BODY.

  A cluster does not echo an index template or a lifecycle policy as it was put.
  Dotted keys of settings come back nested at their dots, numbers come back as
  texts, and fields are added that nobody declared (`Echo`, `Extended`).

  The settings of a body are the set of their leaves, each a path joined by dots
  and a text.  Nesting a key and spelling out a value leave this set as it is,
  and what is added lies on other paths (`Reflects.echo`).  So a body is
  contained in everything that becomes of it (`contains_of_echoed`,
  `contains_of_extended`).
-/
import LoggingOperator.Proofs.Convergence.Normalisation
import LoggingOperator.Proofs.Pass.Template

namespace LoggingOperator

open Json Json.Record

/-! ## §1. Containment field by field -/

/-- What is in a list of pairs is found under its key, or something before it is. -/
theorem Keyed.isSome_get?_of_mem {α : Type} {key : String} {v : α} {entries : List (String × α)}
    (h : (key, v) ∈ entries) : (get? key entries).isSome = true := by
  induction entries with
  | nil => cases h
  | cons entry rest ih =>
    rw [get?_cons]
    split
    · rfl
    · next hne =>
      rcases List.mem_cons.1 h with rfl | h
      · exact absurd rfl hne
      · exact ih h

namespace Json

/-- Every value contains itself. -/
theorem contains_self {v : Json} (h : v.Canonical) : v.contains v = true := by
  refine (contains_iff h).2 fun p x hx => ?_
  rw [head?, hx]
  exact admits_head x

theorem contains_of_fields {stored desired : Json} (hstored : stored.isObject = true)
    (hdesired : desired.isObject = true) (hcanonical : desired.Canonical)
    (h : ∀ key x, desired.get? key = some x →
      ∃ found, stored.get? key = some found ∧ found.contains x = true) :
    stored.contains desired = true := by
  cases stored with
  | object fields =>
    cases desired with
    | object declared =>
      rw [contains, containsFields_iff]
      rintro ⟨key, x⟩ hmem
      obtain ⟨found, hfound, hcontains⟩ := h key x (hcanonical.sorted.get?_of_mem hmem)
      rw [get?_object] at hfound
      dsimp only
      rw [hfound]
      exact hcontains
    | _ => cases hdesired
  | _ => cases hstored

@[simp] theorem isObject_set (v : Json) (key : String) (x : Json) :
    (v.set key x).isObject = v.isObject := by
  cases v <;> rfl

@[simp] theorem isObject_remove (v : Json) (key : String) :
    (v.remove key).isObject = v.isObject := by
  cases v <;> rfl

@[simp] theorem isObject_modify (v : Json) (key : String) (f : Json → Json) :
    (v.modify key f).isObject = v.isObject := by
  cases v <;> rfl

theorem isObject_of_get? {v x : Json} {key : String} (h : v.get? key = some x) :
    v.isObject = true := by
  cases v with
  | object fields => rfl
  | _ => cases h

/-- The view of an object in which a field was set. -/
theorem get?_set_of_isObject {v : Json} (h : v.isObject = true) (key k : String) (x : Json) :
    (v.set k x).get? key = if k = key then some x else v.get? key := by
  cases v with
  | object fields => exact get?_set key k x fields
  | _ => cases h

theorem Canonical.alter {f : Json → Json} (hf : ∀ x, x.Canonical → (f x).Canonical)
    {keys : List String} {v : Json} (h : v.Canonical) :
    (v.alter f (keys.map .key)).Canonical := by
  induction keys generalizing v with
  | nil => exact hf v h
  | cons key keys ih => exact h.modify fun x hx => ih hx

end Json

/-! ## §2. Settings as the set of their leaves -/

namespace Management

variable {v : Json} {path : String} {pair : String × String}

theorem mem_leavesOf {fields : List (String × Json)} :
    pair ∈ leavesOf path fields ↔ ∃ f ∈ fields, pair ∈ leaves (joinPath path f.1) f.2 := by
  induction fields with
  | nil => simp [leavesOf]
  | cons f rest ih =>
    obtain ⟨key, x⟩ := f
    rw [leavesOf, List.mem_append, ih]
    simp

/-- The leaves of an object are those of its fields. -/
theorem mem_leaves_iff (hv : v.Canonical) (hobject : v.isObject = true) :
    pair ∈ leaves path v ↔
      ∃ key x, v.get? key = some x ∧ pair ∈ leaves (joinPath path key) x := by
  cases v with
  | object fields =>
    rw [leaves, mem_leavesOf]
    constructor
    · rintro ⟨⟨key, x⟩, hmem, hpair⟩
      exact ⟨key, x, hv.sorted.get?_of_mem hmem, hpair⟩
    · rintro ⟨key, x, hget, hpair⟩
      exact ⟨(key, x), Keyed.mem_of_get? hget, hpair⟩
  | _ => cases hobject

/-- A leaf is there after a change inside if it is as before at the place of the
    change. -/
theorem mem_leaves_alter {f : Json → Json} (hf : ∀ x, x.Canonical → (f x).Canonical)
    {keys : List String} {target : Json} (hv : v.Canonical)
    (htarget : v.walk (keys.map .key) = some target)
    (h : pair ∈ leaves (keys.foldl joinPath path) (f target)
      ↔ pair ∈ leaves (keys.foldl joinPath path) target) :
    pair ∈ leaves path (v.alter f (keys.map .key)) ↔ pair ∈ leaves path v := by
  induction keys generalizing v path with
  | nil =>
    cases htarget
    exact h
  | cons key keys ih =>
    rw [List.map_cons, walk_key] at htarget
    obtain ⟨x, hx, htarget⟩ := Option.bind_eq_some_iff.1 htarget
    have hinside := ih (hv.get? hx) htarget h
    have hobject := isObject_of_get? hx
    rw [List.map_cons, alter, mem_leaves_iff (hv.modify fun y hy => hy.alter hf) (by simpa),
      mem_leaves_iff hv hobject]
    -- Only the field that leads to the place is another one.
    constructor
    · rintro ⟨key', y, hy, hpair⟩
      rw [get?_modify] at hy
      split at hy
      · next hkey =>
        subst hkey
        rw [hx, Option.map_some] at hy
        cases hy
        exact ⟨key, x, hx, hinside.1 hpair⟩
      · exact ⟨key', y, hy, hpair⟩
    · rintro ⟨key', y, hy, hpair⟩
      by_cases hkey : key = key'
      · subst hkey
        cases hx.symm.trans hy
        exact ⟨key, _, by rw [get?_modify, if_pos rfl, hx]; rfl, hinside.2 hpair⟩
      · exact ⟨key', y, by rw [get?_modify, if_neg hkey, hy], hpair⟩

/-- The leaves of an object are those of a field, if there is one, and those of the
    rest. -/
theorem mem_leaves_remove (key : String) (hv : v.Canonical) (hobject : v.isObject = true) :
    pair ∈ leaves path v
      ↔ (∃ x, v.get? key = some x ∧ pair ∈ leaves (joinPath path key) x)
        ∨ pair ∈ leaves path (v.remove key) := by
  rw [mem_leaves_iff hv.remove (by simpa), mem_leaves_iff hv hobject]
  simp only [get?_remove]
  constructor
  · rintro ⟨key', y, hy, hpair⟩
    by_cases hkey : key = key'
    · subst hkey
      exact Or.inl ⟨y, hy, hpair⟩
    · exact Or.inr ⟨key', y, (if_neg hkey).trans hy, hpair⟩
  · rintro (⟨x, hx, hpair⟩ | ⟨key', y, hy, hpair⟩)
    · exact ⟨key, x, hx, hpair⟩
    · split at hy
      · cases hy
      · exact ⟨key', y, hy, hpair⟩

/-- A field that is set has its own leaves, and those of the rest stay. -/
theorem mem_leaves_set {key : String} {x : Json} (hv : v.Canonical) (hx : x.Canonical)
    (hobject : v.isObject = true) :
    pair ∈ leaves path (v.set key x)
      ↔ pair ∈ leaves (joinPath path key) x ∨ pair ∈ leaves path (v.remove key) := by
  have hrest : pair ∈ leaves path ((v.set key x).remove key)
      ↔ pair ∈ leaves path (v.remove key) := by
    rw [mem_leaves_iff (hv.set hx).remove (by simpa), mem_leaves_iff hv.remove (by simpa)]
    simp only [get?_remove, get?_set_of_isObject hobject]
    exact exists_congr fun key' => exists_congr fun y => by split <;> rfl
  rw [mem_leaves_remove key (hv.set hx) (by simpa), hrest, get?_set_of_isObject hobject, if_pos rfl]
  simp

/-- A field that is added where there was none adds its own leaves. -/
theorem mem_leaves_add {key : String} {x : Json} (hv : v.Canonical) (hx : x.Canonical)
    (hobject : v.isObject = true) (hfree : v.get? key = none) :
    pair ∈ leaves path (v.set key x)
      ↔ pair ∈ leaves (joinPath path key) x ∨ pair ∈ leaves path v := by
  rw [mem_leaves_set hv hx hobject, mem_leaves_remove key hv hobject, hfree]
  simp

/-- A dotted key is longer than its part before the dot. -/
theorem dotted_ne (outer inner : String) : s!"{outer}.{inner}" ≠ outer := by
  intro h
  have hlength := congrArg (fun s => s.toList.length) h
  simp [String.toList_append, toString] at hlength

/-- Two keys that are joined one after the other. -/
theorem joinPath_joinPath {outer inner : String} (h : outer ≠ "") (path : String) :
    joinPath (joinPath path outer) inner = joinPath path s!"{outer}.{inner}" := by
  by_cases hpath : path = ""
  · rw [joinPath, joinPath, if_pos hpath, if_neg h, joinPath, if_pos hpath]
  · have hne : s!"{path}.{outer}" ≠ "" := by
      intro hempty
      have hlength := congrArg (fun s => s.toList.length) hempty
      simp [String.toList_append, toString] at hlength
    rw [joinPath, joinPath, if_neg hpath, if_neg hne, joinPath, if_neg hpath]
    simp [toString, String.append_assoc]

/-- The text of a setting whose path has one text alone. -/
theorem get?_ofLeaves {pairs : List (String × String)} {key text : String}
    (h : ∀ t, (key, t) ∈ pairs ↔ t = text) : (ofLeaves pairs).get? key = some (.string text) := by
  have hentry : (key, Json.string text) ∈ pairs.reverse.map fun pair => (pair.1, .string pair.2) :=
    List.mem_map.2 ⟨(key, text), List.mem_reverse.2 ((h text).2 rfl), rfl⟩
  obtain ⟨x, hx⟩ := Option.isSome_iff_exists.1 (Keyed.isSome_get?_of_mem hentry)
  obtain ⟨⟨_, t⟩, hpair, heq⟩ := List.mem_map.1 (Keyed.mem_of_get? hx)
  cases heq
  rw [ofLeaves, get?_ofFields, hx, (h t).1 (List.mem_reverse.1 hpair)]

end Management

/-! ## §3. Echoes of a template -/

namespace Management

open Manifest (templateBody settingFields setting?_templateBody canonical_templateBody)

/-- The place of an object inside the settings of a body. -/
def settingsPlace (keys : List String) : Path :=
  .key "settings" :: keys.map .key

/-- The path of a place inside the settings, joined by dots. -/
def joined (keys : List String) : String :=
  keys.foldl joinPath ""

/-- The object with the field under a dotted key moved into the object under the part
    before the dot, which is made if there is none. -/
def nest (outer inner : String) (object : Json) : Json :=
  match object.get? s!"{outer}.{inner}" with
  | some v =>
    (object.remove s!"{outer}.{inner}").set outer
      (((object.get? outer).getD .empty).set inner v)
  | none => object

/-- One way in which a cluster echoes another body for a template than it was sent. -/
inductive Echo (spec : IndexTemplateSpec) : Json → Json → Prop
  /-- A dotted key of the settings is nested at one of its dots. -/
  | nest {stored object : Json} (keys : List String) (outer inner : String)
    (there : stored.walk (settingsPlace keys) = some object)
    (found : (object.get? s!"{outer}.{inner}").isSome = true) (named : outer ≠ "")
    (free : ∀ nested, object.get? outer = some nested →
      nested.isObject = true ∧ nested.get? inner = none) :
    Echo spec stored (stored.alter (nest outer inner) (settingsPlace keys))
  /-- The value of a setting is turned into its text. -/
  | spellOut {stored v : Json} (keys : List String)
    (there : stored.walk (settingsPlace keys) = some v) (leaf : IsLeaf v) :
    Echo spec stored (stored.alter (fun v => .string (leafText v)) (settingsPlace keys))
  /-- Inside the settings a field is added whose paths the body does not set. -/
  | addSetting {stored object : Json} (keys : List String) (key : String) (x : Json)
    (there : stored.walk (settingsPlace keys) = some object) (isObject : object.isObject = true)
    (free : object.get? key = none) (canonical : x.Canonical)
    (unset : ∀ pair ∈ leaves (joined (keys ++ [key])) x,
      setting? (templateBody spec) pair.1 = none) :
    Echo spec stored (stored.alter (·.set key x) (settingsPlace keys))
  /-- A field is added that the body does not set. -/
  | addField {stored : Json} (key : String) (x : Json) (canonical : x.Canonical)
    (unset : (templateBody spec).get? key = none) : Echo spec stored (stored.set key x)

/-- What may become of the body of a template. -/
inductive Echoed (spec : IndexTemplateSpec) : Json → Prop
  | body : Echoed spec (templateBody spec)
  | more {stored edited : Json} (before : Echoed spec stored) (echo : Echo spec stored edited) :
    Echoed spec edited

/-- What all echoes of a body have in common: the patterns, and the texts of the
    settings that it sets. -/
structure Reflects (spec : IndexTemplateSpec) (stored : Json) : Prop where
  canonical : stored.Canonical
  patterns : stored.get? "index_patterns" = some (strings spec.patterns)
  settings : ∃ settings, stored.get? "settings" = some settings ∧ settings.isObject = true
    ∧ ∀ key text, setting? (templateBody spec) key = some (.string text) →
      ∀ t, (key, t) ∈ leaves "" settings ↔ t = text

variable {spec : IndexTemplateSpec} {stored : Json}

theorem reflects_templateBody (spec : IndexTemplateSpec) : Reflects spec (templateBody spec) := by
  refine ⟨canonical_templateBody spec, get?_ofFields _ _, .ofFields (settingFields spec.settings),
    get?_ofFields _ _, rfl, fun key text htext t => ?_⟩
  have hleaf := Manifest.isLeaf_settingFields spec.settings
  rw [setting?_templateBody] at htext
  obtain ⟨x, hx, hxtext⟩ := Option.map_eq_some_iff.1 htext
  obtain rfl : leafText x = text := Json.string.inj hxtext
  have hcanonical : (Json.ofFields (settingFields spec.settings)).Canonical := by
    simp [settingFields]
  rw [mem_leaves_iff hcanonical rfl]
  constructor
  · rintro ⟨key', y, hy, hpair⟩
    rw [get?_ofFields] at hy
    rw [leaves_of_isLeaf (hleaf _ (Keyed.mem_of_get? hy)), List.mem_singleton] at hpair
    obtain ⟨hkey, rfl⟩ := Prod.mk.inj hpair
    rw [joinPath, if_pos rfl] at hkey
    subst hkey
    rw [Option.some.inj (hy.symm.trans hx)]
  · rintro rfl
    refine ⟨key, x, by rw [get?_ofFields, hx], ?_⟩
    rw [leaves_of_isLeaf (hleaf _ (Keyed.mem_of_get? hx)), joinPath, if_pos rfl]
    exact List.mem_singleton.2 rfl

/-- A change inside the settings that leaves the set of leaves alone, as far as the
    body sets it. -/
theorem Reflects.alter (h : Reflects spec stored) {f : Json → Json} {keys : List String}
    {target : Json} (there : stored.walk (settingsPlace keys) = some target)
    (hf : ∀ x, x.Canonical → (f x).Canonical)
    (hobject : target.isObject = true → (f target).isObject = true)
    (hleaves : ∀ key text, setting? (templateBody spec) key = some (.string text) → ∀ t,
      (key, t) ∈ leaves (joined keys) (f target) ↔ (key, t) ∈ leaves (joined keys) target) :
    Reflects spec (stored.alter f (settingsPlace keys)) := by
  obtain ⟨hcanonical, hpatterns, settings, hsettings, hisObject, htexts⟩ := h
  have hinside := hcanonical.get? hsettings
  rw [settingsPlace, walk_key, hsettings, Option.bind_some] at there
  refine ⟨hcanonical.modify fun x hx => hx.alter hf, ?_, settings.alter f (keys.map .key), ?_, ?_,
    fun key text htext t => ?_⟩
  · rw [settingsPlace, Json.alter, get?_modify, if_neg (by decide), hpatterns]
  · rw [settingsPlace, Json.alter, get?_modify, if_pos rfl, hsettings]
    rfl
  · cases keys with
    | nil =>
      cases there
      exact hobject hisObject
    | cons key keys => simpa [Json.alter] using hisObject
  · rw [mem_leaves_alter hf hinside there (hleaves key text htext t)]
    exact htexts key text htext t

/-- **Nesting a dotted key leaves the leaves as they are.** -/
theorem mem_leaves_nest {object : Json} {outer inner path : String} {pair : String × String}
    (hcanonical : object.Canonical) (found : (object.get? s!"{outer}.{inner}").isSome = true)
    (named : outer ≠ "") (free : ∀ nested, object.get? outer = some nested →
      nested.isObject = true ∧ nested.get? inner = none) :
    pair ∈ leaves path (nest outer inner object) ↔ pair ∈ leaves path object := by
  obtain ⟨v, hv⟩ := Option.isSome_iff_exists.1 found
  have hobject := isObject_of_get? hv
  have hvCanonical := hcanonical.get? hv
  let inside := (object.get? outer).getD .empty
  have hinside : inside.Canonical ∧ inside.isObject = true ∧ inside.get? inner = none
      ∧ ∀ path, pair ∈ leaves path inside
        ↔ ∃ x, object.get? outer = some x ∧ pair ∈ leaves path x := by
    cases hnested : object.get? outer with
    | none =>
      have hempty : inside = .object [] := by simp [inside, hnested, Json.empty]
      rw [hempty]
      exact ⟨canonical_empty, rfl, rfl, by simp [leaves, leavesOf]⟩
    | some nested =>
      obtain ⟨hisObject, hnone⟩ := free nested hnested
      simp [inside, hnested, hisObject, hnone, hcanonical.get? hnested]
  obtain ⟨hinsideCanonical, hinsideObject, hnone, hinsideLeaves⟩ := hinside
  have houter : (object.remove s!"{outer}.{inner}").get? outer = object.get? outer := by
    rw [get?_remove, if_neg (dotted_ne outer inner)]
  have hnest : nest outer inner object
      = (object.remove s!"{outer}.{inner}").set outer (inside.set inner v) := by
    rw [nest, hv]
  rw [hnest, mem_leaves_set hcanonical.remove (hinsideCanonical.set hvCanonical) (by simpa),
    mem_leaves_add hinsideCanonical hvCanonical hinsideObject hnone, joinPath_joinPath named,
    hinsideLeaves, mem_leaves_remove s!"{outer}.{inner}" hcanonical hobject, hv,
    mem_leaves_remove outer hcanonical.remove (by simpa), houter]
  simp [or_assoc]

theorem canonical_nest {object : Json} {outer inner : String} (h : object.Canonical) :
    (nest outer inner object).Canonical := by
  unfold nest
  split
  · next v hv =>
    refine h.remove.set (Canonical.set ?_ (h.get? hv))
    cases hnested : object.get? outer with
    | none => exact canonical_empty
    | some nested => exact h.get? hnested
  · exact h

theorem isObject_nest {object : Json} {outer inner : String} (h : object.isObject = true) :
    (nest outer inner object).isObject = true := by
  unfold nest
  split <;> simpa

/-- **No echo hides what the body sets.** -/
theorem Reflects.echo {edited : Json} (h : Reflects spec stored) (echo : Echo spec stored edited) :
    Reflects spec edited := by
  have hinside : ∀ {keys : List String} {target : Json},
      stored.walk (settingsPlace keys) = some target → target.Canonical :=
    fun there => h.canonical.walk there
  cases echo with
  | nest keys outer inner there found named free =>
    exact h.alter there (fun _ => canonical_nest) isObject_nest fun _ _ _ _ =>
      mem_leaves_nest (hinside there) found named free
  | @spellOut v keys there leaf =>
    have hleaves : leaves (joined keys) (.string (leafText v)) = leaves (joined keys) v :=
      (leaves_of_isLeaf leaf _).symm ▸ rfl
    refine h.alter there (fun _ _ => canonical_string _) (fun hobject => ?_) fun _ _ _ _ => ?_
    · -- The settings themselves are no leaf.
      cases v with
      | object => cases leaf
      | _ => cases hobject
    · rw [hleaves]
  | addSetting keys key x there isObject free canonical unset =>
    refine h.alter there (fun _ hy => hy.set canonical) (fun _ => by simpa) fun k text htext t => ?_
    rw [mem_leaves_add (hinside there) canonical isObject free]
    refine or_iff_right fun hmem => ?_
    have hunset : setting? (templateBody spec) k = none := by
      refine unset (k, t) ?_
      rw [joined, List.foldl_append]
      exact hmem
    rw [hunset] at htext
    cases htext
  | addField key x canonical unset =>
    obtain ⟨hcanonical, hpatterns, settings, hsettings, hisObject, htexts⟩ := h
    have hset : ∀ {k : String} {y : Json}, (templateBody spec).get? k = some y →
        (stored.set key x).get? k = stored.get? k := by
      intro k y hy
      rw [get?_set_of_isObject (isObject_of_get? hsettings), if_neg]
      rintro rfl
      rw [unset] at hy
      cases hy
    exact ⟨hcanonical.set canonical, (hset (get?_ofFields _ _)).trans hpatterns, settings,
      (hset (get?_ofFields _ _)).trans hsettings, hisObject, htexts⟩

theorem reflects_of_echoed (h : Echoed spec stored) : Reflects spec stored := by
  induction h with
  | body => exact reflects_templateBody spec
  | more _ echo ih => exact ih.echo echo

/-- **The body of a template is contained in every echo of it**, once both have their
    settings in one spelling. -/
theorem contains_of_echoed (h : Echoed spec stored) :
    (flattenSettings stored).contains (flattenSettings (templateBody spec)) = true := by
  obtain ⟨-, hpatterns, settings, hsettings, -, htexts⟩ := reflects_of_echoed h
  have hobject : (flattenSettings stored).isObject = true := by
    rw [flattenSettings, isObject_modify]
    exact isObject_of_get? hsettings
  refine contains_of_fields hobject rfl
    (canonical_flattenSettings (canonical_templateBody spec)) fun key x hx => ?_
  rw [flattenSettings, get?_modify] at hx
  simp only [flattenSettings, get?_modify]
  split at hx
  · next hkey =>
    -- Each setting of the body has its text in the echo.
    subst hkey
    rw [if_pos rfl, hsettings]
    obtain ⟨declared, hdeclared, rfl⟩ := Option.map_eq_some_iff.1 hx
    refine ⟨_, rfl, contains_of_fields rfl rfl (canonical_ofFields fun f hf => ?_)
      fun key x hx => ?_⟩
    · obtain ⟨pair, -, rfl⟩ := List.mem_map.1 hf
      exact canonical_string _
    · have hsetting : setting? (templateBody spec) key = some x := by
        rw [setting?, flattenSettings, get?_modify, if_pos rfl, hdeclared]
        exact hx
      obtain ⟨text, rfl⟩ : ∃ text, x = .string text := by
        rw [setting?_templateBody] at hsetting
        obtain ⟨y, -, rfl⟩ := Option.map_eq_some_iff.1 hsetting
        exact ⟨_, rfl⟩
      exact ⟨_, get?_ofLeaves (htexts key text hsetting), contains_self (canonical_string _)⟩
  · next hkey =>
    -- Besides its settings, a body has nothing but the patterns.
    rw [if_neg hkey]
    rw [templateBody, get?_ofFields, Keyed.get?_cons, Keyed.get?_cons, if_neg hkey] at hx
    split at hx
    · next hpattern =>
      subst hpattern
      cases hx
      exact ⟨_, hpatterns, contains_self (by simp)⟩
    · cases hx

end Management

/-! ## §4. Echoes of a lifecycle policy -/

namespace Json

/-- What may become of a body by adding fields that it does not set, at any depth. -/
inductive Extended (body : Json) : Json → Prop
  | body : Extended body body
  | add {stored : Json} (p : Path) (key : String) (x : Json) (before : Extended body stored)
    (unset : body.walk (p ++ [.key key]) = none) :
    Extended body (stored.alter (·.set key x) p)

variable {body stored : Json}

/-- What is added changes nothing in the places of the body. -/
theorem Extended.head?_eq (h : Extended body stored) {q : Path} {found : Head}
    (hq : body.head? q = some found) : stored.head? q = some found := by
  induction h with
  | body => exact hq
  | add p key x before unset ih =>
    rw [head?_alter_set, ih]
    rintro q' rfl
    have hnone := head?_append_of_none (head?_eq_none.2 unset) q'
    rw [List.append_assoc, List.singleton_append, hq] at hnone
    cases hnone

/-- **A body is contained in everything that is made of it by adding fields.** -/
theorem contains_of_extended (hbody : body.Canonical) (h : Extended body stored) :
    stored.contains body = true := by
  refine (contains_iff hbody).2 fun p x hx => ?_
  rw [h.head?_eq (head?_eq_some.2 ⟨x, hx, rfl⟩)]
  exact admits_head x

end Json

end LoggingOperator
