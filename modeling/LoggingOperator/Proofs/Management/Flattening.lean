/-
  LoggingOperator.Proofs.Management.Flattening — FLAT SETTINGS FORGET THE SPELLING.

  Settings may be written under dotted keys, as nested objects, or as a mixture
  of both, and their values as texts or not.  What they set is the same as long
  as the same dotted keys get the same texts (`Sets`): the key is what the keys
  on the way to a leaf make when they are joined by dots.

  The leaves below a value are exactly those that a path of keys leads to
  (`mem_leaves_iff_leafAt`).  So if no two paths make one dotted key
  (`Flattenable`), flat settings hold what was set and nothing else, and they do
  not tell how it was written (`flattening_forgets_spelling`).
-/
import LoggingOperator.Proofs.Management.Echo

namespace LoggingOperator

open Json Json.Record

namespace Keyed

variable {α : Type}

/-- Two changes of one value are one change. -/
theorem modify_modify (k : String) (f g : α → α) (entries : List (String × α)) :
    modify k g (modify k f entries) = modify k (fun x => g (f x)) entries := by
  rw [modify, modify, modify, List.map_map]
  refine List.map_congr_left fun entry _ => ?_
  by_cases hk : entry.1 = k <;> simp [hk]

/-- A value that is removed may be changed before. -/
theorem erase_modify (k : String) (f : α → α) (entries : List (String × α)) :
    erase k (modify k f entries) = erase k entries := by
  induction entries with
  | nil => rfl
  | cons entry rest ih =>
    simp only [modify, erase, List.map_cons, List.filter_cons] at ih ⊢
    by_cases hk : entry.1 = k <;> simp [hk, ih]

end Keyed

namespace Management

/-! ## §1. Flat settings are left as they are -/

/-- Leaves that were made an object are its leaves. -/
theorem ofLeaves_leaves_ofLeaves (pairs : List (String × String)) :
    ofLeaves (leaves "" (ofLeaves pairs)) = ofLeaves pairs := by
  have htext : ∀ f ∈ Keyed.ofList (pairs.reverse.map fun pair => (pair.1, Json.string pair.2)),
      ∃ text, f.2 = .string text := by
    intro f hf
    obtain ⟨pair, -, rfl⟩ := List.mem_map.1 (Keyed.mem_of_mem_ofList hf)
    exact ⟨pair.2, rfl⟩
  have hsorted := Keyed.sorted_ofList (pairs.reverse.map fun pair => (pair.1, Json.string pair.2))
  show ofLeaves (leaves "" (.object (Keyed.ofList _))) = .object (Keyed.ofList _)
  generalize Keyed.ofList (pairs.reverse.map fun pair => (pair.1, Json.string pair.2)) = fields
    at htext hsorted
  rw [ofLeaves_flat hsorted]
  · congr 1
    refine (List.map_congr_left fun f hf => ?_).trans (List.map_id fields)
    obtain ⟨text, htext⟩ := htext f hf
    obtain ⟨key, x⟩ := f
    subst htext
    rfl
  · intro f hf
    obtain ⟨text, htext⟩ := htext f hf
    rw [htext]
    trivial

theorem flattenSettings_flattenSettings (body : Json) :
    flattenSettings (flattenSettings body) = flattenSettings body := by
  cases body with
  | object fields =>
    simp only [flattenSettings, Json.modify, Keyed.modify_modify, ofLeaves_leaves_ofLeaves]
  | _ => rfl

/-- Nothing but the settings is changed. -/
theorem remove_flattenSettings (body : Json) :
    (flattenSettings body).remove "settings" = body.remove "settings" := by
  cases body with
  | object fields => exact congrArg Json.object (Keyed.erase_modify _ _ _)
  | _ => rfl

/-! ## §2. What settings set -/

/-- At the end of this path of keys is a leaf. -/
def LeafAt (settings : Json) (keys : List String) (x : Json) : Prop :=
  settings.at? keys = some x ∧ IsLeaf x

/-- The settings set the text under the dotted key. -/
def Sets (settings : Json) (key text : String) : Prop :=
  ∃ keys x, LeafAt settings keys x ∧ ".".intercalate keys = key ∧ leafText x = text

/-- Settings that can be written flat: no key on the way to a leaf is empty, and no
    two leaves have one dotted key. -/
structure Flattenable (settings : Json) : Prop where
  canonical : settings.Canonical
  isObject : settings.isObject = true
  named : ∀ keys x, LeafAt settings keys x → "" ∉ keys
  apart : ∀ keys keys' x x', LeafAt settings keys x → LeafAt settings keys' x' →
    ".".intercalate keys = ".".intercalate keys' → keys = keys'

theorem leafAt_object {fields : List (String × Json)} {keys : List String} {x : Json} :
    LeafAt (.object fields) keys x
      ↔ ∃ key rest v, keys = key :: rest ∧ Keyed.get? key fields = some v ∧ LeafAt v rest x := by
  cases keys with
  | nil =>
    refine iff_of_false ?_ (by simp)
    rintro ⟨hx, hleaf⟩
    cases hx
    exact hleaf
  | cons key rest =>
    simp only [LeafAt, at?, get?_object, Option.bind_eq_some_iff, List.cons.injEq]
    constructor
    · rintro ⟨⟨v, hv, hx⟩, hleaf⟩
      exact ⟨key, rest, v, ⟨rfl, rfl⟩, hv, hx, hleaf⟩
    · rintro ⟨_, _, v, ⟨rfl, rfl⟩, hv, hx, hleaf⟩
      exact ⟨⟨v, hv, hx⟩, hleaf⟩

theorem leafAt_nil {keys : List String} {x : Json} : ¬ LeafAt (.ofFields []) keys x := by
  intro h
  obtain ⟨_, _, _, -, hget, -⟩ := leafAt_object.1 h
  cases hget

/-- The leaves of an object are those of one field and those of the others. -/
theorem leafAt_cons {fields : List (String × Json)} {key : String} {v : Json}
    (hfree : Keyed.get? key fields = none) {keys : List String} {x : Json} :
    LeafAt (.ofFields ((key, v) :: fields)) keys x
      ↔ (∃ rest, keys = key :: rest ∧ LeafAt v rest x) ∨ LeafAt (.ofFields fields) keys x := by
  rw [ofFields, ofFields, leafAt_object, leafAt_object]
  simp only [Keyed.get?_ofList, Keyed.get?_cons]
  constructor
  · rintro ⟨key', rest, w, rfl, hw, hx⟩
    split at hw
    · next hkey =>
      cases hw
      exact Or.inl ⟨rest, by rw [hkey], hx⟩
    · exact Or.inr ⟨key', rest, w, rfl, hw, hx⟩
  · rintro (⟨rest, rfl, hx⟩ | ⟨key', rest, w, rfl, hw, hx⟩)
    · exact ⟨key, rest, v, rfl, if_pos rfl, hx⟩
    · refine ⟨key', rest, w, rfl, ?_, hx⟩
      rw [if_neg, hw]
      rintro rfl
      rw [hfree] at hw
      cases hw

/-- A leaf by itself is the only one. -/
theorem leafAt_of_isLeaf {v : Json} (h : IsLeaf v) {keys : List String} {x : Json} :
    LeafAt v keys x ↔ keys = [] ∧ x = v := by
  cases keys with
  | nil =>
    simp only [LeafAt, at?, Option.some.injEq, true_and]
    exact ⟨fun hx => hx.1.symm, fun hx => ⟨hx.symm, hx ▸ h⟩⟩
  | cons key rest =>
    refine iff_of_false (fun hx => ?_) (by simp)
    cases v with
    | object => exact h
    | _ => cases hx.1

/-- A leaf by itself is below its own path. -/
theorem mem_leaves_of_isLeaf {v : Json} (h : IsLeaf v) {path : String} {pair : String × String} :
    pair ∈ leaves path v
      ↔ ∃ keys x, LeafAt v keys x ∧ pair = (keys.foldl joinPath path, leafText x) := by
  rw [leaves_of_isLeaf h, List.mem_singleton]
  simp [leafAt_of_isLeaf h, and_assoc]

/-- **The leaves below a path are those that further keys lead to.** -/
theorem mem_leaves_iff_leafAt {v : Json} (hv : v.Canonical) {path : String}
    {pair : String × String} :
    pair ∈ leaves path v
      ↔ ∃ keys x, LeafAt v keys x ∧ pair = (keys.foldl joinPath path, leafText x) := by
  induction v using cases_on_parts generalizing path with
  | null =>
    refine iff_of_false (by simp [leaves]) ?_
    rintro ⟨keys, x, ⟨hx, hleaf⟩, -⟩
    cases keys <;> cases hx
    exact hleaf
  | bool | number | string | array => exact mem_leaves_of_isLeaf (by trivial)
  | object fields ih =>
    rw [mem_leaves_iff hv rfl]
    constructor
    · rintro ⟨key, v, hget, hpair⟩
      obtain ⟨keys, x, hx, rfl⟩ :=
        (ih (key, v) (Keyed.mem_of_get? hget) (hv.get? hget)).1 hpair
      exact ⟨key :: keys, x, leafAt_object.2 ⟨key, keys, v, rfl, hget, hx⟩, rfl⟩
    · rintro ⟨_, x, hx, rfl⟩
      obtain ⟨key, keys, v, rfl, hget, hx⟩ := leafAt_object.1 hx
      exact ⟨key, v, hget,
        (ih (key, v) (Keyed.mem_of_get? hget) (hv.get? hget)).2 ⟨keys, x, hx, rfl⟩⟩

/-- Keys are joined by dots. -/
theorem foldl_joinPath {path : String} (h : path ≠ "") (keys : List String) :
    keys.foldl joinPath path = ".".intercalate (path :: keys) := by
  induction keys generalizing path with
  | nil => rfl
  | cons key keys ih =>
    have hjoin : joinPath path key = path ++ "." ++ key := if_neg h
    have hne : path ++ "." ++ key ≠ "" := by simp [String.append_eq_empty_iff]
    rw [List.foldl_cons, hjoin, ih hne]
    rfl

section

variable {settings settings' : Json} {key text text' : String}

namespace Flattenable

/-- The leaves of settings are what they set. -/
theorem mem_leaves_iff_sets (h : Flattenable settings) :
    (key, text) ∈ leaves "" settings ↔ Sets settings key text := by
  have hjoined : ∀ {keys : List String} {x : Json}, LeafAt settings keys x →
      keys.foldl joinPath "" = ".".intercalate keys := by
    intro keys x hx
    have hnamed := h.named keys x hx
    cases keys with
    | nil => rfl
    | cons key keys =>
      have hkey : key ≠ "" := fun hkey => hnamed (hkey ▸ List.mem_cons_self)
      exact foldl_joinPath hkey keys
  rw [mem_leaves_iff_leafAt h.canonical]
  constructor
  · rintro ⟨keys, x, hx, heq⟩
    cases heq
    exact ⟨keys, x, hx, (hjoined hx).symm, rfl⟩
  · rintro ⟨keys, x, hx, rfl, rfl⟩
    exact ⟨keys, x, hx, by rw [hjoined hx]⟩

/-- No dotted key is set twice. -/
theorem text_unique (h : Flattenable settings) (hs : Sets settings key text)
    (hs' : Sets settings key text') : text = text' := by
  obtain ⟨keys, x, hx, rfl, rfl⟩ := hs
  obtain ⟨keys', x', hx', hkey, rfl⟩ := hs'
  obtain rfl := h.apart keys' keys x' x hx' hx hkey
  rw [Option.some.inj (hx.1.symm.trans hx'.1)]

/-- **Flat settings hold exactly what was set.** -/
theorem get?_eq_some_iff (h : Flattenable settings) {x : Json} :
    (ofLeaves (leaves "" settings)).get? key = some x
      ↔ ∃ text, Sets settings key text ∧ x = .string text := by
  constructor
  · intro hx
    rw [ofLeaves, get?_ofFields] at hx
    obtain ⟨⟨_, text⟩, hpair, heq⟩ := List.mem_map.1 (Keyed.mem_of_get? hx)
    cases heq
    exact ⟨text, h.mem_leaves_iff_sets.1 (List.mem_reverse.1 hpair), rfl⟩
  · rintro ⟨text, hs, rfl⟩
    refine get?_ofLeaves fun t => ?_
    rw [h.mem_leaves_iff_sets]
    exact ⟨fun ht => h.text_unique ht hs, fun ht => ht ▸ hs⟩

/-- **They do not tell how it was written.** -/
theorem ofLeaves_eq (h : Flattenable settings) (h' : Flattenable settings')
    (hsets : ∀ key text, Sets settings key text ↔ Sets settings' key text) :
    ofLeaves (leaves "" settings) = ofLeaves (leaves "" settings') := by
  have hget : ∀ key, (ofLeaves (leaves "" settings)).get? key
      = (ofLeaves (leaves "" settings')).get? key := by
    intro key
    refine Option.ext fun x => ?_
    rw [h.get?_eq_some_iff, h'.get?_eq_some_iff]
    simp only [hsets]
  exact congrArg Json.object
    (Keyed.eq_of_get? (Keyed.sorted_ofList _) (Keyed.sorted_ofList _) hget)

end Flattenable

end

/-- The settings of a body, once they are flat. -/
theorem get?_flattenSettings {body settings : Json} (h : body.get? "settings" = some settings) :
    (flattenSettings body).get? "settings" = some (ofLeaves (leaves "" settings)) := by
  rw [flattenSettings, get?_modify, if_pos rfl, h]
  rfl

/-- **Flat settings forget the spelling and nothing else.**  Writing them flat again
    changes nothing, and no other field of the body is ever changed.  They hold
    exactly what was set, and settings that set the same are the same once they are
    flat. -/
theorem flattening_forgets_spelling :
    (∀ body, flattenSettings (flattenSettings body) = flattenSettings body
        ∧ (flattenSettings body).remove "settings" = body.remove "settings")
      ∧ (∀ body settings, body.get? "settings" = some settings → Flattenable settings →
        ∃ flat, (flattenSettings body).get? "settings" = some (.object flat)
          ∧ ∀ key x, Keyed.get? key flat = some x
            ↔ ∃ text, Sets settings key text ∧ x = .string text)
      ∧ ∀ body body' settings settings', body.get? "settings" = some settings →
        body'.get? "settings" = some settings' → Flattenable settings → Flattenable settings' →
        (∀ key text, Sets settings key text ↔ Sets settings' key text) →
          (flattenSettings body).get? "settings" = (flattenSettings body').get? "settings" := by
  refine ⟨fun body => ⟨flattenSettings_flattenSettings body, remove_flattenSettings body⟩, ?_, ?_⟩
  · intro body settings hbody h
    exact ⟨_, get?_flattenSettings hbody, fun key x => h.get?_eq_some_iff⟩
  · intro body body' settings settings' hbody hbody' h h' hsets
    rw [get?_flattenSettings hbody, get?_flattenSettings hbody', h.ofLeaves_eq h' hsets]

/-- Settings as they are sent. -/
def sentSettings : Json :=
  .ofFields [("index.lifecycle.name", .string "daily"), ("index.number_of_shards", .int32 2)]

/-- The same settings as they are echoed, with two fields that set nothing. -/
def echoedSettings : Json :=
  .ofFields [
    ("index", .ofFields [
      ("analysis", .ofFields []),
      ("blocks", .null),
      ("lifecycle", .ofFields [("name", .string "daily")]),
      ("number_of_shards", .string "2")])]

theorem leafAt_sentSettings {keys : List String} {x : Json} :
    LeafAt sentSettings keys x ↔ keys = ["index.lifecycle.name"] ∧ x = .string "daily"
      ∨ keys = ["index.number_of_shards"] ∧ x = .int32 2 := by
  rw [sentSettings, leafAt_cons rfl, leafAt_cons rfl]
  simp only [leafAt_nil, leafAt_of_isLeaf (v := .string "daily") (by trivial),
    leafAt_of_isLeaf (v := .int32 2) (by trivial), or_false]
  grind

theorem leafAt_echoedSettings {keys : List String} {x : Json} :
    LeafAt echoedSettings keys x
      ↔ keys = ["index", "lifecycle", "name"] ∧ x = .string "daily"
        ∨ keys = ["index", "number_of_shards"] ∧ x = .string "2" := by
  have hnull : ∀ keys, ¬ LeafAt .null keys x := by
    rintro (_ | ⟨key, keys⟩) ⟨hx, hleaf⟩
    · cases hx
      exact hleaf
    · cases hx
  have hlifecycle : ∀ keys, LeafAt (.ofFields [("name", .string "daily")]) keys x
      ↔ keys = ["name"] ∧ x = .string "daily" := by
    intro keys
    rw [leafAt_cons rfl]
    simp only [leafAt_nil, leafAt_of_isLeaf (v := .string "daily") (by trivial), or_false]
    grind
  have hindex : ∀ keys, LeafAt (.ofFields [("analysis", .ofFields []), ("blocks", .null),
        ("lifecycle", .ofFields [("name", .string "daily")]),
        ("number_of_shards", .string "2")]) keys x
      ↔ keys = ["lifecycle", "name"] ∧ x = .string "daily"
        ∨ keys = ["number_of_shards"] ∧ x = .string "2" := by
    intro keys
    rw [leafAt_cons rfl, leafAt_cons rfl, leafAt_cons rfl, leafAt_cons rfl]
    simp only [leafAt_nil, hnull, hlifecycle, leafAt_of_isLeaf (v := .string "2") (by trivial),
      and_false, exists_false, false_or, or_false]
    grind
  rw [echoedSettings, leafAt_cons rfl]
  simp only [leafAt_nil, hindex, or_false]
  grind

theorem flattenable_sentSettings : Flattenable sentSettings where
  canonical := by simp [sentSettings]
  isObject := rfl
  named keys x hx := by
    rcases leafAt_sentSettings.1 hx with ⟨rfl, -⟩ | ⟨rfl, -⟩ <;> decide
  apart keys keys' x x' hx hx' := by
    rcases leafAt_sentSettings.1 hx with ⟨rfl, -⟩ | ⟨rfl, -⟩ <;>
      rcases leafAt_sentSettings.1 hx' with ⟨rfl, -⟩ | ⟨rfl, -⟩ <;> decide

theorem flattenable_echoedSettings : Flattenable echoedSettings where
  canonical := by
    have hindex : (ofFields [("analysis", .ofFields []), ("blocks", .null),
        ("lifecycle", .ofFields [("name", .string "daily")]),
        ("number_of_shards", .string "2")]).Canonical := by simp
    simp [echoedSettings, hindex]
  isObject := rfl
  named keys x hx := by
    rcases leafAt_echoedSettings.1 hx with ⟨rfl, -⟩ | ⟨rfl, -⟩ <;> decide
  apart keys keys' x x' hx hx' := by
    rcases leafAt_echoedSettings.1 hx with ⟨rfl, -⟩ | ⟨rfl, -⟩ <;>
      rcases leafAt_echoedSettings.1 hx' with ⟨rfl, -⟩ | ⟨rfl, -⟩ <;> decide

/-- Sent and echoed settings are the same once they are flat. -/
theorem flattening_forgets_spelling_echo :
    Flattenable sentSettings ∧ Flattenable echoedSettings
      ∧ (∀ key text, Sets sentSettings key text ↔ Sets echoedSettings key text)
      ∧ (flattenSettings (.ofFields [("settings", sentSettings)])).get? "settings"
          = (flattenSettings (.ofFields [("order", .int32 0), ("settings", echoedSettings)])).get?
            "settings"
      ∧ ∃ flat,
        (flattenSettings (.ofFields [("settings", echoedSettings)])).get? "settings"
            = some (.object flat)
          ∧ Keyed.get? "index.number_of_shards" flat = some (.string "2") := by
  have hsets : ∀ key text, Sets sentSettings key text ↔ Sets echoedSettings key text := by
    have hshards : leafText (.int32 2) = "2" := by decide +kernel
    intro key text
    simp only [Sets, leafAt_sentSettings, leafAt_echoedSettings]
    constructor
    · rintro ⟨_, _, ⟨rfl, rfl⟩ | ⟨rfl, rfl⟩, rfl, rfl⟩
      · exact ⟨_, _, Or.inl ⟨rfl, rfl⟩, by decide, rfl⟩
      · exact ⟨_, _, Or.inr ⟨rfl, rfl⟩, by decide, hshards.symm⟩
    · rintro ⟨_, _, ⟨rfl, rfl⟩ | ⟨rfl, rfl⟩, rfl, rfl⟩
      · exact ⟨_, _, Or.inl ⟨rfl, rfl⟩, by decide, rfl⟩
      · exact ⟨_, _, Or.inr ⟨rfl, rfl⟩, by decide, hshards⟩
  obtain ⟨-, hholds, hsame⟩ := flattening_forgets_spelling
  refine ⟨flattenable_sentSettings, flattenable_echoedSettings, hsets,
    hsame _ _ _ _ (get?_ofFields _ _) (get?_ofFields _ _) flattenable_sentSettings
      flattenable_echoedSettings hsets, ?_⟩
  obtain ⟨flat, hflat, hget⟩ := hholds (.ofFields [("settings", echoedSettings)]) _
    (get?_ofFields _ _) flattenable_echoedSettings
  have hsets : Sets echoedSettings "index.number_of_shards" "2" :=
    ⟨["index", "number_of_shards"], .string "2", leafAt_echoedSettings.2 (Or.inr ⟨rfl, rfl⟩),
      by decide, rfl⟩
  exact ⟨flat, hflat, (hget _ _).2 ⟨"2", hsets, rfl⟩⟩

end Management

end LoggingOperator
