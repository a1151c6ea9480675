/-
  LoggingOperator.Proofs.Convergence.Difference — A SUMMARY IS FAITHFUL.

  Differences are counted by walking through the fields of the target and then
  counting those that only the base has, so the two sides are not treated
  alike.  What is counted is nevertheless one difference for each key that one
  of the two has (`under`), and their sum (`between_object`).  Neither the keys
  nor the sum depend on the side from which the count was made.

  So the count from the other side has additions and removals exchanged
  (`between_swap`), and it is zero exactly for equal values
  (`between_eq_none_iff`).  Equal values are also in sync, and nothing was
  dropped between them, whatever was written last.  So an update never goes with
  a summary that counts nothing (`summary_faithful`).
-/
import LoggingOperator.Convergence.Difference
import LoggingOperator.Proofs.Convergence.Decision
import LoggingOperator.Proofs.Json.Equality
import LoggingOperator.Proofs.Json.Record
import Mathlib.Algebra.BigOperators.Group.List.Basic

namespace LoggingOperator

open Json

/-! ## §1. Sums of differences -/

namespace Difference

attribute [ext] Difference

@[simp] theorem adds_add (a b : Difference) : (a + b).adds = a.adds + b.adds := rfl

@[simp] theorem updates_add (a b : Difference) : (a + b).updates = a.updates + b.updates := rfl

@[simp] theorem removes_add (a b : Difference) : (a + b).removes = a.removes + b.removes := rfl

instance : Zero Difference := ⟨none⟩

instance : AddCommMonoid Difference where
  add_assoc a b c := by ext <;> simp [Nat.add_assoc]
  zero_add a := by ext <;> exact Nat.zero_add _
  add_zero a := by ext <;> exact Nat.add_zero _
  add_comm a b := by ext <;> simp [Nat.add_comm]
  nsmul := nsmulRec

theorem zero_eq_none : (0 : Difference) = none := rfl

theorem add_eq_none_iff {a b : Difference} : a + b = none ↔ a = none ∧ b = none := by
  simp only [Difference.ext_iff, adds_add, updates_add, removes_add, none]
  omega

/-- A sum is zero exactly if every difference in it is. -/
theorem sum_eq_none_iff {ds : List Difference} : ds.sum = none ↔ ∀ d ∈ ds, d = none := by
  induction ds with
  | nil => simp [zero_eq_none]
  | cons d ds ih => rw [List.sum_cons, add_eq_none_iff, ih, List.forall_mem_cons]

/-- The difference seen from the other side. -/
def swap (d : Difference) : Difference :=
  ⟨d.removes, d.updates, d.adds⟩

theorem swap_add (a b : Difference) : (a + b).swap = a.swap + b.swap := rfl

theorem swap_sum (ds : List Difference) : ds.sum.swap = (ds.map swap).sum := by
  induction ds with
  | nil => rfl
  | cons d ds ih => rw [List.sum_cons, List.map_cons, List.sum_cons, swap_add, ih]

/-! ## §2. Key by key -/

/-- The difference under one key of two objects. -/
def under (target base : List (String × Json)) (k : String) : Difference :=
  match Keyed.get? k target, Keyed.get? k base with
  | some t, some b => if t == b then none else between t b
  | some _, Option.none => { adds := 1 }
  | Option.none, some _ => { removes := 1 }
  | Option.none, Option.none => none

/-- The keys of the target, and those that only the base has. -/
def allKeys (target base : List (String × Json)) : List String :=
  Keyed.keys target ++ Keyed.keys (base.filter fun f => !Keyed.has f.1 target)

variable {target base : List (String × Json)}

/-- Fields of the target are counted key by key. -/
theorem betweenFields_eq {fields : List (String × Json)}
    (h : ∀ f ∈ fields, Keyed.get? f.1 target = some f.2) :
    betweenFields fields base = ((Keyed.keys fields).map (under target base)).sum := by
  induction fields with
  | nil => rfl
  | cons f fields ih =>
    obtain ⟨k, t⟩ := f
    rw [betweenFields, ih fun f hf => h f (List.mem_cons_of_mem _ hf)]
    show _ = under target base k + ((Keyed.keys fields).map (under target base)).sum
    congr 1
    rw [under, h (k, t) List.mem_cons_self]
    cases Keyed.get? k base <;> rfl

/-- Fields that only the base has count one removal each. -/
theorem removes_eq {fields : List (String × Json)}
    (h : ∀ f ∈ fields, Keyed.get? f.1 base = some f.2 ∧ Keyed.get? f.1 target = Option.none) :
    ({ removes := fields.length } : Difference)
      = ((Keyed.keys fields).map (under target base)).sum := by
  induction fields with
  | nil => rfl
  | cons f fields ih =>
    obtain ⟨hbase, htarget⟩ := h f List.mem_cons_self
    have hunder : under target base f.1 = { removes := 1 } := by
      rw [under, hbase, htarget]
    show _ = under target base f.1 + ((Keyed.keys fields).map (under target base)).sum
    rw [hunder, ← ih fun f hf => h f (List.mem_cons_of_mem _ hf)]
    ext
    · rfl
    · rfl
    · exact Nat.add_comm _ _

/-- **The difference of two objects is the sum of those under all their keys.** -/
theorem between_object (ht : Keyed.Sorted target) (hb : Keyed.Sorted base) :
    between (.object target) (.object base) = ((allKeys target base).map (under target base)).sum := by
  have hremoves : ({ removes := (base.filter fun f => !Keyed.has f.1 target).length } : Difference)
      = ((Keyed.keys (base.filter fun f => !Keyed.has f.1 target)).map (under target base)).sum := by
    refine removes_eq fun f hf => ?_
    obtain ⟨hmem, hnot⟩ := List.mem_filter.1 hf
    exact ⟨hb.get?_of_mem hmem, by simpa [Keyed.has] using hnot⟩
  rw [between, betweenFields_eq fun f hf => ht.get?_of_mem hf, hremoves, allKeys, List.map_append,
    List.sum_append]

theorem mem_keys_iff {k : String} {fields : List (String × Json)} :
    k ∈ Keyed.keys fields ↔ (Keyed.get? k fields).isSome = true := by
  induction fields with
  | nil => simp [Keyed.keys]
  | cons f fields ih =>
    rw [Keyed.get?_cons, Keyed.keys, List.map_cons, List.mem_cons]
    split
    · next h => simp [h]
    · next h => exact (or_iff_right (Ne.symm h)).trans ih

/-- All keys are those that one of the two objects has. -/
theorem mem_allKeys_iff (hb : Keyed.Sorted base) {k : String} :
    k ∈ allKeys target base
      ↔ (Keyed.get? k target).isSome = true ∨ (Keyed.get? k base).isSome = true := by
  rw [allKeys, List.mem_append, mem_keys_iff]
  constructor
  · rintro (h | h)
    · exact Or.inl h
    · obtain ⟨f, hf, rfl⟩ := List.mem_map.1 h
      rw [hb.get?_of_mem (List.mem_filter.1 hf).1]
      exact Or.inr rfl
  · intro h
    by_cases hk : (Keyed.get? k target).isSome = true
    · exact Or.inl hk
    · obtain ⟨b, hb⟩ := Option.isSome_iff_exists.1 (h.resolve_left hk)
      refine Or.inr (List.mem_map.2 ⟨(k, b), List.mem_filter.2 ⟨Keyed.mem_of_get? hb, ?_⟩, rfl⟩)
      simpa [Keyed.has] using hk

theorem nodup_keys_of_sorted {fields : List (String × Json)} (h : Keyed.Sorted fields) :
    (Keyed.keys fields).Nodup := by
  refine List.Pairwise.map _ (fun f g hlt heq => ?_) h
  rw [heq] at hlt
  exact String.lt_irrefl _ hlt

theorem nodup_allKeys (ht : Keyed.Sorted target) (hb : Keyed.Sorted base) :
    (allKeys target base).Nodup := by
  refine List.nodup_append.2 ⟨nodup_keys_of_sorted ht, nodup_keys_of_sorted (hb.filter _), ?_⟩
  rintro k hk _ hk' rfl
  obtain ⟨f, hf, rfl⟩ := List.mem_map.1 hk'
  have hnot := (List.mem_filter.1 hf).2
  rw [Keyed.has, mem_keys_iff.1 hk] at hnot
  cases hnot

/-- The keys do not depend on the side. -/
theorem allKeys_perm (ht : Keyed.Sorted target) (hb : Keyed.Sorted base) :
    (allKeys base target).Perm (allKeys target base) := by
  refine (List.perm_ext_iff_of_nodup (nodup_allKeys hb ht) (nodup_allKeys ht hb)).2 fun k => ?_
  rw [mem_allKeys_iff ht, mem_allKeys_iff hb, or_comm]

/-! ## §3. Lists of items -/

theorem changedItems_comm (xs ys : List Json) : changedItems xs ys = changedItems ys xs := by
  induction xs generalizing ys with
  | nil => cases ys <;> rfl
  | cons x xs ih =>
    cases ys with
    | nil => rfl
    | cons y ys => rw [changedItems, changedItems, beq_comm, ih]

/-- Lists of one length are equal exactly if no item changed. -/
theorem changedItems_eq_zero_iff {xs ys : List Json} (h : xs.length = ys.length) :
    changedItems xs ys = 0 ↔ (array xs == array ys) = true := by
  rw [beq_iff, unsigned, unsigned, array.injEq]
  induction xs generalizing ys with
  | nil => cases ys with
    | nil => simp [changedItems]
    | cons y ys => cases h
  | cons x xs ih =>
    cases ys with
    | nil => cases h
    | cons y ys =>
      rw [changedItems, unsignedItems, unsignedItems, List.cons.injEq, Nat.add_eq_zero_iff,
        ih (Nat.succ.inj h), ← beq_iff]
      exact and_congr_left fun _ => by split <;> simp_all

theorem length_eq_of_beq {xs ys : List Json} (h : (array xs == array ys) = true) :
    xs.length = ys.length := by
  have hitems := beq_iff.1 h
  rw [unsigned, unsigned, array.injEq, unsignedItems_eq_map, unsignedItems_eq_map] at hitems
  simpa using congrArg List.length hitems

/-! ## §4. Both sides, and equal values -/

/-- Unless both are objects or both are lists, values differ as a whole. -/
theorem between_of_ne {t b : Json} (hobject : ¬(t.isObject = true ∧ b.isObject = true))
    (harray : ∀ xs ys, ¬(t = .array xs ∧ b = .array ys)) :
    between t b = if t == b then none else { updates := 1 } := by
  cases t <;> cases b <;> simp_all [between, isObject]

/-- **From the other side, additions and removals are exchanged.** -/
theorem between_swap {t b : Json} (ht : t.Canonical) (hb : b.Canonical) :
    between b t = (between t b).swap := by
  induction t using cases_on_parts generalizing b with
  | null | bool | number | string =>
    rw [between_of_ne (by simp [isObject]) (by simp), between_of_ne (by simp [isObject]) (by simp),
      beq_comm]
    split <;> rfl
  | array xs =>
    cases b with
    | array ys =>
      rw [between, between, changedItems_comm]
      rfl
    | _ =>
      rw [between_of_ne (by simp [isObject]) (by simp),
        between_of_ne (by simp [isObject]) (by simp), beq_comm]
      split <;> rfl
  | object target ih =>
    cases b with
    | object base =>
      have hunder : ∀ k, under base target k = (under target base k).swap := by
        intro k
        unfold under
        cases hk : Keyed.get? k target with
        | none => cases Keyed.get? k base <;> rfl
        | some x =>
          cases hk' : Keyed.get? k base with
          | none => rfl
          | some y =>
            have hinside : between y x = (between x y).swap :=
              ih (k, x) (Keyed.mem_of_get? hk) (ht.get? hk) (hb.get? hk')
            dsimp only
            rw [beq_comm, hinside]
            split <;> rfl
      rw [between_object hb.sorted ht.sorted, between_object ht.sorted hb.sorted, swap_sum,
        List.map_map, ((allKeys_perm ht.sorted hb.sorted).map _).sum_eq]
      exact congrArg List.sum (List.map_congr_left fun k _ => hunder k)
    | _ =>
      rw [between_of_ne (by simp [isObject]) (by simp),
        between_of_ne (by simp [isObject]) (by simp), beq_comm]
      split <;> rfl

/-- One difference is counted between values that differ as a whole. -/
theorem whole_eq_none_iff {t b : Json} :
    (if t == b then none else { updates := 1 }) = none ↔ (t == b) = true := by
  split <;> simp_all [none]

/-- **No difference is counted exactly between equal values.** -/
theorem between_eq_none_iff {t b : Json} (ht : t.Canonical) (hb : b.Canonical) :
    between t b = none ↔ (t == b) = true := by
  induction t using cases_on_parts generalizing b with
  | null | bool | number | string =>
    rw [between_of_ne (by simp [isObject]) (by simp), whole_eq_none_iff]
  | array xs =>
    cases b with
    | array ys =>
      rw [between]
      constructor
      · intro h
        simp only [Difference.ext_iff, none] at h
        exact (changedItems_eq_zero_iff (by omega)).1 h.2.1
      · intro h
        have hlength := length_eq_of_beq h
        rw [(changedItems_eq_zero_iff hlength).2 h, hlength]
        simp [none]
    | _ => rw [between_of_ne (by simp [isObject]) (by simp), whole_eq_none_iff]
  | object target ih =>
    cases b with
    | object base =>
      rw [between_object ht.sorted hb.sorted, sum_eq_none_iff, List.forall_mem_map,
        beq_object_iff ht.sorted hb.sorted]
      have hunder : ∀ k, under target base k = none
          ↔ (Keyed.get? k target).map unsigned = (Keyed.get? k base).map unsigned := by
        intro k
        unfold under
        cases hk : Keyed.get? k target with
        | none => cases Keyed.get? k base <;> simp [none]
        | some x =>
          cases hk' : Keyed.get? k base with
          | none => simp [none]
          | some y =>
            dsimp only [Option.map_some]
            rw [Option.some.injEq, ← beq_iff]
            split
            · next h => exact iff_of_true rfl h
            · exact ih (k, x) (Keyed.mem_of_get? hk) (ht.get? hk) (hb.get? hk')
      refine ⟨fun h k => ?_, fun h k _ => (hunder k).2 (h k)⟩
      by_cases hk : k ∈ allKeys target base
      · exact (hunder k).1 (h k hk)
      · rw [mem_allKeys_iff hb.sorted, not_or, Bool.not_eq_true, Bool.not_eq_true,
          Option.isSome_eq_false_iff, Option.isSome_eq_false_iff, Option.isNone_iff_eq_none,
          Option.isNone_iff_eq_none] at hk
        rw [hk.1, hk.2]
    | _ => rw [between_of_ne (by simp [isObject]) (by simp), whole_eq_none_iff]

end Difference

/-! ## §5. Equal values are in sync -/

namespace Json

/-- An equal value is admitted. -/
theorem admits_of_beq {v w : Json} (h : (v == w) = true) : v.admits (some w.head) = true := by
  cases v with
  | array items =>
    cases w with
    | array items' => simp [admits, head, Difference.length_eq_of_beq h]
    | _ =>
      rw [beq_iff] at h
      cases h
  | _ =>
    rw [beq_iff] at h
    cases w <;> simp_all [unsigned, admits, head, isZero, Number.same_iff]

theorem contains_of_beq {stored desired : Json} (hd : desired.Canonical)
    (h : (desired == stored) = true) : stored.contains desired = true := by
  refine (contains_iff hd).2 fun p x hx => ?_
  obtain ⟨y, hy, hxy⟩ := walk_of_beq h hx
  rw [head?, hy]
  exact admits_of_beq hxy

/-- No field is gone between equal values, whatever was written last. -/
theorem not_gone_of_beq {last desired stored : Json} {p : Path} {k : String}
    (h : (desired == stored) = true) : ¬ Gone last desired stored p k := by
  rintro ⟨-, ⟨df, hd, hdk⟩, ⟨sf, v, hs, hsk, -⟩⟩
  have hplace : stored.walk (p ++ [.key k]) = some v := by
    rw [walk_append, hs, Option.bind_some, walk_key, get?_object, hsk]
    rfl
  rw [beq_comm] at h
  obtain ⟨y, hy, -⟩ := walk_of_beq h hplace
  rw [walk_append, hd, Option.bind_some, walk_key, get?_object] at hy
  rw [Keyed.has] at hdk
  cases hget : Keyed.get? k df with
  | none =>
    rw [hget] at hy
    cases hy
  | some x =>
    rw [hget] at hdk
    cases hdk

end Json

namespace Convergence

/-- An object that compares equal to what is desired is left alone. -/
theorem decide_skip_of_beq {kind : Kind} {desired stored : Json} (hd : desired.Canonical)
    (h : (comparable kind desired == comparable kind stored) = true) :
    decide kind desired (some stored) = .skip := by
  refine decide_skip_iff.2 ⟨contains_of_beq (canonical_comparable kind hd) h, ?_⟩
  cases hlast : lastApplied? stored with
  | none => rw [hasDropped, hlast]
  | some last =>
    refine Bool.eq_false_iff.2 fun hdropped => ?_
    obtain ⟨keys, k, hgone⟩ := (hasDropped_iff hlast).1 hdropped
    exact not_gone_of_beq h hgone

open Difference (between)

/-- **A summary of differences is faithful.**  It counts nothing exactly between
    equal values, from the other side it has additions and removals exchanged,
    and the one that goes with an update always counts something. -/
theorem summary_faithful :
    (∀ t b : Json, t.Canonical → b.Canonical →
        (between t b = ⟨0, 0, 0⟩ ↔ (t == b) = true)
          ∧ between b t = ⟨(between t b).removes, (between t b).updates, (between t b).adds⟩)
      ∧ ∀ (kind : Kind) (desired stored : Json), desired.Canonical → stored.Canonical →
        decide kind desired (some stored) = .update →
          between (comparable kind desired) (comparable kind stored) ≠ ⟨0, 0, 0⟩ := by
  refine ⟨fun t b ht hb => ⟨Difference.between_eq_none_iff ht hb, Difference.between_swap ht hb⟩,
    fun kind desired stored hd hs hupdate hnone => ?_⟩
  have hequal : (comparable kind desired == comparable kind stored) = true :=
    (Difference.between_eq_none_iff (canonical_comparable kind hd)
      (canonical_comparable kind hs)).1 hnone
  rw [decide_skip_of_beq hd hequal] at hupdate
  cases hupdate

/-- Settings as they are declared. -/
def declaredSettings : Json :=
  .ofFields [("data", .ofFields [("colour", .string "blue"), ("format", .string "json"),
    ("level", .string "info")])]

/-- Settings as they are stored: two are missing, one is another one, and one was
    never declared. -/
def driftedSettings : Json :=
  .ofFields [("data", .ofFields [("level", .string "debug"), ("size", .string "2")])]

/-- The summary of settings that are updated, from both sides. -/
theorem summary_faithful_settings :
    declaredSettings.Canonical ∧ driftedSettings.Canonical
      ∧ between declaredSettings driftedSettings = ⟨2, 1, 1⟩
      ∧ between driftedSettings declaredSettings = ⟨1, 1, 2⟩
      ∧ (declaredSettings == driftedSettings) = false
      ∧ decide .configMap declaredSettings (some driftedSettings) = .update
      ∧ between (comparable .configMap declaredSettings) (comparable .configMap driftedSettings)
          ≠ ⟨0, 0, 0⟩ := by
  have hd : declaredSettings.Canonical := by
    have hdata : (ofFields [("colour", .string "blue"), ("format", .string "json"),
        ("level", .string "info")]).Canonical := by simp
    simp [declaredSettings, hdata]
  have hs : driftedSettings.Canonical := by
    have hdata : (ofFields [("level", .string "debug"), ("size", .string "2")]).Canonical := by simp
    simp [driftedSettings, hdata]
  have hcount : between declaredSettings driftedSettings = ⟨2, 1, 1⟩ := by decide +kernel
  have hupdate : decide .configMap declaredSettings (some driftedSettings) = .update := by
    decide +kernel
  obtain ⟨hsides, hsummary⟩ := summary_faithful
  obtain ⟨hequal, hswap⟩ := hsides _ _ hd hs
  refine ⟨hd, hs, hcount, ?_, ?_, hupdate, hsummary _ _ _ hd hs hupdate⟩
  · rw [hswap, hcount]
  · refine Bool.eq_false_iff.2 fun h => ?_
    rw [hequal.2 h] at hcount
    cases hcount

end Convergence

end LoggingOperator
