/-
  LoggingOperator.Proofs.Convergence.Normalisation — EDITS THAT ARE NO DIFFERENCE.

  A server does not keep an object as it was written.  It adds defaults, drops
  zero values, respells quantities and changes what is its own (`Edit`).  It
  does so at any depth, in any order and as often as it likes (`Edits`), and
  none of it may make the operator write the object again, or there would be
  no end to it.

  Every edit is a change of one field of one object inside the stored value.
  Outside that field nothing changes, and inside it the declared places, if
  there are any, still admit what they find (`InSync.edit`).  So the object
  stays in sync, and with its record it is left alone (`decide_skip_of_edits`).
-/
import LoggingOperator.Proofs.Convergence.Converge

namespace LoggingOperator

namespace Json

/-! ## §1. Changing the value at a place -/

/-- Change the value at a path, if there is one. -/
def alter (f : Json → Json) : Path → Json → Json
  | [], v => f v
  | .key k :: p, v => v.modify k (alter f p)
  | .item i :: p, .array items => .array (items.modify i (alter f p))
  | .item _ :: _, v => v

/-- What is found below an altered place is found in the altered value. -/
theorem walk_alter (f : Json → Json) (p q : Path) (v : Json) :
    (v.alter f p).walk (p ++ q) = (v.walk p).bind fun x => (f x).walk q := by
  induction p generalizing v with
  | nil => rfl
  | cons step p ih =>
    cases step with
    | key k =>
      rw [List.cons_append, alter, walk_key, walk_key, get?_modify, if_pos rfl]
      cases v.get? k with
      | none => rfl
      | some x => exact ih x
    | item i =>
      cases v with
      | array items =>
        show ((items.modify i (alter f p))[i]?).bind (walk (p ++ q))
          = ((items[i]?).bind (walk p)).bind fun x => (f x).walk q
        rw [List.getElem?_modify_eq]
        cases items[i]? with
        | none => rfl
        | some x => exact ih x
      | _ => rfl

/-- In a region of the value at a path. -/
def Region.under (r : Region) : Path → Region
  | [] => r
  | .key k :: p => Region.within k (r.under p)
  | .item i :: p => fun
    | .item j :: q => decide (j = i) && r.under p q
    | _ => false

theorem Region.exists_of_under {r : Region} {p q : Path} (h : r.under p q = true) :
    ∃ q', q = p ++ q' ∧ r q' = true := by
  induction p generalizing q with
  | nil => exact ⟨q, rfl, h⟩
  | cons step p ih =>
    cases step with
    | key k =>
      obtain ⟨q₁, rfl, hq₁⟩ := Region.exists_of_within h
      obtain ⟨q', rfl, hq'⟩ := ih hq₁
      exact ⟨q', rfl, hq'⟩
    | item i =>
      match q with
      | .item j :: q₁ =>
        obtain ⟨hj, hq₁⟩ := Bool.and_eq_true_iff.1 h
        obtain ⟨q', rfl, hq'⟩ := ih hq₁
        exact ⟨q', by rw [of_decide_eq_true hj]; rfl, hq'⟩

/-- A change of an altered value is a change below its place. -/
theorem AgreeOutside.alter {f : Json → Json} {r : Region} (hf : ∀ x, AgreeOutside r x (f x))
    (p : Path) (v : Json) : AgreeOutside (r.under p) v (v.alter f p) := by
  induction p generalizing v with
  | nil => exact hf v
  | cons step p ih =>
    cases step with
    | key k => exact AgreeOutside.modify fun x _ => ih x
    | item i =>
      cases v with
      | array items =>
        intro q hq
        match q with
        | [] => simp [Json.alter, head]
        | .key k :: q => rfl
        | .item j :: q =>
          rw [Json.alter, head?_item, head?_item, List.getElem?_modify]
          -- Only one item is another one.
          by_cases hij : i = j
          · subst hij
            have hq : r.under p q = false := by simpa [Region.under] using hq
            cases items[i]? with
            | none => rfl
            | some x => simpa using ih x q hq
          · cases items[j]? with
            | none => rfl
            | some x => simp [hij]
      | _ => exact AgreeOutside.refl _ _

/-- A change of one field of an altered value is seen in that field only. -/
theorem head?_alter_of_field {f : Json → Json} {k : String}
    (hf : ∀ x, AgreeOutside (Region.fields [k]) x (f x)) {p : Path} {v : Json} {q : Path}
    (hq : ∀ q', q ≠ p ++ .key k :: q') : (v.alter f p).head? q = v.head? q := by
  apply AgreeOutside.alter hf p v
  cases h : (Region.fields [k]).under p q with
  | false => rfl
  | true =>
    obtain ⟨q', rfl, hfield⟩ := Region.exists_of_under h
    obtain ⟨q'', rfl⟩ := Region.exists_of_fields hfield
    exact absurd rfl (hq q'')

/-- Outside one field, nothing changes when the field is set. -/
theorem head?_alter_set {p : Path} {k : String} {x v : Json} {q : Path}
    (hq : ∀ q', q ≠ p ++ .key k :: q') : (v.alter (·.set k x) p).head? q = v.head? q :=
  head?_alter_of_field (fun u => AgreeOutside.set u k x) hq

/-- Outside one field, nothing changes when the field is removed. -/
theorem head?_alter_remove {p : Path} {k : String} {v : Json} {q : Path}
    (hq : ∀ q', q ≠ p ++ .key k :: q') : (v.alter (·.remove k) p).head? q = v.head? q :=
  head?_alter_of_field (fun u => AgreeOutside.remove u k) hq

end Json

namespace Convergence

open Json
open Program (World wild)
open Quantity (parseNanos? quantityAt bucketAt entryAt respellIf canonicalText canonicalText_congr)

/-! ## §2. Edits of a server -/

/-- One edit of a stored object that says nothing about what was declared. -/
inductive Edit (kind : Kind) (desired : Json) : Json → Json → Prop
  /-- A field is put where nothing is declared. -/
  | add {stored : Json} (p : Path) (k : String) (x : Json)
    (free : desired.walk (p ++ [.key k]) = none) :
    Edit kind desired stored (stored.alter (·.set k x) p)
  /-- A field that is declared to be zero is removed. -/
  | drop {stored : Json} (p : Path) (k : String) {zero : Json}
    (declared : desired.walk (p ++ [.key k]) = some zero) (isZero : zero.isZero = true) :
    Edit kind desired stored (stored.alter (·.remove k) p)
  /-- A field that is declared to be zero is nulled. -/
  | nullify {stored : Json} (p : Path) (k : String) {zero : Json}
    (declared : desired.walk (p ++ [.key k]) = some zero) (isZero : zero.isZero = true) :
    Edit kind desired stored (stored.alter (·.set k .null) p)
  /-- A quantity is written in another way. -/
  | respell {stored : Json} (p : Path) {bucket : String} (k : String) {old new : String} {n : Int}
    (inBucket : bucket = "limits" ∨ bucket = "requests")
    (there : stored.walk (p ++ [.key "resources", .key bucket] ++ [.key k]) = some (.string old))
    (value : parseNanos? old = some n) (same : parseNanos? new = some n) :
    Edit kind desired stored
      (stored.alter (·.set k (.string new)) (p ++ [.key "resources", .key bucket]))
  /-- A field that takes no part in a comparison is set. -/
  | setHidden {stored : Json} (p : Path) (k : String) (x : Json)
    (strips : hidden kind (p ++ [.key k]) = true) :
    Edit kind desired stored (stored.alter (·.set k x) p)
  /-- A field that takes no part in a comparison is removed. -/
  | removeHidden {stored : Json} (p : Path) (k : String)
    (strips : hidden kind (p ++ [.key k]) = true) :
    Edit kind desired stored (stored.alter (·.remove k) p)

/-- Any number of edits, one after the other. -/
inductive Edits (kind : Kind) (desired : Json) : Json → Json → Prop
  | none (stored : Json) : Edits kind desired stored stored
  | more {stored between edited : Json} (before : Edits kind desired stored between)
    (edit : Edit kind desired between edited) : Edits kind desired stored edited

/-! ## §3. What the comparison makes of an edit -/

theorem respellIf_of_isZero {z : Json} (hz : z.isZero = true) (b : Bool) :
    respellIf b z.head = z.head := by
  cases b with
  | false => rfl
  | true =>
    cases z with
    | string s =>
      have hs : s = "" := by simpa [isZero] using hz
      subst hs
      rfl
    | _ => rfl

/-- What is declared to be zero is compared as zero. -/
theorem isZero_of_walk_comparable {kind : Kind} {desired zero x : Json} {P : Path}
    (hzero : desired.walk P = some zero) (hz : zero.isZero = true)
    (hx : (comparable kind desired).walk P = some x) : x.isZero = true := by
  have hhead : (comparable kind desired).head? P = some x.head := head?_eq_some.2 ⟨x, hx, rfl⟩
  have hvisible := hidden_of_head?_comparable hhead
  rw [head?_comparable_of_visible hvisible, head?, hzero, Option.map_some, Option.map_some,
    respellIf_of_isZero hz] at hhead
  refine isZero_of_head hz (Option.some.inj hhead).symm fun k => ?_
  -- A value with the head of a zero is zero if it is also without fields.
  have hinside : (comparable kind desired).head? (P ++ [.key k]) = none := by
    rw [head?_comparable]
    split
    · rfl
    · rw [head?_append, hzero]
      show (Option.map head (zero.walk [.key k])).map _ = none
      rw [walk_of_isZero hz]
      rfl
  rw [head?_append, hx] at hinside
  have hnone : (x.get? k).isSome = false := by
    rw [← isSome_head?_key]
    show ((some x).bind (head? [.key k])).isSome = false
    rw [hinside]
    rfl
  exact Option.isSome_eq_false_iff.1 hnone |> Option.isNone_iff_eq_none.1

/-- Where nothing is declared, nothing is compared. -/
theorem walk_comparable_of_none {kind : Kind} {desired : Json} {P : Path}
    (h : desired.walk P = none) (q : Path) : (comparable kind desired).walk (P ++ q) = none := by
  refine head?_eq_none.1 ?_
  rw [head?_comparable, head?_append_of_none (head?_eq_none.2 h)]
  split <;> rfl

theorem walk_comparable_of_hidden {kind : Kind} {desired : Json} {P : Path}
    (h : hidden kind P = true) (q : Path) : (comparable kind desired).walk (P ++ q) = none := by
  refine head?_eq_none.1 ?_
  rw [head?_comparable, if_pos (closed_hidden kind P q h)]

/-- An object stays in sync if it changes in one field only, and what is declared
    there still admits what it finds. -/
theorem InSync.of_change {kind : Kind} {desired stored edited : Json} {P : Path}
    (h : InSync kind desired stored)
    (houtside : ∀ q, (∀ q', q ≠ P ++ q') → edited.head? q = stored.head? q)
    (hinside : ∀ q x, (comparable kind desired).walk (P ++ q) = some x →
      x.admits ((comparable kind edited).head? (P ++ q)) = true) :
    InSync kind desired edited := by
  intro q x hx
  -- In the field it depends on what is declared there, elsewhere nothing changed.
  by_cases hbelow : ∃ q', q = P ++ q'
  · obtain ⟨q', rfl⟩ := hbelow
    exact hinside q' x hx
  · have hsame : (comparable kind edited).head? q = (comparable kind stored).head? q := by
      rw [head?_comparable, head?_comparable,
        houtside q fun q' hq' => hbelow ⟨q', hq'⟩]
    rw [hsame]
    exact h q x hx

/-- A zero value admits a field that is absent or `null`. -/
theorem InSync.of_zero {kind : Kind} {desired stored edited zero : Json} {P : Path}
    (h : InSync kind desired stored)
    (houtside : ∀ q, (∀ q', q ≠ P ++ q') → edited.head? q = stored.head? q)
    (hzero : desired.walk P = some zero) (hz : zero.isZero = true)
    (hgone : edited.head? P = none ∨ edited.head? P = some .null) :
    InSync kind desired edited := by
  refine h.of_change houtside fun q x hx => ?_
  -- A zero value has no parts, so only its own place is compared.
  match q with
  | [] =>
    rw [List.append_nil] at hx ⊢
    have hxzero := isZero_of_walk_comparable hzero hz hx
    rw [head?_comparable]
    split
    · exact hxzero
    · rcases hgone with hgone | hgone
      · rw [hgone]
        exact hxzero
      · rw [hgone]
        cases quantityAt P <;> exact hxzero
  | step :: q =>
    rw [walk_append] at hx
    obtain ⟨y, hy, hx⟩ := Option.bind_eq_some_iff.1 hx
    rw [walk_of_isZero (isZero_of_walk_comparable hzero hz hy)] at hx
    cases hx

/-- A resource map may lie at any depth. -/
theorem quantityAt_append (p : Path) {q : Path} (h : quantityAt q = true) :
    quantityAt (p ++ q) = true := by
  induction p with
  | nil => exact h
  | cons step p ih =>
    cases step with
    | key k => rw [List.cons_append, quantityAt, ih, Bool.or_true]
    | item i => exact ih

/-- A field is removed from the place where it is. -/
theorem walk_alter_remove (p : Path) (k : String) (q : Path) (v : Json) :
    (v.alter (·.remove k) p).walk (p ++ [.key k] ++ q) = none := by
  rw [List.append_assoc, walk_alter]
  refine Option.bind_eq_none_iff.2 fun x _ => ?_
  show ((x.remove k).get? k).bind (walk q) = none
  rw [get?_remove, if_pos rfl]
  rfl

/-- What is found in a field that was set is what it was set to, if anything. -/
theorem walk_alter_set (p : Path) (k : String) (x : Json) (q : Path) (v : Json) :
    (v.alter (·.set k x) p).walk (p ++ [.key k] ++ q) = none
      ∨ (v.alter (·.set k x) p).walk (p ++ [.key k] ++ q) = x.walk q := by
  rw [List.append_assoc, walk_alter]
  cases hy : v.walk p with
  | none => exact Or.inl rfl
  | some y =>
    show ((y.set k x).get? k).bind (walk q) = none ∨ ((y.set k x).get? k).bind (walk q) = _
    cases y with
    | object fields =>
      right
      rw [get?_set, if_pos rfl]
      rfl
    | _ => exact Or.inl rfl

theorem ne_below {p : Path} {k : String} {q : Path}
    (h : ∀ q', q ≠ p ++ [.key k] ++ q') : ∀ q', q ≠ p ++ .key k :: q' := by
  intro q' hq'
  exact h q' (by rw [hq', List.append_assoc]; rfl)

/-- A quantity that is written in another way is compared as the same one. -/
theorem comparable_respell {kind : Kind} {stored : Json} {p : Path} {bucket k old new : String}
    {n : Int} (inBucket : bucket = "limits" ∨ bucket = "requests")
    (there : stored.walk (p ++ [.key "resources", .key bucket] ++ [.key k]) = some (.string old))
    (value : parseNanos? old = some n) (same : parseNanos? new = some n) (q : Path) :
    (comparable kind (stored.alter (·.set k (.string new))
        (p ++ [.key "resources", .key bucket]))).head? q
      = (comparable kind stored).head? q := by
  rw [head?_comparable, head?_comparable]
  split
  · rfl
  · by_cases hbelow : ∃ q', q = p ++ [.key "resources", .key bucket] ++ [.key k] ++ q'
    · obtain ⟨q', rfl⟩ := hbelow
      have hset : (stored.alter (·.set k (.string new))
          (p ++ [.key "resources", .key bucket])).walk
            (p ++ [.key "resources", .key bucket] ++ [.key k] ++ q') = walk q' (.string new) := by
        rw [walk_append] at there
        obtain ⟨m, hm, hk⟩ := Option.bind_eq_some_iff.1 there
        rw [List.append_assoc, walk_alter, hm]
        cases m with
        | object fields =>
          show ((set (.object fields) k (.string new)).get? k).bind (walk q') = _
          rw [get?_set, if_pos rfl]
          rfl
        | _ => cases hk
      rw [head?, hset, head?_append, there]
      -- The entry is compared by its canonical text, which the value of a quantity settles.
      cases q' with
      | nil =>
        have hquantity : quantityAt
            (p ++ [.key "resources", .key bucket] ++ [.key k] ++ []) = true := by
          rw [List.append_nil, List.append_assoc]
          refine quantityAt_append p ?_
          rcases inBucket with rfl | rfl <;> rfl
        rw [hquantity]
        show some (Head.string (canonicalText new)) = some (Head.string (canonicalText old))
        rw [canonicalText_congr value same]
      | cons step q' => cases step <;> rfl
    · rw [head?_alter_set (ne_below fun q' hq' => hbelow ⟨q', hq'⟩)]

/-! ## §4. Edited objects stay in sync -/

/-- **No edit takes an object out of sync.** -/
theorem InSync.edit {kind : Kind} {desired stored edited : Json} (h : InSync kind desired stored)
    (hedit : Edit kind desired stored edited) : InSync kind desired edited := by
  -- An edit lies where nothing is compared or a zero is declared, or it respells a quantity.
  cases hedit with
  | add p k x free =>
    refine h.of_change (fun q hq => head?_alter_set (ne_below hq)) fun q y hy => ?_
    rw [walk_comparable_of_none free] at hy
    cases hy
  | drop p k declared isZero =>
    refine h.of_zero (fun q hq => head?_alter_remove (ne_below hq)) declared isZero (Or.inl ?_)
    have hgone := walk_alter_remove p k [] stored
    rw [List.append_nil] at hgone
    exact head?_eq_none.2 hgone
  | nullify p k declared isZero =>
    refine h.of_zero (fun q hq => head?_alter_set (ne_below hq)) declared isZero ?_
    have hnull := walk_alter_set p k .null [] stored
    rw [List.append_nil] at hnull
    rcases hnull with hnone | hnull
    · exact Or.inl (head?_eq_none.2 hnone)
    · exact Or.inr (head?_eq_some.2 ⟨.null, hnull, rfl⟩)
  | respell p k inBucket there value same =>
    intro q x hx
    rw [comparable_respell inBucket there value same]
    exact h q x hx
  | setHidden p k x strips =>
    refine h.of_change (fun q hq => head?_alter_set (ne_below hq)) fun q y hy => ?_
    rw [walk_comparable_of_hidden strips] at hy
    cases hy
  | removeHidden p k strips =>
    refine h.of_change (fun q hq => head?_alter_remove (ne_below hq)) fun q y hy => ?_
    rw [walk_comparable_of_hidden strips] at hy
    cases hy

/-- **Any number of edits leave an object in sync.** -/
theorem InSync.edits {kind : Kind} {desired stored edited : Json} (h : InSync kind desired stored)
    (hedits : Edits kind desired stored edited) : InSync kind desired edited := by
  induction hedits with
  | none => exact h
  | more _ edit ih => exact ih.edit edit

/-- **No update loop against a server's normalisation.**  After a pass that wrote
    the desired object, whatever the server edits as long as the record of the
    write stays as it is, the next pass leaves the object alone. -/
theorem decide_skip_of_edits {kind : Kind} {desired stored edited : Json} {w : World}
    {outcome : Outcome} (hd : desired.Canonical)
    (hrun : ((converge kind desired).run w).1 = .ok outcome)
    (hwrote : outcome.decision ≠ .skip)
    (hstored : ((converge kind desired).run w).2.store.object? (keyOf kind desired outcome.name)
      = some stored)
    (hedits : Edits kind desired stored edited)
    (hrecord : edited.at? ["metadata", "annotations", lastAppliedKey]
      = stored.at? ["metadata", "annotations", lastAppliedKey]) :
    decide kind desired (some edited) = .skip := by
  have hruns := Program.runs_run wild (converge kind desired) (w := w)
    (fun _ _ => trivial) fun _ _ _ => trivial
  rw [hrun] at hruns
  have hends := runs_converge_ok hruns
  obtain ⟨stored', -, hstored', hsync, -⟩ := hends.settled hd
  -- The record is that of this pass, since it wrote the object.
  cases hstored.symm.trans hstored'
  have hmade : Recorded desired stored := by
    cases hends with
    | skipped => exact absurd rfl hwrote
    | wrote named _ _ made into _ =>
      rw [Store.object?, into, Keyed.get?_insert, if_pos rfl] at hstored'
      cases hstored'
      exact made.recorded
  refine decide_skip hd (hsync.edits hedits) (hmade.congr ?_)
  rw [at?_eq_walk, at?_eq_walk] at hrecord
  exact congrArg (Option.map head) hrecord

/-- A store that holds nothing. -/
def emptyWorld : World where
  store := { stamps := fun _ => ⟨"uid", "2024-01-01T00:00:00Z"⟩ }

/-- Once written, a config map is left alone when it gets another entry and
    another resource version. -/
theorem decide_skip_of_edits_settingsMap :
    ∃ stored edited : Json,
      ((converge .configMap settingsMap).run emptyWorld).2.store.object?
        (keyOf .configMap settingsMap "settings") = some stored
      ∧ edited = (stored.alter (·.set "colour" (.string "red")) [.key "data"]).alter
          (·.set "resourceVersion" (.string "7")) [.key "metadata"]
      ∧ decide .configMap settingsMap (some edited) = .skip := by
  cases hstored : ((converge .configMap settingsMap).run emptyWorld).2.store.object?
      (keyOf .configMap settingsMap "settings") with
  | none => cases hstored
  | some stored =>
    refine ⟨stored, _, rfl, rfl, ?_⟩
    have hrun : ((converge .configMap settingsMap).run emptyWorld).1
        = .ok ⟨.configMap, "settings", .create⟩ := rfl
    refine decide_skip_of_edits canonical_settingsMap hrun (by decide) hstored
      (.more (.more (.none stored) (.add [.key "data"] "colour" _ rfl))
        (.setHidden [.key "metadata"] "resourceVersion" _ rfl)) ?_
    simp only [at?, alter, get?_modify, if_pos, String.reduceEq, if_false]
    cases stored.get? "metadata" with
    | none => rfl
    | some metadata =>
      cases metadata with
      | object fields => simp [get?_set]
      | _ => rfl

end Convergence

end LoggingOperator
