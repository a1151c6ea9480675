/-
  LoggingOperator.Proofs.Pass.Template — A TEMPLATE FOLLOWS ITS DECLARATION.

  An index template has no record of what was written last.  A pass compares
  what is stored with what is declared now, in one direction only, and puts the
  declared body if something declared is missing.

  Whatever was declared before, the body that is stored is one of the declared
  bodies (`Held`), since each put replaces it as a whole.  So after a pass that
  writes the template has exactly the declared settings, and after one that
  skips it has every declared setting, except that an option declared as the
  empty text may not be set (`settings_follow`).  What it has beyond them was
  declared before: an option that is no longer declared stays set until
  something else makes a pass write (`skip_leaves_options`).
-/
import LoggingOperator.Pass.Index
import LoggingOperator.Proofs.Convergence.Containment
import LoggingOperator.Proofs.Json.Exact
import LoggingOperator.Proofs.Json.Record
import LoggingOperator.Proofs.Program.Environment

namespace LoggingOperator

open Json Json.Record

/-! ## §1. Settings in one spelling -/

namespace Management

/-- The setting under a key, in the one spelling. -/
def setting? (body : Json) (key : String) : Option Json :=
  ((flattenSettings body).get? "settings").bind (Json.get? key)

/-- A value that is a leaf by itself. -/
def IsLeaf : Json → Prop
  | .null | .object _ => False
  | _ => True

theorem leaves_of_isLeaf {v : Json} (h : IsLeaf v) (path : String) :
    leaves path v = [(path, leafText v)] := by
  cases v with
  | null | object => cases h
  | _ => simp [leaves]

/-- An object of leaves is flat already. -/
theorem leavesOf_flat {fields : List (String × Json)} (h : ∀ f ∈ fields, IsLeaf f.2) :
    leavesOf "" fields = fields.map fun f => (f.1, leafText f.2) := by
  induction fields with
  | nil => simp [leavesOf]
  | cons f rest ih =>
    obtain ⟨key, v⟩ := f
    have hkey : joinPath "" key = key := if_pos rfl
    rw [leavesOf, leaves_of_isLeaf (h (key, v) List.mem_cons_self), hkey,
      ih fun f hf => h f (List.mem_cons_of_mem _ hf)]
    rfl

/-- The leaves of an object of leaves, as an object. -/
theorem ofLeaves_flat {fields : List (String × Json)} (hsorted : Keyed.Sorted fields)
    (h : ∀ f ∈ fields, IsLeaf f.2) :
    ofLeaves (leaves "" (.object fields))
      = .object (fields.map fun f => (f.1, .string (leafText f.2))) := by
  rw [leaves, leavesOf_flat h, ofLeaves, ← List.map_reverse, List.map_map]
  show Json.ofFields (fields.reverse.map fun f => (f.1, Json.string (leafText f.2))) = _
  rw [List.map_reverse]
  exact ofFields_reverse (hsorted.map_values fun _ => rfl)

/-- Settings that are declared flat have the texts of what is declared. -/
theorem setting?_of_flat {body : Json} {fields : List (String × Json)} (key : String)
    (hbody : body.get? "settings" = some (.ofFields fields)) (h : ∀ f ∈ fields, IsLeaf f.2) :
    setting? body key = (Keyed.get? key fields).map fun v => .string (leafText v) := by
  have hflat := ofLeaves_flat (Keyed.sorted_ofList fields)
    fun f hf => h f (Keyed.mem_of_mem_ofList hf)
  rw [setting?, flattenSettings, get?_modify, if_pos rfl, hbody]
  show (ofLeaves (leaves "" (.object (Keyed.ofList fields)))).get? key = _
  rw [hflat, get?_object, Keyed.get?_mapValues fun v => Json.string (leafText v), Keyed.get?_ofList]

/-- A body stays canonical if its settings are brought into one spelling. -/
theorem canonical_flattenSettings {body : Json} (h : body.Canonical) :
    (flattenSettings body).Canonical := by
  refine h.modify fun settings _ => canonical_ofFields ?_
  intro f hf
  obtain ⟨pair, -, rfl⟩ := List.mem_map.1 hf
  exact canonical_string _

/-- What containment says of settings: each one that is asked for is admitted. -/
theorem admits_setting {stored desired : Json} (hd : desired.Canonical)
    (h : (flattenSettings stored).contains (flattenSettings desired) = true) {key : String}
    {v : Json} (hv : setting? desired key = some v) : v.admits ((setting? stored key).map head) = true := by
  have hplace := (contains_iff (canonical_flattenSettings hd)).1 h [.key "settings", .key key] v
  have hwalk : ∀ body,
      (flattenSettings body).walk [.key "settings", .key key] = setting? body key := by
    intro body
    rw [walk_key, setting?]
    congr 1
    funext settings
    rw [walk_key]
    cases settings.get? key <;> rfl
  rw [head?, hwalk, hwalk] at hplace
  exact hplace hv

end Management

/-! ## §2. Settings of a declared template -/

namespace Manifest

open Management

/-- The settings of a template as they are sent. -/
def settingFields (s : TemplateSettings) : List (String × Json) :=
  always "index.number_of_shards" (int32 s.shards)
    ++ always "index.number_of_replicas" (int32 s.replicas)
    ++ ifSome "index.lifecycle.name" .string s.lifecycle
    ++ ifSome "index.lifecycle.rollover_alias" .string s.rolloverAlias

theorem isLeaf_settingFields (s : TemplateSettings) : ∀ f ∈ settingFields s, IsLeaf f.2 := by
  obtain ⟨shards, replicas, lifecycle, rolloverAlias⟩ := s
  intro f hf
  cases lifecycle <;> cases rolloverAlias <;>
    simp only [settingFields, always, ifSome, List.mem_append, List.mem_singleton, List.not_mem_nil,
      or_false] at hf <;>
    grind [IsLeaf, Json.int32]

/-- The settings of a declared template are texts. -/
theorem setting?_templateBody (spec : IndexTemplateSpec) (key : String) :
    setting? (templateBody spec) key
      = (Keyed.get? key (settingFields spec.settings)).map fun v => .string (leafText v) :=
  setting?_of_flat key (get?_ofFields _ _) (isLeaf_settingFields spec.settings)

@[simp] theorem canonical_templateBody (spec : IndexTemplateSpec) :
    (templateBody spec).Canonical := by
  simp [templateBody]

/-- **What a pass that skips has found**: of two declared bodies whose settings are
    contained in each other's, the stored one has every setting of the other,
    except that one declared as the empty text may be missing. -/
theorem setting?_of_contained {stored desired : IndexTemplateSpec}
    (h : (flattenSettings (templateBody stored)).contains
      (flattenSettings (templateBody desired)) = true)
    {key : String} {v : Json} (hv : setting? (templateBody desired) key = some v) :
    setting? (templateBody stored) key = some v
      ∨ v = .string "" ∧ setting? (templateBody stored) key = none := by
  have hadmits := admits_setting (canonical_templateBody desired) h hv
  rw [setting?_templateBody] at hv hadmits ⊢
  obtain ⟨x, -, rfl⟩ := Option.map_eq_some_iff.1 hv
  cases hstored : Keyed.get? key (settingFields stored.settings) with
  | none =>
    rw [hstored] at hadmits
    exact Or.inr ⟨congrArg Json.string (by simpa [admits, isZero] using hadmits), rfl⟩
  | some y =>
    rw [hstored] at hadmits
    have htext : leafText x = leafText y := by simpa [admits, head] using hadmits
    exact Or.inl (congrArg (fun t => some (Json.string t)) htext.symm)

end Manifest

/-! ## §3. One pass -/

namespace Pass.Index

open Management (Cluster Endpoint EntryKind flattenSettings setting?)
open Manifest (templateBody setting?_of_contained)
open Program (World)

/-- What is kept under a name after it was put. -/
theorem body?_put (c : Cluster) (kind : EntryKind) (name : String) (body : Json) :
    (c.put kind name body).body? kind name = some body := by
  cases kind <;> exact (Keyed.get?_insert _ _ _ _).trans (if_pos rfl)

/-- **A pass that keeps an entry always comes to its end**, with what is decided on
    the body that is stored.  Unless that is to skip, the declared body is stored
    as a whole. -/
theorem run_keep (endpoint : Endpoint) (kind : EntryKind) (name : String) (normal : Json → Json)
    (desired : Json) (w : World) :
    ((keep endpoint kind name normal desired).run w).1
        = .ok (decide (normal desired) ((w.cluster.body? kind name).map normal))
      ∧ ((keep endpoint kind name normal desired).run w).2.cluster.body? kind name
        = if decide (normal desired) ((w.cluster.body? kind name).map normal) = .skip
          then w.cluster.body? kind name else some desired := by
  have hread : (w.cluster.record endpoint (.get kind name)).body? kind name
      = w.cluster.body? kind name := by
    cases kind <;> rfl
  have hcall : (call endpoint (.get kind name)).run w
      = (.ok (w.cluster.body? kind name),
        { w with cluster := w.cluster.record endpoint (.get kind name) }) := by
    rw [← hread]
    rfl
  rw [keep, Program.bind_eq, Program.run_bind, hcall]
  dsimp only
  cases decide (normal desired) ((w.cluster.body? kind name).map normal) with
  | skip => exact ⟨rfl, hread⟩
  | create | update | delete => exact ⟨rfl, body?_put _ _ _ _⟩

/-- What is stored under a name, if anything, is the body of one of the declared
    templates. -/
def Held (name : String) (declared : List IndexTemplate) (w : World) : Prop :=
  ∀ body, w.cluster.body? .template name = some body → ∃ e ∈ declared, body = templateBody e.spec

section

variable {name : String} {earlier : List IndexTemplate} {it : IndexTemplate} {w : World}

/-- What a pass over an enabled template leaves: the body of one of the declared
    templates, which is the last one unless the pass found everything in it. -/
theorem run_runTemplate (hheld : Held name earlier w) (hname : it.id = name)
    (henabled : it.spec.enabled = true) :
    ∃ decision, ∃ e ∈ earlier ++ [it], ((runTemplate it).run w).1 = .ok decision
      ∧ ((runTemplate it).run w).2.cluster.body? .template name = some (templateBody e.spec)
      ∧ (e = it ∧ decision ≠ .skip
        ∨ decision = .skip ∧ (flattenSettings (templateBody e.spec)).contains
            (flattenSettings (templateBody it.spec)) = true) := by
  have hkeep : runTemplate it
      = keep (endpoint it.spec.address) .template name flattenSettings (templateBody it.spec) := by
    rw [runTemplate, if_pos henabled, hname]
  obtain ⟨hresult, hbody⟩ := run_keep (endpoint it.spec.address) .template name flattenSettings
    (templateBody it.spec) w
  rw [← hkeep] at hresult hbody
  have hmem : it ∈ earlier ++ [it] := List.mem_append_right _ List.mem_cons_self
  cases hstored : w.cluster.body? .template name with
  | none =>
    rw [hstored] at hresult hbody
    exact ⟨_, it, hmem, hresult, hbody, Or.inl ⟨rfl, nofun⟩⟩
  | some body =>
    obtain ⟨e, he, rfl⟩ := hheld body hstored
    rw [hstored, Option.map_some, decide] at hresult hbody
    cases hcontains : (flattenSettings (templateBody e.spec)).contains
        (flattenSettings (templateBody it.spec)) with
    | true =>
      rw [hcontains] at hresult hbody
      exact ⟨_, e, List.mem_append_left _ he, hresult, hbody, Or.inr ⟨rfl, hcontains⟩⟩
    | false =>
      rw [hcontains] at hresult hbody
      exact ⟨_, it, hmem, hresult, hbody, Or.inl ⟨rfl, nofun⟩⟩

/-! ## §4. Passes one after the other -/

/-- Passes over declared templates, one after the other. -/
def runTemplates (its : List IndexTemplate) (w : World) : World :=
  its.foldl (fun w it => ((runTemplate it).run w).2) w

/-- Nothing but declared bodies is ever stored. -/
theorem held_runTemplates {its : List IndexTemplate} (hheld : Held name earlier w)
    (h : ∀ e ∈ its, e.id = name ∧ e.spec.enabled = true) :
    Held name (earlier ++ its) (runTemplates its w) := by
  induction its generalizing earlier w with
  | nil => rwa [List.append_nil]
  | cons it rest ih =>
    obtain ⟨hname, henabled⟩ := h it List.mem_cons_self
    obtain ⟨_, e, he, -, hstored, -⟩ := run_runTemplate hheld hname henabled
    have hnext : Held name (earlier ++ [it]) ((runTemplate it).run w).2 := by
      intro body hbody
      rw [hstored] at hbody
      exact ⟨e, he, (Option.some.inj hbody).symm⟩
    rw [List.append_cons]
    exact ih hnext fun e he => h e (List.mem_cons_of_mem _ he)

/-- **A template follows its declaration**: after the last of any number of passes
    over enabled templates of one name, which all succeed, the stored template has
    the declared settings.  They are exactly these after a pass that writes.  After
    one that skips, every declared setting is there, except that an option declared
    as the empty text may be unset; and whatever else is set was declared before. -/
theorem settings_follow (hnone : w.cluster.body? .template name = none)
    (h : ∀ e ∈ earlier ++ [it], e.id = name ∧ e.spec.enabled = true) :
    ∃ decision stored,
      ((runTemplate it).run (runTemplates earlier w)).1 = .ok decision
        ∧ ((runTemplate it).run (runTemplates earlier w)).2.cluster.body? .template name = some stored
        ∧ (decision ≠ .skip → ∀ key, setting? stored key = setting? (templateBody it.spec) key)
        ∧ (∀ key v, setting? (templateBody it.spec) key = some v →
            setting? stored key = some v ∨ v = .string "" ∧ setting? stored key = none)
        ∧ ∀ key v, setting? stored key = some v →
            ∃ e ∈ earlier ++ [it], setting? (templateBody e.spec) key = some v := by
  have hempty : Held name [] w := fun body hbody => by
    rw [hnone] at hbody
    cases hbody
  have hheld : Held name earlier (runTemplates earlier w) :=
    held_runTemplates hempty fun e he => h e (List.mem_append_left _ he)
  obtain ⟨hname, henabled⟩ := h it (List.mem_append_right _ List.mem_cons_self)
  obtain ⟨decision, e, he, hresult, hstored, hcases⟩ := run_runTemplate hheld hname henabled
  refine ⟨decision, _, hresult, hstored, ?_, ?_, fun key v hv => ⟨e, he, hv⟩⟩
  · intro hdecision key
    rcases hcases with ⟨rfl, -⟩ | ⟨hskip, -⟩
    · rfl
    · exact absurd hskip hdecision
  · intro key v hv
    rcases hcases with ⟨rfl, -⟩ | ⟨-, hcontains⟩
    · exact Or.inl hv
    · exact setting?_of_contained hcontains hv

end

/-- A declared template with a lifecycle, or without. -/
def logsTemplate (lifecycle : Option String) : IndexTemplate where
  metadata := { name := some "logs" }
  spec := {
    address := { host := "http://logs-master:9200" }
    patterns := ["logs-*"]
    settings := { lifecycle } }

/-- A world without anything. -/
def bareWorld : World where
  store := { stamps := fun _ => ⟨"7f3a", "2024-01-01T00:00:00Z"⟩ }

/-- A changed lifecycle is set after the second pass. -/
theorem settings_follow_lifecycle :
    bareWorld.cluster.body? .template "logs" = none
      ∧ (∀ e ∈ [logsTemplate (some "daily")] ++ [logsTemplate (some "weekly")],
          e.id = "logs" ∧ e.spec.enabled = true)
      ∧ ∃ stored,
        ((runTemplate (logsTemplate (some "weekly"))).run
          (runTemplates [logsTemplate (some "daily")] bareWorld)).2.cluster.body? .template "logs"
            = some stored
        ∧ setting? stored "index.lifecycle.name" = some (.string "weekly") := by
  have hdeclared : ∀ e ∈ [logsTemplate (some "daily")] ++ [logsTemplate (some "weekly")],
      e.id = "logs" ∧ e.spec.enabled = true := by
    decide
  refine ⟨rfl, hdeclared, ?_⟩
  obtain ⟨_, stored, -, hstored, -, hset, -⟩ := settings_follow (w := bareWorld) rfl hdeclared
  refine ⟨stored, hstored, ?_⟩
  rcases hset "index.lifecycle.name" (.string "weekly") (by decide +kernel) with hset | ⟨hempty, -⟩
  · exact hset
  · exact absurd hempty (by decide)

/-- The second of two passes over a template whose lifecycle changed. -/
def secondPass (first second : Option String) : Except PassError Decision × World :=
  (runTemplate (logsTemplate second)).run (runTemplates [logsTemplate first] bareWorld)

/-- A pass that skips leaves options as they were: one that is declared as the empty
    text is not set if it was not set before, and one that is no longer declared
    stays set. -/
theorem skip_leaves_options :
    bareWorld.cluster.body? .template "logs" = none
      ∧ (∀ lifecycle, (logsTemplate lifecycle).id = "logs"
          ∧ (logsTemplate lifecycle).spec.enabled = true)
      ∧ (∃ stored, (secondPass none (some "")).1 = .ok .skip
          ∧ (secondPass none (some "")).2.cluster.body? .template "logs" = some stored
          ∧ setting? (templateBody (logsTemplate (some "")).spec) "index.lifecycle.name"
              = some (.string "")
          ∧ setting? stored "index.lifecycle.name" = none)
      ∧ ∃ stored, (secondPass (some "daily") none).1 = .ok .skip
          ∧ (secondPass (some "daily") none).2.cluster.body? .template "logs" = some stored
          ∧ setting? (templateBody (logsTemplate none).spec) "index.lifecycle.name" = none
          ∧ setting? stored "index.lifecycle.name" = some (.string "daily") := by
  refine ⟨rfl, fun _ => ⟨rfl, rfl⟩, ⟨templateBody (logsTemplate none).spec, ?_⟩,
    ⟨templateBody (logsTemplate (some "daily")).spec, ?_⟩⟩
  · exact ⟨rfl, rfl, by decide +kernel, by decide +kernel⟩
  · exact ⟨rfl, rfl, by decide +kernel, by decide +kernel⟩

end Pass.Index

end LoggingOperator
