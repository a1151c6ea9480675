/-
  LoggingOperator.Proofs.Pass.Index — WHEN AN ENTRY IS PUT AGAIN.

  A pass over an index template or a lifecycle policy compares what the cluster
  answers with what is declared.  Two mistakes are possible: to see a difference
  in what is only an echo, and to put the entry on every pass; or to see none
  where something declared is missing, and never to put it.

  Neither is made.  Whatever a cluster may have made of the declared body is
  left alone, and what lacks something declared is put once, and then left alone
  (`entries_settle`).
-/
import LoggingOperator.Proofs.Management.Echo
import LoggingOperator.Proofs.Program.Course

namespace LoggingOperator

open Json Json.Record

/-! ## §1. What is missing -/

namespace Json

/-- A text that is not empty is admitted only by itself. -/
theorem eq_of_admits_string {text : String} {found : Option Json}
    (h : (Json.string text).admits (found.map head) = true) (hne : text ≠ "") :
    found = some (.string text) := by
  cases found with
  | none => exact absurd (by simpa [admits, isZero] using h) hne
  | some x => cases x <;> simp_all [admits, head, isZero]

/-- A list that is not empty is admitted only by one of its length. -/
theorem exists_array_of_admits {items : List Json} {found : Option Json}
    (h : (Json.array items).admits (found.map head) = true) (hne : items ≠ []) :
    ∃ stored, found = some (.array stored) ∧ stored.length = items.length := by
  cases found with
  | none => exact absurd (by simpa [admits, isZero] using h) hne
  | some x =>
    obtain ⟨stored, rfl, hlength⟩ := head_eq_array.1 (admits_array h hne)
    exact ⟨stored, rfl, hlength⟩

/-- So a text that is not empty is contained only where it is stored. -/
theorem walk_eq_of_contains {stored desired : Json} (hd : desired.Canonical)
    (h : stored.contains desired = true) {p : Path} {text : String}
    (hp : desired.walk p = some (.string text)) (hne : text ≠ "") :
    stored.walk p = some (.string text) :=
  eq_of_admits_string ((contains_iff hd).1 h p _ hp) hne

end Json

namespace Management

open Manifest (templateBody settingFields setting?_templateBody canonical_templateBody policyBody)

/-- Something is missing in a stored template that is declared, or is another one:
    a setting or a pattern that is not the empty text, or the number of patterns. -/
inductive TemplateLacks (spec : IndexTemplateSpec) (stored : Json) : Prop
  | setting {key : String} {v : Json}
    (declared : Keyed.get? key (settingFields spec.settings) = some v) (nonempty : leafText v ≠ "")
    (differs : setting? stored key ≠ some (.string (leafText v)))
  | pattern {i : Nat} {pattern : String} (declared : spec.patterns[i]? = some pattern)
    (nonempty : pattern ≠ "")
    (differs : stored.walk [.key "index_patterns", .item i] ≠ some (.string pattern))
  | count (declared : spec.patterns ≠ []) (differs : ∀ items,
      stored.get? "index_patterns" = some (.array items) → items.length ≠ spec.patterns.length)

/-- What lacks something does not contain the declared body. -/
theorem TemplateLacks.contains_eq_false {spec : IndexTemplateSpec} {stored : Json}
    (h : TemplateLacks spec stored) :
    (flattenSettings stored).contains (flattenSettings (templateBody spec)) = false := by
  rw [← Bool.not_eq_true]
  intro hcontains
  have hcanonical := canonical_flattenSettings (canonical_templateBody spec)
  -- The comparison changes nothing about the patterns.
  have hpatterns : ∀ (body : Json) (p : Path),
      (flattenSettings body).walk (.key "index_patterns" :: p)
        = body.walk (.key "index_patterns" :: p) := by
    intro body p
    rw [walk_key, walk_key, flattenSettings, get?_modify, if_neg (by decide)]
  have hbody : (templateBody spec).get? "index_patterns" = some (strings spec.patterns) :=
    get?_ofFields _ _
  cases h with
  | @setting key v declared nonempty differs =>
    have hdeclared : setting? (templateBody spec) key = some (.string (leafText v)) := by
      rw [setting?_templateBody, declared]
      rfl
    exact differs (eq_of_admits_string
      (admits_setting (canonical_templateBody spec) hcontains hdeclared) nonempty)
  | @pattern i pattern declared nonempty differs =>
    refine differs ?_
    rw [← hpatterns]
    refine walk_eq_of_contains hcanonical hcontains ?_ nonempty
    rw [hpatterns, walk_key, hbody]
    show ((spec.patterns.map Json.string)[i]?).bind (walk []) = _
    rw [List.getElem?_map, declared]
    rfl
  | count declared differs =>
    have hadmits := (contains_iff hcanonical).1 hcontains [.key "index_patterns"]
      (strings spec.patterns) (by rw [hpatterns, walk_key, hbody]; rfl)
    have hwalk : stored.walk [.key "index_patterns"] = stored.get? "index_patterns" :=
      (walk_key _ _ _).trans (Option.bind_fun_some _)
    rw [head?, hpatterns, hwalk] at hadmits
    obtain ⟨items, hstored, hlength⟩ := exists_array_of_admits hadmits (by simpa using declared)
    exact differs items hstored (by simpa using hlength)

/-- The texts of a declared lifecycle policy, and where they are in its body. -/
def policyTexts (spec : IndexLifecycleSpec) : List (List String × String) :=
  [(["policy", "phases", "hot", "actions", "rollover", "max_size"], spec.rollover.maxSize),
    (["policy", "phases", "hot", "actions", "rollover", "max_age"], spec.rollover.maxAge),
    (["policy", "phases", "delete", "min_age"], spec.expiry.minAge)]

/-- A text that is not empty is missing in a stored policy, or is another one. -/
def PolicyLacks (spec : IndexLifecycleSpec) (stored : Json) : Prop :=
  ∃ entry ∈ policyTexts spec, entry.2 ≠ "" ∧ stored.at? entry.1 ≠ some (.string entry.2)

theorem at?_policyBody (spec : IndexLifecycleSpec) :
    ∀ entry ∈ policyTexts spec, (policyBody spec).at? entry.1 = some (.string entry.2) := by
  intro entry hentry
  simp only [policyTexts, List.mem_cons, List.not_mem_nil, or_false] at hentry
  rcases hentry with rfl | rfl | rfl <;> rfl

theorem canonical_policyBody (spec : IndexLifecycleSpec) : (policyBody spec).Canonical := by
  have hone : ∀ (key : String) (v : Json), v.Canonical → (Json.ofFields [(key, v)]).Canonical :=
    fun _ _ h => canonical_ofCanonicalFields ⟨h, trivial⟩
  exact hone _ _ (hone _ _ (canonical_ofCanonicalFields
    ⟨hone _ _ (hone _ _ (by simp)), by simp, trivial⟩))

theorem PolicyLacks.contains_eq_false {spec : IndexLifecycleSpec} {stored : Json}
    (h : PolicyLacks spec stored) : stored.contains (policyBody spec) = false := by
  obtain ⟨entry, hentry, hne, hdiffers⟩ := h
  rw [← Bool.not_eq_true]
  intro hcontains
  refine hdiffers ?_
  rw [at?_eq_walk]
  refine walk_eq_of_contains (canonical_policyBody spec) hcontains ?_ hne
  rw [← at?_eq_walk]
  exact at?_policyBody spec entry hentry

end Management

/-! ## §2. One pass over an entry -/

namespace Pass.Index

open Management (Cluster Echoed Endpoint EntryKind ManagementError PolicyLacks TemplateLacks
  contains_of_echoed flattenSettings)
open Manifest (policyBody templateBody)
open Program (Traces World)

/-- An entry that is stored as `stored` is left alone: nothing is called but the read
    of it, whatever the cluster, and on one held in memory nothing else changes. -/
def LeavesAlone (p : Pass Decision) (endpoint : Endpoint) (kind : EntryKind) (name : String)
    (stored : Json) : Prop :=
  (∀ events r, Traces p (.manage endpoint (.get kind name) (.ok (some stored)) :: events) r →
      events = [] ∧ r = .ok .skip)
    ∧ ∀ w : World, w.cluster.body? kind name = some stored →
      p.run w = (.ok .skip, { w with cluster := w.cluster.record endpoint (.get kind name) })

/-- An entry that is stored as `stored` is put once, with this body; a cluster held in
    memory then has this body, and the next pass leaves it alone. -/
def Replaces (p : Pass Decision) (endpoint : Endpoint) (kind : EntryKind) (name : String)
    (stored body : Json) : Prop :=
  (∀ events r, Traces p (.manage endpoint (.get kind name) (.ok (some stored)) :: events) r →
      ∃ answer : Except ManagementError Unit,
        events = [.manage endpoint (.put kind name body) answer]
          ∧ r = (answer.map fun _ => .update).mapError .management)
    ∧ ∀ w : World, w.cluster.body? kind name = some stored → ∃ after : World,
      p.run w = (.ok .update, after)
        ∧ after = { w with cluster := ((w.cluster.record endpoint (.get kind name)).record
            endpoint (.put kind name body)).put kind name body }
        ∧ after.cluster.body? kind name = some body
        ∧ p.run after = (.ok .skip,
          { after with cluster := after.cluster.record endpoint (.get kind name) })

section Keep

variable {endpoint : Endpoint} {kind : EntryKind} {name : String} {normal : Json → Json}
  {stored desired : Json}

/-- The calls of a pass that finds an entry. -/
theorem traces_keep {events : List Event} {r : Except PassError Decision}
    (h : Traces (keep endpoint kind name normal desired)
      (.manage endpoint (.get kind name) (.ok (some stored)) :: events) r) :
    if (normal stored).contains (normal desired) then events = [] ∧ r = .ok .skip
    else ∃ answer : Except ManagementError Unit,
      events = [.manage endpoint (.put kind name desired) answer]
        ∧ r = (answer.map fun _ => .update).mapError .management := by
  obtain ⟨answer, later, hevents, hrest⟩ := Program.traces_manage_iff.1 h
  cases hevents
  dsimp only [Program.ofExcept, Program.handle, Program.bind, Bind.bind, Option.map_some] at hrest
  cases hcontains : (normal stored).contains (normal desired) with
  | true =>
    rw [decide, hcontains] at hrest
    exact Program.traces_done_iff.1 hrest
  | false =>
    rw [decide, hcontains] at hrest
    obtain ⟨answer, later, rfl, hlast⟩ := Program.traces_manage_iff.1 hrest
    refine ⟨answer, ?_⟩
    cases answer with
    | ok _ =>
      obtain ⟨rfl, rfl⟩ := Program.traces_done_iff.1 hlast
      exact ⟨rfl, rfl⟩
    | error e =>
      obtain ⟨rfl, rfl⟩ := Program.traces_fail_iff.1 hlast
      exact ⟨rfl, rfl⟩

/-- What a pass that finds an entry makes of a cluster held in memory. -/
theorem run_keep_found {w : World} (h : w.cluster.body? kind name = some stored) :
    (keep endpoint kind name normal desired).run w
      = if (normal stored).contains (normal desired) then
          (.ok .skip, { w with cluster := w.cluster.record endpoint (.get kind name) })
        else (.ok .update, { w with cluster := ((w.cluster.record endpoint (.get kind name)).record
            endpoint (.put kind name desired)).put kind name desired }) := by
  have hread : (w.cluster.record endpoint (.get kind name)).body? kind name = some stored := by
    rw [← h]
    cases kind <;> rfl
  have hcall : (call endpoint (.get kind name)).run w
      = (.ok (some stored), { w with cluster := w.cluster.record endpoint (.get kind name) }) := by
    rw [← hread]
    rfl
  rw [keep, Program.bind_eq, Program.run_bind, hcall]
  dsimp only
  rw [Option.map_some, decide]
  cases (normal stored).contains (normal desired) <;> rfl

theorem leavesAlone_keep (h : (normal stored).contains (normal desired) = true) :
    LeavesAlone (keep endpoint kind name normal desired) endpoint kind name stored := by
  refine ⟨fun events r htraces => ?_, fun w hw => ?_⟩
  · have hcalls := traces_keep htraces
    rwa [if_pos h] at hcalls
  · rw [run_keep_found hw, if_pos h]

/-- What is put is left alone by the next pass, as it contains itself. -/
theorem replaces_keep (h : (normal stored).contains (normal desired) = false)
    (hself : (normal desired).contains (normal desired) = true) :
    Replaces (keep endpoint kind name normal desired) endpoint kind name stored desired := by
  refine ⟨fun events r htraces => ?_, fun w hw => ⟨_, ?_, rfl, body?_put _ _ _ _, ?_⟩⟩
  · have hcalls := traces_keep htraces
    rwa [h, if_neg Bool.false_ne_true] at hcalls
  · rw [run_keep_found hw, h, if_neg Bool.false_ne_true]
  · rw [run_keep_found (body?_put _ _ _ _), if_pos hself]

end Keep

/-! ## §3. Templates and policies -/

/-- **An entry is put exactly if something declared is missing.**  What a cluster may
    have made of the body of an enabled template or policy is left alone.  What lacks
    something declared is put once, and then left alone. -/
theorem entries_settle :
    (∀ (it : IndexTemplate) (stored : Json), it.spec.enabled = true → Echoed it.spec stored →
      LeavesAlone (runTemplate it) (endpoint it.spec.address) .template it.id stored)
    ∧ (∀ (il : IndexLifecycle) (stored : Json), il.spec.enabled = true →
      Extended (policyBody il.spec) stored →
      LeavesAlone (runLifecycle il) (endpoint il.spec.address) .policy il.id stored)
    ∧ (∀ (it : IndexTemplate) (stored : Json), it.spec.enabled = true →
      TemplateLacks it.spec stored →
      Replaces (runTemplate it) (endpoint it.spec.address) .template it.id stored
        (templateBody it.spec))
    ∧ ∀ (il : IndexLifecycle) (stored : Json), il.spec.enabled = true →
      PolicyLacks il.spec stored →
      Replaces (runLifecycle il) (endpoint il.spec.address) .policy il.id stored
        (policyBody il.spec) := by
  refine ⟨fun it stored henabled hechoed => ?_, fun il stored henabled hextended => ?_,
    fun it stored henabled hlacks => ?_, fun il stored henabled hlacks => ?_⟩
  · rw [runTemplate, if_pos henabled]
    exact leavesAlone_keep (contains_of_echoed hechoed)
  · rw [runLifecycle, if_pos henabled]
    exact leavesAlone_keep
      (contains_of_extended (Management.canonical_policyBody il.spec) hextended)
  · rw [runTemplate, if_pos henabled]
    exact replaces_keep hlacks.contains_eq_false (contains_of_echoed .body)
  · rw [runLifecycle, if_pos henabled]
    exact replaces_keep hlacks.contains_eq_false
      (contains_self (Management.canonical_policyBody il.spec))

/-- A template whose settings came back nested, spelled out and with fields of the
    cluster's own. -/
theorem exists_echoed_logs :
    ∃ stored, Echoed (logsTemplate (some "daily")).spec stored
      ∧ stored.at? ["settings", "index", "lifecycle", "name"] = some (.string "daily")
      ∧ stored.at? ["settings", "index", "number_of_shards"] = some (.string "1")
      ∧ stored.at? ["settings", "index", "codec"] = some (.string "best_compression")
      ∧ stored.at? ["order"] = some (.int32 0) := by
  have hbody : Echoed (logsTemplate (some "daily")).spec _ := .body
  have hshards := hbody.more (.nest [] "index" "number_of_shards" rfl rfl (by decide) nofun)
  have htext := hshards.more (.spellOut ["index", "number_of_shards"] rfl trivial)
  have hlifecycle := htext.more (.nest [] "index" "lifecycle.name" rfl rfl (by decide)
    (by rintro _ ⟨⟩; exact ⟨rfl, rfl⟩))
  have hname := hlifecycle.more (.nest ["index"] "lifecycle" "name" rfl rfl (by decide) nofun)
  have hcodec := hname.more (.addSetting ["index"] "codec" (.string "best_compression") rfl rfl rfl
    trivial (by decide +kernel))
  exact ⟨_, hcodec.more (.addField "order" (.int32 0) trivial rfl), rfl, rfl, rfl, rfl⟩

/-- A declared lifecycle policy. -/
def weeklyPolicy : IndexLifecycle where
  metadata := { name := some "weekly" }
  spec := {
    address := { host := "http://logs-master:9200" }
    rollover := { maxSize := "50gb", maxAge := "7d" }
    expiry := { minAge := "30d" } }

/-- Such a template and a policy with one more field are left alone.  A template with
    another lifecycle and an empty policy are put. -/
theorem entries_settle_logs :
    (∃ stored, stored.at? ["settings", "index", "lifecycle", "name"] = some (.string "daily")
      ∧ LeavesAlone (runTemplate (logsTemplate (some "daily")))
        { base := "http://logs-master:9200" } .template "logs" stored)
    ∧ (∃ stored, stored.at? ["policy", "phases", "hot", "min_age"] = some (.string "0ms")
      ∧ LeavesAlone (runLifecycle weeklyPolicy)
        { base := "http://logs-master:9200" } .policy "weekly" stored)
    ∧ Replaces (runTemplate (logsTemplate (some "weekly")))
      { base := "http://logs-master:9200" } .template "logs"
      (templateBody (logsTemplate (some "daily")).spec)
      (templateBody (logsTemplate (some "weekly")).spec)
    ∧ Replaces (runLifecycle weeklyPolicy)
      { base := "http://logs-master:9200" } .policy "weekly" .empty
      (policyBody weeklyPolicy.spec) := by
  obtain ⟨hechoed, hextended, htemplate, hpolicy⟩ := entries_settle
  refine ⟨?_, ?_, ?_, ?_⟩
  · obtain ⟨stored, hstored, hname, -⟩ := exists_echoed_logs
    exact ⟨stored, hname, hechoed (logsTemplate (some "daily")) stored rfl hstored⟩
  · have hadded : Extended (policyBody weeklyPolicy.spec) _ :=
      Extended.body.add [.key "policy", .key "phases", .key "hot"] "min_age" (.string "0ms") rfl
    exact ⟨_, rfl, hextended weeklyPolicy _ rfl hadded⟩
  · refine htemplate (logsTemplate (some "weekly")) _ rfl ?_
    have hdeclared : Keyed.get? "index.lifecycle.name"
        (Manifest.settingFields (logsTemplate (some "weekly")).spec.settings)
          = some (.string "weekly") := rfl
    exact .setting hdeclared (by decide) (by decide +kernel)
  · refine hpolicy weeklyPolicy _ rfl ⟨(_, "50gb"), List.mem_cons_self, by decide, ?_⟩
    decide +kernel

end Pass.Index

end LoggingOperator
