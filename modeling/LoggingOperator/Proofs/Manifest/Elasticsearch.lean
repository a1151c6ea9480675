/-
  LoggingOperator.Proofs.Manifest.Elasticsearch — WHAT A SEARCH CLUSTER ASKS FOR.

  A search cluster asks for up to three secrets, and for a StatefulSet and two
  services for each of its roles.  All their names begin with the name of the
  declaration; they differ in how they end, so no two of them meet
  (`sound_plan`).

  The secrets are created once.  A password or a token is known only when it
  is generated or issued, so any value is planned.  The token is planned only
  where the password that it takes to ask for it can be read (`Readable`).
-/
import LoggingOperator.Manifest.Elasticsearch
import LoggingOperator.Pass.Plan
import LoggingOperator.Proofs.Convergence.Created
import LoggingOperator.Proofs.Manifest.Owner
import LoggingOperator.Proofs.Text.Base64

namespace LoggingOperator

open Json

/-- The word for a role tells the role. -/
theorem Role.word_inj {role role' : Role} (h : role.word = role'.word) : role = role' := by
  have hread := congrArg ofWord? h
  rw [ofWord?_word, ofWord?_word] at hread
  exact Option.some.inj hread

theorem ElasticsearchSpec.mem_roles {spec : ElasticsearchSpec} {role : Role} :
    role ∈ spec.roles ↔ (spec.nodes? role).isSome = true := by
  have hall : role ∈ Role.all := by cases role <;> decide
  simp [roles, hall]

namespace Secret

open Convergence (Wrote)

theorem text?_eq (key : String) (stored : Json) :
    text? key stored = ((stored.at? ["data", key]).bind string?).bind fun encoded =>
      (Text.Base64.decode? encoded.toList).bind Text.Base64.text? := by
  rw [Option.bind_assoc]
  rfl

/-- What a secret holds under a key. -/
theorem text?_toJson (s : Secret) (key : String) :
    text? key s.toJson = if s.key = key then Text.Base64.text? s.value else none := by
  have hdata : s.toJson.get? "data"
      = some (.ofFields [(s.key, .string (Text.Base64.encoded s.value))]) := by
    rw [toJson, Kind.get?_own (by decide)]
    rfl
  rw [text?_eq, at?, hdata]
  by_cases hkey : s.key = key
  · simp [at?, hkey, string?, Text.Base64.encoded, Text.Base64.decode?_encode, Keyed.get?_cons]
  · simp [at?, hkey, Keyed.get?_cons]

/-- A new secret is stored with what it holds. -/
theorem text?_of_wrote {s : Secret} {owner : Owner} {name : String} {labels : StringMap}
    (hmetadata : s.metadata = owner.metadata name labels) {after : Json}
    (h : Wrote .secret s.toJson none after) (key : String) :
    text? key after = if s.key = key then Text.Base64.text? s.value else none := by
  have hannotated : Convergence.Annotated s.toJson := by
    rw [toJson, hmetadata]
    exact Kind.annotated_object rfl
  have hagree := h.agree_desired ⟨by decide, rfl⟩ hannotated
  rw [text?_eq, hagree.string?_at? rfl, ← text?_eq, text?_toJson]

end Secret

namespace Manifest.Elasticsearch

open Pass (Goal Plan Reached Settled Written)
open Convergence (Wrote)

/-! ## §1. The objects -/

section Objects

variable {es : LoggingOperator.Elasticsearch} {owner : Owner}

theorem passwordSecret_eq_ok (h : Owner.ofMetadata .elasticsearch es.metadata = .ok owner)
    (password : String) :
    passwordSecret es password = .ok {
      metadata := owner.metadata (Naming.passwordSecret owner.name) (clusterLabels owner.name)
      key := "password"
      value := Text.Base64.bytes password } := by
  unfold passwordSecret
  rw [h]
  rfl

theorem certificateSecret_eq_ok (h : Owner.ofMetadata .elasticsearch es.metadata = .ok owner) :
    certificateSecret es = .ok {
      metadata := owner.metadata (Naming.certificateSecret owner.name) (clusterLabels owner.name)
      key := Assets.certificateFile
      value := Assets.certificate } := by
  unfold certificateSecret
  rw [h]
  rfl

theorem tokenSecret_eq_ok (h : Owner.ofMetadata .elasticsearch es.metadata = .ok owner)
    (token : String) :
    tokenSecret es token = .ok {
      metadata := owner.metadata (Naming.tokenSecret owner.name) (clusterLabels owner.name)
      key := "token"
      value := Text.Base64.bytes token } := by
  unfold tokenSecret
  rw [h]
  rfl

theorem statefulSet_eq_ok (h : Owner.ofMetadata .elasticsearch es.metadata = .ok owner)
    {role : Role} (hrole : (es.spec.nodes? role).isSome = true) :
    ∃ built, statefulSet es role = .ok built ∧ built.metadata
      = owner.metadata (Naming.workload owner.name role) (roleLabels owner.name role) := by
  obtain ⟨group, hgroup⟩ := Option.isSome_iff_exists.1 hrole
  unfold statefulSet env
  rw [h]
  simp only [hgroup]
  exact ⟨_, rfl, rfl⟩

/-- What the StatefulSet of a role was built of. -/
theorem exists_of_statefulSet {role : Role} {built : StatefulSet}
    (h : statefulSet es role = .ok built) :
    ∃ owner vars pod container placement, Owner.ofMetadata .elasticsearch es.metadata = .ok owner
      ∧ (es.spec.nodes? role).isSome = true ∧ env es role = .ok vars
      ∧ built.metadata
        = owner.metadata (Naming.workload owner.name role) (roleLabels owner.name role)
      ∧ built.template = ⟨roleLabels owner.name role, placed pod container placement⟩
      ∧ container.env = some vars ∧ pod.initContainers = some (initContainers es.spec) := by
  unfold statefulSet at h
  cases howner : Owner.ofMetadata .elasticsearch es.metadata with
  | error e =>
    rw [howner] at h
    cases h
  | ok owner =>
    rw [howner] at h
    simp only [bind, Except.bind] at h
    split at h
    · cases h
    · next group hgroup =>
      cases hvars : env es role with
      | error e =>
        rw [hvars] at h
        cases h
      | ok vars =>
        rw [hvars] at h
        cases h
        exact ⟨owner, vars, _, _, group.placement, rfl, by rw [hgroup]; rfl, rfl, rfl, rfl, rfl, rfl⟩

theorem services_eq_ok (h : Owner.ofMetadata .elasticsearch es.metadata = .ok owner)
    (role : Role) :
    ∃ routable headless, services es role = .ok (routable, headless)
      ∧ routable.metadata
        = owner.metadata (Naming.workload owner.name role) (roleLabels owner.name role)
      ∧ headless.metadata
        = owner.metadata (Naming.headless owner.name role) (roleLabels owner.name role) := by
  unfold services
  rw [h]
  exact ⟨_, _, rfl, rfl, rfl⟩

end Objects

/-! ## §2. Where they are stored -/

/-- The objects that a search cluster may ask for. -/
inductive Part where
  | password
  | certificate
  | token
  | workload (role : Role)
  | routable (role : Role)
  | headless (role : Role)

namespace Part

/-- How the name of the object ends. -/
def ending : Part → String
  | .password => "-password"
  | .certificate => "-tls-cert"
  | .token => "-sa-token"
  | .workload role => "-" ++ role.word
  | .routable role => "-" ++ role.word
  | .headless role => "-" ++ role.word ++ "-headless"

/-- Where the object is stored. -/
def goal (owner : Owner) : Part → Goal
  | .password => ⟨.secret, some owner.ns, Naming.passwordSecret owner.name, true⟩
  | .certificate => ⟨.secret, some owner.ns, Naming.certificateSecret owner.name, true⟩
  | .token => ⟨.secret, some owner.ns, Naming.tokenSecret owner.name, true⟩
  | .workload role => ⟨.statefulSet, some owner.ns, Naming.workload owner.name role, false⟩
  | .routable role => ⟨.service, some owner.ns, Naming.workload owner.name role, false⟩
  | .headless role => ⟨.service, some owner.ns, Naming.headless owner.name role, false⟩

theorem name_goal (owner : Owner) (part : Part) :
    (part.goal owner).name = owner.name ++ part.ending := by
  cases part with
  | workload role | routable role => exact String.append_assoc
  | headless role =>
    show owner.name ++ "-" ++ role.word ++ "-headless" = _
    rw [String.append_assoc, String.append_assoc, ending, String.append_assoc]
  | _ => rfl

/-- Two objects of one kind whose names end alike are the same. -/
theorem ending_inj {owner : Owner} {part part' : Part}
    (hkind : (part.goal owner).kind = (part'.goal owner).kind)
    (h : part.ending = part'.ending) : part = part' := by
  have hmixed : ∀ role role' : Role, "-" ++ role.word ≠ "-" ++ role'.word ++ "-headless" := by
    intro role role'
    cases role <;> cases role' <;> decide
  -- Most pairs differ in their kinds; of the others the endings are compared.
  cases part <;> cases part' <;> first
    | rfl
    | (cases hkind; done)
    | exact absurd h (by decide)
    | exact absurd h (hmixed _ _)
    | exact absurd h.symm (hmixed _ _)
    | exact congrArg _ (Role.word_inj ((String.append_right_inj _).1 h))
    | exact congrArg _ (Role.word_inj ((String.append_right_inj _).1 ((String.append_left_inj _).1 h)))

/-- **No two objects are stored under the same key.** -/
theorem key_inj {owner : Owner} {part part' : Part}
    (h : (part.goal owner).key = (part'.goal owner).key) : part = part' := by
  have hname : (part.goal owner).name = (part'.goal owner).name := congrArg StoreKey.name h
  rw [name_goal, name_goal, String.append_right_inj] at hname
  exact ending_inj (congrArg StoreKey.kind h) hname

theorem key_ne_own (owner : Owner) (part : Part) (ns : Option String) (name : String) :
    (part.goal owner).key ≠ StoreKey.of .elasticsearch ns name := by
  intro h
  have hkind := congrArg StoreKey.kind h
  cases part <;> cases hkind

end Part

/-! ## §3. The plan -/

/-- Where the password of a secured cluster is stored. -/
def source (owner : Owner) (security : Security) : StoreKey :=
  StoreKey.of .secret (some owner.ns) (security.passwordSource owner.name)

/-- The password can be read, once it is generated if that is declared. -/
def Readable (es : LoggingOperator.Elasticsearch) (owner : Owner) (init : Store) : Prop :=
  ∀ security, es.spec.security.filter Security.hasPassword = some security →
    match init.object? (source owner security) with
    | some stored => (Secret.text? "password" stored).isSome = true
    | none => security.needsPassword = true

/-- What the objects are, and which of them are asked for. -/
def Builds (es : LoggingOperator.Elasticsearch) (owner : Owner) (init : Store) :
    Part → Json → Prop
  | .password, d => (∃ security, es.spec.security = some security ∧ security.needsPassword = true)
      ∧ ∃ generated built, passwordSecret es generated = .ok built ∧ d = built.toJson
  | .certificate, d => es.spec.tls = true
      ∧ ∃ built, certificateSecret es = .ok built ∧ d = built.toJson
  | .token, d => (es.spec.integration?.isSome = true ∧ Readable es owner init)
      ∧ ∃ token built, tokenSecret es token = .ok built ∧ d = built.toJson
  | .workload role, d => (es.spec.nodes? role).isSome = true
      ∧ ∃ built, statefulSet es role = .ok built ∧ d = built.toJson
  | .routable role, d => (es.spec.nodes? role).isSome = true
      ∧ ∃ built, services es role = .ok built ∧ d = built.1.toJson
  | .headless role, d => (es.spec.nodes? role).isSome = true
      ∧ ∃ built, services es role = .ok built ∧ d = built.2.toJson

/-- What is planned for a search cluster that was declared in this store. -/
def plan (es : LoggingOperator.Elasticsearch) (owner : Owner) (init : Store) : Plan :=
  .ofParts (Part.goal owner) (Builds es owner init)

section Plan

variable {es : LoggingOperator.Elasticsearch} {owner : Owner} {init : Store}

/-- The goals of a search cluster do not meet. -/
theorem sound_plan (howner : Owner.ofMetadata .elasticsearch es.metadata = .ok owner) :
    (plan es owner init).Sound (StoreKey.of .elasticsearch (some owner.ns) owner.name) := by
  refine Plan.sound_ofParts ?_ Part.key_inj ?_ fun part => part.key_ne_own owner _ _
  · intro part d hd
    cases part with
    | password =>
      obtain ⟨-, generated, built, hbuilt, rfl⟩ := hd
      cases hbuilt.symm.trans (passwordSecret_eq_ok howner generated)
      exact Secret.generated rfl true
    | certificate =>
      obtain ⟨-, built, hbuilt, rfl⟩ := hd
      cases hbuilt.symm.trans (certificateSecret_eq_ok howner)
      exact Secret.generated rfl true
    | token =>
      obtain ⟨-, token, built, hbuilt, rfl⟩ := hd
      cases hbuilt.symm.trans (tokenSecret_eq_ok howner token)
      exact Secret.generated rfl true
    | workload role =>
      exact of_built (statefulSet_eq_ok howner hd.1) hd.2 fun _ h => StatefulSet.generated h false
    | routable role =>
      obtain ⟨-, built, hbuilt, rfl⟩ := hd
      obtain ⟨routable, headless, hbuilt', hmetadata, -⟩ := services_eq_ok howner role
      cases hbuilt.symm.trans hbuilt'
      exact Service.generated hmetadata false
    | headless role =>
      obtain ⟨-, built, hbuilt, rfl⟩ := hd
      obtain ⟨routable, headless, hbuilt', -, hmetadata⟩ := services_eq_ok howner role
      cases hbuilt.symm.trans hbuilt'
      exact Service.generated hmetadata false
  · intro part d d' hd hd' honce
    cases part with
    | password | certificate | token => cases honce
    | workload role | routable role | headless role =>
      exact built_unique hd.2 hd'.2

end Plan

/-! ## §4. The password -/

/-- The password can be read now. -/
def Unlocked (es : LoggingOperator.Elasticsearch) (owner : Owner) (s : Store) : Prop :=
  ∀ security, es.spec.security.filter Security.hasPassword = some security →
    ∃ stored, s.object? (source owner security) = some stored
      ∧ (Secret.text? "password" stored).isSome = true

section Password

variable {es : LoggingOperator.Elasticsearch} {owner : Owner} {init s : Store} {own : StoreKey}
  {security : Security}

theorem source_ne_own (owner : Owner) (security : Security) (ns : Option String) (name : String) :
    source owner security ≠ StoreKey.of .elasticsearch ns name := by
  intro h
  cases congrArg StoreKey.kind h

/-- What was written where the password is looked for: a secret, where there was
    none.  A password can be read from it only if one was to be generated. -/
theorem written_source (howner : Owner.ofMetadata .elasticsearch es.metadata = .ok owner)
    (hsecurity : es.spec.security.filter Security.hasPassword = some security) {after : Json}
    (h : Written (plan es owner init) init (source owner security) after) :
    init.object? (source owner security) = none
      ∧ (security.needsPassword = true ∨ Secret.text? "password" after = none)
      ∧ ((Part.password.goal owner).key = source owner security →
        (Secret.text? "password" after).isSome = true) := by
  obtain ⟨_, d, ⟨part, rfl, hd⟩, hkey, absent, -, made⟩ := h
  have hkind : (part.goal owner).kind = .secret := congrArg StoreKey.kind hkey
  have hdeclared : es.spec.security = some security := (Option.filter_eq_some_iff.1 hsecurity).1
  -- Only a secret lies there, and a token is planned only where the password can be read.
  cases part with
  | workload role | routable role | headless role => cases hkind
  | password =>
    obtain ⟨⟨security', hsecurity', hneeds⟩, generated, built, hbuilt, rfl⟩ := hd
    cases hbuilt.symm.trans (passwordSecret_eq_ok howner generated)
    cases hdeclared.symm.trans hsecurity'
    have hnone := absent rfl
    rw [hnone] at made
    refine ⟨hnone, Or.inl hneeds, fun _ => ?_⟩
    rw [Secret.text?_of_wrote rfl made, if_pos rfl, Text.Base64.text?_bytes]
    rfl
  | certificate =>
    obtain ⟨-, built, hbuilt, rfl⟩ := hd
    cases hbuilt.symm.trans (certificateSecret_eq_ok howner)
    have hnone := absent rfl
    rw [hnone] at made
    refine ⟨hnone, Or.inr ?_, fun hpassword => ?_⟩
    · have hfile : Assets.certificateFile ≠ "password" := by decide
      rw [Secret.text?_of_wrote rfl made, if_neg hfile]
    · cases Part.key_inj (hpassword.trans hkey.symm)
  | token =>
    obtain ⟨⟨-, hreadable⟩, token, built, hbuilt, rfl⟩ := hd
    have hnone := absent rfl
    have hneeds := hreadable security hsecurity
    rw [hnone] at hneeds
    refine ⟨hnone, Or.inl hneeds, fun hpassword => ?_⟩
    cases Part.key_inj (hpassword.trans hkey.symm)

variable (howner : Owner.ofMetadata .elasticsearch es.metadata = .ok owner)
  (hreached : Reached (plan es owner init) (StoreKey.of .elasticsearch (some owner.ns) owner.name)
    init s)
include howner hreached

/-- A password that can be read could be read from the beginning, or was to be
    generated. -/
theorem Unlocked.readable (h : Unlocked es owner s) : Readable es owner init := by
  intro security hsecurity
  obtain ⟨stored, hstored, htext⟩ := h security hsecurity
  -- The secret is as it was, or it was written where there was none.
  rcases hreached _ (source_ne_own owner security _ _) with hsame | ⟨after, hafter, hwritten⟩
  · rw [← hsame, hstored]
    exact htext
  · obtain ⟨hnone, hneeds, -⟩ := written_source howner hsecurity hwritten
    cases hstored.symm.trans hafter
    rw [hnone]
    rcases hneeds with hneeds | hempty
    · exact hneeds
    · rw [hempty] at htext
      cases htext

/-- Once the password is generated, if that is declared, it can be read. -/
theorem Readable.unlocked (h : Readable es owner init)
    (hpassword : ∀ d, Builds es owner init .password d →
      Settled (plan es owner init) (Part.password.goal owner) s) : Unlocked es owner s := by
  intro security hsecurity
  have hread := h security hsecurity
  have hplace := hreached _ (source_ne_own owner security _ _)
  cases hinit : init.object? (source owner security) with
  | some stored =>
    rw [hinit] at hread
    -- A secret that was there before is not written.
    rcases hplace with hsame | ⟨after, -, hwritten⟩
    · exact ⟨stored, hsame.trans hinit, hread⟩
    · rw [(written_source howner hsecurity hwritten).1] at hinit
      cases hinit
  | none =>
    rw [hinit] at hread
    have hdeclared : es.spec.security = some security := (Option.filter_eq_some_iff.1 hsecurity).1
    -- A password is generated only if no secret is named, and then it is looked for there.
    have hkey : (Part.password.goal owner).key = source owner security := by
      have hsource : security.existingSecret = none := by
        have hneeds : (security.generatePassword && security.existingSecret.isNone) = true := hread
        exact Option.isNone_iff_eq_none.1 (Bool.and_eq_true_iff.1 hneeds).2
      rw [source, Security.passwordSource, hsource]
      rfl
    obtain ⟨stored, hstored, -⟩ := hpassword _
      ⟨⟨security, hdeclared, hread⟩, "", _, passwordSecret_eq_ok howner "", rfl⟩
    rw [hkey] at hstored
    rcases hplace with hsame | ⟨after, hafter, hwritten⟩
    · rw [hsame, hinit] at hstored
      cases hstored
    · exact ⟨after, hafter, (written_source howner hsecurity hwritten).2.2 hkey⟩

end Password

end Manifest.Elasticsearch

end LoggingOperator
