/-
  LoggingOperator.Proofs.Pass.StatusWrites — A DECLARATION IS ONLY GIVEN A STATUS.

  A turn of a pass changes nothing of the declaration, unless it is the last
  one and writes the status: then it changes the status and the version, and
  nothing else, whoever else changes the declaration and whichever calls fail.

  The status write carries the version that the declaration was read with.  If
  the declaration was written since, it has a later version, and the write
  loses the race.  Otherwise the status is stored that this pass has found
  (`gives_status`).
-/
import LoggingOperator.Proofs.Pass.LastCall
import LoggingOperator.Proofs.Store.Reachable

namespace LoggingOperator

open Json
open Convergence (converge Outcome)
open Program

namespace Pass

/-! ## §1. One turn of a pass -/

/-- What a status write changes: the status and the version. -/
def statusRegion : Region :=
  (Region.fields ["status"]).or (Region.within "metadata" (Region.fields ["resourceVersion"]))

theorem agreeOutside_restated {current : Json} (h : current.Rooted) (object : Json)
    (version : String) :
    AgreeOutside statusRegion current (Store.restated current object (.string version)) := by
  rw [Store.restated, Store.setMeta, (h.set _ _).setIfNew_eq]
  have hstatus := AgreeOutside.set current "status" ((object.get? "status").getD .null)
  refine (hstatus.mono fun p hp => ?_).trans
    ((AgreeOutside.modify fun metadata _ =>
      AgreeOutside.set metadata "resourceVersion" (.string version)).mono fun p hp => ?_)
  · rw [statusRegion, Region.or_apply, hp, Bool.true_or]
  · rw [statusRegion, Region.or_apply, hp, Bool.or_true]

/-- The status of an object that is one is the one that was sent. -/
theorem get?_status_restated {fields : List (String × Json)} {object status version : Json}
    (h : object.get? "status" = some status) :
    (Store.restated (.object fields) object version).get? "status" = some status := by
  rw [Store.restated, h, Store.setMeta, get?_modify, if_neg (by decide)]
  show Keyed.get? "status" (Keyed.insertIfNew "metadata" .empty
    (Keyed.insert "status" status fields)) = _
  unfold Keyed.insertIfNew
  split
  · rw [Keyed.get?_insert, if_pos rfl]
  · rw [Keyed.get?_insert, if_neg (by decide), Keyed.get?_insert, if_pos rfl]

end Pass

/-- The call writes the status of an object of this kind. -/
def Event.WritesStatus (kind : Kind) (event : Event) : Prop :=
  ∃ object answer, event = .store (.replaceStatus kind object) answer

/-- A call beside the objects of a kind writes none of them. -/
theorem Event.Beside.written?_ne {event : Event} {own : StoreKey} (h : event.Beside own.kind) :
    event.written? ≠ some own := by
  intro hwritten
  cases event with
  | store call answer =>
    obtain ⟨name, -, hwrites⟩ := Option.bind_eq_some_iff.1 hwritten
    cases answer with
    | error e => cases hwrites
    | ok stored =>
      rw [Store.writtenBy?] at hwrites
      split at hwrites
      · next hwrite =>
        cases hwrites
        rcases h with hget | hkind
        · rw [hget] at hwrite
          cases hwrite
        · exact hkind rfl
      · cases hwrites
  | manage endpoint call answer => cases hwritten
  | insert kind object => exact h
  | mutate key found => exact h

namespace Pass

variable {d : Declared} {own : StoreKey} {generated : String} {env : Environment} {w : World}
  {p q : Pool PassError Bool} {event : Event}

/-- **A turn of a pass** writes nothing of the declaration and does not end it
    well, or it is the status write, and ends the pass. -/
theorem turn_of_pass (hkind : d.kind.storedAs? = some own.kind)
    (hturns : Turns env Anybody (Pool.start [d.pass generated] w) p)
    (hturn : Turn env Anybody p ⟨some 0, event⟩ q) :
    event.Beside own.kind ∧ (∀ conflict, q.members[0]? ≠ some (.done conflict))
      ∨ ∃ object answer, event = .store (.replaceStatus own.kind object) answer
        ∧ Reports d (calls 0 p.history) object ∧ d.metadata.name.isSome = true
        ∧ q.members[0]? = some (ofExcept id (conflictOf answer)) := by
  obtain ⟨p', hp', htraces⟩ := (hturns.turn hturn).traces (i := 0) rfl
  obtain ⟨events, r, hrest⟩ := exists_traces p'
  have hall := htraces hrest
  rw [hturn.history_eq, calls, if_pos rfl] at hall
  -- However the pass goes on, the turn is one of its calls, the last one or one before it.
  rcases closing_pass hkind generated _ _ hall with
    ⟨hbeside, e, rfl⟩ | ⟨before, object, answer, heq, hbefore, hreports, rfl⟩
  · refine Or.inl ⟨hbeside _ (by simp), fun conflict hdone => ?_⟩
    cases hp'.symm.trans hdone
    cases (traces_done_iff.1 hrest).2
  · rcases List.eq_nil_or_concat events with rfl | ⟨events, last, rfl⟩
    · rw [List.append_nil] at heq hall
      obtain ⟨rfl, hevent⟩ := List.append_inj' heq rfl
      cases hevent
      refine Or.inr ⟨object, answer, rfl, hreports, named_of_traces hkind hall, ?_⟩
      rw [hp']
      generalize conflictOf answer = r at hrest
      cases hrest with
      | done => rfl
      | fail => rfl
    · refine Or.inl ⟨hbefore _ ?_, fun conflict hdone => ?_⟩
      · rw [List.concat_eq_append, ← List.append_assoc] at heq
        obtain ⟨rfl, -⟩ := List.append_inj' heq rfl
        simp
      · cases hp'.symm.trans hdone
        have hnil := (traces_done_iff.1 hrest).1
        simp at hnil

/-! ## §2. The status write -/

theorem Sends.name {m : Metadata} {status object : Json} (h : Sends m status object)
    {name : String} (hname : m.name = some name) : object.name = .ok name := by
  rw [Json.name, h.named, hname]

/-- A status write changes an object by restating it, or not at all. -/
theorem restated_of_happens {w' : World} {kind : Kind} {object : Json}
    {answer : Except StoreError Json} (own : StoreKey)
    (h : Happens env w (.store (.replaceStatus kind object) answer) w') :
    w'.store.object? own = w.store.object? own
      ∨ ∃ current version, w.store.object? own = some current
        ∧ w'.store.object? own = some (Store.restated current object (.string version)) := by
  have halters := alters_of_happens h
  by_cases hown : (Event.store (.replaceStatus kind object) answer).written? = some own
  · cases h with
    | store may answered =>
      have hanswered := Store.answered answered
      obtain ⟨name, hname, hwrites⟩ := Option.bind_eq_some_iff.1 hown
      cases hanswered with
      | unnamed | injected => cases hwrites
      | @acted name' _ _ named acted =>
        rw [named] at hname
        cases hname
        cases acted with
        | missing | staleStatus => cases hwrites
        | restated found fresh =>
          cases hwrites
          refine Or.inr ⟨_, Store.versionText (w.store.version + 1), found, ?_⟩
          exact (Store.object?_put ..).trans (if_pos rfl)
  · exact Or.inl (halters.object?_eq hown)

/-- **A status write that is not made to fail** restates the object, unless it
    carries another version than the stored one. -/
theorem answered_of_calm {w' : World} {object current : Json}
    {answer : Except StoreError Json}
    (h : Happens calm w (.store (.replaceStatus own.kind object) answer) w')
    (hname : object.name = .ok own.name)
    (hplaced : StoreKey.of own.kind object.namespace? own.name = own)
    (hfound : w.store.object? own = some current) :
    (∃ message, Store.checkVersion object current = .error (.conflict message)
        ∧ answer = .error (.conflict message) ∧ w'.store.object? own = w.store.object? own)
      ∨ (Store.checkVersion object current = .ok () ∧ ∃ stored version, answer = .ok stored
        ∧ w'.store.object? own = some (Store.restated current object (.string version))) := by
  cases h with
  | store may answered =>
    cases Store.answered answered with
    | unnamed unnamed =>
      cases hname.symm.trans unnamed
    | injected made => exact (may _ made).elim
    | acted named acted =>
      cases hname.symm.trans named
      -- It is carried out on the object that is meant, and that is there.
      have hkey : StoreKey.of (StoreCall.replaceStatus own.kind object).kind
          (StoreCall.replaceStatus own.kind object).ns? own.name = own := hplaced
      rw [hkey] at acted
      cases acted with
      | missing _ absent => cases hfound.symm.trans absent
      | staleStatus found stale =>
        cases hfound.symm.trans found
        exact Or.inl ⟨_, stale, rfl, rfl⟩
      | restated found fresh =>
        cases hfound.symm.trans found
        exact Or.inr ⟨fresh, _, Store.versionText (w.store.version + 1), rfl,
          (Store.object?_put ..).trans (if_pos rfl)⟩

/-- Where nothing is stored there is no status to write. -/
theorem status_of_absent {s : Store} {kind : Kind} {object : Json} {name : String}
    (hname : object.name = .ok name)
    (habsent : s.object? (StoreKey.of kind object.namespace? name) = none) :
    ((s.inject (.replaceStatus kind object) none).answer (.replaceStatus kind object)).1
      = .error (.notFound kind name) := by
  have hcall : (StoreCall.replaceStatus kind object).name = .ok name := hname
  have hnone : (s.noted (.replaceStatus kind object) name).object?
      (StoreKey.of kind object.namespace? name) = none := habsent
  rw [Store.answer_inject_none hcall]
  show (Store.replaceStatus kind (StoreKey.of kind object.namespace? name) object
    (s.noted (.replaceStatus kind object) name)).1 = _
  simp only [Store.replaceStatus, hnone]
  rfl

/-- What is known of the object that a declaration was read from. -/
theorem declared_of_read {dk : DeclaredKind} {kind : Kind} (hkind : dk.storedAs? = some kind)
    {s : Store} (h : declared? dk own s = some d) :
    d.kind = dk ∧ ∃ fields, s.object? own = some (.object fields) ∧ (Json.object fields).HasMetadata
      ∧ (Json.object fields).version? = d.metadata.resourceVersion := by
  obtain ⟨current, hfound, hread⟩ := Option.bind_eq_some_iff.1 h
  refine ⟨Declared.kind_of_ofJson? hread, ?_⟩
  have hparts : ∃ fields metadata, current = .object fields
      ∧ (Json.object fields).get? "metadata" = some metadata
      ∧ Metadata.ofJson? metadata = some d.metadata := by
    cases dk with
    | elasticsearch | kibana | fluentd =>
      obtain ⟨_, hparsed, rfl⟩ := Option.map_eq_some_iff.1 hread
      obtain ⟨fields, metadata, _, rfl, hmetadata, hm, -, -⟩ := Declaration.parts_of_ofJson? hparsed
      exact ⟨fields, metadata, rfl, hmetadata, hm⟩
    | _ => cases hkind
  obtain ⟨fields, metadata, rfl, hmetadata, hm⟩ := hparts
  refine ⟨fields, hfound, ?_, ?_⟩
  · cases metadata with
    | object fields' => exact ⟨fields', hmetadata⟩
    | _ => cases hm
  · rw [Json.version?, metaString?, hmetadata]
    exact Metadata.resourceVersion_ofJson? hm

/-- The declaration is stored where its metadata says. -/
def StoredUnder (own : StoreKey) (m : Metadata) : Prop :=
  ∀ name, m.name = some name → StoreKey.of own.kind m.ns name = own

/-- What is sent for a declaration is sent to where it is stored. -/
theorem Sends.under {status object : Json} (h : Sends d.metadata status object)
    (hunder : StoredUnder own d.metadata) (hnamed : d.metadata.name.isSome = true) :
    object.name = .ok own.name ∧ StoreKey.of own.kind object.namespace? own.name = own := by
  obtain ⟨name, hname⟩ := Option.isSome_iff_exists.1 hnamed
  have hown := hunder name hname
  have hself : own.name = name := (congrArg StoreKey.name hown).symm
  refine ⟨hself ▸ h.name hname, ?_⟩
  rw [h.placed, hself]
  exact hown

/-- The version of another write is refused. -/
theorem checkVersion_of_later {object current : Json} {m n : Nat} (hmn : m < n)
    (hobject : object.version? = some (Store.versionText m))
    (hcurrent : current.version? = some (Store.versionText n)) :
    ∃ message, Store.checkVersion object current = .error (.conflict message) := by
  have hobject : object.metaString? "resourceVersion" = some (Store.versionText m) := hobject
  have hcurrent : current.metaString? "resourceVersion" = some (Store.versionText n) := hcurrent
  have hne : Store.versionText m ≠ Store.versionText n := fun heq =>
    absurd (Store.versionText_inj heq) (Nat.ne_of_lt hmn)
  rw [Store.checkVersion, hobject, hcurrent]
  exact ⟨_, if_neg hne⟩

/-- The version that an object has is accepted. -/
theorem checkVersion_of_same {object current : Json} (h : object.version? = current.version?) :
    Store.checkVersion object current = .ok () := by
  have hsame : object.metaString? "resourceVersion" = current.metaString? "resourceVersion" := h
  rw [Store.checkVersion, hsame]
  cases current.metaString? "resourceVersion" with
  | none => rfl
  | some version => exact if_pos rfl

/-- A turn that writes no status changes nothing of the declaration. -/
theorem rest_of_turn (hkind : d.kind.storedAs? = some own.kind)
    (hturns : Turns env Anybody (Pool.start [d.pass generated] w) p)
    (hturn : Turn env Anybody p ⟨some 0, event⟩ q) (hwrites : ¬ event.WritesStatus own.kind) :
    q.world.store.object? own = p.world.store.object? own
      ∧ ∀ conflict, q.members[0]? ≠ some (.done conflict) := by
  rcases turn_of_pass hkind hturns hturn with ⟨hbeside, hends⟩ | ⟨object, answer, hevent, -⟩
  · exact ⟨(alters_of_turn hturn).object?_eq hbeside.written?_ne, hends⟩
  · exact (hwrites ⟨object, answer, hevent⟩).elim

/-- A turn that writes a status sends what the pass found, and ends the pass. -/
theorem reports_of_turn (hkind : d.kind.storedAs? = some own.kind)
    (hturns : Turns env Anybody (Pool.start [d.pass generated] w) p)
    (hturn : Turn env Anybody p ⟨some 0, event⟩ q) (hwrites : event.WritesStatus own.kind) :
    ∃ object answer status, event = .store (.replaceStatus own.kind object) answer
      ∧ Folds d (calls 0 p.history) status ∧ Sends d.metadata status object
      ∧ d.metadata.name.isSome = true
      ∧ q.members[0]? = some (ofExcept id (conflictOf answer)) := by
  obtain ⟨object, answer, rfl⟩ := hwrites
  rcases turn_of_pass hkind hturns hturn with ⟨hget | hother, -⟩ |
    ⟨object', answer', hevent, ⟨status, hfolds, hsends⟩, hnamed, hends⟩
  · cases hget
  · exact (hother rfl).elim
  · exact ⟨object', answer', status, hevent, hfolds, hsends, hnamed, hends⟩

/-- **The frame of a turn**: of an object that was declared only the status and the
    version change. -/
theorem frame_of_turn (hkind : d.kind.storedAs? = some own.kind)
    (hturns : Turns env Anybody (Pool.start [d.pass generated] w) p)
    (hturn : Turn env Anybody p ⟨some 0, event⟩ q) (hstamped : p.world.store.Stamped)
    {before : Json} (hbefore : p.world.store.object? own = some before) :
    ∃ after, q.world.store.object? own = some after ∧ AgreeOutside statusRegion before after := by
  by_cases hwrites : event.WritesStatus own.kind
  · obtain ⟨object, answer, rfl⟩ := hwrites
    have hhappens : Happens env p.world (.store (.replaceStatus own.kind object) answer)
        q.world := by
      rcases hturn.happens with happens | ⟨hnone, -⟩
      · exact happens
      · cases hnone
    rcases restated_of_happens own hhappens with hsame | ⟨current, version, hcurrent, hafter⟩
    · exact ⟨before, hsame.trans hbefore, .refl _ _⟩
    · cases hbefore.symm.trans hcurrent
      exact ⟨_, hafter, agreeOutside_restated (hstamped.rooted _ _ hbefore) object version⟩
  · exact ⟨before, (rest_of_turn hkind hturns hturn hwrites).1.trans hbefore, .refl _ _⟩

/-! ## §3. Up to the status write -/

section Dashboard

variable {kb : LoggingOperator.Kibana} {owner : Owner} {others : Others} {kind : Kind}
  {p : Pool PassError Bool}

/-- The only program of a pool goes on like this, the store and the cluster work
    well, and no object of this kind was written. -/
structure Ahead (kind : Kind) (program : Pass Bool) (p : Pool PassError Bool) : Prop where
  members : p.members = [program]
  quiet : p.world.store.failures = []
  serves : p.world.cluster.Serves
  unwritten : ∀ entry ∈ p.history, entry.event.Beside kind

/-- An object may be brought to what is declared while the others wait. -/
theorem Ahead.converged {plan : Plan} {own : StoreKey} (hplan : plan.Sound own) {g : Goal}
    {desired : Json} (aim : plan g desired) (honce : g.once = false) (hkind : g.kind ≠ kind)
    {f : Outcome → Pass Bool} (h : Ahead kind ((ofStore (converge g.kind desired)).bind f) p) :
    ∃ outcome q, Turns wild others p q ∧ Ahead kind (f outcome) q := by
  obtain ⟨hmembers, hquiet, hserves, hunwritten⟩ := h
  have hruns := runs_of_quiet wild (ofStore (converge g.kind desired)) hquiet
    fun _ _ _ => trivial
  -- Nothing fails, so the part comes to its end.
  obtain ⟨-, hfair, -, herror⟩ := leads_converge tame_calm hplan aim honce _ _
    (runs_calm (ofStore (converge g.kind desired)) hquiet)
  cases hresult : ((ofStore (converge g.kind desired)).run p.world).1 with
  | error e => exact absurd (fair_calm hserves) (herror e hresult)
  | ok outcome =>
    obtain ⟨events, hevents, hturns⟩ := Turns.of_runs_bind hruns
      (keeps_converge_beside hkind desired) (p := p) (i := 0) (by rw [hmembers]; rfl) rfl
    rw [hresult] at hturns
    refine ⟨outcome, _, hturns, ?_, failures_run _ hquiet, (hfair.2 (fair_calm hserves)).serves, ?_⟩
    · show p.members.set 0 _ = _
      rw [hmembers]
      rfl
    · intro entry hentry
      rcases List.mem_append.1 hentry with hentry | hentry
      · obtain ⟨event, hevent, rfl⟩ := List.mem_map.1 hentry
        exact hevents event hevent
      · exact hunwritten entry hentry

/-- **A pass over a dashboard may come to its status write** while the others
    wait. -/
theorem reaches_status_write (howner : Owner.ofMetadata .kibana kb.metadata = .ok owner)
    (generated : String) {w : World} (hquiet : w.store.failures = []) (hserves : w.cluster.Serves) :
    ∃ p, Turns wild others (Pool.start [(Declared.kibana kb).pass generated] w) p
      ∧ Ahead .kibana (writeStatus .kibana kb.toJson (Kibana.status kb).toJson) p := by
  have hplan := Kibana.sound_plan howner
  obtain ⟨workload, hworkload, -⟩ := Manifest.Kibana.deployment_eq_ok howner
  obtain ⟨address, haddress, -⟩ := Manifest.Kibana.service_eq_ok howner
  have hnamespace : namespaceOf .kibana kb.metadata = .done owner.ns := by
    rw [namespaceOf, (Owner.of_ofMetadata howner).1]
  -- What is built is there, so the pass consists of two parts and the status write.
  have hpass : (Declared.kibana kb).pass generated
      = (ofStore (converge .deployment workload.toJson)).bind fun _ =>
          (ofStore (converge .service address.toJson)).bind fun _ =>
            writeStatus .kibana kb.toJson (Kibana.status kb).toJson := by
    have hdeployment : ofBuild (Manifest.Kibana.deployment kb) = .done workload := by
      rw [hworkload]
      rfl
    have hservice : ofBuild (Manifest.Kibana.service kb) = .done address := by
      rw [haddress]
      rfl
    simp only [Declared.pass, Kibana.run, bind_eq, pure_eq, Program.bind_assoc, done_bind,
      hnamespace, hdeployment, hservice, bind_done]
  have hstart : Ahead .kibana ((Declared.kibana kb).pass generated)
      (Pool.start [(Declared.kibana kb).pass generated] w) :=
    ⟨rfl, hquiet, hserves, fun _ hentry => (List.not_mem_nil hentry).elim⟩
  rw [hpass] at hstart ⊢
  obtain ⟨_, between, hfirst, hbetween⟩ := hstart.converged (g := Kibana.goal owner .deployment)
    hplan ⟨.deployment, rfl, workload, hworkload, rfl⟩ rfl
    (show Kind.deployment ≠ .kibana by decide)
  obtain ⟨_, p, hsecond, hp⟩ := hbetween.converged (g := Kibana.goal owner .service)
    hplan ⟨.service, rfl, address, haddress, rfl⟩ rfl
    (show Kind.service ≠ .kibana by decide)
  exact ⟨p, hfirst.trans hsecond, hp⟩

/-- No object of this kind was written, so they are as they were. -/
theorem Ahead.not_written {program : Pass Bool} {own : StoreKey} (h : Ahead own.kind program p) :
    ¬ WrittenIn p.history own := by
  rintro ⟨entry, hentry, hwritten⟩
  exact (h.unwritten entry hentry).written?_ne hwritten

/-- The next call of the only program is made, and may be made to fail. -/
theorem next_turn {call : StoreCall} {next : Except StoreError Json → Pass Bool}
    (hmembers : p.members = [.store call next]) (injected : Option StoreError) :
    ∃ answer q, (answer, q.world.store) = (p.world.store.inject call injected).answer call
      ∧ q.members = [next answer] ∧ Turn wild others p ⟨some 0, .store call answer⟩ q
      ∧ (injected = none → Happens calm p.world (.store call answer) q.world) := by
  have hfound : p.members[0]? = some (.store call next) := by
    rw [hmembers]
    rfl
  have happens : ∀ {env : Environment}, (∀ e, injected = some e → env.injects e) →
      Happens env p.world (.store call ((p.world.store.inject call injected).answer call).1)
        { p.world with store := ((p.world.store.inject call injected).answer call).2 } :=
    fun may => .store may rfl
  refine ⟨_, _, rfl, ?_, .member hfound (.store call next _) (happens fun _ _ => trivial), ?_⟩
  · show p.members.set 0 _ = _
    rw [hmembers]
    rfl
  · rintro rfl
    exact happens (by simp)

/-- Objects of this kind are as they were. -/
theorem Ahead.object?_eq {program : Pass Bool} {members : List (Pass Bool)} {w : World}
    {own : StoreKey} (h : Ahead own.kind program p) (hw : w.store.Reachable)
    (hturns : Turns wild Anybody (Pool.start members w) p) :
    p.world.store.object? own = w.store.object? own := by
  obtain ⟨-, -, hsince⟩ := since_turns own hw.stamped hturns
  cases hsince with
  | unwritten _ same => exact same
  | written written _ _ => exact (h.not_written written).elim

/-- Somebody changes an object. -/
theorem edit_turn {key : StoreKey} {current : Json}
    (hfound : p.world.store.object? key = some current) (change : Json → Json) :
    ∃ version q, Turn wild Anybody p ⟨none, .mutate key true⟩ q ∧ q.members = p.members
      ∧ WrittenIn q.history key ∧ q.world.store = (p.world.store.mutate key change).2
      ∧ q.world.store.object? key
        = some (Store.setMeta "resourceVersion" (.string version) (change current)) := by
  obtain ⟨hthere, hleft⟩ := Store.object?_mutate hfound change
  have may : Anybody p.world p.history (.mutate key (p.world.store.mutate key change).1)
      { p.world with store := (p.world.store.mutate key change).2 } := .mutate
  rw [hthere] at may
  exact ⟨_, _, .other may, rfl, ⟨_, List.mem_cons_self, rfl⟩, rfl, hleft⟩

end Dashboard

/-! ## §4. A dashboard -/

/-- A dashboard, as it is declared. -/
def declaredBoard : Json :=
  .ofFields [
    ("metadata", .ofFields [("name", .string "board"), ("namespace", .string "ns")]),
    ("spec", .ofFields [
      ("esCluster", .ofFields [
        ("clusterName", .string "logs"), ("esVersion", .string "8.10.0"),
        ("host", .string "logs-master")])])]

/-- What is read of it. -/
def board (name version : String) : LoggingOperator.Kibana where
  metadata := {
    name := some name, ns := some "ns", uid := some "7f3a", resourceVersion := some version
    creationTimestamp := Instant.ofText? "2024-01-01T00:00:00Z" }
  spec := { cluster := { host := "logs-master", clusterName := "logs", version := "8.10.0" } }

def boardKey : StoreKey :=
  StoreKey.of .kibana (some "ns") "board"

/-- Nothing is stored, and the cluster works well. -/
def emptyWorld : World where
  store := { stamps := fun _ => ⟨"7f3a", "2024-01-01T00:00:00Z"⟩ }
  cluster := servingCluster

/-- Somebody declared the dashboard. -/
def boardWorld : World :=
  { emptyWorld with store := (emptyWorld.store.insert .kibana declaredBoard).2 }

/-- And then renamed it. -/
def renamedWorld : World :=
  { boardWorld with store := (boardWorld.store.mutate boardKey fun object =>
      object.modify "metadata" fun metadata => metadata.set "name" (.string "other")).2 }

theorem reachable_boardWorld : boardWorld.store.Reachable :=
  .step (w := emptyWorld) (.empty rfl) .insert

theorem reachable_renamedWorld : renamedWorld.store.Reachable :=
  .step (w := boardWorld) reachable_boardWorld .mutate

theorem declared_boardWorld :
    declared? .kibana boardKey boardWorld.store = some (.kibana (board "board" "1")) := by
  rfl

theorem declared_renamedWorld :
    declared? .kibana boardKey renamedWorld.store = some (.kibana (board "other" "2")) := by
  rfl

/-- The status write of a pass over a dashboard. -/
def boardWrite (name version : String) : StoreCall :=
  .replaceStatus .kibana ((board name version).toJson.set "status"
    (Kibana.status (board name version)).toJson)

/-- A pass over the dashboard comes to its status write while the others wait, and
    no declared dashboard is changed until then. -/
theorem board_reaches_status_write (name version : String) {w : World}
    (hw : w.store.Reachable) (hquiet : w.store.failures = []) (hserves : w.cluster.Serves) :
    ∃ p, Turns wild Anybody (Pool.start [(Declared.kibana (board name version)).pass ""] w) p
      ∧ Ahead .kibana (writeStatus .kibana (board name version).toJson
          (Kibana.status (board name version)).toJson) p
      ∧ ∀ key : StoreKey, key.kind = .kibana →
        p.world.store.object? key = w.store.object? key := by
  obtain ⟨owner, howner, -, -⟩ : ∃ owner,
      Owner.ofMetadata .kibana (board name version).metadata = .ok owner ∧ _ ∧ _ :=
    Owner.ofMetadata_eq_ok rfl rfl rfl
  obtain ⟨p, hturns, hp⟩ := reaches_status_write howner "" hquiet hserves
  exact ⟨p, hturns, hp, fun key hkey => (hkey ▸ hp).object?_eq hw hturns⟩

/-! ## §5. Every pass -/

/-- One turn of a pass over the declaration `d`, which was read from under the
    key `own` before the first turn. -/
structure GivesStatus (d : Declared) (own : StoreKey) (p : Pool PassError Bool) (event : Event)
    (q : Pool PassError Bool) : Prop where
  /-- Of what is stored there only the status and the version change. -/
  frame : ∃ before after, p.world.store.object? own = some before
    ∧ q.world.store.object? own = some after ∧ AgreeOutside statusRegion before after
  /-- A turn that writes no status changes nothing of it and does not end the pass
      well. -/
  rest : ¬ event.WritesStatus own.kind → q.world.store.object? own = p.world.store.object? own
    ∧ ∀ conflict, q.members[0]? ≠ some (.done conflict)
  /-- If somebody wrote the declaration and left it with metadata, the status write
      changes nothing of it and loses the race, unless it is made to fail. -/
  lost : event.WritesStatus own.kind → Happens calm p.world event q.world →
    StoredUnder own d.metadata → WrittenIn p.history own →
    (∀ stored, p.world.store.object? own = some stored → stored.HasMetadata) →
    q.world.store.object? own = p.world.store.object? own ∧ q.members[0]? = some (.done true)
  /-- If nobody wrote it, it is given the status that the pass found. -/
  given : event.WritesStatus own.kind → Happens calm p.world event q.world →
    StoredUnder own d.metadata → ¬ WrittenIn p.history own →
    ∃ after status, q.world.store.object? own = some after ∧ after.get? "status" = some status
      ∧ Folds d (calls 0 p.history) status ∧ q.members[0]? = some (.done false)
  /-- What was read before is stored unless it was written since. -/
  current : ∀ later entry earlier key object, p.history = later ++ entry :: earlier →
    entry.event.read? = some (key, object) → ¬ WrittenIn later key →
    p.world.store.object? key = some object

/-- **A declaration is only given a status**, at every turn of a pass over it,
    whatever anybody else does and whichever calls are made to fail. -/
theorem gives_status {dk : DeclaredKind} (hkind : dk.storedAs? = some own.kind)
    (hw : w.store.Reachable) (hread : declared? dk own w.store = some d)
    (hturns : Turns env Anybody (Pool.start [d.pass generated] w) p)
    (hturn : Turn env Anybody p ⟨some 0, event⟩ q) : GivesStatus d own p event q := by
  obtain ⟨rfl, fields, hfound, hmetadata, hversion⟩ := declared_of_read hkind hread
  obtain ⟨hstamped, -, hsince⟩ := since_turns own hw.stamped hturns
  refine ⟨?_, rest_of_turn hkind hturns hturn, ?_, ?_,
    fun _ _ _ _ _ hhistory hread hkept => read_turns hturns hhistory hread hkept⟩
  · obtain ⟨before, hbefore⟩ : ∃ before, p.world.store.object? own = some before := by
      cases hsince with
      | unwritten _ same => exact ⟨_, same.trans hfound⟩
      | written _ found _ => exact ⟨_, found⟩
    obtain ⟨after, hafter, hagree⟩ := frame_of_turn hkind hturns hturn hstamped hbefore
    exact ⟨before, after, hbefore, hafter, hagree⟩
  · intro hwrites happens hunder hwritten hmetadata'
    obtain ⟨object, answer, status, rfl, -, hsends, hnamed, hends⟩ :=
      reports_of_turn hkind hturns hturn hwrites
    obtain ⟨hname, hplaced⟩ := hsends.under hunder hnamed
    -- The version that was read was given out before that of the other write.
    obtain ⟨m, hm, hread⟩ := hw.stamped.stamped _ _ hfound hmetadata
    obtain ⟨stored, hstored, n, hn, hlater⟩ : ∃ stored, p.world.store.object? own = some stored
        ∧ ∃ n, w.store.version < n ∧ stored.version? = some (Store.versionText n) := by
      cases hsince with
      | unwritten unwritten _ => exact (unwritten hwritten).elim
      | written _ found later => exact ⟨_, found, later (hmetadata' _ found)⟩
    obtain ⟨message, hstale⟩ := checkVersion_of_later (Nat.lt_of_le_of_lt hm hn)
      (hsends.carries.trans (hversion.symm.trans hread)) hlater
    rcases answered_of_calm happens hname hplaced hstored with
      ⟨_, -, rfl, hsame⟩ | ⟨hfresh, -⟩
    · exact ⟨hsame, hends⟩
    · cases hstale.symm.trans hfresh
  · intro hwrites happens hunder hwritten
    obtain ⟨object, answer, status, rfl, hfolds, hsends, hnamed, hends⟩ :=
      reports_of_turn hkind hturns hturn hwrites
    obtain ⟨hname, hplaced⟩ := hsends.under hunder hnamed
    have hstored : p.world.store.object? own = some (.object fields) := by
      cases hsince with
      | unwritten _ same => exact same.trans hfound
      | written written _ _ => exact (hwritten written).elim
    have hfresh := checkVersion_of_same (hsends.carries.trans hversion.symm)
    rcases answered_of_calm happens hname hplaced hstored with
      ⟨_, hstale, -⟩ | ⟨-, _, version, rfl, hafter⟩
    · cases hstale.symm.trans hfresh
    · exact ⟨_, status, hafter, get?_status_restated hsends.status, hfolds, hends⟩

/-- **A pass over the dashboard**: it gives it the status if nobody wrote it, and
    leaves it alone if somebody did. -/
theorem gives_status_board :
    (∃ p event q, Turns wild Anybody
          (Pool.start [(Declared.kibana (board "board" "1")).pass ""] boardWorld) p
        ∧ Turn wild Anybody p ⟨some 0, event⟩ q
        ∧ (∃ after, q.world.store.object? boardKey = some after ∧ after.get? "status"
          = some (KibanaStatus.toJson ⟨some 1, some "8.10.0"⟩))
        ∧ q.members[0]? = some (.done false))
      ∧ ∃ p event q, Turns wild Anybody
          (Pool.start [(Declared.kibana (board "board" "1")).pass ""] boardWorld) p
        ∧ WrittenIn p.history boardKey ∧ Turn wild Anybody p ⟨some 0, event⟩ q
        ∧ q.world.store.object? boardKey = p.world.store.object? boardKey
        ∧ q.members[0]? = some (.done true) := by
  obtain ⟨p, hturns, hp, hstored⟩ := board_reaches_status_write "board" "1"
    reachable_boardWorld rfl serves_servingCluster
  have hunder : StoredUnder boardKey (board "board" "1").metadata := by
    rintro _ ⟨⟩
    rfl
  constructor
  -- Nobody did anything.
  · obtain ⟨answer, q, -, -, hturn, happens⟩ := next_turn hp.members none
    have hgives : GivesStatus (.kibana (board "board" "1")) boardKey p _ q :=
      gives_status rfl reachable_boardWorld declared_boardWorld hturns hturn
    obtain ⟨after, status, hafter, hstatus, rfl, hdone⟩ := hgives.given ⟨_, _, rfl⟩ (happens rfl)
      hunder hp.not_written
    exact ⟨p, _, q, hturns, hturn, ⟨after, hafter, hstatus⟩, hdone⟩
  · -- Before the status is written, somebody asks for more replicas.
    obtain ⟨version, p', hedit, hmembers, hwritten, -, hleft⟩ := edit_turn
      (hstored boardKey rfl) fun object => object.modify "spec" fun spec => spec.set "replicas" (int32 3)
    obtain ⟨answer, q, -, -, hturn, happens⟩ := next_turn (hmembers.trans hp.members) none
    have hgives : GivesStatus (.kibana (board "board" "1")) boardKey p' _ q :=
      gives_status rfl reachable_boardWorld declared_boardWorld (hturns.turn hedit) hturn
    obtain ⟨hkept, hdone⟩ := hgives.lost ⟨_, _, rfl⟩ (happens rfl) hunder hwritten
      fun stored h => by
        cases hleft.symm.trans h
        exact ⟨_, rfl⟩
    exact ⟨p', _, q, hturns.turn hedit, hwritten, hturn, hkept, hdone⟩

/-- The dashboard was read from a store and then written by somebody, and a pass
    over what was read comes to its status write. -/
structure Overtaken (name version : String) (w : World) (p : Pool PassError Bool)
    (answer : Except StoreError Json) (q : Pool PassError Bool) : Prop where
  reachable : w.store.Reachable
  read : declared? .kibana boardKey w.store = some (.kibana (board name version))
  turns : Turns wild Anybody (Pool.start [(Declared.kibana (board name version)).pass ""] w) p
  written : WrittenIn p.history boardKey
  turn : Turn wild Anybody p ⟨some 0, .store (boardWrite name version) answer⟩ q

/-- **A status write need not lose the race** although the declaration was
    written since: it is carried out if the metadata was taken away, it fails if
    it is made to fail, and it finds nothing if the declaration is stored under
    another name than its own. -/
theorem status_write_not_lost :
    (∃ p answer q, Overtaken "board" "1" boardWorld p answer q
        ∧ Happens calm p.world (.store (boardWrite "board" "1") answer) q.world
        ∧ q.world.store.object? boardKey ≠ p.world.store.object? boardKey
        ∧ q.members[0]? = some (.done false))
      ∧ (∃ p answer q, Overtaken "board" "1" boardWorld p answer q
        ∧ q.members[0]? = some (.fail (.store (.transport "down"))))
      ∧ ∃ p answer q, Overtaken "other" "2" renamedWorld p answer q
        ∧ Happens calm p.world (.store (boardWrite "other" "2") answer) q.world
        ∧ q.members[0]? = some (.fail (.store (.notFound .kibana "other"))) := by
  obtain ⟨p, hturns, hp, hstored⟩ := board_reaches_status_write "board" "1"
    reachable_boardWorld rfl serves_servingCluster
  refine ⟨?_, ?_, ?_⟩
  · obtain ⟨version, p', hedit, hmembers, hwritten, -, hleft⟩ := edit_turn
      (hstored boardKey rfl) fun object => object.set "metadata" .null
    obtain ⟨answer, q, hanswer, hq, hturn, happens⟩ := next_turn (hmembers.trans hp.members) none
    rcases answered_of_calm (happens rfl) rfl rfl hleft with
      ⟨_, hstale, -⟩ | ⟨-, stored, version', rfl, hafter⟩
    · cases hstale
    · refine ⟨p', _, q, ⟨reachable_boardWorld, declared_boardWorld, hturns.turn hedit, hwritten,
        hturn⟩, happens rfl, fun hsame => ?_, ?_⟩
      · cases hafter.symm.trans (hsame.trans hleft)
      · rw [hq]
        rfl
  · obtain ⟨version, p', hedit, hmembers, hwritten, -, -⟩ := edit_turn
      (hstored boardKey rfl) id
    obtain ⟨answer, q, hanswer, hq, hturn, -⟩ := next_turn (hmembers.trans hp.members)
      (some (.transport "down"))
    refine ⟨p', answer, q, ⟨reachable_boardWorld, declared_boardWorld, hturns.turn hedit, hwritten,
      hturn⟩, ?_⟩
    have hfails : answer = .error (.transport "down") := congrArg Prod.fst hanswer
    rw [hq, hfails]
    rfl
  · obtain ⟨p, hturns, hp, hstored⟩ := board_reaches_status_write "other" "2"
      reachable_renamedWorld rfl serves_servingCluster
    obtain ⟨version, p', hedit, hmembers, hwritten, hstore, -⟩ := edit_turn
      (hstored boardKey rfl) id
    obtain ⟨answer, q, hanswer, hq, hturn, happens⟩ := next_turn (hmembers.trans hp.members) none
    refine ⟨p', answer, q, ⟨reachable_renamedWorld, declared_renamedWorld, hturns.turn hedit,
      hwritten, hturn⟩, happens rfl, ?_⟩
    -- Nothing was ever stored under the new name.
    have habsent : p'.world.store.object? (StoreKey.of .kibana (some "ns") "other") = none := by
      rw [hstore, (Store.alters_mutate boardKey id p.world.store).object?_eq, hstored _ rfl]
      · rfl
      · split <;> decide
    have hmissing : answer = .error (.notFound .kibana "other") :=
      (congrArg Prod.fst hanswer).trans (status_of_absent rfl habsent)
    rw [hq, hmissing]
    rfl

end Pass

end LoggingOperator
