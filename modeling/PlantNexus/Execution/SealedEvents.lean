import PlantNexus.Execution.Events

/-! Events under their own identity.

The identity of an event is the digest of its content. `sealEvent` files a content in a scope
under that identity, and `sealEvent_valid` says that the result passes the checks of an event as
soon as the content passes those that are not about the identity. -/
namespace PlantNexus.Execution
open Data Domain Time

/-! ### Texts -/

/-- A character that the projection takes. -/
def isFactChar (c : Char) : Bool := !(c.toNat < 32 || c.toNat == 127)

/-- A text of the projection may end in a digest. -/
theorem isFactText_digest (start text : String) (hstart : start.length ≤ 64)
    (hplain : start.toList.all isFactChar = true) :
    isFactText (start ++ Sha256.hexdigest text) = true := by
  have hdigits : ∀ n < 16, isFactChar (Nat.digitChar n) = true ∧
      isSpace (Nat.digitChar n) = false := by
    decide
  have hlength : (Sha256.hexdigest text).toList.length = 64 := Sha256.length_hexdigest text
  obtain ⟨c, hc⟩ : ∃ c, c ∈ (Sha256.hexdigest text).toList :=
    List.exists_mem_of_length_pos (by omega)
  have hall : (Sha256.hexdigest text).toList.all isFactChar = true := by
    rw [List.all_eq_true]
    intro c hc
    obtain ⟨n, hn, rfl⟩ := Sha256.mem_hexdigest text c hc
    exact (hdigits n hn).1
  have hany : (Sha256.hexdigest text).toList.any (fun c => !isSpace c) = true := by
    rw [List.any_eq_true]
    obtain ⟨n, hn, hdigit⟩ := Sha256.mem_hexdigest text c hc
    exact ⟨c, hc, by rw [hdigit, (hdigits n hn).2]; rfl⟩
  have hshort : decide ((start ++ Sha256.hexdigest text).length ≤ 768) = true := by
    rw [String.length_append, Sha256.length_hexdigest, decide_eq_true_eq]
    omega
  rw [isFactText, hasText, String.toList_append, List.any_append, hany, Bool.or_true, hshort,
    List.all_append]
  exact Bool.and_eq_true_iff.mpr ⟨rfl, Bool.and_eq_true_iff.mpr ⟨hplain, hall⟩⟩

theorem factText_str {value field : String} (h : isFactText value = true) :
    factText (.str value) field = .ok value := by
  simp only [factText, require, h, if_true]
  rfl

theorem fingerprintDigits_digest (text : String) :
    fingerprintDigits ("sha256:" ++ Sha256.hexdigest text) = Sha256.hexdigest text := by
  have hleading : "sha256:".toList.isPrefixOf ("sha256:" ++ Sha256.hexdigest text).toList =
      true := by
    rw [String.toList_append, List.isPrefixOf_iff_prefix]
    exact List.prefix_append ..
  have hdrop : ("sha256:" ++ Sha256.hexdigest text).toList.drop 7 =
      (Sha256.hexdigest text).toList := by
    rw [String.toList_append]
    rfl
  rw [fingerprintDigits, if_pos hleading, hdrop, String.ofList_toList]

theorem p4Equal_str (text field : String) (reason : P4ContractReason) :
    p4Equal (.str text) (.str text) field reason = .ok () := by
  rw [p4Equal, require_eq_ok, Json.pyEq]
  exact beq_self_eq_true text

/-! ### Contents -/

/-- What an event says, when it says it and where it stands in its stream. -/
structure EventContent where
  type : ExecutionEventType
  references : List (String × String)
  payload : Json
  position : Nat
  occurredAtUtc : String

def referenceDocument (references : List (String × String)) : Json :=
  .arr (references.map fun reference =>
    .obj [("entity_type", .str reference.1), ("entity_id", .str reference.2)])

def sealedAuthority (scope : ProjectionScope) : Json :=
  .obj
    [("authority_version", .str "execution-event-authority.v1"),
     ("authority_id", .str scope.authorityId),
     ("authority_scope", .str (authorityScope scope.factoryId scope.planningScopeId)),
     ("source", .obj [("source_system", .str "simulator"), ("source_version", .str "1.0.0"),
       ("source_record_id", .str "run")]),
     ("decision", .str "AUTHORIZED_SIMULATION_SOURCE"), ("production_binding", .bool false)]

def sealedProvenance : Json :=
  .obj
    [("scenario_id", .str "scenario"), ("scenario_version", .str "1.0.0"),
     ("factory_profile_id", .str "profile"), ("profile_version", .str "1.0.0"),
     ("generator_id", .str "generator"), ("generator_version", .str "1.0.0"),
     ("simulator_id", .str "simulator"), ("simulator_version", .str "1.0.0"), ("seed", .int 7)]

section
variable (scope : ProjectionScope) (content : EventContent)

/-- The document of an event under an identity. -/
def contentDocument (eventId eventFingerprint : String) : Json :=
  .obj
    [("execution_event_version", .str "execution-event.v1"),
     ("schema_set_version", .str "2.8.0"),
     ("canonicalization_version", .str "canonical-json.v1"), ("event_id", .str eventId),
     ("event_type", .str content.type.text), ("data_plane", .str "SIMULATION"),
     ("environment", .str "TEST"), ("factory_id", .str scope.factoryId),
     ("planning_scope_id", .str scope.planningScopeId), ("authority", sealedAuthority scope),
     ("source_stream", .obj [("stream_id", .str scope.streamId),
       ("stream_version", .str scope.streamVersion), ("authority_id", .str scope.authorityId)]),
     ("source_position", .int content.position),
     ("occurred_at_utc", .str content.occurredAtUtc),
     ("received_at_utc", .str content.occurredAtUtc),
     ("entity_refs", referenceDocument content.references), ("payload", content.payload),
     ("synthetic", .bool true), ("synthetic_provenance", sealedProvenance),
     ("production_binding", .bool false), ("correlation_id", .str "correlation"),
     ("event_fingerprint", .str eventFingerprint)]

/-- The digest that the event is filed under. -/
def contentFingerprint : String :=
  executionEventFingerprint (contentDocument scope content "pending" "pending")

/-- The event of a content, filed under its own digest. -/
def sealEvent : Json :=
  contentDocument scope content (executionEventId (contentFingerprint scope content))
    (contentFingerprint scope content)

/-- The checks of a content that do not look at its identity. -/
structure EventContent.Valid (occurred : Datetime) : Prop where
  position : 1 ≤ content.position
  occurs : factUtc (.str content.occurredAtUtc) "occurred_at_utc" = .ok occurred
  arrives : factUtc (.str content.occurredAtUtc) "received_at_utc" = .ok occurred
  carried : p4Utc (.str content.occurredAtUtc) "occurred_at_utc" = .ok occurred ∧
    p4Utc (.str content.occurredAtUtc) "received_at_utc" = .ok occurred
  payload : content.payload.isObj = true
  fields : HasFields content.payload content.type.payloadFields
  kind : content.payload.get "kind" = .str content.type.text
  sorted : SortedUnique content.references
  named : ∀ reference ∈ content.references, p4Text (.str reference.1) "entity_type" =
      .ok reference.1 ∧ p4Text (.str reference.2) "entity_id" = .ok reference.2
  references : checkReferences (.obj [("entity_refs", referenceDocument content.references)])
    content.type content.payload = .ok ()
  checked : checkPayload content.payload content.type = .ok ()
  times : validatePayloadTimes content.payload occurred content.type = .ok ()

end

/-! ### Acceptance -/

section
variable {scope : ProjectionScope} {content : EventContent} {occurred : Datetime}

theorem contentFingerprint_digest (scope : ProjectionScope) (content : EventContent) :
    ∃ body, contentFingerprint scope content = "sha256:" ++ Sha256.hexdigest body := ⟨_, rfl⟩

theorem collect_references {references : List (String × String)}
    (h : ∀ reference ∈ references, p4Text (.str reference.1) "entity_type" = .ok reference.1 ∧
      p4Text (.str reference.2) "entity_id" = .ok reference.2) :
    collect (fun item => do
        let item ← p4Mapping item "entity_refs[]"
        let entityType ← p4Text (item.get "entity_type") "entity_type"
        let entityId ← p4Text (item.get "entity_id") "entity_id"
        return (entityType, entityId))
      (references.map fun reference =>
        .obj [("entity_type", .str reference.1), ("entity_id", .str reference.2)]) =
      .ok references := by
  induction references with
  | nil => rfl
  | cons reference rest ih =>
    obtain ⟨htype, hid⟩ := h reference (List.mem_cons_self ..)
    rw [List.map_cons, collect, bind_eq_ok]
    refine ⟨reference, ?_, ?_⟩
    · simp only [bind_eq_ok]
      exact ⟨_, rfl, _, htype, _, hid, rfl⟩
    · rw [ih fun r hr => h r (List.mem_cons_of_mem _ hr)]
      rfl

theorem sealEvent_carrier (h : content.Valid occurred) :
    requireEvent (sealEvent scope content) = .ok () := by
  have hscope : requireAuthorityScope (sealEvent scope content) = .ok () := by
    simp only [requireAuthorityScope, bind_eq_ok, exists_unit_iff]
    exact ⟨_, rfl, _, rfl, p4Equal_str .., p4Equal_str ..⟩
  have hmapping : p4Mapping content.payload "payload" = .ok content.payload := by
    rw [p4Mapping, bind_eq_ok]
    exact ⟨(), (require_eq_ok ..).mpr h.payload, rfl⟩
  have hkind : p4Equal (content.payload.get "kind") (.str content.type.text) "payload.kind"
      .versionMismatch = .ok () := by
    rw [h.kind]
    exact p4Equal_str ..
  simp only [requireEvent, bind_eq_ok, exists_unit_iff, require_eq_ok]
  exact ⟨hscope, _, hmapping, hkind, _, rfl, _, collect_references h.named, h.sorted, _,
    h.carried.1, _, h.carried.2, le_refl _, p4Equal_str .., p4Equal_str ..⟩

/-- **A content that passes its checks is accepted under its own identity.** -/
theorem sealEvent_valid (h : content.Valid occurred) :
    validateExecutionEvent scope (sealEvent scope content) = .ok () := by
  have hdocument : requireEventDocument (sealEvent scope content) = .ok "execution-event.v1" := by
    simp only [requireEventDocument, requireP4Document, bind_eq_ok, exists_unit_iff]
    refine ⟨"execution-event.v1", rfl, rfl, rfl, rfl, ?_⟩
    simp [sealEvent_carrier h]
  have hkind : checkKind (sealEvent scope content) = .ok (content.type, content.payload) := by
    have htext : factText (.str content.type.text) "event_type" = .ok content.type.text := by
      cases content.type <;> rfl
    have htype : ExecutionEventType.ofText content.type.text = some content.type := by
      cases content.type <;> rfl
    have hmapping : factMapping content.payload "payload" = .ok content.payload := by
      rw [factMapping, bind_eq_ok]
      exact ⟨(), (require_eq_ok ..).mpr h.payload, rfl⟩
    have hequal : (content.payload.get "kind").pyEq (.str content.type.text) = true := by
      rw [h.kind, Json.pyEq]
      exact beq_self_eq_true _
    rw [checkKind, bind_eq_ok]
    refine ⟨_, htext, ?_⟩
    rw [htype]
    simp only [bind_eq_ok, exists_unit_iff, require_eq_ok, exactFields]
    exact ⟨_, hmapping, h.fields, hequal, rfl⟩
  have hauthority : checkAuthority scope (sealEvent scope content) = .ok () := by
    simp only [checkAuthority, sourceReference, bind_eq_ok, exists_unit_iff, require_eq_ok]
    exact ⟨_, rfl, rfl, ⟨rfl, rfl, rfl⟩, ⟨_, rfl, rfl, _, rfl, _, rfl, _, rfl, rfl⟩, _, rfl, rfl,
      ⟨rfl, rfl, rfl, rfl, rfl, rfl⟩, rfl⟩
  have hoccurrence : checkOccurrence (sealEvent scope content) = .ok occurred := by
    simp only [checkOccurrence, bind_eq_ok, exists_unit_iff, require_eq_ok, pure, Except.pure]
    refine ⟨content.position, ?_, _, h.occurs, _, h.arrives, le_refl _, rfl⟩
    have hposition : (1 : Int) ≤ content.position := by exact_mod_cast h.position
    show require _ _ >>= _ = _
    rw [bind_eq_ok]
    exact ⟨(), (require_eq_ok ..).mpr hposition, rfl⟩
  simp only [validateExecutionEvent, bind_eq_ok, exists_unit_iff, Prod.exists, hdocument,
    Except.mapError, Except.ok.injEq, exists_eq_left', require_eq_ok]
  refine ⟨?_, ?_, content.type, content.payload, hkind, hauthority, rfl, occurred, hoccurrence,
    h.references, h.checked, h.times⟩
  · have hkeys : (sealEvent scope content).keys = eventRootFields := rfl
    rw [exactFields, require_eq_ok]
    exact ⟨fun _ h => hkeys ▸ h, fun _ h => hkeys ▸ h⟩
  · rw [eventConstants]
    simp only [List.forall_mem_cons]
    exact ⟨rfl, rfl, rfl, rfl, rfl, rfl, fun _ h => absurd h List.not_mem_nil⟩

theorem isFactText_sealed (scope : ProjectionScope) (content : EventContent) :
    isFactText (executionEventId (contentFingerprint scope content)) = true ∧
      isFactText (contentFingerprint scope content) = true := by
  obtain ⟨body, hbody⟩ := contentFingerprint_digest scope content
  rw [hbody, executionEventId, fingerprintDigits_digest]
  exact ⟨isFactText_digest "execution-event-" body (by decide) (by decide),
    isFactText_digest "sha256:" body (by decide) (by decide)⟩

/-- A stream of one event. -/
theorem sealEvent_prefix (h : content.Valid occurred) (hfirst : content.position = 1) :
    validateEventPrefix scope [sealEvent scope content] =
      .ok [contentFingerprint scope content] := by
  obtain ⟨hid, hprint⟩ := isFactText_sealed scope content
  have hposition : ((sealEvent scope content).get "source_position").pyEq (.int (1 : Nat)) =
      true := by
    have hget : (sealEvent scope content).get "source_position" = .int content.position := rfl
    rw [hget, hfirst]
    rfl
  simp only [validateEventPrefix, validateEventsFrom, sealEvent_valid h, bind_eq_ok,
    exists_unit_iff, require_eq_ok, pure, Except.pure]
  exact ⟨trivial, hposition, _, factText_str hid, List.not_mem_nil, _, factText_str hprint, _, rfl,
    rfl⟩

end

end PlantNexus.Execution
