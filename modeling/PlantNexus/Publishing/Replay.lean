import PlantNexus.Data.JsonEquality
import PlantNexus.Publishing.Evidence

/-! Submitting a publication again.

A committed publication leaves evidence from which a replay rebuilds the same references, and the
evidence survives every later step (`Recorded.step`). So a call that begins after a success of its
own command was answered reads that evidence, whatever happens between its reads, and answers with
the references of that success. -/
namespace PlantNexus.Publishing
open Data Domain

/-! ### Texts that have been checked -/

theorem boundedText_ok {value : Json} {field text : String} {maximum : Nat}
    (h : boundedText value field maximum = .ok text) :
    value = .str text ∧ ∀ other, boundedText value other maximum = .ok text := by
  cases value with
  | str found =>
    simp only [boundedText, bind_eq_ok, exists_unit_iff, require_eq_ok, pure, Except.pure,
      Except.ok.injEq] at h
    obtain ⟨hbounds, hcontrol, rfl⟩ := h
    refine ⟨rfl, ?_⟩
    intro other
    simp only [boundedText, bind_eq_ok, exists_unit_iff, require_eq_ok, pure, Except.pure]
    exact ⟨hbounds, hcontrol, trivial⟩
  | _ => cases h

theorem canonicalId_ok {value : Json} {field text : String}
    (h : canonicalId value field = .ok text) :
    value = .str text ∧ ∀ other, canonicalId value other = .ok text := by
  simp only [canonicalId, bind_eq_ok, exists_unit_iff, require_eq_ok, pure, Except.pure,
    Except.ok.injEq] at h
  obtain ⟨found, hfound, hspace, rfl⟩ := h
  obtain ⟨hvalue, hother⟩ := boundedText_ok hfound
  refine ⟨hvalue, ?_⟩
  intro other
  simp only [canonicalId, bind_eq_ok, exists_unit_iff, require_eq_ok, pure, Except.pure,
    Except.ok.injEq]
  exact ⟨found, hother other, hspace, rfl⟩

theorem fingerprintText_ok {value : Json} {field text : String}
    (h : fingerprintText value field = .ok text) :
    value = .str text ∧ ∀ other, fingerprintText value other = .ok text := by
  simp only [fingerprintText, bind_eq_ok, exists_unit_iff, require_eq_ok, pure, Except.pure,
    Except.ok.injEq] at h
  obtain ⟨found, hfound, hdigest, rfl⟩ := h
  obtain ⟨hvalue, hother⟩ := boundedText_ok hfound
  refine ⟨hvalue, ?_⟩
  intro other
  simp only [fingerprintText, bind_eq_ok, exists_unit_iff, require_eq_ok, pure, Except.pure,
    Except.ok.injEq]
  exact ⟨found, hother other, hdigest, rfl⟩

theorem fingerprintText_digest (document : Json) (field : String) :
    fingerprintText (.str (contractFingerprint document)) field =
      .ok (contractFingerprint document) := by
  have htext : (contractFingerprint document).toList =
      "sha256:".toList ++ (Sha256.hexdigest document.dumps).toList := by
    rw [contractFingerprint, String.toList_append]
  have hlength : (contractFingerprint document).length = 71 := by
    rw [contractFingerprint, String.length_append, Sha256.length_hexdigest]
    rfl
  have hdigits : ∀ c ∈ (Sha256.hexdigest document.dumps).toList,
      isHexDigit c = true ∧ (c.toNat < 32 || c.toNat == 127) = false := by
    intro c hc
    have hdigit : ∀ n < 16, isHexDigit (Nat.digitChar n) = true ∧
        ((Nat.digitChar n).toNat < 32 || (Nat.digitChar n).toNat == 127) = false := by decide
    obtain ⟨n, hn, rfl⟩ := Sha256.mem_hexdigest document.dumps c hc
    exact hdigit n hn
  simp only [fingerprintText, boundedText, bind_eq_ok, exists_unit_iff, require_eq_ok, pure,
    Except.pure, Except.ok.injEq]
  refine ⟨_, ⟨⟨?_, ?_⟩, ?_, rfl⟩, ⟨?_, hlength, ?_⟩, rfl⟩
  · intro hempty
    rw [hempty] at hlength
    cases hlength
  · omega
  · rw [htext, List.all_append, Bool.and_eq_true]
    refine ⟨by decide, List.all_eq_true.mpr ?_⟩
    intro c hc
    rw [(hdigits c hc).2]
    rfl
  · rw [htext, List.isPrefixOf_iff_prefix]
    exact List.prefix_append ..
  · have hdrop : (contractFingerprint document).toList.drop 7 =
        (Sha256.hexdigest document.dumps).toList := by
      rw [htext]
      exact List.drop_left' rfl
    rw [hdrop, List.all_eq_true]
    exact fun c hc => (hdigits c hc).1

/-- A reference whose texts have been checked passes under any field. -/
theorem versionReference_toJson {id state fingerprint field field' field'' : String}
    (hid : canonicalId (.str id) field' = .ok id)
    (hfingerprint : fingerprintText (.str fingerprint) field'' = .ok fingerprint)
    (hstate : state = "APPROVED" ∨ state = "PUBLISHED") :
    versionReference (VersionReference.toJson ⟨id, state, fingerprint⟩) field state =
      .ok ⟨id, state, fingerprint⟩ := by
  have hfields : requireFields (VersionReference.toJson ⟨id, state, fingerprint⟩)
      ["schedule_version_id", "state", "content_fingerprint"] field = .ok () := by
    rw [requireFields, require_eq_ok]
    show (∀ key ∈ ["schedule_version_id", "state", "content_fingerprint"], _) ∧ _
    exact ⟨fun key h => h, fun key h => h⟩
  have htext : ∀ other, boundedText (.str state) other 32 = .ok state := by
    intro other
    rcases hstate with rfl | rfl <;> rfl
  simp only [versionReference, requireObject, bind_eq_ok, exists_unit_iff, require_eq_ok, pure,
    Except.pure, Except.ok.injEq]
  exact ⟨_, ⟨rfl, rfl⟩, hfields, id, (canonicalId_ok hid).2 _, state, htext _, fingerprint,
    (fingerprintText_ok hfingerprint).2 _, rfl, rfl⟩

theorem toJson_pyEq (reference : VersionReference) :
    reference.toJson.pyEq reference.toJson = true := by
  refine Json.pyEq_refl _ ?_
  simp [VersionReference.toJson, Json.WellFormed, Json.WellFormedMembers]

/-- An accepted reference is one of texts. -/
theorem versionReference_ok {value : Json} {field state : String} {reference : VersionReference}
    (h : versionReference value field state = .ok reference) :
    value.get "schedule_version_id" = .str reference.scheduleVersionId ∧
      value.get "content_fingerprint" = .str reference.contentFingerprint := by
  simp only [versionReference, requireObject, bind_eq_ok, exists_unit_iff, pure, Except.pure,
    Except.ok.injEq] at h
  obtain ⟨_, ⟨-, rfl⟩, -, id, hid, text, -, fingerprint, hfingerprint, -, rfl⟩ := h
  exact ⟨(canonicalId_ok hid).1, (fingerprintText_ok hfingerprint).1⟩

/-! ### The identity of a command -/

/-- What an accepted command says about its source. -/
structure CommandChecked (command : Json) (identity : PublicationIdentity) : Prop where
  source : ∃ field, canonicalId (.str identity.scheduleVersionId) field =
    .ok identity.scheduleVersionId
  expected : ∃ fingerprint field, command.get "expected_content_fingerprint" = .str fingerprint ∧
    fingerprintText (.str fingerprint) field = .ok fingerprint
  payload : (command.get "payload").isObj = true

theorem publicationIdentity_ok {command : Json} {dataPlane : String}
    {identity : PublicationIdentity} (h : publicationIdentity command dataPlane = .ok identity) :
    CommandChecked command identity := by
  simp only [publicationIdentity, requireObject, bind_eq_ok, exists_unit_iff, mapError_eq_ok,
    require_eq_ok] at h
  obtain ⟨-, _, -, -, -, source, hsource, _, -, _, -, _, -, _, -, fingerprint, hfingerprint, -, -,
    -, -, -, key, -, -, scope, -, -, _, ⟨hpayload, -⟩, -, h⟩ := h
  have hidentity : identity.scheduleVersionId = source := by
    split at h
    · simp only [bind_eq_ok, pure, Except.pure, Except.ok.injEq] at h
      obtain ⟨_, -, rfl⟩ := h
      rfl
    · rw [← Except.ok.inj h]
      rfl
  obtain ⟨hsourceText, hsourceChecked⟩ := canonicalId_ok hsource
  obtain ⟨htext, hchecked⟩ := fingerprintText_ok hfingerprint
  refine ⟨⟨"", ?_⟩, ⟨fingerprint, "", htext, ?_⟩, hpayload⟩
  · rw [hidentity, ← hsourceText]
    exact hsourceChecked ""
  · rw [← htext]
    exact hchecked ""

/-! ### The result of a replay -/

/-- The secret check looks at keys and nested values only. -/
theorem checkNoSecretMembers_congr {field : String} {members members' : List (String × Json)}
    (h : List.Forall₂ (fun member member' => member.1 = member'.1 ∧
      ∀ path, checkNoSecretKeys path member.2 = checkNoSecretKeys path member'.2)
      members members') :
    checkNoSecretMembers field members = checkNoSecretMembers field members' := by
  induction h with
  | nil => rfl
  | @cons member member' rest rest' hmember _ ih =>
    obtain ⟨key, value⟩ := member
    obtain ⟨key', value'⟩ := member'
    obtain ⟨rfl, hvalue⟩ := hmember
    rw [checkNoSecretMembers, checkNoSecretMembers, ih, hvalue]

theorem checkNoSecretItems_strings (path : String) (index : Nat) (texts : List String) :
    checkNoSecretItems path index (texts.map .str) = .ok () := by
  induction texts generalizing index with
  | nil => rfl
  | cons text rest ih =>
    simp only [List.map_cons, checkNoSecretItems, checkNoSecretKeys, bind_unit_eq_ok, true_and]
    exact ih (index + 1)

/-- An object names no secret when no key does and no value does. -/
theorem checkNoSecretMembers_ok {field : String} {members : List (String × Json)}
    (hkeys : ∀ key ∈ members.map Prod.fst, lowerKey key ∉ forbiddenSecretKeys)
    (hvalues : ∀ value ∈ members.map Prod.snd, ∀ path, checkNoSecretKeys path value = .ok ()) :
    checkNoSecretMembers field members = .ok () := by
  induction members with
  | nil => rfl
  | cons member rest ih =>
    obtain ⟨key, value⟩ := member
    rw [List.map_cons, List.forall_mem_cons] at hkeys hvalues
    simp only [checkNoSecretMembers, bind_unit_eq_ok, require_eq_ok]
    exact ⟨hkeys.1, hvalues.1 _, ih hkeys.2 hvalues.2⟩

theorem workspaceEqual_self (text field : String) :
    workspaceEqual (.str text) (.str text) field = .ok () := by
  rw [workspaceEqual, require_eq_ok]
  exact (Json.pyEq_str _ _).mpr rfl

theorem without_append {members : List (String × Json)} {key : String} {value : Json} :
    without (.obj (members ++ [(key, value)])) [key] = without (.obj members) [key] := by
  rw [without, without, List.filter_append]
  simp

/-- A publication result that differs in its replay marker and its own fingerprint is accepted
with the other. -/
theorem requireWorkspaceDocument_congr {document document' : Json} {version : String}
    (hget : ∀ key, key ≠ "replayed" → key ≠ "result_fingerprint" →
      document'.get key = document.get key)
    (hfingerprint : workspaceEqual (document'.get "result_fingerprint")
      (.str (publicationResultFingerprint document')) "result_fingerprint" = .ok ())
    (hsecret : checkNoSecretKeys "$" document' = checkNoSecretKeys "$" document)
    (hversion : workspaceDocumentVersion document = .ok "publication-result.v1")
    (h : requireWorkspaceDocument document = .ok version) :
    requireWorkspaceDocument document' = .ok version := by
  have hversion' : workspaceDocumentVersion document' = .ok "publication-result.v1" := by
    rw [← hversion, workspaceDocumentVersion, workspaceDocumentVersion]
    have hsame : (workspaceVersionFields.filter fun f => (document'.get f.1).pyEq (.str f.2)) =
        workspaceVersionFields.filter fun f => (document.get f.1).pyEq (.str f.2) := by
      refine List.filter_congr ?_
      intro field hfield
      rw [hget]
      · rintro heq
        revert field
        decide
      · rintro heq
        revert field
        decide
    rw [hsame]
  have hprecheck : ∀ version document, version = "publication-result.v1" →
      precheck version document = precheckPublication document := by
    rintro _ document rfl
    rfl
  simp only [requireWorkspaceDocument, hversion, hversion', bind_eq_ok, exists_unit_iff,
    Except.ok.injEq, pure, Except.pure] at h ⊢
  obtain ⟨_, rfl, hset, hcanonical, hpublication, hnosecret, rfl⟩ := h
  rw [hprecheck _ _ rfl] at hpublication
  refine ⟨_, rfl, ?_, ?_, ?_, hsecret.trans hnosecret, rfl⟩
  · rw [hget _ (by decide) (by decide)]
    exact hset
  · rw [hget _ (by decide) (by decide)]
    exact hcanonical
  · rw [hprecheck _ _ rfl, precheckPublication, hfingerprint]
    rw [precheckPublication] at hpublication
    rw [hget "source_approved_version" (by decide) (by decide),
      hget "published_version" (by decide) (by decide),
      hget "previous_current_version" (by decide) (by decide),
      hget "superseded_version" (by decide) (by decide)]
    simp only [bind_eq_ok, exists_unit_iff] at hpublication ⊢
    obtain ⟨source, hsource, published, hpublished, hreference, hpresent, hrest⟩ := hpublication
    refine ⟨source, hsource, published, hpublished, hreference, hpresent, ?_⟩
    split
    · rename_i hboth
      rw [if_pos hboth] at hrest
      simp only [bind_eq_ok, exists_unit_iff] at hrest ⊢
      obtain ⟨previous, hprevious, superseded, hsuperseded, hsame, -⟩ := hrest
      exact ⟨previous, hprevious, superseded, hsuperseded, hsame, trivial⟩
    · trivial

section
variable {command : Json} {identity : PublicationIdentity} {references : ResultReferences}
  {publishedAtUtc : Json}

theorem resultMembers_keys (replayed : Bool) :
    "result_fingerprint" ∉
      (resultMembers command identity references replayed publishedAtUtc).map Prod.fst := by
  simp [resultMembers]

theorem publicationResult_fingerprint (replayed : Bool) :
    workspaceEqual
      ((publicationResult command identity references replayed publishedAtUtc).get
        "result_fingerprint")
      (.str (publicationResultFingerprint
        (publicationResult command identity references replayed publishedAtUtc)))
      "result_fingerprint" = .ok () := by
  rw [publicationResult, Json.get_append_self (resultMembers_keys replayed),
    publicationResultFingerprint, publicationResultFingerprint,
    without_append, workspaceEqual, require_eq_ok]
  exact (Json.pyEq_str _ _).mpr rfl

theorem publicationResult_get (replayed : Bool) {key : String} (hreplayed : key ≠ "replayed")
    (hfingerprint : key ≠ "result_fingerprint") :
    (publicationResult command identity references replayed publishedAtUtc).get key =
      (publicationResult command identity references false publishedAtUtc).get key := by
  rw [publicationResult, publicationResult, Json.get_append_of_ne hfingerprint,
    Json.get_append_of_ne hfingerprint]
  refine Json.get_congr ?_
  simp [resultMembers, Ne.symm hreplayed]

/-- The replay marker is no part of what makes a result well formed. -/
theorem requireWorkspaceDocument_replayed {version : String}
    (h : requireWorkspaceDocument
      (publicationResult command identity references false publishedAtUtc) = .ok version) :
    requireWorkspaceDocument
      (publicationResult command identity references true publishedAtUtc) = .ok version := by
  refine requireWorkspaceDocument_congr
    (fun key hreplayed hfingerprint => publicationResult_get true hreplayed hfingerprint)
    (publicationResult_fingerprint true) ?_ ?_ h
  · rw [publicationResult, publicationResult, checkNoSecretKeys, checkNoSecretKeys]
    refine checkNoSecretMembers_congr ?_
    simp [resultMembers, checkNoSecretKeys]
  · rw [publicationResult]
    generalize Json.str (publicationResultFingerprint _) = fingerprint
    rfl

end

/-! ### Evidence after a publication -/

section
variable {otherDocument : String → Json → Except P4ContractError Unit} {tables : PublicationTables}
  {call : PublicationCall} {w : PublicationWrite}

theorem scheduleReference_texts {document : Json} {id fingerprint : String} (state : String)
    (hid : document.get "schedule_version_id" = .str id)
    (hfingerprint : document.get "content_fingerprint" = .str fingerprint) :
    scheduleReference document state = VersionReference.toJson ⟨id, state, fingerprint⟩ := by
  rw [scheduleReference, hid, hfingerprint, VersionReference.toJson]

/-- The fingerprint of the source is the text that the command expects. -/
theorem Prepared.sourceFingerprint (h : Prepared otherDocument call w)
    (hidentity : publicationIdentity call.command "SIMULATION" = .ok call.identity) :
    ∃ fingerprint field, w.source.document.get "content_fingerprint" = .str fingerprint ∧
      fingerprintText (.str fingerprint) field = .ok fingerprint := by
  obtain ⟨fingerprint, field, htext, hchecked⟩ := (publicationIdentity_ok hidentity).expected
  have hexpected := h.source.fingerprint
  rw [htext] at hexpected
  exact ⟨fingerprint, field, Json.eq_str_of_pyEq hexpected, hchecked⟩

/-- The references of a prepared publication. -/
def PublicationWrite.references (w : PublicationWrite) : ResultReferences :=
  { source := scheduleReference w.source.document "APPROVED"
    published := scheduleReference w.source.document "PUBLISHED"
    previous := Json.ofOption (scheduleReference · "PUBLISHED")
      (w.previous.map StoredScheduleVersion.document)
    superseded := Json.ofOption (scheduleReference · "SUPERSEDED")
      (w.previous.map StoredScheduleVersion.document) }

theorem Prepared.result (h : Prepared otherDocument call w) : w.documents.publicationResult =
    publicationResult call.command call.identity w.references false
      (.str call.context.occurredAtUtc) := by
  rw [h.documents]
  rfl

theorem Prepared.audit (h : Prepared otherDocument call w) : w.documents.auditEvent =
    auditEvent call.command call.context call.identity "SIMULATION_INTERNAL"
      (succeededOutcome (w.source.document.get "lineage")
        (scheduleReference w.source.document "APPROVED")
        (scheduleReference w.source.document "PUBLISHED")) := by
  rw [h.documents]
  rfl

theorem requested_ne_null {command : Json} {field state : String} {reference : VersionReference}
    (h : versionReference (requestedPrevious command) field state = .ok reference) :
    requestedPrevious command ≠ .null := by
  intro hnull
  rw [hnull] at h
  cases h

/-- The previous references of a publication are what the command names. -/
theorem Prepared.previousReference (h : Prepared otherDocument call w) :
    (requestedPrevious call.command = .null ∧ w.current = none ∧ w.references.previous = .null ∧
      w.references.superseded = .null) ∨
    ∃ reference, versionReference (requestedPrevious call.command)
        "command.payload.previous_current_version" "PUBLISHED" = .ok reference ∧
      w.current ≠ none ∧ w.references.previous = reference.toJson ∧
      w.references.superseded =
        VersionReference.toJson { reference with state := "SUPERSEDED" } := by
  rcases checkCurrent_ok h.checkedCurrent with ⟨hcurrent, hprevious, hnull⟩ |
    ⟨state, document, hstate, hdocument, hchecked⟩
  · rw [Option.map_eq_none_iff] at hcurrent
    rw [PublicationWrite.references, hprevious]
    exact .inl ⟨hnull, hcurrent, rfl, rfl⟩
  · have hcurrent : w.current ≠ none := by
      intro hnone
      rw [hnone] at hstate
      cases hstate
    rw [PublicationWrite.references, hdocument]
    exact .inr ⟨_, hchecked.requested, hcurrent,
      scheduleReference_texts "PUBLISHED" hchecked.id hchecked.fingerprint,
      scheduleReference_texts "SUPERSEDED" hchecked.id hchecked.fingerprint⟩

theorem check_result {documents : PublicationDocuments}
    (h : documents.check otherDocument = .ok ()) :
    ∃ version, requireWorkspaceDocument documents.publicationResult = .ok version := by
  simp only [PublicationDocuments.check, bind_eq_ok] at h
  obtain ⟨_, -, h⟩ := h
  split at h
  · simp only [bind_eq_ok, mapError_eq_ok] at h
    obtain ⟨version, hversion, -⟩ := h
    exact ⟨version, hversion⟩
  · simp only [bind_eq_ok, mapError_eq_ok] at h
    obtain ⟨_, -, version, hversion, -⟩ := h
    exact ⟨version, hversion⟩

/-- **A replay builds the result of the publication again**, but for the replay marker. -/
theorem Prepared.replay (h : Prepared otherDocument call w)
    (hidentity : publicationIdentity call.command "SIMULATION" = .ok call.identity) :
    buildPublicationReplayResult call.command call.identity w.documents.auditEvent =
      .ok (publicationResult call.command call.identity w.references true
        (.str call.context.occurredAtUtc)) := by
  have hcommand := publicationIdentity_ok hidentity
  obtain ⟨idField, hid⟩ := hcommand.source
  obtain ⟨fingerprint, field, hfingerprint, hchecked⟩ := h.sourceFingerprint hidentity
  have hreference : ∀ state field', state = "APPROVED" ∨ state = "PUBLISHED" →
      versionReference (scheduleReference w.source.document state) field' state =
        .ok ⟨call.identity.scheduleVersionId, state, fingerprint⟩ := by
    intro state field' hstate
    rw [scheduleReference_texts state h.source.id hfingerprint]
    exact versionReference_toJson hid hchecked hstate
  have hresult : ∃ version, requireWorkspaceDocument (publicationResult call.command call.identity
      w.references false (.str call.context.occurredAtUtc)) = .ok version := by
    obtain ⟨version, hversion⟩ := check_result h.checkedDocuments
    rw [h.result] at hversion
    exact ⟨version, hversion⟩
  obtain ⟨version, hversion⟩ := hresult
  have hreplayed := requireWorkspaceDocument_replayed hversion
  have hsource : w.documents.auditEvent.get "source_version" =
      scheduleReference w.source.document "APPROVED" := by
    rw [h.audit]
    rfl
  have hpublished : w.documents.auditEvent.get "new_version" =
      scheduleReference w.source.document "PUBLISHED" := by
    rw [h.audit]
    rfl
  have hoccurred : w.documents.auditEvent.get "occurred_at_utc" =
      .str call.context.occurredAtUtc := by
    rw [h.audit]
    rfl
  have hsame : ∀ previous superseded, w.references.previous = previous →
      w.references.superseded = superseded → publicationResult call.command call.identity
        { source := VersionReference.toJson
            ⟨call.identity.scheduleVersionId, "APPROVED", fingerprint⟩
          published := VersionReference.toJson
            ⟨call.identity.scheduleVersionId, "PUBLISHED", fingerprint⟩
          previous, superseded } true (.str call.context.occurredAtUtc) =
      publicationResult call.command call.identity w.references true
        (.str call.context.occurredAtUtc) := by
    rintro _ _ rfl rfl
    rw [← scheduleReference_texts "APPROVED" h.source.id hfingerprint,
      ← scheduleReference_texts "PUBLISHED" h.source.id hfingerprint]
    rfl
  rw [buildPublicationReplayResult, hsource, hpublished, hreference _ _ (.inl rfl),
    hreference _ _ (.inr rfl), hoccurred]
  simp only [requireObject, bind_eq_ok, exists_unit_iff, require_eq_ok, pure, Except.pure,
    Except.ok.injEq]
  refine ⟨_, rfl, _, rfl, _, ⟨hcommand.payload, rfl⟩, ?_⟩
  rcases h.previousReference with ⟨hnull, -, hnone, hnone'⟩ |
    ⟨reference, hrequested, -, hsome, hsome'⟩
  · have hdocument := hsame _ _ hnone hnone'
    rw [requestedPrevious] at hnull
    rw [if_pos hnull]
    simp only [bind_eq_ok, mapError_eq_ok, Except.ok.injEq]
    refine ⟨none, rfl, version, ?_, hdocument⟩
    exact (congrArg requireWorkspaceDocument hdocument).trans hreplayed
  · have hdocument := hsame _ _ hsome hsome'
    have hne := requested_ne_null hrequested
    rw [requestedPrevious] at hne hrequested
    rw [if_neg hne]
    simp only [bind_eq_ok, mapError_eq_ok, Except.ok.injEq]
    refine ⟨reference, hrequested, some reference, rfl, version, ?_, hdocument⟩
    exact (congrArg requireWorkspaceDocument hdocument).trans hreplayed

theorem Published.auditRecords {tables' : PublicationTables} (h : Prepared otherDocument call w)
    (hwrite : Published otherDocument tables call w tables') :
    AuditRecords tables' call w.documents.auditEvent := by
  obtain ⟨hchecked, hfound, -⟩ := appendAudit_ok hwrite.audits
  have hid : w.documents.auditEvent.get "audit_event_id" = .str call.identity.auditEventId := by
    rw [h.audit]
    rfl
  rw [hid] at hfound
  simp only [checkAuditCandidate, bind_eq_ok, exists_unit_iff] at hchecked
  refine ⟨hfound, hchecked.1, ?_, ?_, ?_⟩
  · rw [h.audit]
    simp only [checkAuditIdentity, storedObject, bind_eq_ok, exists_unit_iff, require_eq_ok, pure,
      Except.pure, Except.ok.injEq]
    exact ⟨rfl, _, ⟨rfl, rfl⟩, rfl, rfl, rfl, rfl, rfl, rfl, rfl, rfl⟩
  · rw [h.audit]
    rfl
  · rw [h.audit]
    rfl

/-- The row that a publication leaves under its source. -/
theorem Published.sourceAfter {tables' : PublicationTables} {row : ScheduleRow}
    (h : Prepared otherDocument call w) (hwrite : Published otherDocument tables call w tables')
    (hfound : findSchedule tables.schedules (.str call.identity.scheduleVersionId) = some row) :
    findSchedule tables'.schedules (.str call.identity.scheduleVersionId) =
      some ((call.transition w).apply row) := by
  rcases supersede_ok h hwrite.superseded with ⟨-, hschedules⟩ |
    ⟨current, previous, superseded, hsup, hschedules⟩
  · rw [hschedules, findSchedule_apply, hfound, Option.map_some]
  · rw [hschedules, findSchedule_apply, findSchedule_apply, hfound, Option.map_some,
      Option.map_some, ScheduleTransition.apply_other]
    rw [ScheduleTransition.apply_id, findSchedule_id hfound, hsup.id]
    exact fun heq => hsup.checked.distinct (Json.str.inj heq).symm

theorem Published.scheduleRecords {tables' : PublicationTables}
    (h : Prepared otherDocument call w)
    (hidentity : publicationIdentity call.command "SIMULATION" = .ok call.identity)
    (hwrite : Published otherDocument tables call w tables')
    (hreads : ReadsStored tables.schedules call (.committing w)) :
    ScheduleRecords otherDocument tables'.schedules call w.documents.auditEvent := by
  obtain ⟨moved, hmoved⟩ := hwrite.source
  obtain ⟨row, hrow, -, hsame⟩ := hreads.1
  obtain rfl : moved = row := Option.some.inj (hmoved.found.symm.trans hrow)
  have hcandidate : (call.transition w).candidate =
      moved.document.update (publishedFields call.identity call.context.occurredAtUtc) := by
    rw [hsame hmoved.revision]
    show w.documents.publishedSchedule = _
    rw [h.documents]
    rfl
  have hloaded := loadSchedule_update hmoved hcandidate (by
    show ∀ key ∈ ["state", "publication", "allowed_actions"], _
    decide)
  refine ⟨_, Published.sourceAfter h hwrite hrow, hloaded, ?_⟩
  rw [ScheduleTransition.apply_own (findSchedule_id hmoved.found)]
  show checkReplayedSchedule call.identity w.documents.auditEvent
    (some w.documents.publishedSchedule) = .ok ()
  obtain ⟨fingerprint, field, hfingerprint, -⟩ := h.sourceFingerprint hidentity
  have hpublication := h.published_new "publication" (by decide)
  have hstate := h.published_new "state" (by decide)
  have hkept := h.published_get "content_fingerprint" (by decide)
  rw [h.audit]
  simp only [checkReplayedSchedule, storedObject, bind_eq_ok, exists_unit_iff, require_eq_ok, pure,
    Except.pure, Except.ok.injEq]
  refine ⟨_, ⟨rfl, rfl⟩, _, ⟨rfl, rfl⟩, ⟨h.source.id, rfl, h.source.id, rfl, ?_, ?_⟩, _,
    ⟨?_, rfl⟩, ?_, ?_, ?_⟩
  · rw [hkept, hfingerprint]
    show ((w.source.document.get "content_fingerprint").pyEq _) = true
    rw [hfingerprint]
    exact (Json.pyEq_str _ _).mpr rfl
  · exact .inl hstate
  · rw [hpublication]
    rfl
  · rw [hpublication]
    rfl
  · rw [hpublication]
    rfl
  · rw [hpublication]
    rfl

/-- The version that a publication supersedes, as the command names it. -/
theorem Published.previousRecords {tables' : PublicationTables}
    (h : Prepared otherDocument call w)
    (hidentity : publicationIdentity call.command "SIMULATION" = .ok call.identity)
    (hwrite : Published otherDocument tables call w tables')
    (hreads : ReadsStored tables.schedules call (.committing w))
    (hrequested : requestedPrevious call.command ≠ .null) :
    PreviousRecords otherDocument tables'.schedules call.command w.documents.auditEvent := by
  rcases supersede_ok h hwrite.superseded with ⟨hnone, -⟩ |
    ⟨current, previous, superseded, hsup, hschedules⟩
  · rcases h.previousReference with ⟨hnull, -⟩ | ⟨reference, -, hcurrent, -⟩
    · exact absurd hnull hrequested
    · exact absurd hnone hcurrent
  · obtain ⟨row, hmoved, hrow, hkept, -, hloaded⟩ := hsup.moved hreads
    obtain ⟨fingerprint, field, hfingerprint, -⟩ := h.sourceFingerprint hidentity
    obtain ⟨hid, hexpected⟩ := versionReference_ok hsup.checked.requested
    have hid' : (requestedPrevious call.command).get "schedule_version_id" =
        .str current.scheduleVersionId := hid
    have hafter : findSchedule tables'.schedules
        ((requestedPrevious call.command).get "schedule_version_id") =
        some ((supersession superseded previous).apply row) := by
      rw [hid', hschedules, findSchedule_apply, findSchedule_apply, hrow, Option.map_some,
        Option.map_some, hkept]
    have hlink := hsup.new "superseded_by" (by decide)
    have hstate := hsup.new "state" (by decide)
    have hcontent : superseded.get "content_fingerprint" =
        .str current.state.contentFingerprint := by
      rw [hsup.document, Json.get_update_of_notMem (by rw [supersededFields_keys]; decide)]
      exact hsup.checked.fingerprint
    have hreference := scheduleReference_texts "PUBLISHED" h.source.id hfingerprint
    refine ⟨_, hafter, hloaded, ?_⟩
    rw [ScheduleTransition.apply_own (findSchedule_id hmoved.found)]
    show checkReplayedPrevious call.command w.documents.auditEvent (some superseded) = .ok ()
    have hnew : w.documents.auditEvent.get "new_version" =
        scheduleReference w.source.document "PUBLISHED" := by
      rw [h.audit]
      rfl
    have hexpected' : (requestedPrevious call.command).get "content_fingerprint" =
        .str current.state.contentFingerprint := hexpected
    simp only [checkReplayedPrevious, storedObject, bind_eq_ok, require_eq_ok, exists_unit_iff,
      pure, Except.pure, Except.ok.injEq]
    rw [hlink, hstate, hcontent, hnew, hexpected']
    refine ⟨_, ⟨rfl, rfl⟩, rfl, (Json.pyEq_str _ _).mpr rfl, ?_⟩
    show (scheduleReference w.source.document "PUBLISHED").pyEq _ = true
    rw [hreference]
    exact toJson_pyEq _

/-- **After its commit the evidence of a publication is recorded.** -/
theorem Published.recorded {tables' : PublicationTables} (h : Prepared otherDocument call w)
    (hidentity : publicationIdentity call.command "SIMULATION" = .ok call.identity)
    (hwrite : Published otherDocument tables call w tables')
    (hreads : ReadsStored tables.schedules call (.committing w)) :
    Recorded otherDocument tables' call w.documents.auditEvent (call.committed w) := by
  refine ⟨Published.auditRecords h hwrite, Published.scheduleRecords h hidentity hwrite hreads,
    Published.previousRecords h hidentity hwrite hreads, ?_⟩
  have hreplayed : ∃ replay, call.replayed w.documents.auditEvent = .ok replay ∧
      replay.document = publicationResult call.command call.identity w.references true
        (.str call.context.occurredAtUtc) ∧
      replay.publishedVersion = replay.document.get "published_version" ∧
      replay.supersededVersion = replay.document.get "superseded_version" := by
    simp only [PublicationCall.replayed, h.replay hidentity, bind_eq_ok, pure, Except.pure,
      Except.ok.injEq]
    exact ⟨_, ⟨_, rfl, rfl⟩, rfl, rfl, rfl⟩
  obtain ⟨replay, hreplay, hdocument, hpublished, hsuperseded⟩ := hreplayed
  rw [hdocument] at hpublished hsuperseded
  refine ⟨replay, hreplay, hpublished.trans ?_, hsuperseded.trans ?_⟩
  · show _ = w.documents.publicationResult.get "published_version"
    rw [h.result, publicationResult_published, publicationResult_published]
  · show _ = w.documents.publicationResult.get "superseded_version"
    rw [h.result, publicationResult_superseded, publicationResult_superseded]

end

end PlantNexus.Publishing
