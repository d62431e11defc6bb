import PlantNexus.Freeze.Agreement

/-! The verdict of the precheck.

A projection passes when each of its nineteen fields equals the recomputed one, so a
document that differs anywhere from the projector's cannot pass
(`differs_not_pass`). The projector's own document passes whenever the precheck
recomputes it at all. -/
namespace PlantNexus.Freeze
open Data Time Domain Snapshot
open Problem (ImmutablePlanningProblemV2)

/-! ### Documents with distinct keys -/

theorem wellFormed_source (s : SourceReference) : s.toJson.WellFormed := by
  simp [SourceReference.toJson, Json.WellFormed, Json.WellFormedMembers]

theorem wellFormed_quantity (q : Quantity) : q.toJson.WellFormed := by
  cases q <;> simp [Quantity.toJson, Json.WellFormed]

theorem wellFormed_evidence (e : FactEvidence) : e.toJson.WellFormed := by
  have hsource := wellFormed_source e.source
  have hquantity := fun q => wellFormed_quantity q
  unfold FactEvidence.toJson
  cases e.actualEndAtUtc <;> cases e.remainingQuantity <;> cases e.remainingSeconds <;>
    cases e.completedQuantity <;>
    simp [Problem.optionalMember, Json.WellFormed, Json.WellFormedMembers, hsource, hquantity]

theorem wellFormed_protection (p : Protection) : p.toJson.WellFormed := by
  have hsource := fun s => wellFormed_source s
  have hevidence := fun e => wellFormed_evidence e
  unfold Protection.toJson
  cases p.source <;> cases p.factEvidence <;>
    simp [Problem.optionalMember, Json.WellFormed, Json.WellFormedMembers, hsource, hevidence]

theorem wellFormed_protections (ps : List Protection) :
    (EffectiveLocks.protections ps).WellFormed :=
  Json.wellFormed_arr_map _ _ fun p _ => wellFormed_protection p

theorem wellFormed_derivedLock (l : DerivedLock) (h : l.base.scheduleVersionId.WellFormed) :
    l.toJson.WellFormed := by
  simp [DerivedLock.toJson, SourceReference.toJson, Json.WellFormed, Json.WellFormedMembers, h]

theorem wellFormed_resolution (r : ResolvedFreezePolicy) (ids : List String) :
    (r.document ids).WellFormed := by
  have hsource := wellFormed_source r.source
  simp [ResolvedFreezePolicy.document, Json.WellFormed, Json.WellFormedMembers, hsource,
    Json.wellFormed_strings]

/-- The schedule a document and its derived locks refer to is a text. -/
structure TextReference (d : EffectiveLocks) : Prop where
  base : ∃ id, d.base.scheduleVersionId = .str id
  derived : ∀ l ∈ d.freezeDerivedHardLocks, ∃ id, l.base.scheduleVersionId = .str id

theorem wellFormed_checkedFields (d : EffectiveLocks) (h : TextReference d) :
    ∀ f ∈ d.checkedFields, f.2.2.WellFormed := by
  obtain ⟨id, hid⟩ := h.base
  have hderived : (Json.arr (d.freezeDerivedHardLocks.map DerivedLock.toJson)).WellFormed := by
    apply Json.wellFormed_arr_map
    intro l hl
    obtain ⟨lockBase, hlock⟩ := h.derived l hl
    exact wellFormed_derivedLock l (hlock ▸ trivial)
  intro f hf
  simp only [EffectiveLocks.checkedFields, List.mem_cons, List.not_mem_nil, or_false] at hf
  rcases hf with rfl | rfl | rfl | rfl | rfl | rfl | rfl | rfl | rfl | rfl | rfl | rfl | rfl | rfl |
    rfl
  · simp [Json.WellFormed, Json.WellFormedMembers, hid]
  · simp [Json.WellFormed, Json.WellFormedMembers]
  · simp [Json.WellFormed, Json.WellFormedMembers]
  · simp [ResolvedFreezePolicy.policyReference, Json.WellFormed, Json.WellFormedMembers]
  · exact wellFormed_resolution _ _
  · exact Json.wellFormed_strings _
  · exact Json.wellFormed_strings _
  · exact Json.wellFormed_strings _
  · exact wellFormed_protections _
  · exact Json.wellFormed_strings _
  · exact Json.wellFormed_strings _
  · exact wellFormed_protections _
  · exact wellFormed_protections _
  · exact hderived
  · exact wellFormed_protections _

/-! ### Fields of a projection document -/

/-- A member of a document is found under its key. -/
theorem get_checkedField (d : EffectiveLocks) :
    ∀ f ∈ d.checkedFields, (Json.obj d.members).get f.2.1 = f.2.2 := by
  intro f hf
  simp only [EffectiveLocks.checkedFields, List.mem_cons, List.not_mem_nil, or_false] at hf
  rcases hf with rfl | rfl | rfl | rfl | rfl | rfl | rfl | rfl | rfl | rfl | rfl | rfl | rfl | rfl |
    rfl <;> rfl

theorem get_header (d : EffectiveLocks) :
    ∀ m ∈ EffectiveLocks.header, (Json.obj d.members).get m.1 = m.2 := by
  intro m hm
  simp only [EffectiveLocks.header, List.mem_cons, List.not_mem_nil, or_false] at hm
  rcases hm with rfl | rfl | rfl <;> rfl

theorem get_fingerprint (d : EffectiveLocks) :
    (Json.obj d.members).get "projection_fingerprint" = .str d.projectionFingerprint := rfl

theorem withoutSelf_members (d : EffectiveLocks) :
    d.members.filter (fun m => m.1 ≠ "projection_fingerprint") = d.membersWithoutSelf := by
  rfl

theorem keys_members (d : EffectiveLocks) : (Json.obj d.members).keys = rootFields := rfl

/-! ### The violations -/

theorem whenDifferent_eq_nil (checkId field : String) (observed expected : Json) :
    whenDifferent checkId field observed expected = [] ↔ observed.pyEq expected = true := by
  unfold whenDifferent
  split <;> simp_all

theorem projectionViolations_eq_nil (projection : List (String × Json))
    (expected : EffectiveLocks) :
    projectionViolations projection expected = [] ↔
      SameSet (Json.obj projection).keys rootFields ∧
        (∀ f ∈ expected.checkedFields,
          ((Json.obj projection).get f.2.1).pyEq f.2.2 = true) ∧
        (Json.obj (EffectiveLocks.header.map fun m => (m.1, (Json.obj projection).get m.1))).pyEq
          (.obj EffectiveLocks.header) = true ∧
        ((Json.obj projection).get "projection_fingerprint").pyEq
          (.str (contractFingerprint
            (.obj (projection.filter fun m => m.1 ≠ "projection_fingerprint")))) = true ∧
        ((Json.obj projection).get "projection_fingerprint").pyEq
          (.str expected.projectionFingerprint) = true := by
  simp only [projectionViolations, List.append_eq_nil_iff, List.flatMap_eq_nil_iff,
    whenDifferent_eq_nil, and_assoc]
  refine and_congr_left fun _ => ?_
  by_cases hkeys : SameSet (Json.obj projection).keys rootFields
  · simp [hkeys]
  · simp [hkeys]

/-- A header that equals the expected one does so field by field. -/
theorem header_fields (value : Json)
    (h : (Json.obj (EffectiveLocks.header.map fun m => (m.1, value.get m.1))).pyEq
      (.obj EffectiveLocks.header) = true) :
    ∀ m ∈ EffectiveLocks.header, (value.get m.1).pyEq m.2 = true := by
  intro m hm
  simp only [EffectiveLocks.header, List.map_cons, List.map_nil, Json.pyEq, Json.pyEqMembers,
    List.length_cons, List.length_nil, beq_self_eq_true, Bool.true_and, Bool.and_true,
    Bool.and_eq_true] at h hm
  simp [List.find?] at h
  simp only [List.mem_cons, List.not_mem_nil, or_false] at hm
  rcases hm with rfl | rfl | rfl
  · exact h.1
  · exact h.2.1
  · exact h.2.2

theorem validate_eq_ok (otherDocument : String → Json → Except P4ContractError Unit)
    (snapshot : ImmutablePlanningSnapshot) (problem : ImmutablePlanningProblemV2)
    (base policy : Json) (projection : List (String × Json)) :
    (∃ report,
      validateFreezeWindowProjection otherDocument snapshot problem base policy projection =
        .ok report ∧ report.status = .pass) ↔
      ∃ expected,
        Precheck.expectedProjection otherDocument snapshot problem base policy = .ok expected ∧
          projectionViolations projection expected = [] := by
  have hsorted : ∀ violations : List PrecheckViolation,
      sortByKey (fun v => toLex (v.checkId, v.field)) violations = [] ↔ violations = [] := by
    intro violations
    rw [← List.length_eq_zero_iff, length_sortByKey, List.length_eq_zero_iff]
  simp only [validateFreezeWindowProjection, bind_eq_ok, pure, Except.pure, Except.ok.injEq]
  constructor
  · intro hall
    obtain ⟨report, ⟨expected, hexpected, hreport⟩, hpass⟩ := hall
    subst hreport
    refine ⟨expected, hexpected, (hsorted _).mp ?_⟩
    by_contra hne
    simp [precheckReport, hne] at hpass
  · intro hall
    obtain ⟨expected, hexpected, hnil⟩ := hall
    refine ⟨_, ⟨expected, hexpected, rfl⟩, ?_⟩
    simp [precheckReport, (hsorted _).mpr hnil]

/-! ### The verdict on a projection -/

/-- A document differs from a projection: another set of fields, or another value in one
of them. -/
def DiffersFrom (document : List (String × Json)) (projection : EffectiveLocks) : Prop :=
  ¬SameSet (Json.obj document).keys rootFields ∨
    ∃ field ∈ rootFields,
      ((Json.obj document).get field).pyEq ((Json.obj projection.members).get field) = false

/-- **Without violations a document equals the expected one in every field.** -/
theorem not_differs_of_nil (document : List (String × Json)) (expected : EffectiveLocks)
    (h : projectionViolations document expected = []) : ¬DiffersFrom document expected := by
  obtain ⟨hkeys, hfields, hheader, -, hfingerprint⟩ := (projectionViolations_eq_nil ..).mp h
  intro hdiffers
  cases hdiffers with
  | inl hne => exact hne hkeys
  | inr hfield =>
    obtain ⟨field, hfield, hne⟩ := hfield
    have hheader' := header_fields _ hheader
    have hall : ∀ field ∈ rootFields,
        ((Json.obj document).get field).pyEq ((Json.obj expected.members).get field) = true := by
      intro field hmem
      have hsplit : rootFields = EffectiveLocks.header.map Prod.fst ++
          expected.checkedFields.map (fun f => f.2.1) ++ ["projection_fingerprint"] := rfl
      rw [hsplit, List.mem_append, List.mem_append, List.mem_map, List.mem_map,
        List.mem_singleton] at hmem
      rcases hmem with (⟨m, hm, rfl⟩ | ⟨f, hf, rfl⟩) | rfl
      · rw [get_header expected m hm]
        exact hheader' m hm
      · rw [get_checkedField expected f hf]
        exact hfields f hf
      · exact hfingerprint
    rw [hall field hfield] at hne
    cases hne

/-- **The recomputed document has no violation against itself.** -/
theorem violations_self (d : EffectiveLocks) (h : TextReference d) :
    projectionViolations d.members d = [] := by
  have hstr : ∀ text : String, (Json.str text).pyEq (.str text) = true :=
    fun text => Json.pyEq_refl _ trivial
  rw [projectionViolations_eq_nil]
  refine ⟨⟨fun _ hx => hx, fun _ hx => hx⟩, ?_, ?_, ?_, hstr _⟩
  · intro f hf
    rw [get_checkedField d f hf]
    exact Json.pyEq_refl _ (wellFormed_checkedFields d h f hf)
  · exact Json.pyEq_refl (.obj EffectiveLocks.header)
      (by simp [EffectiveLocks.header, Json.WellFormed, Json.WellFormedMembers])
  · rw [get_fingerprint, withoutSelf_members]
    exact hstr _

/-- The derived locks of a classification refer to its base schedule. -/
theorem classify_base (i : Projector.Inputs) (projection : EffectiveLocks)
    (h : Projector.classify i = .ok projection) :
    projection.base = i.base ∧ ∀ l ∈ projection.freezeDerivedHardLocks, l.base = i.base := by
  simp only [Projector.classify, bind_eq_ok, exists_unit_iff, pure, Except.pure,
    Except.ok.injEq] at h
  obtain ⟨-, -, completed, -, -, running, -, locks, -, -, window, hwindow, hout⟩ := h
  subst hout
  refine ⟨rfl, fun l hl => ?_⟩
  have hinv : ∀ l ∈ window.derived, l.base = i.base := by
    refine foldlM_invariant (fun state => ∀ l ∈ state.derived, l.base = i.base) ?_ hwindow
      (by simp)
    intro state a _ state' hstate hstep l hl
    unfold Projector.windowAssignment at hstep
    dsimp only at hstep
    split at hstep
    · injection hstep with hstep
      exact hstate l (hstep ▸ hl)
    · split at hstep
      · cases hstep
      · simp only [bind_eq_ok, exists_unit_iff] at hstep
        obtain ⟨start, -, -, -, -, hstep⟩ := hstep
        split at hstep
        · injection hstep with hstep
          subst hstep
          exact hstate l hl
        · simp only [bind_eq_ok, exists_unit_iff, pure, Except.pure, Except.ok.injEq] at hstep
          obtain ⟨-, -, hstep⟩ := hstep
          subst hstep
          cases List.mem_append.mp hl with
          | inl hold => exact hstate l hold
          | inr hnew =>
            rw [List.mem_singleton] at hnew
            subst hnew
            rfl
  exact hinv l ((mem_sortByKey ..).mp hl)

theorem project_textReference (otherDocument : String → Json → Except P4ContractError Unit)
    (snapshot : ImmutablePlanningSnapshot) (problem : ImmutablePlanningProblemV2)
    (base policy : Json) (projection : EffectiveLocks)
    (h : projectEffectiveLocks otherDocument snapshot problem base policy = .ok projection) :
    TextReference projection := by
  obtain ⟨i, hi, hclassify⟩ := project_ok _ _ _ _ _ _ h
  obtain ⟨-, ⟨scheduleId, hid, -⟩, -, -⟩ := (requireBaseSchedule_eq_ok ..).mp hi.base_ok
  obtain ⟨hbase, hderived⟩ := classify_base i projection hclassify
  have htext : i.base.scheduleVersionId = .str scheduleId := by
    rw [hi.same.2.2]
    exact hid
  exact ⟨⟨scheduleId, by rw [hbase, htext]⟩,
    fun l hl => ⟨scheduleId, by rw [hderived l hl, htext]⟩⟩

/-- **The precheck passes the projector's document, and no document that differs from it,
exactly when every base assignment lasts a whole number of ticks.** -/
theorem precheck_agrees_iff (otherDocument : String → Json → Except P4ContractError Unit)
    (snapshot : ImmutablePlanningSnapshot) (problem : ImmutablePlanningProblemV2)
    (base policy : Json) (projection : EffectiveLocks)
    (hproject :
      projectEffectiveLocks otherDocument snapshot problem base policy = .ok projection) :
    ((∃ report,
        validateFreezeWindowProjection otherDocument snapshot problem base policy
          projection.members = .ok report ∧ report.status = .pass) ∧
      ∀ document, DiffersFrom document projection →
        ¬∃ report,
          validateFreezeWindowProjection otherDocument snapshot problem base policy document =
            .ok report ∧ report.status = .pass) ↔
      BaseDurationsOnGrid base problem.document.tickSeconds := by
  have hexpected := fun expected =>
    expected_iff_onGrid otherDocument snapshot problem base policy projection expected hproject
  simp only [validate_eq_ok, hexpected]
  constructor
  · intro hall
    obtain ⟨⟨_, ⟨hgrid, _⟩, _⟩, _⟩ := hall
    exact hgrid
  · intro hgrid
    constructor
    · exact ⟨projection, ⟨hgrid, rfl⟩,
        violations_self projection (project_textReference _ _ _ _ _ _ hproject)⟩
    · intro document hdiffers ⟨expected, ⟨_, heq⟩, hnil⟩
      subst heq
      exact not_differs_of_nil document expected hnil hdiffers

/-! ### A duration off the grid -/

/-- A published base schedule of the first version with the given content. -/
def plainBase (content : Json) : Json :=
  .obj
    [("schedule_version_version", .str "schedule-version.v1"),
     ("schema_set_version", .str "2.6.0"),
     ("canonicalization_version", .str "canonical-json.v1"),
     ("schedule_version_id", .str "SV1"), ("state", .str "PUBLISHED"),
     ("data_plane", .str "SIMULATION"), ("environment", .str "TEST"), ("synthetic", .bool true),
     ("content", content), ("content_fingerprint", .str (contractFingerprint content)),
     ("lineage", .obj [("validation_report", .obj [])]),
     ("validation", .obj [("validation_report", .obj [])])]

/-- A plain base schedule is published, as long as its content names no secret. -/
theorem plainBase_ok (otherDocument : String → Json → Except P4ContractError Unit)
    (members : List (String × Json))
    (hsecret : checkNoSecretKeys "$.content" (.obj members) = .ok ()) :
    Projector.requireBaseSchedule otherDocument (plainBase (.obj members)) = .ok () := by
  have hstr : ∀ text : String, (Json.str text).pyEq (.str text) = true :=
    fun text => Json.pyEq_refl _ trivial
  have hcontent : (plainBase (.obj members)).get "content" = .obj members := rfl
  have hfingerprint : (plainBase (.obj members)).get "content_fingerprint" =
      .str (contractFingerprint (.obj members)) := rfl
  have hcontract : requireWorkspaceSchedule (plainBase (.obj members)) = .ok () := by
    simp only [requireWorkspaceSchedule, precheckSchedule, workspaceMapping, workspaceEqual,
      bind_eq_ok, exists_unit_iff, require_eq_ok, hcontent, hfingerprint, pure, Except.pure,
      Except.ok.injEq]
    refine ⟨rfl, rfl, rfl, ⟨rfl, _, ⟨rfl, rfl⟩, hstr _, _, ⟨rfl, rfl⟩, _, ⟨rfl, rfl⟩, rfl⟩, ?_⟩
    have hsecret' : checkNoSecretKeys (toString "$" ++ toString "." ++ toString "content")
        (.obj members) = .ok () := hsecret
    simp only [plainBase, checkNoSecretKeys, checkNoSecretMembers] at hsecret' ⊢
    simp only [hsecret', bind_unit_eq_ok, require_eq_ok]
    decide +kernel
  rw [requireBaseSchedule_eq_ok]
  refine ⟨?_, ⟨"SV1", rfl, by decide +kernel⟩, rfl, rfl, rfl, rfl⟩
  have hversion : ((plainBase (.obj members)).get "schedule_version_version").pyEq
      (.str "schedule-version.v1") = true := rfl
  simp only [Projector.requireBaseContract, hversion, if_true, hcontract, orReject]

/-- The first operation of the plain problem on the plain machine, in the given ticks. -/
def plainAssignment (operationId startAtUtc endAtUtc : String)
    (startTick endTick seconds : Int) : Json :=
  .obj
    [("operation_id", .str operationId), ("resource_id", .str "R1"),
     ("start_tick", .int startTick), ("end_tick", .int endTick),
     ("duration_ticks", .int (endTick - startTick)), ("start_at_utc", .str startAtUtc),
     ("end_at_utc", .str endAtUtc), ("duration_seconds", .int seconds), ("lock_ids", .arr []),
     ("execution_fact_ids", .arr [])]

/-- One operation of a hundred seconds. -/
def offGridSnapshot : PlanningSnapshot :=
  plainSnapshot (plainRecords 100 ["LOT1"]) [plainInstance 100 "O1" "LOT1"]

/-- Its problem, in ticks of a minute. -/
def offGridProblem : Problem.PlanningProblem :=
  { Problem.plainProblem with
    snapshotId := (sealSnapshot offGridSnapshot).snapshotId
    operationInstances :=
      [{ Problem.plainOperation "O1" with
         resourceOptions := [⟨"R1", 0, 100, 100, "STANDARD", "1"⟩] }] }

/-- The published schedule runs the operation in the first two ticks. -/
def offGridBase : Json :=
  plainBase
    (.obj
      [("assignments",
        .arr [plainAssignment "O1" "2026-01-01T00:00:00Z" "2026-01-01T00:02:00Z" 0 2 100])])

/-- A problem stored under its content-derived identity. -/
def storedProblem (problem : Problem.PlanningProblem) : ImmutablePlanningProblemV2 :=
  ⟨Problem.sealProblem problem, Problem.problemV2HashFor problem, problem.snapshotId,
    problem.problemBuilderVersion⟩

/-- No document but a policy or a schedule is accepted. -/
def noOtherDocument (version : String) (_ : Json) : Except P4ContractError Unit :=
  .error ⟨.unknownDocument, "$", version⟩

/-- What the projector reads of documents of the plain calendar day. -/
def plainInputs (snapshot : ImmutablePlanningSnapshot) (problem : ImmutablePlanningProblemV2)
    (base : Json) (cutoff freezeEnd horizonEnd : Datetime) (assignments : List BaseAssignment) :
    Projector.Inputs where
  snapshot := snapshot
  problem := problem
  base := baseReference base
  resolved :=
    Precheck.policyResolution simulationReplanPolicy simulationFreezeWindowSeconds
      snapshot.document.cutoffAtUtc ⟨freezeEnd, true⟩
  cutoff := ⟨cutoff, true⟩
  freezeEnd := ⟨freezeEnd, true⟩
  horizonEnd := ⟨horizonEnd, true⟩
  assignments := assignments

theorem offGridSnapshot_ok : verifySnapshot (sealSnapshot offGridSnapshot) = .ok () := by
  rw [verifySnapshot_eq_ok]
  exact verified_seal _ rfl (plainSnapshot_canonical (by decide +kernel) (by decide +kernel))
    (plainSnapshot_valid (by decide +kernel) (by decide +kernel))

theorem offGridProblem_ok :
    Problem.verifyProblemV2 (storedProblem offGridProblem) = .ok () :=
  Problem.verifyProblemV2_seal _ rfl (by decide +kernel)

/-- The instants of the plain day. -/
def plainInstant (text : String) : Datetime :=
  match parseUtcInstant text with
  | .ok d => d
  | .error _ => ⟨0, by decide, by decide⟩

def offGridAssignment : BaseAssignment :=
  readAssignment (plainAssignment "O1" "2026-01-01T00:00:00Z" "2026-01-01T00:02:00Z" 0 2 100) "O1"
    100 0 2 2

def offGridInputs : Projector.Inputs :=
  plainInputs (sealSnapshot offGridSnapshot) (storedProblem offGridProblem) offGridBase
    (plainInstant "2026-01-01T00:00:00Z") (plainInstant "2026-01-01T00:15:00Z")
    (plainInstant "2026-01-01T04:00:00Z") [offGridAssignment]

/-- A text that reads as an aware moment of the given microsecond. -/
theorem utcMoment_of_micros (text : String) (d : Datetime)
    (h : (utcMoment text).toOption.map (fun m => (m.instant.micros, m.aware)) =
      some (d.micros, true)) : utcMoment text = .ok ⟨d, true⟩ := by
  cases hread : utcMoment text with
  | error e =>
    rw [hread] at h
    cases h
  | ok m =>
    obtain ⟨instant, aware⟩ := m
    rw [hread] at h
    simp only [Except.toOption, Option.map_some, Option.some.injEq, Prod.mk.injEq] at h
    rw [Datetime.ext_micros h.1, h.2]

theorem offGridInputs_ok :
    ProjectorInputs noOtherDocument (sealSnapshot offGridSnapshot) (storedProblem offGridProblem)
      offGridBase simulationReplanPolicy offGridInputs where
  snapshot_ok := offGridSnapshot_ok
  problem_ok := offGridProblem_ok
  base_ok := plainBase_ok _ _ (by decide +kernel)
  policy_ok := ⟨_, approvedPolicy_ok _⟩
  approved := approvedPolicy_self
  plane := rfl
  lineage := ⟨rfl, rfl⟩
  cutoff := utcMoment_of_micros _ _ (by decide +kernel)
  horizonEnd := utcMoment_of_micros _ _ (by decide +kernel)
  window :=
    ⟨simulationFreezeWindowSeconds, plainInstant "2026-01-01T00:15:00Z", rfl, by decide,
      by decide +kernel, rfl, rfl⟩
  assignments := rfl
  same := ⟨rfl, rfl, rfl⟩

theorem offGrid_projected : ∃ projection,
    projectEffectiveLocks noOtherDocument (sealSnapshot offGridSnapshot)
      (storedProblem offGridProblem) offGridBase simulationReplanPolicy = .ok projection := by
  rw [project_of_inputs _ _ _ _ _ offGridInputs_ok rfl]
  have hok : (Projector.classify offGridInputs).isOk = true := by decide +kernel
  cases h : Projector.classify offGridInputs with
  | error e =>
    rw [h] at hok
    cases hok
  | ok projection => exact ⟨projection, rfl⟩

theorem offGrid_not_onGrid :
    ¬BaseDurationsOnGrid offGridBase (storedProblem offGridProblem).document.tickSeconds := by
  intro h
  obtain ⟨duration, hduration, hdvd⟩ := h _ (List.mem_singleton_self _)
  have hseconds : duration = 100 := by
    injection hduration with hduration
    exact hduration.symm
  subst hseconds
  exact absurd hdvd (by decide)

/-- The projector protects an operation of a hundred seconds in two ticks of a minute, and
the precheck does not pass its projection. -/
theorem offGrid_not_passed : ∃ projection,
    projectEffectiveLocks noOtherDocument (sealSnapshot offGridSnapshot)
        (storedProblem offGridProblem) offGridBase simulationReplanPolicy = .ok projection ∧
      ¬∃ report,
        validateFreezeWindowProjection noOtherDocument (sealSnapshot offGridSnapshot)
          (storedProblem offGridProblem) offGridBase simulationReplanPolicy
          projection.members = .ok report ∧ report.status = .pass := by
  obtain ⟨projection, hproject⟩ := offGrid_projected
  refine ⟨projection, hproject, fun hpass => ?_⟩
  obtain ⟨expected, hexpected, -⟩ := (validate_eq_ok ..).mp hpass
  exact offGrid_not_onGrid ((expected_iff_onGrid _ _ _ _ _ _ _ hproject).mp hexpected).1

/-- On that input a precheck would have to pass a duration off the grid. -/
theorem precheck_agrees_offGrid : ∃ projection,
    projectEffectiveLocks noOtherDocument (sealSnapshot offGridSnapshot)
        (storedProblem offGridProblem) offGridBase simulationReplanPolicy = .ok projection ∧
      (((∃ report,
          validateFreezeWindowProjection noOtherDocument (sealSnapshot offGridSnapshot)
            (storedProblem offGridProblem) offGridBase simulationReplanPolicy
            projection.members = .ok report ∧ report.status = .pass) ∧
        ∀ document, DiffersFrom document projection →
          ¬∃ report,
            validateFreezeWindowProjection noOtherDocument (sealSnapshot offGridSnapshot)
              (storedProblem offGridProblem) offGridBase simulationReplanPolicy document =
              .ok report ∧ report.status = .pass) ↔
        BaseDurationsOnGrid offGridBase (storedProblem offGridProblem).document.tickSeconds) := by
  obtain ⟨projection, hproject⟩ := offGrid_projected
  exact ⟨projection, hproject, precheck_agrees_iff _ _ _ _ _ _ hproject⟩

end PlantNexus.Freeze
