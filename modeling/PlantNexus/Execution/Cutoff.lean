import PlantNexus.Execution.FactInvariant

/-! The cutoff of a projected snapshot.

A batch takes the latest of the cutoff of its document and of the occurrences of its events, and
writes it to the second. The starts and ends that the projected facts record are those of the base
together with those that the events report (`mem_recordedTimes`), and the document carries the
cutoff of the last urgent import. So the cutoff covers them exactly when each lies no later than
the whole second of one of these instants (`cutoff_covers_iff`). -/
namespace PlantNexus.Execution
open Data Domain Time Snapshot

/-! ### Recorded times -/

/-- The starts and ends that the facts record. -/
def recordedTimes (facts : List ExecutionFactRecord) : List String := facts.flatMap factTimes

theorem same_times {a b : ExecutionFactRecord} (h : a.Same b) : factTimes a = factTimes b := by
  rw [h.2.2]
  rfl

theorem factTimes_running {fact : ExecutionFactRecord} (h : fact.actualEndAtUtc = none) :
    factTimes fact = fact.actualStartAtUtc.toList := by
  rw [factTimes, h]
  exact List.append_nil _

namespace FactStep
variable {event : Json} {s s' : FactState}

/-- A recorded time was there or is one that the event reports. -/
theorem times_origin (h : FactStep event s s') {time : String}
    (hrecorded : time ∈ recordedTimes s'.facts) :
    time ∈ recordedTimes s.facts ∨ time ∈ reportedTimes event := by
  obtain ⟨fact, hfact, htime⟩ := List.mem_flatMap.mp hrecorded
  cases h with
  | quiet | locked | released => exact .inl (List.mem_flatMap.mpr ⟨fact, hfact, htime⟩)
  | reported _ _ _ _ hreported =>
    rcases FactState.mem_report_facts.mp hfact with ⟨hold, -⟩ | rfl
    · exact .inl (List.mem_flatMap.mpr ⟨fact, hold, htime⟩)
    · cases hreported with
      | started _ _ htimes | completed _ _ htimes => exact .inr (htimes ▸ htime)
      | continued _ hcurrent _ _ _ _ hstart hend =>
        refine .inl (List.mem_flatMap.mpr ⟨_, hcurrent, ?_⟩)
        rwa [factTimes, hstart, hend] at htime
  | imported himports =>
    obtain ⟨old, hold, hsame⟩ := himports.origin fact hfact
    exact .inl (List.mem_flatMap.mpr ⟨old, hold, same_times hsame ▸ htime⟩)

/-- The fact that a report replaces is of a running operation and hands on its start. -/
theorem replaced_times {o : Tracked} {fact old : ExecutionFactRecord} (hsound : s.Sound)
    (ho : o ∈ s.operations) (hreported : Reported event s o fact) (hold : old ∈ s.facts)
    (htarget : old.target = o.target) : ∀ time ∈ factTimes old, time ∈ factTimes fact := by
  have hstatus := (hsound.expanded.effective o ho old hold htarget).2
  have hsame : ∀ current ∈ s.facts, current.target = o.target → current = old :=
    fun current hcurrent htarget' => List.inj_on_of_nodup_map hsound.expanded.factTargets hcurrent
      hold (htarget'.trans htarget.symm)
  have hrunning : o.status = .running → ∀ time ∈ factTimes old,
      time ∈ old.actualStartAtUtc.toList := by
    intro hrunning time htime
    have hopen : old.status = .running := by
      cases hcases : old.status with
      | running => rfl
      | completed =>
        rw [hrunning, hcases] at hstatus
        cases hstatus
    rwa [factTimes_running ((hsound.wellFormed.timed old hold).2 hopen)] at htime
  intro time htime
  cases hreported with
  | started hnot =>
    rw [hnot] at hstatus
    cases hcases : old.status with
    | running | completed =>
      rw [hcases] at hstatus
      cases hstatus
  | completed hnot _ _ _ hcontinues =>
    have hopen : o.status = .running := by
      cases hcases : old.status with
      | running =>
        rw [hstatus, hcases]
        rfl
      | completed =>
        rw [hstatus, hcases] at hnot
        exact absurd rfl hnot
    obtain ⟨current, hcurrent, htarget', hstart⟩ := hcontinues hopen
    rw [hsame current hcurrent htarget'] at hstart
    rw [factTimes, ← hstart]
    exact List.mem_append_left _ (hrunning hopen time htime)
  | continued hopen hcurrent htarget' _ _ _ hstart =>
    rw [hsame _ hcurrent htarget'] at hstart
    rw [factTimes, hstart]
    exact List.mem_append_left _ (hrunning hopen time htime)

/-- No recorded time is lost, and those of the event are recorded. -/
theorem times_kept (h : FactStep event s s') (hsound : s.Sound) {time : String}
    (htime : time ∈ recordedTimes s.facts ∨ time ∈ reportedTimes event) :
    time ∈ recordedTimes s'.facts := by
  cases h with
  | quiet hnone | locked _ _ _ hnone | released _ _ hnone =>
    rw [hnone] at htime
    exact htime.resolve_right List.not_mem_nil
  | @reported o fact ho _ _ _ hreported =>
    have hnew : fact ∈ (s.report o fact).facts := FactState.mem_report_facts.mpr (.inr rfl)
    rcases htime with htime | htime
    · obtain ⟨old, hold, htime⟩ := List.mem_flatMap.mp htime
      by_cases htarget : old.target = o.target
      · exact List.mem_flatMap.mpr
          ⟨fact, hnew, replaced_times hsound ho hreported hold htarget time htime⟩
      · exact List.mem_flatMap.mpr
          ⟨old, FactState.mem_report_facts.mpr (.inl ⟨hold, htarget⟩), htime⟩
    · cases hreported with
      | started _ _ htimes | completed _ _ htimes =>
        exact List.mem_flatMap.mpr ⟨fact, hnew, htimes ▸ htime⟩
      | continued _ _ _ _ _ hnone =>
        rw [hnone] at htime
        cases htime
  | imported himports hnone =>
    rw [hnone] at htime
    obtain ⟨old, hold, htime⟩ := List.mem_flatMap.mp (htime.resolve_right List.not_mem_nil)
    obtain ⟨found, hfound, hsame⟩ := himports.facts old hold
    exact List.mem_flatMap.mpr ⟨found, hfound, same_times hsame ▸ htime⟩

end FactStep

/-! ### The cutoff of a document -/

/-- The cutoff that the last urgent import of a list of events carries. -/
def carriedCutoff (urgentSnapshots : List (String × PlanningSnapshot)) :
    String → List Json → String
  | cutoff, [] => cutoff
  | cutoff, event :: rest =>
    let next := if ExecutionEventType.ofText (event.get "event_type").text =
        some .urgentDemandReceived then
      ((dictValue urgentSnapshots (event.get "event_id").text).map
        PlanningSnapshot.cutoffAtUtc).getD cutoff
      else cutoff
    carriedCutoff urgentSnapshots next rest

section
variable {fullPrefix : List Json} {urgentSnapshots : List (String × PlanningSnapshot)}

theorem applyEvent_cutoff {document next : PlanningSnapshot} {event : Json}
    {urgent : Option PlanningSnapshot} {priorities : List UrgentPriorityFact}
    (h : applyEvent document fullPrefix event urgent = .ok (next, priorities)) :
    next.cutoffAtUtc = if ExecutionEventType.ofText (event.get "event_type").text =
        some .urgentDemandReceived then
      (urgent.map PlanningSnapshot.cutoffAtUtc).getD document.cutoffAtUtc
      else document.cutoffAtUtc := by
  rw [applyEvent] at h
  split at h
  · cases h
  · rename_i htype
    simp only [projectUrgentDemand, bind_eq_ok, pure, Except.pure, Except.ok.injEq, Prod.exists,
      Prod.mk.injEq] at h
    obtain ⟨_, _, ⟨candidate, hfound, _, -, rfl, -⟩, rfl, -⟩ := h
    rw [if_pos htype, found_ok hfound]
    rfl
  · rename_i type hurgent htype
    simp only [bind_eq_ok, pure, Except.pure, Except.ok.injEq, Prod.mk.injEq] at h
    obtain ⟨projected, hproject, rfl, -⟩ := h
    obtain ⟨records, instances, rfl, -⟩ := projectFact_shape hproject
    rw [htype, if_neg (fun heq => hurgent (Option.some.inj heq))]

theorem applyEvents_cutoff {document final : PlanningSnapshot} {events : List Json}
    {priorities : List UrgentPriorityFact}
    (h : applyEvents fullPrefix urgentSnapshots document events = .ok (final, priorities)) :
    final.cutoffAtUtc = carriedCutoff urgentSnapshots document.cutoffAtUtc events := by
  induction events generalizing document priorities with
  | nil =>
    injection h with h
    injection h with h
    rw [← h]
    rfl
  | cons event rest ih =>
    obtain ⟨next, first, others, happly, hrest, -⟩ := applyEvents_cons h
    rw [ih hrest, carriedCutoff, applyEvent_cutoff happly]

/-- **A batch records the times of the base and those that its events report**, and no others. -/
theorem mem_recordedTimes (hurgent : ∀ item ∈ urgentSnapshots, UrgentSnapshot item.2)
    {start document final : PlanningSnapshot} {events : List Json}
    {priorities : List UrgentPriorityFact} (hstate : RunState start document events)
    (h : applyEvents fullPrefix urgentSnapshots document events = .ok (final, priorities))
    {time : String} : time ∈ recordedTimes final.records.executionFacts ↔
      time ∈ recordedTimes document.records.executionFacts ∨
        time ∈ events.flatMap reportedTimes := by
  induction events generalizing document priorities with
  | nil =>
    injection h with h
    injection h with h
    rw [← h]
    exact ⟨.inl, fun htime => htime.resolve_right List.not_mem_nil⟩
  | cons event rest ih =>
    obtain ⟨next, first, others, happly, hrest, -⟩ := applyEvents_cons h
    have hstep := applyEvent_step hstate.sound.wellFormed (urgent_of_dictValue hurgent) happly
    rw [ih (RunState.next hurgent hstate happly) hrest, List.flatMap_cons, List.mem_append, ← or_assoc]
    refine or_congr_left ?_
    exact ⟨hstep.times_origin, hstep.times_kept hstate.sound⟩

end

/-! ### The latest instant -/

theorem truncateToSecond_mono {a b : Datetime} (h : a ≤ b) :
    a.truncateToSecond ≤ b.truncateToSecond := by
  rw [Datetime.le_iff] at h ⊢
  simp only [Datetime.truncateToSecond]
  omega

/-- The whole second of the latest instant is that of one of them and covers each. -/
theorem le_truncate_latest {instants : List Datetime} {first x : Datetime} :
    x ≤ (latest instants first).truncateToSecond ↔
      ∃ y ∈ first :: instants, x ≤ y.truncateToSecond := by
  induction instants generalizing first with
  | nil => simp [latest]
  | cons next rest ih =>
    have hunfold : latest (next :: rest) first =
        latest rest (if first < next then next else first) := rfl
    rw [hunfold, ih, List.exists_mem_cons_iff, List.exists_mem_cons_iff,
      List.exists_mem_cons_iff, ← or_assoc]
    refine or_congr_left ?_
    split
    · rename_i hlt
      exact ⟨.inr, fun h => h.elim (fun hx => hx.trans (truncateToSecond_mono hlt.le)) id⟩
    · rename_i hlt
      exact ⟨.inl, fun h => h.elim id
        (fun hx => hx.trans (truncateToSecond_mono (not_lt.mp hlt)))⟩

/-! ### Batches -/

/-- A cutoff is not earlier than any of the instants that the texts name. -/
def CutoffCovers (cutoff : String) (times : List String) : Prop :=
  ∀ instant, parseUtcInstant cutoff = .ok instant →
    ∀ time ∈ times, ∀ x, parseUtcInstant time = .ok x → x ≤ instant

/-- Each of the instants lies no later than the whole second of one of the others. -/
def WithinSecondOf (instants times : List String) : Prop :=
  ∀ time ∈ times, ∀ x, parseUtcInstant time = .ok x →
    ∃ text ∈ instants, ∃ y, parseUtcInstant text = .ok y ∧ x ≤ y.truncateToSecond

/-- The instants that a batch takes the latest of. -/
def cutoffTexts (urgentSnapshots : List (String × PlanningSnapshot)) (base : PlanningSnapshot)
    (tail : List Json) : List String :=
  carriedCutoff urgentSnapshots base.cutoffAtUtc tail ::
    tail.map fun event => (event.get "occurred_at_utc").text

variable {fullPrefix : List Json} {urgentSnapshots : List (String × PlanningSnapshot)}
  {base : PlanningSnapshot} {afterPosition : Nat} {scope : ProjectionScope}
  {batch : ProjectedFactBatch}

/-- The cutoff of a batch covers what lies within a second of the instants it is taken from. -/
theorem covers_batch
    (h : projectExecutionEventBatch base fullPrefix afterPosition scope urgentSnapshots =
      .ok batch) (times : List String) :
    CutoffCovers batch.document.cutoffAtUtc times ↔
      WithinSecondOf (cutoffTexts urgentSnapshots base (fullPrefix.drop afterPosition)) times := by
  simp only [projectExecutionEventBatch, bind_eq_ok, exists_unit_iff, Prod.exists, pure,
    Except.pure, Except.ok.injEq] at h
  obtain ⟨fingerprints, -, -, -, -, hash, -, -, document, priorities, happly, cutoff, hcutoff,
    occurred, hoccurred, rfl⟩ := h
  have hcarried := factUtc_ok hcutoff
  rw [Json.text, applyEvents_cutoff happly] at hcarried
  have hinstants : ∀ y, y ∈ cutoff :: occurred ↔
      ∃ text ∈ cutoffTexts urgentSnapshots base (fullPrefix.drop afterPosition),
        parseUtcInstant text = .ok y := by
    intro y
    rw [cutoffTexts, List.exists_mem_cons_iff, hcarried, List.mem_cons, Except.ok.injEq,
      mem_collect hoccurred]
    refine or_congr eq_comm ?_
    simp only [List.mem_map, exists_exists_and_eq_and]
    constructor
    · rintro ⟨event, hevent, hutc⟩
      exact ⟨event, hevent, factUtc_ok hutc⟩
    · rintro ⟨event, hevent, hparse⟩
      obtain ⟨y', hutc⟩ := (collect_isOk _ _).mp ⟨occurred, hoccurred⟩ event hevent
      rw [factUtc_ok hutc] at hparse
      exact ⟨event, hevent, Except.ok.inj hparse ▸ hutc⟩
  have hcovers : ∀ x, x ≤ (latest occurred cutoff).truncateToSecond ↔
      ∃ text ∈ cutoffTexts urgentSnapshots base (fullPrefix.drop afterPosition),
        ∃ y, parseUtcInstant text = .ok y ∧ x ≤ y.truncateToSecond := by
    intro x
    rw [le_truncate_latest]
    constructor
    · rintro ⟨y, hy, hx⟩
      obtain ⟨text, htext, hparse⟩ := (hinstants y).mp hy
      exact ⟨text, htext, y, hparse, hx⟩
    · rintro ⟨text, htext, y, hparse, hx⟩
      exact ⟨y, (hinstants y).mpr ⟨text, htext, hparse⟩, hx⟩
  simp only [CutoffCovers, WithinSecondOf, parseUtcInstant_formatUtcInstant, Except.ok.injEq,
    forall_eq', hcovers]

/-- The times that the facts of a projected snapshot record. -/
theorem batch_times (hbase : validatePlanningSnapshotV2 base = .ok ())
    (hexpanded : (FactState.of base).Expanded)
    (hurgent : ∀ item ∈ urgentSnapshots, UrgentSnapshot item.2)
    (hunused : ∀ event ∈ fullPrefix.drop afterPosition, ∀ fact ∈ base.records.executionFacts,
      fact.executionFactId ≠ factIdText event)
    (h : projectExecutionEventBatch base fullPrefix afterPosition scope urgentSnapshots =
      .ok batch) (time : String) :
    time ∈ base.cutoffAtUtc :: recordedTimes batch.document.records.executionFacts ↔
      time ∈ base.cutoffAtUtc :: recordedTimes base.records.executionFacts ++
        (fullPrefix.drop afterPosition).flatMap reportedTimes := by
  obtain ⟨⟨fingerprints, hprefix⟩, document, priorities, happly, hsame⟩ :=
    projectExecutionEventBatch_ok h
  have hfacts : batch.document.records.executionFacts = document.records.executionFacts :=
    congrArg FactState.facts hsame
  rw [hfacts, List.cons_append, List.mem_cons, List.mem_cons, List.mem_append,
    mem_recordedTimes hurgent (RunState.first hbase hexpanded hunused hprefix) happly]

/-- **The cutoff of a projected snapshot covers the cutoff of the base and every start and end
that the projected facts record exactly when** each of these, as the base and the events name
them, lies no later than the whole second of an occurrence or of the cutoff that the last
urgent import carries. -/
theorem cutoff_covers_iff (hbase : validatePlanningSnapshotV2 base = .ok ())
    (hexpanded : (FactState.of base).Expanded)
    (hurgent : ∀ item ∈ urgentSnapshots, UrgentSnapshot item.2)
    (hunused : ∀ event ∈ fullPrefix.drop afterPosition, ∀ fact ∈ base.records.executionFacts,
      fact.executionFactId ≠ factIdText event)
    (h : projectExecutionEventBatch base fullPrefix afterPosition scope urgentSnapshots =
      .ok batch) :
    CutoffCovers batch.document.cutoffAtUtc
        (base.cutoffAtUtc :: recordedTimes batch.document.records.executionFacts) ↔
      WithinSecondOf (cutoffTexts urgentSnapshots base (fullPrefix.drop afterPosition))
        (base.cutoffAtUtc :: recordedTimes base.records.executionFacts ++
          (fullPrefix.drop afterPosition).flatMap reportedTimes) := by
  have htimes := batch_times hbase hexpanded hurgent hunused h
  rw [covers_batch h]
  simp only [WithinSecondOf, htimes]

/-! ### A start within a second

An operation starts half a second after the cutoff, and the event that says so occurs then. -/

/-- 2026-01-01T00:00:00.5Z -/
def halfInstant : Datetime := ⟨63902822400500000, by decide, by decide⟩

def startedContent : EventContent where
  type := .operationStarted
  references := [("OPERATION", "O1"), ("RESOURCE", "R1")]
  payload := .obj [("kind", .str "OPERATION_STARTED"), ("operation_id", .str "O1"),
    ("resource_id", .str "R1"), ("actual_start_at_utc", .str "2026-01-01T00:00:00.500000Z")]
  position := 1
  occurredAtUtc := "2026-01-01T00:00:00.500000Z"

theorem startedContent_valid : startedContent.Valid halfInstant := by
  constructor
  all_goals decide +kernel

theorem started_batch :
    ∃ batch, projectExecutionEventBatch (factBase []) [sealEvent plainScope startedContent] 0
        plainScope [] = .ok batch := by
  obtain ⟨source, hsource⟩ := sealed_source plainScope startedContent
  obtain ⟨id, hid⟩ := sealed_factId startedContent
  obtain ⟨document, hproject⟩ : ∃ document, projectOperationStarted (factBase [])
      (sealEvent plainScope startedContent) = .ok document := by
    simp only [projectOperationStarted, bind_eq_ok, exists_unit_iff, require_eq_ok]
    exact ⟨_, _, rfl, by decide, ⟨rfl, rfl⟩, _, rfl, rfl, _, hid, _, hsource, rfl⟩
  obtain ⟨batch, hbatch, -⟩ := factBase_batch startedContent_valid rfl (by decide) hproject
  exact ⟨batch, hbatch⟩

theorem half_instant : parseUtcInstant "2026-01-01T00:00:00.500000Z" = .ok halfInstant := by
  decide +kernel

/-- The cutoff of the batch is half a second before the start that it records. -/
theorem cutoff_covers_iff_half :
    ∃ batch, projectExecutionEventBatch (factBase []) [sealEvent plainScope startedContent] 0
        plainScope [] = .ok batch ∧
      ¬ CutoffCovers batch.document.cutoffAtUtc
        ((factBase []).cutoffAtUtc :: recordedTimes batch.document.records.executionFacts) := by
  obtain ⟨batch, hbatch⟩ := started_batch
  refine ⟨batch, hbatch, ?_⟩
  rw [covers_batch hbatch]
  have hrecorded := (batch_times factBase_valid factBase_expanded (by simp) (factBase_unused _)
    hbatch "2026-01-01T00:00:00.500000Z").mpr (.tail _ (.head _))
  intro hwithin
  obtain ⟨text, htext, y, hparse, hle⟩ := hwithin _ hrecorded halfInstant half_instant
  -- both the cutoff of the base and the occurrence fall on the second before
  have htexts : text = "2026-01-01T00:00:00Z" ∨ text = "2026-01-01T00:00:00.500000Z" := by
    rcases List.mem_cons.mp htext with rfl | htext
    · exact .inl rfl
    · exact .inr (List.mem_singleton.mp htext)
  rcases htexts with rfl | rfl
  · rw [plain_instant, Except.ok.injEq] at hparse
    subst hparse
    exact absurd hle (by decide)
  · rw [half_instant, Except.ok.injEq] at hparse
    subst hparse
    exact absurd hle (by decide)

theorem cutoff_covers_iff_started :
    ∃ batch, projectExecutionEventBatch (factBase []) [sealEvent plainScope startedContent] 0
        plainScope [] = .ok batch ∧
      (CutoffCovers batch.document.cutoffAtUtc
          ((factBase []).cutoffAtUtc :: recordedTimes batch.document.records.executionFacts) ↔
        WithinSecondOf (cutoffTexts [] (factBase []) [sealEvent plainScope startedContent])
          ["2026-01-01T00:00:00Z", "2026-01-01T00:00:00.500000Z"]) := by
  obtain ⟨batch, hbatch⟩ := started_batch
  exact ⟨batch, hbatch, cutoff_covers_iff factBase_valid factBase_expanded (by simp)
    (factBase_unused _) hbatch⟩

end PlantNexus.Execution
