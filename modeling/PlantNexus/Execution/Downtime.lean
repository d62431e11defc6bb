import PlantNexus.Data.Reordering
import PlantNexus.Execution.Lineage
import PlantNexus.Execution.Machines
import PlantNexus.Expansion.Completeness
import PlantNexus.Reporting.KpiClosure

/-! Downtimes, from the events that report them to the schedule.

A stream of events says for which intervals its machines were down: an unavailability that comes
with its end, or one without and the recovery that follows it (`downtimes`). Projecting the stream
adds these intervals to the calendars and takes none away (`applyEvents_calendars`), so the problem
that is built afterwards bars a resource exactly from its own calendar and from the downtimes of
the machines that share it, and no schedule that passes uses it in between
(`downtime_respected`). -/
namespace PlantNexus.Execution
open Data Domain Time Snapshot Problem Validation

/-! ### What a stream reports -/

/-- An interval in which the events say that a machine was down. -/
structure Downtime where
  resourceId : String
  startAtUtc : String
  endAtUtc : String
deriving DecidableEq, Repr

/-- The downtime that an event closes, after the events before it. -/
def closedDowntime (before : List Json) (event : Json) : Option Downtime :=
  let payload := event.get "payload"
  let resourceId := (payload.get "resource_id").text
  match eventType event with
  | some .machineUnavailable =>
    if payload.get "unavailable_until_utc" = .null then none
    else some ⟨resourceId, (payload.get "unavailable_from_utc").text,
      (payload.get "unavailable_until_utc").text⟩
  | some .machineRecovered =>
    (openUnavailability resourceId before).map fun openEvent =>
      ⟨resourceId, ((openEvent.get "payload").get "unavailable_from_utc").text,
        (payload.get "available_from_utc").text⟩
  | _ => none

/-- The downtimes that events close, in the order in which they close them. -/
def downtimes (before : List Json) : List Json → List Downtime
  | [] => []
  | event :: rest => (closedDowntime before event).toList ++ downtimes (before ++ [event]) rest

/-- The calendar of a resource. -/
def calendarIdOf (document : PlanningSnapshot) (resourceId : String) : Option String :=
  (resource? document resourceId).map ResourceRecord.calendarId

/-- The intervals of a calendar, by their ends. -/
def calendarSpans (calendar : CalendarRecord) : List (String × String) :=
  calendar.unavailableIntervals.map fun i => (i.startAtUtc, i.endAtUtc)

def spansOf (document : PlanningSnapshot) (calendarId : String) :
    Option (List (String × String)) :=
  (calendar? document calendarId).map calendarSpans

/-- The downtimes of the machines that have a calendar. -/
def downOn (document : PlanningSnapshot) (calendarId : String) (downs : List Downtime) :
    List (String × String) :=
  (downs.filter fun d => calendarIdOf document d.resourceId = some calendarId).map fun d =>
    (d.startAtUtc, d.endAtUtc)

theorem downOn_append (document : PlanningSnapshot) (calendarId : String)
    (downs downs' : List Downtime) :
    downOn document calendarId (downs ++ downs') =
      downOn document calendarId downs ++ downOn document calendarId downs' := by
  rw [downOn, List.filter_append, List.map_append]
  rfl

theorem mem_downOn {document : PlanningSnapshot} {calendarId : String} {downs : List Downtime}
    {x : String × String} : x ∈ downOn document calendarId downs ↔
      ∃ d ∈ downs, calendarIdOf document d.resourceId = some calendarId ∧
        x = (d.startAtUtc, d.endAtUtc) := by
  simp only [downOn, List.mem_map, List.mem_filter, decide_eq_true_eq, and_assoc,
    eq_comm (b := x)]

theorem downOn_own {document : PlanningSnapshot} {calendarId : String} {d : Downtime}
    (h : calendarIdOf document d.resourceId = some calendarId) :
    downOn document calendarId [d] = [(d.startAtUtc, d.endAtUtc)] := by
  rw [downOn, List.filter_cons, if_pos (decide_eq_true h)]
  rfl

theorem downOn_other {document : PlanningSnapshot} {calendarId : String} {d : Downtime}
    (h : calendarIdOf document d.resourceId ≠ some calendarId) :
    downOn document calendarId [d] = [] := by
  rw [downOn, List.filter_cons, if_neg (by simpa using h)]
  rfl

/-! ### One event -/

/-- A document whose resources are where they were and whose calendars grew by downtimes. -/
structure Grown (document document' : PlanningSnapshot) (downs : List Downtime) : Prop where
  places : ∀ id, calendarIdOf document' id = calendarIdOf document id
  spans : ∀ id, spansOf document' id =
    (spansOf document id).map fun spans => spans ++ downOn document id downs

theorem Grown.downOn_eq {document document' : PlanningSnapshot} {downs : List Downtime}
    (h : Grown document document' downs) (calendarId : String) (later : List Downtime) :
    downOn document' calendarId later = downOn document calendarId later := by
  simp only [downOn, h.places]

theorem Grown.trans {a b c : PlanningSnapshot} {downs downs' : List Downtime}
    (h : Grown a b downs) (h' : Grown b c downs') : Grown a c (downs ++ downs') := by
  refine ⟨fun id => (h'.places id).trans (h.places id), ?_⟩
  intro id
  rw [h'.spans, h.spans, Option.map_map, downOn_append, h.downOn_eq]
  congr 1
  funext spans
  exact List.append_assoc ..

theorem grown_of_same {document document' : PlanningSnapshot}
    (hresources : ∀ id, resource? document' id = resource? document id)
    (hcalendars : ∀ id, calendar? document' id = calendar? document id) :
    Grown document document' [] := by
  refine ⟨fun id => congrArg _ (hresources id), ?_⟩
  intro id
  have hnone : (fun spans => spans ++ downOn document id []) = fun spans => spans := by
    funext spans
    exact List.append_nil _
  rw [spansOf, hcalendars, ← spansOf, hnone, Option.map_id']

section
variable {document : PlanningSnapshot} {resource : ResourceRecord} {status : String}
  {source : SourceReference} {added : Option UnavailableIntervalRecord}

theorem calendarIdOf_updateAvailability (id : String) :
    calendarIdOf (updateAvailability document resource status source added) id =
      calendarIdOf document id := by
  have hkey : ∀ r : ResourceRecord, ResourceRecord.resourceId { r with status, source } =
      r.resourceId := fun _ => rfl
  have hget : resource? (updateAvailability document resource status source added) id =
      (resource? document id).map fun r =>
        if r.resourceId = resource.resourceId then { r with status, source } else r :=
    dictGet_updateRecord hkey ..
  rw [calendarIdOf, hget, Option.map_map, calendarIdOf]
  congr 1
  funext r
  rw [Function.comp_apply]
  split <;> rfl

/-- An interval on the calendar of a resource is a downtime of that resource. -/
theorem grown_updateAvailability (hresource : resource? document resource.resourceId =
    some resource) : Grown document (updateAvailability document resource status source added)
      (added.toList.map fun i => ⟨resource.resourceId, i.startAtUtc, i.endAtUtc⟩) := by
  refine ⟨calendarIdOf_updateAvailability, ?_⟩
  intro id
  have hplace : calendarIdOf document resource.resourceId = some resource.calendarId := by
    rw [calendarIdOf, hresource, Option.map_some]
  have hintervals : (calendar? (updateAvailability document resource status source added) id).map
      CalendarRecord.unavailableIntervals = (calendar? document id).map fun c =>
        c.unavailableIntervals ++ if c.calendarId = resource.calendarId then added.toList else [] :=
    intervals_updateAvailability id
  have hspans : ∀ s : PlanningSnapshot, spansOf s id =
      ((calendar? s id).map CalendarRecord.unavailableIntervals).map
        (List.map fun i => (i.startAtUtc, i.endAtUtc)) := by
    intro s
    rw [spansOf, Option.map_map]
    rfl
  rw [hspans, hintervals, spansOf, Option.map_map, Option.map_map]
  refine Option.map_congr ?_
  intro c hc
  obtain rfl : c.calendarId = id := (mem_of_dictGet hc).2
  rw [Function.comp_apply, Function.comp_apply, List.map_append, ← calendarSpans]
  congr 1
  -- the added interval is on this calendar exactly when the machine has it
  cases added with
  | none =>
    rw [Option.toList_none, ite_self]
    rfl
  | some interval =>
    by_cases hsame : c.calendarId = resource.calendarId
    · rw [if_pos hsame, hsame]
      exact (downOn_own (d := ⟨_, _, _⟩) hplace).symm
    · rw [if_neg hsame]
      refine (downOn_other (d := ⟨_, _, _⟩) ?_).symm
      rw [hplace]
      exact fun heq => hsame (Option.some.inj heq).symm

end

/-- The records that an urgent import keeps are found as they were. -/
theorem dictGet_kept {α : Type} {key : α → String} {before after : List α}
    (hkept : KeepsRecords key (· = ·) before after) (hfixed : SameIds key before after)
    (id : String) : dictGet key after id = dictGet key before id := by
  cases hget : dictGet key before id with
  | some x =>
    obtain ⟨hx, rfl⟩ := mem_of_dictGet hget
    obtain ⟨y, hy, rfl⟩ := hkept x hx
    exact hy
  | none =>
    rw [dictGet_eq_none_iff] at hget ⊢
    intro hmem
    obtain ⟨y, hy, rfl⟩ := List.mem_map.mp hmem
    exact hget (hfixed.2 y hy)

theorem UrgentImport.grown {current candidate : PlanningSnapshot}
    (h : UrgentImport current candidate) : Grown current candidate [] := by
  refine grown_of_same (dictGet_kept ?_ ?_) (dictGet_kept ?_ ?_)
  · exact of_decide_eq_true (h.kept _ (List.mem_of_getElem? (i := 4) rfl))
  · exact of_decide_eq_true (h.fixed _ (List.mem_of_getElem? (i := 4) rfl))
  · exact of_decide_eq_true (h.kept _ (List.mem_of_getElem? (i := 5) rfl))
  · exact of_decide_eq_true (h.fixed _ (List.mem_of_getElem? (i := 5) rfl))

theorem payloadResource_get {document : PlanningSnapshot} {payload : Json}
    {resource : ResourceRecord} (h : payloadResource document payload = .ok resource) :
    resource? document resource.resourceId = some resource ∧
      (payload.get "resource_id").text = resource.resourceId := by
  have hid := (payloadResource_ok h).2
  simp only [payloadResource, bind_eq_ok] at h
  obtain ⟨id, hfact, hfound⟩ := h
  rw [factText_ok hfact, Json.str.injEq] at hid
  rw [factText_ok hfact, ← hid]
  exact ⟨found_ok hfound, rfl⟩

theorem machineUnavailable_grown {document document' : PlanningSnapshot} {event : Json}
    {before : List Json} (htype : eventType event = some .machineUnavailable)
    (h : projectMachineUnavailable document event = .ok document') :
    Grown document document' (closedDowntime before event).toList := by
  simp only [projectMachineUnavailable, bind_eq_ok, exists_unit_iff, require_eq_ok, pure,
    Except.pure, Except.ok.injEq] at h
  obtain ⟨resource, hresource, -, source, -, interval, hinterval, rfl⟩ := h
  obtain ⟨hget, hid⟩ := payloadResource_get hresource
  have hdown : (closedDowntime before event).toList =
      interval.toList.map fun i => ⟨resource.resourceId, i.startAtUtc, i.endAtUtc⟩ := by
    simp only [closedDowntime, htype, hid]
    rw [closedInterval] at hinterval
    by_cases hopen : (event.get "payload").get "unavailable_until_utc" = .null
    · rw [if_pos hopen] at hinterval ⊢
      rw [← Except.ok.inj hinterval]
      rfl
    · rw [if_neg hopen] at hinterval ⊢
      simp only [bind_eq_ok, pure, Except.pure, Except.ok.injEq] at hinterval
      obtain ⟨_, -, _, -, rfl⟩ := hinterval
      rfl
  rw [hdown]
  exact grown_updateAvailability hget

theorem machineRecovered_grown {document document' : PlanningSnapshot} {fullPrefix : List Json}
    {event : Json} (htype : eventType event = some .machineRecovered)
    (h : projectMachineRecovered document fullPrefix event = .ok document') :
    Grown document document'
      (closedDowntime (eventsBefore fullPrefix event) event).toList := by
  simp only [projectMachineRecovered, bind_eq_ok, exists_unit_iff, require_eq_ok, pure,
    Except.pure, Except.ok.injEq] at h
  obtain ⟨resource, hresource, position, hposition, -, openEvent, hopen, _, -, _, -, -, _, -, _, -,
    source, -, rfl⟩ := h
  obtain ⟨hget, hid⟩ := payloadResource_get hresource
  have hbefore : eventsBefore fullPrefix event = fullPrefix.take (position - 1).toNat := by
    rw [eventsBefore, (factInteger_ok hposition).1]
  have hdown : closedDowntime (eventsBefore fullPrefix event) event =
      some ⟨resource.resourceId, ((openEvent.get "payload").get "unavailable_from_utc").text,
        ((event.get "payload").get "available_from_utc").text⟩ := by
    simp only [closedDowntime, htype, hid]
    rw [hbefore, found_ok hopen, Option.map_some]
  rw [hdown]
  exact grown_updateAvailability hget

/-- **The projection of an event grows the calendars by the downtime that it closes**, and by
nothing else. -/
theorem applyEvent_calendars {document document' : PlanningSnapshot} {fullPrefix : List Json}
    {event : Json} {urgent : Option PlanningSnapshot} {priorities : List UrgentPriorityFact}
    (h : applyEvent document fullPrefix event urgent = .ok (document', priorities)) :
    Grown document document' (closedDowntime (eventsBefore fullPrefix event) event).toList := by
  rw [applyEvent] at h
  split at h
  · cases h
  · rename_i htype
    simp only [projectUrgentDemand, bind_eq_ok, pure, Except.pure, Except.ok.injEq, Prod.exists,
      Prod.mk.injEq] at h
    obtain ⟨_, _, ⟨candidate, -, _, hvalid, rfl, -⟩, rfl, -⟩ := h
    have hnone : closedDowntime (eventsBefore fullPrefix event) event = none := by
      rw [closedDowntime, eventType, htype]
    rw [hnone]
    exact ⟨(validateUrgentCandidate_ok hvalid).grown.places,
      (validateUrgentCandidate_ok hvalid).grown.spans⟩
  · rename_i type hurgent htype
    simp only [bind_eq_ok, pure, Except.pure, Except.ok.injEq, Prod.mk.injEq] at h
    obtain ⟨projected, hproject, rfl, -⟩ := h
    by_cases hdown : type = .machineUnavailable
    · subst hdown
      exact machineUnavailable_grown htype hproject
    by_cases hup : type = .machineRecovered
    · subst hup
      exact machineRecovered_grown htype hproject
    have hnone : closedDowntime (eventsBefore fullPrefix event) event = none := by
      simp only [closedDowntime, eventType, htype]
      split
      · rename_i heq
        exact absurd (Option.some.inj heq) hdown
      · rename_i heq
        exact absurd (Option.some.inj heq) hup
      · rfl
    obtain ⟨records, instances, rfl, -, -, hsame⟩ := projectFact_shape hproject
    obtain ⟨hresources, hcalendars⟩ := hsame hdown hup
    rw [hnone]
    refine grown_of_same ?_ ?_
    · intro id
      rw [resource?, resource?, hresources]
    · intro id
      rw [calendar?, calendar?, hcalendars]

/-! ### A stream -/

/-- The position of an event in a verified prefix says which events come before it. -/
theorem eventsBefore_split {scope : ProjectionScope} {before rest : List Json} {event : Json}
    {fingerprints : List String}
    (h : validateEventPrefix scope (before ++ event :: rest) = .ok fingerprints) :
    eventsBefore (before ++ event :: rest) event = before := by
  have hat : (before ++ event :: rest)[before.length]? = some event := by
    rw [List.getElem?_append_right (le_refl _), Nat.sub_self]
    rfl
  obtain ⟨eventId, fingerprint, hplaced⟩ :=
    (validateEventsFrom_placed h).1 before.length event hat
  rw [eventsBefore, hplaced.position]
  simp

/-- **Projecting a stream grows the calendars by the downtimes that it reports.** -/
theorem applyEvents_calendars {scope : ProjectionScope} {fullPrefix before events : List Json}
    {urgentSnapshots : List (String × PlanningSnapshot)} {fingerprints : List String}
    (hstart : validateEventPrefix scope fullPrefix = .ok fingerprints)
    (hsplit : fullPrefix = before ++ events) {document final : PlanningSnapshot}
    {priorities : List UrgentPriorityFact}
    (h : applyEvents fullPrefix urgentSnapshots document events = .ok (final, priorities)) :
    Grown document final (downtimes before events) := by
  induction events generalizing before document priorities with
  | nil =>
    injection h with h
    injection h with h
    subst h
    exact grown_of_same (fun _ => rfl) fun _ => rfl
  | cons event rest ih =>
    obtain ⟨next, first, others, happly, hrest, -⟩ := applyEvents_cons h
    have hstep := applyEvent_calendars happly
    have hbefore : eventsBefore fullPrefix event = before := by
      rw [hsplit] at hstart ⊢
      exact eventsBefore_split hstart
    rw [hbefore] at hstep
    exact hstep.trans (ih (by rw [hsplit, List.append_assoc, List.singleton_append]) hrest)

/-! ### The snapshot -/

theorem dictGet_map {α : Type} {key : α → String} {f : α → α} (hkey : ∀ x, key (f x) = key x)
    (xs : List α) (k : String) : dictGet key (xs.map f) k = (dictGet key xs k).map f := by
  rw [dictGet, ← List.map_reverse, List.find?_map, dictGet]
  congr 2
  funext x
  rw [Function.comp_apply, hkey]

section
variable {document : PlanningSnapshot}
  (haccepted : AcceptedSnapshot (canonicalSnapshotDocument document))
include haccepted

theorem calendarIdOf_canonical (id : String) :
    calendarIdOf (canonicalSnapshotDocument document) id = calendarIdOf document id := by
  have hnodup : (document.records.resources.map ResourceRecord.resourceId).Nodup := by
    have hids := haccepted.records.resourceIds
    rw [canonicalSnapshotDocument, canonicalRecords, List.map_map] at hids
    exact ((sortByKey_perm _ _).map _).nodup_iff.mp hids
  have hkey : ∀ r : ResourceRecord, ResourceRecord.resourceId
      { r with capabilities := sortByKey (fun x => x) r.capabilities } = r.resourceId :=
    fun _ => rfl
  have hget : resource? (canonicalSnapshotDocument document) id =
      (resource? document id).map fun r =>
        { r with capabilities := sortByKey (fun x => x) r.capabilities } :=
    (dictGet_map hkey _ id).trans (congrArg _ (dictGet_sortByKey hnodup id))
  rw [calendarIdOf, hget, Option.map_map]
  rfl

/-- A calendar with its intervals in their order. -/
def sortedCalendar (calendar : CalendarRecord) : CalendarRecord :=
  { calendar with
    unavailableIntervals :=
      sortByKey UnavailableIntervalRecord.intervalId calendar.unavailableIntervals }

theorem spansOf_canonical {id : String} {spans : List (String × String)}
    (h : spansOf (canonicalSnapshotDocument document) id = some spans) :
    ∃ spans', spansOf document id = some spans' ∧ ∀ x, x ∈ spans ↔ x ∈ spans' := by
  have hnodup : (document.records.calendars.map CalendarRecord.calendarId).Nodup := by
    have hids := haccepted.records.calendarIds
    rw [canonicalSnapshotDocument, canonicalRecords, List.map_map] at hids
    exact ((sortByKey_perm _ _).map _).nodup_iff.mp hids
  have hkey : ∀ c : CalendarRecord, (sortedCalendar c).calendarId = c.calendarId := fun _ => rfl
  have hget : calendar? (canonicalSnapshotDocument document) id =
      (calendar? document id).map sortedCalendar :=
    (dictGet_map hkey _ id).trans (congrArg _ (dictGet_sortByKey hnodup id))
  rw [spansOf, hget, Option.map_map] at h
  obtain ⟨c, hc, rfl⟩ := Option.map_eq_some_iff.mp h
  refine ⟨calendarSpans c, by rw [spansOf, hc, Option.map_some], ?_⟩
  intro x
  rw [Function.comp_apply, calendarSpans, calendarSpans, List.mem_map, List.mem_map]
  simp only [sortedCalendar, mem_sortByKey]

end

/-! ### The problem -/

/-- A resource is barred, within the horizon, exactly from the intervals that its calendar had and
from the downtimes of the machines that have the same calendar. -/
def BarredExactly (base : PlanningSnapshot) (downs : List Downtime) (problem : PlanningProblem)
    (horizonStart horizonEnd : Datetime) : Prop :=
  ∀ resourceId calendarId, calendarIdOf base resourceId = some calendarId →
    ∃ spans, spansOf base calendarId = some spans ∧
      ∀ t, horizonStart.micros ≤ t → t < horizonEnd.micros →
        (t ∈ covered (unavailableOn problem resourceId) ↔
          (∃ x ∈ spans, instantMicros x.1 ≤ t ∧ t < instantMicros x.2) ∨
          ∃ d ∈ downs, calendarIdOf base d.resourceId = some calendarId ∧
            instantMicros d.startAtUtc ≤ t ∧ t < instantMicros d.endAtUtc)

/-- No scheduled operation is on a resource during a downtime of a machine that has the same
calendar, the resource itself for one. -/
def OffDowntimes (base : PlanningSnapshot) (downs : List Downtime) (problem : PlanningProblem)
    (raws : List Json) : Prop :=
  ∀ raw ∈ raws, ∃ x, Reporting.readScheduled raw = .ok x ∧
    ∀ calendarId, calendarIdOf base x.resourceId = some calendarId →
      ∀ d ∈ downs, calendarIdOf base d.resourceId = some calendarId →
        ∀ t, tickMicros problem x.startTick ≤ t → t < tickMicros problem x.endTick →
          ¬(instantMicros d.startAtUtc ≤ t ∧ t < instantMicros d.endAtUtc)

theorem barred_of_grown {base document : PlanningSnapshot} {downs : List Downtime}
    (hgrown : Grown base document downs) {candidate : PlanningSnapshot}
    (hrecords : candidate.records = document.records)
    (haccepted : AcceptedSnapshot (canonicalSnapshotDocument candidate))
    {problem : PlanningProblem} {horizonStart horizonEnd : Datetime}
    (himages : Images (canonicalSnapshotDocument candidate) problem horizonStart horizonEnd) :
    BarredExactly base downs problem horizonStart horizonEnd := by
  intro resourceId calendarId hplace
  have hcalendars : ∀ id, spansOf candidate id = spansOf document id := by
    intro id
    rw [spansOf, calendar?, hrecords, ← calendar?, ← spansOf]
  have hplaces : ∀ id, calendarIdOf candidate id = calendarIdOf document id := by
    intro id
    rw [calendarIdOf, resource?, hrecords, ← resource?, ← calendarIdOf]
  -- the resource of the snapshot, and its calendar
  have hfinal : calendarIdOf (canonicalSnapshotDocument candidate) resourceId = some calendarId := by
    rw [calendarIdOf_canonical haccepted, hplaces, hgrown.places, hplace]
  obtain ⟨resource, hget, rfl⟩ := Option.map_eq_some_iff.mp hfinal
  obtain ⟨hresource, rfl⟩ := mem_of_dictGet hget
  obtain ⟨calendar, hcalendar, hcovered⟩ := himages.unavailable resource hresource
  have hspans : spansOf (canonicalSnapshotDocument candidate) resource.calendarId =
      some (calendarSpans calendar) := by
    rw [spansOf, calendar?]
    rw [calendarOf] at hcalendar
    rw [hcalendar, Option.map_some]
  obtain ⟨spans', hdocument, hsame⟩ := spansOf_canonical haccepted hspans
  rw [hcalendars, hgrown.spans] at hdocument
  obtain ⟨spans, hbase, rfl⟩ := Option.map_eq_some_iff.mp hdocument
  refine ⟨spans, hbase, ?_⟩
  intro t hfrom hto
  have hinside : (∃ interval ∈ calendar.unavailableIntervals,
      instantMicros interval.startAtUtc ≤ t ∧ t < instantMicros interval.endAtUtc) ↔
        ∃ x ∈ calendarSpans calendar, instantMicros x.1 ≤ t ∧ t < instantMicros x.2 := by
    simp only [calendarSpans, List.mem_map, exists_exists_and_eq_and]
  rw [hcovered t hfrom hto, hinside]
  simp only [hsame, List.mem_append, or_and_right, exists_or, mem_downOn]
  refine or_congr_right ?_
  constructor
  · rintro ⟨x, ⟨d, hd, hon, rfl⟩, hin⟩
    exact ⟨d, hd, hon, hin⟩
  · rintro ⟨d, hd, hon, hin⟩
    exact ⟨_, ⟨d, hd, hon, rfl⟩, hin⟩

/-- A schedule that keeps to the calendars of its problem keeps off the downtimes. -/
theorem offDowntimes_of_barred {base : PlanningSnapshot} {downs : List Downtime}
    {problem : PlanningProblem} {horizonStart horizonEnd : Datetime}
    (hbarred : BarredExactly base downs problem horizonStart horizonEnd)
    {plan : List Plan.Placement}
    (hschedule : Reporting.Schedule problem horizonStart horizonEnd plan) {raws : List Json}
    (hread : collect Reporting.readScheduled raws = .ok (plan.map Reporting.scheduledOf)) :
    OffDowntimes base downs problem raws := by
  rw [collect_eq_ok_iff, List.forall₂_map_right_iff] at hread
  intro raw hraw
  obtain ⟨p, hp, hx⟩ := forall₂_exists_right hread hraw
  refine ⟨Reporting.scheduledOf p, hx, ?_⟩
  intro calendarId hplace d hd hon t hfrom hto hdown
  obtain ⟨hlow, hhigh⟩ := hschedule.inside p hp
  rw [instantMicros_eq _ _ hschedule.contract.start_eq] at hlow
  rw [instantMicros_eq _ _ hschedule.contract.end_eq] at hhigh
  obtain ⟨spans, -, hexact⟩ := hbarred _ _ hplace
  have hcovered := (hexact t (hlow.trans hfrom) (lt_of_lt_of_le hto hhigh)).mpr
    (.inr ⟨d, hd, hon, hdown⟩)
  obtain ⟨x, hx, hin⟩ := mem_covered.mp hcovered
  obtain ⟨interval, hinterval, rfl⟩ := List.mem_map.mp hx
  obtain ⟨hinterval, hsame⟩ := List.mem_filter.mp hinterval
  have havoids := hschedule.calendar p hp interval hinterval (of_decide_eq_true hsame)
  rcases havoids with hbefore | hafter
  · exact absurd (hbefore.trans hfrom) (not_le.mpr hin.2)
  · exact absurd (hin.1.trans_lt hto) (not_lt.mpr hafter)

/-! ### From events to schedules -/

/-- **A reported downtime reaches the schedule.** After a batch of events, its snapshot and the
problem built from it, a resource is barred exactly from the intervals that its calendar had before
the batch and from the downtimes that the events close on that calendar, and no candidate that
passes puts an operation into one. -/
theorem downtime_respected {base : PlanningSnapshot} {fullPrefix : List Json} {afterPosition : Nat}
    {scope : ProjectionScope} {urgentSnapshots : List (String × PlanningSnapshot)}
    {batch : ProjectedFactBatch} {snapshot : ImmutablePlanningSnapshot}
    {priorityFacts : List (String × Json)} {config : BuildConfig}
    {built : ImmutablePlanningProblemV2}
    (hbatch : projectExecutionEventBatch base fullPrefix afterPosition scope urgentSnapshots =
      .ok batch)
    (hsnapshot : buildProjectedSnapshot batch.document = .ok snapshot)
    (hbuilt : buildPlanningProblemV2 snapshot priorityFacts config = .ok built) :
    ∃ horizonStart horizonEnd, parseUtcInstant config.horizonStartUtc = .ok horizonStart ∧
      parseUtcInstant config.horizonEndUtc = .ok horizonEnd ∧
      BarredExactly base
        (downtimes (fullPrefix.take afterPosition) (fullPrefix.drop afterPosition))
        built.document horizonStart horizonEnd ∧
      ∀ candidate, (∃ report, validateProblemSchedule built.document candidate = .ok report ∧
          report.status = "PASS") →
        ∃ raws, candidate.get "assignments" = .arr raws ∧ OffDowntimes base
          (downtimes (fullPrefix.take afterPosition) (fullPrefix.drop afterPosition))
          built.document raws := by
  simp only [projectExecutionEventBatch, bind_eq_ok, exists_unit_iff, Prod.exists, pure,
    Except.pure, Except.ok.injEq] at hbatch
  obtain ⟨fingerprints, hstart, -, -, -, _, -, -, document, priorities, happly, _, -, _, -, rfl⟩ :=
    hbatch
  have hgrown := applyEvents_calendars hstart (List.take_append_drop afterPosition fullPrefix).symm
    happly
  obtain ⟨haccepted, candidate, hdocument, -, hrecords, -⟩ := projectedSnapshot_document hsnapshot
  obtain ⟨horizonStart, horizonEnd, hstart, hstop, hfacts, himages⟩ := builtProblem_images hbuilt
  rw [hdocument] at haccepted himages
  have hbarred := barred_of_grown hgrown hrecords haccepted himages
  refine ⟨horizonStart, horizonEnd, hstart, hstop, hbarred, ?_⟩
  intro candidate hpass
  obtain ⟨raws, plan, hraws, hschedule, hread, -⟩ := Reporting.schedule_of_pass hfacts hpass
  exact ⟨raws, hraws, offDowntimes_of_barred hbarred hschedule hread⟩

/-! ### A machine that is down for an hour -/

/-- The machine of the plain document is down for the first hour of the plain day. -/
def hourEvent : Json := sealEvent plainScope (downContent (.str "2026-01-01T01:00:00Z"))

def hourSource : SourceReference :=
  ⟨"plantnexus-execution-fact-projector", "1.0.0", eventIdText hourEvent⟩

def hourInterval : UnavailableIntervalRecord where
  intervalId := "unavailable-" ++ fingerprintDigits (contentFingerprint plainScope
    (downContent (.str "2026-01-01T01:00:00Z")))
  startAtUtc := "2026-01-01T00:00:00Z"
  endAtUtc := "2026-01-01T01:00:00Z"
  reason := "ExecutionEvent MACHINE_UNAVAILABLE"

theorem hourEnd_nonneg : (0 : Int) ≤ 63902826000000000 := by decide
theorem hourEnd_lt : 63902826000000000 < microsLimit := by decide

/-- 2026-01-01T01:00:00Z -/
def hourEnd : Datetime := ⟨63902826000000000, hourEnd_nonneg, hourEnd_lt⟩

/-- The records after the event. -/
def hourRecords : CanonicalRecords :=
  { plainRecords 60 ["LOT1"] with
    resources := [⟨"R1", "R1", "MACHINE", "UNAVAILABLE", "G1", "CAL1", [], hourSource⟩]
    calendars := [⟨"CAL1", "UTC", [hourInterval], hourSource⟩] }

theorem hour_projected : projectMachineUnavailable (factBase []) hourEvent =
    .ok { factBase [] with records := hourRecords } := by
  have hid : eventSource hourEvent = .ok hourSource := by
    simp only [eventSource, bind_eq_ok, pure, Except.pure, Except.ok.injEq]
    exact ⟨_, factText_str (isFactText_sealed plainScope _).1, rfl⟩
  have hdigits : eventDigits hourEvent = .ok (fingerprintDigits (contentFingerprint plainScope
      (downContent (.str "2026-01-01T01:00:00Z")))) := by
    simp only [eventDigits, bind_eq_ok, pure, Except.pure, Except.ok.injEq]
    exact ⟨_, factText_str (isFactText_sealed plainScope _).2, rfl⟩
  have hcalendar : calendar? (factBase []) "CAL1" = some ⟨"CAL1", "UTC", [], plainSource "CAL1"⟩ :=
    rfl
  simp only [projectMachineUnavailable, bind_eq_ok, exists_unit_iff, require_eq_ok, pure,
    Except.pure, Except.ok.injEq]
  refine ⟨⟨"R1", "R1", "MACHINE", "AVAILABLE", "G1", "CAL1", [], plainSource "R1"⟩, rfl, rfl,
    hourSource, hid, some hourInterval, ?_, rfl⟩
  rw [closedInterval, if_neg (by decide)]
  simp only [bind_eq_ok, hcalendar, hdigits]
  exact ⟨_, rfl, _, rfl, rfl⟩

/-- The source of a record is one that the versions know. -/
structure SourceKnown (versions : List (String × String)) (source : SourceReference) : Prop where
  system : isCanonicalId source.sourceSystem = true
  version : source.sourceVersion ≠ ""
  record : isCanonicalId source.sourceRecordId = true
  known : dictValue versions source.sourceSystem = some source.sourceVersion

theorem checkSource_eq_ok {versions : List (String × String)} {c : Collection} {position : Nat}
    {item : String × SourceReference} :
    checkSource versions c position item = .ok () ↔ SourceKnown versions item.2 := by
  simp only [checkSource, text, bind_eq_ok, exists_unit_iff, require_eq_ok, identifier_eq_ok]
  exact ⟨fun h => ⟨h.1, h.2.1, h.2.2.1, h.2.2.2⟩, fun h => ⟨h.1, h.2, h.3, h.4⟩⟩

theorem hourSource_known {versions : List (String × String)}
    (h : dictValue versions "plantnexus-execution-fact-projector" = some "1.0.0") :
    SourceKnown versions hourSource := by
  refine ⟨by decide, by decide, ?_, h⟩
  obtain ⟨body, hbody⟩ := contentFingerprint_digest plainScope
    (downContent (.str "2026-01-01T01:00:00Z"))
  have hid : hourSource.sourceRecordId = "execution-event-" ++ Sha256.hexdigest body := by
    show executionEventId (contentFingerprint plainScope _) = _
    rw [hbody, executionEventId, fingerprintDigits_digest]
  rw [hid]
  exact isCanonicalId_digest _ _ (by decide) (by decide)

theorem hourInterval_named : isCanonicalId hourInterval.intervalId = true := by
  obtain ⟨body, hbody⟩ := contentFingerprint_digest plainScope
    (downContent (.str "2026-01-01T01:00:00Z"))
  have hid : hourInterval.intervalId = "unavailable-" ++ Sha256.hexdigest body := by
    rw [hourInterval, hbody, fingerprintDigits_digest]
  rw [hid]
  exact isCanonicalId_digest _ _ (by decide) (by decide)

/-- The contract accepts the records after the event. -/
theorem hourRecords_valid {versions : List (String × String)}
    (herp : dictValue versions "ERP" = some "1")
    (hprojector : dictValue versions "plantnexus-execution-fact-projector" = some "1.0.0") :
    validateCanonicalRecords hourRecords versions = .ok () := by
  have hplain : ∀ id, isCanonicalId id = true → SourceKnown versions (plainSource id) :=
    fun id hid => ⟨by show isCanonicalId "ERP" = true; decide, by show "1" ≠ ""; decide, hid, herp⟩
  have hsources : ∀ c ∈ hourRecords.collections, ∀ item ∈ c.items,
      SourceKnown versions item.2 := by
    have hhour := hourSource_known hprojector
    simp only [CanonicalRecords.collections, hourRecords, plainRecords, List.forall_mem_cons,
      List.map_cons, List.map_nil, List.not_mem_nil, false_implies, implies_true, and_true, hhour,
      true_and]
    exact ⟨hplain _ (by decide), hplain _ (by decide), hplain _ (by decide), hplain _ (by decide),
      hplain _ (by decide), hplain _ (by decide), hplain _ (by decide), hplain _ (by decide),
      hplain _ (by decide), hplain _ (by decide), hplain _ (by decide)⟩
  have hcalendar : checkCalendar 0 ⟨"CAL1", "UTC", [hourInterval], hourSource⟩ = .ok () := by
    have hrange : ∀ path, utcRange path "start_at_utc" "end_at_utc" "2026-01-01T00:00:00Z"
        "2026-01-01T01:00:00Z" = .ok () := by
      intro path
      have hstop : parseUtcInstant "2026-01-01T01:00:00Z" = .ok hourEnd := by decide +kernel
      simp only [utcRange, Snapshot.utc, text, plain_instant, hstop, bind_eq_ok, exists_unit_iff,
        require_eq_ok]
      exact ⟨plainInstant, ⟨by decide, rfl⟩, hourEnd, ⟨by decide, rfl⟩, by decide⟩
    simp only [checkCalendar, forEachDistinct, bind_eq_ok, exists_unit_iff, identifier_eq_ok,
      require_eq_ok]
    exact ⟨hourInterval_named, List.not_mem_nil, hrange _, trivial⟩
  simp only [validateCanonicalRecords, bind_eq_ok, exists_unit_iff]
  refine ⟨rfl, by decide +kernel, ?_, by decide +kernel, by decide +kernel, ?_, by decide +kernel,
    by decide +kernel, by decide +kernel, by decide +kernel, by decide +kernel, by decide +kernel,
    by decide +kernel⟩
  · refine (forEach_eq_ok_iff (fun c : Collection => ∀ item ∈ c.items,
      SourceKnown versions item.2) _ _ fun c _ _ => ?_).mpr hsources
    exact forEach_eq_ok_iff (fun item : String × SourceReference =>
      SourceKnown versions item.2) _ _ fun _ _ _ => checkSource_eq_ok
  · simp only [forEach, forEachFrom, hourRecords, hcalendar]
    rfl

/-- The versions of the sources after the event. -/
def hourVersions : List (String × String) :=
  projectedVersions plainScope "sha256:0" 1 (eventStreamFingerprint
    [contentFingerprint plainScope (downContent (.str "2026-01-01T01:00:00Z"))]) [("ERP", "1")]

/-- The document after the event, counted. -/
def hourDocument : PlanningSnapshot :=
  { plainSnapshot hourRecords [plainInstance 60 "O1" "LOT1"] with
    sourceVersions := hourVersions
    snapshotHash := "sha256:0"
    entityCounts := (plainSnapshot hourRecords [plainInstance 60 "O1" "LOT1"]).expectedCounts }

/-- A document that differs from the plain one in its versions, its identity and the order of its
counts passes the contract as well. -/
theorem hour_valid {versions : List (String × String)} {counts : List (String × Int)}
    (hversions : validateSourceVersions versions = .ok ())
    (herp : dictValue versions "ERP" = some "1")
    (hprojector : dictValue versions "plantnexus-execution-fact-projector" = some "1.0.0")
    (hcounts : SameDict counts hourDocument.expectedCounts) {hash : String} :
    validatePlanningSnapshotV2 { plainSnapshot hourRecords [plainInstance 60 "O1" "LOT1"] with
      sourceVersions := versions, snapshotHash := hash, entityCounts := counts } = .ok () := by
  have hcutoff : Snapshot.utc "2026-01-01T00:00:00Z" "cutoff_at_utc" = .ok plainInstant := by
    simp only [Snapshot.utc, text, plain_instant, bind_eq_ok, exists_unit_iff, require_eq_ok]
    exact ⟨by decide, trivial⟩
  have hsynthetic : validateSyntheticBoundary true (some ⟨"SC1", "1", 1, "FP1", "1", "GEN1", "1"⟩)
      "synthetic_provenance" = .ok () := by decide +kernel
  have hinstances : checkInstances hourRecords [plainInstance 60 "O1" "LOT1"] = .ok () := by
    decide +kernel
  simp only [validatePlanningSnapshotV2, bind_eq_ok, exists_unit_iff, require_eq_ok]
  exact ⟨⟨rfl, rfl⟩, (by decide : identifier "S1" "snapshot_id" = .ok ()), plainInstant, hcutoff,
    hversions, hsynthetic, hourRecords_valid herp hprojector, hcounts, hinstances, rfl⟩

theorem validateSourceVersions_eq_ok {versions : List (String × String)} :
    validateSourceVersions versions = .ok () ↔ versions ≠ [] ∧
      ∀ item ∈ versions, isCanonicalId item.1 = true ∧ item.2 ≠ "" := by
  simp only [validateSourceVersions, bind_eq_ok, exists_unit_iff, require_eq_ok]
  refine and_congr_right fun _ => forEach_eq_ok_iff (fun item : String × String =>
    isCanonicalId item.1 = true ∧ item.2 ≠ "") _ _ fun item _ _ => ?_
  simp only [text, bind_eq_ok, exists_unit_iff, require_eq_ok, identifier_eq_ok]

theorem hourVersions_eq : ∃ lineage, lineage ≠ "" ∧ hourVersions = [("ERP", "1"),
    ("plantnexus-execution-fact-projector", "1.0.0"), ("plantnexus-previous-snapshot", "sha256:0"),
    ("plantnexus-execution-event-authority", "A1"),
    ("plantnexus-execution-event-prefix", lineage)] := by
  refine ⟨streamLineage plainScope 1 (eventStreamFingerprint
    [contentFingerprint plainScope (downContent (.str "2026-01-01T01:00:00Z"))]), ?_, ?_⟩
  · generalize eventStreamFingerprint _ = fingerprint
    intro hempty
    have hlength := congrArg String.length hempty
    simp [streamLineage, plainScope] at hlength
  · simp [hourVersions, projectedVersions, dictSet, plainScope]

theorem hourVersions_known : validateSourceVersions hourVersions = .ok () ∧
    dictValue hourVersions "ERP" = some "1" ∧
    dictValue hourVersions "plantnexus-execution-fact-projector" = some "1.0.0" ∧
    (hourVersions.map Prod.fst).Nodup := by
  obtain ⟨lineage, hlineage, heq⟩ := hourVersions_eq
  have hnodup : ["ERP", "plantnexus-execution-fact-projector", "plantnexus-previous-snapshot",
      "plantnexus-execution-event-authority", "plantnexus-execution-event-prefix"].Nodup := by
    decide
  rw [heq, validateSourceVersions_eq_ok]
  simp only [List.forall_mem_cons]
  refine ⟨⟨List.cons_ne_nil _ _, ⟨by decide, by decide⟩, ⟨by decide, by decide⟩,
    ⟨by decide, by decide⟩, ⟨by decide, by decide⟩, ⟨by decide, hlineage⟩, ?_⟩, rfl, rfl,
    hnodup⟩
  intro item hitem
  cases hitem

/-- The snapshot after the event. -/
def hourSnapshot : ImmutablePlanningSnapshot :=
  sealSnapshot (canonicalSnapshotDocument hourDocument)

/-- The document of a projection, with its counts. -/
def countedDocument (projected : PlanningSnapshot) : PlanningSnapshot :=
  { projected with entityCounts := projected.expectedCounts }

/-- `buildProjectedSnapshot` of the counted document. -/
def sealCounted (candidate : PlanningSnapshot) : Except SnapshotError ImmutablePlanningSnapshot := do
  (validatePlanningSnapshotV2 { candidate with
    snapshotId := snapshotIdForHash (snapshotHashFor candidate)
    snapshotHash := snapshotHashFor candidate }).mapError fun error =>
      ⟨.invalidSnapshotInput, error.field, "valid projected planning-snapshot.v2",
        "Projected facts failed Snapshot semantic validation"⟩
  let snapshot : ImmutablePlanningSnapshot :=
    ⟨canonicalSnapshotDocument { candidate with
      snapshotId := snapshotIdForHash (snapshotHashFor candidate)
      snapshotHash := snapshotHashFor candidate },
      snapshotIdForHash (snapshotHashFor candidate), snapshotHashFor candidate,
      expectedPlane candidate⟩
  verifySnapshot snapshot
  return snapshot

theorem canonicalSnapshotDocument_identity (s : PlanningSnapshot) (id hash : String) :
    canonicalSnapshotDocument { s with snapshotId := id, snapshotHash := hash } =
      { canonicalSnapshotDocument s with snapshotId := id, snapshotHash := hash } := rfl

theorem expectedPlane_canonical (s : PlanningSnapshot) :
    expectedPlane (canonicalSnapshotDocument s) = expectedPlane s := by
  rw [expectedPlane, expectedPlane]
  rfl

theorem sealSnapshot_canonical (s : PlanningSnapshot) :
    sealSnapshot (canonicalSnapshotDocument s) =
      ⟨canonicalSnapshotDocument { s with
          snapshotId := snapshotIdForHash (snapshotHashFor s), snapshotHash := snapshotHashFor s },
        snapshotIdForHash (snapshotHashFor s), snapshotHashFor s, expectedPlane s⟩ := by
  simp only [sealSnapshot, Expansion.snapshotHashFor_canonical, expectedPlane_canonical,
    canonicalSnapshotDocument_identity]

/-- A projected document is sealed once the contract accepts it, and in its canonical order. -/
theorem buildProjectedSnapshot_seal {projected : PlanningSnapshot}
    (hprovenance : projected.syntheticProvenance.isSome = projected.synthetic)
    (hvalid : validatePlanningSnapshotV2 (countedDocument projected) = .ok ())
    (hcanonical : validatePlanningSnapshotV2
      (canonicalSnapshotDocument (countedDocument projected)) = .ok ()) :
    buildProjectedSnapshot projected =
      .ok (sealSnapshot (canonicalSnapshotDocument (countedDocument projected))) := by
  have hverified := verified_seal (canonicalSnapshotDocument (countedDocument projected))
    hprovenance (Expansion.canonicalSnapshotDocument_idem _) hcanonical
  rw [← verifySnapshot_eq_ok, sealSnapshot_canonical] at hverified
  have hid := validate_identity (countedDocument projected)
    (snapshotIdForHash (snapshotHashFor (countedDocument projected)))
    (snapshotHashFor (countedDocument projected)) hvalid
    (isCanonicalId_snapshotIdForHash (countedDocument projected))
  have hbuild : buildProjectedSnapshot projected = sealCounted (countedDocument projected) := rfl
  rw [hbuild, sealCounted, hid, sealSnapshot_canonical]
  simp only [bind_eq_ok, exists_unit_iff]
  exact ⟨rfl, hverified, rfl⟩

theorem hour_built : buildProjectedSnapshot { plainSnapshot hourRecords
    [plainInstance 60 "O1" "LOT1"] with
      sourceVersions := hourVersions, snapshotHash := "sha256:0" } = .ok hourSnapshot := by
  obtain ⟨hversions, herp, hprojector, hnodup⟩ := hourVersions_known
  have hsorted : validateSourceVersions (sortByKey Prod.fst hourVersions) = .ok () := by
    rw [validateSourceVersions_eq_ok] at hversions ⊢
    refine ⟨?_, fun item hitem => hversions.2 item ((mem_sortByKey ..).mp hitem)⟩
    intro hnil
    exact hversions.1 ((sortByKey_perm Prod.fst hourVersions).symm.trans
      (hnil ▸ List.Perm.refl _)).eq_nil
  refine buildProjectedSnapshot_seal rfl (hour_valid hversions herp hprojector rfl) ?_
  refine hour_valid hsorted ?_ ?_ ?_
  · rw [dictValue, dictGet_sortByKey hnodup]
    exact herp
  · rw [dictValue, dictGet_sortByKey hnodup]
    exact hprojector
  · exact sortByKey_sortByKey Prod.fst hourDocument.expectedCounts

/-- The problem after the event. -/
def hourProblem : PlanningProblem :=
  { lotProblem with
    snapshotId := hourSnapshot.snapshotId
    resources := [{ plainResource with status := "UNAVAILABLE" }]
    resourceUnavailableIntervals :=
      [⟨"CAL1", "R1", "2026-01-01T00:00:00Z", "2026-01-01T01:00:00Z"⟩]
    requiredCapabilities := ["DAG_ROUTING", "MACHINE_CALENDAR", "RELEASE_AND_MATERIAL_GATE"] }

theorem hourProblem_valid : validateBuiltProblemV2 (sealProblem hourProblem) = .ok () := by
  decide +kernel

theorem hour_problem_built :
    buildPlanningProblemV2 hourSnapshot plainPriorities plainConfig =
      .ok (immutableProblem hourProblem) := by
  have hsnapshot : verifySnapshot hourSnapshot = .ok () := (buildProjectedSnapshot_ok hour_built).2
  have hconfig : validateConfigV2 hourSnapshot.document plainConfig =
      .ok (plainStart, plainEnd) := by decide +kernel
  have hoperations : projectOperationsV2 hourSnapshot.document 60 plainStart
      plainEnd = .ok [plainOperation "O1"] := by decide +kernel
  have hdemands : projectDeliveryDemandsV2 hourSnapshot.document ["D1"]
      plainPriorities = .ok [plainDemand] := by decide +kernel
  have hresources : projectResourcesV2 hourSnapshot.document =
      .ok [{ plainResource with status := "UNAVAILABLE" }] := by decide +kernel
  have hintervals : projectUnavailableIntervalsV2 hourSnapshot.document plainStart
      plainEnd = .ok [⟨"CAL1", "R1", "2026-01-01T00:00:00Z", "2026-01-01T01:00:00Z"⟩] := by
    decide +kernel
  have hcanonical : canonicalProblemDocumentV2 hourProblem = hourProblem := rfl
  have hverified := verifyProblemV2_seal hourProblem hcanonical hourProblem_valid
  have hdocument : canonicalProblemDocumentV2 (builtDocument hourSnapshot.snapshotId plainConfig
      [plainDemand] [{ plainResource with status := "UNAVAILABLE" }] [plainOperation "O1"] [] [] []
      [⟨"CAL1", "R1", "2026-01-01T00:00:00Z", "2026-01-01T01:00:00Z"⟩]
      (requiredCapabilitiesV2 hourSnapshot.document [plainOperation "O1"]
        [⟨"CAL1", "R1", "2026-01-01T00:00:00Z", "2026-01-01T01:00:00Z"⟩] [])) =
        hourProblem := rfl
  simp only [buildPlanningProblemV2, bind_eq_ok, exists_unit_iff, mapError_eq_ok, require_eq_ok,
    Prod.exists]
  exact ⟨hsnapshot, plainStart, plainEnd, hconfig, by decide, _, hoperations, _,
    hdemands, _, hresources, [], rfl, [], rfl, [], rfl, _, hintervals,
    hdocument ▸ hourProblem_valid, hdocument ▸ hverified, by rw [hdocument]; rfl⟩

theorem hour_batch : ∃ batch, projectExecutionEventBatch (factBase []) [hourEvent] 0 plainScope [] =
      .ok batch ∧
    batch.document = { plainSnapshot hourRecords [plainInstance 60 "O1" "LOT1"] with
      sourceVersions := hourVersions, snapshotHash := "sha256:0" } := by
  have hother : ExecutionEventType.machineUnavailable ≠ .urgentDemandReceived := by decide
  have happly : applyEvent (factBase []) [hourEvent] hourEvent none =
      .ok ({ factBase [] with records := hourRecords }, []) := sealed_apply hother hour_projected
  have hfactories : (factBase []).records.factories.map FactoryRecord.factoryId =
      [plainScope.factoryId] := rfl
  have hhash : isFactText (factBase []).snapshotHash = true := by decide
  have hcutoff : formatUtcInstant (latest [plainInstant] plainInstant) =
      "2026-01-01T00:00:00Z" := by decide +kernel
  have hnone : ∀ urgent ∈ ([] : List (String × PlanningSnapshot)),
      urgent.1 = eventIdText hourEvent := by
    intro urgent hurgent
    cases hurgent
  obtain ⟨batch, hbatch, hdocument⟩ := sealed_batch boundedContent_valid rfl hfactories rfl hhash
    hnone happly (plain_utc _)
  refine ⟨batch, hbatch, ?_⟩
  rw [hdocument, hcutoff]
  rfl

/-- An hour of downtime keeps the resource free for it. -/
theorem downtime_respected_hour : ∃ batch,
    projectExecutionEventBatch (factBase []) [hourEvent] 0 plainScope [] = .ok batch ∧
      downtimes [] [hourEvent] = [⟨"R1", "2026-01-01T00:00:00Z", "2026-01-01T01:00:00Z"⟩] ∧
      ∃ horizonStart horizonEnd, parseUtcInstant plainConfig.horizonStartUtc = .ok horizonStart ∧
        parseUtcInstant plainConfig.horizonEndUtc = .ok horizonEnd ∧
        BarredExactly (factBase []) (downtimes [] [hourEvent]) (sealProblem hourProblem)
          horizonStart horizonEnd := by
  obtain ⟨batch, hbatch, hdocument⟩ := hour_batch
  have hsnapshot : buildProjectedSnapshot batch.document = .ok hourSnapshot := by
    rw [hdocument]
    exact hour_built
  obtain ⟨horizonStart, horizonEnd, hstart, hstop, hbarred, -⟩ :=
    downtime_respected hbatch hsnapshot hour_problem_built
  exact ⟨batch, hbatch, rfl, horizonStart, horizonEnd, hstart, hstop, hbarred⟩

end PlantNexus.Execution
