import PlantNexus.Data.Reach
import PlantNexus.Execution.FactInvariant
import PlantNexus.Problem.Builder

/-! Machine events and the resources they do not name.

An event of a machine names one resource, but an interval in which it is unavailable is written
to the calendar of that resource, which others may share. A recovery looks for an unavailability
without an end, so one that comes with its end can never be recovered. `machine_event_iff` says
when an accepted event leaves the other resources alone and leaves a way back. -/
namespace PlantNexus.Execution
open Data Domain Time Snapshot Problem

/-! ### What a machine event does -/

section
variable {document document' : PlanningSnapshot} {event : Json}

theorem payloadResource_ok {payload : Json} {resource : ResourceRecord}
    (h : payloadResource document payload = .ok resource) :
    resource ∈ document.records.resources ∧
      payload.get "resource_id" = .str resource.resourceId := by
  simp only [payloadResource, bind_eq_ok] at h
  obtain ⟨id, hid, hfound⟩ := h
  obtain ⟨hmem, rfl⟩ := mem_of_dictGet (found_ok hfound)
  exact ⟨hmem, factText_ok hid⟩

theorem closedInterval_ok {resource : ResourceRecord}
    {interval : Option UnavailableIntervalRecord}
    (h : closedInterval document resource event = .ok interval) :
    interval = none ↔ (event.get "payload").get "unavailable_until_utc" = .null := by
  rw [closedInterval] at h
  split at h
  · rename_i hnull
    cases h
    exact ⟨fun _ => hnull, fun _ => rfl⟩
  · rename_i hbounded
    simp only [bind_eq_ok, pure, Except.pure, Except.ok.injEq] at h
    obtain ⟨_, -, _, -, rfl⟩ := h
    refine ⟨fun hnone => ?_, fun hnull => absurd hnull hbounded⟩
    cases hnone

theorem closedInterval_isOk {resource : ResourceRecord} {calendar : CalendarRecord}
    {digits : String} (hcalendar : calendar? document resource.calendarId = some calendar)
    (hdigits : eventDigits event = .ok digits) :
    ∃ interval, closedInterval document resource event = .ok interval := by
  rw [closedInterval]
  split
  · exact ⟨none, rfl⟩
  · simp only [bind_eq_ok, hcalendar]
    exact ⟨_, calendar, rfl, digits, hdigits, rfl⟩

/-- An accepted unavailability is of an available resource. -/
theorem projectMachineUnavailable_ok (h : projectMachineUnavailable document event = .ok document') :
    ∃ resource ∈ document.records.resources,
      (event.get "payload").get "resource_id" = .str resource.resourceId ∧
      resource.status = "AVAILABLE" ∧ ∃ source interval,
        document' = updateAvailability document resource "UNAVAILABLE" source interval ∧
        (interval = none ↔ (event.get "payload").get "unavailable_until_utc" = .null) := by
  simp only [projectMachineUnavailable, bind_eq_ok, exists_unit_iff, require_eq_ok, pure,
    Except.pure, Except.ok.injEq] at h
  obtain ⟨resource, hresource, hstatus, source, -, interval, hinterval, rfl⟩ := h
  obtain ⟨hmem, hid⟩ := payloadResource_ok hresource
  exact ⟨resource, hmem, hid, hstatus, source, interval, rfl, closedInterval_ok hinterval⟩

/-- The interval that a recovery adds to the calendar. -/
def recoveredInterval (openEvent event : Json) (digits : String) : UnavailableIntervalRecord where
  intervalId := s!"unavailable-{digits}"
  startAtUtc := ((openEvent.get "payload").get "unavailable_from_utc").text
  endAtUtc := ((event.get "payload").get "available_from_utc").text
  reason := "ExecutionEvent MACHINE_UNAVAILABLE/RECOVERED"

/-- The events before one at a position. -/
def eventsBefore (fullPrefix : List Json) (event : Json) : List Json :=
  match event.get "source_position" with
  | .int position => fullPrefix.take (position - 1).toNat
  | _ => []

/-- An accepted recovery closes an unavailability that starts before it. -/
theorem projectMachineRecovered_ok {fullPrefix : List Json}
    (h : projectMachineRecovered document fullPrefix event = .ok document') :
    ∃ resource ∈ document.records.resources,
      (event.get "payload").get "resource_id" = .str resource.resourceId ∧
      resource.status = "UNAVAILABLE" ∧ ∃ openEvent,
        openUnavailability resource.resourceId (eventsBefore fullPrefix event) = some openEvent ∧
        ∃ start available,
          parseUtcInstant ((openEvent.get "payload").get "unavailable_from_utc").text =
            .ok start ∧
          parseUtcInstant ((event.get "payload").get "available_from_utc").text =
            .ok available ∧ start < available ∧
          ∃ source digits, document' = updateAvailability document resource "AVAILABLE" source
            (some (recoveredInterval openEvent event digits)) := by
  simp only [projectMachineRecovered, bind_eq_ok, exists_unit_iff, require_eq_ok, pure,
    Except.pure, Except.ok.injEq] at h
  obtain ⟨resource, hresource, position, hposition, hstatus, openEvent, hopen, available,
    havailable, start, hstart, hlt, _, -, digits, -, source, -, rfl⟩ := h
  obtain ⟨hmem, hid⟩ := payloadResource_ok hresource
  have hbefore : eventsBefore fullPrefix event = fullPrefix.take (position - 1).toNat := by
    rw [eventsBefore, (factInteger_ok hposition).1]
  refine ⟨resource, hmem, hid, hstatus, openEvent, ?_, start, available, factUtc_ok hstart,
    factUtc_ok havailable, hlt, source, digits, rfl⟩
  rw [hbefore]
  exact found_ok hopen

end

/-! ### Unavailable intervals -/

theorem snapshotInstant_eq_ok {value : String} {instant : Datetime} :
    snapshotInstant value = .ok instant ↔ parseUtcInstant value = .ok instant := by
  rw [snapshotInstant, mapError_eq_ok]

/-- An interval of a calendar meets a horizon. -/
def MeetsHorizon (horizonStart horizonEnd : Datetime) (interval : UnavailableIntervalRecord) :
    Prop :=
  ∃ start stop, parseUtcInstant interval.startAtUtc = .ok start ∧
    parseUtcInstant interval.endAtUtc = .ok stop ∧ start < horizonEnd ∧ horizonStart < stop

/-- The interval of a calendar as one of a resource. -/
def resourceInterval (resource : ResourceRecord) (interval : UnavailableIntervalRecord) :
    UnavailableInterval :=
  ⟨resource.calendarId, resource.resourceId, interval.startAtUtc, interval.endAtUtc⟩

/-- The intervals of the calendar of a resource. -/
def intervalsOf (s : PlanningSnapshot) (resource : ResourceRecord) :
    Option (List UnavailableIntervalRecord) :=
  (calendar? s resource.calendarId).map CalendarRecord.unavailableIntervals

/-- An interval comes from the calendar of a resource. -/
def Derives (s : PlanningSnapshot) (horizonStart horizonEnd : Datetime) (x : UnavailableInterval) :
    Prop :=
  ∃ resource ∈ s.records.resources, ∃ intervals ∈ intervalsOf s resource,
    ∃ interval ∈ intervals,
      MeetsHorizon horizonStart horizonEnd interval ∧ x = resourceInterval resource interval

/-- Every resource has its calendar, and the intervals of the calendar are instants. -/
def CalendarsRead (s : PlanningSnapshot) : Prop :=
  ∀ resource ∈ s.records.resources, ∃ intervals ∈ intervalsOf s resource,
    ∀ interval ∈ intervals, (∃ start, parseUtcInstant interval.startAtUtc = .ok start) ∧
      ∃ stop, parseUtcInstant interval.endAtUtc = .ok stop

section
variable {s : PlanningSnapshot} {horizonStart horizonEnd : Datetime}

theorem mem_projectResourceIntervals {resource : ResourceRecord}
    {projected : List UnavailableInterval}
    (h : projectResourceIntervals s horizonStart horizonEnd resource = .ok projected)
    {x : UnavailableInterval} : x ∈ projected ↔
      ∃ intervals ∈ intervalsOf s resource, ∃ interval ∈ intervals,
        MeetsHorizon horizonStart horizonEnd interval ∧ x = resourceInterval resource interval := by
  rw [projectResourceIntervals] at h
  split at h
  · cases h
  · rename_i calendar hcalendar
    simp only [bind_eq_ok, pure, Except.pure, Except.ok.injEq] at h
    obtain ⟨projected, hcollect, rfl⟩ := h
    have hget : ∀ intervals, intervals ∈ intervalsOf s resource ↔
        intervals = calendar.unavailableIntervals := by
      intro intervals
      rw [intervalsOf, calendar?, hcalendar, Option.map_some, Option.mem_def, Option.some.injEq,
        eq_comm]
    simp only [List.mem_filterMap, id, exists_eq_right, mem_collect hcollect, hget,
      exists_eq_left]
    refine exists_congr fun interval => and_congr_right fun _ => ?_
    simp only [bind_eq_ok, snapshotInstant_eq_ok, MeetsHorizon, exists_and_left]
    constructor
    · rintro ⟨start, hstart, stop, hstop, hif⟩
      split at hif
      · cases hif
      · rename_i hmeets
        rw [not_or, not_le, not_le] at hmeets
        injection hif with hif
        injection hif with hif
        exact ⟨⟨start, hstart, stop, hstop, hmeets⟩, hif.symm⟩
    · rintro ⟨⟨start, hstart, stop, hstop, hmeets⟩, rfl⟩
      refine ⟨start, hstart, stop, hstop, ?_⟩
      rw [if_neg (by rw [not_or, not_le, not_le]; exact hmeets)]
      rfl

theorem mem_projectUnavailableIntervals {projected : List UnavailableInterval}
    (h : projectUnavailableIntervalsV2 s horizonStart horizonEnd = .ok projected)
    {x : UnavailableInterval} : x ∈ projected ↔ Derives s horizonStart horizonEnd x := by
  simp only [projectUnavailableIntervalsV2, bind_eq_ok, pure, Except.pure, Except.ok.injEq] at h
  obtain ⟨parts, hcollect, rfl⟩ := h
  rw [List.mem_flatten]
  constructor
  · rintro ⟨part, hpart, hx⟩
    obtain ⟨resource, hresource, hproject⟩ := (mem_collect hcollect part).mp hpart
    exact ⟨resource, hresource, (mem_projectResourceIntervals hproject).mp hx⟩
  · rintro ⟨resource, hresource, hx⟩
    obtain ⟨part, hproject⟩ := (collect_isOk _ _).mp ⟨_, hcollect⟩ resource hresource
    exact ⟨part, (mem_collect hcollect part).mpr ⟨resource, hresource, hproject⟩,
      (mem_projectResourceIntervals hproject).mpr hx⟩

theorem projectResourceIntervals_isOk {resource : ResourceRecord} {calendar : CalendarRecord}
    (hcalendar : calendar? s resource.calendarId = some calendar)
    (hread : ∀ interval ∈ calendar.unavailableIntervals,
      (∃ start, parseUtcInstant interval.startAtUtc = .ok start) ∧
        ∃ stop, parseUtcInstant interval.endAtUtc = .ok stop) :
    ∃ projected, projectResourceIntervals s horizonStart horizonEnd resource = .ok projected := by
  rw [calendar?] at hcalendar
  rw [projectResourceIntervals, hcalendar]
  simp only [bind_eq_ok]
  rw [exists_comm]
  obtain ⟨parts, hparts⟩ := (collect_isOk (fun (interval : UnavailableIntervalRecord) => do
    let start ← snapshotInstant interval.startAtUtc
    let stop ← snapshotInstant interval.endAtUtc
    if horizonEnd ≤ start ∨ stop ≤ horizonStart then return none
    return some (resourceInterval resource interval)) calendar.unavailableIntervals).mpr <| by
      intro interval hinterval
      obtain ⟨⟨start, hstart⟩, stop, hstop⟩ := hread interval hinterval
      simp only [bind_eq_ok, snapshotInstant_eq_ok]
      by_cases hmisses : horizonEnd ≤ start ∨ stop ≤ horizonStart
      · exact ⟨none, start, hstart, stop, hstop, by rw [if_pos hmisses]; rfl⟩
      · exact ⟨some _, start, hstart, stop, hstop, by rw [if_neg hmisses]; rfl⟩
  exact ⟨parts, _, hparts, rfl⟩

theorem CalendarsRead.isOk (h : CalendarsRead s) (horizonStart horizonEnd : Datetime) :
    ∃ projected, projectUnavailableIntervalsV2 s horizonStart horizonEnd = .ok projected := by
  have hall : ∀ resource ∈ s.records.resources, ∃ projected,
      projectResourceIntervals s horizonStart horizonEnd resource = .ok projected := by
    intro resource hresource
    obtain ⟨intervals, hintervals, hread⟩ := h resource hresource
    obtain ⟨calendar, hcalendar, rfl⟩ := Option.mem_map.mp hintervals
    exact projectResourceIntervals_isOk hcalendar hread
  obtain ⟨parts, hcollect⟩ := (collect_isOk _ _).mpr hall
  refine ⟨parts.flatten, ?_⟩
  simp only [projectUnavailableIntervalsV2, bind_eq_ok]
  exact ⟨parts, hcollect, rfl⟩

theorem utc_ok {value field : String} {instant : Datetime}
    (h : Snapshot.utc value field = .ok instant) : parseUtcInstant value = .ok instant := by
  simp only [Snapshot.utc, bind_eq_ok, exists_unit_iff] at h
  obtain ⟨-, h⟩ := h
  split at h
  · rename_i parsed hparse
    injection h with h
    rw [hparse, h]
  · cases h

theorem calendarsRead_of_accepted (h : AcceptedRecords s.records) : CalendarsRead s := by
  intro resource hresource
  have hmem := h.resource_calendar hresource
  cases hget : calendar? s resource.calendarId with
  | none => exact absurd hmem ((dictGet_eq_none_iff _ _ _).mp hget)
  | some calendar =>
    refine ⟨calendar.unavailableIntervals, by rw [intervalsOf, hget]; rfl, ?_⟩
    obtain ⟨i, hcheck⟩ := h.calendars calendar (mem_of_dictGet hget).1
    intro interval hinterval
    obtain ⟨-, -, j, hrange⟩ := (forEachDistinct_ok hcheck).2 interval hinterval
    simp only [utcRange, bind_eq_ok, require_eq_ok] at hrange
    obtain ⟨start, hstart, stop, hstop, -⟩ := hrange
    exact ⟨⟨start, utc_ok hstart⟩, stop, utc_ok hstop⟩

end

/-! ### A changed resource -/

theorem dictGet_updateRecord {α : Type} {key : α → String} {f : α → α}
    (hkey : ∀ x, key (f x) = key x) (id k : String) (records : List α) :
    dictGet key (updateRecord key id f records) k =
      (dictGet key records k).map fun x => if key x = id then f x else x := by
  have hsame : ∀ x, key (if key x = id then f x else x) = key x := by
    intro x
    split
    · exact hkey x
    · rfl
  rw [dictGet, updateRecord, ← List.map_reverse, List.find?_map, dictGet]
  congr 2
  funext x
  simp only [Function.comp_apply, hsame]

section
variable {document : PlanningSnapshot} {resource : ResourceRecord} {status : String}
  {source : SourceReference} {added : Option UnavailableIntervalRecord}

/-- A calendar after an interval is added to that of the resource. -/
theorem intervals_updateAvailability (id : String) :
    (calendar? (updateAvailability document resource status source added) id).map
        CalendarRecord.unavailableIntervals =
      (calendar? document id).map fun c =>
        c.unavailableIntervals ++ if c.calendarId = resource.calendarId then added.toList
          else [] := by
  cases added with
  | none =>
    simp only [Option.toList_none, ite_self, List.append_nil]
    rfl
  | some interval =>
    have hkey : ∀ c : CalendarRecord, CalendarRecord.calendarId
        { c with unavailableIntervals := c.unavailableIntervals ++ [interval], source } =
          c.calendarId := fun _ => rfl
    have hget : calendar? (updateAvailability document resource status source (some interval)) id =
        (calendar? document id).map fun c => if c.calendarId = resource.calendarId then
          { c with unavailableIntervals := c.unavailableIntervals ++ [interval], source }
          else c :=
      dictGet_updateRecord hkey ..
    rw [hget, Option.map_map]
    congr 1
    funext c
    simp only [Function.comp_apply]
    split
    · rfl
    · exact (List.append_nil _).symm

/-- A resource after the update; its identity and calendar stay. -/
theorem mem_updateAvailability {x : ResourceRecord}
    (h : x ∈ (updateAvailability document resource status source added).records.resources) :
    ∃ y ∈ document.records.resources, x.resourceId = y.resourceId ∧
      x.calendarId = y.calendarId ∧
      (y.resourceId = resource.resourceId ∧ x.status = status ∨
        y.resourceId ≠ resource.resourceId ∧ x = y) := by
  obtain ⟨y, hy, rfl⟩ := mem_updateRecord.mp h
  refine ⟨y, hy, ?_⟩
  split
  · rename_i heq
    exact ⟨rfl, rfl, .inl ⟨heq, rfl⟩⟩
  · rename_i hne
    exact ⟨rfl, rfl, .inr ⟨hne, rfl⟩⟩

theorem mem_updateAvailability_of_mem {y : ResourceRecord}
    (h : y ∈ document.records.resources) :
    ∃ x ∈ (updateAvailability document resource status source added).records.resources,
      x.resourceId = y.resourceId ∧ x.calendarId = y.calendarId ∧
      (y.resourceId = resource.resourceId → x.status = status) := by
  refine ⟨_, mem_updateRecord.mpr ⟨y, h, rfl⟩, ?_⟩
  split
  · exact ⟨rfl, rfl, fun _ => rfl⟩
  · rename_i hne
    exact ⟨rfl, rfl, fun heq => absurd heq hne⟩

theorem intervalsOf_updateAvailability {x y : ResourceRecord} (h : x.calendarId = y.calendarId) :
    intervalsOf (updateAvailability document resource status source added) x =
      (intervalsOf document y).map fun intervals =>
        intervals ++ if y.calendarId = resource.calendarId then added.toList else [] := by
  rw [intervalsOf, h, intervals_updateAvailability, intervalsOf, Option.map_map]
  refine Option.map_congr ?_
  intro c hc
  rw [Function.comp_apply, (mem_of_dictGet hc).2]

theorem mem_added {y : ResourceRecord} {interval : UnavailableIntervalRecord} :
    (interval ∈ if y.calendarId = resource.calendarId then added.toList else []) ↔
      y.calendarId = resource.calendarId ∧ interval ∈ added := by
  split
  · rename_i heq
    rw [Option.mem_toList]
    exact ⟨fun h => ⟨heq, h⟩, fun h => h.2⟩
  · rename_i hne
    exact ⟨fun h => absurd h List.not_mem_nil, fun h => absurd h.1 hne⟩

/-- An interval on the calendar of one resource is derived for all that share the calendar. -/
theorem derives_updateAvailability (hread : CalendarsRead document)
    {horizonStart horizonEnd : Datetime} {x : UnavailableInterval} :
    Derives (updateAvailability document resource status source added) horizonStart horizonEnd x ↔
      Derives document horizonStart horizonEnd x ∨
        ∃ interval ∈ added, ∃ other ∈ document.records.resources,
          other.calendarId = resource.calendarId ∧
          MeetsHorizon horizonStart horizonEnd interval ∧ x = resourceInterval other interval := by
  have hsame : ∀ {a b : ResourceRecord} {i : UnavailableIntervalRecord},
      a.resourceId = b.resourceId → a.calendarId = b.calendarId →
        resourceInterval a i = resourceInterval b i := by
    intro a b i hid hcal
    rw [resourceInterval, resourceInterval, hid, hcal]
  constructor
  · rintro ⟨x', hx', intervals, hintervals, i, hi, hmeets, rfl⟩
    obtain ⟨y, hy, hid, hcal, -⟩ := mem_updateAvailability hx'
    rw [intervalsOf_updateAvailability hcal, Option.mem_map] at hintervals
    obtain ⟨old, hold, rfl⟩ := hintervals
    rw [hsame hid hcal]
    rcases List.mem_append.mp hi with hi | hi
    · exact .inl ⟨y, hy, old, hold, i, hi, hmeets, rfl⟩
    · obtain ⟨hshared, hadded⟩ := mem_added.mp hi
      exact .inr ⟨i, hadded, y, hy, hshared, hmeets, rfl⟩
  · have hupdated : ∀ y ∈ document.records.resources, ∀ old ∈ intervalsOf document y, ∀ i,
        MeetsHorizon horizonStart horizonEnd i →
          i ∈ (old ++ if y.calendarId = resource.calendarId then added.toList else []) →
          Derives (updateAvailability document resource status source added) horizonStart
            horizonEnd (resourceInterval y i) := by
      intro y hy old hold i hmeets hi
      obtain ⟨x', hx', hid, hcal, -⟩ := mem_updateAvailability_of_mem hy
      refine ⟨x', hx', _, ?_, i, hi, hmeets, (hsame hid hcal).symm⟩
      rw [intervalsOf_updateAvailability hcal]
      exact Option.mem_map_of_mem _ hold
    rintro (⟨y, hy, old, hold, i, hi, hmeets, rfl⟩ | ⟨i, hadded, y, hy, hshared, hmeets, rfl⟩)
    · exact hupdated y hy old hold i hmeets (List.mem_append_left _ hi)
    · obtain ⟨old, hold, -⟩ := hread y hy
      exact hupdated y hy old hold i hmeets
        (List.mem_append_right _ (mem_added.mpr ⟨hshared, hadded⟩))

theorem calendarsRead_updateAvailability (hread : CalendarsRead document)
    (hadded : ∀ interval ∈ added, (∃ start, parseUtcInstant interval.startAtUtc = .ok start) ∧
      ∃ stop, parseUtcInstant interval.endAtUtc = .ok stop) :
    CalendarsRead (updateAvailability document resource status source added) := by
  intro x hx
  obtain ⟨y, hy, -, hcal, -⟩ := mem_updateAvailability hx
  obtain ⟨old, hold, hparse⟩ := hread y hy
  rw [intervalsOf_updateAvailability hcal]
  refine ⟨_, Option.mem_map_of_mem _ hold, ?_⟩
  intro i hi
  rcases List.mem_append.mp hi with hi | hi
  · exact hparse i hi
  · exact hadded i (mem_added.mp hi).2

end

/-! ### The other resources -/

/-- The resources other than one have the intervals that they had, for every horizon. -/
def KeepsOthers (document document' : PlanningSnapshot) (resourceId : String) : Prop :=
  ∀ horizonStart horizonEnd projected,
    projectUnavailableIntervalsV2 document horizonStart horizonEnd = .ok projected →
      ∃ projected', projectUnavailableIntervalsV2 document' horizonStart horizonEnd =
          .ok projected' ∧
        ∀ x : UnavailableInterval, x.resourceId ≠ resourceId → (x ∈ projected' ↔ x ∈ projected)

/-- No other resource has the calendar of this one. -/
def OwnsCalendar (document : PlanningSnapshot) (resource : ResourceRecord) : Prop :=
  ∀ other ∈ document.records.resources, other.resourceId ≠ resource.resourceId →
    other.calendarId ≠ resource.calendarId

/-- The calendar of a resource has an interval from one instant to another. -/
def HasInterval (document : PlanningSnapshot) (resource : ResourceRecord) (start stop : String) :
    Prop :=
  ∃ intervals ∈ intervalsOf document resource, ∃ interval ∈ intervals,
    interval.startAtUtc = start ∧ interval.endAtUtc = stop

section
variable {document : PlanningSnapshot} {resource : ResourceRecord} {status : String}
  {source : SourceReference} {interval : UnavailableIntervalRecord}

/-- **An added interval leaves the other resources alone exactly when** none shares the calendar
or the calendar has that interval already. -/
theorem keepsOthers_updateAvailability (hread : CalendarsRead document) {start stop : Datetime}
    (hstart : parseUtcInstant interval.startAtUtc = .ok start)
    (hstop : parseUtcInstant interval.endAtUtc = .ok stop) (hlt : start < stop) :
    KeepsOthers document (updateAvailability document resource status source (some interval))
        resource.resourceId ↔
      OwnsCalendar document resource ∨
        HasInterval document resource interval.startAtUtc interval.endAtUtc := by
  have hread' : CalendarsRead
      (updateAvailability document resource status source (some interval)) := by
    refine calendarsRead_updateAvailability hread ?_
    intro i hi
    rw [← Option.some.inj hi]
    exact ⟨⟨start, hstart⟩, stop, hstop⟩
  constructor
  · intro hkeeps
    rw [or_iff_not_imp_left, OwnsCalendar]
    intro hshared
    push Not at hshared
    obtain ⟨other, hother, hdifferent, hcalendar⟩ := hshared
    -- the interval itself is a horizon that it meets
    obtain ⟨projected, hprojected⟩ := hread.isOk start stop
    obtain ⟨projected', hprojected', hsame⟩ := hkeeps start stop projected hprojected
    have hmeets : MeetsHorizon start stop interval := ⟨start, stop, hstart, hstop, hlt, hlt⟩
    have hnew : resourceInterval other interval ∈ projected' :=
      (mem_projectUnavailableIntervals hprojected').mpr ((derives_updateAvailability hread).mpr
        (.inr ⟨interval, rfl, other, hother, hcalendar, hmeets, rfl⟩))
    obtain ⟨y, -, old, hold, i, hi, -, heq⟩ :=
      (mem_projectUnavailableIntervals hprojected).mp ((hsame _ hdifferent).mp hnew)
    rw [resourceInterval, resourceInterval, UnavailableInterval.mk.injEq] at heq
    obtain ⟨hcal, -, hfrom, hto⟩ := heq
    rw [intervalsOf, ← hcal, hcalendar] at hold
    exact ⟨old, hold, i, hi, hfrom.symm, hto.symm⟩
  · intro hcontained horizonStart horizonEnd projected hprojected
    obtain ⟨projected', hprojected'⟩ := hread'.isOk horizonStart horizonEnd
    refine ⟨projected', hprojected', ?_⟩
    intro x hx
    rw [mem_projectUnavailableIntervals hprojected', mem_projectUnavailableIntervals hprojected,
      derives_updateAvailability hread, or_iff_left_iff_imp]
    rintro ⟨i, hadded, other, hother, hcalendar, hmeets, rfl⟩
    obtain rfl := Option.some.inj hadded
    rcases hcontained with howns | ⟨old, hold, i, hi, hfrom, hto⟩
    · exact absurd hcalendar (howns other hother hx)
    · refine ⟨other, hother, old, ?_, i, hi, ?_, ?_⟩
      · rw [intervalsOf, hcalendar]
        exact hold
      · rw [MeetsHorizon, hfrom, hto]
        exact hmeets
      · rw [resourceInterval, resourceInterval, hfrom, hto]

/-- Without an interval, nothing changes for any resource. -/
theorem keepsOthers_status (hread : CalendarsRead document) (resourceId : String) :
    KeepsOthers document (updateAvailability document resource status source none)
      resourceId := by
  intro horizonStart horizonEnd projected hprojected
  have hread' : CalendarsRead (updateAvailability document resource status source none) := by
    refine calendarsRead_updateAvailability hread ?_
    intro i hi
    cases hi
  obtain ⟨projected', hprojected'⟩ := hread'.isOk horizonStart horizonEnd
  refine ⟨projected', hprojected', ?_⟩
  intro x _
  rw [mem_projectUnavailableIntervals hprojected', mem_projectUnavailableIntervals hprojected,
    derives_updateAvailability hread, or_iff_left_iff_imp]
  rintro ⟨i, hadded, -⟩
  cases hadded

end

/-! ### Runs of the projection -/

/-- The projected document, and the events that led to it. -/
structure StreamState where
  document : PlanningSnapshot
  events : List Json

/-- An event that the projection accepts as the next one of a stream. -/
structure Accepts (scope : ProjectionScope) (s : StreamState) (event : Json) (s' : StreamState) :
    Prop where
  valid : validateExecutionEvent scope event = .ok ()
  position : event.get "source_position" = .int (s.events.length + 1)
  applies : ∃ urgent priorities, (∀ snapshot ∈ urgent, UrgentSnapshot snapshot) ∧
    applyEvent s.document (s.events ++ [event]) event urgent = .ok (s'.document, priorities)
  stream : s'.events = s.events ++ [event]

/-- The kind of an event. -/
def eventType (event : Json) : Option ExecutionEventType :=
  ExecutionEventType.ofText (event.get "event_type").text

/-- The resource that the payload of an event names. -/
def eventResource (event : Json) : Json := (event.get "payload").get "resource_id"

/-- A later recovery makes the resource available again. -/
def Recoverable (scope : ProjectionScope) (s : StreamState) (resourceId : String) : Prop :=
  ∃ middle event after, Reach (Accepts scope) (fun _ _ => True) s middle ∧
    Accepts scope middle event after ∧ eventType event = some .machineRecovered ∧
    eventResource event = .str resourceId ∧
    ∃ resource ∈ after.document.records.resources, resource.resourceId = resourceId ∧
      resource.status = "AVAILABLE"

theorem eventsBefore_last {events : List Json} {event : Json}
    (h : event.get "source_position" = .int (events.length + 1)) :
    eventsBefore (events ++ [event]) event = events := by
  rw [eventsBefore, h]
  simp

theorem openUnavailability_append (resourceId : String) (events : List Json) (event : Json) :
    openUnavailability resourceId (events ++ [event]) =
      if eventResource event = .str resourceId then
        if event.get "event_type" = .str "MACHINE_UNAVAILABLE" then
          if (event.get "payload").get "unavailable_until_utc" = .null then some event else none
        else if event.get "event_type" = .str "MACHINE_RECOVERED" then none
        else openUnavailability resourceId events
      else openUnavailability resourceId events := by
  rw [openUnavailability, List.foldl_append]
  rfl

/-- Only the machine events of a resource open and close its unavailability. -/
theorem openUnavailability_other {resourceId : String} {events : List Json} {event : Json}
    (h : eventResource event = .str resourceId → eventType event ≠ some .machineUnavailable ∧
      eventType event ≠ some .machineRecovered) :
    openUnavailability resourceId (events ++ [event]) = openUnavailability resourceId events := by
  rw [openUnavailability_append]
  split
  · rename_i hresource
    obtain ⟨hdown, hup⟩ := h hresource
    rw [if_neg, if_neg]
    · intro heq
      exact hup (by rw [eventType, heq]; rfl)
    · intro heq
      exact hdown (by rw [eventType, heq]; rfl)
  · rfl

/-- An urgent import has the resources that were there. -/
theorem UrgentImport.resources {current candidate : PlanningSnapshot}
    (h : UrgentImport current candidate) (hcandidate : AcceptedRecords candidate.records) :
    ∀ resource ∈ candidate.records.resources, resource ∈ current.records.resources := by
  have hkept : KeepsRecords ResourceRecord.resourceId (· = ·) current.records.resources
      candidate.records.resources :=
    of_decide_eq_true (h.kept _ (List.mem_of_getElem? (i := 4) rfl))
  have hfixed : SameIds ResourceRecord.resourceId current.records.resources
      candidate.records.resources :=
    of_decide_eq_true (h.fixed _ (List.mem_of_getElem? (i := 4) rfl))
  intro resource hresource
  obtain ⟨old, hold, rfl⟩ := hkept.origin hcandidate.resourceIds hresource
    (hfixed.2 resource hresource)
  exact hold

/-- What an event does to the resources: those it leaves are as they were, and those of a machine
event are updated. -/
theorem applyEvent_resources {document document' : PlanningSnapshot} {fullPrefix : List Json}
    {event : Json} {urgent : Option PlanningSnapshot} {priorities : List UrgentPriorityFact}
    (hurgent : ∀ snapshot ∈ urgent, UrgentSnapshot snapshot)
    (h : applyEvent document fullPrefix event urgent = .ok (document', priorities)) :
    (eventType event = some .machineUnavailable ∧
      projectMachineUnavailable document event = .ok document') ∨
    (eventType event = some .machineRecovered ∧
      projectMachineRecovered document fullPrefix event = .ok document') ∨
    (eventType event ≠ some .machineUnavailable ∧ eventType event ≠ some .machineRecovered ∧
      ∀ resource ∈ document'.records.resources, resource ∈ document.records.resources) := by
  rw [applyEvent] at h
  split at h
  · cases h
  · rename_i htype
    simp only [projectUrgentDemand, bind_eq_ok, pure, Except.pure, Except.ok.injEq, Prod.exists,
      Prod.mk.injEq] at h
    obtain ⟨_, _, ⟨candidate, hfound, _, hvalid, rfl, -⟩, rfl, -⟩ := h
    have haccepted := validatePlanningSnapshotV2_ok (hurgent candidate (found_ok hfound)).accepted
    refine .inr (.inr ⟨?_, ?_, (validateUrgentCandidate_ok hvalid).resources haccepted.records⟩)
    · rw [eventType, htype]
      decide
    · rw [eventType, htype]
      decide
  · rename_i type hurgent htype
    simp only [bind_eq_ok, pure, Except.pure, Except.ok.injEq, Prod.mk.injEq] at h
    obtain ⟨projected, hproject, rfl, -⟩ := h
    rw [eventType, htype]
    by_cases hdown : type = .machineUnavailable
    · subst hdown
      exact .inl ⟨rfl, hproject⟩
    by_cases hup : type = .machineRecovered
    · subst hup
      exact .inr (.inl ⟨rfl, hproject⟩)
    refine .inr (.inr ⟨fun heq => hdown (Option.some.inj heq), fun heq => hup (Option.some.inj heq),
      ?_⟩)
    obtain ⟨records, instances, rfl, -, -, hsame⟩ := projectFact_shape hproject
    intro resource hresource
    rw [← (hsame hdown hup).1]
    exact hresource

section
variable {scope : ProjectionScope} {s s' : StreamState} {event : Json}

theorem Accepts.unavailable (h : Accepts scope s event s')
    (htype : eventType event = some .machineUnavailable) :
    projectMachineUnavailable s.document event = .ok s'.document := by
  obtain ⟨urgent, priorities, hurgent, happly⟩ := h.applies
  rcases applyEvent_resources hurgent happly with ⟨-, hproject⟩ | ⟨hother, -⟩ | ⟨hother, -⟩
  · exact hproject
  · rw [htype] at hother
    cases hother
  · exact absurd htype hother

theorem Accepts.recovered (h : Accepts scope s event s')
    (htype : eventType event = some .machineRecovered) :
    projectMachineRecovered s.document (s.events ++ [event]) event = .ok s'.document := by
  obtain ⟨urgent, priorities, hurgent, happly⟩ := h.applies
  rcases applyEvent_resources hurgent happly with ⟨hother, -⟩ | ⟨-, hproject⟩ | ⟨-, hother, -⟩
  · rw [htype] at hother
    cases hother
  · exact hproject
  · exact absurd htype hother

end

/-! ### Resources that stay unavailable -/

/-- A resource is unavailable, and no recovery can follow the start of its unavailability. -/
structure Stuck (resourceId : String) (s : StreamState) : Prop where
  unavailable : ∀ resource ∈ s.document.records.resources, resource.resourceId = resourceId →
    resource.status = "UNAVAILABLE"
  endless : ∀ openEvent ∈ openUnavailability resourceId s.events, ∀ start,
    parseUtcInstant ((openEvent.get "payload").get "unavailable_from_utc").text = .ok start →
      ∀ instant, ¬start < instant

theorem Stuck.next {scope : ProjectionScope} {resourceId : String} {s s' : StreamState}
    {event : Json} (h : Stuck resourceId s) (hstep : Accepts scope s event s') :
    Stuck resourceId s' := by
  obtain ⟨-, hposition, ⟨urgent, priorities, hurgent, happly⟩, hstream⟩ := hstep
  -- the event is of another resource, or of none
  have hother : ∀ (resource : ResourceRecord) status source added,
      eventResource event = .str resource.resourceId → resource.resourceId ≠ resourceId →
      s'.document = updateAvailability s.document resource status source added →
        Stuck resourceId s' := by
    intro resource status source added hnamed hne hdocument
    refine ⟨?_, ?_⟩
    · intro x hx hid
      rw [hdocument] at hx
      obtain ⟨y, hy, hsame, -, ⟨heq, -⟩ | ⟨-, rfl⟩⟩ := mem_updateAvailability hx
      · exact absurd (heq.symm.trans (hsame.symm.trans hid)) hne
      · exact h.unavailable x hy hid
    · rw [hstream, openUnavailability_other]
      · exact h.endless
      · intro hnamed'
        rw [hnamed'] at hnamed
        exact absurd (Json.str.inj hnamed).symm hne
  rcases applyEvent_resources hurgent happly with ⟨-, hproject⟩ | ⟨-, hproject⟩ | ⟨hdown, hup, hkept⟩
  · obtain ⟨resource, hmem, hnamed, hstatus, source, interval, hdocument, -⟩ :=
      projectMachineUnavailable_ok hproject
    refine hother resource _ _ _ hnamed ?_ hdocument
    intro heq
    have hunavailable := h.unavailable resource hmem heq
    rw [hstatus] at hunavailable
    exact absurd hunavailable (by decide)
  · obtain ⟨resource, hmem, hnamed, -, openEvent, hopen, start, available, hstart, -, hlt, source,
      digits, hdocument⟩ := projectMachineRecovered_ok hproject
    refine hother resource _ _ _ hnamed ?_ hdocument
    rintro rfl
    rw [eventsBefore_last hposition] at hopen
    exact h.endless openEvent hopen start hstart available hlt
  · refine ⟨?_, ?_⟩
    · intro x hx hid
      exact h.unavailable x (hkept x hx) hid
    · rw [hstream, openUnavailability_other fun _ => ⟨hdown, hup⟩]
      exact h.endless

/-- **No later run frees a resource that is stuck.** -/
theorem Stuck.not_recoverable {scope : ProjectionScope} {resourceId : String} {s : StreamState}
    (h : Stuck resourceId s) : ¬Recoverable scope s resourceId := by
  rintro ⟨middle, event, after, hreach, hlast, -, -, resource, hmem, hid, hstatus⟩
  have hmiddle := hreach.invariant (Stuck resourceId) (fun hs _ hnext => hs.next hnext) h
  have hunavailable := (hmiddle.next hlast).unavailable resource hmem hid
  rw [hstatus] at hunavailable
  exact absurd hunavailable (by decide)

/-! ### A recovery -/

/-- The kind of an accepted event, and its payload. -/
theorem checkKind_ok {event : Json} {type : ExecutionEventType} {payload : Json}
    (h : checkKind event = .ok (type, payload)) :
    eventType event = some type ∧ payload = event.get "payload" := by
  simp only [checkKind, bind_eq_ok] at h
  obtain ⟨text, htext, h⟩ := h
  split at h
  · cases h
  · rename_i found hfound
    simp only [bind_eq_ok, factMapping, exists_unit_iff, pure, Except.pure, Except.ok.injEq,
      Prod.mk.injEq] at h
    obtain ⟨_, ⟨-, rfl⟩, -, -, rfl, rfl⟩ := h
    rw [eventType, factText_ok htext]
    exact ⟨hfound, rfl⟩

theorem eventType_text {scope : ProjectionScope} {event : Json} {type : ExecutionEventType}
    (h : validateExecutionEvent scope event = .ok ()) (htype : eventType event = some type) :
    event.get "event_type" = .str type.text := by
  simp only [validateExecutionEvent, bind_eq_ok, exists_unit_iff, Prod.exists] at h
  obtain ⟨-, _, -, -, found, payload, hkind, -⟩ := h
  simp only [checkKind, bind_eq_ok] at hkind
  obtain ⟨text, htext, -⟩ := hkind
  have hget := factText_ok htext
  rw [eventType, hget, ExecutionEventType.ofText] at htype
  have hfind := List.find?_some htype
  rw [hget, of_decide_eq_true hfind]
  rfl

theorem p4Text_ok {value : Json} {field text : String} (h : p4Text value field = .ok text) :
    value = .str text := by
  cases value with
  | str found =>
    simp only [p4Text, bind_eq_ok, exists_unit_iff, require_eq_ok, pure, Except.pure,
      Except.ok.injEq] at h
    rw [h.2]
  | null | bool | int | float | arr | obj => cases h

theorem isFactText_of_factText {field text : String} (h : factText (.str text) field = .ok text) :
    isFactText text = true := by
  simp only [factText, bind_eq_ok, exists_unit_iff, require_eq_ok] at h
  exact h.1

/-- The resource of an accepted machine event is named in a way that every event may name it. -/
theorem machine_named {scope : ProjectionScope} {event : Json} {resourceId : String}
    {type : ExecutionEventType} (h : validateExecutionEvent scope event = .ok ())
    (htype : eventType event = some type) (hfields : type.entityFields = [("RESOURCE", "resource_id")])
    (hresource : eventResource event = .str resourceId) :
    isFactText resourceId = true ∧
      p4Text (.str resourceId) "entity_id" = .ok resourceId := by
  have hcarrier := validateExecutionEvent_carrier h
  simp only [validateExecutionEvent, bind_eq_ok, exists_unit_iff, Prod.exists] at h
  obtain ⟨-, _, -, -, found, payload, hkind, -, -, _, -, hreferences, -⟩ := h
  obtain ⟨hfound, rfl⟩ := checkKind_ok hkind
  obtain rfl : found = type := Option.some.inj (hfound.symm.trans htype)
  simp only [checkReferences, bind_eq_ok, require_eq_ok, expectedEntityReferences, hfields, collect,
    pure, Except.pure, Except.ok.injEq] at hreferences
  obtain ⟨items, hitems, references, hcollect, _, ⟨_, ⟨_, ⟨text, htext, rfl⟩, _, rfl, rfl⟩, rfl⟩,
    rfl⟩ := hreferences
  have heq : text = resourceId := Json.str.inj ((factText_ok htext).symm.trans hresource)
  subst heq
  have hmem : ("RESOURCE", text) ∈ sortedReferences [("RESOURCE", text)] :=
    (mem_sortByKey ..).mpr (List.mem_singleton.mpr rfl)
  obtain ⟨item, hitem, hreference⟩ := (mem_collect hcollect _).mp hmem
  simp only [entityReference, bind_eq_ok, exists_unit_iff, pure, Except.pure, Except.ok.injEq,
    Prod.mk.injEq] at hreference
  obtain ⟨reference, hmapping, -, _, -, _, hentity, -, rfl⟩ := hreference
  simp only [requireEvent, bind_eq_ok, exists_unit_iff] at hcarrier
  obtain ⟨-, _, -, -, items', hitems', references', hcollect', -⟩ := hcarrier
  have hsame : items' = items := by
    cases hrefs : event.get "entity_refs" with
    | arr found =>
      rw [hrefs] at hitems hitems'
      rw [← Except.ok.inj hitems, ← Except.ok.inj hitems']
    | null | bool | int | float | str | obj =>
      rw [hrefs] at hitems
      cases hitems
  rw [hsame] at hcollect'
  obtain ⟨pair, hpair⟩ := (collect_isOk _ _).mp ⟨_, hcollect'⟩ item.1
    (List.fst_mem_of_mem_zipIdx hitem)
  simp only [bind_eq_ok, p4Mapping, factMapping, exists_unit_iff, pure, Except.pure,
    Except.ok.injEq] at hpair hmapping
  obtain ⟨_, ⟨-, rfl⟩, _, -, named, hnamed, -⟩ := hpair
  rw [← hmapping.2] at hentity
  have hfact := factText_ok hentity
  rw [hfact] at hnamed hentity
  refine ⟨isFactText_of_factText hentity, ?_⟩
  rw [hnamed, Json.str.inj (p4Text_ok hnamed)]

/-- 9999-12-31T23:59:59.999999Z -/
def lastInstant : Datetime := ⟨microsLimit - 1, by decide, by decide⟩

theorem le_lastInstant (d : Datetime) : d ≤ lastInstant := by
  have hlt := d.lt
  rw [Datetime.le_iff]
  show d.micros ≤ microsLimit - 1
  omega

/-- The recovery of a resource at the last instant there is. -/
def recoveryContent (resourceId : String) (position : Nat) : EventContent where
  type := .machineRecovered
  references := [("RESOURCE", resourceId)]
  payload := .obj [("kind", .str "MACHINE_RECOVERED"), ("resource_id", .str resourceId),
    ("available_from_utc", .str "9999-12-31T23:59:59.999999Z")]
  position
  occurredAtUtc := "9999-12-31T23:59:59.999999Z"

theorem last_instant : parseUtcInstant "9999-12-31T23:59:59.999999Z" = .ok lastInstant := by
  decide +kernel

theorem last_utc (field : String) :
    factUtc (.str "9999-12-31T23:59:59.999999Z") field = .ok lastInstant := by
  have htext : factText (.str "9999-12-31T23:59:59.999999Z") field =
      .ok "9999-12-31T23:59:59.999999Z" := rfl
  simp only [factUtc, htext, last_instant, bind_eq_ok, Except.ok.injEq, exists_eq_left',
    Except.mapError]

theorem recoveryContent_valid {resourceId : String} {position : Nat} (hposition : 1 ≤ position)
    (hfact : isFactText resourceId = true)
    (hnamed : p4Text (.str resourceId) "entity_id" = .ok resourceId) :
    (recoveryContent resourceId position).Valid lastInstant := by
  have hcarried : p4Utc (.str "9999-12-31T23:59:59.999999Z") "occurred_at_utc" = .ok lastInstant ∧
      p4Utc (.str "9999-12-31T23:59:59.999999Z") "received_at_utc" = .ok lastInstant := by
    decide +kernel
  have htype : p4Text (.str "RESOURCE") "entity_type" = .ok "RESOURCE" := by decide
  have htime : notAfter (recoveryContent resourceId position).payload "available_from_utc"
      "cannot follow event occurrence" lastInstant = .ok lastInstant := by
    simp only [notAfter, bind_eq_ok, exists_unit_iff, require_eq_ok]
    exact ⟨_, last_utc _, le_refl _, rfl⟩
  refine ⟨hposition, last_utc _, last_utc _, hcarried, rfl, ⟨fun _ h => h, fun _ h => h⟩, rfl,
    .singleton _, ?_, ?_, rfl, ?_⟩
  · intro reference hreference
    obtain rfl := List.mem_singleton.mp hreference
    exact ⟨htype, hnamed⟩
  · simp only [checkReferences, bind_eq_ok, require_eq_ok]
    refine ⟨_, rfl, [("RESOURCE", resourceId)], ?_, [("RESOURCE", resourceId)], ?_, rfl⟩
    · show collect _ [(Json.obj _, 0)] = _
      simp only [collect, bind_eq_ok, entityReference, exists_unit_iff]
      exact ⟨_, ⟨_, rfl, rfl, _, rfl, _, factText_str hfact, rfl⟩, _, rfl, rfl⟩
    · simp only [expectedEntityReferences, bind_eq_ok]
      refine ⟨[("RESOURCE", resourceId)], ?_, rfl⟩
      show collect _ [("RESOURCE", "resource_id")] = _
      simp only [collect, bind_eq_ok]
      exact ⟨_, ⟨_, factText_str hfact, rfl⟩, _, rfl, rfl⟩
  · rw [recoveryContent, validatePayloadTimes, bind_eq_ok]
    exact ⟨_, htime, rfl⟩

theorem factUtc_field {value : Json} {field field' : String} {instant : Datetime}
    (h : factUtc value field = .ok instant) : factUtc value field' = .ok instant := by
  simp only [factUtc, bind_eq_ok, mapError_eq_ok] at h ⊢
  obtain ⟨text, htext, hparse⟩ := h
  obtain rfl := factText_ok htext
  exact ⟨text, factText_str (isFactText_of_factText htext), hparse⟩

/-- The start of an accepted unavailability. -/
theorem unavailable_start {scope : ProjectionScope} {event : Json}
    (h : validateExecutionEvent scope event = .ok ())
    (htype : eventType event = some .machineUnavailable) :
    ∃ start, ∀ field,
      factUtc ((event.get "payload").get "unavailable_from_utc") field = .ok start := by
  simp only [validateExecutionEvent, bind_eq_ok, exists_unit_iff, Prod.exists] at h
  obtain ⟨-, _, -, -, found, payload, hkind, -, -, _, -, -, -, htimes⟩ := h
  obtain ⟨hfound, rfl⟩ := checkKind_ok hkind
  obtain rfl := Option.some.inj (hfound.symm.trans htype)
  simp only [validatePayloadTimes, notAfter, bind_eq_ok] at htimes
  obtain ⟨_, ⟨start, hstart, -⟩, -⟩ := htimes
  exact ⟨start, fun _ => factUtc_field hstart⟩

theorem eventDigits_valid {scope : ProjectionScope} {event : Json}
    (h : validateExecutionEvent scope event = .ok ()) :
    ∃ digits, eventDigits event = .ok digits := by
  have hfingerprint := (requireEvent_identity (validateExecutionEvent_carrier h)).1
  have htext : isFactText (executionEventFingerprint event) = true :=
    isFactText_digest "sha256:" _ (by decide) (by decide)
  simp only [eventDigits, bind_eq_ok, hfingerprint]
  exact ⟨_, _, factText_str htext, rfl⟩

/-- **An unavailability without an end can be recovered**, unless it starts at the last instant. -/
theorem recoverable_of_open {scope : ProjectionScope} {s s' : StreamState} {event : Json}
    {resourceId : String} (hrecords : AcceptedRecords s.document.records)
    (haccepts : Accepts scope s event s') (htype : eventType event = some .machineUnavailable)
    (hresource : eventResource event = .str resourceId)
    (hopen : (event.get "payload").get "unavailable_until_utc" = .null) {start : Datetime}
    (hstart : parseUtcInstant ((event.get "payload").get "unavailable_from_utc").text = .ok start)
    (hlt : start < lastInstant) : Recoverable scope s' resourceId := by
  have hproject := haccepts.unavailable htype
  obtain ⟨hvalid, hposition, -, hstream⟩ := haccepts
  obtain ⟨hfact, hnamed⟩ := machine_named hvalid htype rfl hresource
  obtain ⟨resource, hmem, hid, hstatus, source, interval, hdocument, hnone⟩ :=
    projectMachineUnavailable_ok hproject
  obtain rfl := hnone.mpr hopen
  obtain rfl : resource.resourceId = resourceId := Json.str.inj (hid.symm.trans hresource)
  -- the state that the recovery meets
  obtain ⟨found, hfound, hsame, hcalendar, hunavailable⟩ : ∃ found,
      resource? s'.document resource.resourceId = some found ∧
        found.resourceId = resource.resourceId ∧ found.calendarId = resource.calendarId ∧
        found.status = "UNAVAILABLE" := by
    have hget : resource? s.document resource.resourceId = some resource :=
      (dictGet_eq_some_iff _ _ _ _ hrecords.resourceIds).mpr ⟨hmem, rfl⟩
    have hkey : ∀ r : ResourceRecord, ResourceRecord.resourceId
        { r with status := "UNAVAILABLE", source } = r.resourceId := fun _ => rfl
    have hupdated : resource? s'.document resource.resourceId =
        (resource? s.document resource.resourceId).map fun r =>
          if r.resourceId = resource.resourceId then { r with status := "UNAVAILABLE", source }
          else r := by
      rw [hdocument]
      exact dictGet_updateRecord hkey ..
    rw [hget, Option.map_some, if_pos rfl] at hupdated
    exact ⟨_, hupdated, rfl, rfl, rfl⟩
  obtain ⟨calendar, hcalendars⟩ : ∃ calendar,
      calendar? s'.document found.calendarId = some calendar := by
    have hread := calendarsRead_of_accepted hrecords resource hmem
    obtain ⟨intervals, hintervals, -⟩ := hread
    obtain ⟨calendar, hget, -⟩ := Option.mem_map.mp hintervals
    rw [hcalendar, hdocument]
    exact ⟨calendar, hget⟩
  have hlast : openUnavailability found.resourceId s'.events = some event := by
    have hdown : event.get "event_type" = .str "MACHINE_UNAVAILABLE" :=
      eventType_text hvalid htype
    rw [hstream, openUnavailability_append, hsame, if_pos hresource, if_pos hdown, if_pos hopen]
  obtain ⟨start', hread⟩ := unavailable_start hvalid htype
  obtain rfl : start' = start :=
    Except.ok.inj ((factUtc_ok (hread "")).symm.trans hstart)
  obtain ⟨digits, hdigits⟩ := eventDigits_valid hvalid
  -- the recovery at the end of time
  have hcontent := recoveryContent_valid (Nat.succ_pos s'.events.length) hfact hnamed
  let recovery := sealEvent scope (recoveryContent resource.resourceId (s'.events.length + 1))
  obtain ⟨source', hsource'⟩ := sealed_source scope
    (recoveryContent resource.resourceId (s'.events.length + 1))
  have hposition' : factInteger (recovery.get "source_position") "source_position" 1 =
      .ok ((s'.events.length + 1 : Nat) : Int) := by
    have hone : (1 : Int) ≤ ((s'.events.length + 1 : Nat) : Int) := by omega
    show require _ _ >>= _ = _
    rw [bind_eq_ok]
    exact ⟨(), (require_eq_ok ..).mpr hone, rfl⟩
  have htake : (s'.events ++ [recovery]).take (((s'.events.length + 1 : Nat) : Int) - 1).toNat =
      s'.events := by
    simp
  obtain ⟨document, hrecovered⟩ : ∃ document,
      projectMachineRecovered s'.document (s'.events ++ [recovery]) recovery = .ok document := by
    simp only [projectMachineRecovered, payloadResource, bind_eq_ok, exists_unit_iff,
      require_eq_ok]
    refine ⟨_, found, ⟨_, factText_str hfact, by rw [hfound]; rfl⟩, _, hposition', hunavailable,
      event, ?_, lastInstant, last_utc _, start', hread _, hlt, calendar, ?_, digits, hdigits,
      source', hsource', rfl⟩
    · rw [htake, hlast]
      rfl
    · rw [hcalendars]
      rfl
  have hlater : Accepts scope s' recovery ⟨document, s'.events ++ [recovery]⟩ := by
    refine ⟨sealEvent_valid hcontent, rfl, ⟨none, [], ?_, ?_⟩, rfl⟩
    · intro snapshot hsnapshot
      cases hsnapshot
    · refine sealed_apply ?_ hrecovered
      intro heq
      cases heq
  obtain ⟨other, hother, hnamed', -, _, -, _, _, -, -, -, _, _, rfl⟩ :=
    projectMachineRecovered_ok hrecovered
  have hid' : other.resourceId = resource.resourceId := (Json.str.inj hnamed').symm
  obtain ⟨x, hx, hxid, -, hxstatus⟩ := mem_updateAvailability_of_mem hother
  exact ⟨s', recovery, _, .refl, hlater, rfl, rfl, x, hx, hxid.trans hid', hxstatus rfl⟩

/-! ### Machine events -/

/-- An unavailability comes without an end, and starts before the last instant there is. -/
def OpenEnded (event : Json) : Prop :=
  (event.get "payload").get "unavailable_until_utc" = .null ∧
    ∃ start, parseUtcInstant ((event.get "payload").get "unavailable_from_utc").text =
        .ok start ∧ start < lastInstant

/-- The interval that a recovery closes is for its resource alone, or was there before. -/
def ClosesOwnInterval (s : StreamState) (event : Json) (resourceId : String) : Prop :=
  ∀ resource ∈ s.document.records.resources, resource.resourceId = resourceId →
    OwnsCalendar s.document resource ∨
      ∃ openEvent ∈ openUnavailability resourceId s.events,
        HasInterval s.document resource
          ((openEvent.get "payload").get "unavailable_from_utc").text
          ((event.get "payload").get "available_from_utc").text

section
variable {scope : ProjectionScope} {s s' : StreamState} {event : Json} {resourceId : String}

/-- An unavailability that has an end, or starts at the last instant, leaves its resource stuck. -/
theorem stuck_of_bounded (haccepts : Accepts scope s event s')
    (htype : eventType event = some .machineUnavailable)
    (hresource : eventResource event = .str resourceId) (hbounded : ¬OpenEnded event) :
    Stuck resourceId s' := by
  obtain ⟨resource, hmem, hid, hstatus, source, interval, hdocument, -⟩ :=
    projectMachineUnavailable_ok (haccepts.unavailable htype)
  obtain rfl : resource.resourceId = resourceId := Json.str.inj (hid.symm.trans hresource)
  refine ⟨?_, ?_⟩
  · intro x hx hxid
    rw [hdocument] at hx
    obtain ⟨y, -, hsame, -, ⟨-, hunavailable⟩ | ⟨hne, -⟩⟩ := mem_updateAvailability hx
    · exact hunavailable
    · exact absurd (hsame.symm.trans hxid) hne
  · intro openEvent hopen start hstart instant hlt
    have hdown : event.get "event_type" = .str "MACHINE_UNAVAILABLE" :=
      eventType_text haccepts.valid htype
    rw [haccepts.stream, openUnavailability_append, if_pos hresource, if_pos hdown] at hopen
    split at hopen
    · rename_i hnull
      obtain rfl := Option.some.inj hopen
      exact hbounded ⟨hnull, start, hstart, hlt.trans_le (le_lastInstant instant)⟩
    · cases hopen

theorem machineUnavailable_iff (hrecords : AcceptedRecords s.document.records)
    (haccepts : Accepts scope s event s') (htype : eventType event = some .machineUnavailable)
    (hresource : eventResource event = .str resourceId) :
    KeepsOthers s.document s'.document resourceId ∧ Recoverable scope s' resourceId ↔
      OpenEnded event := by
  constructor
  · rintro ⟨-, hrecoverable⟩
    by_contra hbounded
    exact (stuck_of_bounded haccepts htype hresource hbounded).not_recoverable hrecoverable
  · rintro ⟨hopen, start, hstart, hlt⟩
    refine ⟨?_, recoverable_of_open hrecords haccepts htype hresource hopen hstart hlt⟩
    obtain ⟨resource, -, -, -, source, interval, hdocument, hnone⟩ :=
      projectMachineUnavailable_ok (haccepts.unavailable htype)
    rw [hdocument, hnone.mpr hopen]
    exact keepsOthers_status (calendarsRead_of_accepted hrecords) resourceId

theorem machineRecovered_iff (hrecords : AcceptedRecords s.document.records)
    (haccepts : Accepts scope s event s') (htype : eventType event = some .machineRecovered)
    (hresource : eventResource event = .str resourceId) :
    KeepsOthers s.document s'.document resourceId ↔ ClosesOwnInterval s event resourceId := by
  obtain ⟨resource, hmem, hid, -, openEvent, hopen, start, available, hstart, havailable, hlt,
    source, digits, hdocument⟩ := projectMachineRecovered_ok (haccepts.recovered htype)
  obtain rfl : resource.resourceId = resourceId := Json.str.inj (hid.symm.trans hresource)
  rw [eventsBefore_last haccepts.position] at hopen
  have hkeeps : KeepsOthers s.document s'.document resource.resourceId ↔
      OwnsCalendar s.document resource ∨ HasInterval s.document resource
        ((openEvent.get "payload").get "unavailable_from_utc").text
        ((event.get "payload").get "available_from_utc").text := by
    rw [hdocument]
    exact keepsOthers_updateAvailability (calendarsRead_of_accepted hrecords) hstart havailable hlt
  rw [hkeeps]
  have hopens : ∀ other, other ∈ openUnavailability resource.resourceId s.events ↔
      other = openEvent := by
    intro other
    rw [hopen, Option.mem_def, Option.some.injEq, eq_comm]
  have hunique : ∀ other ∈ s.document.records.resources,
      other.resourceId = resource.resourceId ↔ other = resource := by
    intro other hother
    refine ⟨fun heq => List.inj_on_of_nodup_map hrecords.resourceIds hother hmem heq, ?_⟩
    rintro rfl
    rfl
  constructor
  · intro hcontained other hother hsame
    obtain rfl := (hunique other hother).mp hsame
    exact hcontained.imp_right fun hinterval => ⟨openEvent, (hopens _).mpr rfl, hinterval⟩
  · intro hcloses
    refine (hcloses resource hmem rfl).imp_right ?_
    rintro ⟨other, hother, hinterval⟩
    obtain rfl := (hopens other).mp hother
    exact hinterval

/-- **An accepted machine event leaves the intervals of every other resource as they were, and
leaves a way back for the resource that it makes unavailable, exactly when** an unavailability
comes without an end (and before the last instant), and a recovery closes an interval on a
calendar that no other resource has or that is there already. -/
theorem machine_event_iff {type : ExecutionEventType}
    (hbase : validatePlanningSnapshotV2 s.document = .ok ())
    (haccepts : Accepts scope s event s') (htype : eventType event = some type)
    (hmachine : type = .machineUnavailable ∨ type = .machineRecovered)
    (hresource : eventResource event = .str resourceId) :
    (KeepsOthers s.document s'.document resourceId ∧
        (type = .machineUnavailable → Recoverable scope s' resourceId)) ↔
      (type = .machineUnavailable → OpenEnded event) ∧
        (type = .machineRecovered → ClosesOwnInterval s event resourceId) := by
  have hrecords := (validatePlanningSnapshotV2_ok hbase).records
  rcases hmachine with rfl | rfl
  · have hother : ExecutionEventType.machineUnavailable ≠ .machineRecovered := by decide
    simp only [true_implies, hother, false_implies, and_true]
    exact machineUnavailable_iff hrecords haccepts htype hresource
  · have hother : ExecutionEventType.machineRecovered ≠ .machineUnavailable := by decide
    simp only [true_implies, hother, false_implies, and_true, true_and]
    exact machineRecovered_iff hrecords haccepts htype hresource

end

/-- A resource is unavailable from an instant on, perhaps until another. -/
def downContent (stop : Json) : EventContent where
  type := .machineUnavailable
  references := [("RESOURCE", "R1")]
  payload := .obj [("kind", .str "MACHINE_UNAVAILABLE"), ("resource_id", .str "R1"),
    ("unavailable_from_utc", .str "2026-01-01T00:00:00Z"), ("unavailable_until_utc", stop)]
  position := 1
  occurredAtUtc := "2026-01-01T00:00:00Z"

theorem openContent_valid : (downContent .null).Valid plainInstant := by
  constructor
  all_goals decide +kernel

theorem boundedContent_valid : (downContent (.str "2026-01-01T01:00:00Z")).Valid plainInstant := by
  constructor
  all_goals decide +kernel

/-- The unavailability is accepted. -/
theorem down_accepted {stop : Json} (hvalid : (downContent stop).Valid plainInstant) :
    ∃ s', Accepts plainScope ⟨factBase [], []⟩ (sealEvent plainScope (downContent stop)) s' := by
  obtain ⟨source, hsource⟩ := sealed_source plainScope (downContent stop)
  obtain ⟨digits, hdigits⟩ := eventDigits_valid (sealEvent_valid hvalid)
  have hcalendar : calendar? (factBase []) "CAL1" = some ⟨"CAL1", "UTC", [], plainSource "CAL1"⟩ :=
    rfl
  obtain ⟨document, hproject⟩ : ∃ document, projectMachineUnavailable (factBase [])
      (sealEvent plainScope (downContent stop)) = .ok document := by
    obtain ⟨interval, hinterval⟩ : ∃ interval, closedInterval (factBase [])
        ⟨"R1", "R1", "MACHINE", "AVAILABLE", "G1", "CAL1", [], plainSource "R1"⟩
        (sealEvent plainScope (downContent stop)) = .ok interval :=
      closedInterval_isOk hcalendar hdigits
    simp only [projectMachineUnavailable, bind_eq_ok, exists_unit_iff, require_eq_ok]
    exact ⟨_, _, rfl, rfl, source, hsource, interval, hinterval, rfl⟩
  refine ⟨⟨document, [sealEvent plainScope (downContent stop)]⟩, sealEvent_valid hvalid, rfl,
    ⟨none, [], ?_, ?_⟩, rfl⟩
  · intro snapshot hsnapshot
    cases hsnapshot
  · refine sealed_apply ?_ hproject
    intro heq
    cases heq

/-- An unavailability that comes with its end is accepted, and its resource never returns. -/
theorem machine_event_iff_bounded :
    validatePlanningSnapshotV2 (factBase []) = .ok () ∧
      ∃ s', Accepts plainScope ⟨factBase [], []⟩
          (sealEvent plainScope (downContent (.str "2026-01-01T01:00:00Z"))) s' ∧
        ¬Recoverable plainScope s' "R1" := by
  refine ⟨factBase_valid, ?_⟩
  obtain ⟨s', haccepts⟩ := down_accepted boundedContent_valid
  refine ⟨s', haccepts, (stuck_of_bounded haccepts rfl rfl ?_).not_recoverable⟩
  rintro ⟨hopen, -⟩
  cases hopen

theorem machine_event_iff_open :
    ∃ s', Accepts plainScope ⟨factBase [], []⟩ (sealEvent plainScope (downContent .null)) s' ∧
      KeepsOthers (factBase []) s'.document "R1" ∧ Recoverable plainScope s' "R1" := by
  obtain ⟨s', haccepts⟩ := down_accepted openContent_valid
  have hlt : plainInstant < lastInstant := by decide
  have htype : eventType (sealEvent plainScope (downContent .null)) = some .machineUnavailable :=
    rfl
  have hother : ExecutionEventType.machineUnavailable ≠ .machineRecovered := by decide
  have hopen : OpenEnded (sealEvent plainScope (downContent .null)) := by
    refine ⟨rfl, plainInstant, ?_, hlt⟩
    exact plain_instant
  obtain ⟨hkeeps, hrecoverable⟩ := (machine_event_iff (s := ⟨factBase [], []⟩) factBase_valid
    haccepts htype (.inl rfl) rfl).mpr ⟨fun _ => hopen, fun heq => absurd heq hother⟩
  exact ⟨s', haccepts, hkeeps, hrecoverable rfl⟩

end PlantNexus.Execution
