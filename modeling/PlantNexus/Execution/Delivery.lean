import PlantNexus.Data.Reach
import PlantNexus.Execution.SealedEvents
import PlantNexus.Execution.Simulator

/-! Delivery of a simulated stream.

Runs of one configuration and schedule, with the events declared in any order, start from a
checkpoint that was returned earlier or from none, deliver their events through the ingress and
may stop at any event. Other writers file events of other streams meanwhile. The ledger of the
stream is a prefix of the compiled stream throughout: an event that is there already is found
under its identity, and the next one is free under both of its keys. -/
namespace PlantNexus.Execution
open Data Domain Time

/-! ### The compiled stream -/

section
variable {config : ExecutionSimulatorConfig} {schedule other : VersionedExecutionSchedule}
  {compiled : CompiledExecutionStream}

theorem compile_valid (h : compile config schedule = .ok compiled) :
    ∃ fingerprints, validateEventPrefix compiled.scope compiled.events = .ok fingerprints := by
  simp only [compile, bind_eq_ok, exists_unit_iff, mapError_eq_ok, pure, Except.pure,
    Except.ok.injEq] at h
  obtain ⟨-, queueSeed, -, queued, -, origin, -, documents, -, fingerprints, hvalid, rfl⟩ := h
  exact ⟨fingerprints, hvalid⟩

/-- Distinct keys tell the declared events apart. -/
theorem eventKey_inj (schedule : VersionedExecutionSchedule) {a b : ScheduledExecutionEvent}
    (ha : a ∈ schedule.events) (hb : b ∈ schedule.events) (h : a.eventKey = b.eventKey) : a = b :=
  List.inj_on_of_nodup_map schedule.keys ha hb h

theorem toJson_reordered (h : schedule.Reordered other) : other.toJson = schedule.toJson := by
  have hevents : sortByKey ScheduledExecutionEvent.eventKey schedule.events =
      sortByKey ScheduledExecutionEvent.eventKey other.events :=
    sortByKey_eq_of_perm (fun a ha b hb hkey => eventKey_inj schedule ha hb hkey) h.events
  simp only [VersionedExecutionSchedule.toJson, h.configId, h.configVersion,
    h.baseScheduleContentFingerprint, h.scenarioFingerprint, h.factoryProfileFingerprint,
    h.generatorFingerprint, hevents]

theorem bindingGuard_reordered (h : schedule.Reordered other)
    (hguard : bindingGuard config schedule = .ok ()) : bindingGuard config other = .ok () := by
  have hall : ∀ events : List ScheduledExecutionEvent, forEach
      (fun _ event => require (event.offsetSeconds % config.virtualClock.resolutionSeconds = 0)
        (SimulatorError.rejected .orderingViolation
          s!"event_schedule.events[{event.eventKey}].offset_seconds"
          "must align to the virtual-clock resolution")) events = .ok () ↔
      ∀ event ∈ events, event.offsetSeconds % config.virtualClock.resolutionSeconds = 0 := by
    intro events
    exact forEach_eq_ok_iff _ _ _ fun event _ _ => require_eq_ok ..
  simp only [bindingGuard, bind_eq_ok, exists_unit_iff, hall, h.baseScheduleContentFingerprint,
    h.scenarioFingerprint, h.factoryProfileFingerprint, h.generatorFingerprint] at hguard ⊢
  refine ⟨hguard.1, hguard.2.1, hguard.2.2.1, hguard.2.2.2.1, ?_⟩
  intro event hevent
  exact hguard.2.2.2.2 event (h.events.mem_iff.mpr hevent)

/-- The order of the queue tells its entries apart. -/
theorem queued_key_inj {queueSeed : SeedMaterial} {queued : List QueuedEvent}
    (h : collect (queueEvent queueSeed) schedule.events = .ok queued) :
    ∀ a ∈ queued, ∀ b ∈ queued, a.key = b.key → a = b := by
  have hsource : ∀ entry ∈ queued, ∃ event ∈ schedule.events,
      queueEvent queueSeed event = .ok entry := by
    intro entry hentry
    exact forall₂_exists_left ((collect_eq_ok_iff ..).mp h) hentry
  have hevent : ∀ {event : ScheduledExecutionEvent} {entry : QueuedEvent},
      queueEvent queueSeed event = .ok entry → entry.event = event := by
    intro event entry hentry
    simp only [queueEvent, bind_eq_ok, pure, Except.pure, Except.ok.injEq] at hentry
    obtain ⟨seed, -, rfl⟩ := hentry
    rfl
  intro a ha b hb hkey
  obtain ⟨x, hx, hqx⟩ := hsource a ha
  obtain ⟨y, hy, hqy⟩ := hsource b hb
  have hkeys : a.event.eventKey = b.event.eventKey := by
    simp only [QueuedEvent.key, toLex_inj, Prod.mk.injEq] at hkey
    exact hkey.2.2
  rw [hevent hqx, hevent hqy] at hkeys
  obtain rfl := eventKey_inj schedule hx hy hkeys
  exact Except.ok.inj (hqx.symm.trans hqy)

/-- **The compiled stream does not depend on the order of declaration.** -/
theorem compile_reordered (hcompile : compile config schedule = .ok compiled)
    (h : schedule.Reordered other) : compile config other = .ok compiled := by
  have hfingerprint : runFingerprint config other = runFingerprint config schedule := by
    rw [runFingerprint, runFingerprint, VersionedExecutionSchedule.fingerprint,
      VersionedExecutionSchedule.fingerprint, toJson_reordered h]
  simp only [compile, bind_eq_ok, exists_unit_iff, hfingerprint] at hcompile ⊢
  obtain ⟨hguard, queueSeed, hseed, queued, hqueued, hrest⟩ := hcompile
  obtain ⟨queued', hqueued', hperm⟩ := collect_perm hqueued h.events
  refine ⟨bindingGuard_reordered h hguard, queueSeed, hseed, queued', hqueued', ?_⟩
  rw [← sortByKey_eq_of_perm (queued_key_inj hqueued) hperm]
  exact hrest

end

/-! ### Runs -/

structure StreamSystem where
  tables : ExecutionTables
  active : List Delivery
  returned : List ExecutionSimulatorCheckpoint

def StreamSystem.initial : StreamSystem := ⟨⟨[], []⟩, [], []⟩

inductive StreamEvent where
  | filed (row : LedgerRow)
  | started (delivery : Delivery)
  | refused (error : SimulatorError)
  | delivered (delivery : Delivery)
  | rejected (delivery : Delivery) (error : ProjectionError)
  | aborted (delivery : Delivery)
  | finished (delivery : Delivery) (result : ExecutionSimulationResult)

section
variable (config : ExecutionSimulatorConfig) (schedule : VersionedExecutionSchedule)
  (compiled : CompiledExecutionStream)

/-- One atomic step. Any service may take the events of a run; a writer of another stream never
hits an identity of this one, since identities are digests. -/
inductive StreamStep : StreamSystem → StreamEvent → StreamSystem → Prop
  | filed {s : StreamSystem} {row : LedgerRow} {audits : List ReplanAuditRecord}
      (hstream : ¬row.InStream compiled.scope)
      (hid : row.eventId ∉ compiled.events.map eventIdText) :
      StreamStep s (.filed row) { s with tables := ⟨s.tables.ledger ++ [row], audits⟩ }
  | started {s : StreamSystem} {other : VersionedExecutionSchedule} {maxEvents : Option Nat}
      {checkpoint : Option ExecutionSimulatorCheckpoint} {delivery : Delivery}
      (hother : schedule.Reordered other) (hcheckpoint : ∀ c ∈ checkpoint, c ∈ s.returned)
      (h : startRun config other checkpoint maxEvents = .ok delivery) :
      StreamStep s (.started delivery) { s with active := delivery :: s.active }
  | refused {s : StreamSystem} {other : VersionedExecutionSchedule} {maxEvents : Option Nat}
      {checkpoint : Option ExecutionSimulatorCheckpoint} {error : SimulatorError}
      (h : startRun config other checkpoint maxEvents = .error error) :
      StreamStep s (.refused error) s
  | delivered {s : StreamSystem} {delivery : Delivery} {service : ProjectionScope} {event : Json}
      {tables : ExecutionTables} {result : ExecutionEventIngressResult}
      (hactive : delivery ∈ s.active) (hnext : delivery.next < delivery.stop)
      (hevent : delivery.compiled.events[delivery.next]? = some event)
      (h : ingestEvent service s.tables event = .ok (tables, result)) :
      StreamStep s (.delivered delivery)
        { s with
          tables
          active := { delivery with next := delivery.next + 1 } :: s.active.erase delivery }
  | rejected {s : StreamSystem} {delivery : Delivery} {service : ProjectionScope} {event : Json}
      {error : ProjectionError} (hactive : delivery ∈ s.active)
      (hnext : delivery.next < delivery.stop)
      (hevent : delivery.compiled.events[delivery.next]? = some event)
      (h : ingestEvent service s.tables event = .error error) :
      StreamStep s (.rejected delivery error) { s with active := s.active.erase delivery }
  | aborted {s : StreamSystem} {delivery : Delivery} (hactive : delivery ∈ s.active) :
      StreamStep s (.aborted delivery) { s with active := s.active.erase delivery }
  | finished {s : StreamSystem} {delivery : Delivery} (hactive : delivery ∈ s.active)
      (hdone : delivery.stop ≤ delivery.next) :
      StreamStep s (.finished delivery delivery.result)
        { s with
          active := s.active.erase delivery
          returned := delivery.result.checkpoint :: s.returned }

end

/-- The rows of the first events of a stream. -/
def filedRows (events : List Json) : List LedgerRow :=
  events.mapIdx fun i event => .ofDocument event ((i : Int) + 1)

/-- The ledger of the stream holds its first `count` events, each once and at its position. -/
structure HoldsPrefix (ledger : List LedgerRow) (compiled : CompiledExecutionStream) (count : Nat) :
    Prop where
  count_le : count ≤ compiled.events.length
  rows : ledger.filter (fun row => row.InStream compiled.scope) =
    filedRows (compiled.events.take count)

section
variable {config : ExecutionSimulatorConfig} {schedule : VersionedExecutionSchedule}
  {compiled : CompiledExecutionStream} {s s' : StreamSystem}

/-- A run of the stream that has delivered events of the ledger's prefix only. -/
structure DeliveryInv (compiled : CompiledExecutionStream) (count : Nat) (delivery : Delivery) :
    Prop where
  stream : delivery.compiled = compiled
  limit : delivery.maxEvents ≠ some 0
  start_le : delivery.start ≤ compiled.events.length
  next_le : delivery.next ≤ count
  next_le_stop : delivery.next ≤ delivery.stop

structure StreamInv (compiled : CompiledExecutionStream) (s : StreamSystem) (count : Nat) : Prop
    extends HoldsPrefix s.tables.ledger compiled count where
  others : ∀ row ∈ s.tables.ledger, ¬row.InStream compiled.scope →
    row.eventId ∉ compiled.events.map eventIdText
  active : ∀ delivery ∈ s.active, DeliveryInv compiled count delivery
  returned : ∀ checkpoint ∈ s.returned, ∃ position ≤ count,
    checkpoint = compiled.checkpoint position

/-! ### The rows of a prefix -/

theorem filedRows_succ {events : List Json} {count : Nat} {event : Json}
    (h : events[count]? = some event) :
    filedRows (events.take (count + 1)) =
      filedRows (events.take count) ++ [.ofDocument event ((count : Int) + 1)] := by
  have hlt : count < events.length := List.getElem?_eq_some_iff.mp h |>.1
  have hlength : (events.take count).length = count := List.length_take_of_le hlt.le
  rw [List.take_add_one, h, Option.toList_some, filedRows, filedRows, List.mapIdx_append, hlength]
  simp

theorem mem_filedRows {events : List Json} {count : Nat} {row : LedgerRow}
    (h : row ∈ filedRows (events.take count)) :
    ∃ i event, i < count ∧ events[i]? = some event ∧
      row = .ofDocument event ((i : Int) + 1) := by
  obtain ⟨i, hi, hrow⟩ := List.mem_mapIdx.mp h
  have hbounds : i < count ∧ i < events.length := by
    rw [List.length_take] at hi
    omega
  refine ⟨i, events.get ⟨i, hbounds.2⟩, hbounds.1, List.getElem?_eq_getElem hbounds.2, ?_⟩
  rw [← hrow, List.getElem_take]
  rfl

theorem filedRows_mem {events : List Json} {count i : Nat} {event : Json} (hi : i < count)
    (h : events[i]? = some event) :
    LedgerRow.ofDocument event ((i : Int) + 1) ∈ filedRows (events.take count) := by
  have hlt : i < events.length := List.getElem?_eq_some_iff.mp h |>.1
  apply List.mem_mapIdx.mpr
  refine ⟨i, by rw [List.length_take]; omega, ?_⟩
  have hevent := List.getElem?_eq_some_iff.mp h |>.2
  rw [List.getElem_take, hevent]

/-- What is known of a compiled stream. -/
structure StreamPlaced (compiled : CompiledExecutionStream) : Prop where
  placed : ∀ i event, compiled.events[i]? = some event →
    ∃ eventId fingerprint, Placed compiled.scope (1 + i) eventId fingerprint event
  ids : (compiled.events.map eventIdText).Nodup

theorem compile_placed (h : compile config schedule = .ok compiled) : StreamPlaced compiled := by
  obtain ⟨fingerprints, hvalid⟩ := compile_valid h
  obtain ⟨hplaced, hnodup, -⟩ := validateEventsFrom_placed hvalid
  exact ⟨hplaced, hnodup⟩

theorem StreamPlaced.inStream (h : StreamPlaced compiled) {i : Nat} {event : Json}
    (hevent : compiled.events[i]? = some event) (position : Int) :
    (LedgerRow.ofDocument event position).InStream compiled.scope := by
  obtain ⟨eventId, fingerprint, hplaced⟩ := h.placed i event hevent
  refine ⟨?_, ?_, ?_⟩
  · rw [LedgerRow.ofDocument, hplaced.authorityId]
    rfl
  · rw [LedgerRow.ofDocument, hplaced.streamId]
    rfl
  · rw [LedgerRow.ofDocument, hplaced.streamVersion]
    rfl

/-- An identity belongs to one position. -/
theorem StreamPlaced.index_eq (h : StreamPlaced compiled) {i j : Nat} {a b : Json}
    (ha : compiled.events[i]? = some a) (hb : compiled.events[j]? = some b)
    (hid : eventIdText a = eventIdText b) : i = j := by
  have hi : (compiled.events.map eventIdText)[i]? = some (eventIdText a) := by
    rw [List.getElem?_map, ha]
    rfl
  have hj : (compiled.events.map eventIdText)[j]? = some (eventIdText a) := by
    rw [List.getElem?_map, hb, hid]
    rfl
  obtain ⟨hlt, -⟩ := List.getElem?_eq_some_iff.mp hi
  exact (List.getElem?_inj hlt h.ids).mp (hi.trans hj.symm)

/-! ### A delivery -/

theorem findEvent_eq_none {ledger : List LedgerRow} {row : LedgerRow}
    (h : findEvent ledger row = none) : ∀ stored ∈ ledger, stored.eventId ≠ row.eventId := by
  rw [findEvent, Option.or_eq_none_iff] at h
  intro stored hstored hid
  have hnone := List.find?_eq_none.mp h.1 stored hstored
  exact hnone (by simpa using hid)

theorem findEvent_eq_some {ledger : List LedgerRow} {row stored : LedgerRow}
    (h : findEvent ledger row = some stored) :
    stored ∈ ledger ∧ (stored.eventId = row.eventId ∨ stored.SamePosition row) := by
  rcases Option.or_eq_some_iff.mp h with h | ⟨-, h⟩
  · exact ⟨List.mem_of_find?_eq_some h, .inl (by simpa using List.find?_some h)⟩
  · exact ⟨List.mem_of_find?_eq_some h, .inr (by simpa using List.find?_some h)⟩

theorem HoldsPrefix.mem {ledger : List LedgerRow} {count : Nat}
    (h : HoldsPrefix ledger compiled count) {row : LedgerRow} :
    row ∈ filedRows (compiled.events.take count) ↔
      row ∈ ledger ∧ row.InStream compiled.scope := by
  rw [← h.rows]
  simp

/-- The event after the prefix collides with nothing in the ledger. -/
theorem next_unfiled (hstream : StreamPlaced compiled) {ledger : List LedgerRow} {count : Nat}
    (hleading : HoldsPrefix ledger compiled count)
    (hothers : ∀ row ∈ ledger, ¬row.InStream compiled.scope →
      row.eventId ∉ compiled.events.map eventIdText)
    {event : Json} (hevent : compiled.events[count]? = some event) {stored : LedgerRow}
    (hfound : findEvent ledger (.ofDocument event ((count : Int) + 1)) = some stored) : False := by
  obtain ⟨hmem, hsame⟩ := findEvent_eq_some hfound
  have hrow := hstream.inStream hevent ((count : Int) + 1)
  have hin : stored.InStream compiled.scope := by
    rcases hsame with hid | hposition
    · by_contra hout
      apply hothers stored hmem hout
      rw [hid]
      exact List.mem_map_of_mem (List.mem_of_getElem? hevent)
    · exact ⟨hposition.1.trans hrow.1, hposition.2.1.trans hrow.2.1,
        hposition.2.2.1.trans hrow.2.2⟩
  obtain ⟨i, found, hi, hfoundEvent, rfl⟩ := mem_filedRows (hleading.mem.mpr ⟨hmem, hin⟩)
  rcases hsame with hid | hposition
  · have hindex := hstream.index_eq hfoundEvent hevent hid
    omega
  · have hsame : (i : Int) + 1 = (count : Int) + 1 := hposition.2.2.2
    omega

/-- The ledger after an event of the stream has been taken. -/
theorem append_prefix (hstream : StreamPlaced compiled) {ledger ledger' : List LedgerRow}
    {count index : Nat} {event : Json} {replayed : Bool}
    (hleading : HoldsPrefix ledger compiled count)
    (hothers : ∀ row ∈ ledger, ¬row.InStream compiled.scope →
      row.eventId ∉ compiled.events.map eventIdText)
    (hindex : index ≤ count) (hevent : compiled.events[index]? = some event)
    (h : appendEvent ledger event = .ok (ledger', replayed)) :
    (ledger' = ledger ∧ index < count) ∨
      (ledger' = ledger ++ [.ofDocument event ((count : Int) + 1)] ∧
        HoldsPrefix ledger' compiled (count + 1)) := by
  obtain ⟨eventId, fingerprint, hplaced⟩ := hstream.placed index event hevent
  have hposition : event.get "source_position" = .int ((index : Int) + 1) := by
    rw [hplaced.position]
    congr 1
    omega
  rcases appendEvent_ok h with ⟨rfl, -, stored, -, -, hfound⟩ | ⟨position, hvalue, rfl, -, hnone⟩
  · refine .inl ⟨rfl, lt_of_le_of_ne hindex ?_⟩
    intro hsame
    subst hsame
    exact next_unfiled hstream hleading hothers hevent (hfound _ hposition)
  · rw [hposition] at hvalue
    obtain rfl := Json.int.inj hvalue
    have hsame : index = count := by
      by_contra hne
      have hlt : index < count := lt_of_le_of_ne hindex hne
      have hmem := hleading.mem.mp (filedRows_mem hlt hevent)
      exact findEvent_eq_none hnone _ hmem.1 rfl
    subst hsame
    refine .inr ⟨rfl, ?_, ?_⟩
    · obtain ⟨hlt, -⟩ := List.getElem?_eq_some_iff.mp hevent
      omega
    · have hin := hstream.inStream hevent ((index : Int) + 1)
      rw [List.filter_append, hleading.rows, filedRows_succ hevent]
      simp [hin]

/-! ### The invariant -/

theorem StreamInv.initial : StreamInv compiled .initial 0 where
  count_le := Nat.zero_le _
  rows := rfl
  others := by simp [StreamSystem.initial]
  active := by simp [StreamSystem.initial]
  returned := by simp [StreamSystem.initial]

theorem DeliveryInv.mono {count count' : Nat} {delivery : Delivery}
    (h : DeliveryInv compiled count delivery) (hle : count ≤ count') :
    DeliveryInv compiled count' delivery :=
  ⟨h.stream, h.limit, h.start_le, h.next_le.trans hle, h.next_le_stop⟩

/-- The stop of a run of the stream. -/
theorem stop_bounds {delivery : Delivery} (hstream : delivery.compiled = compiled)
    (hstart : delivery.start ≤ compiled.events.length) :
    delivery.start ≤ delivery.stop ∧ delivery.stop ≤ compiled.events.length := by
  rw [Delivery.stop, hstream]
  cases delivery.maxEvents with
  | none => exact ⟨hstart, le_refl _⟩
  | some maxEvents =>
    simp only [stopPosition]
    omega

theorem startRun_ok {checkpoint : Option ExecutionSimulatorCheckpoint} {maxEvents : Option Nat}
    {delivery : Delivery} (hcompile : compile config schedule = .ok compiled)
    (h : startRun config schedule checkpoint maxEvents = .ok delivery) :
    delivery = ⟨compiled, maxEvents, (checkpoint.getD (compiled.checkpoint 0)).lastEmittedPosition,
        (checkpoint.getD (compiled.checkpoint 0)).lastEmittedPosition⟩ ∧
      (checkpoint.getD (compiled.checkpoint 0)).lastEmittedPosition ≤ compiled.events.length ∧
      maxEvents ≠ some 0 := by
  simp only [startRun, bind_eq_ok, exists_unit_iff, require_eq_ok, hcompile, Except.ok.injEq,
    exists_eq_left', pure, Except.pure] at h
  obtain ⟨hcurrent, hlimit, rfl⟩ := h
  exact ⟨rfl, hcurrent.2.1, hlimit⟩

theorem StreamInv.started {count : Nat} (h : StreamInv compiled s count)
    (hcompile : compile config schedule = .ok compiled) {other : VersionedExecutionSchedule}
    (hother : schedule.Reordered other) {checkpoint : Option ExecutionSimulatorCheckpoint}
    (hcheckpoint : ∀ c ∈ checkpoint, c ∈ s.returned) {maxEvents : Option Nat}
    {delivery : Delivery} (hstart : startRun config other checkpoint maxEvents = .ok delivery) :
    DeliveryInv compiled count delivery := by
  obtain ⟨rfl, hle, hlimit⟩ := startRun_ok (compile_reordered hcompile hother) hstart
  have hposition : (checkpoint.getD (compiled.checkpoint 0)).lastEmittedPosition ≤ count := by
    cases checkpoint with
    | none => exact Nat.zero_le _
    | some checkpoint =>
      obtain ⟨position, hposition, rfl⟩ := h.returned checkpoint (hcheckpoint checkpoint rfl)
      exact hposition
  have hbounds := @stop_bounds compiled ⟨compiled, maxEvents, _, 0⟩ rfl hle
  exact ⟨rfl, hlimit, hle, hposition, hbounds.1⟩

/-- Every step keeps the invariant, and the prefix never shrinks. -/
theorem stream_step (hcompile : compile config schedule = .ok compiled) {count : Nat}
    (h : StreamInv compiled s count) {event : StreamEvent}
    (hstep : StreamStep config schedule compiled s event s') :
    ∃ count', count ≤ count' ∧ StreamInv compiled s' count' := by
  have hstream := compile_placed hcompile
  have herase : ∀ delivery, ∀ d ∈ s.active.erase delivery, DeliveryInv compiled count d := by
    intro delivery d hd
    exact h.active d (List.mem_of_mem_erase hd)
  cases hstep with
  | @filed row audits hout hid =>
    refine ⟨count, le_refl _, ⟨h.count_le, ?_⟩, ?_, h.active, h.returned⟩
    · rw [List.filter_append, h.rows]
      simp [hout]
    · intro stored hstored
      rcases List.mem_append.mp hstored with hstored | hstored
      · exact h.others stored hstored
      · rw [List.mem_singleton.mp hstored]
        exact fun _ => hid
  | started hother hcheckpoint hstart =>
    refine ⟨count, le_refl _, h.toHoldsPrefix, h.others, ?_, h.returned⟩
    intro d hd
    rcases List.mem_cons.mp hd with rfl | hd
    · exact h.started hcompile hother hcheckpoint hstart
    · exact h.active d hd
  | refused => exact ⟨count, le_refl _, h⟩
  | @delivered delivery service event tables result hactive hnext hevent hingest =>
    have hdelivery := h.active delivery hactive
    rw [hdelivery.stream] at hevent
    obtain ⟨-, happend, -⟩ := ingestEvent_ok hingest
    have hafter : ∀ count', delivery.next < count' → count ≤ count' →
        ∀ d ∈ { delivery with next := delivery.next + 1 } :: s.active.erase delivery,
          DeliveryInv compiled count' d := by
      intro count' hlt hle d hd
      rcases List.mem_cons.mp hd with rfl | hd
      · exact ⟨hdelivery.stream, hdelivery.limit, hdelivery.start_le, hlt, hnext⟩
      · exact (herase delivery d hd).mono hle
    rcases append_prefix hstream h.toHoldsPrefix h.others hdelivery.next_le hevent happend with
      ⟨hsame, hlt⟩ | ⟨hadded, hleading⟩
    · refine ⟨count, le_refl _, ?_, ?_, hafter count hlt (le_refl _), h.returned⟩
      · rw [hsame]
        exact h.toHoldsPrefix
      · rw [hsame]
        exact h.others
    · have hle := hdelivery.next_le
      refine ⟨count + 1, Nat.le_succ _, hleading, ?_, hafter (count + 1) (by omega) (Nat.le_succ _),
        ?_⟩
      · rw [hadded]
        intro stored hstored hout
        rcases List.mem_append.mp hstored with hstored | hstored
        · exact h.others stored hstored hout
        · rw [List.mem_singleton.mp hstored] at hout
          exact absurd (hstream.inStream hevent _) hout
      · intro checkpoint hcheckpoint
        obtain ⟨position, hposition, hsame⟩ := h.returned checkpoint hcheckpoint
        exact ⟨position, by omega, hsame⟩
  | rejected | aborted =>
    exact ⟨count, le_refl _, h.toHoldsPrefix, h.others, herase _, h.returned⟩
  | @finished delivery hactive hdone =>
    refine ⟨count, le_refl _, h.toHoldsPrefix, h.others, herase _, ?_⟩
    have hdelivery := h.active delivery hactive
    intro checkpoint hcheckpoint
    rcases List.mem_cons.mp hcheckpoint with rfl | hcheckpoint
    · refine ⟨delivery.stop, hdone.trans hdelivery.next_le, ?_⟩
      rw [Delivery.result, hdelivery.stream]
    · exact h.returned checkpoint hcheckpoint

/-! ### What the ledger lists -/

theorem filedRows_document (events : List Json) :
    (filedRows events).map LedgerRow.document = events := by
  apply List.ext_getElem?
  intro i
  rw [filedRows, List.getElem?_map, List.getElem?_mapIdx, Option.map_map]
  cases events[i]? with
  | none => rfl
  | some event => rfl

theorem filedRows_sorted (events : List Json) :
    sortByKey LedgerRow.sourcePosition (filedRows events) = filedRows events := by
  apply sortByKey_eq_self
  rw [List.pairwise_iff_getElem]
  intro i j hi hj hlt
  simp only [filedRows, List.getElem_mapIdx, LedgerRow.ofDocument]
  omega

/-- The stream as it is read back: the first events of the compiled stream, in order. -/
theorem HoldsPrefix.listStream {ledger : List LedgerRow} {count : Nat}
    (h : HoldsPrefix ledger compiled count) :
    listStream ledger compiled.scope 0 = compiled.events.take count := by
  have hfilter : ledger.filter (fun row => decide (row.InStream compiled.scope ∧
      ((0 : Nat) : Int) < row.sourcePosition)) = filedRows (compiled.events.take count) := by
    have hswap : ∀ row : LedgerRow, decide (row.InStream compiled.scope ∧
        ((0 : Nat) : Int) < row.sourcePosition) =
          (decide (((0 : Nat) : Int) < row.sourcePosition) &&
            decide (row.InStream compiled.scope)) := by
      intro row
      rw [Bool.decide_and, Bool.and_comm]
    rw [funext hswap, ← List.filter_filter, h.rows]
    apply List.filter_eq_self.mpr
    intro row hrow
    obtain ⟨i, event, -, -, rfl⟩ := mem_filedRows hrow
    rw [decide_eq_true_eq]
    show ((0 : Nat) : Int) < (i : Int) + 1
    omega
  rw [Execution.listStream, hfilter, filedRows_sorted, filedRows_document]

/-! ### Uninterrupted runs -/

/-- An ingress that takes every event. -/
def acceptEvent (_ : Unit) (_ : Json) : Except Unit Unit := .ok ()

theorem deliverEvents_accept (events : List Json) :
    ∀ index, deliverEvents acceptEvent index events () = .ok () := by
  induction events with
  | nil =>
    intro index
    rfl
  | cons event rest ih =>
    intro index
    exact ih (index + 1)

/-- A run from the start returns the checkpoint and the bytes of its last position. -/
theorem runUninterrupted_ok {σ ε : Type} {ingest : σ → Json → Except ε σ} {a b : σ}
    {maxEvents : Option Nat} {result : ExecutionSimulationResult}
    (hcompile : compile config schedule = .ok compiled)
    (h : runUninterrupted ingest config schedule none maxEvents a = .ok (b, result)) :
    result.checkpoint = compiled.checkpoint result.throughPosition ∧
      result.eventBytes = compiled.eventBytes.take result.throughPosition := by
  simp only [runUninterrupted, bind_eq_ok, pure, Except.pure, Except.ok.injEq,
    Prod.mk.injEq] at h
  obtain ⟨delivery, hstart, s', -, -, rfl⟩ := h
  obtain ⟨rfl, -, -⟩ := startRun_ok hcompile hstart
  exact ⟨rfl, rfl⟩

theorem startRun_first (hcompile : compile config schedule = .ok compiled)
    {maxEvents : Option Nat} (hlimit : maxEvents ≠ some 0) :
    startRun config schedule none maxEvents = .ok ⟨compiled, maxEvents, 0, 0⟩ := by
  simp only [startRun, bind_eq_ok, exists_unit_iff, require_eq_ok, hcompile, Except.ok.injEq,
    exists_eq_left', pure, Except.pure]
  exact ⟨⟨rfl, Nat.zero_le _, rfl⟩, hlimit, rfl⟩

theorem runUninterrupted_accept (hcompile : compile config schedule = .ok compiled)
    {maxEvents : Option Nat} (hlimit : maxEvents ≠ some 0) :
    runUninterrupted acceptEvent config schedule none maxEvents () =
      .ok ((), Delivery.result ⟨compiled, maxEvents, 0, 0⟩) := by
  have hstart := startRun_first hcompile hlimit
  simp only [runUninterrupted, bind_eq_ok, pure, Except.pure, Except.ok.injEq, Prod.mk.injEq]
  exact ⟨_, hstart, (), deliverEvents_accept _ _, trivial, rfl⟩

/-- Every position from one on is the last of some run from the start. -/
theorem exists_runUninterrupted (hcompile : compile config schedule = .ok compiled)
    {position : Nat} (hpos : 0 < position) (hle : position ≤ compiled.events.length) :
    ∃ maxEvents whole, runUninterrupted acceptEvent config schedule none maxEvents () =
      .ok ((), whole) ∧ whole.throughPosition = position := by
  refine ⟨some position, _, runUninterrupted_accept hcompile ?_, ?_⟩
  · intro hzero
    have := Option.some.inj hzero
    omega
  · simp only [Delivery.result, Delivery.stop, stopPosition]
    omega

/-- The compiled stream has an event for each that is declared. -/
theorem compile_length (h : compile config schedule = .ok compiled) :
    compiled.events.length = schedule.events.length := by
  simp only [compile, bind_eq_ok, exists_unit_iff, mapError_eq_ok, pure, Except.pure,
    Except.ok.injEq] at h
  obtain ⟨-, queueSeed, -, queued, hqueued, origin, -, documents, hdocuments, -, -, rfl⟩ := h
  have hlength := ((collect_eq_ok_iff ..).mp hdocuments).length_eq
  rw [List.length_zipIdx, (sortByKey_perm _ _).length_eq,
    ← ((collect_eq_ok_iff ..).mp hqueued).length_eq] at hlength
  exact hlength.symm

/-- A run of the stream stops after its first event at the earliest. -/
theorem DeliveryInv.stop_pos {count : Nat} {delivery : Delivery}
    (h : DeliveryInv compiled count delivery)
    (hcompile : compile config schedule = .ok compiled) : 0 < delivery.stop := by
  have hlength : 0 < compiled.events.length := by
    rw [compile_length hcompile]
    exact List.length_pos_of_ne_nil schedule.nonempty
  have hlimit := h.limit
  rw [Delivery.stop, h.stream]
  cases hmax : delivery.maxEvents with
  | none => exact hlength
  | some maxEvents =>
    have hpos : maxEvents ≠ 0 := by
      intro hzero
      exact hlimit (by rw [hmax, hzero])
    simp only [stopPosition]
    omega

/-! ### Delivery -/

end

/-! ### A delayed material

One declared event: a material is delayed. The digests stay symbolic. -/

def delayedAsset (assetId : String) : VersionedAssetReference := ⟨assetId, "1.0.0", "sha256:0"⟩

def delayedConfig : ExecutionSimulatorConfig :=
  { environment := "TEST"
    factoryId := "F1"
    planningScopeId := "P1"
    baseScheduleVersion := ⟨"schedule-version.v2", "S1", "sha256:0"⟩
    baseSnapshot := ⟨"planning-snapshot.v1", "snapshot-1", "sha256:0"⟩
    baseProblem := ⟨"planning-problem.v1", "problem-1", "sha256:0"⟩
    scenario := delayedAsset "scenario-1"
    factoryProfile := delayedAsset "profile-1"
    generator := delayedAsset "generator-1"
    simulator := delayedAsset "simulator-1"
    seed := 7
    requiredCapabilities := []
    virtualClock := ⟨"2026-01-05T08:00:00Z", 60⟩
    planningPolicy := ⟨"policy-1", "1", "sha256:0"⟩
    solveLimits := ⟨"limits-1", "1", "sha256:0", 60, 1, 7⟩
    codeCommit := "uncommitted" }

def delayedEvent : ScheduledExecutionEvent :=
  { eventKey := "E1"
    offsetSeconds := 60
    eventType := .materialDelayed
    payload := .obj
      [("kind", .str "MATERIAL_DELAYED"), ("material_id", .str "M1"),
       ("available_at_utc", .str "2026-01-06T08:00:00Z")]
    kind := rfl }

def delayedSchedule : VersionedExecutionSchedule :=
  { configId := "config-1"
    configVersion := "1"
    baseScheduleContentFingerprint := "sha256:0"
    scenarioFingerprint := "sha256:0"
    factoryProfileFingerprint := "sha256:0"
    generatorFingerprint := "sha256:0"
    events := [delayedEvent]
    nonempty := by simp
    keys := by simp }

def delayedReferences : Json :=
  .arr [.obj [("entity_type", .str "MATERIAL"), ("entity_id", .str "M1")]]

/-- 2026-01-05T08:00:00Z -/
def delayedOrigin : Datetime := ⟨63903196800000000, by decide, by decide⟩

/-- 2026-01-05T08:01:00Z -/
def delayedInstant : Datetime := ⟨63903196860000000, by decide, by decide⟩

theorem delayed_instant : parseUtcInstant "2026-01-05T08:01:00Z" = .ok delayedInstant ∧
    ∀ field, p4Utc (.str "2026-01-05T08:01:00Z") field = .ok delayedInstant := by
  have hmatch : "2026-01-05T08:01:00Z".toList.getLast? = some 'Z' ∧
      fromisoformat (replaceZulu "2026-01-05T08:01:00Z".toList) =
        some (delayedInstant, some 0) ∧
      parseUtcInstant "2026-01-05T08:01:00Z" = .ok delayedInstant := by
    decide +kernel
  refine ⟨hmatch.2.2, ?_⟩
  intro field
  simp only [p4Utc, hmatch.1, if_true, hmatch.2.1]

section
variable (digest eventId eventFingerprint : String)

/-- The identities of the run under a digest. -/
def delayedRun : RunAuthority := runAuthority delayedConfig ("sha256:" ++ digest)

/-- The event of the run under an identity. -/
def delayedDocument : Json :=
  .obj (eventMembers delayedConfig (delayedRun digest) ("sha256:" ++ digest) delayedEvent
    delayedReferences 1 "2026-01-05T08:01:00Z" eventId eventFingerprint)

theorem delayed_occurred (field : String) :
    factUtc (.str "2026-01-05T08:01:00Z") field = .ok delayedInstant := by
  have htext : factText (.str "2026-01-05T08:01:00Z") field = .ok "2026-01-05T08:01:00Z" := rfl
  simp only [factUtc, htext, delayed_instant.1, bind_eq_ok, Except.ok.injEq, exists_eq_left',
    Except.mapError]

theorem delayed_event
    (hfingerprint : executionEventFingerprint
      (delayedDocument digest eventId eventFingerprint) = eventFingerprint)
    (hid : eventId = executionEventId eventFingerprint) :
    requireEvent (delayedDocument digest eventId eventFingerprint) =
      .ok () := by
  have hscope : requireAuthorityScope
      (delayedDocument digest eventId eventFingerprint) = .ok () := by
    simp only [requireAuthorityScope, bind_eq_ok, exists_unit_iff]
    exact ⟨_, rfl, _, rfl, rfl, p4Equal_str ..⟩
  simp only [requireEvent, bind_eq_ok, exists_unit_iff, require_eq_ok, hfingerprint]
  refine ⟨hscope, _, rfl, rfl, _, rfl, [("MATERIAL", "M1")], rfl, ?_, _, delayed_instant.2 _, _,
    delayed_instant.2 _,
    le_refl _, p4Equal_str .., ?_⟩
  · exact .singleton _
  · rw [← hid]
    exact p4Equal_str ..

theorem delayed_document
    (hevent : requireEvent (delayedDocument digest eventId eventFingerprint) =
      .ok ()) :
    requireEventDocument (delayedDocument digest eventId eventFingerprint) =
      .ok "execution-event.v1" := by
  simp only [requireEventDocument, requireP4Document, bind_eq_ok, exists_unit_iff]
  refine ⟨"execution-event.v1", rfl, rfl, rfl, rfl, ?_⟩
  simp [hevent]

theorem delayed_valid
    (hsource : isFactText (delayedRun digest).scope.streamId = true)
    (hdocument : requireEventDocument
      (delayedDocument digest eventId eventFingerprint) =
        .ok "execution-event.v1") :
    validateExecutionEvent (delayedRun digest).scope
      (delayedDocument digest eventId eventFingerprint) = .ok () := by
  simp only [validateExecutionEvent, bind_eq_ok, exists_unit_iff, Prod.exists, hdocument,
    Except.mapError, Except.ok.injEq, exists_eq_left', require_eq_ok]
  refine ⟨?_, ?_, .materialDelayed, delayedEvent.payload, rfl, ?_, rfl, delayedInstant, ?_, rfl,
    rfl, rfl⟩
  · have hkeys : (delayedDocument digest eventId eventFingerprint).keys =
        eventRootFields := rfl
    rw [exactFields, require_eq_ok]
    exact ⟨fun _ h => hkeys ▸ h, fun _ h => hkeys ▸ h⟩
  · rw [eventConstants]
    simp only [List.forall_mem_cons, delayedDocument, eventMembers]
    exact ⟨rfl, rfl, rfl, rfl, rfl, rfl, fun _ h => absurd h List.not_mem_nil⟩
  · simp only [checkAuthority, sourceReference, bind_eq_ok, exists_unit_iff, require_eq_ok]
    exact ⟨_, rfl, rfl, ⟨rfl, rfl, rfl⟩,
      ⟨_, rfl, rfl, _, rfl, _, rfl, _, factText_str hsource, rfl⟩, _, rfl, rfl,
      ⟨rfl, rfl, rfl, rfl, rfl, rfl⟩, rfl⟩
  · simp only [checkOccurrence, bind_eq_ok, exists_unit_iff, require_eq_ok, pure, Except.pure]
    exact ⟨1, rfl, _, delayed_occurred _, _, delayed_occurred _, le_refl _, rfl⟩

end

/-- The seed of the queue, and that of the event in it. -/
def delayedSeed (name : String) : SeedMaterial := ⟨7, "simulator-1", "1.0.0", name⟩

theorem delayed_seeds :
    (delayedSeed "root").child "execution-event-queue" =
        .ok (delayedSeed "root/execution-event-queue") ∧
      (delayedSeed "root/execution-event-queue").child "E1" =
        .ok (delayedSeed "root/execution-event-queue/E1") ∧
      bindingGuard delayedConfig delayedSchedule = .ok () ∧
      ∃ origin, parseUtcInstant "2026-01-05T08:00:00Z" = .ok origin ∧
        occurrence origin 60 = .ok "2026-01-05T08:01:00Z" := by
  have hall : (delayedSeed "root").child "execution-event-queue" =
        .ok (delayedSeed "root/execution-event-queue") ∧
      (delayedSeed "root/execution-event-queue").child "E1" =
        .ok (delayedSeed "root/execution-event-queue/E1") ∧
      bindingGuard delayedConfig delayedSchedule = .ok () ∧
      parseUtcInstant "2026-01-05T08:00:00Z" = .ok delayedOrigin ∧
        occurrence delayedOrigin 60 = .ok "2026-01-05T08:01:00Z" := by
    decide +kernel
  exact ⟨hall.1, hall.2.1, hall.2.2.1, delayedOrigin, hall.2.2.2⟩

/-- The fingerprint of the event covers neither of its identities. -/
theorem delayed_fingerprint (digest eventId eventFingerprint : String) :
    executionEventFingerprint (delayedDocument digest eventId eventFingerprint) =
      executionEventFingerprint (delayedDocument digest "pending" "pending") := rfl

/-- The event as it is compiled: under the digest of its body. -/
def delayedFiled (text body : String) : Json :=
  delayedDocument (Sha256.hexdigest text)
    (executionEventId ("sha256:" ++ Sha256.hexdigest body)) ("sha256:" ++ Sha256.hexdigest body)

theorem delayed_prefix {text body : String}
    (hbody : executionEventFingerprint
      (delayedDocument (Sha256.hexdigest text) "pending" "pending") =
        "sha256:" ++ Sha256.hexdigest body) :
    validateEventPrefix (delayedRun (Sha256.hexdigest text)).scope [delayedFiled text body] =
      .ok ["sha256:" ++ Sha256.hexdigest body] := by
  have hsource : isFactText (delayedRun (Sha256.hexdigest text)).scope.streamId = true := by
    show isFactText ("execution-stream-" ++
      fingerprintDigits ("sha256:" ++ Sha256.hexdigest text)) = true
    rw [fingerprintDigits_digest]
    exact isFactText_digest "execution-stream-" text (by decide) (by decide)
  have hid : isFactText (executionEventId ("sha256:" ++ Sha256.hexdigest body)) = true := by
    rw [executionEventId, fingerprintDigits_digest]
    exact isFactText_digest "execution-event-" body (by decide) (by decide)
  have hprint : isFactText ("sha256:" ++ Sha256.hexdigest body) = true :=
    isFactText_digest "sha256:" body (by decide) (by decide)
  have hevent := delayed_event (Sha256.hexdigest text) _ _
    ((delayed_fingerprint _ _ _).trans hbody) rfl
  have hvalid := delayed_valid _ _ _ hsource (delayed_document _ _ _ hevent)
  simp only [delayedFiled, validateEventPrefix, validateEventsFrom, hvalid, bind_eq_ok,
    exists_unit_iff, require_eq_ok, pure, Except.pure]
  exact ⟨trivial, rfl, _, factText_str hid, List.not_mem_nil, _, factText_str hprint, _, rfl, rfl⟩

theorem delayed_queue :
    ∃ rank, collect (queueEvent (delayedSeed "root/execution-event-queue"))
      delayedSchedule.events = .ok [⟨delayedEvent, rank⟩] := by
  obtain ⟨-, hchild, -, -⟩ := delayed_seeds
  obtain ⟨rank, hrank⟩ : ∃ rank,
      (delayedSeed "root/execution-event-queue/E1").deriveUint64 "tie-break" = rank := ⟨_, rfl⟩
  have hevent : queueEvent (delayedSeed "root/execution-event-queue") delayedEvent =
      .ok ⟨delayedEvent, rank⟩ := by
    show (delayedSeed "root/execution-event-queue").child "E1" >>= _ = _
    rw [hchild, ← hrank]
    rfl
  refine ⟨rank, ?_⟩
  simp only [delayedSchedule, collect, hevent]
  rfl

theorem delayed_documents {text body : String} {origin : Datetime} {rank : Nat}
    (hbody : executionEventFingerprint
      (delayedDocument (Sha256.hexdigest text) "pending" "pending") =
        "sha256:" ++ Sha256.hexdigest body)
    (horigin : occurrence origin 60 = .ok "2026-01-05T08:01:00Z") :
    collect (queuedDocument delayedConfig (delayedRun (Sha256.hexdigest text))
      ("sha256:" ++ Sha256.hexdigest text) origin)
      (sortByKey QueuedEvent.key [⟨delayedEvent, rank⟩]).zipIdx =
        .ok [delayedFiled text body] := by
  have hreferences : entityReferences delayedEvent.eventType delayedEvent.payload =
      .ok delayedReferences := rfl
  have hqueued : queuedDocument delayedConfig (delayedRun (Sha256.hexdigest text))
      ("sha256:" ++ Sha256.hexdigest text) origin (⟨delayedEvent, rank⟩, 0) =
        .ok (delayedFiled text body) := by
    simp only [queuedDocument, eventDocument, hreferences]
    show occurrence origin 60 >>= _ = _
    rw [horigin, delayedFiled, ← hbody]
    rfl
  have hsort : sortByKey QueuedEvent.key [⟨delayedEvent, rank⟩] = [⟨delayedEvent, rank⟩] := rfl
  rw [hsort, List.zipIdx_singleton]
  simp only [collect, hqueued]
  rfl

theorem delayed_compile : ∃ compiled, compile delayedConfig delayedSchedule = .ok compiled := by
  obtain ⟨text, htext⟩ : ∃ text, runFingerprint delayedConfig delayedSchedule =
      "sha256:" ++ Sha256.hexdigest text := ⟨_, rfl⟩
  obtain ⟨body, hbody⟩ : ∃ body, executionEventFingerprint
      (delayedDocument (Sha256.hexdigest text) "pending" "pending") =
        "sha256:" ++ Sha256.hexdigest body := ⟨_, rfl⟩
  have hrun : runAuthority delayedConfig ("sha256:" ++ Sha256.hexdigest text) =
      delayedRun (Sha256.hexdigest text) := rfl
  obtain ⟨hroot, -, hguard, origin, hparse, horigin⟩ := delayed_seeds
  obtain ⟨rank, hqueue⟩ := delayed_queue
  refine ⟨⟨runFingerprint delayedConfig delayedSchedule,
    (delayedRun (Sha256.hexdigest text)).scope, ["E1"], [rank], [delayedFiled text body]⟩, ?_⟩
  simp only [compile, bind_eq_ok, exists_unit_iff, htext, hrun, mapError_eq_ok]
  exact ⟨hguard, _, hroot, _, hqueue, origin, hparse, _, delayed_documents hbody horigin, _,
    delayed_prefix hbody, rfl⟩

end PlantNexus.Execution
