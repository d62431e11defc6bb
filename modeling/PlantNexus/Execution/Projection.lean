import PlantNexus.Execution.Events
import PlantNexus.Snapshot.Canonical

/-! Projecting execution events onto a snapshot.

A batch takes the events of a verified stream prefix after a position and applies them one by
one to a copy of the base snapshot: facts of operations, durations, availability of resources,
material readiness, locks, and urgent demands that arrive as a complete imported snapshot. The
identities of a verified snapshot are distinct, so the record that a dictionary names is the
only one under its identity. A field that the carrier check has passed is read through that
check. -/
namespace PlantNexus.Execution
open Data Domain Time Snapshot

/-! ### Access -/

/-- The record under an identity is replaced. -/
def updateRecord {α : Type} (key : α → String) (id : String) (f : α → α) (records : List α) :
    List α :=
  records.map fun record => if key record = id then f record else record

/-- `_event_source` -/
def eventSource (event : Json) : Except ProjectionError SourceReference := do
  let eventId ← factText (event.get "event_id") "event_id"
  return ⟨"plantnexus-execution-fact-projector", "1.0.0", eventId⟩

/-- A digest of an event that an identity ends in. -/
def eventDigits (event : Json) : Except ProjectionError String := do
  let fingerprint ← factText (event.get "event_fingerprint") "event_fingerprint"
  return fingerprintDigits fingerprint

/-- `_fact_id` -/
def factId (event : Json) : Except ProjectionError String := do
  let digits ← eventDigits event
  return s!"execution-fact-{digits}"

/-- A record that a dictionary must have. -/
def found {α : Type} (record : Option α) (error : ProjectionError) : Except ProjectionError α :=
  match record with
  | some record => .ok record
  | none => .error error

section
variable (document : PlanningSnapshot)

def instance? (id : String) : Option OperationInstance :=
  dictGet OperationInstance.operationInstanceId document.operationInstances id

/-- `_operation_instance` -/
def operationInstance (operationId : Json) : Except ProjectionError OperationInstance := do
  let identifier ← factText operationId "payload.operation_id"
  found (instance? document identifier)
    ⟨.invalidReference, "payload.operation_id", "must identify one operation instance"⟩

/-- `_resource_option` -/
def resourceOption (o : OperationInstance) (resourceId : Json) :
    Except ProjectionError OperationResourceOption := do
  let identifier ← factText resourceId "payload.resource_id"
  match o.resourceOptions.filter fun option => option.resourceId = identifier with
  | [option] => .ok option
  | _ =>
    .error ⟨.invalidReference, "payload.resource_id", "is not one exact candidate resource"⟩

def resource? (id : String) : Option ResourceRecord :=
  dictGet ResourceRecord.resourceId document.records.resources id

def calendar? (id : String) : Option CalendarRecord :=
  dictGet CalendarRecord.calendarId document.records.calendars id

def fact? (id : Option String) : Option ExecutionFactRecord :=
  id.bind (dictGet ExecutionFactRecord.executionFactId document.records.executionFacts)

/-- `_replace_execution_fact` -/
def replaceExecutionFact (o : OperationInstance) (fact : ExecutionFactRecord) : PlanningSnapshot :=
  let kept := document.records.executionFacts.filter fun existing =>
    ¬(existing.productionLotId = o.productionLotId ∧
      existing.routingOperationId = o.routingOperationId)
  { document with
    records := { document.records with executionFacts := kept ++ [fact] }
    operationInstances :=
      updateRecord OperationInstance.operationInstanceId o.operationInstanceId
        (fun o => { o with
          status := fact.status.instanceStatus, executionFactId := some fact.executionFactId })
        document.operationInstances }

/-! ### Operations -/

/-- `_project_operation_started` -/
def projectOperationStarted (event : Json) : Except ProjectionError PlanningSnapshot := do
  let payload := event.get "payload"
  let o ← operationInstance document (payload.get "operation_id")
  require (o.status ≠ .completed)
    ⟨.terminalRegression, "payload.operation_id", "completed operation cannot restart"⟩
  require (o.status = .notStarted ∧ o.executionFactId = none)
    ⟨.factConflict, "payload.operation_id", "operation already has an effective fact"⟩
  let option ← resourceOption o (payload.get "resource_id")
  require ((resource? document option.resourceId).map ResourceRecord.status = some "AVAILABLE")
    ⟨.factConflict, "payload.resource_id", "resource is not currently available"⟩
  let executionFactId ← factId event
  let source ← eventSource event
  return replaceExecutionFact document o
    { executionFactId
      productionLotId := o.productionLotId
      routingOperationId := o.routingOperationId
      status := .running
      observedAtUtc := (event.get "occurred_at_utc").text
      quantityUnit := o.quantityUnit
      source
      resourceId := some option.resourceId
      actualStartAtUtc := some (payload.get "actual_start_at_utc").text
      actualEndAtUtc := none
      completedQuantity := none
      remainingQuantity := some o.quantity
      remainingSeconds := some option.finalDurationSeconds }

/-- The completion of a running operation continues its fact. -/
def checkCompletion (o : OperationInstance) (payload : Json) : Except ProjectionError Unit :=
  let contradiction : ProjectionError :=
    ⟨.factConflict, "payload.operation_id", "completion contradicts the RUNNING fact"⟩
  match o.status with
  | .running => do
    let current ← found (fact? document o.executionFactId) contradiction
    require (Json.ofOption .str current.resourceId = payload.get "resource_id" ∧
      Json.ofOption .str current.actualStartAtUtc = payload.get "actual_start_at_utc")
      contradiction
  | .notStarted | .completed => .ok ()

/-- `_project_operation_completed` -/
def projectOperationCompleted (event : Json) : Except ProjectionError PlanningSnapshot := do
  let payload := event.get "payload"
  let o ← operationInstance document (payload.get "operation_id")
  require (o.status ≠ .completed)
    ⟨.terminalRegression, "payload.operation_id", "completed operation is terminal"⟩
  let option ← resourceOption o (payload.get "resource_id")
  checkCompletion document o payload
  let executionFactId ← factId event
  let source ← eventSource event
  return replaceExecutionFact document o
    { executionFactId
      productionLotId := o.productionLotId
      routingOperationId := o.routingOperationId
      status := .completed
      observedAtUtc := (event.get "occurred_at_utc").text
      quantityUnit := o.quantityUnit
      source
      resourceId := some option.resourceId
      actualStartAtUtc := some (payload.get "actual_start_at_utc").text
      actualEndAtUtc := some (payload.get "actual_end_at_utc").text
      completedQuantity := some o.quantity
      remainingQuantity := none
      remainingSeconds := none }

/-- `_project_remaining_changed` -/
def projectRemainingChanged (event : Json) : Except ProjectionError PlanningSnapshot := do
  let payload := event.get "payload"
  let remaining ← factInteger (payload.get "remaining_seconds") "payload.remaining_seconds" 0
  require (remaining ≠ 0)
    ⟨.factConflict, "payload.remaining_seconds", "zero remainder requires OPERATION_COMPLETED"⟩
  let o ← operationInstance document (payload.get "operation_id")
  require (o.status = .running)
    ⟨.factConflict, "payload.operation_id", "remaining duration requires a RUNNING operation"⟩
  let current ← found (fact? document o.executionFactId)
    ⟨.factConflict, "execution_fact_id", "RUNNING fact is absent"⟩
  let asOf ← factUtc (payload.get "as_of_utc") "payload.as_of_utc"
  let start ← factUtc (Json.ofOption .str current.actualStartAtUtc)
    "execution_fact.actual_start_at_utc"
  require (start ≤ asOf)
    ⟨.factConflict, "payload.as_of_utc", "cannot precede actual start"⟩
  let executionFactId ← factId event
  let source ← eventSource event
  return replaceExecutionFact document o
    { current with
      executionFactId
      observedAtUtc := (payload.get "as_of_utc").text
      remainingSeconds := some remaining
      source }

/-! ### Durations -/

/-- `_routing_operation_id` -/
def routingOperationId (operationId : Json) : Except ProjectionError String := do
  let identifier ← factText operationId "payload.operation_id"
  let direct := dictGet RoutingOperationRecord.routingOperationId
    document.records.routingOperations identifier
  match instance? document identifier, direct with
  | some _, some _ =>
    .error ⟨.invalidReference, "payload.operation_id",
      "ambiguously identifies instance and routing operation"⟩
  | some o, none => .ok o.routingOperationId
  | none, some _ => .ok identifier
  | none, none =>
    .error ⟨.invalidReference, "payload.operation_id",
      "does not identify a routing operation"⟩

/-- The options of the expanded operation that come from the changed ones. -/
def changeDuration (optionIds : List String) (seconds : Int) (durationSource version : String)
    (o : OperationInstance) : OperationInstance :=
  { o with
    resourceOptions := o.resourceOptions.map fun option =>
      if option.routingResourceOptionId ∈ optionIds then
        { option with
          finalDurationSeconds := seconds
          durationSource
          sourceVersion := version }
      else option }

/-- `_project_duration_changed` -/
def projectDurationChanged (event : Json) : Except ProjectionError PlanningSnapshot := do
  let payload := event.get "payload"
  let routingId ← routingOperationId document (payload.get "operation_id")
  let targeted := document.operationInstances.filter fun o => o.routingOperationId = routingId
  require (targeted ≠ [] ∧ ∀ o ∈ targeted, o.status ≠ .completed)
    ⟨.terminalRegression, "payload.operation_id", "duration cannot rewrite completed history"⟩
  let options := document.records.routingResourceOptions.filter fun option =>
    option.routingOperationId = routingId
  require (options ≠ [])
    ⟨.invalidReference, "payload.operation_id", "routing operation has no resource option"⟩
  let optionIds := options.map RoutingResourceOptionRecord.routingResourceOptionId
  let seconds ← factInteger (payload.get "final_duration_seconds")
    "payload.final_duration_seconds" 1
  let durationSource ← factText (payload.get "duration_source") "payload.duration_source"
  let version ← factText (payload.get "source_version") "payload.source_version"
  let source ← eventSource event
  return { document with
    records := { document.records with
      routingResourceOptions := document.records.routingResourceOptions.map fun option =>
        if option.routingOperationId = routingId then
          { option with
            finalDurationSeconds := seconds
            durationSource
            durationSourceVersion := version
            source }
        else option }
    operationInstances := document.operationInstances.map fun o =>
      if o.routingOperationId = routingId then
        changeDuration optionIds seconds durationSource version o
      else o }

/-! ### Resources -/

/-- `_open_unavailability` over the events before the position. -/
def openUnavailability (resourceId : String) (events : List Json) : Option Json :=
  events.foldl
    (fun open? event =>
      let payload := event.get "payload"
      if payload.get "resource_id" = .str resourceId then
        if event.get "event_type" = .str "MACHINE_UNAVAILABLE" then
          if payload.get "unavailable_until_utc" = .null then some event else none
        else if event.get "event_type" = .str "MACHINE_RECOVERED" then none
        else open?
      else open?)
    none

/-- The resource and its calendar after an event; an interval, if there is one, is added to the
calendar. -/
def updateAvailability (resource : ResourceRecord) (status : String) (source : SourceReference)
    (interval : Option UnavailableIntervalRecord) : PlanningSnapshot :=
  { document with
    records := { document.records with
      resources := updateRecord ResourceRecord.resourceId resource.resourceId
        (fun r => { r with status, source }) document.records.resources
      calendars := match interval with
        | none => document.records.calendars
        | some interval => updateRecord CalendarRecord.calendarId resource.calendarId
            (fun c => { c with
              unavailableIntervals := c.unavailableIntervals ++ [interval]
              source })
            document.records.calendars } }

/-- The resource that a payload names. -/
def payloadResource (payload : Json) : Except ProjectionError ResourceRecord := do
  let resourceId ← factText (payload.get "resource_id") "payload.resource_id"
  found (resource? document resourceId)
    ⟨.invalidReference, "payload.resource_id", "resource is absent"⟩

/-- The closed interval of an unavailability, if its end is known; the calendar must be there. -/
def closedInterval (resource : ResourceRecord) (event : Json) :
    Except ProjectionError (Option UnavailableIntervalRecord) := do
  let payload := event.get "payload"
  if payload.get "unavailable_until_utc" = .null then return none
  let _ ← found (calendar? document resource.calendarId)
    ⟨.invalidReference, "resource.calendar_id", "calendar is absent"⟩
  let digits ← eventDigits event
  return some
    { intervalId := s!"unavailable-{digits}"
      startAtUtc := (payload.get "unavailable_from_utc").text
      endAtUtc := (payload.get "unavailable_until_utc").text
      reason := "ExecutionEvent MACHINE_UNAVAILABLE" }

/-- `_project_machine_unavailable` -/
def projectMachineUnavailable (event : Json) : Except ProjectionError PlanningSnapshot := do
  let resource ← payloadResource document (event.get "payload")
  require (resource.status = "AVAILABLE")
    ⟨.factConflict, "payload.resource_id", "resource is already unavailable"⟩
  let source ← eventSource event
  let interval ← closedInterval document resource event
  return updateAvailability document resource "UNAVAILABLE" source interval

/-- `_project_machine_recovered` -/
def projectMachineRecovered (fullPrefix : List Json) (event : Json) :
    Except ProjectionError PlanningSnapshot := do
  let payload := event.get "payload"
  let resource ← payloadResource document payload
  let position ← factInteger (event.get "source_position") "source_position" 1
  let unrecovered : ProjectionError :=
    ⟨.factConflict, "payload.resource_id", "no open unavailability can be recovered"⟩
  require (resource.status = "UNAVAILABLE") unrecovered
  let openEvent ← found
    (openUnavailability resource.resourceId (fullPrefix.take (position - 1).toNat)) unrecovered
  let openPayload := openEvent.get "payload"
  let available ← factUtc (payload.get "available_from_utc") "payload.available_from_utc"
  let start ← factUtc (openPayload.get "unavailable_from_utc")
    "open_unavailability.unavailable_from_utc"
  require (start < available)
    ⟨.factConflict, "payload.available_from_utc", "must follow the open unavailability"⟩
  let _ ← found (calendar? document resource.calendarId)
    ⟨.invalidReference, "resource.calendar_id", "calendar is absent"⟩
  let digits ← eventDigits openEvent
  let source ← eventSource event
  return updateAvailability document resource "AVAILABLE" source (some
    { intervalId := s!"unavailable-{digits}"
      startAtUtc := (openPayload.get "unavailable_from_utc").text
      endAtUtc := (payload.get "available_from_utc").text
      reason := "ExecutionEvent MACHINE_UNAVAILABLE/RECOVERED" })

/-! ### Materials -/

/-- The production orders that a material may mean: one under its identity, and that of a lot. -/
def materialCandidates (identifier : String) : List String :=
  let orders := document.records.productionOrders.filterMap fun order =>
    if order.productionOrderId = identifier then some order.productionOrderId else none
  let lots := (dictGet ProductionLotRecord.productionLotId document.records.productionLots
    identifier).toList.map ProductionLotRecord.productionOrderId
  (orders ++ lots).dedup

/-- `_material_order` -/
def materialOrder (materialId : Json) : Except ProjectionError ProductionOrderRecord := do
  let identifier ← factText materialId "payload.material_id"
  let refused : ProjectionError :=
    ⟨.invalidReference, "payload.material_id", "must resolve to exactly one production order"⟩
  match materialCandidates document identifier with
  | [orderId] =>
    found (dictGet ProductionOrderRecord.productionOrderId document.records.productionOrders
      orderId) refused
  | _ => .error refused

/-- A delay moves the readiness of its order later. -/
def checkDelay (event : Json) (order : ProductionOrderRecord) (available : Datetime) :
    Except ProjectionError Unit :=
  if event.get "event_type" = .str "MATERIAL_DELAYED" then do
    let ready ← factUtc (.str order.materialReadyAtUtc) "production_order.material_ready_at_utc"
    require (ready < available)
      ⟨.factConflict, "payload.available_at_utc", "delay must move readiness later"⟩
  else .ok ()

/-- `_project_material` -/
def projectMaterial (event : Json) : Except ProjectionError PlanningSnapshot := do
  let payload := event.get "payload"
  let order ← materialOrder document (payload.get "material_id")
  let text ← factText (payload.get "available_at_utc") "payload.available_at_utc"
  let available ← factUtc (.str text) "payload.available_at_utc"
  let release ← factUtc (.str order.releaseAtUtc) "production_order.release_at_utc"
  require (release ≤ available)
    ⟨.factConflict, "payload.available_at_utc", "cannot precede order release"⟩
  checkDelay event order available
  let source ← eventSource event
  return { document with
    records := { document.records with
      productionOrders := updateRecord ProductionOrderRecord.productionOrderId
        order.productionOrderId (fun order => { order with materialReadyAtUtc := text, source })
        document.records.productionOrders }
    operationInstances := document.operationInstances.map fun o =>
      if o.productionOrderId = order.productionOrderId then { o with materialReadyAtUtc := text }
      else o }

/-! ### Locks -/

def lockRecord? (id : String) : Option OperationLockRecord :=
  dictGet OperationLockRecord.lockId document.records.operationLocks id

/-- `_project_lock_created` -/
def projectLockCreated (event : Json) : Except ProjectionError PlanningSnapshot := do
  let payload := event.get "payload"
  let lockId ← factText (payload.get "lock_id") "payload.lock_id"
  require (lockRecord? document lockId = none)
    ⟨.factConflict, "payload.lock_id", "lock identity already exists"⟩
  let o ← operationInstance document (payload.get "operation_id")
  require (o.status ≠ .completed)
    ⟨.terminalRegression, "payload.operation_id", "completed operation cannot receive a lock"⟩
  let option ← resourceOption o (payload.get "resource_id")
  let source ← eventSource event
  let lock : OperationLockRecord :=
    { lockId
      productionLotId := o.productionLotId
      routingOperationId := o.routingOperationId
      lockType := if payload.get "lock_type" = .str "HARD" then .hardLock else .softLock
      resourceId := option.resourceId
      startAtUtc := (payload.get "start_at_utc").text
      endAtUtc := (payload.get "end_at_utc").text
      source }
  return { document with
    records := { document.records with
      operationLocks := document.records.operationLocks ++ [lock] }
    operationInstances := updateRecord OperationInstance.operationInstanceId
      o.operationInstanceId (fun o => { o with lockIds := sortByKey id (o.lockIds ++ [lockId]) })
      document.operationInstances }

/-- `_project_lock_released` -/
def projectLockReleased (event : Json) : Except ProjectionError PlanningSnapshot := do
  let payload := event.get "payload"
  let lockId ← factText (payload.get "lock_id") "payload.lock_id"
  let _ ← found (lockRecord? document lockId)
    ⟨.invalidReference, "payload.lock_id", "effective lock is absent"⟩
  let o ← match document.operationInstances.filter fun o => lockId ∈ o.lockIds with
    | [o] => Except.ok o
    | _ =>
      .error (⟨.factConflict, "payload.lock_id", "lock does not map to one operation instance"⟩ :
        ProjectionError)
  require (payload.get "release_reason" = .str "OPERATION_COMPLETED" → o.status = .completed)
    ⟨.factConflict, "payload.release_reason", "operation is not completed"⟩
  return { document with
    records := { document.records with
      operationLocks := document.records.operationLocks.filter fun lock => lock.lockId ≠ lockId }
    operationInstances := updateRecord OperationInstance.operationInstanceId
      o.operationInstanceId (fun o => { o with lockIds := o.lockIds.erase lockId })
      document.operationInstances }

end

/-! ### Urgent demands -/

/-- `UrgentPriorityFact` -/
structure UrgentPriorityFact where
  eventId : String
  demandOrderId : String
  priorityWeight : Int
  sourceSystem : String
  sourceVersion : String
  sourceRecordId : String
deriving DecidableEq, Repr

section
variable {α : Type} (key : α → String)

/-- Every record is in the other collection, and unchanged. -/
def KeepsRecords (same : α → α → Prop) (before after : List α) : Prop :=
  ∀ record ∈ before, ∃ found ∈ dictGet key after (key record), same found record

instance (same : α → α → Prop) [∀ a b, Decidable (same a b)] (before after : List α) :
    Decidable (KeepsRecords key same before after) := by
  unfold KeepsRecords
  infer_instance

/-- The records whose identity the other collection lacks. -/
def addedRecords (before after : List α) : List α :=
  after.filter fun record => key record ∉ before.map key

/-- The collections have the same identities. -/
def SameIds (before after : List α) : Prop :=
  (∀ record ∈ before, key record ∈ after.map key) ∧
    ∀ record ∈ after, key record ∈ before.map key

instance (before after : List α) : Decidable (SameIds key before after) :=
  inferInstanceAs (Decidable (_ ∧ _))

end

/-- Whether every collection of the candidate keeps the current records, in the order of
`COLLECTION_ID_FIELDS`. -/
def collectionsKept (current candidate : CanonicalRecords) : List (String × Bool) :=
  [("factories", KeepsRecords FactoryRecord.factoryId (· = ·) current.factories
      candidate.factories),
   ("workshops", KeepsRecords WorkshopRecord.workshopId (· = ·) current.workshops
      candidate.workshops),
   ("production_lines", KeepsRecords ProductionLineRecord.productionLineId (· = ·)
      current.productionLines candidate.productionLines),
   ("resource_groups", KeepsRecords ResourceGroupRecord.resourceGroupId (· = ·)
      current.resourceGroups candidate.resourceGroups),
   ("resources", KeepsRecords ResourceRecord.resourceId (· = ·) current.resources
      candidate.resources),
   ("calendars", KeepsRecords CalendarRecord.calendarId (· = ·) current.calendars
      candidate.calendars),
   ("products", KeepsRecords ProductRecord.productId (· = ·) current.products
      candidate.products),
   ("routing_versions", KeepsRecords RoutingVersionRecord.routingVersionId (· = ·)
      current.routingVersions candidate.routingVersions),
   ("routing_operations", KeepsRecords RoutingOperationRecord.routingOperationId (· = ·)
      current.routingOperations candidate.routingOperations),
   ("routing_precedence_edges",
      KeepsRecords RoutingPrecedenceEdgeRecord.routingPrecedenceEdgeId (· = ·)
        current.routingPrecedenceEdges candidate.routingPrecedenceEdges),
   ("routing_resource_options",
      KeepsRecords RoutingResourceOptionRecord.routingResourceOptionId (· = ·)
        current.routingResourceOptions candidate.routingResourceOptions),
   ("demand_orders", KeepsRecords DemandOrderRecord.demandOrderId DemandOrderRecord.Same
      current.demandOrders candidate.demandOrders),
   ("production_orders", KeepsRecords ProductionOrderRecord.productionOrderId
      ProductionOrderRecord.Same current.productionOrders candidate.productionOrders),
   ("production_lots", KeepsRecords ProductionLotRecord.productionLotId ProductionLotRecord.Same
      current.productionLots candidate.productionLots),
   ("execution_facts", KeepsRecords ExecutionFactRecord.executionFactId ExecutionFactRecord.Same
      current.executionFacts candidate.executionFacts),
   ("operation_locks", KeepsRecords OperationLockRecord.lockId (· = ·) current.operationLocks
      candidate.operationLocks)]

/-- Whether the collections that may not grow have the current identities. -/
def collectionsFixed (current candidate : CanonicalRecords) : List (String × Bool) :=
  [("factories", SameIds FactoryRecord.factoryId current.factories candidate.factories),
   ("workshops", SameIds WorkshopRecord.workshopId current.workshops candidate.workshops),
   ("production_lines", SameIds ProductionLineRecord.productionLineId current.productionLines
      candidate.productionLines),
   ("resource_groups", SameIds ResourceGroupRecord.resourceGroupId current.resourceGroups
      candidate.resourceGroups),
   ("resources", SameIds ResourceRecord.resourceId current.resources candidate.resources),
   ("calendars", SameIds CalendarRecord.calendarId current.calendars candidate.calendars),
   ("execution_facts", SameIds ExecutionFactRecord.executionFactId current.executionFacts
      candidate.executionFacts),
   ("operation_locks", SameIds OperationLockRecord.lockId current.operationLocks
      candidate.operationLocks)]

/-- The sum of quantities as a fraction; sums of floats are taken exactly. -/
def quantityTotal (quantities : List Quantity) : Int × Nat :=
  quantities.foldl (fun total q => (total.1 * q.den + q.num * total.2, total.2 * q.den)) (0, 1)

/-- The demand that the import adds is that of the event. -/
def checkUrgentDemand (current candidate : CanonicalRecords) (payload : Json) (demandId : String)
    (quantity : Int) : Except ProjectionError Unit := do
  let added := addedRecords DemandOrderRecord.demandOrderId current.demandOrders
    candidate.demandOrders
  let demand ← match added with
    | [demand] => Except.ok demand
    | _ =>
      .error (⟨.urgentImportMismatch, "demand_orders", "must add exactly the event demand"⟩ :
        ProjectionError)
  require (demand.demandOrderId = demandId)
    ⟨.urgentImportMismatch, "demand_orders", "must add exactly the event demand"⟩
  require (demand.quantity.SameValue (.int quantity) ∧
    .str demand.dueAtUtc = payload.get "due_at_utc")
    ⟨.urgentImportMismatch, "payload", "quantity or due time differs from standard Import"⟩

/-- The orders and lots that the import adds belong to its demand. -/
def checkUrgentOrders (current candidate : CanonicalRecords) (demandId : String) (quantity : Int) :
    Except ProjectionError (List String) := do
  let orders := addedRecords ProductionOrderRecord.productionOrderId current.productionOrders
    candidate.productionOrders
  require (orders ≠ [] ∧ ∀ order ∈ orders, order.demandOrderId = demandId)
    ⟨.urgentImportMismatch, "production_orders",
      "new production orders must belong only to the urgent demand"⟩
  let total := quantityTotal (orders.map ProductionOrderRecord.quantity)
  require (total.1 = quantity * total.2)
    ⟨.urgentImportMismatch, "production_orders.quantity",
      "new order quantity must exactly cover urgent demand"⟩
  let orderIds := orders.map ProductionOrderRecord.productionOrderId
  let lots := addedRecords ProductionLotRecord.productionLotId current.productionLots
    candidate.productionLots
  require (lots ≠ [] ∧ ∀ lot ∈ lots, lot.productionOrderId ∈ orderIds)
    ⟨.urgentImportMismatch, "production_lots",
      "new lots must belong only to urgent production orders"⟩
  return orderIds

/-- The expanded operations that the import adds belong to its orders. -/
def checkUrgentInstances (current candidate : List OperationInstance) (orderIds : List String) :
    Except ProjectionError Unit := do
  require (KeepsRecords OperationInstance.operationInstanceId OperationInstance.Same current
    candidate)
    ⟨.urgentImportMismatch, "operation_instances", "existing expanded operations changed"⟩
  let added := addedRecords OperationInstance.operationInstanceId current candidate
  require (added ≠ [] ∧ ∀ o ∈ added, o.productionOrderId ∈ orderIds)
    ⟨.urgentImportMismatch, "operation_instances",
      "new expanded operations are not confined to urgent orders"⟩

/-- `_validate_urgent_candidate` -/
def validateUrgentCandidate (current candidate : PlanningSnapshot) (event : Json) :
    Except ProjectionError UrgentPriorityFact := do
  let payload := event.get "payload"
  let demandId ← factText (payload.get "demand_order_id") "payload.demand_order_id"
  require (current.synthetic = true ∧ candidate.synthetic = true ∧
    current.syntheticProvenance = candidate.syntheticProvenance)
    ⟨.urgentImportMismatch, "synthetic_provenance",
      "urgent import crossed its Simulation provenance boundary"⟩
  forEach
    (fun _ kept => require (kept.2 = true)
      ⟨.urgentImportMismatch, kept.1,
        "urgent import removed or changed an existing canonical record"⟩)
    (collectionsKept current.records candidate.records)
  let quantity ← factInteger (payload.get "quantity") "payload.quantity" 1
  checkUrgentDemand current.records candidate.records payload demandId quantity
  let orderIds ← checkUrgentOrders current.records candidate.records demandId quantity
  forEach
    (fun _ fixed => require (fixed.2 = true)
      ⟨.urgentImportMismatch, fixed.1,
        "urgent import may not change topology or effective facts"⟩)
    (collectionsFixed current.records candidate.records)
  checkUrgentInstances current.operationInstances candidate.operationInstances orderIds
  let source := payload.get "priority_source"
  sourceReference source "payload.priority_source"
  let eventId ← factText (event.get "event_id") "event_id"
  let priorityWeight ← factInteger (payload.get "priority_weight") "payload.priority_weight" 1
  return ⟨eventId, demandId, priorityWeight, (source.get "source_system").text,
    (source.get "source_version").text, (source.get "source_record_id").text⟩

/-! ### Batches -/

/-- `dictionary[key] = value` -/
def dictSet (items : List (String × String)) (key value : String) : List (String × String) :=
  items.filter (fun item => item.1 ≠ key) ++ [(key, value)]

/-- The dictionary with the entries of another one, which win. -/
def dictMerge (items others : List (String × String)) : List (String × String) :=
  items.filter (fun item => item.1 ∉ others.map Prod.fst) ++ others

/-- An urgent demand replaces the document by the imported one. -/
def projectUrgentDemand (document : PlanningSnapshot) (event : Json)
    (urgentSnapshot : Option PlanningSnapshot) :
    Except ProjectionError (PlanningSnapshot × UrgentPriorityFact) := do
  let candidate ← found urgentSnapshot
    ⟨.urgentImportRequired, "urgent_import",
      "complete standard Import/Validation artifacts are required"⟩
  let priority ← validateUrgentCandidate document candidate event
  return ({ candidate with
    sourceVersions := dictMerge document.sourceVersions candidate.sourceVersions }, priority)

/-- `_apply_event` of a kind other than an urgent demand. -/
def projectFact (document : PlanningSnapshot) (fullPrefix : List Json) (event : Json) :
    ExecutionEventType → Except ProjectionError PlanningSnapshot
  | .operationStarted => projectOperationStarted document event
  | .operationCompleted => projectOperationCompleted document event
  | .processingRemainingChanged => projectRemainingChanged document event
  | .processingDurationChanged => projectDurationChanged document event
  | .machineUnavailable => projectMachineUnavailable document event
  | .machineRecovered => projectMachineRecovered document fullPrefix event
  | .materialReady | .materialDelayed => projectMaterial document event
  | .lockCreated => projectLockCreated document event
  | .lockReleased => projectLockReleased document event
  | .urgentDemandReceived =>
    .error ⟨.invalidEvent, "event_type", "unsupported projection event"⟩

/-- `_apply_event` -/
def applyEvent (document : PlanningSnapshot) (fullPrefix : List Json) (event : Json)
    (urgentSnapshot : Option PlanningSnapshot) :
    Except ProjectionError (PlanningSnapshot × List UrgentPriorityFact) :=
  match ExecutionEventType.ofText (event.get "event_type").text with
  | none => .error ⟨.invalidEvent, "event_type", "unsupported projection event"⟩
  | some .urgentDemandReceived => do
    let (projected, priority) ← projectUrgentDemand document event urgentSnapshot
    return (projected, [priority])
  | some type => do
    let projected ← projectFact document fullPrefix event type
    return (projected, [])

/-- The loop of a batch. -/
def applyEvents (fullPrefix : List Json) (urgentSnapshots : List (String × PlanningSnapshot)) :
    PlanningSnapshot → List Json →
      Except ProjectionError (PlanningSnapshot × List UrgentPriorityFact)
  | document, [] => .ok (document, [])
  | document, event :: rest => do
    let eventId ← factText (event.get "event_id") "event_id"
    let (projected, priority) ← applyEvent document fullPrefix event
      (dictValue urgentSnapshots eventId)
    let (final, priorities) ← applyEvents fullPrefix urgentSnapshots projected rest
    return (final, priority ++ priorities)

/-- The lineage of a stream prefix. -/
def streamLineage (scope : ProjectionScope) (position : Nat) (fingerprint : String) : String :=
  s!"{scope.streamId}@{scope.streamVersion}#position={position}#{fingerprint}"

/-- `ProjectedFactBatch` -/
structure ProjectedFactBatch where
  document : PlanningSnapshot
  fromPosition : Nat
  throughPosition : Nat
  eventIds : List String
  eventFingerprints : List String
  streamFingerprint : String
  priorityFacts : List UrgentPriorityFact

/-- The source versions that a batch ends with. -/
def projectedVersions (scope : ProjectionScope) (baseHash : String) (position : Nat)
    (fingerprint : String) (versions : List (String × String)) : List (String × String) :=
  let versions := dictSet versions "plantnexus-execution-fact-projector" "1.0.0"
  let versions := dictSet versions "plantnexus-previous-snapshot" baseHash
  let versions := dictSet versions "plantnexus-execution-event-authority" scope.authorityId
  dictSet versions "plantnexus-execution-event-prefix" (streamLineage scope position fingerprint)

/-- The later of two instants. -/
def latest (instants : List Datetime) (first : Datetime) : Datetime :=
  instants.foldl (fun a b => if a < b then b else a) first

/-- `project_execution_event_batch` -/
def projectExecutionEventBatch (base : PlanningSnapshot) (fullPrefix : List Json)
    (afterPosition : Nat) (scope : ProjectionScope)
    (urgentSnapshots : List (String × PlanningSnapshot)) :
    Except ProjectionError ProjectedFactBatch := do
  let fingerprints ← validateEventPrefix scope fullPrefix
  require (afterPosition ≤ fullPrefix.length)
    ⟨.orderingViolation, "after_position", "is outside the verified prefix"⟩
  let tail := fullPrefix.drop afterPosition
  require (tail ≠ [])
    ⟨.orderingViolation, "event_stream", "projection tail is empty"⟩
  let factories := base.records.factories.map FactoryRecord.factoryId
  require ((factories ≠ [] ∧ ∀ id ∈ factories, id = scope.factoryId) ∧ base.synthetic = true)
    ⟨.authorityMismatch, "base_snapshot",
      "Snapshot factory or plane differs from projection scope"⟩
  let originalHash ← factText (.str base.snapshotHash) "base_snapshot.snapshot_hash"
  let tailIds := tail.map fun event => (event.get "event_id").text
  require (∀ urgent ∈ urgentSnapshots, urgent.1 ∈ tailIds)
    ⟨.urgentImportMismatch, "urgent_imports", "contains an event outside the projection tail"⟩
  let (document, priorityFacts) ← applyEvents fullPrefix urgentSnapshots base tail
  let through := fullPrefix.length
  let streamFingerprint := eventStreamFingerprint fingerprints
  let cutoff ← factUtc (.str document.cutoffAtUtc) "snapshot.cutoff_at_utc"
  let occurred ← collect
    (fun event : Json => factUtc (event.get "occurred_at_utc") "occurred_at_utc") tail
  return {
      document := { document with
        sourceVersions := projectedVersions scope originalHash through streamFingerprint
          document.sourceVersions
        cutoffAtUtc := formatUtcInstant (latest occurred cutoff) }
      fromPosition := afterPosition + 1
      throughPosition := through
      eventIds := tailIds
      eventFingerprints := fingerprints.drop afterPosition
      streamFingerprint
      priorityFacts }

/-! ### Snapshots -/

/-- `build_projected_snapshot` -/
def buildProjectedSnapshot (projected : PlanningSnapshot) :
    Except SnapshotError ImmutablePlanningSnapshot := do
  let candidate := { projected with entityCounts := projected.expectedCounts }
  let hash := snapshotHashFor candidate
  let candidate := { candidate with snapshotId := snapshotIdForHash hash, snapshotHash := hash }
  let invalid : CanonicalContractError → SnapshotError := fun error =>
    ⟨.invalidSnapshotInput, error.field, "valid projected planning-snapshot.v2",
      "Projected facts failed Snapshot semantic validation"⟩
  (validatePlanningSnapshotV2 candidate).mapError invalid
  let snapshot : ImmutablePlanningSnapshot :=
    ⟨canonicalSnapshotDocument candidate, snapshotIdForHash hash, hash, expectedPlane candidate⟩
  verifySnapshot snapshot
  return snapshot

end PlantNexus.Execution
