import PlantNexus.Backend.Selection

/-! What the constraints of the core model say of the plan a valuation selects.

One lemma for each builder of constraints, over exact instants: facts and locks, lags and
transports, gates, calendars and resource capacity. -/
namespace PlantNexus.Backend
open Data Time Domain Problem CpSat Validation Plan

section
variable {problem : PlanningProblem} {horizonStart horizonEnd : Datetime} {horizonTicks : Int}
  (h : PrecheckFacts problem horizonStart horizonEnd horizonTicks)
include h

/-! ### Facts and locks -/

theorem exactTickOffset_micros (text : String) (tick : Int)
    (hok : exactTickOffset text problem.horizonStartUtc problem.tickSeconds = .ok tick) :
    instantMicros text = tickMicros problem tick := by
  simp only [exactTickOffset, bind_eq_ok, instantAt_eq_ok, h.contract.start_eq,
    Except.ok.injEq] at hok
  obtain ⟨d, hd, origin, rfl, hok⟩ := hok
  split at hok
  · cases hok
  · rename_i hmod
    injection hok with hok
    have hdvd : problem.tickSeconds * 1000000 ∣ d.sub horizonStart :=
      Int.dvd_of_emod_eq_zero (not_not.mp hmod)
    have := Int.ediv_mul_cancel hdvd
    rw [hok, Datetime.sub, ← Int.mul_assoc] at this
    rw [instantMicros_eq _ _ hd, tickMicros_start h, microsPerSecond]
    omega

theorem tickMicros_inj (s t : Int) : tickMicros problem s = tickMicros problem t ↔ s = t := by
  have ht : problem.tickSeconds ≠ 0 := by
    have := h.contract.tick_pos
    omega
  rw [tickMicros_start h, tickMicros_start h]
  refine ⟨fun heq => ?_, fun heq => by rw [heq]⟩
  have hmul : s * problem.tickSeconds * microsPerSecond =
      t * problem.tickSeconds * microsPerSecond := by omega
  exact Int.eq_of_mul_eq_mul_right ht
    (Int.eq_of_mul_eq_mul_right (by decide : microsPerSecond ≠ 0) hmul)

omit h in
/-- The presence of an option says that its resource is taken. -/
theorem fixResource_ok (operation : CoreOperation) (resource : String)
    (hres : resource ∈ operation.options.map CoreOption.resourceId) :
    ∃ option ∈ operation.options, option.resourceId = resource ∧
      fixResource operation resource =
        .ok (.linear (.bool option.presence) .eq (.const 1) []) := by
  cases hget : dictGet CoreOption.resourceId operation.options resource with
  | none => exact absurd hres ((dictGet_eq_none_iff _ _ _).mp hget)
  | some option =>
    have hm := List.mem_reverse.mp (List.mem_of_find?_eq_some hget)
    have hid : option.resourceId = resource := by simpa using List.find?_some hget
    exact ⟨option, hm, hid, by simp [fixResource, hget]⟩

theorem posts_fixOperation (operation : CoreOperation) (hm : operation ∈ coreOperations problem)
    (resource : String) (hres : resource ∈ operation.options.map CoreOption.resourceId)
    (start stop : Int) :
    Posts problem (fixOperation operation resource start stop) fun _ plan =>
      ∀ p ∈ plan, p.operationId = operation.operationId →
        p.start = start ∧ p.stop = stop ∧ p.resourceId = resource := by
  obtain ⟨option, hoption, hid, hfix⟩ := fixResource_ok operation resource hres
  refine ⟨_, bind_eq_ok.mpr ⟨_, hfix, rfl⟩, ?_⟩
  intro ν plan hsel
  obtain ⟨p, hp, hselected⟩ := hsel.exists_placement h.contract hm
  have hpresent := hselected.present option hoption
  have hholds : (∀ c ∈ ([.linear (.int operation.start) .eq (.const start) [],
      .linear (.int operation.stop) .eq (.const stop) [],
      .linear (.bool option.presence) .eq (.const 1) []] : List Constraint), c.Holds ν) ↔
      p.start = start ∧ p.stop = stop ∧ p.resourceId = resource := by
    rw [← hselected.start, ← hselected.stop, eq_comm (a := p.resourceId), ← hid, ← hpresent]
    simp [Constraint.Holds, Relation.Holds, Expr.eval]
  rw [hholds]
  constructor
  · intro hfixed q hq hqid
    rw [hsel.unique h.contract hq hp (hqid.trans hselected.operation_id)]
    exact hfixed
  · intro hall
    exact hall p hp hselected.operation_id.symm

/-- A running operation keeps its resource and runs from the cutoff for its remainder. -/
theorem posts_runningConstraints (fact : OperationInstance)
    (hm : fact ∈ problem.operationInstances) :
    Posts problem (runningConstraints problem (coreOperations problem) fact) fun _ plan =>
      fact.status = .running → ∀ p ∈ plan, p.operationId = fact.operationId →
        p.start = 0 ∧
        (∀ remaining, fact.remainingSeconds = some remaining →
          p.stop = durationTicks remaining problem.tickSeconds) ∧
        fact.assignedResourceId = some p.resourceId := by
  unfold runningConstraints
  by_cases hstatus : fact.status = .running
  · obtain ⟨operation, hop, hid, hresources, hlookup⟩ := operationById_ok h.contract fact hm
    obtain ⟨_, resource, remaining, hfacts⟩ := (h.contract.operations fact hm).running hstatus
    have hposts := posts_fixOperation h operation hop resource
      (hresources ▸ hfacts.candidate) 0
      (ceilSecondsToTicks remaining problem.tickSeconds)
    obtain ⟨cs, hcs, hiff⟩ := hposts
    refine ⟨cs, ?_, ?_⟩
    · rw [if_neg (not_not.mpr hstatus)]
      exact bind_eq_ok.mpr ⟨operation, hlookup, by
        simpa [hfacts.remaining_eq, hfacts.resource_eq] using hcs⟩
    · intro ν plan hsel
      rw [hiff ν plan hsel, hid, ceilSecondsToTicks_eq _ _ h.contract.tick_pos]
      simp only [hstatus, forall_const, hfacts.remaining_eq, hfacts.resource_eq,
        Option.some.injEq, forall_eq', eq_comm (a := resource)]
  · rw [if_pos hstatus]
    exact posts_nil.congr fun ν plan _ => by simp [hstatus]

/-- A hard lock fixes its operation. -/
theorem posts_lockConstraints (lock : OperationLock) (hm : lock ∈ problem.operationLocks) :
    Posts problem (lockConstraints problem (coreOperations problem) lock) fun _ plan =>
      lock.lockType = .hardLock → ∀ p ∈ plan, lock.operationId = p.operationId →
        KeepsLock problem p lock := by
  unfold lockConstraints
  cases htype : lock.lockType with
  | softLock => exact posts_nil.congr fun ν plan _ => by simp
  | hardLock =>
    obtain ⟨fact, _, _, hfacts⟩ := h.contract.locks lock hm
    obtain ⟨⟨start, hstart⟩, stop, hstop⟩ := h.locks lock hm htype
    obtain ⟨operation, hop, hid, hresources, hlookup⟩ :=
      operationById_ok h.contract fact hfacts.mem
    rw [hfacts.operation_eq] at hid hlookup
    obtain ⟨cs, hcs, hiff⟩ :=
      posts_fixOperation h operation hop lock.resourceId (hresources ▸ hfacts.candidate) start
        stop
    refine ⟨cs, bind_eq_ok.mpr ⟨operation, hlookup, bind_eq_ok.mpr ⟨start, hstart,
      bind_eq_ok.mpr ⟨stop, hstop, hcs⟩⟩⟩, ?_⟩
    intro ν plan hsel
    rw [hiff ν plan hsel, hid]
    simp only [forall_const]
    refine forall₂_congr fun p _ => ?_
    rw [eq_comm (a := p.operationId)]
    refine forall_congr' fun _ => ?_
    have hs := exactTickOffset_micros h _ _ hstart
    have he := exactTickOffset_micros h _ _ hstop
    constructor
    · intro hfixed
      exact ⟨hfixed.2.2, by rw [hs, hfixed.1], by rw [he, hfixed.2.1]⟩
    · intro hkeeps
      have hstart' := hkeeps.start
      have hstop' := hkeeps.stop
      rw [hs, tickMicros_inj h] at hstart'
      rw [he, tickMicros_inj h] at hstop'
      exact ⟨hstart', hstop', hkeeps.resource⟩

/-! ### Lags and transports -/

omit h in
/-- Against whole seconds a lag fits when the seconds do. -/
theorem not_lagOutside_iff (edge : PrecedenceEdge) (n : Int) :
    ¬LagOutside edge (n * microsPerSecond) ↔
      edge.minLagSeconds ≤ n ∧ ∀ maximum, edge.maxLagSeconds = some maximum → n ≤ maximum := by
  have hpos : (0 : Int) < microsPerSecond := by decide
  have hlt : ∀ a b : Int, a * microsPerSecond < b * microsPerSecond ↔ a < b := fun a b =>
    ⟨fun hab => lt_of_mul_lt_mul_right hab hpos.le, fun hab => mul_lt_mul_of_pos_right hab hpos⟩
  unfold LagOutside
  simp only [hlt, not_or, not_lt, not_exists, not_and, Option.mem_def]

theorem lag_eq (start stop : Int) :
    tickMicros problem start - tickMicros problem stop =
      (start - stop) * problem.tickSeconds * microsPerSecond := by
  rw [tickMicros_start h, tickMicros_start h, Int.sub_mul, Int.sub_mul]
  omega

theorem anchorLag_eq (text : String) (n start : Int)
    (hn : instantMicros text = horizonStart.micros + n * microsPerSecond) :
    tickMicros problem start - instantMicros text =
      (start * problem.tickSeconds - n) * microsPerSecond := by
  rw [tickMicros_start h, hn, Int.sub_mul]
  omega

/-- The two workshops of an edge's ends. -/
theorem workshopOf_ok (resource : String)
    (hres : resource ∈ problem.resources.map Resource.resourceId) :
    ∃ r ∈ problem.resources, r.resourceId = resource ∧
      workshopOf problem resource = .ok r.workshopId := by
  obtain ⟨r, hr, hid⟩ := List.mem_map.mp hres
  refine ⟨r, hr, hid, ?_⟩
  have hget := (dictGet_eq_some_iff Resource.resourceId problem.resources resource r
    h.contract.resources_nodup).mpr ⟨hr, hid⟩
  simp [workshopOf, hget]

theorem crossWorkshop_iff (r s : Resource) (hr : r ∈ problem.resources)
    (hs : s ∈ problem.resources) :
    CrossWorkshop problem r.resourceId s.resourceId ↔ r.workshopId ≠ s.workshopId := by
  constructor
  · intro hcross
    obtain ⟨r', hr', s', hs', hid, hid', hne⟩ := hcross
    have hsame := List.inj_on_of_nodup_map h.contract.resources_nodup hr' hr hid
    have hsame' := List.inj_on_of_nodup_map h.contract.resources_nodup hs' hs hid'
    rwa [hsame, hsame'] at hne
  · intro hne
    exact ⟨r, hr, s, hs, rfl, rfl, hne⟩

/-- Every option of an operation's variables is on a declared resource. -/
theorem option_declared (fact : OperationInstance) (hm : fact ∈ problem.operationInstances)
    (operation : CoreOperation)
    (hresources : operation.options.map CoreOption.resourceId = fact.optionResources)
    (option : CoreOption) (hoption : option ∈ operation.options) :
    option.resourceId ∈ problem.resources.map Resource.resourceId := by
  have hmem : option.resourceId ∈ fact.optionResources :=
    hresources ▸ List.mem_map_of_mem hoption
  obtain ⟨o, ho, heq⟩ := List.mem_map.mp hmem
  rw [← heq]
  exact ((h.contract.operations fact hm).options o ho).resource

/-- The transport constraint from a workshop towards one resource. -/
theorem posts_transport (fromResource toResource w : String)
    (hfrom : fromResource ∈ problem.resources.map Resource.resourceId)
    (hto : toResource ∈ problem.resources.map Resource.resourceId)
    (hw : workshopOf problem fromResource = .ok w) (c : Constraint) :
    Posts problem
      (do
        let successorWorkshop ← workshopOf problem toResource
        return if w = successorWorkshop then [] else [c])
      fun ν _ => CrossWorkshop problem fromResource toResource → c.Holds ν := by
  obtain ⟨r, hr, rfl, hr'⟩ := workshopOf_ok h fromResource hfrom
  obtain ⟨s, hs, rfl, hw'⟩ := workshopOf_ok h toResource hto
  rw [hw] at hr'
  injection hr' with hr'
  refine ⟨_, bind_eq_ok.mpr ⟨s.workshopId, hw', rfl⟩, ?_⟩
  intro ν plan _
  rw [crossWorkshop_iff h r s hr hs, ← hr']
  by_cases heq : w = s.workshopId
  · simp [heq]
  · simp [heq]

omit h in
theorem holds_lag (ν : Valuation) (predecessor successor : CoreOperation) (bound : Int)
    (literals : List (Literal BoolVar)) :
    (Constraint.linear (lagExpr predecessor successor) .ge (.const bound) literals).Holds ν ↔
      ((∀ l ∈ literals, l.Holds ν) → bound ≤ ν.int successor.start - ν.int predecessor.stop) :=
  Iff.rfl

section
variable (edge : PrecedenceEdge) (successorFact : OperationInstance)
  (hsuccessorFact : successorFact ∈ problem.operationInstances)
  (successor : CoreOperation) (hsuccessor : successor ∈ coreOperations problem)
  (hsuccessorOptions :
    successor.options.map CoreOption.resourceId = successorFact.optionResources)
include hsuccessorFact hsuccessor hsuccessorOptions

theorem posts_activeTransport (predecessorFact : OperationInstance)
    (hpredecessorFact : predecessorFact ∈ problem.operationInstances)
    (predecessor : CoreOperation) (hpredecessor : predecessor ∈ coreOperations problem)
    (hpredecessorOptions :
      predecessor.options.map CoreOption.resourceId = predecessorFact.optionResources) :
    Posts problem (activeTransportConstraints problem edge predecessor successor) fun _ plan =>
      ∀ p ∈ plan, ∀ q ∈ plan, p.operationId = predecessor.operationId →
        q.operationId = successor.operationId → CrossWorkshop problem p.resourceId q.resourceId →
          edge.transportLagSeconds * microsPerSecond ≤
            tickMicros problem q.start - tickMicros problem p.stop := by
  have hposts : Posts problem (activeTransportConstraints problem edge predecessor successor) _ :=
    posts_collect (fun predecessorOption => do
      let predecessorWorkshop ← workshopOf problem predecessorOption.resourceId
      let constraints ← collect
        (fun successorOption => do
          let successorWorkshop ← workshopOf problem successorOption.resourceId
          return if predecessorWorkshop = successorWorkshop then []
            else [Constraint.linear (lagExpr predecessor successor) .ge
              (.const (ceilSecondsToTicks edge.transportLagSeconds problem.tickSeconds))
              [pos predecessorOption.presence, pos successorOption.presence]])
        successor.options
      return constraints.flatten)
    predecessor.options
    (fun predecessorOption ν _ => ∀ successorOption ∈ successor.options,
      CrossWorkshop problem predecessorOption.resourceId successorOption.resourceId →
        (Constraint.linear (lagExpr predecessor successor) .ge
          (.const (ceilSecondsToTicks edge.transportLagSeconds problem.tickSeconds))
          [pos predecessorOption.presence, pos successorOption.presence]).Holds ν)
    (fun predecessorOption hoption => by
      have hfrom := option_declared h predecessorFact hpredecessorFact predecessor
        hpredecessorOptions predecessorOption hoption
      obtain ⟨r, hr, hid, hw⟩ := workshopOf_ok h _ hfrom
      obtain ⟨cs, hcs, hiff⟩ := posts_collect _ successor.options _ fun successorOption hso =>
        posts_transport h _ _ r.workshopId hfrom (option_declared h successorFact hsuccessorFact
          successor hsuccessorOptions successorOption hso) hw
          (Constraint.linear (lagExpr predecessor successor) .ge
            (.const (ceilSecondsToTicks edge.transportLagSeconds problem.tickSeconds))
            [pos predecessorOption.presence, pos successorOption.presence])
      exact ⟨cs, bind_eq_ok.mpr ⟨r.workshopId, hw, hcs⟩, hiff⟩)
  refine hposts.congr fun ν plan hsel => ?_
  obtain ⟨p, hp, hpsel⟩ := hsel.exists_placement h.contract hpredecessor
  obtain ⟨q, hq, hqsel⟩ := hsel.exists_placement h.contract hsuccessor
  have ht := h.contract.tick_pos
  have hpos : (0 : Int) < microsPerSecond := by decide
  have hbound : ceilSecondsToTicks edge.transportLagSeconds problem.tickSeconds ≤
      q.start - p.stop ↔ edge.transportLagSeconds * microsPerSecond ≤
        tickMicros problem q.start - tickMicros problem p.stop := by
    rw [ceilSecondsToTicks_le_iff _ _ _ ht, lag_eq h]
    exact ⟨fun hle => mul_le_mul_of_nonneg_right hle hpos.le,
      fun hle => le_of_mul_le_mul_right hle hpos⟩
  simp only [holds_lag, hpsel.stop, hqsel.start, hbound, List.forall_mem_cons,
    List.not_mem_nil, false_implies, implies_true, and_true, Literal.Holds, pos]
  constructor
  · intro hall p' hp' q' hq' hpid hqid hcross
    rw [hsel.unique h.contract hp' hp (hpid.trans hpsel.operation_id)] at hcross ⊢
    rw [hsel.unique h.contract hq' hq (hqid.trans hqsel.operation_id)] at hcross ⊢
    obtain ⟨po, hpo, hpres⟩ := hpsel.option
    obtain ⟨so, hso, hsres⟩ := hqsel.option
    exact hall po hpo so hso (hpres ▸ hsres ▸ hcross)
      ⟨(hpsel.present po hpo).mpr hpres, (hqsel.present so hso).mpr hsres⟩
  · intro hall po hpo so hso hcross hpresent
    have hpres := (hpsel.present po hpo).mp hpresent.1
    have hsres := (hqsel.present so hso).mp hpresent.2
    exact hall p hp q hq hpsel.operation_id.symm hqsel.operation_id.symm (hpres ▸ hsres ▸ hcross)

theorem posts_anchorTransport (anchor : HistoricalCompletionAnchor)
    (hanchor : anchor ∈ problem.historicalCompletionAnchors) (anchorEnd : Int)
    (hend : instantMicros anchor.actualEndAtUtc =
      horizonStart.micros + anchorEnd * microsPerSecond) :
    Posts problem (anchorTransportConstraints problem anchorEnd anchor edge successor) fun _ plan =>
      ∀ q ∈ plan, q.operationId = successor.operationId →
        CrossWorkshop problem anchor.resourceId q.resourceId →
          edge.transportLagSeconds * microsPerSecond ≤
            tickMicros problem q.start - instantMicros anchor.actualEndAtUtc := by
  obtain ⟨_, _, hfacts⟩ := h.contract.anchors anchor hanchor
  obtain ⟨r, hr, hid, hw⟩ := workshopOf_ok h _ hfacts.resource
  obtain ⟨cs, hcs, hiff⟩ := posts_collect _ successor.options _ fun successorOption hso =>
    posts_transport h _ _ r.workshopId hfacts.resource (option_declared h successorFact
      hsuccessorFact successor hsuccessorOptions successorOption hso) hw
      (Constraint.linear (.int successor.start) .ge
        (.const (ceilSecondsToTicks (anchorEnd + edge.transportLagSeconds) problem.tickSeconds))
        [pos successorOption.presence])
  refine ⟨cs, bind_eq_ok.mpr ⟨r.workshopId, hw, hcs⟩, fun ν plan hsel => ?_⟩
  rw [hiff ν plan hsel]
  obtain ⟨q, hq, hqsel⟩ := hsel.exists_placement h.contract hsuccessor
  have ht := h.contract.tick_pos
  have hpos : (0 : Int) < microsPerSecond := by decide
  have hbound : ceilSecondsToTicks (anchorEnd + edge.transportLagSeconds) problem.tickSeconds ≤
      q.start ↔ edge.transportLagSeconds * microsPerSecond ≤
        tickMicros problem q.start - instantMicros anchor.actualEndAtUtc := by
    rw [ceilSecondsToTicks_le_iff _ _ _ ht, anchorLag_eq h _ _ _ hend]
    refine ⟨fun hle => mul_le_mul_of_nonneg_right (by omega) hpos.le, fun hle => ?_⟩
    have := le_of_mul_le_mul_right hle hpos
    omega
  have hholds : ∀ so : CoreOption, (Constraint.linear (.int successor.start) .ge
      (.const (ceilSecondsToTicks (anchorEnd + edge.transportLagSeconds) problem.tickSeconds))
      [pos so.presence]).Holds ν ↔ (ν.bool so.presence = true →
        edge.transportLagSeconds * microsPerSecond ≤
          tickMicros problem q.start - instantMicros anchor.actualEndAtUtc) := by
    intro so
    rw [← hbound, ← hqsel.start]
    simp [Constraint.Holds, Relation.Holds, Expr.eval, Literal.Holds, pos]
  simp only [hholds]
  constructor
  · intro hall q' hq' hqid hcross
    rw [hsel.unique h.contract hq' hq (hqid.trans hqsel.operation_id)] at hcross ⊢
    obtain ⟨so, hso, hsres⟩ := hqsel.option
    exact hall so hso (hsres ▸ hcross) ((hqsel.present so hso).mpr hsres)
  · intro hall so hso hcross hpresent
    have hsres := (hqsel.present so hso).mp hpresent
    exact hall q hq hqsel.operation_id.symm (hsres ▸ hcross)

end

omit h in
/-- The lag bounds of an edge, the successor's start minus some base, in seconds. -/
theorem lagBounds_iff (edge : PrecedenceEdge) (lower upper : Int → Int) (value lag : Int)
    (hlower : ∀ s, lower s ≤ value ↔ s ≤ lag) (hupper : ∀ s, value ≤ upper s ↔ lag ≤ s) :
    (lower edge.minLagSeconds ≤ value ∧
      ∀ maximum, edge.maxLagSeconds = some maximum → value ≤ upper maximum) ↔
      ¬LagOutside edge (lag * microsPerSecond) := by
  rw [not_lagOutside_iff, hlower]
  simp only [hupper]

theorem holds_activeLag (ν : Valuation) (plan : List Placement) (hsel : Selects problem ν plan)
    (edge : PrecedenceEdge) (predecessor successor : CoreOperation)
    (hpredecessor : predecessor ∈ coreOperations problem)
    (hsuccessor : successor ∈ coreOperations problem) :
    (∀ c ∈ activeLagConstraints problem.tickSeconds edge predecessor successor, c.Holds ν) ↔
      ∀ p ∈ plan, ∀ q ∈ plan, p.operationId = predecessor.operationId →
        q.operationId = successor.operationId →
          ¬LagOutside edge (tickMicros problem q.start - tickMicros problem p.stop) := by
  obtain ⟨p, hp, hpsel⟩ := hsel.exists_placement h.contract hpredecessor
  obtain ⟨q, hq, hqsel⟩ := hsel.exists_placement h.contract hsuccessor
  have ht := h.contract.tick_pos
  have hmain : (∀ c ∈ activeLagConstraints problem.tickSeconds edge predecessor successor,
      c.Holds ν) ↔ ¬LagOutside edge (tickMicros problem q.start - tickMicros problem p.stop) := by
    rw [lag_eq h, ← lagBounds_iff edge (ceilSecondsToTicks · problem.tickSeconds)
      (floorSecondsToTicks · problem.tickSeconds) (q.start - p.stop) _
      (fun s => ceilSecondsToTicks_le_iff s _ _ ht) (fun s => le_floorSecondsToTicks_iff s _ _ ht),
      ← hpsel.stop, ← hqsel.start]
    unfold activeLagConstraints
    cases edge.maxLagSeconds <;>
      simp [Constraint.Holds, Relation.Holds, Expr.eval, lagExpr]
  rw [hmain]
  constructor
  · intro hnot p' hp' q' hq' hpid hqid
    rw [hsel.unique h.contract hp' hp (hpid.trans hpsel.operation_id),
      hsel.unique h.contract hq' hq (hqid.trans hqsel.operation_id)]
    exact hnot
  · intro hall
    exact hall p hp q hq hpsel.operation_id.symm hqsel.operation_id.symm

theorem holds_anchorLag (ν : Valuation) (plan : List Placement) (hsel : Selects problem ν plan)
    (edge : PrecedenceEdge) (successor : CoreOperation)
    (hsuccessor : successor ∈ coreOperations problem) (text : String) (anchorEnd : Int)
    (hend : instantMicros text = horizonStart.micros + anchorEnd * microsPerSecond) :
    (∀ c ∈ anchorLagConstraints problem.tickSeconds anchorEnd edge successor, c.Holds ν) ↔
      ∀ q ∈ plan, q.operationId = successor.operationId →
        ¬LagOutside edge (tickMicros problem q.start - instantMicros text) := by
  obtain ⟨q, hq, hqsel⟩ := hsel.exists_placement h.contract hsuccessor
  have ht := h.contract.tick_pos
  have hmain : (∀ c ∈ anchorLagConstraints problem.tickSeconds anchorEnd edge successor,
      c.Holds ν) ↔ ¬LagOutside edge (tickMicros problem q.start - instantMicros text) := by
    rw [anchorLag_eq h _ _ _ hend,
      ← lagBounds_iff edge (fun s => ceilSecondsToTicks (anchorEnd + s) problem.tickSeconds)
        (fun s => floorSecondsToTicks (anchorEnd + s) problem.tickSeconds) q.start _
        (fun s => by rw [ceilSecondsToTicks_le_iff _ _ _ ht]; omega)
        (fun s => by rw [le_floorSecondsToTicks_iff _ _ _ ht]; omega), ← hqsel.start]
    unfold anchorLagConstraints
    cases edge.maxLagSeconds <;>
      simp [Constraint.Holds, Relation.Holds, Expr.eval]
  rw [hmain]
  constructor
  · intro hnot q' hq' hqid
    rw [hsel.unique h.contract hq' hq (hqid.trans hqsel.operation_id)]
    exact hnot
  · intro hall
    exact hall q hq hqsel.operation_id.symm

/-- **An edge's constraints say that its lag fits**, after a placement or after a completed
operation. -/
theorem posts_edgeConstraints (edge : PrecedenceEdge) (hedge : edge ∈ problem.precedenceEdges) :
    Posts problem (edgeConstraints problem (coreOperations problem) edge) fun _ plan =>
      (∀ p ∈ plan, ∀ q ∈ plan, p.operationId = edge.predecessorOperationId →
        q.operationId = edge.successorOperationId →
          LagFits problem edge p.resourceId q.resourceId
            (tickMicros problem q.start - tickMicros problem p.stop)) ∧
      ∀ anchor ∈ problem.historicalCompletionAnchors, ∀ q ∈ plan,
        anchor.operationId = edge.predecessorOperationId →
          q.operationId = edge.successorOperationId →
            LagFits problem edge anchor.resourceId q.resourceId
              (tickMicros problem q.start - instantMicros anchor.actualEndAtUtc) := by
  have hfacts := h.contract.edges edge hedge
  obtain ⟨sf, hsf, hsid⟩ := List.mem_map.mp hfacts.successor
  obtain ⟨successor, hs, hssid, hsopts, hslookup⟩ := operationById_ok h.contract sf hsf
  rw [hsid] at hssid hslookup
  cases hget : dictGet CoreOperation.operationId (coreOperations problem)
    edge.predecessorOperationId with
  | some predecessor =>
    have hlookup : operationById (coreOperations problem) edge.predecessorOperationId =
        .ok predecessor := by simp [operationById, hget]
    obtain ⟨hp, hpid⟩ := (operationById_eq_ok h.contract _ _).mp hlookup
    have hactive : edge.predecessorOperationId ∈ activeIds problem := by
      rw [← hpid, ← coreOperations_ids]
      exact List.mem_map_of_mem hp
    obtain ⟨pf, hpf, hpfid⟩ := List.mem_map.mp hactive
    obtain ⟨predecessor', hp', hpid', hpopts, -⟩ := operationById_ok h.contract pf hpf
    have hsame : predecessor' = predecessor := by
      have hlookup' := (operationById_eq_ok h.contract _ _).mpr ⟨hp', hpid'.trans hpfid⟩
      rw [hlookup] at hlookup'
      injection hlookup' with hlookup'
      exact hlookup'.symm
    rw [hsame] at hpopts
    obtain ⟨cs, hcs, hiff⟩ := posts_activeTransport h edge sf hsf successor hs hsopts pf hpf
      predecessor hp hpopts
    refine ⟨_, bind_eq_ok.mpr ⟨successor, hslookup, by
      rw [hget]
      exact bind_eq_ok.mpr ⟨cs, hcs, rfl⟩⟩, fun ν plan hsel => ?_⟩
    rw [List.forall_mem_append, hiff ν plan hsel,
      holds_activeLag h ν plan hsel edge predecessor successor hp hs, hpid, hssid]
    have hnone : ∀ anchor ∈ problem.historicalCompletionAnchors,
        anchor.operationId ≠ edge.predecessorOperationId := by
      intro anchor hm heq
      exact h.contract.anchors_disjoint anchor hm (heq ▸ hactive)
    constructor
    · intro hboth
      refine ⟨fun p hpm q hqm hpeq hqeq => ⟨hboth.1 p hpm q hqm hpeq hqeq,
        hboth.2 p hpm q hqm hpeq hqeq⟩, fun anchor hm q _ heq => absurd heq (hnone anchor hm)⟩
    · intro hboth
      exact ⟨fun p hpm q hqm hpeq hqeq => (hboth.1 p hpm q hqm hpeq hqeq).window,
        fun p hpm q hqm hpeq hqeq => (hboth.1 p hpm q hqm hpeq hqeq).transport⟩
  | none =>
    have hinactive : edge.predecessorOperationId ∉ activeIds problem := by
      rw [← coreOperations_ids]
      exact (dictGet_eq_none_iff _ _ _).mp hget
    obtain ⟨anchor, hm, haid⟩ : ∃ anchor ∈ problem.historicalCompletionAnchors,
        anchor.operationId = edge.predecessorOperationId := by
      cases hfacts.predecessor with
      | inl hactive => exact absurd hactive hinactive
      | inr hanchor => exact List.mem_map.mp hanchor
    have hanchor : anchorById problem edge.predecessorOperationId = .ok anchor := by
      have := (dictGet_eq_some_iff HistoricalCompletionAnchor.operationId _ _ anchor
        h.contract.anchors_nodup).mpr ⟨hm, haid⟩
      simp [anchorById, this]
    obtain ⟨anchorEnd, hrelative, hend⟩ := relativeSeconds_ok h _ (h.anchors anchor hm)
    obtain ⟨cs, hcs, hiff⟩ := posts_anchorTransport h edge sf hsf successor hs hsopts anchor hm
      anchorEnd hend
    refine ⟨_, bind_eq_ok.mpr ⟨successor, hslookup, by
      rw [hget]
      exact bind_eq_ok.mpr ⟨anchor, hanchor, bind_eq_ok.mpr ⟨anchorEnd, hrelative,
        bind_eq_ok.mpr ⟨cs, hcs, rfl⟩⟩⟩⟩, fun ν plan hsel => ?_⟩
    rw [List.forall_mem_append, hiff ν plan hsel,
      holds_anchorLag h ν plan hsel edge successor hs _ anchorEnd hend, hssid]
    constructor
    · intro hboth
      refine ⟨fun p hpm q _ hpeq => absurd ?_ hinactive, fun anchor' hm' q hqm haeq hqeq => ?_⟩
      · rw [← hpeq]
        exact hsel.covers.ids_perm.mem_iff.mp (List.mem_map_of_mem hpm)
      · have hsame : anchor' = anchor :=
          List.inj_on_of_nodup_map h.contract.anchors_nodup hm' hm (haeq.trans haid.symm)
        rw [hsame]
        exact ⟨hboth.1 q hqm hqeq, hboth.2 q hqm hqeq⟩
    · intro hboth
      exact ⟨fun q hqm hqeq => (hboth.2 anchor hm q hqm haid hqeq).window,
        fun q hqm hqeq => (hboth.2 anchor hm q hqm haid hqeq).transport⟩

/-! ### Gates -/

/-- A gate is posted only when it excludes a tick of the model. -/
theorem holds_gateConstraint (ν : Valuation) (p : Placement) (bound : CoreOperation)
    (hselected : Selected problem.tickSeconds ν bound p) (text : String) (n : Int)
    (hn : instantMicros text = horizonStart.micros + n * microsPerSecond) :
    (∀ c ∈ gateConstraint bound (ceilSecondsToTicks n problem.tickSeconds), c.Holds ν) ↔
      instantMicros text ≤ tickMicros problem (max 0 p.start) := by
  rw [le_tickMicros_iff h text n _ hn, ← ceilSecondsToTicks_le_iff _ _ _ h.contract.tick_pos,
    ← hselected.start]
  unfold gateConstraint
  by_cases hpos : ceilSecondsToTicks n problem.tickSeconds > 0
  · rw [if_pos hpos]
    simp only [List.mem_singleton, forall_eq, Constraint.Holds, Relation.Holds, Expr.eval,
      List.not_mem_nil, false_implies, implies_true, forall_const]
    omega
  · rw [if_neg hpos]
    simp only [List.not_mem_nil, false_implies, implies_true, true_iff]
    omega

theorem posts_operationGates (fact : OperationInstance)
    (hm : fact ∈ problem.operationInstances) :
    Posts problem (operationGates problem (coreOperations problem) fact) fun _ plan =>
      ∀ p ∈ plan, p.operationId = fact.operationId →
        instantMicros fact.releaseAtUtc ≤ tickMicros problem (max 0 p.start) ∧
          instantMicros fact.materialReadyAtUtc ≤ tickMicros problem (max 0 p.start) := by
  obtain ⟨bound, hop, hid, -, hlookup⟩ := operationById_ok h.contract fact hm
  obtain ⟨release, hrelease, hr⟩ := relativeSeconds_ok h _ (h.release fact hm)
  obtain ⟨material, hmaterial, hmat⟩ := relativeSeconds_ok h _ (h.material fact hm)
  refine ⟨_, bind_eq_ok.mpr ⟨bound, hlookup, bind_eq_ok.mpr ⟨release, hrelease,
    bind_eq_ok.mpr ⟨material, hmaterial, rfl⟩⟩⟩, fun ν plan hsel => ?_⟩
  obtain ⟨p, hp, hselected⟩ := hsel.exists_placement h.contract hop
  rw [List.forall_mem_append, holds_gateConstraint h ν p bound hselected _ release hr,
    holds_gateConstraint h ν p bound hselected _ material hmat]
  constructor
  · intro hboth q hq hqid
    rw [hsel.unique h.contract hq hp (hqid.trans (hid.symm.trans hselected.operation_id))]
    exact hboth
  · intro hall
    exact hall p hp (hselected.operation_id.symm.trans hid)

/-! ### Calendars -/

/-- The ticks an interval touches, clipped to the horizon. -/
structure TouchesTicks (problem : PlanningProblem) (horizonTicks : Int)
    (interval : UnavailableInterval) (block : Block) : Prop where
  apart : ∀ start stop, 0 ≤ start → start < stop → stop ≤ horizonTicks →
    ((block.1 < block.2 → block.2 ≤ start ∨ stop ≤ block.1) ↔
      instantMicros interval.endUtc ≤ tickMicros problem start ∨
        tickMicros problem stop ≤ instantMicros interval.startUtc)

theorem calendarBlock_ok (interval : UnavailableInterval)
    (hm : interval ∈ problem.resourceUnavailableIntervals) :
    ∃ block, calendarBlock problem horizonTicks interval = .ok (interval.resourceId, block) ∧
      TouchesTicks problem horizonTicks interval block := by
  obtain ⟨hwhole, hwhole'⟩ := h.intervals interval hm
  obtain ⟨s, hs, hsm⟩ := relativeSeconds_ok h _ hwhole
  obtain ⟨e, he, hem⟩ := relativeSeconds_ok h _ hwhole'
  obtain ⟨us, ue, hfacts⟩ := h.contract.intervals interval hm
  have ht := h.contract.tick_pos
  refine ⟨clippedBlock problem.tickSeconds horizonTicks s e,
    bind_eq_ok.mpr ⟨s, hs, bind_eq_ok.mpr ⟨e, he, if_neg ?_⟩⟩, ⟨?_⟩⟩
  · exact fun hmissing => hmissing.2 hfacts.resource
  intro start stop hstart hlt hstop
  unfold clippedBlock
  have hse : s < e := by
    have hlt' : us.micros < ue.micros := hfacts.lt
    rw [instantMicros_eq _ _ hfacts.start_eq] at hsm
    rw [instantMicros_eq _ _ hfacts.stop_eq] at hem
    have hmul : s * microsPerSecond < e * microsPerSecond := by omega
    exact lt_of_mul_lt_mul_right hmul (by decide)
  have hfloor : floorSecondsToTicks s problem.tickSeconds <
      ceilSecondsToTicks e problem.tickSeconds := by
    by_contra hge
    have hle := (ceilSecondsToTicks_le_iff e _ _ ht).mp (not_lt.mp hge)
    have hle' := (le_floorSecondsToTicks_iff s problem.tickSeconds _ ht).mp le_rfl
    omega
  have hfrom := ceilSecondsToTicks_le_iff e problem.tickSeconds start ht
  have hto := le_floorSecondsToTicks_iff s problem.tickSeconds stop ht
  rw [le_tickMicros_iff h _ e start hem, tickMicros_le_iff h _ s stop hsm, ← hfrom, ← hto]
  omega

/-- The merged blocks of a resource keep a placement off its calendar. -/
theorem calendarTickBlocks_ok :
    ∃ blocks, calendarTickBlocks problem horizonTicks = .ok blocks ∧
      blocks.map Prod.fst = sortByKey id (problem.resources.map Resource.resourceId) ∧
      ∀ b ∈ blocks, (∀ c ∈ b.2, c.1 < c.2) ∧ (b.2.Pairwise fun c d => c.2 < d.1) ∧
        ∀ start stop, 0 ≤ start → start < stop → stop ≤ horizonTicks →
          ((∀ c ∈ b.2, c.2 ≤ start ∨ stop ≤ c.1) ↔
            ∀ interval ∈ problem.resourceUnavailableIntervals, interval.resourceId = b.1 →
              instantMicros interval.endUtc ≤ tickMicros problem start ∨
                tickMicros problem stop ≤ instantMicros interval.startUtc) := by
  obtain ⟨projected, hprojected⟩ : ∃ projected, collect (calendarBlock problem horizonTicks)
      problem.resourceUnavailableIntervals = .ok projected :=
    (collect_isOk _ _).mpr fun interval hm => by
      obtain ⟨block, hblock, -⟩ := calendarBlock_ok h interval hm
      exact ⟨_, hblock⟩
  refine ⟨_, bind_eq_ok.mpr ⟨projected, hprojected, rfl⟩, ?_, ?_⟩
  · rw [List.map_map, h.contract.resources_nodup.dedup]
    exact List.map_id _
  intro b hb
  obtain ⟨resource, -, rfl⟩ := List.mem_map.mp hb
  refine ⟨mergeBlocks_nonempty _, mergeBlocks_separated _, ?_⟩
  intro start stop hstart hlt hstop
  rw [mergeBlocks_apart_iff _ _ _ hlt]
  simp only [List.mem_map, List.mem_filter, decide_eq_true_eq]
  constructor
  · intro hall interval hm hres
    obtain ⟨block, hblock, htouch⟩ := calendarBlock_ok h interval hm
    have hmem : (interval.resourceId, block) ∈ projected :=
      (mem_collect hprojected _).mpr ⟨interval, hm, hblock⟩
    refine (htouch.apart start stop hstart hlt hstop).mp fun hne => ?_
    exact hall block ⟨(interval.resourceId, block), ⟨hmem, hres, hne⟩, rfl⟩ hne
  · intro hall c hc hne
    obtain ⟨⟨r, block⟩, ⟨hmem, hres, -⟩, rfl⟩ := hc
    obtain ⟨interval, hm, hok⟩ := (mem_collect hprojected _).mp hmem
    obtain ⟨block', hblock', htouch⟩ := calendarBlock_ok h interval hm
    rw [hok] at hblock'
    injection hblock' with hblock'
    injection hblock' with hid hblock'
    subst hblock'
    exact (htouch.apart start stop hstart hlt hstop).mpr (hall interval hm (hid ▸ hres)) hne

end

/-! ### Capacity -/

section
variable {tick : Int} {ν : Valuation}

/-- The optional intervals of one operation on a resource. -/
def optionIntervals (operation : CoreOperation) (resourceId : String) : List Interval :=
  (operation.options.filter fun option => option.resourceId = resourceId).map operation.interval

theorem resourceIntervals_cons (operation : CoreOperation) (rest : List CoreOperation)
    (resourceId : String) :
    resourceIntervals (operation :: rest) resourceId =
      optionIntervals operation resourceId ++ resourceIntervals rest resourceId :=
  List.flatMap_cons

/-- What holds of an operation's present interval holds of its placement. -/
theorem forall_optionIntervals {operation : CoreOperation} {p : Placement}
    (h : Selected tick ν operation p) (resourceId : String) (Q : Int → Int → Prop) :
    (∀ i ∈ optionIntervals operation resourceId, i.Present ν →
      Q (i.start.eval ν) (i.stop.eval ν)) ↔ (p.resourceId = resourceId → Q p.start p.stop) := by
  constructor
  · intro hall hres
    obtain ⟨option, hoption, hid⟩ := h.option
    have hmem : operation.interval option ∈ optionIntervals operation resourceId :=
      List.mem_map_of_mem (List.mem_filter.mpr ⟨hoption, by simpa using hid.trans hres⟩)
    have := hall _ hmem ((h.present option hoption).mpr hid)
    rwa [← h.start, ← h.stop]
  · intro himp i hi hpresent
    obtain ⟨option, hfilter, rfl⟩ := List.mem_map.mp hi
    obtain ⟨hoption, hid⟩ := List.mem_filter.mp hfilter
    have hres := (h.present option hoption).mp hpresent
    have := himp (hres.symm.trans (of_decide_eq_true hid))
    rwa [← h.start, ← h.stop] at this

theorem forall_resourceIntervals {operations : List CoreOperation} {plan : List Placement}
    (h : List.Forall₂ (Selected tick ν) operations plan) (resourceId : String)
    (Q : Int → Int → Prop) :
    (∀ i ∈ resourceIntervals operations resourceId, i.Present ν →
      Q (i.start.eval ν) (i.stop.eval ν)) ↔
      ∀ p ∈ plan, p.resourceId = resourceId → Q p.start p.stop := by
  induction h with
  | nil => simp [resourceIntervals]
  | cons hselected _ ih =>
    rw [resourceIntervals_cons, List.forall_mem_append, forall_optionIntervals hselected, ih,
      List.forall_mem_cons]

/-- An operation has one option on a resource. -/
theorem pairwise_optionIntervals {operation : CoreOperation} {p : Placement}
    (h : Selected tick ν operation p) (hnodup : p.operation.optionResources.Nodup)
    (resourceId : String) (R : Interval → Interval → Prop) :
    (optionIntervals operation resourceId).Pairwise R := by
  rw [← h.resources] at hnodup
  have hne : operation.options.Pairwise fun a b => a.resourceId ≠ b.resourceId :=
    List.pairwise_map.mp hnodup
  unfold optionIntervals
  refine List.pairwise_map.mpr ((hne.filter _).imp_of_mem ?_)
  intro a b ha hb hab
  have hra := of_decide_eq_true (List.mem_filter.mp ha).2
  have hrb := of_decide_eq_true (List.mem_filter.mp hb).2
  exact absurd (hra.trans hrb.symm) hab

/-- The intervals of a resource are apart when its placements are. -/
theorem pairwise_resourceIntervals {operations : List CoreOperation} {plan : List Placement}
    (h : List.Forall₂ (Selected tick ν) operations plan)
    (hnodup : ∀ p ∈ plan, p.operation.optionResources.Nodup) (resourceId : String) :
    ((resourceIntervals operations resourceId).Pairwise fun i j => i.Apart ν j) ↔
      plan.Pairwise fun p q => p.resourceId = resourceId → q.resourceId = resourceId →
        p.stop ≤ q.start ∨ q.stop ≤ p.start := by
  induction h with
  | nil => simp [resourceIntervals]
  | @cons operation p operations plan hselected hrest ih =>
    have htail := ih fun q hq => hnodup q (List.mem_cons_of_mem _ hq)
    have hhead := pairwise_optionIntervals hselected (hnodup p (List.mem_cons_self ..)) resourceId
      fun i j => i.Apart ν j
    have hcross : (∀ i ∈ optionIntervals operation resourceId,
        ∀ j ∈ resourceIntervals operations resourceId, i.Apart ν j) ↔
        ∀ q ∈ plan, p.resourceId = resourceId → q.resourceId = resourceId →
          p.stop ≤ q.start ∨ q.stop ≤ p.start := by
      have hinner : ∀ i : Interval, (∀ j ∈ resourceIntervals operations resourceId,
          i.Apart ν j) ↔ (i.Present ν → ∀ q ∈ plan, q.resourceId = resourceId →
            i.stop.eval ν ≤ q.start ∨ q.stop ≤ i.start.eval ν) := by
        intro i
        rw [← forall_resourceIntervals hrest resourceId
          fun s e => i.stop.eval ν ≤ s ∨ e ≤ i.start.eval ν]
        exact ⟨fun hall hi j hj hpresent => hall j hj hi hpresent,
          fun hall j hj hi hpresent => hall hi j hj hpresent⟩
      simp only [hinner]
      rw [forall_optionIntervals hselected resourceId
        fun s e => ∀ q ∈ plan, q.resourceId = resourceId → e ≤ q.start ∨ q.stop ≤ s]
      exact ⟨fun hall q hq hp hqr => hall hp q hq hqr, fun hall hp q hq hqr => hall q hq hp hqr⟩
    rw [resourceIntervals_cons, List.pairwise_append, htail, hcross, List.pairwise_cons]
    exact ⟨fun hall => ⟨hall.2.2, hall.2.1⟩, fun hall => ⟨hhead, hall.2, hall.1⟩⟩

end

section
variable {problem : PlanningProblem} {horizonStart horizonEnd : Datetime} {horizonTicks : Int}
  (h : PrecheckFacts problem horizonStart horizonEnd horizonTicks)
include h

/-- The calendar intervals of each resource. -/
def calendarIntervals (blocks : List (String × List Block)) : List (String × List Interval) :=
  blocks.map fun b => (b.1, b.2.map blockInterval)

omit h in
theorem pairwise_blockInterval (ν : Valuation) (blocks : List Block)
    (hsep : blocks.Pairwise fun c d => c.2 < d.1) :
    (blocks.map blockInterval).Pairwise fun i j => i.Apart ν j :=
  List.pairwise_map.mpr (hsep.imp fun hlt _ _ => .inl (le_of_lt hlt))

/-- **The no-overlap constraints say that placements are apart and off their calendars.** -/
theorem holds_noOverlap (ν : Valuation) (plan : List Placement) (hsel : Selects problem ν plan)
    (blocks : List (String × List Block))
    (hids : blocks.map Prod.fst = sortByKey id (problem.resources.map Resource.resourceId))
    (hsep : ∀ b ∈ blocks, b.2.Pairwise fun c d => c.2 < d.1) :
    (∀ c ∈ (sortByKey id (problem.resources.map Resource.resourceId)).flatMap
      (noOverlapConstraint (coreOperations problem) (calendarIntervals blocks)), c.Holds ν) ↔
      plan.Pairwise Apart ∧ ∀ p ∈ plan, ∀ b ∈ blocks, b.1 = p.resourceId →
        ∀ c ∈ b.2, c.2 ≤ p.start ∨ p.stop ≤ c.1 := by
  have hnodup : ∀ p ∈ plan, p.operation.optionResources.Nodup := fun p hp =>
    (h.contract.operations _ (hsel.covers.mem hp)).options_nodup
  have hdeclared : ∀ p ∈ plan, p.resourceId ∈ problem.resources.map Resource.resourceId :=
    fun p hp => ((h.contract.operations _ (hsel.covers.mem hp)).options p.option
      (hsel.options p hp)).resource
  have hblocksNodup : (blocks.map Prod.fst).Nodup := by
    rw [hids]
    exact (sortByKey_perm id _).nodup_iff.mpr h.contract.resources_nodup
  -- one resource at a time
  have hone : ∀ b ∈ blocks,
      (∀ c ∈ noOverlapConstraint (coreOperations problem) (calendarIntervals blocks) b.1,
        c.Holds ν) ↔
      (plan.Pairwise fun p q => p.resourceId = b.1 → q.resourceId = b.1 →
        p.stop ≤ q.start ∨ q.stop ≤ p.start) ∧
      ∀ p ∈ plan, p.resourceId = b.1 → ∀ c ∈ b.2, p.stop ≤ c.1 ∨ c.2 ≤ p.start := by
    intro b hb
    have hget : dictGet Prod.fst (calendarIntervals blocks) b.1 =
        some (b.1, b.2.map blockInterval) := by
      rw [dictGet_eq_some_iff]
      · exact ⟨List.mem_map_of_mem hb, rfl⟩
      · rw [calendarIntervals, List.map_map]
        exact hblocksNodup
    have hpairwise : (∀ c ∈ noOverlapConstraint (coreOperations problem)
        (calendarIntervals blocks) b.1, c.Holds ν) ↔
        (resourceIntervals (coreOperations problem) b.1 ++
          b.2.map blockInterval).Pairwise fun i j => i.Apart ν j := by
      unfold noOverlapConstraint
      rw [hget]
      by_cases hnil : resourceIntervals (coreOperations problem) b.1 ++
          b.2.map blockInterval = []
      · simp [hnil]
      · simp only [hnil, if_false, List.mem_singleton, forall_eq]
        rfl
    rw [hpairwise, List.pairwise_append, pairwise_resourceIntervals hsel.selected hnodup,
      ← forall_resourceIntervals hsel.selected b.1
        fun s e => ∀ c ∈ b.2, e ≤ c.1 ∨ c.2 ≤ s]
    refine and_congr_right fun _ => ?_
    constructor
    · intro hall i hi hpresent c hc
      exact hall.2 i hi (blockInterval c) (List.mem_map_of_mem hc) hpresent trivial
    · intro hall
      refine ⟨pairwise_blockInterval ν b.2 (hsep b hb), ?_⟩
      intro i hi j hj hpresent _
      obtain ⟨c, hc, rfl⟩ := List.mem_map.mp hj
      exact hall i hi hpresent c hc
  rw [List.forall_mem_flatMap, ← hids]
  simp only [List.forall_mem_map]
  constructor
  · intro hall
    have hall' := fun b hb => (hone b hb).mp (hall b hb)
    refine ⟨List.pairwise_iff_forall_sublist.mpr ?_, ?_⟩
    · intro p q hpq hres
      have hp : p ∈ plan := hpq.subset (List.mem_cons_self ..)
      have hmem : p.resourceId ∈ blocks.map Prod.fst := by
        rw [hids, mem_sortByKey]
        exact hdeclared p hp
      obtain ⟨b, hb, hbid⟩ := List.mem_map.mp hmem
      exact List.pairwise_iff_forall_sublist.mp (hall' b hb).1 hpq hbid.symm
        (hres.symm.trans hbid.symm)
    · intro p hp b hb hbid c hc
      exact ((hall' b hb).2 p hp hbid.symm c hc).symm
  · intro hboth b hb
    refine (hone b hb).mpr ⟨hboth.1.imp ?_, ?_⟩
    · intro p q hapart hp hq
      exact hapart (hp.trans hq.symm)
    · intro p hp hres c hc
      exact (hboth.2 p hp b hb hres.symm c hc).symm

end
end PlantNexus.Backend
