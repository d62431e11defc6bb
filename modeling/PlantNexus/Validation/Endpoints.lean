import PlantNexus.Validation.InstantRules

/-! Endpoints, and the lag rules C-002 and C-009.

The endpoint map holds the place of every operation that has one. The lag of an edge is
read in whole seconds, truncated towards zero: exact between two assignments, and off by
less than a second after a completed operation whose end is not on a whole second. -/
namespace PlantNexus.Validation
open Data Time Domain Problem

section
variable {problem : PlanningProblem} {horizonStart horizonEnd : Datetime}
  (h : ContractFacts problem horizonStart horizonEnd)
include h

/-! ### Endpoints -/

theorem assignmentEndpoint_isOk (a : Assignment) :
    (∃ eps, assignmentEndpoint problem horizonStart a = .ok eps) ↔
      ∀ resource start stop, a.resourceId = some resource → a.Usable start stop →
        InRange problem start ∧ InRange problem stop := by
  unfold assignmentEndpoint
  split
  · rename_i resource start stop hres hint
    have husable := (a.interval_eq_some start stop).mp hint
    simp only [bind_eq_ok]
    constructor
    · rintro ⟨_, s, hs, e, he, -⟩ _ start' stop' - husable'
      obtain ⟨rfl, rfl⟩ := usable_unique husable husable'
      exact ⟨(tickInstant_isOk h start).mp ⟨s, hs⟩, (tickInstant_isOk h stop).mp ⟨e, he⟩⟩
    · intro hall
      obtain ⟨hs, he⟩ := hall resource start stop hres husable
      obtain ⟨s, hs⟩ := (tickInstant_isOk h start).mpr hs
      obtain ⟨e, he⟩ := (tickInstant_isOk h stop).mpr he
      exact ⟨_, s, hs, e, he, rfl⟩
  · rename_i hnone
    constructor
    · rintro - resource start stop hres husable
      exact absurd ((a.interval_eq_some start stop).mpr husable) (hnone resource start stop hres)
    · intro _
      exact ⟨[], rfl⟩

theorem mem_assignmentEndpoint (a : Assignment) (eps : List Endpoint)
    (hok : assignmentEndpoint problem horizonStart a = .ok eps) (ep : Endpoint) :
    ep ∈ eps ↔ ep.operationId = a.operationId ∧ a.resourceId = some ep.resourceId ∧
      ∃ start stop, a.Usable start stop ∧ ep.startAt.micros = tickMicros problem start ∧
        ep.endAt.micros = tickMicros problem stop := by
  unfold assignmentEndpoint at hok
  split at hok
  · rename_i resource start stop hres hint
    have husable := (a.interval_eq_some start stop).mp hint
    simp only [bind_eq_ok] at hok
    obtain ⟨s, hs, e, he, heps⟩ := hok
    injection heps with heps
    subst heps
    rw [tickInstant_eq_ok h] at hs he
    rw [List.mem_singleton]
    constructor
    · rintro rfl
      exact ⟨rfl, hres, start, stop, husable, hs, he⟩
    · intro hall
      obtain ⟨hid, hres', start', stop', husable', hs', he'⟩ := hall
      obtain ⟨rfl, rfl⟩ := usable_unique husable husable'
      rw [hres] at hres'
      injection hres' with hres'
      have hstart : ep.startAt = s := Datetime.ext_micros (hs'.trans hs.symm)
      have hend : ep.endAt = e := Datetime.ext_micros (he'.trans he.symm)
      cases ep
      simp_all
  · rename_i hnone
    injection hok with hok
    subst hok
    simp only [List.not_mem_nil, false_iff, not_and, not_exists]
    rintro - hres start stop husable
    exact absurd ((a.interval_eq_some start stop).mpr husable) (hnone _ start stop hres)

theorem anchorEndpoint_eq_ok (anchor : HistoricalCompletionAnchor)
    (hmem : anchor ∈ problem.historicalCompletionAnchors) :
    ∃ ep, anchorEndpoint anchor = .ok ep ∧ ep.operationId = anchor.operationId ∧
      ep.resourceId = anchor.resourceId ∧
      ep.startAt.micros = instantMicros anchor.actualStartAtUtc ∧
      ep.endAt.micros = instantMicros anchor.actualEndAtUtc := by
  obtain ⟨s, e, hfacts⟩ := h.anchors anchor hmem
  refine ⟨⟨anchor.operationId, anchor.resourceId, s, e⟩, ?_, rfl, rfl, ?_, ?_⟩
  · simp [anchorEndpoint, instantAt, hfacts.start_eq, hfacts.stop_eq, bind, Except.bind, pure,
      Except.pure]
  · exact (instantMicros_eq _ _ hfacts.start_eq).symm
  · exact (instantMicros_eq _ _ hfacts.stop_eq).symm

theorem endpointMaps_isOk (assignments : List Assignment)
    (hrange : ∀ a ∈ assignments, ∀ resource start stop, a.resourceId = some resource →
      a.Usable start stop → InRange problem start ∧ InRange problem stop) :
    ∃ endpoints, endpointMaps problem horizonStart assignments = .ok endpoints := by
  obtain ⟨assigned, hassigned⟩ := (collect_isOk (assignmentEndpoint problem horizonStart)
    (assignments.filter fun a => single assignments a.operationId = some a)).mpr fun a ha =>
      (assignmentEndpoint_isOk h a).mpr (hrange a (List.mem_filter.mp ha).1)
  obtain ⟨anchors, hanchors⟩ := (collect_isOk anchorEndpoint
    problem.historicalCompletionAnchors).mpr fun anchor hm => by
      obtain ⟨ep, hep, -⟩ := anchorEndpoint_eq_ok h anchor hm
      exact ⟨ep, hep⟩
  exact ⟨assigned.flatten ++ anchors,
    bind_eq_ok.mpr ⟨assigned, hassigned, bind_eq_ok.mpr ⟨anchors, hanchors, rfl⟩⟩⟩

/-- **The endpoint map holds exactly the places of the operations.** -/
theorem endpoint_iff (assignments : List Assignment) (endpoints : List Endpoint)
    (hok : endpointMaps problem horizonStart assignments = .ok endpoints) (id resource : String)
    (start stop : Int) :
    Occupies problem assignments id resource start stop ↔
      ∃ ep, endpoint endpoints id = some ep ∧ ep.resourceId = resource ∧
        ep.startAt.micros = start ∧ ep.endAt.micros = stop := by
  simp only [endpointMaps, bind_eq_ok] at hok
  obtain ⟨assigned, hassigned, anchors, hanchors, heps⟩ := hok
  injection heps with heps
  subst heps
  -- an anchor's endpoint is the entry of its operation
  have hanchor : ∀ anchor ∈ problem.historicalCompletionAnchors, ∃ ep,
      dictGet Endpoint.operationId anchors anchor.operationId = some ep ∧
        ep.resourceId = anchor.resourceId ∧
        ep.startAt.micros = instantMicros anchor.actualStartAtUtc ∧
        ep.endAt.micros = instantMicros anchor.actualEndAtUtc := by
    intro anchor hm
    obtain ⟨ep, hep, hid, hres, hs, he⟩ := anchorEndpoint_eq_ok h anchor hm
    refine ⟨ep, ?_, hres, hs, he⟩
    rw [← hid, dictGet_eq_some_of_unique]
    · exact (mem_collect hanchors ep).mpr ⟨anchor, hm, hep⟩
    · intro ep' hep' hid'
      obtain ⟨anchor', hm', hok'⟩ := (mem_collect hanchors ep').mp hep'
      obtain ⟨ep'', hep'', hid'', -⟩ := anchorEndpoint_eq_ok h anchor' hm'
      rw [hok'] at hep''
      injection hep'' with hep''
      subst hep''
      have : anchor' = anchor :=
        List.inj_on_of_nodup_map h.anchors_nodup hm' hm (by rw [← hid'', hid', hid])
      rw [this, hep] at hok'
      injection hok' with hok'
      exact hok'.symm
  have hnone : ∀ id, dictGet Endpoint.operationId anchors id = none ↔ id ∉ anchorIds problem := by
    intro id
    rw [dictGet_eq_none_iff, anchorIds, not_iff_not]
    simp only [List.mem_map, mem_collect hanchors]
    constructor
    · intro hall
      obtain ⟨ep, ⟨anchor, hm, hok⟩, rfl⟩ := hall
      obtain ⟨ep', hep', hid', -⟩ := anchorEndpoint_eq_ok h anchor hm
      rw [hok] at hep'
      injection hep' with hep'
      exact ⟨anchor, hm, by rw [hep', hid']⟩
    · intro hall
      obtain ⟨anchor, hm, rfl⟩ := hall
      obtain ⟨ep, hep, hid, -⟩ := anchorEndpoint_eq_ok h anchor hm
      exact ⟨ep, ⟨anchor, hm, hep⟩, hid⟩
  -- an assigned endpoint comes from its operation's only assignment
  have hassign : ∀ ep, ep ∈ assigned.flatten ↔ ∃ a,
      assignmentsOf assignments a.operationId = [a] ∧ ep.operationId = a.operationId ∧
        a.resourceId = some ep.resourceId ∧ ∃ start stop, a.Usable start stop ∧
          ep.startAt.micros = tickMicros problem start ∧
          ep.endAt.micros = tickMicros problem stop := by
    intro ep
    simp only [List.mem_flatten, mem_collect hassigned, List.mem_filter, decide_eq_true_eq,
      single_eq_some_iff]
    constructor
    · intro hall
      obtain ⟨eps, ⟨a, ⟨-, ha⟩, heps⟩, hep⟩ := hall
      exact ⟨a, ha, (mem_assignmentEndpoint h a eps heps ep).mp hep⟩
    · intro hall
      obtain ⟨a, ha, hep⟩ := hall
      have hmem := (of_assignmentsOf_eq ha).1
      obtain ⟨eps, heps⟩ := (collect_isOk _ _).mp ⟨assigned, hassigned⟩ a
        (List.mem_filter.mpr ⟨hmem, by simpa [single_eq_some_iff] using ha⟩)
      exact ⟨eps, ⟨a, ⟨hmem, ha⟩, heps⟩, (mem_assignmentEndpoint h a eps heps ep).mpr hep⟩
  have hunique : ∀ ep ∈ assigned.flatten, ∀ ep' ∈ assigned.flatten,
      ep'.operationId = ep.operationId → ep' = ep := by
    intro ep hep ep' hep' hid
    obtain ⟨a, ha, hida, hres, s, e, husable, hs, he⟩ := (hassign ep).mp hep
    obtain ⟨a', ha', hida', hres', s', e', husable', hs', he'⟩ := (hassign ep').mp hep'
    rw [← hida', hid, hida, ha] at ha'
    injection ha' with ha'
    subst ha'
    obtain ⟨rfl, rfl⟩ := usable_unique husable husable'
    rw [hres] at hres'
    injection hres' with hres'
    have hstart : ep'.startAt = ep.startAt := Datetime.ext_micros (hs'.trans hs.symm)
    have hend : ep'.endAt = ep.endAt := Datetime.ext_micros (he'.trans he.symm)
    cases ep
    cases ep'
    simp_all
  unfold endpoint
  rw [dictGet_append]
  constructor
  · rintro (⟨anchor, hm⟩ | ⟨a, resource, start, stop, ha, hactive, hres, husable⟩)
    · obtain ⟨ep, hep, hfields⟩ := hanchor anchor hm
      exact ⟨ep, by rw [hep, Option.some_or], hfields⟩
    · rw [(hnone a.operationId).mpr hactive, Option.none_or]
      obtain ⟨eps, heps⟩ := (collect_isOk _ _).mp ⟨assigned, hassigned⟩ a
        (List.mem_filter.mpr ⟨(of_assignmentsOf_eq ha).1, by simpa [single_eq_some_iff] using ha⟩)
      obtain ⟨hs, he⟩ := (assignmentEndpoint_isOk h a).mp ⟨eps, heps⟩ resource start stop hres
        husable
      obtain ⟨s, hs⟩ := (tickInstant_isOk h start).mpr hs
      obtain ⟨e, he⟩ := (tickInstant_isOk h stop).mpr he
      rw [tickInstant_eq_ok h] at hs he
      have hmem : (⟨a.operationId, resource, s, e⟩ : Endpoint) ∈ assigned.flatten :=
        (hassign _).mpr ⟨a, ha, rfl, hres, start, stop, husable, hs, he⟩
      exact ⟨_, (dictGet_eq_some_of_unique Endpoint.operationId assigned.flatten
        ⟨a.operationId, resource, s, e⟩ (hunique _ hmem)).mpr hmem, rfl, hs, he⟩
  · intro hall
    obtain ⟨ep, hep, rfl, rfl, rfl⟩ := hall
    by_cases hactive : id ∈ anchorIds problem
    · obtain ⟨anchor, hm, rfl⟩ := List.mem_map.mp hactive
      obtain ⟨ep', hep', hres, hs, he⟩ := hanchor anchor hm
      rw [hep', Option.some_or] at hep
      injection hep with hep
      subst hep
      rw [hres, hs, he]
      exact .completed anchor hm
    · rw [(hnone id).mpr hactive, Option.none_or] at hep
      have hmem : ep ∈ assigned.flatten := List.mem_reverse.mp (List.mem_of_find?_eq_some hep)
      have hid : ep.operationId = id := by simpa using List.find?_some hep
      obtain ⟨a, ha, hida, hres, start, stop, husable, hs, he⟩ := (hassign ep).mp hmem
      rw [hs, he, ← hid, hida]
      exact .assigned a _ start stop ha (by rwa [← hida, hid]) hres husable

/-! ### Lags -/

omit h in
theorem reports_onEdge (endpoints : List Endpoint) (edge : PrecedenceEdge)
    (check : Endpoint → Endpoint → List Violation) (k : ConstraintId) :
    Reports (onEdge endpoints edge check) k ↔ ∃ p s,
      endpoint endpoints edge.predecessorOperationId = some p ∧
        endpoint endpoints edge.successorOperationId = some s ∧ Reports (check p s) k := by
  unfold onEdge
  split
  · rename_i p s hp hs
    simp [hp, hs]
  · rename_i hnone
    simp only [reports_nil, false_iff, not_exists, not_and]
    intro p s hp hs
    exact absurd hs (hnone p s hp)

/-- A lag is the difference of the two endpoints the map holds. -/
theorem edgeLag_iff (assignments : List Assignment) (endpoints : List Endpoint)
    (hok : endpointMaps problem horizonStart assignments = .ok endpoints)
    (edge : PrecedenceEdge) (r r' : String) (lag : Int) :
    EdgeLag problem assignments edge r r' lag ↔ ∃ p s,
      endpoint endpoints edge.predecessorOperationId = some p ∧
        endpoint endpoints edge.successorOperationId = some s ∧
        p.resourceId = r ∧ s.resourceId = r' ∧ lag = s.startAt.sub p.endAt := by
  constructor
  · intro hall
    obtain ⟨ps, pe, ss, se, hp, hs, rfl⟩ := hall
    obtain ⟨p, hp', hpr, -, rfl⟩ := (endpoint_iff h assignments endpoints hok _ _ _ _).mp hp
    obtain ⟨s, hs', hsr, rfl, -⟩ := (endpoint_iff h assignments endpoints hok _ _ _ _).mp hs
    exact ⟨p, s, hp', hs', hpr, hsr, rfl⟩
  · intro hall
    obtain ⟨p, s, hp, hs, hpr, hsr, rfl⟩ := hall
    exact ⟨_, _, _, _, (endpoint_iff h assignments endpoints hok _ _ _ _).mpr
      ⟨p, hp, hpr, rfl, rfl⟩, (endpoint_iff h assignments endpoints hok _ _ _ _).mpr
      ⟨s, hs, hsr, rfl, rfl⟩, rfl⟩

/-- C-002 is reported when a truncated lag is outside its window. -/
theorem reports_evaluateC002 (assignments : List Assignment) (endpoints : List Endpoint)
    (hok : endpointMaps problem horizonStart assignments = .ok endpoints) (k : ConstraintId) :
    Reports (evaluateC002 problem endpoints) k ↔
      .c002 = k ∧ ∃ edge ∈ problem.precedenceEdges, ∃ r r' lag,
        EdgeLag problem assignments edge r r' lag ∧
          (wholeSeconds lag < edge.minLagSeconds ∨
            ∃ maximum ∈ edge.maxLagSeconds, wholeSeconds lag > maximum) := by
  simp only [evaluateC002, reports_flatMap, reports_onEdge, edgeLag_iff h assignments endpoints hok,
    lagViolations, reports_if]
  constructor
  · intro hall
    obtain ⟨edge, hm, p, s, hp, hs, hk, hlag⟩ := hall
    exact ⟨hk, edge, hm, _, _, _, ⟨p, s, hp, hs, rfl, rfl, rfl⟩, hlag⟩
  · intro hall
    obtain ⟨hk, edge, hm, _, _, _, ⟨p, s, hp, hs, -, -, rfl⟩, hlag⟩ := hall
    exact ⟨edge, hm, p, s, hp, hs, hk, hlag⟩

theorem workshopOf_eq_some (resource workshop : String) :
    workshopOf problem resource = some workshop ↔
      ∃ r ∈ problem.resources, r.resourceId = resource ∧ r.workshopId = workshop := by
  rw [workshopOf, Option.map_eq_some_iff]
  simp only [dictGet_eq_some_iff _ _ _ _ h.resources_nodup, and_assoc]

theorem reports_transportViolations (edge : PrecedenceEdge) (p s : Endpoint)
    (k : ConstraintId) :
    Reports (transportViolations problem edge p s) k ↔
      .c009 = k ∧ CrossWorkshop problem p.resourceId s.resourceId ∧
        wholeSeconds (s.startAt.sub p.endAt) < edge.transportLagSeconds := by
  have hcross : CrossWorkshop problem p.resourceId s.resourceId ↔ ∃ w w',
      workshopOf problem p.resourceId = some w ∧ workshopOf problem s.resourceId = some w' ∧
        w ≠ w' := by
    simp only [workshopOf_eq_some h]
    constructor
    · intro hall
      obtain ⟨r, hr, r', hr', hid, hid', hne⟩ := hall
      exact ⟨_, _, ⟨r, hr, hid, rfl⟩, ⟨r', hr', hid', rfl⟩, hne⟩
    · intro hall
      obtain ⟨_, _, ⟨r, hr, hid, rfl⟩, ⟨r', hr', hid', rfl⟩, hne⟩ := hall
      exact ⟨r, hr, r', hr', hid, hid', hne⟩
  rw [hcross]
  unfold transportViolations
  split
  · rename_i w w' hw hw'
    rw [reports_if, hw, hw']
    simp
  · rename_i hnone
    simp only [reports_nil, false_iff, not_and]
    rintro - ⟨w, w', hw, hw', -⟩
    exact absurd hw' (hnone w w' hw)

/-- C-009 is reported when a truncated lag between workshops is short of the transport. -/
theorem reports_evaluateC009 (assignments : List Assignment) (endpoints : List Endpoint)
    (hok : endpointMaps problem horizonStart assignments = .ok endpoints) (k : ConstraintId) :
    Reports (evaluateC009 problem endpoints) k ↔
      .c009 = k ∧ ∃ edge ∈ problem.precedenceEdges, ∃ r r' lag,
        EdgeLag problem assignments edge r r' lag ∧ CrossWorkshop problem r r' ∧
          wholeSeconds lag < edge.transportLagSeconds := by
  simp only [evaluateC009, reports_flatMap, reports_onEdge, edgeLag_iff h assignments endpoints hok,
    reports_transportViolations h]
  constructor
  · intro hall
    obtain ⟨edge, hm, p, s, hp, hs, hk, hlag⟩ := hall
    exact ⟨hk, edge, hm, _, _, _, ⟨p, s, hp, hs, rfl, rfl, rfl⟩, hlag⟩
  · intro hall
    obtain ⟨hk, edge, hm, _, _, _, ⟨p, s, hp, hs, rfl, rfl, rfl⟩, hlag⟩ := hall
    exact ⟨edge, hm, p, s, hp, hs, hk, hlag⟩

end
end PlantNexus.Validation
