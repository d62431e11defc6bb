import PlantNexus.Validation.Evaluators

/-! The evaluators that restore instants: C-005 to C-008, C-010 and C-011.

Each returns exactly when the ticks it restores are in range, and then reports exactly
when its rule is broken. -/
namespace PlantNexus.Validation
open Data Time Domain Problem

/-- The instant of the tick is one `datetime` represents. -/
def InRange (problem : PlanningProblem) (tick : Int) : Prop :=
  0 ≤ tickMicros problem tick ∧ tickMicros problem tick < microsLimit

section
variable {problem : PlanningProblem} {horizonStart horizonEnd : Datetime}
  (h : ContractFacts problem horizonStart horizonEnd)
include h

theorem tickMicros_eq (tick : Int) :
    tickMicros problem tick =
      horizonStart.micros + tick * problem.tickSeconds * microsPerSecond := by
  rw [tickMicros, instantMicros_eq _ _ h.start_eq]

theorem tickInstant_eq_ok (tick : Int) (d : Datetime) :
    tickInstant problem horizonStart tick = .ok d ↔ d.micros = tickMicros problem tick := by
  rw [tickMicros_eq h, ← Datetime.addSeconds_eq_some]
  unfold tickInstant
  split <;> simp_all

theorem tickInstant_isOk (tick : Int) :
    (∃ d, tickInstant problem horizonStart tick = .ok d) ↔ InRange problem tick := by
  rw [InRange, tickMicros_eq h, ← Datetime.addSeconds_isSome]
  unfold tickInstant
  split <;> simp_all

theorem tickInstant?_isOk (tick : Option Int) :
    (∃ d, tickInstant? problem horizonStart tick = .ok d) ↔ ∀ t ∈ tick, InRange problem t := by
  cases tick with
  | none => simp [tickInstant?]
  | some t =>
    simp only [tickInstant?, bind_eq_ok, Option.mem_def, Option.some.injEq, forall_eq',
      ← tickInstant_isOk h]
    constructor
    · intro hall
      obtain ⟨_, d, hd, -⟩ := hall
      exact ⟨d, hd⟩
    · intro hall
      obtain ⟨d, hd⟩ := hall
      exact ⟨some d, d, hd, rfl⟩

theorem mem_tickInstant? (tick : Option Int) (value : Option Datetime)
    (hok : tickInstant? problem horizonStart tick = .ok value) (d : Datetime) :
    d ∈ value ↔ ∃ t, tick = some t ∧ d.micros = tickMicros problem t := by
  cases tick with
  | none =>
    injection hok with hok
    simp [← hok]
  | some t =>
    obtain ⟨e, he, hv⟩ := bind_eq_ok.mp hok
    injection hv with hv
    rw [tickInstant_eq_ok h] at he
    simp only [← hv, Option.mem_def, Option.some.injEq, exists_eq_left', Datetime.eq_iff, he]
    exact eq_comm

theorem tickMicros_lt_iff (s t : Int) : tickMicros problem s < tickMicros problem t ↔ s < t := by
  have hpos : 0 < problem.tickSeconds * microsPerSecond := by
    have := h.tick_pos
    simp only [microsPerSecond]
    omega
  rw [tickMicros_eq h, tickMicros_eq h, Int.mul_assoc, Int.mul_assoc, Int.add_lt_add_iff_left]
  exact mul_lt_mul_iff_left₀ hpos

end

theorem instantAt_of_isInstant (text : String) (htext : IsInstant text) :
    ∃ d, instantAt text = .ok d ∧ d.micros = instantMicros text := by
  obtain ⟨d, hd⟩ := htext
  exact ⟨d, by simp [instantAt, hd], (instantMicros_eq text d hd).symm⟩

theorem usable_unique {a : Assignment} {s e s' e' : Int} (h : a.Usable s e)
    (h' : a.Usable s' e') : s = s' ∧ e = e' := by
  have h1 := h.1.symm.trans h'.1
  have h2 := h.2.1.symm.trans h'.2.1
  injection h1 with h1
  injection h2 with h2
  exact ⟨h1, h2⟩

/-- The only assignment of an operation, as the validator looks it up. -/
theorem single_eq_some_iff (assignments : List Assignment) (id : String) (a : Assignment) :
    single assignments id = some a ↔ assignmentsOf assignments id = [a] :=
  single_eq_some assignments id a

/-! ### C-005 -/

section
variable {problem : PlanningProblem} {horizonStart horizonEnd : Datetime}
  (h : ContractFacts problem horizonStart horizonEnd)
include h

theorem calendarViolation_ok (a : Assignment) (resourceId : String) (startAt endAt : Datetime)
    (interval : UnavailableInterval) (hmem : interval ∈ problem.resourceUnavailableIntervals) :
    ∃ vs, calendarViolation a resourceId startAt endAt interval = .ok vs ∧
      ∀ k, Reports vs k ↔ .c005 = k ∧ resourceId = interval.resourceId ∧
        startAt.micros < instantMicros interval.endUtc ∧
        instantMicros interval.startUtc < endAt.micros := by
  obtain ⟨us, ue, hfacts⟩ := h.intervals interval hmem
  unfold calendarViolation
  split
  · rename_i hne
    exact ⟨[], rfl, fun k => by simp [hne]⟩
  · rename_i heq
    have heq' : resourceId = interval.resourceId := by simpa using heq
    refine ⟨_, by simp [instantAt, hfacts.start_eq, hfacts.stop_eq, bind, Except.bind]; rfl, ?_⟩
    intro k
    rw [reports_if, Datetime.lt_iff, Datetime.lt_iff,
      instantMicros_eq _ _ hfacts.start_eq, instantMicros_eq _ _ hfacts.stop_eq]
    simp [heq']

theorem calendarViolations_isOk (a : Assignment) :
    (∃ vs, calendarViolations problem horizonStart a = .ok vs) ↔
      ∀ resource start stop, a.resourceId = some resource → a.Usable start stop →
        InRange problem start ∧ InRange problem stop := by
  unfold calendarViolations
  split
  · rename_i resource start stop hres hint
    have husable := (a.interval_eq_some start stop).mp hint
    simp only [bind_eq_ok]
    constructor
    · rintro ⟨vs, startAt, hs, endAt, he, -⟩ resource' start' stop' - husable'
      obtain ⟨rfl, rfl⟩ := usable_unique husable husable'
      exact ⟨(tickInstant_isOk h start).mp ⟨startAt, hs⟩,
        (tickInstant_isOk h stop).mp ⟨endAt, he⟩⟩
    · intro hrange
      obtain ⟨hs, he⟩ := hrange resource start stop hres husable
      obtain ⟨startAt, hstart⟩ := (tickInstant_isOk h start).mpr hs
      obtain ⟨endAt, hend⟩ := (tickInstant_isOk h stop).mpr he
      obtain ⟨found, hfound⟩ := (collect_isOk (calendarViolation a resource startAt endAt)
        problem.resourceUnavailableIntervals).mpr fun interval hm => by
          obtain ⟨vs, hvs, -⟩ := calendarViolation_ok h a resource startAt endAt interval hm
          exact ⟨vs, hvs⟩
      exact ⟨found.flatten, startAt, hstart, endAt, hend, found, hfound, rfl⟩
  · rename_i hnone
    constructor
    · rintro - resource start stop hres husable
      exact absurd ((a.interval_eq_some start stop).mpr husable) (hnone resource start stop hres)
    · intro _
      exact ⟨[], rfl⟩

theorem reports_calendarViolations (a : Assignment) (vs : List Violation)
    (hok : calendarViolations problem horizonStart a = .ok vs) (k : ConstraintId) :
    Reports vs k ↔ .c005 = k ∧ ∃ start stop, a.Usable start stop ∧
      ∃ interval ∈ problem.resourceUnavailableIntervals,
        a.resourceId = some interval.resourceId ∧
          tickMicros problem start < instantMicros interval.endUtc ∧
          instantMicros interval.startUtc < tickMicros problem stop := by
  unfold calendarViolations at hok
  split at hok
  · rename_i resource start stop hres hint
    have husable := (a.interval_eq_some start stop).mp hint
    simp only [bind_eq_ok] at hok
    obtain ⟨startAt, hs, endAt, he, found, hfound, hvs⟩ := hok
    injection hvs with hvs
    subst hvs
    rw [tickInstant_eq_ok h] at hs he
    rw [reports_collect hfound]
    constructor
    · intro hall
      obtain ⟨interval, hm, ws, hws, hrep⟩ := hall
      obtain ⟨ws', hws', hiff⟩ := calendarViolation_ok h a resource startAt endAt interval hm
      rw [hws] at hws'
      injection hws' with hws'
      subst hws'
      obtain ⟨hk, heq, hlt, hlt'⟩ := (hiff k).mp hrep
      exact ⟨hk, start, stop, husable, interval, hm, by rw [hres, heq], by rwa [← hs], by rwa [← he]⟩
    · intro hall
      obtain ⟨hk, start', stop', husable', interval, hm, hres', hlt, hlt'⟩ := hall
      obtain ⟨ws, hws, hiff⟩ := calendarViolation_ok h a resource startAt endAt interval hm
      obtain ⟨rfl, rfl⟩ := usable_unique husable husable'
      have heq : resource = interval.resourceId := by
        rw [hres] at hres'
        injection hres'
      exact ⟨interval, hm, ws, hws, (hiff k).mpr ⟨hk, heq, by rwa [hs], by rwa [he]⟩⟩
  · rename_i hnone
    injection hok with hok
    subst hok
    simp only [reports_nil, false_iff, not_and, not_exists]
    rintro - start stop husable interval - hres
    exact absurd ((a.interval_eq_some start stop).mpr husable) (hnone _ start stop hres)

theorem evaluateC005_isOk (assignments : List Assignment) :
    (∃ vs, evaluateC005 problem horizonStart assignments = .ok vs) ↔
      ∀ a ∈ assignments, ∀ resource start stop, a.resourceId = some resource →
        a.Usable start stop → InRange problem start ∧ InRange problem stop :=
  (collected_isOk _ _).trans (forall₂_congr fun a _ => calendarViolations_isOk h a)

theorem reports_evaluateC005 (assignments : List Assignment) (vs : List Violation)
    (hok : evaluateC005 problem horizonStart assignments = .ok vs) (k : ConstraintId) :
    Reports vs k ↔ .c005 = k ∧ BreaksRule problem assignments .c005 :=
  reports_collected hok fun a _ ws hws => reports_calendarViolations h a ws hws k

/-! ### C-006 -/

theorem gateViolations_isOk (assignments : List Assignment) (operation : OperationInstance)
    (hmem : operation ∈ problem.operationInstances) :
    (∃ vs, gateViolations problem horizonStart assignments operation = .ok vs) ↔
      ∀ a start, assignmentsOf assignments operation.operationId = [a] →
        a.startTick = some start → InRange problem start := by
  obtain ⟨release, hrelease⟩ := (h.operations operation hmem).release
  obtain ⟨material, hmaterial⟩ := (h.operations operation hmem).material
  unfold gateViolations
  simp only [← single_eq_some_iff]
  split
  · rename_i hnone
    constructor
    · rintro - a start ha hstart
      rw [ha, Option.bind_some, hstart] at hnone
      cases hnone
    · intro _
      exact ⟨[], rfl⟩
  · rename_i start hsome
    obtain ⟨a, ha, hstart⟩ := Option.bind_eq_some_iff.mp hsome
    simp only [bind_eq_ok, instantAt, hrelease, hmaterial]
    constructor
    · rintro ⟨vs, startAt, hs, -⟩ a' start' ha' hstart'
      rw [ha', Option.bind_some, hstart'] at hsome
      injection hsome with hsome
      rw [hsome]
      exact (tickInstant_isOk h start).mp ⟨startAt, hs⟩
    · intro hrange
      obtain ⟨startAt, hs⟩ := (tickInstant_isOk h start).mpr (hrange a start ha hstart)
      exact ⟨_, startAt, hs, release, rfl, material, rfl, rfl⟩

theorem reports_gateViolations (assignments : List Assignment) (operation : OperationInstance)
    (hmem : operation ∈ problem.operationInstances) (vs : List Violation)
    (hok : gateViolations problem horizonStart assignments operation = .ok vs)
    (k : ConstraintId) :
    Reports vs k ↔ .c006 = k ∧ ∃ a start,
      assignmentsOf assignments operation.operationId = [a] ∧ a.startTick = some start ∧
        (tickMicros problem start < instantMicros operation.releaseAtUtc ∨
          tickMicros problem start < instantMicros operation.materialReadyAtUtc) := by
  obtain ⟨release, hrelease⟩ := (h.operations operation hmem).release
  obtain ⟨material, hmaterial⟩ := (h.operations operation hmem).material
  rw [instantMicros_eq _ _ hrelease, instantMicros_eq _ _ hmaterial]
  simp only [← single_eq_some_iff]
  unfold gateViolations at hok
  split at hok
  · rename_i hnone
    injection hok with hok
    subst hok
    simp only [reports_nil, false_iff, not_and, not_exists]
    rintro - a start ha hstart
    rw [ha, Option.bind_some, hstart] at hnone
    cases hnone
  · rename_i start hsome
    obtain ⟨a, ha, hstart⟩ := Option.bind_eq_some_iff.mp hsome
    simp only [bind_eq_ok, instantAt, hrelease, hmaterial] at hok
    obtain ⟨startAt, hs, _, hr, _, hm, hvs⟩ := hok
    injection hr with hr
    injection hm with hm
    injection hvs with hvs
    subst hr hm hvs
    rw [tickInstant_eq_ok h] at hs
    rw [reports_if, Datetime.lt_iff, Datetime.lt_iff, hs]
    refine and_congr_right fun _ => ?_
    constructor
    · intro hlt
      exact ⟨a, start, ha, hstart, hlt⟩
    · intro hall
      obtain ⟨a', start', ha', hstart', hlt⟩ := hall
      rw [ha', Option.bind_some, hstart'] at hsome
      injection hsome with hsome
      rwa [hsome] at hlt

theorem evaluateC006_isOk (assignments : List Assignment) :
    (∃ vs, evaluateC006 problem horizonStart assignments = .ok vs) ↔
      ∀ operation ∈ problem.operationInstances, ∀ a start,
        assignmentsOf assignments operation.operationId = [a] → a.startTick = some start →
          InRange problem start :=
  (collected_isOk _ _).trans
    (forall₂_congr fun operation hm => gateViolations_isOk h assignments operation hm)

theorem reports_evaluateC006 (assignments : List Assignment) (vs : List Violation)
    (hok : evaluateC006 problem horizonStart assignments = .ok vs) (k : ConstraintId) :
    Reports vs k ↔ .c006 = k ∧ BreaksRule problem assignments .c006 :=
  reports_collected hok fun operation hm ws hws =>
    reports_gateViolations h assignments operation hm ws hws k

/-! ### C-007 -/

theorem tickInstants?_isOk (startTick endTick : Option Int)
    (f : Option Datetime → Option Datetime → List Violation) :
    (∃ vs, (do
      let s ← tickInstant? problem horizonStart startTick
      let e ← tickInstant? problem horizonStart endTick
      return f s e) = Except.ok vs) ↔
      (∀ t ∈ startTick, InRange problem t) ∧ ∀ t ∈ endTick, InRange problem t := by
  simp only [bind_eq_ok, ← tickInstant?_isOk h]
  constructor
  · intro hall
    obtain ⟨vs, s, hs, e, he, -⟩ := hall
    exact ⟨⟨s, hs⟩, e, he⟩
  · intro hall
    obtain ⟨⟨s, hs⟩, e, he⟩ := hall
    exact ⟨_, s, hs, e, he, rfl⟩

/-- A declared instant equals the restored one exactly when it names the tick's instant. -/
theorem eq_restored_iff (declared restored : Option Datetime) (tick : Int)
    (hok : tickInstant? problem horizonStart (some tick) = .ok restored) :
    declared = restored ↔ ∃ d ∈ declared, d.micros = tickMicros problem tick := by
  constructor
  · rintro rfl
    obtain ⟨d, hd, hv⟩ := bind_eq_ok.mp hok
    injection hv with hv
    exact ⟨d, hv.symm, (tickInstant_eq_ok h tick d).mp hd⟩
  · intro hall
    obtain ⟨d, hd, hmicros⟩ := hall
    have := (mem_tickInstant? h _ _ hok d).mpr ⟨tick, rfl, hmicros⟩
    rw [Option.mem_def.mp hd, Option.mem_def.mp this]

theorem runningViolations_isOk (assignments : List Assignment) (operation : OperationInstance)
    (hmem : operation ∈ problem.operationInstances) :
    (∃ vs, runningViolations problem horizonStart assignments operation = .ok vs) ↔
      (operation.status = .running → ∀ a,
        assignmentsOf assignments operation.operationId = [a] →
          (∀ t ∈ a.startTick, InRange problem t) ∧ ∀ t ∈ a.endTick, InRange problem t) := by
  cases hstatus : operation.status with
  | notStarted => simp [runningViolations, hstatus]
  | running =>
    obtain ⟨_, resource, remaining, hfacts⟩ := (h.operations operation hmem).running hstatus
    simp only [runningViolations, hstatus, hfacts.resource_eq, hfacts.remaining_eq,
      ← groups_eq_singleton, forall_const]
    split
    · rename_i a ha
      rw [tickInstants?_isOk h]
      constructor
      · rintro hrange b hb
        rw [ha] at hb
        injection hb with hb
        exact hb ▸ hrange
      · intro hall
        exact hall a ha
    · rename_i hnone
      constructor
      · rintro - a ha
        exact absurd ha (hnone a)
      · intro _
        exact ⟨_, rfl⟩

theorem reports_runningViolations (assignments : List Assignment)
    (operation : OperationInstance) (hmem : operation ∈ problem.operationInstances)
    (vs : List Violation)
    (hok : runningViolations problem horizonStart assignments operation = .ok vs)
    (k : ConstraintId) :
    Reports vs k ↔ .c007 = k ∧ operation.status = .running ∧
      ¬∃ a, assignmentsOf assignments operation.operationId = [a] ∧
        KeepsRunning problem operation a := by
  cases hstatus : operation.status with
  | notStarted =>
    simp only [runningViolations, hstatus] at hok
    injection hok with hok
    simp [← hok]
  | running =>
    obtain ⟨_, resource, remaining, hfacts⟩ := (h.operations operation hmem).running hstatus
    simp only [runningViolations, hstatus, hfacts.resource_eq, hfacts.remaining_eq] at hok
    simp only [← groups_eq_singleton, true_and]
    split at hok
    · rename_i a ha
      simp only [bind_eq_ok] at hok
      obtain ⟨candidateStart, hs, candidateEnd, he, hvs⟩ := hok
      injection hvs with hvs
      subst hvs
      rw [reports_unless]
      refine and_congr_right fun _ => not_congr ?_
      constructor
      · intro hall
        obtain ⟨hres, hstart, hend, hstartAt, hendAt⟩ := hall
        rw [hstart] at hs
        rw [hend] at he
        exact ⟨a, ha, resource, hfacts.resource_eq, remaining, hfacts.remaining_eq, hres, hstart,
          hend, (eq_restored_iff h _ _ _ hs).mp hstartAt, (eq_restored_iff h _ _ _ he).mp hendAt⟩
      · intro hall
        obtain ⟨b, hb, resource', hresource, remaining', hremaining, hres, hstart, hend, hrestate⟩
          := hall
        rw [ha] at hb
        injection hb with hb
        subst hb
        rw [hfacts.resource_eq] at hresource
        rw [hfacts.remaining_eq] at hremaining
        injection hresource with hresource
        injection hremaining with hremaining
        subst hresource hremaining
        rw [hstart] at hs
        rw [hend] at he
        exact ⟨hres, hstart, hend, (eq_restored_iff h _ _ _ hs).mpr hrestate.1,
          (eq_restored_iff h _ _ _ he).mpr hrestate.2⟩
    · rename_i hnone
      injection hok with hok
      subst hok
      rw [reports_singleton]
      constructor
      · rintro hk
        exact ⟨hk, fun ⟨a, ha, _⟩ => hnone a ha⟩
      · exact And.left

theorem evaluateC007_isOk (assignments : List Assignment) :
    (∃ vs, evaluateC007 problem horizonStart assignments = .ok vs) ↔
      ∀ operation ∈ problem.operationInstances, operation.status = .running →
        ∀ a, assignmentsOf assignments operation.operationId = [a] →
          (∀ t ∈ a.startTick, InRange problem t) ∧ ∀ t ∈ a.endTick, InRange problem t := by
  refine Iff.trans ?_ ((collect_isOk _ _).trans
    (forall₂_congr fun operation hm => runningViolations_isOk h assignments operation hm))
  constructor
  · intro hall
    obtain ⟨vs, hvs⟩ := hall
    obtain ⟨found, hfound, -⟩ := bind_eq_ok.mp hvs
    exact ⟨found, hfound⟩
  · intro hall
    obtain ⟨found, hfound⟩ := hall
    exact ⟨_, bind_eq_ok.mpr ⟨found, hfound, rfl⟩⟩

omit h in
theorem reports_completedViolations (assignments : List Assignment) (k : ConstraintId) :
    Reports (problem.historicalCompletionAnchors.flatMap (completedViolations assignments)) k ↔
      .c007 = k ∧ ∃ a ∈ assignments, a.operationId ∈ anchorIds problem := by
  have hone : ∀ anchor : HistoricalCompletionAnchor,
      Reports (completedViolations assignments anchor) k ↔
        .c007 = k ∧ ∃ a ∈ assignments, a.operationId = anchor.operationId := by
    intro anchor
    unfold completedViolations
    rw [reports_if, ne_eq, groups_eq_nil, assignmentsOf, List.filter_eq_nil_iff]
    simp
  simp only [reports_flatMap, hone, anchorIds, List.mem_map]
  constructor
  · intro hall
    obtain ⟨anchor, hanchor, hk, a, ha, heq⟩ := hall
    exact ⟨hk, a, ha, anchor, hanchor, heq.symm⟩
  · intro hall
    obtain ⟨hk, a, ha, anchor, hanchor, heq⟩ := hall
    exact ⟨anchor, hanchor, hk, a, ha, heq.symm⟩

theorem reports_evaluateC007 (assignments : List Assignment) (vs : List Violation)
    (hok : evaluateC007 problem horizonStart assignments = .ok vs) (k : ConstraintId) :
    Reports vs k ↔ .c007 = k ∧ BreaksRule problem assignments .c007 := by
  obtain ⟨found, hfound, hvs⟩ := bind_eq_ok.mp hok
  injection hvs with hvs
  subst hvs
  have hrunning := reports_collected (bind_eq_ok.mpr ⟨found, hfound, rfl⟩)
    fun operation hm ws hws => reports_runningViolations h assignments operation hm ws hws k
  rw [reports_append, reports_completedViolations, hrunning, ← and_or_left]
  rfl

/-! ### C-008 -/

theorem restoredInterval_isOk (assignments : List Assignment) (id : String) :
    (∃ r, restoredInterval problem horizonStart (groups assignments id) = .ok r) ↔
      ∀ a start stop, assignmentsOf assignments id = [a] → a.Usable start stop →
        InRange problem start ∧ InRange problem stop := by
  simp only [← groups_eq_singleton]
  unfold restoredInterval
  split
  · rename_i a ha
    split
    · rename_i start stop hint
      have husable := (a.interval_eq_some start stop).mp hint
      simp only [bind_eq_ok]
      constructor
      · rintro ⟨_, s, hs, e, he, -⟩ b start' stop' hb husable'
        rw [ha] at hb
        injection hb with hb
        subst hb
        obtain ⟨rfl, rfl⟩ := usable_unique husable husable'
        exact ⟨(tickInstant_isOk h start).mp ⟨s, hs⟩, (tickInstant_isOk h stop).mp ⟨e, he⟩⟩
      · intro hall
        obtain ⟨hs, he⟩ := hall a start stop ha husable
        obtain ⟨s, hs⟩ := (tickInstant_isOk h start).mpr hs
        obtain ⟨e, he⟩ := (tickInstant_isOk h stop).mpr he
        exact ⟨_, s, hs, e, he, rfl⟩
    · rename_i hint
      constructor
      · rintro - b start stop hb husable
        rw [ha] at hb
        injection hb with hb
        subst hb
        rw [(a.interval_eq_some start stop).mpr husable] at hint
        cases hint
      · intro _
        exact ⟨none, rfl⟩
  · rename_i hnone
    constructor
    · rintro - a start stop ha
      exact absurd ha (hnone a)
    · intro _
      exact ⟨none, rfl⟩

theorem restoredInterval_eq_some (assignments : List Assignment) (id : String)
    (r : Option (Datetime × Datetime))
    (hok : restoredInterval problem horizonStart (groups assignments id) = .ok r)
    (s e : Datetime) :
    r = some (s, e) ↔ ∃ a start stop, assignmentsOf assignments id = [a] ∧ a.Usable start stop ∧
      tickMicros problem start = s.micros ∧ tickMicros problem stop = e.micros := by
  simp only [← groups_eq_singleton]
  unfold restoredInterval at hok
  split at hok
  · rename_i a ha
    split at hok
    · rename_i start stop hint
      have husable := (a.interval_eq_some start stop).mp hint
      simp only [bind_eq_ok] at hok
      obtain ⟨s', hs, e', he, hr⟩ := hok
      injection hr with hr
      subst hr
      rw [tickInstant_eq_ok h] at hs he
      rw [Option.some.injEq, Prod.mk.injEq, Datetime.eq_iff, Datetime.eq_iff, hs, he]
      constructor
      · intro hall
        obtain ⟨hs', he'⟩ := hall
        exact ⟨a, start, stop, ha, husable, hs', he'⟩
      · intro hall
        obtain ⟨b, start', stop', hb, husable', hs', he'⟩ := hall
        rw [ha] at hb
        injection hb with hb
        subst hb
        obtain ⟨rfl, rfl⟩ := usable_unique husable husable'
        exact ⟨hs', he'⟩
    · rename_i hint
      injection hok with hok
      subst hok
      simp only [reduceCtorEq, false_iff]
      intro hall
      obtain ⟨b, start, stop, hb, husable, -⟩ := hall
      rw [ha] at hb
      injection hb with hb
      subst hb
      rw [(a.interval_eq_some start stop).mpr husable] at hint
      cases hint
  · rename_i hnone
    injection hok with hok
    subst hok
    simp only [reduceCtorEq, false_iff]
    intro hall
    obtain ⟨a, start, stop, ha, -⟩ := hall
    exact hnone a ha

theorem hardLockViolations_isOk (assignments : List Assignment) (lock : OperationLock)
    (hmem : lock ∈ problem.operationLocks) :
    (∃ vs, hardLockViolations problem horizonStart assignments lock = .ok vs) ↔
      (lock.lockType = .hardLock → ∀ a start stop,
        assignmentsOf assignments lock.operationId = [a] → a.Usable start stop →
          InRange problem start ∧ InRange problem stop) := by
  obtain ⟨_, lockStart, lockEnd, hfacts⟩ := h.locks lock hmem
  cases htype : lock.lockType with
  | softLock => simp [hardLockViolations, htype]
  | hardLock =>
    simp only [forall_const, ← restoredInterval_isOk h]
    simp only [hardLockViolations, htype, instantAt, hfacts.start_eq, hfacts.stop_eq, bind_eq_ok]
    constructor
    · intro hall
      obtain ⟨_, _, -, _, -, r, hr, -⟩ := hall
      exact ⟨r, hr⟩
    · intro hall
      obtain ⟨r, hr⟩ := hall
      exact ⟨_, lockStart, rfl, lockEnd, rfl, r, hr, rfl⟩

theorem reports_hardLockViolations (assignments : List Assignment) (lock : OperationLock)
    (hmem : lock ∈ problem.operationLocks) (vs : List Violation)
    (hok : hardLockViolations problem horizonStart assignments lock = .ok vs)
    (k : ConstraintId) :
    Reports vs k ↔ .c008 = k ∧ lock.lockType = .hardLock ∧
      ¬∃ a start stop, assignmentsOf assignments lock.operationId = [a] ∧
        a.resourceId = some lock.resourceId ∧ a.Usable start stop ∧
        tickMicros problem start = instantMicros lock.startAtUtc ∧
        tickMicros problem stop = instantMicros lock.endAtUtc := by
  obtain ⟨_, lockStart, lockEnd, hfacts⟩ := h.locks lock hmem
  cases htype : lock.lockType with
  | softLock =>
    simp only [hardLockViolations, htype] at hok
    injection hok with hok
    simp [← hok]
  | hardLock =>
    simp only [hardLockViolations, htype, instantAt, hfacts.start_eq, hfacts.stop_eq,
      bind_eq_ok] at hok
    obtain ⟨_, hs, _, he, r, hr, hvs⟩ := hok
    injection hs with hs
    injection he with he
    injection hvs with hvs
    subst hs he hvs
    rw [reports_unless, restoredInterval_eq_some h assignments _ r hr,
      instantMicros_eq _ _ hfacts.start_eq, instantMicros_eq _ _ hfacts.stop_eq]
    simp only [true_and]
    refine and_congr_right fun _ => not_congr ?_
    constructor
    · intro hall
      obtain ⟨-, hres, a, start, stop, ha, husable, hstart, hstop⟩ := hall
      rw [(groups_eq_singleton assignments _ a).mpr ha] at hres
      exact ⟨a, start, stop, ha, by simpa using hres, husable, hstart, hstop⟩
    · intro hall
      obtain ⟨a, start, stop, ha, hres, husable, hstart, hstop⟩ := hall
      rw [(groups_eq_singleton assignments _ a).mpr ha]
      exact ⟨rfl, by simp [hres], a, start, stop, ha, husable, hstart, hstop⟩

theorem evaluateC008_isOk (assignments : List Assignment) :
    (∃ vs, evaluateC008 problem horizonStart assignments = .ok vs) ↔
      ∀ lock ∈ problem.operationLocks, lock.lockType = .hardLock → ∀ a start stop,
        assignmentsOf assignments lock.operationId = [a] → a.Usable start stop →
          InRange problem start ∧ InRange problem stop :=
  (collected_isOk _ _).trans
    (forall₂_congr fun lock hm => hardLockViolations_isOk h assignments lock hm)

theorem reports_evaluateC008 (assignments : List Assignment) (vs : List Violation)
    (hok : evaluateC008 problem horizonStart assignments = .ok vs) (k : ConstraintId) :
    Reports vs k ↔ .c008 = k ∧ BreaksRule problem assignments .c008 :=
  reports_collected hok fun lock hm ws hws =>
    reports_hardLockViolations h assignments lock hm ws hws k

/-! ### C-010 -/

omit h in
/-- An option named by its resource is the one the validator finds. -/
theorem find_option (operation : OperationInstance)
    (hnodup : operation.optionResources.Nodup) (resource : String) (option : ResourceOption) :
    (operation.resourceOptions.find? fun o => o.resourceId = resource) = some option ↔
      option ∈ operation.resourceOptions ∧ option.resourceId = resource := by
  constructor
  · intro hfind
    exact ⟨List.mem_of_find?_eq_some hfind, by simpa using List.find?_some hfind⟩
  · intro hall
    obtain ⟨hmem, rfl⟩ := hall
    cases hfind : operation.resourceOptions.find? fun o => o.resourceId = option.resourceId with
    | none =>
      have := List.find?_eq_none.mp hfind option hmem
      simp at this
    | some found =>
      have hid : found.resourceId = option.resourceId := by simpa using List.find?_some hfind
      rw [List.inj_on_of_nodup_map hnodup (List.mem_of_find?_eq_some hfind) hmem hid]

omit h in
theorem expectedSeconds_eq_some (operation : OperationInstance) (option : ResourceOption)
    (seconds : Int) :
    expectedSeconds operation option = some seconds ↔ TakesSeconds operation option seconds := by
  unfold expectedSeconds TakesSeconds
  cases operation.status <;> simp

theorem expectedSeconds_isSome (operation : OperationInstance)
    (hmem : operation ∈ problem.operationInstances) (option : ResourceOption) :
    ∃ seconds, expectedSeconds operation option = some seconds := by
  cases hstatus : operation.status with
  | notStarted => exact ⟨_, by simp [expectedSeconds, hstatus]; rfl⟩
  | running =>
    obtain ⟨_, _, remaining, hfacts⟩ := (h.operations operation hmem).running hstatus
    exact ⟨remaining, by simp [expectedSeconds, hstatus, hfacts.remaining_eq]⟩

theorem durationViolations_ok (assignments : List Assignment) (operation : OperationInstance)
    (hmem : operation ∈ problem.operationInstances) (k : ConstraintId) :
    ∃ vs, durationViolations problem assignments operation = .ok vs ∧
      (Reports vs k ↔ .c010 = k ∧ ∃ a option start stop seconds,
        assignmentsOf assignments operation.operationId = [a] ∧
          option ∈ operation.resourceOptions ∧ a.resourceId = some option.resourceId ∧
          a.startTick = some start ∧ a.endTick = some stop ∧
          TakesSeconds operation option seconds ∧
          ¬(stop - start = durationTicks seconds problem.tickSeconds ∧
            a.durationTicks = some (stop - start) ∧ a.durationSeconds = some seconds)) := by
  have hnodup := (h.operations operation hmem).options_nodup
  simp only [← single_eq_some_iff]
  unfold durationViolations
  cases hsingle : single assignments operation.operationId with
  | none => exact ⟨[], rfl, by simp⟩
  | some a =>
    cases hres : a.resourceId with
    | none => exact ⟨[], by simp [hres], by simp [hres]⟩
    | some resource =>
      cases hstart : a.startTick with
      | none => exact ⟨[], by simp [hres, hstart], by simp [hstart]⟩
      | some start =>
        cases hend : a.endTick with
        | none => exact ⟨[], by simp [hres, hstart, hend], by simp [hend]⟩
        | some stop =>
          cases hfind : operation.resourceOptions.find? fun o => o.resourceId = resource with
          | none =>
            refine ⟨[], by simp [hres, hstart, hend, hfind], ?_⟩
            simp only [reports_nil, false_iff, not_and, not_exists]
            rintro - b option _ _ _ hb hoption hres'
            injection hb with hb
            subst hb
            rw [hres] at hres'
            injection hres' with hres'
            rw [(find_option operation hnodup resource option).mpr ⟨hoption, hres'.symm⟩] at hfind
            cases hfind
          | some option =>
            obtain ⟨hoption, rfl⟩ := (find_option operation hnodup resource option).mp hfind
            obtain ⟨seconds, hseconds⟩ := expectedSeconds_isSome h operation hmem option
            have htakes := (expectedSeconds_eq_some operation option seconds).mp hseconds
            simp only [hres, hstart, hend, hfind, hseconds]
            refine ⟨_, (apply_ite Except.ok _ _ _).symm, ?_⟩
            rw [reports_unless]
            refine and_congr_right fun _ => ?_
            constructor
            · intro hnot
              exact ⟨a, option, start, stop, seconds, rfl, hoption, hres, hstart, hend, htakes,
                hnot⟩
            · intro hall
              obtain ⟨b, option', start', stop', seconds', hb, hoption', hres', hstart', hend',
                htakes', hnot⟩ := hall
              injection hb with hb
              subst hb
              rw [hres] at hres'
              rw [hstart] at hstart'
              rw [hend] at hend'
              injection hres' with hres'
              injection hstart' with hstart'
              injection hend' with hend'
              have hfind' := (find_option operation hnodup _ option').mpr ⟨hoption', hres'.symm⟩
              rw [hfind] at hfind'
              injection hfind' with hfind'
              subst hstart' hend' hfind'
              rw [← expectedSeconds_eq_some, hseconds] at htakes'
              injection htakes' with htakes'
              subst htakes'
              exact hnot

theorem evaluateC010_ok (assignments : List Assignment) :
    ∃ vs, evaluateC010 problem assignments = .ok vs :=
  (collected_isOk _ _).mpr fun operation hm => by
    obtain ⟨vs, hvs, -⟩ := durationViolations_ok h assignments operation hm .c010
    exact ⟨vs, hvs⟩

theorem reports_evaluateC010 (assignments : List Assignment) (vs : List Violation)
    (hok : evaluateC010 problem assignments = .ok vs) (k : ConstraintId) :
    Reports vs k ↔ .c010 = k ∧ BreaksRule problem assignments .c010 :=
  reports_collected hok fun operation hm ws hws => by
    obtain ⟨ws', hws', hiff⟩ := durationViolations_ok h assignments operation hm k
    rw [hws] at hws'
    injection hws' with hws'
    rw [hws']
    exact hiff

/-! ### C-011 -/

/-- The assignment is of an operation that has not started. -/
def PlansNotStarted (problem : PlanningProblem) (a : Assignment) : Prop :=
  ∃ operation ∈ problem.operationInstances,
    operation.operationId = a.operationId ∧ operation.status = .notStarted

theorem status_eq_notStarted (id : String) :
    (dictGet OperationInstance.operationId problem.operationInstances id).map
      OperationInstance.status = some .notStarted ↔
        ∃ operation ∈ problem.operationInstances,
          operation.operationId = id ∧ operation.status = .notStarted := by
  rw [Option.map_eq_some_iff]
  simp only [dictGet_eq_some_iff _ _ _ _ h.operations_nodup, and_assoc]

theorem horizonViolations_isOk (a : Assignment) :
    (∃ vs, horizonViolations problem horizonStart horizonEnd a = .ok vs) ↔
      (PlansNotStarted problem a →
        (∀ t ∈ a.startTick, InRange problem t) ∧ ∀ t ∈ a.endTick, InRange problem t) := by
  rw [PlansNotStarted, ← status_eq_notStarted h]
  unfold horizonViolations
  split
  · rename_i hstatus
    simp only [hstatus, forall_const]
    exact tickInstants?_isOk h _ _ _
  · rename_i hstatus
    constructor
    · rintro - heq
      exact absurd heq hstatus
    · intro _
      exact ⟨[], rfl⟩

theorem insideHorizon_iff (a : Assignment) (restoredStart restoredEnd : Option Datetime)
    (hs : tickInstant? problem horizonStart a.startTick = .ok restoredStart)
    (he : tickInstant? problem horizonStart a.endTick = .ok restoredEnd) :
    InsideHorizon a horizonStart horizonEnd restoredStart restoredEnd ↔
      ∃ start stop, a.startTick = some start ∧ a.endTick = some stop ∧
        Restates problem a start stop ∧ start < stop ∧
        instantMicros problem.horizonStartUtc ≤ tickMicros problem start ∧
        tickMicros problem stop ≤ instantMicros problem.horizonEndUtc := by
  rw [instantMicros_eq _ _ h.start_eq, instantMicros_eq _ _ h.end_eq]
  constructor
  · intro hall
    obtain ⟨s, hs', e, he', hstartAt, hendAt, hfrom, hlt, hto⟩ := hall
    obtain ⟨start, htick, hd⟩ := (mem_tickInstant? h _ _ hs s).mp hs'
    obtain ⟨stop, htick', hd'⟩ := (mem_tickInstant? h _ _ he e).mp he'
    refine ⟨start, stop, htick, htick', ⟨⟨s, hstartAt, hd⟩, e, hendAt, hd'⟩, ?_, ?_, ?_⟩
    · rw [← tickMicros_lt_iff h, ← hd, ← hd']
      exact hlt
    · rw [← hd]
      exact hfrom
    · rw [← hd']
      exact hto
  · intro hall
    obtain ⟨start, stop, htick, htick', ⟨⟨d, hd, hmicros⟩, d', hd', hmicros'⟩, hlt, hfrom, hto⟩ :=
      hall
    rw [htick] at hs
    rw [htick'] at he
    have hstart := (eq_restored_iff h a.startAtUtc restoredStart start hs).mpr ⟨d, hd, hmicros⟩
    have hstop := (eq_restored_iff h a.endAtUtc restoredEnd stop he).mpr ⟨d', hd', hmicros'⟩
    refine ⟨d, hstart ▸ hd, d', hstop ▸ hd', hd, hd', ?_, ?_, ?_⟩
    · rw [Datetime.le_iff, hmicros]
      exact hfrom
    · rw [Datetime.lt_iff, hmicros, hmicros', tickMicros_lt_iff h]
      exact hlt
    · rw [Datetime.le_iff, hmicros']
      exact hto

theorem reports_horizonViolations (a : Assignment) (vs : List Violation)
    (hok : horizonViolations problem horizonStart horizonEnd a = .ok vs) (k : ConstraintId) :
    Reports vs k ↔ .c011 = k ∧ PlansNotStarted problem a ∧
      ¬∃ start stop, a.startTick = some start ∧ a.endTick = some stop ∧
        Restates problem a start stop ∧ start < stop ∧
        instantMicros problem.horizonStartUtc ≤ tickMicros problem start ∧
        tickMicros problem stop ≤ instantMicros problem.horizonEndUtc := by
  rw [PlansNotStarted, ← status_eq_notStarted h]
  unfold horizonViolations at hok
  split at hok
  · rename_i hstatus
    simp only [bind_eq_ok] at hok
    obtain ⟨restoredStart, hs, restoredEnd, he, hvs⟩ := hok
    injection hvs with hvs
    subst hvs
    rw [reports_unless, insideHorizon_iff h a _ _ hs he]
    exact and_congr_right fun _ => (and_iff_right hstatus).symm
  · rename_i hstatus
    injection hok with hok
    subst hok
    simp only [reports_nil, false_iff, not_and]
    rintro - heq
    exact absurd heq hstatus

theorem evaluateC011_isOk (assignments : List Assignment) :
    (∃ vs, evaluateC011 problem horizonStart horizonEnd assignments = .ok vs) ↔
      ∀ a ∈ assignments, PlansNotStarted problem a →
        (∀ t ∈ a.startTick, InRange problem t) ∧ ∀ t ∈ a.endTick, InRange problem t :=
  (collected_isOk _ _).trans (forall₂_congr fun a _ => horizonViolations_isOk h a)

theorem reports_evaluateC011 (assignments : List Assignment) (vs : List Violation)
    (hok : evaluateC011 problem horizonStart horizonEnd assignments = .ok vs)
    (k : ConstraintId) :
    Reports vs k ↔ .c011 = k ∧ BreaksRule problem assignments .c011 :=
  reports_collected hok fun a _ ws hws => reports_horizonViolations h a ws hws k

end
end PlantNexus.Validation
