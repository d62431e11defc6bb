import PlantNexus.Backend.CoreConstraints

/-! What the core model's precheck guarantees.

Beyond the contract, a problem the precheck accepts has whole-second instants, a horizon
of at least one tick that every running remainder fits into, and hard locks on the tick
grid. -/
namespace PlantNexus.Backend
open Data Time Domain Problem

/-- The text is an instant on a whole second. -/
def WholeSecond (text : String) : Prop :=
  ∃ d, parseUtcInstant text = .ok d ∧ microsPerSecond ∣ d.micros

/-- The text is an instant on the tick grid. -/
def OnGrid (problem : PlanningProblem) (text : String) : Prop :=
  ∃ tick, exactTickOffset text problem.horizonStartUtc problem.tickSeconds = .ok tick

/-- What a problem that passes the precheck is known to satisfy. -/
structure PrecheckFacts (problem : PlanningProblem) (horizonStart horizonEnd : Datetime)
    (horizonTicks : Int) : Prop where
  contract : ContractFacts problem horizonStart horizonEnd
  start_whole : microsPerSecond ∣ horizonStart.micros
  end_whole : microsPerSecond ∣ horizonEnd.micros
  ticks_eq : horizonTicks =
    (horizonEnd.micros - horizonStart.micros) / microsPerSecond / problem.tickSeconds
  ticks_pos : 1 ≤ horizonTicks
  release : ∀ operation ∈ problem.operationInstances, WholeSecond operation.releaseAtUtc
  material : ∀ operation ∈ problem.operationInstances, WholeSecond operation.materialReadyAtUtc
  running : ∀ operation ∈ problem.operationInstances, operation.status = .running →
    ∀ remaining, operation.remainingSeconds = some remaining →
      durationTicks remaining problem.tickSeconds ≤ horizonTicks
  locks : ∀ lock ∈ problem.operationLocks, lock.lockType = .hardLock →
    OnGrid problem lock.startAtUtc ∧ OnGrid problem lock.endAtUtc
  anchors : ∀ anchor ∈ problem.historicalCompletionAnchors, WholeSecond anchor.actualEndAtUtc
  intervals : ∀ interval ∈ problem.resourceUnavailableIntervals,
    WholeSecond interval.startUtc ∧ WholeSecond interval.endUtc

theorem requireSecondPrecision_whole (value field entityId : String)
    (h : requireSecondPrecision value field entityId = .ok ()) : WholeSecond value := by
  simp only [requireSecondPrecision, requireInput, bind_eq_ok, instantAt_eq_ok,
    require_eq_ok] at h
  obtain ⟨d, hparse, hcanonical⟩ := h
  have htruncate := truncate_of_canonical value d hparse hcanonical
  exact ⟨d, hparse, (Datetime.truncateToSecond_eq_self_iff d).mp htruncate⟩

theorem precheckRunning_fits (problem : PlanningProblem) (horizonStart : Datetime)
    (horizonTicks : Int) (index : Nat) (operation : OperationInstance)
    (h : precheckRunning problem horizonStart horizonTicks index operation = .ok ())
    (remaining : Int) (hremaining : operation.remainingSeconds = some remaining) :
    durationTicks remaining problem.tickSeconds ≤ horizonTicks := by
  unfold precheckRunning at h
  split at h
  · rename_i actualStart remaining' _ hremaining'
    rw [hremaining] at hremaining'
    injection hremaining' with hremaining'
    subst hremaining'
    simp only [requireInput, bind_eq_ok, exists_unit_iff, require_eq_ok, not_lt] at h
    obtain ⟨-, _, -, -, hfits⟩ := h
    exact hfits
  · cases h

theorem precheckOperation_facts (problem : PlanningProblem) (horizonStart : Datetime)
    (horizonTicks : Int) (index : Nat) (operation : OperationInstance)
    (h : precheckOperation problem horizonStart horizonTicks index operation = .ok ()) :
    WholeSecond operation.releaseAtUtc ∧ WholeSecond operation.materialReadyAtUtc ∧
      (operation.status = .running → ∀ remaining, operation.remainingSeconds = some remaining →
        durationTicks remaining problem.tickSeconds ≤ horizonTicks) := by
  unfold precheckOperation at h
  split at h
  · simp only [bind_eq_ok, exists_unit_iff] at h
    obtain ⟨hrunning, hrelease, hmaterial, -⟩ := h
    refine ⟨requireSecondPrecision_whole _ _ _ hrelease,
      requireSecondPrecision_whole _ _ _ hmaterial, ?_⟩
    intro _ remaining hremaining
    exact precheckRunning_fits _ _ _ _ _ hrunning remaining hremaining
  · rename_i hstatus
    simp only [bind_eq_ok, exists_unit_iff] at h
    obtain ⟨hrelease, hmaterial, -⟩ := h
    exact ⟨requireSecondPrecision_whole _ _ _ hrelease,
      requireSecondPrecision_whole _ _ _ hmaterial, fun hrunning => absurd hrunning hstatus⟩

/-- The offsets of a lock that passes are on the grid. -/
theorem precheckHardLock_facts (problem : PlanningProblem) (index : Nat) (lock : OperationLock)
    (before after : List (String × Signature))
    (h : precheckHardLock problem index lock before = .ok after) :
    OnGrid problem lock.startAtUtc ∧ OnGrid problem lock.endAtUtc := by
  simp only [precheckHardLock, bind_eq_ok, exists_unit_iff] at h
  obtain ⟨-, -, ⟨start, stop⟩, hticks, -⟩ := h
  simp only [lockTicks] at hticks
  split at hticks
  · rename_i ticks hoffsets
    simp only [bind_eq_ok] at hoffsets
    obtain ⟨s, hs, e, he, -⟩ := hoffsets
    exact ⟨⟨s, hs⟩, ⟨e, he⟩⟩
  · cases hticks

theorem precheckHardLocks_facts (problem : PlanningProblem) (locks : List OperationLock)
    (index : Nat) (before after : List (String × Signature))
    (h : precheckHardLocks problem index locks before = .ok after) :
    ∀ lock ∈ locks, lock.lockType = .hardLock →
      OnGrid problem lock.startAtUtc ∧ OnGrid problem lock.endAtUtc := by
  induction locks generalizing index before with
  | nil => simp
  | cons lock rest ih =>
    intro other hmem htype
    rw [precheckHardLocks] at h
    cases hlock : lock.lockType with
    | softLock =>
      rw [hlock] at h
      cases List.mem_cons.mp hmem with
      | inl heq =>
        rw [heq, hlock] at htype
        cases htype
      | inr hrest => exact ih (index + 1) before h other hrest htype
    | hardLock =>
      rw [hlock] at h
      obtain ⟨between, hthis, hrest⟩ := bind_eq_ok.mp h
      cases List.mem_cons.mp hmem with
      | inl heq =>
        rw [heq]
        exact precheckHardLock_facts problem index lock before between hthis
      | inr hother => exact ih (index + 1) between hrest other hother htype

theorem requireBuilt_eq_ok (problem : PlanningProblem) :
    requireBuilt problem = .ok () ↔ validateBuiltProblemV2 problem = .ok () := by
  unfold requireBuilt
  split <;> simp_all

/-- **Everything later proofs use of the precheck.** -/
theorem precheck_facts (problem : PlanningProblem) (precheck : CorePrecheck)
    (h : precheckCoreProblem problem = .ok precheck) :
    ∃ horizonStart horizonEnd,
      PrecheckFacts problem horizonStart horizonEnd precheck.horizonTicks := by
  simp only [precheckCoreProblem, bind_eq_ok, exists_unit_iff, requireBuilt_eq_ok] at h
  obtain ⟨-, hbuilt, hstart, hend, horizonStart, hs, horizonEnd, he, hticks, hoperations,
    signatures, hlocks, -, hanchors, -, hintervals, hresult⟩ := h
  obtain ⟨start, stop, hcontract⟩ := builtProblem_facts problem hbuilt
  obtain ⟨d, hd, hstartWhole⟩ := requireSecondPrecision_whole _ _ _ hstart
  obtain ⟨d', hd', hendWhole⟩ := requireSecondPrecision_whole _ _ _ hend
  rw [instantAt_eq_ok, hcontract.start_eq] at hs
  rw [instantAt_eq_ok, hcontract.end_eq] at he
  rw [hcontract.start_eq] at hd
  rw [hcontract.end_eq] at hd'
  injection hs with hs
  injection he with he
  injection hd with hd
  injection hd' with hd'
  injection hresult with hresult
  subst hs he hd hd' hresult
  have hwhole : wholeSeconds (stop.sub start) =
      (stop.micros - start.micros) / microsPerSecond := by
    obtain ⟨m, hm⟩ := Int.dvd_sub hendWhole hstartWhole
    rw [Datetime.sub, hm, Int.mul_comm, wholeSeconds_exact,
      Int.mul_ediv_cancel _ (by decide : microsPerSecond ≠ 0)]
  have hops := forEach_ok_mem hoperations fun i operation hop =>
    precheckOperation_facts problem start _ i operation hop
  refine ⟨start, stop, ?_⟩
  exact
    { contract := hcontract
      start_whole := hstartWhole
      end_whole := hendWhole
      ticks_eq := by rw [hwhole]
      ticks_pos := by
        simp only [requireInput, require_eq_ok, not_lt] at hticks
        exact hticks
      release := fun operation hm => (hops operation hm).1
      material := fun operation hm => (hops operation hm).2.1
      running := fun operation hm => (hops operation hm).2.2
      locks := precheckHardLocks_facts problem _ _ _ _ hlocks
      anchors := forEach_ok_mem hanchors fun i anchor hanchor => by
        obtain ⟨-, hstop⟩ := bind_unit_eq_ok.mp hanchor
        exact requireSecondPrecision_whole _ _ _ hstop
      intervals := forEach_ok_mem hintervals fun i interval hinterval => by
        obtain ⟨hfrom, hto⟩ := bind_unit_eq_ok.mp hinterval
        exact ⟨requireSecondPrecision_whole _ _ _ hfrom, requireSecondPrecision_whole _ _ _ hto⟩ }

end PlantNexus.Backend
