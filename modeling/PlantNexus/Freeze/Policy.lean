import PlantNexus.Domain.CarrierContracts
import PlantNexus.Snapshot.Canonical

/-! The simulation freeze policy and its resolution at a snapshot's cutoff.

The one approved policy is a constant document. Resolving it against a verified
simulation snapshot gives the half-open freeze window that starts at the cutoff. -/
namespace PlantNexus.Freeze
open Data Time Domain Snapshot

/-! ### Whole seconds -/

/-- A `datetime` with or without an offset; only two of one kind compare. -/
structure Moment where
  instant : Datetime
  aware : Bool

/-- What keeps a text from naming a UTC second. -/
inductive UtcFault where
  | notUtc
  | invalid
  | fraction
deriving DecidableEq, Repr

/-- `value.replace("Z", "+00:00")` -/
def replaceZ (value : String) : List Char :=
  value.toList.flatMap fun c => if c = 'Z' then ['+', '0', '0', ':', '0', '0'] else [c]

/-- The reading of an instant that the freeze modules share. A date alone ends in the
offset's own characters, which the parser takes for a time of day: it has no offset. -/
def utcMoment (value : String) : Except UtcFault Moment :=
  if value.toList.getLast? ≠ some 'Z' then .error .notUtc
  else
    match fromisoformat (replaceZ value) with
    | none => .error .invalid
    | some (instant, offset) =>
      if instant.micros % 1000000 ≠ 0 then .error .fraction
      else .ok ⟨instant, offset.isSome⟩

/-- `value.isoformat(timespec="seconds").replace("+00:00", "Z")` -/
def formatMoment (moment : Moment) : String :=
  if moment.aware then formatUtcInstant moment.instant
  else String.ofList (isoformatSeconds moment.instant)

theorem utcMoment_ok_iff (value : String) (moment : Moment) :
    utcMoment value = .ok moment ↔
      value.toList.getLast? = some 'Z' ∧ ∃ offset,
        fromisoformat (replaceZ value) = some (moment.instant, offset) ∧
          moment.instant.micros % 1000000 = 0 ∧ moment.aware = offset.isSome := by
  obtain ⟨instant, aware⟩ := moment
  unfold utcMoment
  split
  · simp_all
  · rename_i hz
    rw [not_not] at hz
    cases hparse : fromisoformat (replaceZ value) with
    | none => simp
    | some result =>
      obtain ⟨d, offset⟩ := result
      by_cases hfraction : d.micros % 1000000 = 0
      · simp only [hfraction, ne_eq, not_true_eq_false, if_false, hz, true_and,
          Except.ok.injEq, Moment.mk.injEq, Option.some.injEq, Prod.mk.injEq]
        constructor
        · intro hall
          obtain ⟨hd, haware⟩ := hall
          exact ⟨offset, ⟨hd, rfl⟩, hd ▸ hfraction, haware.symm⟩
        · intro hall
          obtain ⟨_, ⟨hd, rfl⟩, _, haware⟩ := hall
          exact ⟨hd, haware.symm⟩
      · simp only [hfraction, ne_eq, not_false_eq_true, if_true, hz, true_and,
          Option.some.injEq, Prod.mk.injEq]
        constructor
        · intro h
          cases h
        · intro hall
          obtain ⟨_, ⟨hd, _⟩, hwhole, _⟩ := hall
          exact absurd (hd ▸ hwhole) hfraction

/-! A written whole second is read back; one without an offset is not. -/

theorem isoformatSeconds_no_Z (d : Datetime) : 'Z' ∉ isoformatSeconds d := by
  have hdigit : ∀ n < 10, Nat.digitChar n ≠ 'Z' := by decide
  have hpad : ∀ width value, 'Z' ∉ padDigits width value := by
    intro width
    induction width with
    | zero => simp [padDigits]
    | succ n ih =>
      intro value hmem
      rw [padDigits, List.mem_cons] at hmem
      cases hmem with
      | inl h => exact hdigit _ (Nat.mod_lt _ (by omega)) h.symm
      | inr h => exact ih _ h
  simp only [isoformatSeconds, isoDateText, isoTimeText, List.mem_append, List.mem_cons]
  simp [hpad]

theorem utcMoment_formatMoment (d : Datetime) (h : d.micros % 1000000 = 0) :
    utcMoment (formatMoment ⟨d, true⟩) = .ok ⟨d, true⟩ := by
  have hreplace : replaceZ (formatUtcInstant d) =
      isoformatSeconds d ++ ['+', '0', '0', ':', '0', '0'] := by
    have hkeep : (isoformatSeconds d).flatMap
        (fun c => if c = 'Z' then ['+', '0', '0', ':', '0', '0'] else [c]) =
        isoformatSeconds d := by
      have hne : ∀ c ∈ isoformatSeconds d, ¬c = 'Z' := fun c hc heq =>
        isoformatSeconds_no_Z d (heq ▸ hc)
      generalize isoformatSeconds d = cs at hne
      induction cs with
      | nil => rfl
      | cons c cs ih =>
        rw [List.flatMap_cons, if_neg (hne c (List.mem_cons_self ..)),
          ih fun x hx => hne x (List.mem_cons_of_mem c hx)]
        rfl
    simp [replaceZ, formatUtcInstant, hkeep]
  rw [utcMoment_ok_iff]
  refine ⟨by simp [formatMoment, formatUtcInstant], some 0, ?_, h, rfl⟩
  have htruncate : d.truncateToSecond = d :=
    Datetime.truncateToSecond_of_dvd d (Int.dvd_of_emod_eq_zero h)
  show fromisoformat (replaceZ (formatUtcInstant d)) = some (d, some 0)
  rw [hreplace, fromisoformat_isoformatSeconds, htruncate]

theorem utcMoment_formatMoment_naive (d : Datetime) (moment : Moment) :
    utcMoment (formatMoment ⟨d, false⟩) ≠ .ok moment := by
  rw [Ne, utcMoment_ok_iff]
  intro hall
  obtain ⟨hlast, _⟩ := hall
  have hmem := List.mem_of_getLast? hlast
  simp only [formatMoment, Bool.false_eq_true, if_false, String.toList_ofList] at hmem
  exact isoformatSeconds_no_Z d hmem

/-- A JSON value read as an instant. -/
def utcMomentOf : Json → Except UtcFault Moment
  | .str value => utcMoment value
  | _ => .error .notUtc

/-! ### The policy -/

inductive FreezePolicyFailure where
  | invalidPolicy
  | unapprovedSimulationPolicy
  | productionNotAuthorized
  | snapshotPlaneMismatch
  | invalidFreezeAnchor
deriving DecidableEq, Repr

structure FreezePolicyError where
  reason : FreezePolicyFailure
  field : String
  message : String
deriving DecidableEq, Repr

def freezePolicyVersion : String := "freeze-policy.v1"
def freezeIntervalSemantics : String := "HALF_OPEN_START_INCLUSIVE_END_EXCLUSIVE"
def simulationFreezeWindowSeconds : Int := 900

def simulationSource : Json :=
  .obj
    [("source_system", .str "plantnexus-synthetic-policy"), ("source_version", .str "1.0.0"),
     ("source_record_id", .str "SIM-P4-FREEZE-001")]

def objectiveStage (index : Int) (objective metric sense : String) : List (String × Json) :=
  [("stage_index", .int index), ("objective_id", .str objective), ("metric", .str metric),
   ("sense", .str sense)]

/-- `simulation_replan_policy` -/
def simulationReplanPolicy : Json :=
  .obj
    [("planning_policy_version", .str "planning-policy.v2"),
     ("schema_set_version", .str "2.8.0"),
     ("policy_id", .str "POLICY-P4-SIM-DYNAMIC-FREEZE-001"),
     ("policy_revision", .str "1.0.0"),
     ("data_plane", .str "SIMULATION"),
     ("policy_source", simulationSource),
     ("canonicalization_version", .str "canonical-json.v1"),
     ("constraint_contract_version", .str "constraint-rule-sheet.v1"),
     ("objective_policy_version", .str "objective-policy.v2"),
     ("hard_constraint_ids",
       .strings
         ["C-001", "C-002", "C-003", "C-004", "C-005", "C-006", "C-007", "C-008", "C-009",
          "C-010", "C-011"]),
     ("freeze_policy",
       .obj
         [("freeze_policy_version", .str freezePolicyVersion),
          ("freeze_policy_id", .str "FREEZE-POLICY-P4-SIM-001"),
          ("freeze_policy_revision", .str "1.0.0"), ("source", simulationSource),
          ("window_seconds", .int simulationFreezeWindowSeconds),
          ("interval_semantics", .str freezeIntervalSemantics)]),
     ("objective_stages",
       .arr
         [.obj (objectiveStage 1 "OBJ-001" "WEIGHTED_TARDINESS_SECONDS" "MINIMIZE"),
          .obj
            (objectiveStage 2 "OBJ-002" "STABILITY_VECTOR" "LEXICOGRAPHIC_MINIMIZE" ++
              [("components", .strings stabilityComponents)]),
          .obj (objectiveStage 3 "OBJ-003" "MAKESPAN_SECONDS" "MINIMIZE")])]

/-- `ResolvedFreezePolicy` -/
structure ResolvedFreezePolicy where
  policyId : String
  policyRevision : String
  policyFingerprint : String
  freezePolicyId : String
  freezePolicyRevision : String
  freezePolicyFingerprint : String
  source : SourceReference
  windowSeconds : Int
  effectiveFromUtc : String
  effectiveUntilUtc : String
deriving DecidableEq, Repr

/-- `_utc_second` -/
def policyUtcSecond (value field : String) : Except (Raised FreezePolicyError) Moment :=
  match utcMoment value with
  | .ok moment => .ok moment
  | .error .notUtc =>
    .error (.rejected
      ⟨.invalidFreezeAnchor, field, "freeze anchor must be an RFC3339 UTC Z instant"⟩)
  | .error .invalid =>
    .error (.rejected ⟨.invalidFreezeAnchor, field, "freeze anchor is not a valid UTC instant"⟩)
  | .error .fraction =>
    .error (.rejected
      ⟨.invalidFreezeAnchor, field, "freeze anchor must have whole-second precision"⟩)

/-- A source reference read field by field. -/
def sourceOf (source : Json) : SourceReference :=
  ⟨(source.get "source_system").text, (source.get "source_version").text,
    (source.get "source_record_id").text⟩

section Resolve
variable (otherDocument : String → Json → Except P4ContractError Unit)

/-- `resolve_simulation_freeze_policy` -/
def resolveSimulationFreezePolicy (policy : Json) (snapshot : ImmutablePlanningSnapshot) :
    Except (Raised FreezePolicyError) ResolvedFreezePolicy := do
  require ((policy.get "data_plane").pyEq (.str "SIMULATION") = true)
    (.rejected ⟨.productionNotAuthorized, "policy.data_plane",
      "OPEN-005 provides no approved Production freeze policy"⟩)
  let _ ←
    orReject
      (fun error =>
        (⟨.invalidPolicy, error.field, "PlanningPolicy v2 failed its immutable contract"⟩ :
          FreezePolicyError))
      (requireP4Document otherDocument policy)
  require (policy.pyEq simulationReplanPolicy = true)
    (.rejected ⟨.unapprovedSimulationPolicy, "policy",
      "policy differs from SIM-P4-FREEZE-001@1.0.0"⟩)
  orReject
    (fun error => (⟨.invalidFreezeAnchor, error.field, error.message⟩ : FreezePolicyError))
    (verifySnapshot snapshot)
  require (snapshot.dataPlane = .simulation ∧ snapshot.document.synthetic = true)
    (.rejected ⟨.snapshotPlaneMismatch, "snapshot.data_plane",
      "P4 freeze execution is isolated to verified Simulation Snapshots"⟩)
  let startText := snapshot.document.cutoffAtUtc
  let start ← policyUtcSecond startText "snapshot.cutoff_at_utc"
  let freeze := policy.get "freeze_policy"
  match freeze.get "window_seconds" with
  | .int window => do
    require (1 ≤ window)
      (.rejected ⟨.invalidPolicy, "policy.freeze_policy.window_seconds",
        "freeze duration must be a positive integer number of seconds"⟩)
    let stop ← orOverflow (start.instant.addSeconds window)
    return {
      policyId := (policy.get "policy_id").text
      policyRevision := (policy.get "policy_revision").text
      policyFingerprint := contractFingerprint policy
      freezePolicyId := (freeze.get "freeze_policy_id").text
      freezePolicyRevision := (freeze.get "freeze_policy_revision").text
      freezePolicyFingerprint := contractFingerprint freeze
      source := sourceOf (freeze.get "source")
      windowSeconds := window
      effectiveFromUtc := startText
      effectiveUntilUtc := formatMoment ⟨stop, start.aware⟩ }
  | _ =>
    .error (.rejected ⟨.invalidPolicy, "policy.freeze_policy.window_seconds",
      "freeze duration must be a positive integer number of seconds"⟩)

end Resolve

end PlantNexus.Freeze
