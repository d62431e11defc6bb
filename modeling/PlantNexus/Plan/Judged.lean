import PlantNexus.Plan.Feasible
import PlantNexus.Validation.Exactness

/-! The catalogue's rules on the assignments of a plan.

When a list of assignments reads back a plan that covers the problem, it breaks no rule
exactly when the plan is feasible. -/
namespace PlantNexus.Plan
open Data Time Domain Problem Validation

/-- The assignment says what the placement says. -/
structure Reads (problem : PlanningProblem) (p : Placement) (a : Assignment) : Prop where
  operation : a.operationId = p.operationId
  resource : a.resourceId = some p.resourceId
  start : a.startTick = some p.start
  stop : a.endTick = some p.stop
  restates : Restates problem a p.start p.stop
  duration : ∃ seconds, TakesSeconds p.operation p.option seconds ∧
    a.durationSeconds = some seconds ∧
    a.durationTicks = some (durationTicks seconds problem.tickSeconds)

section
variable {problem : PlanningProblem}

theorem Reads.usable_iff {p : Placement} {a : Assignment} (h : Reads problem p a) (s e : Int) :
    a.Usable s e ↔ s = p.start ∧ e = p.stop ∧ p.start < p.stop := by
  unfold Assignment.Usable
  rw [h.start, h.stop, Option.some.injEq, Option.some.injEq]
  omega

theorem takesSeconds_unique {operation : OperationInstance} {option : ResourceOption} {m n : Int}
    (hm : TakesSeconds operation option m) (hn : TakesSeconds operation option n) : m = n := by
  unfold TakesSeconds at hm hn
  split at hm
  · rename_i hstatus
    rw [hstatus] at hn
    exact Option.some.inj (hm.symm.trans hn)
  · rename_i hstatus
    rw [hstatus] at hn
    exact hm.symm.trans hn

/-- Reading assignment by assignment, pairs of placements are pairs of assignments. -/
theorem pairwise_reads {plan : List Placement} {assignments : List Assignment}
    (hreads : List.Forall₂ (Reads problem) plan assignments) {R : Placement → Placement → Prop}
    {S : Assignment → Assignment → Prop}
    (hRS : ∀ p ∈ plan, ∀ q ∈ plan, ∀ a b, Reads problem p a → Reads problem q b →
      (R p q ↔ S a b)) :
    plan.Pairwise R ↔ assignments.Pairwise S := by
  induction hreads with
  | nil => simp
  | @cons p a rest as hp hrest ih =>
    have htail : rest.Pairwise R ↔ as.Pairwise S :=
      ih fun p' hp' q hq => hRS p' (List.mem_cons_of_mem _ hp') q (List.mem_cons_of_mem _ hq)
    have hhead : (∀ q ∈ rest, R p q) ↔ ∀ b ∈ as, S a b := by
      clear ih htail
      induction hrest with
      | nil => simp
      | @cons q b rest as hq _ ih =>
        have hR := hRS p (List.mem_cons_self ..) q
          (List.mem_cons_of_mem _ (List.mem_cons_self ..)) a b hp hq
        have hsub : ∀ x, x ∈ p :: rest → x ∈ p :: q :: rest := by
          intro x hx
          cases List.mem_cons.mp hx with
          | inl heq => exact heq ▸ List.mem_cons_self ..
          | inr hx => exact List.mem_cons_of_mem _ (List.mem_cons_of_mem _ hx)
        have := ih fun x hx y hy => hRS x (hsub x hx) y (hsub y hy)
        simp only [List.forall_mem_cons, hR, this]
    rw [List.pairwise_cons, List.pairwise_cons, hhead, htail]

theorem exists_read {plan : List Placement} {assignments : List Assignment}
    (hreads : List.Forall₂ (Reads problem) plan assignments) {a : Assignment}
    (ha : a ∈ assignments) : ∃ p ∈ plan, Reads problem p a :=
  forall₂_exists_left hreads ha

theorem reads_ids {plan : List Placement} {assignments : List Assignment}
    (hreads : List.Forall₂ (Reads problem) plan assignments) :
    assignments.map Assignment.operationId = plan.map Placement.operationId := by
  induction hreads with
  | nil => rfl
  | cons hread _ ih => rw [List.map_cons, List.map_cons, hread.operation, ih]

/-- A placed operation has one assignment, and it reads the placement. -/
theorem only_read {plan : List Placement} {assignments : List Assignment}
    (hreads : List.Forall₂ (Reads problem) plan assignments)
    (hnodup : (plan.map Placement.operationId).Nodup) {p : Placement} (hp : p ∈ plan) :
    ∃ a, assignmentsOf assignments p.operationId = [a] ∧ Reads problem p a := by
  obtain ⟨a, ha, hread⟩ := forall₂_exists_right hreads hp
  refine ⟨a, ?_, hread⟩
  rw [← hread.operation]
  exact filter_key_eq_singleton Assignment.operationId assignments
    (reads_ids hreads ▸ hnodup) ha

end

section
variable {problem : PlanningProblem} {horizonStart horizonEnd : Datetime}
  (h : ContractFacts problem horizonStart horizonEnd) {plan : List Placement}
  {assignments : List Assignment} (hcovers : Covers problem plan)
  (hreads : List.Forall₂ (Reads problem) plan assignments)
include h hcovers hreads

theorem only_placed {p : Placement} (hp : p ∈ plan) :
    ∃ a, assignmentsOf assignments p.operationId = [a] ∧ Reads problem p a :=
  only_read hreads (hcovers.ids_nodup h.operations_nodup) hp

/-- The only assignment of an active operation reads its placement. -/
theorem placed_of_only {operation : OperationInstance}
    (hm : operation ∈ problem.operationInstances) {a : Assignment}
    (ha : assignmentsOf assignments operation.operationId = [a]) :
    ∃ p ∈ plan, p.operation = operation ∧ Reads problem p a := by
  obtain ⟨p, hp, rfl⟩ := hcovers.exists_placement hm
  obtain ⟨b, hb, hread⟩ := only_placed h hcovers hreads hp
  have hab : [b] = [a] := hb.symm.trans ha
  injection hab with hab
  exact ⟨p, hp, rfl, hab ▸ hread⟩

/-! ### C-001 and C-003 hold of every plan -/

theorem not_breaks_c001 : ¬BreaksRule problem assignments .c001 := by
  intro hbreak
  cases hbreak with
  | inl hcount =>
    obtain ⟨id, hid, hlen⟩ := hcount
    obtain ⟨operation, hm, rfl⟩ := List.mem_map.mp hid
    obtain ⟨p, hp, rfl⟩ := hcovers.exists_placement hm
    obtain ⟨a, ha, -⟩ := only_placed h hcovers hreads hp
    exact hlen (by rw [show p.operation.operationId = p.operationId from rfl, ha]; rfl)
  | inr hunknown =>
    obtain ⟨a, ha, hactive, -⟩ := hunknown
    obtain ⟨p, hp, hread⟩ := exists_read hreads ha
    exact hactive (hread.operation ▸ List.mem_map_of_mem (hcovers.mem hp))

theorem not_breaks_c003 : ¬BreaksRule problem assignments .c003 := by
  intro hbreak
  cases hbreak with
  | inl hnone =>
    obtain ⟨a, ha, hres⟩ := hnone
    obtain ⟨p, _, hread⟩ := exists_read hreads ha
    rw [hread.resource] at hres
    cases hres
  | inr hother =>
    obtain ⟨operation, hm, -, hnot⟩ := hother
    obtain ⟨p, hp, rfl⟩ := hcovers.exists_placement hm
    obtain ⟨a, ha, hread⟩ := only_placed h hcovers hreads hp
    exact hnot ⟨a, p.resourceId, ha, hread.resource, List.mem_map_of_mem (hcovers.options p hp)⟩

/-! ### One rule at a time -/

theorem c010_iff : ¬BreaksRule problem assignments .c010 ↔ ∀ p ∈ plan, TakesDuration problem p := by
  constructor
  · intro hnot p hp
    obtain ⟨a, ha, hread⟩ := only_placed h hcovers hreads hp
    obtain ⟨seconds, htakes, hseconds, hticks⟩ := hread.duration
    refine ⟨seconds, htakes, ?_⟩
    by_contra hne
    exact hnot ⟨p.operation, hcovers.mem hp, a, p.option, p.start, p.stop, seconds, ha,
      hcovers.options p hp, hread.resource, hread.start, hread.stop, htakes, fun hall => hne hall.1⟩
  · intro hall hbreak
    obtain ⟨operation, hm, a, option, start, stop, seconds, ha, hoption, hres, hstart, hstop, htakes,
      hnot⟩ := hbreak
    obtain ⟨p, hp, rfl, hread⟩ := placed_of_only h hcovers hreads hm ha
    have hsame : option = p.option := by
      refine List.inj_on_of_nodup_map (h.operations _ hm).options_nodup hoption
        (hcovers.options p hp) ?_
      exact Option.some.inj (hres.symm.trans hread.resource)
    subst hsame
    obtain ⟨seconds', htakes', hseconds, hticks⟩ := hread.duration
    obtain ⟨seconds'', htakes'', hdiff⟩ := hall p hp
    rw [takesSeconds_unique htakes' htakes] at hseconds hticks
    rw [takesSeconds_unique htakes'' htakes] at hdiff
    have hs : start = p.start := Option.some.inj (hstart.symm.trans hread.start)
    have he : stop = p.stop := Option.some.inj (hstop.symm.trans hread.stop)
    refine hnot ⟨by rw [hs, he]; exact hdiff, ?_, hseconds⟩
    rw [hs, he, hdiff]
    exact hticks

omit hreads in
/-- A placement that takes its duration is not empty. -/
theorem start_lt_stop {p : Placement} (hp : p ∈ plan) (htakes : TakesDuration problem p) :
    p.start < p.stop := by
  obtain ⟨seconds, hseconds, hdiff⟩ := htakes
  have hfacts := h.operations p.operation (hcovers.mem hp)
  have hpos : 0 < seconds := by
    unfold TakesSeconds at hseconds
    split at hseconds
    · rename_i hstatus
      obtain ⟨_, _, remaining, hrunning⟩ := hfacts.running hstatus
      rw [hrunning.remaining_eq] at hseconds
      exact Option.some.inj hseconds ▸ hrunning.remaining_pos
    · exact hseconds ▸ (hfacts.options p.option (hcovers.options p hp)).duration_pos
  have := durationTicks_pos seconds problem.tickSeconds h.tick_pos hpos
  omega

theorem c011_iff (hpos : ∀ p ∈ plan, p.start < p.stop) :
    ¬BreaksRule problem assignments .c011 ↔ ∀ p ∈ plan, p.operation.status = .notStarted →
      instantMicros problem.horizonStartUtc ≤ tickMicros problem p.start ∧
        tickMicros problem p.stop ≤ instantMicros problem.horizonEndUtc := by
  constructor
  · intro hnot p hp hstatus
    obtain ⟨a, ha, hread⟩ := only_placed h hcovers hreads hp
    by_contra hout
    refine hnot ⟨a, (of_assignmentsOf_eq ha).1,
      ⟨p.operation, hcovers.mem hp, hread.operation.symm, hstatus⟩, ?_⟩
    intro hinside
    obtain ⟨start, stop, hstart, hstop, -, -, hfrom, hto⟩ := hinside
    have hs : start = p.start := Option.some.inj (hstart.symm.trans hread.start)
    have he : stop = p.stop := Option.some.inj (hstop.symm.trans hread.stop)
    rw [hs] at hfrom
    rw [he] at hto
    exact hout ⟨hfrom, hto⟩
  · intro hall hbreak
    obtain ⟨a, ha, ⟨operation, hm, hid, hstatus⟩, hnot⟩ := hbreak
    obtain ⟨p, hp, hread⟩ := exists_read hreads ha
    have hsame : p.operation = operation :=
      List.inj_on_of_nodup_map h.operations_nodup (hcovers.mem hp) hm
        (hread.operation.symm.trans hid.symm)
    obtain ⟨hfrom, hto⟩ := hall p hp (hsame ▸ hstatus)
    exact hnot ⟨p.start, p.stop, hread.start, hread.stop, hread.restates, hpos p hp, hfrom, hto⟩

theorem c007_iff (hduration : ∀ p ∈ plan, TakesDuration problem p) :
    ¬BreaksRule problem assignments .c007 ↔ ∀ p ∈ plan, p.operation.status = .running →
      p.operation.assignedResourceId = some p.resourceId ∧ p.start = 0 := by
  constructor
  · intro hnot p hp hstatus
    obtain ⟨a, ha, hread⟩ := only_placed h hcovers hreads hp
    by_contra hout
    refine hnot (.inr ⟨p.operation, hcovers.mem hp, hstatus, ?_⟩)
    intro hkeeps
    obtain ⟨b, hb, resource, hassigned, _, _, hres, hstart, -⟩ := hkeeps
    have hab : [a] = [b] := ha.symm.trans hb
    injection hab with hab
    subst hab
    have hr : resource = p.resourceId := Option.some.inj (hres.symm.trans hread.resource)
    have hs : (0 : Int) = p.start := Option.some.inj (hstart.symm.trans hread.start)
    exact hout ⟨hr ▸ hassigned, hs.symm⟩
  · intro hall hbreak
    cases hbreak with
    | inl hcompleted =>
      obtain ⟨a, ha, hanchor⟩ := hcompleted
      obtain ⟨p, hp, hread⟩ := exists_read hreads ha
      obtain ⟨anchor, hm, heq⟩ := List.mem_map.mp hanchor
      refine h.anchors_disjoint anchor hm ?_
      rw [heq, hread.operation]
      exact List.mem_map_of_mem (hcovers.mem hp)
    | inr hrunning =>
      obtain ⟨operation, hm, hstatus, hnot⟩ := hrunning
      obtain ⟨p, hp, rfl⟩ := hcovers.exists_placement hm
      obtain ⟨a, ha, hread⟩ := only_placed h hcovers hreads hp
      obtain ⟨hassigned, hstart⟩ := hall p hp hstatus
      obtain ⟨seconds, htakes, hdiff⟩ := hduration p hp
      have hremaining : p.operation.remainingSeconds = some seconds := by
        simpa [TakesSeconds, hstatus] using htakes
      have hstop : p.stop = durationTicks seconds problem.tickSeconds := by omega
      refine hnot ⟨a, ha, p.resourceId, hassigned, seconds, hremaining, hread.resource,
        hstart ▸ hread.start, hstop ▸ hread.stop, ?_⟩
      have := hread.restates
      rwa [hstart, hstop] at this

theorem c008_iff (hpos : ∀ p ∈ plan, p.start < p.stop) :
    ¬BreaksRule problem assignments .c008 ↔ ∀ p ∈ plan, ∀ lock ∈ problem.operationLocks,
      lock.lockType = .hardLock → lock.operationId = p.operationId →
        KeepsLock problem p lock := by
  constructor
  · intro hnot p hp lock hlock htype hid
    obtain ⟨a, ha, hread⟩ := only_placed h hcovers hreads hp
    by_contra hout
    refine hnot ⟨lock, hlock, htype, ?_⟩
    intro hkept
    obtain ⟨b, start, stop, hb, hres, husable, hs, he⟩ := hkept
    rw [hid] at hb
    have hab : [a] = [b] := ha.symm.trans hb
    injection hab with hab
    subst hab
    obtain ⟨rfl, rfl, -⟩ := (hread.usable_iff start stop).mp husable
    exact hout ⟨Option.some.inj (hread.resource.symm.trans hres), hs, he⟩
  · intro hall hbreak
    obtain ⟨lock, hlock, htype, hnot⟩ := hbreak
    obtain ⟨operation, _, _, hfacts⟩ := h.locks lock hlock
    obtain ⟨p, hp, rfl⟩ := hcovers.exists_placement hfacts.mem
    obtain ⟨a, ha, hread⟩ := only_placed h hcovers hreads hp
    have hkeeps := hall p hp lock hlock htype hfacts.operation_eq.symm
    refine hnot ⟨a, p.start, p.stop, ?_, hkeeps.resource ▸ hread.resource,
      (hread.usable_iff _ _).mpr ⟨rfl, rfl, hpos p hp⟩, hkeeps.start, hkeeps.stop⟩
    rw [← hfacts.operation_eq]
    exact ha

theorem c006_iff :
    ¬BreaksRule problem assignments .c006 ↔ ∀ p ∈ plan,
      instantMicros p.operation.releaseAtUtc ≤ tickMicros problem p.start ∧
        instantMicros p.operation.materialReadyAtUtc ≤ tickMicros problem p.start := by
  constructor
  · intro hnot p hp
    obtain ⟨a, ha, hread⟩ := only_placed h hcovers hreads hp
    by_contra hout
    refine hnot ⟨p.operation, hcovers.mem hp, a, p.start, ha, hread.start, ?_⟩
    by_contra hge
    exact hout (by omega)
  · intro hall hbreak
    obtain ⟨operation, hm, a, start, ha, hstart, hlt⟩ := hbreak
    obtain ⟨p, hp, rfl, hread⟩ := placed_of_only h hcovers hreads hm ha
    have hs : start = p.start := Option.some.inj (hstart.symm.trans hread.start)
    have := hall p hp
    rw [hs] at hlt
    omega

theorem c005_iff (hpos : ∀ p ∈ plan, p.start < p.stop) :
    ¬BreaksRule problem assignments .c005 ↔ ∀ p ∈ plan,
      ∀ interval ∈ problem.resourceUnavailableIntervals,
        interval.resourceId = p.resourceId → Avoids problem p interval := by
  constructor
  · intro hnot p hp interval hinterval hres
    obtain ⟨a, ha, hread⟩ := only_placed h hcovers hreads hp
    by_contra hout
    refine hnot ⟨a, (of_assignmentsOf_eq ha).1, p.start, p.stop,
      (hread.usable_iff _ _).mpr ⟨rfl, rfl, hpos p hp⟩, interval, hinterval,
      hres ▸ hread.resource, ?_⟩
    unfold Avoids at hout
    omega
  · intro hall hbreak
    obtain ⟨a, ha, start, stop, husable, interval, hinterval, hres, hlt, hlt'⟩ := hbreak
    obtain ⟨p, hp, hread⟩ := exists_read hreads ha
    obtain ⟨rfl, rfl, -⟩ := (hread.usable_iff start stop).mp husable
    have hsame : interval.resourceId = p.resourceId :=
      Option.some.inj (hres.symm.trans hread.resource)
    have := hall p hp interval hinterval hsame
    unfold Avoids at this
    omega

theorem c004_iff (hpos : ∀ p ∈ plan, p.start < p.stop) :
    ¬BreaksRule problem assignments .c004 ↔ plan.Pairwise Apart := by
  rw [BreaksRule, not_not]
  refine (pairwise_reads hreads ?_).symm
  intro p hp q hq a b hread hread'
  unfold Apart OverlapOn
  constructor
  · intro hapart hoverlap
    obtain ⟨resource, -, hres, hres', s, e, s', e', husable, husable', hlt, hlt'⟩ := hoverlap
    obtain ⟨rfl, rfl, -⟩ := (hread.usable_iff s e).mp husable
    obtain ⟨rfl, rfl, -⟩ := (hread'.usable_iff s' e').mp husable'
    rw [hread.resource] at hres
    rw [hread'.resource] at hres'
    have := hapart (Option.some.inj (hres.trans hres'.symm))
    omega
  · intro hnot hres
    have hdeclared : p.resourceId ∈ problem.resources.map Resource.resourceId :=
      ((h.operations _ (hcovers.mem hp)).options p.option (hcovers.options p hp)).resource
    by_contra hout
    refine hnot ⟨p.resourceId, hdeclared, hread.resource, hres ▸ hread'.resource, p.start, p.stop,
      q.start, q.stop, (hread.usable_iff _ _).mpr ⟨rfl, rfl, hpos p hp⟩,
      (hread'.usable_iff _ _).mpr ⟨rfl, rfl, hpos q hq⟩, ?_⟩
    omega

/-! ### Lags -/

theorem occupies_placed {p : Placement} (hp : p ∈ plan) (hpos : p.start < p.stop) :
    Occupies problem assignments p.operationId p.resourceId (tickMicros problem p.start)
      (tickMicros problem p.stop) := by
  obtain ⟨a, ha, hread⟩ := only_placed h hcovers hreads hp
  have hactive : a.operationId ∉ anchorIds problem := by
    intro hanchor
    obtain ⟨anchor, hm, heq⟩ := List.mem_map.mp hanchor
    refine h.anchors_disjoint anchor hm ?_
    rw [heq, hread.operation]
    exact List.mem_map_of_mem (hcovers.mem hp)
  rw [← hread.operation]
  exact .assigned a p.resourceId p.start p.stop (hread.operation ▸ ha) hactive hread.resource
    ((hread.usable_iff _ _).mpr ⟨rfl, rfl, hpos⟩)

omit h hcovers in
theorem occupies_cases {id resource : String} {s e : Int}
    (hocc : Occupies problem assignments id resource s e) :
    (∃ anchor ∈ problem.historicalCompletionAnchors, anchor.operationId = id ∧
      anchor.resourceId = resource ∧ instantMicros anchor.actualEndAtUtc = e) ∨
    ∃ p ∈ plan, p.operationId = id ∧ p.resourceId = resource ∧ tickMicros problem p.start = s ∧
      tickMicros problem p.stop = e := by
  cases hocc with
  | completed anchor hm => exact .inl ⟨anchor, hm, rfl, rfl, rfl⟩
  | assigned a resource start stop ha _ hres husable =>
    obtain ⟨p, hp, hread⟩ := exists_read hreads (of_assignmentsOf_eq ha).1
    obtain ⟨rfl, rfl, -⟩ := (hread.usable_iff start stop).mp husable
    exact .inr ⟨p, hp, hread.operation.symm,
      Option.some.inj (hread.resource.symm.trans hres), rfl, rfl⟩

/-- The lags of a plan: between two placements, or after a completed operation. -/
theorem edgeLag_placed_iff (hpos : ∀ p ∈ plan, p.start < p.stop) (edge : PrecedenceEdge)
    (hedge : edge ∈ problem.precedenceEdges) (r r' : String) (lag : Int) :
    EdgeLag problem assignments edge r r' lag ↔
      (∃ p ∈ plan, ∃ q ∈ plan, p.operationId = edge.predecessorOperationId ∧
        q.operationId = edge.successorOperationId ∧ p.resourceId = r ∧ q.resourceId = r' ∧
        lag = tickMicros problem q.start - tickMicros problem p.stop) ∨
      ∃ anchor ∈ problem.historicalCompletionAnchors, ∃ q ∈ plan,
        anchor.operationId = edge.predecessorOperationId ∧
        q.operationId = edge.successorOperationId ∧ anchor.resourceId = r ∧ q.resourceId = r' ∧
        lag = tickMicros problem q.start - instantMicros anchor.actualEndAtUtc := by
  constructor
  · intro hlag
    obtain ⟨ps, pe, ss, se, hp, hs, rfl⟩ := hlag
    have hsucc := occupies_cases hreads hs
    cases hsucc with
    | inl hanchor =>
      obtain ⟨anchor, hm, hid, -⟩ := hanchor
      exact absurd (hid ▸ List.mem_map_of_mem hm) (successor_active h edge hedge)
    | inr hplaced =>
      obtain ⟨q, hq, hqid, hqres, rfl, rfl⟩ := hplaced
      cases occupies_cases hreads hp with
      | inl hanchor =>
        obtain ⟨anchor, hm, hid, hres, rfl⟩ := hanchor
        exact .inr ⟨anchor, hm, q, hq, hid, hqid, hres, hqres, rfl⟩
      | inr hplaced =>
        obtain ⟨p, hpm, hid, hres, rfl, rfl⟩ := hplaced
        exact .inl ⟨p, hpm, q, hq, hid, hqid, hres, hqres, rfl⟩
  · intro hlag
    cases hlag with
    | inl hplaced =>
      obtain ⟨p, hp, q, hq, hid, hqid, rfl, rfl, rfl⟩ := hplaced
      exact ⟨_, _, _, _, hid ▸ occupies_placed h hcovers hreads hp (hpos p hp),
        hqid ▸ occupies_placed h hcovers hreads hq (hpos q hq), rfl⟩
    | inr hanchor =>
      obtain ⟨anchor, hm, q, hq, hid, hqid, rfl, rfl, rfl⟩ := hanchor
      have hfrom : Occupies problem assignments anchor.operationId _ _ _ := .completed anchor hm
      rw [hid] at hfrom
      exact ⟨_, _, _, _, hfrom, hqid ▸ occupies_placed h hcovers hreads hq (hpos q hq), rfl⟩

omit h hcovers hreads in
theorem lag_rules_iff :
    (¬BreaksRule problem assignments .c002 ∧ ¬BreaksRule problem assignments .c009) ↔
      ∀ edge ∈ problem.precedenceEdges, ∀ r r' lag, EdgeLag problem assignments edge r r' lag →
        LagFits problem edge r r' lag := by
  constructor
  · intro hnot edge hedge r r' lag hlag
    refine ⟨fun hout => hnot.1 ⟨edge, hedge, r, r', lag, hlag, hout⟩, fun hcross => ?_⟩
    by_contra hshort
    exact hnot.2 ⟨edge, hedge, r, r', lag, hlag, hcross, by omega⟩
  · intro hall
    refine ⟨fun hbreak => ?_, fun hbreak => ?_⟩
    · obtain ⟨edge, hedge, r, r', lag, hlag, hout⟩ := hbreak
      exact (hall edge hedge r r' lag hlag).window hout
    · obtain ⟨edge, hedge, r, r', lag, hlag, hcross, hshort⟩ := hbreak
      have := (hall edge hedge r r' lag hlag).transport hcross
      omega

/-- **Assignments that read back a plan break no rule exactly when it is feasible.** -/
theorem rules_iff_feasible : (∀ k, ¬BreaksRule problem assignments k) ↔ Feasible problem plan := by
  constructor
  · intro hnot
    have hduration := (c010_iff h hcovers hreads).mp (hnot .c010)
    have hpos : ∀ p ∈ plan, p.start < p.stop := fun p hp =>
      start_lt_stop h hcovers hp (hduration p hp)
    have hlags := lag_rules_iff.mp ⟨hnot .c002, hnot .c009⟩
    exact
      { duration := hduration
        inside := (c011_iff h hcovers hreads hpos).mp (hnot .c011)
        running := (c007_iff h hcovers hreads hduration).mp (hnot .c007)
        locked := (c008_iff h hcovers hreads hpos).mp (hnot .c008)
        gated := (c006_iff h hcovers hreads).mp (hnot .c006)
        follows := fun edge hedge p hp q hq hpid hqid =>
          hlags edge hedge _ _ _ ((edgeLag_placed_iff h hcovers hreads hpos edge hedge _ _ _).mpr
            (.inl ⟨p, hp, q, hq, hpid, hqid, rfl, rfl, rfl⟩))
        followsCompleted := fun edge hedge anchor hanchor q hq haid hqid =>
          hlags edge hedge _ _ _ ((edgeLag_placed_iff h hcovers hreads hpos edge hedge _ _ _).mpr
            (.inr ⟨anchor, hanchor, q, hq, haid, hqid, rfl, rfl, rfl⟩))
        apart := (c004_iff h hcovers hreads hpos).mp (hnot .c004)
        calendar := (c005_iff h hcovers hreads hpos).mp (hnot .c005) }
  · intro hfeasible
    have hpos : ∀ p ∈ plan, p.start < p.stop := fun p hp =>
      start_lt_stop h hcovers hp (hfeasible.duration p hp)
    have hlags := lag_rules_iff.mpr fun edge hedge r r' lag hlag => by
      cases (edgeLag_placed_iff h hcovers hreads hpos edge hedge r r' lag).mp hlag with
      | inl hplaced =>
        obtain ⟨p, hp, q, hq, hpid, hqid, rfl, rfl, rfl⟩ := hplaced
        exact hfeasible.follows edge hedge p hp q hq hpid hqid
      | inr hanchor =>
        obtain ⟨anchor, ha, q, hq, haid, hqid, rfl, rfl, rfl⟩ := hanchor
        exact hfeasible.followsCompleted edge hedge anchor ha q hq haid hqid
    intro k
    cases k with
    | c001 => exact not_breaks_c001 h hcovers hreads
    | c002 => exact hlags.1
    | c003 => exact not_breaks_c003 h hcovers hreads
    | c004 => exact (c004_iff h hcovers hreads hpos).mpr hfeasible.apart
    | c005 => exact (c005_iff h hcovers hreads hpos).mpr hfeasible.calendar
    | c006 => exact (c006_iff h hcovers hreads).mpr hfeasible.gated
    | c007 => exact (c007_iff h hcovers hreads hfeasible.duration).mpr hfeasible.running
    | c008 => exact (c008_iff h hcovers hreads hpos).mpr hfeasible.locked
    | c009 => exact hlags.2
    | c010 => exact (c010_iff h hcovers hreads).mpr hfeasible.duration
    | c011 => exact (c011_iff h hcovers hreads hpos).mpr hfeasible.inside

end
end PlantNexus.Plan
