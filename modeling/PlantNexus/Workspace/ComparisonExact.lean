import PlantNexus.Workspace.Deltas

/-! When a version comparison is exact.

There is one delta for each operation of either version, the summary counts the deltas of each
kind, and the comparison in the opposite direction swaps additions and removals and negates the
KPI differences. A delta says `UNCHANGED` for the assignments that agree in resource, start and
end exactly when duration and start text determine the interval on the operations that stay on
their resource (`comparison_exact_iff`): occupied ends are not compared. -/
namespace PlantNexus.Workspace
open Data Domain Time

/-! ### What a comparison says -/

/-- The deltas of a comparison. -/
def documentDeltas (document : Json) : List Json :=
  match document.get "operation_deltas" with
  | .arr deltas => deltas
  | _ => []

/-- The comparison says how the operation changes. -/
def Says (document : Json) (operationId : String) (kind : ChangeKind) : Prop :=
  ∃ delta ∈ documentDeltas document, delta.get "operation_id" = .str operationId ∧
    delta.get "change_kind" = .str kind.value

/-- The metrics that are the difference of the two versions. -/
def differenceMetrics : List String :=
  ["WEIGHTED_TARDINESS", "MAKESPAN_SECONDS", "LATE_ORDER_COUNT", "SCHEDULED_OPERATION_COUNT"]

/-- The KPI deltas that are differences. -/
def differenceRows (document : Json) : List Json :=
  match document.get "kpi_deltas" with
  | .arr rows => rows.filter fun row => row.get "metric" ∈ differenceMetrics.map Json.str
  | _ => []

/-- Two numbers of opposite value. -/
def Negated (a b : Json) : Prop :=
  ∃ n d m e, a.number = some (n, d) ∧ b.number = some (m, e) ∧ n * (e : Int) = -(m * (d : Int))

/-- The row of one metric in the two directions. -/
structure ReversedRow (row reverse : Json) : Prop where
  metric : reverse.get "metric" = row.get "metric"
  base : reverse.get "base_value" = row.get "compared_value"
  compared : reverse.get "compared_value" = row.get "base_value"
  delta : Negated (row.get "delta") (reverse.get "delta")

/-- The summary counts the deltas. -/
structure CountsDeltas (summary : Json) (deltas : List Json) : Prop where
  operations : summary.get "operation_count" = .int deltas.length
  changed : summary.get "changed_operation_count" =
    .int (deltas.countP fun delta => delta.get "change_kind" ≠ .str "UNCHANGED")
  added : summary.get "added_operation_count" = .int (kindCount deltas .added)
  removed : summary.get "removed_operation_count" = .int (kindCount deltas .removed)
  resource : summary.get "resource_changed_count" = .int (kindCount deltas .resourceChange)

/-- The comparison in the opposite direction. -/
structure OppositeOf (document reverse : Json) : Prop where
  kinds : ∀ operationId kind, Says reverse operationId kind.swap ↔ Says document operationId kind
  metrics : List.Forall₂ ReversedRow (differenceRows document) (differenceRows reverse)

section
variable (floatSub : Json → Json → Option FloatValue)

/-- The comparison is exact. -/
structure ComparisonExact (baseVersion comparedVersion : Json)
    (baseSources comparedSources : WorkspaceSourceDocuments) (document : Json) : Prop where
  oneDelta : ∃ ids : List String, ids.Nodup ∧
    (documentDeltas document).map (Json.get "operation_id") = ids.map Json.str ∧
    ∀ operationId, operationId ∈ ids ↔ (∃ row, Assigns baseVersion operationId row) ∨
      ∃ row, Assigns comparedVersion operationId row
  kinds : ∀ delta ∈ documentDeltas document, ∃ kind : ChangeKind,
    delta.get "change_kind" = .str kind.value
  unchanged : ∀ operationId kind, Says document operationId kind →
    (kind = .unchanged ↔ ∃ base compared, Assigns baseVersion operationId base ∧
      Assigns comparedVersion operationId compared ∧ SameSlot base compared)
  summary : CountsDeltas (document.get "summary") (documentDeltas document)
  opposite : ∀ queryFingerprint generatedAt reverse,
    buildScheduleVersionComparison floatSub comparedVersion baseVersion comparedSources baseSources
      queryFingerprint generatedAt = .ok reverse → OppositeOf document reverse

/-- Subtraction of floats in the other order changes the sign only. -/
structure FloatSubtraction : Prop where
  opposite : ∀ a b x y, floatSub a b = some x → floatSub b a = some y →
    x.num * (y.den : Int) = -(y.num * (x.den : Int))

/-! ### Reading a comparison -/

/-- What the comparison of two versions is made from. -/
structure ComparedFrom (baseVersion comparedVersion : Json)
    (baseSources comparedSources : WorkspaceSourceDocuments) (document : Json)
    (base compared : List (String × Json)) : Prop where
  baseRows : ∀ operationId row, assignmentOf base operationId = some row ↔
    Assigns baseVersion operationId row
  comparedRows : ∀ operationId row, assignmentOf compared operationId = some row ↔
    Assigns comparedVersion operationId row
  baseSlots : ∀ operationId row, Assigns baseVersion operationId row → ∃ slot, InSlot row slot
  comparedSlots : ∀ operationId row, Assigns comparedVersion operationId row →
    ∃ slot, InSlot row slot
  deltas : document.get "operation_deltas" = .arr (operationDeltas base compared)
  summary : document.get "summary" = comparisonSummary base compared
  metrics : ∃ baseMetrics comparedMetrics rows startShift,
    kpiMetricValues baseSources = .ok baseMetrics ∧
    kpiMetricValues comparedSources = .ok comparedMetrics ∧
    kpiDeltas floatSub baseMetrics comparedMetrics startShift
      (resourceChangedCount base compared) = .ok rows ∧
    document.get "kpi_deltas" = .arr rows

theorem bound_rows {version : Json} {sources : WorkspaceSourceDocuments} {plane field : String}
    {bound : BoundWorkspaceSources} {indexed : List (String × Json)}
    (hbound : bindWorkspaceSources version sources plane = .ok bound)
    (hindex : index bound.assignments "operation_id" field = .ok indexed) :
    (∀ operationId row, assignmentOf indexed operationId = some row ↔
        Assigns version operationId row) ∧
      ∀ operationId row, Assigns version operationId row → ∃ slot, InSlot row slot := by
  have hversion := bindWorkspaceSources_ok hbound
  refine ⟨assignmentOf_iff hversion (index_ok hindex), ?_⟩
  rintro operationId row ⟨hrow, -⟩
  exact hversion.slots row (hversion.perm.mem_iff.mpr hrow)

theorem buildScheduleVersionComparison_ok {baseVersion comparedVersion : Json}
    {baseSources comparedSources : WorkspaceSourceDocuments}
    {queryFingerprint generatedAt : String} {document : Json}
    (h : buildScheduleVersionComparison floatSub baseVersion comparedVersion baseSources
      comparedSources queryFingerprint generatedAt = .ok document) :
    ∃ base compared, ComparedFrom floatSub baseVersion comparedVersion baseSources comparedSources
      document base compared := by
  obtain ⟨⟨plane, environment⟩, -, h⟩ := bind_eq_ok.mp h
  obtain ⟨baseBound, hbaseBound, h⟩ := bind_eq_ok.mp h
  obtain ⟨comparedBound, hcomparedBound, h⟩ := bind_eq_ok.mp h
  obtain ⟨baseId, -, h⟩ := bind_eq_ok.mp h
  obtain ⟨comparedId, -, h⟩ := bind_eq_ok.mp h
  obtain ⟨-, h⟩ := bind_unit_eq_ok.mp h
  obtain ⟨base, hbase, h⟩ := bind_eq_ok.mp h
  obtain ⟨compared, hcompared, h⟩ := bind_eq_ok.mp h
  obtain ⟨startShift, -, h⟩ := bind_eq_ok.mp h
  obtain ⟨baseMetrics, hbaseMetrics, h⟩ := bind_eq_ok.mp h
  obtain ⟨comparedMetrics, hcomparedMetrics, h⟩ := bind_eq_ok.mp h
  obtain ⟨rows, hrows, h⟩ := bind_eq_ok.mp h
  obtain ⟨baseReference, -, h⟩ := bind_eq_ok.mp h
  obtain ⟨comparedReference, -, h⟩ := bind_eq_ok.mp h
  obtain ⟨provenance, -, h⟩ := bind_eq_ok.mp h
  obtain ⟨_, -, h⟩ := bind_eq_ok.mp h
  have hleft := bound_rows hbaseBound hbase
  have hright := bound_rows hcomparedBound hcompared
  rw [← Except.ok.inj h]
  exact ⟨base, compared, hleft.1, hright.1, hleft.2, hright.2, rfl, rfl,
    ⟨baseMetrics, comparedMetrics, rows, startShift, hbaseMetrics, hcomparedMetrics, hrows, rfl⟩⟩

end

section
variable {floatSub : Json → Json → Option FloatValue} {baseVersion comparedVersion : Json}
  {baseSources comparedSources : WorkspaceSourceDocuments} {document : Json}
  {base compared : List (String × Json)}

theorem ComparedFrom.documentDeltas_eq (h : ComparedFrom floatSub baseVersion comparedVersion
    baseSources comparedSources document base compared) :
    documentDeltas document = operationDeltas base compared := by
  rw [documentDeltas, h.deltas]

theorem ComparedFrom.says_iff (h : ComparedFrom floatSub baseVersion comparedVersion
    baseSources comparedSources document base compared) (operationId : String)
    (kind : ChangeKind) :
    Says document operationId kind ↔ operationId ∈ comparedIds base compared ∧
      changeKind (assignmentOf base operationId) (assignmentOf compared operationId) = kind := by
  rw [Says, h.documentDeltas_eq, operationDeltas]
  constructor
  · rintro ⟨delta, hdelta, hid, hkind⟩
    obtain ⟨found, hfound, rfl⟩ := List.mem_map.mp hdelta
    obtain rfl : found = operationId := Json.str.inj hid
    exact ⟨hfound, ChangeKind.value_injective (Json.str.inj hkind)⟩
  · rintro ⟨hmem, rfl⟩
    exact ⟨_, List.mem_map_of_mem hmem, rfl, rfl⟩

theorem ComparedFrom.mem_ids_iff (h : ComparedFrom floatSub baseVersion comparedVersion
    baseSources comparedSources document base compared) (operationId : String) :
    operationId ∈ comparedIds base compared ↔ (∃ row, Assigns baseVersion operationId row) ∨
      ∃ row, Assigns comparedVersion operationId row := by
  rw [mem_comparedIds, Option.ne_none_iff_exists', Option.ne_none_iff_exists']
  simp only [h.baseRows, h.comparedRows]

theorem ComparedFrom.countsDeltas (h : ComparedFrom floatSub baseVersion comparedVersion
    baseSources comparedSources document base compared) :
    CountsDeltas (document.get "summary") (documentDeltas document) := by
  rw [h.summary, h.documentDeltas_eq]
  refine ⟨?_, rfl, rfl, rfl, ?_⟩
  · show Json.int _ = Json.int _
    rw [operationDeltas, List.length_map]
  · show Json.int _ = Json.int _
    rw [resourceChangedCount_eq]

/-- The unchanged deltas are those of the rows in one slot exactly if the slots are determined. -/
theorem ComparedFrom.unchanged_iff (h : ComparedFrom floatSub baseVersion comparedVersion
    baseSources comparedSources document base compared) :
    (∀ operationId kind, Says document operationId kind →
      (kind = .unchanged ↔ ∃ left right, Assigns baseVersion operationId left ∧
        Assigns comparedVersion operationId right ∧ SameSlot left right)) ↔
    ∀ operationId left right, Assigns baseVersion operationId left →
      Assigns comparedVersion operationId right → SlotDetermined left right := by
  constructor
  · intro hall operationId left right hleft hright
    obtain ⟨slot, hslot⟩ := h.baseSlots operationId left hleft
    obtain ⟨slot', hslot'⟩ := h.comparedSlots operationId right hright
    have hbase := (h.baseRows operationId left).mpr hleft
    have hcompared := (h.comparedRows operationId right).mpr hright
    have hsays := (h.says_iff operationId (changeKind (some left) (some right))).mpr
      ⟨(h.mem_ids_iff operationId).mpr (.inl ⟨left, hleft⟩), by rw [hbase, hcompared]⟩
    refine (unchanged_iff_sameSlot hslot hslot').mp ((hall operationId _ hsays).trans ?_)
    constructor
    · rintro ⟨other, other', hother, hother', hsame⟩
      obtain rfl := Option.some.inj (hbase.symm.trans ((h.baseRows _ _).mpr hother))
      obtain rfl := Option.some.inj (hcompared.symm.trans ((h.comparedRows _ _).mpr hother'))
      exact hsame
    · intro hsame
      exact ⟨left, right, hleft, hright, hsame⟩
  · intro hdetermined operationId kind hsays
    obtain ⟨-, rfl⟩ := (h.says_iff operationId kind).mp hsays
    constructor
    · intro hkind
      cases hbase : assignmentOf base operationId with
      | none => simp [changeKind, hbase] at hkind
      | some left =>
        cases hcompared : assignmentOf compared operationId with
        | none => simp [changeKind, hbase, hcompared] at hkind
        | some right =>
          rw [hbase, hcompared] at hkind
          have hleft := (h.baseRows _ _).mp hbase
          have hright := (h.comparedRows _ _).mp hcompared
          obtain ⟨slot, hslot⟩ := h.baseSlots operationId left hleft
          obtain ⟨slot', hslot'⟩ := h.comparedSlots operationId right hright
          exact ⟨left, right, hleft, hright, ((unchanged_iff_sameSlot hslot hslot').mpr
            (hdetermined _ _ _ hleft hright)).mp hkind⟩
    · rintro ⟨left, right, hleft, hright, hsame⟩
      rw [(h.baseRows _ _).mpr hleft, (h.comparedRows _ _).mpr hright]
      obtain ⟨slot, hslot⟩ := h.baseSlots operationId left hleft
      obtain ⟨slot', hslot'⟩ := h.comparedSlots operationId right hright
      exact ((unchanged_iff_sameSlot hslot hslot').mpr (hdetermined _ _ _ hleft hright)).mpr hsame

/-! ### The opposite direction -/

theorem difference_opposite (hsub : FloatSubtraction floatSub) {a b x y : Json}
    (hx : difference floatSub a b = .ok x) (hy : difference floatSub b a = .ok y) :
    Negated x y := by
  have hfloat : ∀ {a b x : Json}, (∀ n m, ¬(a = .int n ∧ b = .int m)) →
      difference floatSub a b = .ok x → ∃ v, floatSub a b = some v ∧ x = .float v := by
    intro a b x hints hx
    unfold difference at hx
    split at hx
    · rename_i n m
      exact absurd ⟨rfl, rfl⟩ (hints n m)
    · split at hx
      · rename_i v hv
        exact ⟨v, hv, (Except.ok.inj hx).symm⟩
      · cases hx
  by_cases hints : ∃ n m, a = .int n ∧ b = .int m
  · obtain ⟨n, m, rfl, rfl⟩ := hints
    rw [← Except.ok.inj hx, ← Except.ok.inj hy]
    refine ⟨n - m, 1, m - n, 1, rfl, rfl, ?_⟩
    ring
  · push Not at hints
    obtain ⟨v, hv, rfl⟩ := hfloat (fun n m hboth => hints n m hboth.1 hboth.2) hx
    obtain ⟨w, hw, rfl⟩ := hfloat (fun n m hboth => hints m n hboth.2 hboth.1) hy
    exact ⟨v.num, v.den, w.num, w.den, rfl, rfl, hsub.opposite a b v w hv hw⟩

theorem metricDeltas_opposite (hsub : FloatSubtraction floatSub) {bases others : List (String × Json)}
    {rows reverse : List Json} (hnames : bases.map Prod.fst = others.map Prod.fst)
    (hrows : metricDeltas floatSub bases others = .ok rows)
    (hreverse : metricDeltas floatSub others bases = .ok reverse) :
    List.Forall₂ ReversedRow rows reverse ∧
      ∀ row ∈ rows, ∃ name ∈ bases.map Prod.fst, row.get "metric" = .str name := by
  induction bases generalizing others rows reverse with
  | nil =>
    obtain rfl : others = [] := List.map_eq_nil_iff.mp hnames.symm
    rw [← Except.ok.inj hrows, ← Except.ok.inj hreverse]
    exact ⟨.nil, fun _ hmem => absurd hmem List.not_mem_nil⟩
  | cons entry bases ih =>
    cases others with
    | nil => cases hnames
    | cons other others =>
      obtain ⟨metric, value⟩ := entry
      obtain ⟨metric', value'⟩ := other
      obtain ⟨rfl, htail⟩ := List.cons.inj hnames
      obtain ⟨delta, hdelta, hrows⟩ := bind_eq_ok.mp hrows
      obtain ⟨more, hmore, hrows⟩ := bind_eq_ok.mp hrows
      obtain ⟨delta', hdelta', hreverse⟩ := bind_eq_ok.mp hreverse
      obtain ⟨more', hmore', hreverse⟩ := bind_eq_ok.mp hreverse
      obtain ⟨hall, hmetrics⟩ := ih htail hmore hmore'
      rw [← Except.ok.inj hrows, ← Except.ok.inj hreverse]
      refine ⟨.cons ⟨rfl, rfl, rfl, difference_opposite hsub hdelta hdelta'⟩ hall, ?_⟩
      intro row hrow
      rcases List.mem_cons.mp hrow with rfl | hrow
      · exact ⟨metric, List.mem_cons_self, rfl⟩
      · obtain ⟨name, hname, heq⟩ := hmetrics row hrow
        exact ⟨name, List.mem_cons_of_mem _ hname, heq⟩

theorem kpiMetricValues_ok {sources : WorkspaceSourceDocuments} {metrics : List (String × Json)}
    (h : kpiMetricValues sources = .ok metrics) : metrics.map Prod.fst = differenceMetrics := by
  obtain ⟨_, -, h⟩ := bind_eq_ok.mp h
  obtain ⟨_, -, h⟩ := bind_eq_ok.mp h
  obtain ⟨_, -, h⟩ := bind_eq_ok.mp h
  obtain ⟨_, -, h⟩ := bind_eq_ok.mp h
  obtain ⟨_, -, h⟩ := bind_eq_ok.mp h
  obtain ⟨_, -, h⟩ := bind_eq_ok.mp h
  rw [← Except.ok.inj h]
  rfl

/-- The differences are the rows in front of the two measures. -/
theorem differenceRows_eq {rows deltas : List Json} {startShift : Int} {resourceChanged : Nat}
    (hdeltas : ∀ row ∈ deltas, ∃ name ∈ differenceMetrics, row.get "metric" = .str name)
    (hrows : rows = deltas ++
      [kpiDelta "START_SHIFT_SECONDS" (.int 0) (.int startShift) (.int startShift),
        kpiDelta "RESOURCE_CHANGED_COUNT" (.int 0) (.int resourceChanged) (.int resourceChanged)])
    (hdocument : document.get "kpi_deltas" = .arr rows) : differenceRows document = deltas := by
  rw [differenceRows, hdocument, hrows]
  show List.filter _ _ = _
  rw [List.filter_append, List.filter_eq_self.mpr ?_]
  · have hrest : ∀ startShift resourceChanged : Json,
        [kpiDelta "START_SHIFT_SECONDS" (.int 0) startShift startShift,
          kpiDelta "RESOURCE_CHANGED_COUNT" (.int 0) resourceChanged resourceChanged].filter
            (fun row => row.get "metric" ∈ differenceMetrics.map Json.str) = [] := by
      intro startShift resourceChanged
      refine List.filter_eq_nil_iff.mpr ?_
      intro row hrow
      rw [decide_eq_true_iff, List.mem_map]
      rintro ⟨name, hname, heq⟩
      rcases List.mem_pair.mp hrow with rfl | rfl
      · rw [Json.str.inj heq] at hname
        exact absurd hname (by decide)
      · rw [Json.str.inj heq] at hname
        exact absurd hname (by decide)
    rw [hrest, List.append_nil]
  · intro row hrow
    obtain ⟨name, hname, heq⟩ := hdeltas row hrow
    rw [decide_eq_true_iff, heq]
    exact List.mem_map_of_mem hname

theorem ComparedFrom.opposite (h : ComparedFrom floatSub baseVersion comparedVersion
    baseSources comparedSources document base compared) (hsub : FloatSubtraction floatSub)
    (hbase : baseVersion.WellFormed) (hcompared : comparedVersion.WellFormed)
    {reverse : Json} {compared' base' : List (String × Json)}
    (h' : ComparedFrom floatSub comparedVersion baseVersion comparedSources baseSources reverse
      compared' base') : OppositeOf document reverse := by
  have hrow : ∀ version : Json, version.WellFormed → ∀ operationId row,
      Assigns version operationId row → row.WellFormed := by
    rintro version hversion operationId row ⟨hmem, -⟩
    have hrows := Json.wellFormed_get (Json.wellFormed_get hversion "content") "assignments"
    unfold versionAssignments at hmem
    split at hmem
    · rename_i rows heq
      rw [heq] at hrows
      exact Json.wellFormed_item hrows row hmem
    · exact absurd hmem List.not_mem_nil
  have hsame : ∀ operationId, assignmentOf base' operationId = assignmentOf base operationId ∧
      assignmentOf compared' operationId = assignmentOf compared operationId := by
    intro operationId
    constructor
    · ext row
      rw [h'.comparedRows, h.baseRows]
    · ext row
      rw [h'.baseRows, h.comparedRows]
  refine ⟨?_, ?_⟩
  · intro operationId kind
    rw [h.says_iff, h'.says_iff, mem_comparedIds, mem_comparedIds, (hsame operationId).1,
      (hsame operationId).2, or_comm]
    refine and_congr_right fun hone => ?_
    rw [changeKind_swap
      (fun row hget => hrow _ hbase operationId row ((h.baseRows _ _).mp hget))
      (fun row hget => hrow _ hcompared operationId row ((h.comparedRows _ _).mp hget)) hone]
    constructor
    · intro heq
      rw [← ChangeKind.swap_swap (changeKind _ _), heq, ChangeKind.swap_swap]
    · intro heq
      rw [heq]
  · obtain ⟨baseMetrics, comparedMetrics, rows, shift, hbases, hothers, hrows, hget⟩ := h.metrics
    obtain ⟨others, bases, rows', shift', hothers', hbases', hrows', hget'⟩ := h'.metrics
    obtain rfl := Except.ok.inj (hbases.symm.trans hbases')
    obtain rfl := Except.ok.inj (hothers.symm.trans hothers')
    obtain ⟨deltas, hdeltas, hrows⟩ := bind_eq_ok.mp hrows
    obtain ⟨deltas', hdeltas', hrows'⟩ := bind_eq_ok.mp hrows'
    have hnames := kpiMetricValues_ok hbases
    have hnames' := kpiMetricValues_ok hothers
    obtain ⟨hall, hmetrics⟩ := metricDeltas_opposite hsub (hnames.trans hnames'.symm) hdeltas
      hdeltas'
    obtain ⟨-, hmetrics'⟩ := metricDeltas_opposite hsub (hnames'.trans hnames.symm) hdeltas'
      hdeltas
    rw [hnames] at hmetrics
    rw [hnames'] at hmetrics'
    rw [differenceRows_eq hmetrics (Except.ok.inj hrows).symm hget,
      differenceRows_eq hmetrics' (Except.ok.inj hrows').symm hget']
    exact hall

/-- **A comparison is exact** if and only if, on every operation of both versions that stays on its
resource, duration and start text agree exactly when start and end do. -/
theorem comparison_exact_iff {queryFingerprint generatedAt : String}
    (hsub : FloatSubtraction floatSub)
    (hbase : baseVersion.WellFormed) (hcompared : comparedVersion.WellFormed)
    (h : buildScheduleVersionComparison floatSub baseVersion comparedVersion baseSources
      comparedSources queryFingerprint generatedAt = .ok document) :
    ComparisonExact floatSub baseVersion comparedVersion baseSources comparedSources document ↔
      ∀ operationId left right, Assigns baseVersion operationId left →
        Assigns comparedVersion operationId right → SlotDetermined left right := by
  obtain ⟨base, compared, hfrom⟩ := buildScheduleVersionComparison_ok floatSub h
  constructor
  · intro hexact
    exact hfrom.unchanged_iff.mp hexact.unchanged
  · intro hdetermined
    refine ⟨⟨comparedIds base compared, comparedIds_nodup _ _, ?_, hfrom.mem_ids_iff⟩, ?_,
      hfrom.unchanged_iff.mpr hdetermined, hfrom.countsDeltas, ?_⟩
    · rw [hfrom.documentDeltas_eq, operationDeltas, List.map_map]
      rfl
    · intro delta hdelta
      rw [hfrom.documentDeltas_eq] at hdelta
      obtain ⟨operationId, -, rfl⟩ := List.mem_map.mp hdelta
      exact ⟨_, rfl⟩
    · intro queryFingerprint generatedAt reverse hreverse
      obtain ⟨compared', base', hfrom'⟩ := buildScheduleVersionComparison_ok floatSub hreverse
      exact hfrom.opposite hsub hbase hcompared hfrom'

end

/-! ### A version solved on another tick -/

/-- Ninety seconds of processing on one resource. -/
def demoAssignment (endAt : String) : Json :=
  .obj [("duration_seconds", .int 90), ("end_at_utc", .str endAt), ("operation_id", .str "OP1"),
    ("resource_id", .str "R1"), ("start_at_utc", .str "2026-01-01T00:00:00Z")]

theorem demoAssignment_wellFormed (endAt : String) : (demoAssignment endAt).WellFormed := by
  refine ⟨?_, trivial, trivial, trivial, trivial, trivial, trivial⟩
  show ["duration_seconds", "end_at_utc", "operation_id", "resource_id", "start_at_utc"].Nodup
  decide

theorem clone_demoAssignment (endAt : String) :
    clone (demoAssignment endAt) = demoAssignment endAt := by
  rw [clone, demoAssignment, Json.canonical]
  congr 1
  refine sortByKey_eq_self ?_
  show List.Pairwise _ _
  refine List.pairwise_map.mp (?_ : List.Pairwise (· ≤ ·)
    ["duration_seconds", "end_at_utc", "operation_id", "resource_id", "start_at_utc"])
  decide

def demoSnapshot : Json :=
  .obj [("snapshot_id", .str "SNAP1"), ("snapshot_hash", .str "sha256:snapshot"),
    ("synthetic", .bool false),
    ("import_quality_report", .obj [("report_id", .str "QR1"), ("status", .str "PASS")])]

def demoProblem : Json :=
  .obj [("snapshot_id", .str "SNAP1"), ("problem_hash", .str "sha256:problem"),
    ("operation_instances", .arr [.obj [("operation_id", .str "OP1")]]),
    ("resources", .arr [.obj [("resource_id", .str "R1")]]), ("operation_locks", .arr [])]

def demoProblemReference : Json :=
  .obj [("snapshot_id", .str "SNAP1"), ("problem_hash", .str "sha256:problem")]

def demoSolution (endAt : String) : Json :=
  .obj [("solution_id", .str "SOL1"), ("problem", demoProblemReference),
    ("assignments", .arr [demoAssignment endAt])]

def demoSolverReport (endAt : String) : Json :=
  .obj [("report_id", .str "SR1"), ("planning_run_id", .str "RUN1"),
    ("problem", demoProblemReference),
    ("solution", .obj [("solution_id", .str "SOL1"),
      ("solution_fingerprint", .str (contractFingerprint (demoSolution endAt)))]),
    ("provenance", .obj [("code_commit", .str "commit")])]

def demoValidationReport : Json :=
  .obj [("problem_hash", .str "sha256:problem"), ("status", .str "PASS"),
    ("hard_violation_count", .int 0)]

def demoQualityReport : Json := .obj [("report_id", .str "QR1"), ("status", .str "PASS")]

def demoKpi (endAt : String) (busy : Int) : Json :=
  .obj [("kpi_id", .str "KPI1"), ("planning_run_id", .str "RUN1"), ("synthetic", .bool false),
    ("inputs", .obj
      [("snapshot", .obj [("snapshot_id", .str "SNAP1"),
        ("snapshot_hash", .str "sha256:snapshot")]),
        ("problem", .obj [("problem_hash", .str "sha256:problem")]),
        ("solution", .obj [("solution_id", .str "SOL1"),
          ("solution_fingerprint", .str (contractFingerprint (demoSolution endAt)))]),
        ("validation_report", .obj [("validation_report_fingerprint",
          .str (contractFingerprint demoValidationReport))]),
        ("solver_report", .obj [("report_id", .str "SR1"), ("solver_report_fingerprint",
          .str (contractFingerprint (demoSolverReport endAt)))]),
        ("import_quality_report", .obj [("report_id", .str "QR1"),
          ("import_quality_report_fingerprint",
            .str (contractFingerprint demoQualityReport))])]),
    ("delivery", .obj [("priority_weighted_tardiness_seconds", .int 0),
      ("late_order_count", .int 0)]),
    ("planning", .obj [("makespan_seconds", .int busy), ("scheduled_operation_count", .int 1)]),
    ("resources", .arr [.obj [("resource_id", .str "R1"), ("planned_busy_seconds", .int busy)]])]

def demoSources (endAt : String) (busy : Int) : WorkspaceSourceDocuments :=
  ⟨demoSnapshot, demoProblem, demoSolution endAt, demoSolverReport endAt, demoValidationReport,
    demoQualityReport, demoKpi endAt busy⟩

def demoReference (artifactId fingerprint version : String) : Json :=
  .obj [("artifact_id", .str artifactId), ("fingerprint", .str fingerprint),
    ("document_version", .str version)]

def demoValidationReference : Json :=
  demoReference
    ("validation-report-" ++ removeFront (contractFingerprint demoValidationReport) "sha256:")
    (contractFingerprint demoValidationReport) "validation-report.v2"

def demoLineage (endAt : String) (busy : Int) : Json :=
  .obj [("snapshot", demoReference "SNAP1" "sha256:snapshot" "planning-snapshot.v2"),
    ("problem", demoReference "planning-problem-problem" "sha256:problem" "planning-problem.v2"),
    ("planning_solution", demoReference "SOL1" (contractFingerprint (demoSolution endAt))
      "planning-solution.v1"),
    ("validation_report", demoValidationReference),
    ("kpi", demoReference "KPI1" (contractFingerprint (demoKpi endAt busy)) "kpi.v2"),
    ("solver_report", demoReference "SR1" (contractFingerprint (demoSolverReport endAt))
      "solver-report.v1"),
    ("planning_run_id", .str "RUN1"), ("code_commit", .str "commit")]

def demoContent (endAt : String) : Json :=
  .obj [("assignments", .arr [demoAssignment endAt]), ("locks", .arr [])]

def demoVersion (versionId endAt : String) (busy : Int) : Json :=
  .obj [("schedule_version_version", .str "schedule-version.v1"),
    ("schema_set_version", .str "2.6.0"), ("canonicalization_version", .str "canonical-json.v1"),
    ("schedule_version_id", .str versionId), ("data_plane", .str "PRODUCTION"),
    ("environment", .str "PRODUCTION"), ("synthetic", .bool false),
    ("state", .str "READY_FOR_REVIEW"), ("content", demoContent endAt),
    ("content_fingerprint", .str (contractFingerprint (demoContent endAt))),
    ("lineage", demoLineage endAt busy),
    ("validation", .obj [("validation_report", demoValidationReference)])]

theorem requireEqual_text (text field : String) :
    requireEqual (.str text) (.str text) field = .ok () :=
  (require_eq_ok _ _ _).mpr ((Json.pyEq_str _ _).mpr rfl)

theorem requireReference_ok {reference : Json} {field : String}
    {expected : List (String × Json)}
    (h : ∀ e ∈ expected, ∃ text, e.2 = .str text ∧ reference.get e.1 = .str text) :
    requireReference reference field expected = .ok () := by
  refine (forEach_eq_ok_iff (fun e => (reference.get e.1).pyEq e.2 = true) _ _ ?_).mpr ?_
  · intro e _ i
    exact require_eq_ok _ _ _
  · intro e he
    obtain ⟨text, hexpected, hget⟩ := h e he
    rw [hexpected, hget, Json.pyEq_str]

/-- A mapping whose members state these texts. -/
theorem checkedReference_ok {holder : Json} {front : String}
    {expected : String × List (String × Json)}
    (hobj : (holder.get expected.1).isObj = true)
    (h : ∀ e ∈ expected.2, ∃ text, e.2 = .str text ∧ (holder.get expected.1).get e.1 = .str text) :
    (do
      let reference ← mapping (holder.get expected.1) s!"{front}{expected.1}"
      requireReference reference s!"{front}{expected.1}" expected.2 : Read Unit) = .ok () :=
  bind_eq_ok.mpr ⟨_, bind_unit_eq_ok.mpr ⟨(require_eq_ok _ _ _).mpr hobj, rfl⟩,
    requireReference_ok h⟩

/-- A step that returns, in front of steps that do. -/
theorem exists_bind_ok {α β : Type} {x : Read α} {f : α → Read β} (a : α) (hx : x = .ok a)
    (hf : ∃ b, f a = .ok b) : ∃ b, (x >>= f) = .ok b := by
  obtain ⟨b, hb⟩ := hf
  exact ⟨b, bind_eq_ok.mpr ⟨a, hx, hb⟩⟩

theorem demoSources_required (endAt : String) (busy : Int) :
    ∃ fingerprint, requireWorkspaceSources (demoSources endAt busy) = .ok fingerprint := by
  refine exists_bind_ok "SNAP1" rfl (exists_bind_ok "sha256:snapshot" rfl ?_)
  refine exists_bind_ok "sha256:problem" rfl (exists_bind_ok "SOL1" rfl ?_)
  refine exists_bind_ok () rfl (exists_bind_ok demoProblemReference rfl ?_)
  refine exists_bind_ok () rfl (exists_bind_ok demoProblemReference rfl ?_)
  refine exists_bind_ok () rfl (exists_bind_ok () rfl ?_)
  refine exists_bind_ok _ rfl (exists_bind_ok () rfl ?_)
  refine exists_bind_ok () (requireEqual_text _ _) (exists_bind_ok _ rfl ?_)
  refine exists_bind_ok () rfl (exists_bind_ok _ rfl ?_)
  refine exists_bind_ok () ?_ (exists_bind_ok () rfl ⟨_, rfl⟩)
  refine bind_unit_eq_ok.mpr ⟨rfl, bind_unit_eq_ok.mpr ⟨rfl, ?_⟩⟩
  refine bind_unit_eq_ok.mpr ⟨?_, bind_unit_eq_ok.mpr ⟨?_, bind_unit_eq_ok.mpr ⟨?_, ?_⟩⟩⟩
  · exact checkedReference_ok rfl (List.forall_mem_cons.mpr ⟨⟨_, rfl, rfl⟩, List.forall_mem_singleton.mpr ⟨_, rfl, rfl⟩⟩)
  · exact checkedReference_ok rfl (List.forall_mem_singleton.mpr ⟨_, rfl, rfl⟩)
  · exact checkedReference_ok rfl (List.forall_mem_cons.mpr ⟨⟨_, rfl, rfl⟩, List.forall_mem_singleton.mpr ⟨_, rfl, rfl⟩⟩)
  · exact bind_unit_eq_ok.mpr ⟨checkedReference_ok rfl (List.forall_mem_cons.mpr ⟨⟨_, rfl, rfl⟩, List.forall_mem_singleton.mpr ⟨_, rfl, rfl⟩⟩), rfl⟩

theorem demoVersion_accepted (versionId endAt : String) (busy : Int) :
    requireWorkspaceDocument (demoVersion versionId endAt busy) = .ok "schedule-version.v1" := by
  refine bind_eq_ok.mpr ⟨"schedule-version.v1", rfl, bind_unit_eq_ok.mpr ⟨rfl, ?_⟩⟩
  refine bind_unit_eq_ok.mpr ⟨rfl, bind_unit_eq_ok.mpr ⟨?_, bind_unit_eq_ok.mpr ⟨rfl, rfl⟩⟩⟩
  refine bind_unit_eq_ok.mpr ⟨rfl, bind_eq_ok.mpr ⟨_, rfl, bind_unit_eq_ok.mpr ⟨?_, ?_⟩⟩⟩
  · exact (require_eq_ok _ _ _).mpr ((Json.pyEq_str _ _).mpr rfl)
  · refine bind_eq_ok.mpr ⟨_, rfl, bind_eq_ok.mpr ⟨_, rfl, ?_⟩⟩
    refine (require_eq_ok _ _ _).mpr (Json.pyEq_refl demoValidationReference ?_)
    refine ⟨?_, trivial, trivial, trivial, trivial⟩
    show ["artifact_id", "fingerprint", "document_version"].Nodup
    decide

theorem demoLineage_checked (endAt : String) (busy : Int) :
    checkLineage (demoLineage endAt busy) (demoSources endAt busy) = .ok () := by
  refine bind_eq_ok.mpr ⟨_, rfl, bind_unit_eq_ok.mpr ⟨?_, ?_⟩⟩
  · refine bind_unit_eq_ok.mpr ⟨rfl, bind_unit_eq_ok.mpr ⟨rfl, ?_⟩⟩
    refine bind_unit_eq_ok.mpr ⟨?_, bind_unit_eq_ok.mpr ⟨?_, bind_unit_eq_ok.mpr ⟨?_, ?_⟩⟩⟩
    · exact checkedReference_ok rfl (List.forall_mem_cons.mpr ⟨⟨_, rfl, rfl⟩, List.forall_mem_cons.mpr ⟨⟨_, rfl, rfl⟩,
      List.forall_mem_singleton.mpr ⟨_, rfl, rfl⟩⟩⟩)
    · exact checkedReference_ok rfl (List.forall_mem_cons.mpr ⟨⟨_, rfl, rfl⟩, List.forall_mem_cons.mpr ⟨⟨_, rfl, rfl⟩,
      List.forall_mem_singleton.mpr ⟨_, rfl, rfl⟩⟩⟩)
    · exact checkedReference_ok rfl (List.forall_mem_cons.mpr ⟨⟨_, rfl, rfl⟩, List.forall_mem_cons.mpr ⟨⟨_, rfl, rfl⟩,
      List.forall_mem_singleton.mpr ⟨_, rfl, rfl⟩⟩⟩)
    · exact bind_unit_eq_ok.mpr ⟨checkedReference_ok rfl (List.forall_mem_cons.mpr ⟨⟨_, rfl, rfl⟩, List.forall_mem_cons.mpr ⟨⟨_, rfl, rfl⟩,
      List.forall_mem_singleton.mpr ⟨_, rfl, rfl⟩⟩⟩), rfl⟩
  · refine bind_eq_ok.mpr ⟨"RUN1", rfl, bind_unit_eq_ok.mpr ⟨rfl, bind_unit_eq_ok.mpr ⟨rfl, ?_⟩⟩⟩
    exact bind_eq_ok.mpr ⟨_, rfl, bind_unit_eq_ok.mpr ⟨rfl, rfl⟩⟩

/-- The occupancy of the row is the one that the KPI states. -/
def Occupies (endAt : String) (busy : Int) : Prop :=
  assignmentBusySeconds (demoAssignment endAt) = .ok busy

def demoBound (versionId endAt : String) (busy : Int) : BoundWorkspaceSources :=
  ⟨contractFingerprint (.obj [("read_model_version", .str "workspace-read-model.v1"),
      ("schedule_version_id", .str versionId),
      ("content_fingerprint", .str (contractFingerprint (demoContent endAt))),
      ("lineage", demoLineage endAt busy)]),
    [demoAssignment endAt], [("OP1", demoAssignment endAt)],
    [.obj [("operation_id", .str "OP1")]], [("OP1", .obj [("operation_id", .str "OP1")])],
    [.obj [("resource_id", .str "R1")]], [("R1", .obj [("resource_id", .str "R1")])],
    [("R1", .obj [("resource_id", .str "R1"), ("planned_busy_seconds", .int busy)])]⟩

theorem demoVersion_bound {versionId endAt : String} {busy : Int} (h : Occupies endAt busy) :
    bindWorkspaceSources (demoVersion versionId endAt busy) (demoSources endAt busy)
      "PRODUCTION" = .ok (demoBound versionId endAt busy) := by
  obtain ⟨fingerprint, hrequired⟩ := demoSources_required endAt busy
  have hbusy : busyFrom (demoBound versionId endAt busy).operationsById
      (demoBound versionId endAt busy).resourcesById [("R1", 0)] [demoAssignment endAt] =
        .ok [("R1", busy)] := by
    refine bind_eq_ok.mpr ⟨"OP1", rfl, bind_eq_ok.mpr ⟨"R1", rfl, bind_unit_eq_ok.mpr ⟨rfl, ?_⟩⟩⟩
    refine bind_eq_ok.mpr ⟨busy, h, ?_⟩
    show Except.ok [("R1", 0 + busy)] = _
    rw [zero_add]
  have hchecked : checkBusy (demoBound versionId endAt busy).kpiResourcesById [("R1", busy)] =
      .ok () := by
    refine bind_unit_eq_ok.mpr ⟨(require_eq_ok _ _ _).mpr ?_, rfl⟩
    exact Json.pyEq_refl (.int busy) trivial
  have hcontents : requireEqual (.arr ([demoAssignment endAt].map clone))
      (.arr ([demoAssignment endAt].map clone)) "schedule_version.content.assignments" =
        .ok () := by
    rw [List.map_singleton, clone_demoAssignment]
    exact (require_eq_ok _ _ _).mpr (Json.pyEq_refl _ ⟨demoAssignment_wellFormed endAt, trivial⟩)
  refine bind_eq_ok.mpr ⟨fingerprint, hrequired, ?_⟩
  refine bind_eq_ok.mpr ⟨_, (orReject_eq_ok _ _ _).mpr (demoVersion_accepted _ _ _), ?_⟩
  refine bind_unit_eq_ok.mpr ⟨rfl, bind_eq_ok.mpr ⟨demoLineage endAt busy, rfl, ?_⟩⟩
  refine bind_unit_eq_ok.mpr ⟨demoLineage_checked endAt busy, ?_⟩
  refine bind_eq_ok.mpr ⟨demoContent endAt, rfl, bind_eq_ok.mpr ⟨[demoAssignment endAt], rfl, ?_⟩⟩
  refine bind_eq_ok.mpr ⟨[demoAssignment endAt], rfl, ?_⟩
  refine bind_eq_ok.mpr ⟨[demoAssignment endAt], rfl, ?_⟩
  refine bind_eq_ok.mpr ⟨[demoAssignment endAt], rfl, bind_unit_eq_ok.mpr ⟨hcontents, ?_⟩⟩
  refine bind_eq_ok.mpr ⟨[], rfl, bind_eq_ok.mpr ⟨[], rfl, bind_unit_eq_ok.mpr ⟨rfl, ?_⟩⟩⟩
  refine bind_eq_ok.mpr ⟨_, rfl, bind_eq_ok.mpr ⟨_, rfl, ?_⟩⟩
  refine bind_eq_ok.mpr ⟨_, rfl, bind_eq_ok.mpr ⟨_, rfl, ?_⟩⟩
  refine bind_eq_ok.mpr ⟨_, rfl, bind_eq_ok.mpr ⟨_, rfl, bind_eq_ok.mpr ⟨_, rfl, ?_⟩⟩⟩
  refine bind_eq_ok.mpr ⟨demoKpi endAt busy, rfl, bind_eq_ok.mpr ⟨_, rfl, ?_⟩⟩
  refine bind_eq_ok.mpr ⟨_, rfl, bind_eq_ok.mpr ⟨_, hbusy, ?_⟩⟩
  exact bind_unit_eq_ok.mpr ⟨hchecked, rfl⟩

/-- Subtraction without rounding. -/
def exactDifference (a b : Json) : Option FloatValue :=
  match a.number, b.number with
  | some (n, d), some (m, e) => some ⟨"", n * e - m * d, d * e⟩
  | _, _ => none

theorem exactDifference_subtracts : FloatSubtraction exactDifference := by
  refine ⟨?_⟩
  intro a b x y hx hy
  unfold exactDifference at hx hy
  cases ha : a.number with
  | none => simp [ha] at hx
  | some left =>
    cases hb : b.number with
    | none => simp [ha, hb] at hx
    | some right =>
      rw [ha, hb] at hx hy
      rw [← Option.some.inj hx, ← Option.some.inj hy]
      push_cast
      ring

theorem demo_parses :
    (∃ instant, parseUtcInstant "2026-01-02T00:00:00Z" = .ok instant) ∧
      ∃ instant, parseUtcInstant "2026-01-01T00:00:00Z" = .ok instant := by
  have hparses : ∀ text, (parseUtcInstant text).toOption.isSome = true →
      ∃ instant, parseUtcInstant text = .ok instant := by
    intro text hsome
    cases hparse : parseUtcInstant text with
    | ok instant => exact ⟨instant, rfl⟩
    | error message =>
      rw [hparse] at hsome
      cases hsome
  exact ⟨hparses _ (by decide +kernel), hparses _ (by decide +kernel)⟩

theorem demoShift (endAt endAt' : String) :
    ∃ shift, startShiftSeconds [("OP1", demoAssignment endAt)] [("OP1", demoAssignment endAt')] =
      .ok shift := by
  obtain ⟨instant, hinstant⟩ := demo_parses.2
  have hbetween : secondsBetween (.str "2026-01-01T00:00:00Z") (.str "2026-01-01T00:00:00Z") =
      .ok (wholeSeconds (instant.sub instant)).natAbs := by
    rw [secondsBetween, hinstant]
  refine exists_bind_ok _ (bind_eq_ok.mpr ⟨_, hbetween, rfl⟩) ⟨_, rfl⟩

theorem demoVersions_compared {endAt endAt' : String} {busy busy' : Int}
    (h : Occupies endAt busy) (h' : Occupies endAt' busy') :
    ∃ document, buildScheduleVersionComparison exactDifference (demoVersion "SV1" endAt busy)
      (demoVersion "SV2" endAt' busy') (demoSources endAt busy) (demoSources endAt' busy')
      "sha256:query" "2026-01-02T00:00:00Z" = .ok document := by
  have hreference : ∀ versionId endAt busy, versionId ≠ "" →
      versionReference (demoVersion versionId endAt busy) =
      .ok (.obj [("schedule_version_id", .str versionId), ("state", .str "READY_FOR_REVIEW"),
        ("content_fingerprint", .str (contractFingerprint (demoContent endAt)))]) := by
    intro versionId endAt busy hid
    refine bind_eq_ok.mpr ⟨versionId,
      bind_unit_eq_ok.mpr ⟨(require_eq_ok _ _ _).mpr hid, rfl⟩, bind_eq_ok.mpr ⟨_, rfl, ?_⟩⟩
    refine bind_eq_ok.mpr ⟨contractFingerprint (demoContent endAt), bind_unit_eq_ok.mpr
      ⟨(require_eq_ok _ _ _).mpr (contractFingerprint_ne_empty _), rfl⟩, rfl⟩
  obtain ⟨instant, hinstant⟩ := demo_parses.1
  obtain ⟨shift, hshift⟩ := demoShift endAt endAt'
  have hcomparable : checkComparable (demoVersion "SV1" endAt busy)
      (demoVersion "SV2" endAt' busy') "2026-01-02T00:00:00Z" =
        .ok ("PRODUCTION", "PRODUCTION") := by
    refine bind_unit_eq_ok.mpr ⟨rfl, bind_eq_ok.mpr
      ⟨instant, (orReject_eq_ok _ _ _).mpr hinstant, ?_⟩⟩
    refine bind_eq_ok.mpr ⟨"PRODUCTION", rfl, bind_unit_eq_ok.mpr ⟨rfl, ?_⟩⟩
    exact bind_eq_ok.mpr ⟨"PRODUCTION", rfl, bind_unit_eq_ok.mpr ⟨rfl, rfl⟩⟩
  refine exists_bind_ok _ hcomparable ?_
  refine exists_bind_ok _ (demoVersion_bound h) (exists_bind_ok _ (demoVersion_bound h') ?_)
  refine exists_bind_ok "SV1" rfl (exists_bind_ok "SV2" rfl (exists_bind_ok () rfl ?_))
  refine exists_bind_ok [("OP1", demoAssignment endAt)] rfl ?_
  refine exists_bind_ok [("OP1", demoAssignment endAt')] rfl ?_
  refine exists_bind_ok shift hshift (exists_bind_ok _ rfl (exists_bind_ok _ rfl ?_))
  refine exists_bind_ok _ rfl (exists_bind_ok _ (hreference _ _ _ (by decide)) ?_)
  refine exists_bind_ok _ (hreference _ _ _ (by decide)) (exists_bind_ok _ rfl ?_)
  refine exists_bind_ok "schedule-version-comparison.v1" ?_ ⟨_, rfl⟩
  refine (orReject_eq_ok _ _ _).mpr ?_
  refine bind_eq_ok.mpr ⟨"schedule-version-comparison.v1", rfl, bind_unit_eq_ok.mpr ⟨rfl, ?_⟩⟩
  refine bind_unit_eq_ok.mpr ⟨rfl, bind_unit_eq_ok.mpr ⟨?_, bind_unit_eq_ok.mpr ⟨rfl, rfl⟩⟩⟩
  refine bind_eq_ok.mpr ⟨_, rfl, bind_eq_ok.mpr ⟨_, rfl, bind_unit_eq_ok.mpr ⟨rfl, ?_⟩⟩⟩
  refine bind_unit_eq_ok.mpr ⟨?_, bind_eq_ok.mpr ⟨_, rfl, ?_⟩⟩
  · exact (require_eq_ok _ _ _).mpr ((Json.pyEq_str _ _).mpr rfl)
  · rfl

theorem demo_occupies :
    Occupies "2026-01-01T00:01:30Z" 90 ∧ Occupies "2026-01-01T00:02:00Z" 120 := by
  have hoccupies : ∀ endAt busy,
      (assignmentBusySeconds (demoAssignment endAt)).toOption = some busy →
        Occupies endAt busy := by
    intro endAt busy h
    rw [Occupies]
    cases hbusy : assignmentBusySeconds (demoAssignment endAt) with
    | ok seconds =>
      rw [hbusy] at h
      rw [Option.some.inj h]
    | error raised =>
      rw [hbusy] at h
      cases h
  exact ⟨hoccupies _ _ (by decide +kernel), hoccupies _ _ (by decide +kernel)⟩

theorem demoVersion_wellFormed (versionId endAt : String) (busy : Int) :
    (demoVersion versionId endAt busy).WellFormed := by
  have hreference : ∀ artifactId fingerprint version,
      (demoReference artifactId fingerprint version).WellFormed := by
    intro artifactId fingerprint version
    refine ⟨?_, trivial, trivial, trivial, trivial⟩
    show ["artifact_id", "fingerprint", "document_version"].Nodup
    decide
  have hlineage : (demoLineage endAt busy).WellFormed := by
    refine ⟨?_, hreference _ _ _, hreference _ _ _, hreference _ _ _, hreference _ _ _,
      hreference _ _ _, hreference _ _ _, trivial, trivial, trivial⟩
    show ["snapshot", "problem", "planning_solution", "validation_report", "kpi",
      "solver_report", "planning_run_id", "code_commit"].Nodup
    decide
  have hcontent : (demoContent endAt).WellFormed := by
    refine ⟨?_, ⟨demoAssignment_wellFormed endAt, trivial⟩, trivial, trivial⟩
    show ["assignments", "locks"].Nodup
    decide
  refine ⟨?_, trivial, trivial, trivial, trivial, trivial, trivial, trivial, trivial, hcontent,
    trivial, hlineage, ⟨List.nodup_singleton _, hreference _ _ _, trivial⟩, trivial⟩
  show ["schedule_version_version", "schema_set_version", "canonicalization_version",
    "schedule_version_id", "data_plane", "environment", "synthetic", "state", "content",
    "content_fingerprint", "lineage", "validation"].Nodup
  decide

theorem assigns_demoVersion {versionId endAt operationId : String} {busy : Int} {row : Json} :
    Assigns (demoVersion versionId endAt busy) operationId row ↔
      row = demoAssignment endAt ∧ operationId = "OP1" := by
  rw [Assigns, show versionAssignments (demoVersion versionId endAt busy) =
    [demoAssignment endAt] from rfl, List.mem_singleton]
  refine and_congr_right ?_
  rintro rfl
  rw [show (demoAssignment endAt).get "operation_id" = .str "OP1" from rfl, Json.str.injEq,
    eq_comm]

/-- The versions end their operation at the same instant. -/
theorem comparison_exact_iff_same_tick :
    ∃ document, buildScheduleVersionComparison exactDifference
        (demoVersion "SV1" "2026-01-01T00:01:30Z" 90) (demoVersion "SV2" "2026-01-01T00:01:30Z" 90)
        (demoSources "2026-01-01T00:01:30Z" 90) (demoSources "2026-01-01T00:01:30Z" 90)
        "sha256:query" "2026-01-02T00:00:00Z" = .ok document ∧
      ComparisonExact exactDifference (demoVersion "SV1" "2026-01-01T00:01:30Z" 90)
        (demoVersion "SV2" "2026-01-01T00:01:30Z" 90) (demoSources "2026-01-01T00:01:30Z" 90)
        (demoSources "2026-01-01T00:01:30Z" 90) document := by
  obtain ⟨document, hdocument⟩ := demoVersions_compared demo_occupies.1 demo_occupies.1
  refine ⟨document, hdocument, (comparison_exact_iff exactDifference_subtracts
    (demoVersion_wellFormed _ _ _) (demoVersion_wellFormed _ _ _) hdocument).mpr ?_⟩
  intro operationId left right hleft hright
  rw [(assigns_demoVersion.mp hleft).1, (assigns_demoVersion.mp hright).1]
  intro slot slot' hslot hslot' _
  rw [hslot.unique hslot']
  exact iff_of_true ⟨Json.pyEq_refl (.int 90) trivial, rfl⟩ ⟨rfl, rfl⟩

/-- Ninety seconds end at the next minute on the one tick and at the half minute on the other, and
the delta says `UNCHANGED`. -/
theorem comparison_exact_iff_other_tick :
    ∃ document, buildScheduleVersionComparison exactDifference
        (demoVersion "SV1" "2026-01-01T00:01:30Z" 90) (demoVersion "SV2" "2026-01-01T00:02:00Z" 120)
        (demoSources "2026-01-01T00:01:30Z" 90) (demoSources "2026-01-01T00:02:00Z" 120)
        "sha256:query" "2026-01-02T00:00:00Z" = .ok document ∧
      Says document "OP1" .unchanged ∧
      (¬∃ left right, Assigns (demoVersion "SV1" "2026-01-01T00:01:30Z" 90) "OP1" left ∧
        Assigns (demoVersion "SV2" "2026-01-01T00:02:00Z" 120) "OP1" right ∧
        SameSlot left right) ∧
      ¬ComparisonExact exactDifference (demoVersion "SV1" "2026-01-01T00:01:30Z" 90)
        (demoVersion "SV2" "2026-01-01T00:02:00Z" 120) (demoSources "2026-01-01T00:01:30Z" 90)
        (demoSources "2026-01-01T00:02:00Z" 120) document := by
  obtain ⟨document, hdocument⟩ := demoVersions_compared demo_occupies.1 demo_occupies.2
  obtain ⟨base, compared, hfrom⟩ := buildScheduleVersionComparison_ok exactDifference hdocument
  have hleft : Assigns (demoVersion "SV1" "2026-01-01T00:01:30Z" 90) "OP1"
      (demoAssignment "2026-01-01T00:01:30Z") := assigns_demoVersion.mpr ⟨rfl, rfl⟩
  have hright : Assigns (demoVersion "SV2" "2026-01-01T00:02:00Z" 120) "OP1"
      (demoAssignment "2026-01-01T00:02:00Z") := assigns_demoVersion.mpr ⟨rfl, rfl⟩
  have hsays : Says document "OP1" .unchanged := by
    refine (hfrom.says_iff _ _).mpr ⟨(hfrom.mem_ids_iff _).mpr (.inl ⟨_, hleft⟩), ?_⟩
    rw [(hfrom.baseRows _ _).mpr hleft, (hfrom.comparedRows _ _).mpr hright]
    rfl
  have hends : ¬∃ left right, Assigns (demoVersion "SV1" "2026-01-01T00:01:30Z" 90) "OP1" left ∧
      Assigns (demoVersion "SV2" "2026-01-01T00:02:00Z" 120) "OP1" right ∧
      SameSlot left right := by
    rintro ⟨left, right, hl, hr, slot, hslot, hslot'⟩
    rw [(assigns_demoVersion.mp hl).1] at hslot
    rw [(assigns_demoVersion.mp hr).1] at hslot'
    obtain ⟨text, htext, hfinish⟩ := hslot.finish
    obtain ⟨text', htext', hfinish'⟩ := hslot'.finish
    obtain rfl : "2026-01-01T00:01:30Z" = text := Json.str.inj htext
    obtain rfl : "2026-01-01T00:02:00Z" = text' := Json.str.inj htext'
    have hdiffer : instantOf "2026-01-01T00:01:30Z" ≠ instantOf "2026-01-01T00:02:00Z" := by
      decide +kernel
    exact hdiffer (hfinish.trans hfinish'.symm)
  refine ⟨document, hdocument, hsays, hends, ?_⟩
  intro hexact
  exact hends ((hexact.unchanged _ _ hsays).mp rfl)

end PlantNexus.Workspace
