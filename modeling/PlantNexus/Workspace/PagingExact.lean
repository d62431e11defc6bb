import PlantNexus.Workspace.Pages
import PlantNexus.Domain.InstantOrder

/-! When paging is exact.

The answer to a query is right exactly when, on the items that pass the identity and state filters,
the texts of the start and of the bounds compare as their instants do (`paging_exact_iff`); a bound
with a fraction of a second is a text before the whole second it follows. -/
namespace PlantNexus.Workspace
open Data Domain JsonRead Time

/-! ### Instants -/

/-- The instant at which an item starts. -/
def startInstant (item : WorkspaceProjection) : Option Datetime :=
  (startText item).bind instantOf

/-- The start lies in the half-open range, as instants. -/
def InstantInRange (filters : QueryFilters) (item : WorkspaceProjection) : Prop :=
  (∀ low ∈ filters.startAtOrAfter, ∃ bound start,
    instantOf low = some bound ∧ startInstant item = some start ∧ bound ≤ start) ∧
  ∀ high ∈ filters.startBefore, ∃ bound start,
    instantOf high = some bound ∧ startInstant item = some start ∧ start < bound

/-- An item satisfies the filters. -/
def Satisfies (filters : QueryFilters) (scheduleState : Option String)
    (item : WorkspaceProjection) : Prop :=
  Identified filters item ∧ StateWanted filters scheduleState item ∧ InstantInRange filters item

def timeFields : List String := ["START_AT_UTC", "END_AT_UTC", "OCCURRED_AT_UTC"]

/-- The place of a time among instants; an item without one comes first. -/
def instantRank (text : String) : Int :=
  match instantOf text with
  | some instant => instant.micros
  | none => -1

/-- A sort term that compares times as instants and every other field as text. -/
def instantTerm (term : Json) : SortTerm WorkspaceProjection (ℤ ×ₗ String) :=
  ⟨fun item =>
    if (term.get "field").text ∈ timeFields then
      toLex (instantRank (sortValue item (term.get "field").text), "")
    else toLex (0, sortValue item (term.get "field").text),
    term.get "direction" = .str "DESC"⟩

/-- The requested order with times compared as instants. -/
def InstantBefore (spec : WorkspaceQuerySpec) :
    WorkspaceProjection → WorkspaceProjection → Prop :=
  LexBefore IdBefore (spec.sort.map instantTerm)

/-- **Paging is exact.** Following the cursors from the first page ends and gives every item that
satisfies the filters once and in order, and cursors of other queries are refused. -/
structure PagingExact (float64 : List Char → Option FloatValue)
    (lenient : List UInt8 → Option Json) (items : List WorkspaceProjection)
    (spec : WorkspaceQuerySpec) (filters : QueryFilters) (scheduleState : Option String)
    (sourceFingerprint : String)
    (before : WorkspaceProjection → WorkspaceProjection → Prop) : Prop where
  answer : ∃ result,
    Follows float64 lenient items spec scheduleState sourceFingerprint none result ∧
    result.Nodup ∧
    (∀ item, item ∈ result ↔ item ∈ items ∧ Satisfies filters scheduleState item) ∧
    result.Pairwise before
  foreign : RefusesForeign float64 lenient items spec scheduleState sourceFingerprint

/-- No item that passes the identity filters has a list or an object as the state that the state
filter is asked for. -/
def StatesReadable (items : List WorkspaceProjection) (filters : QueryFilters)
    (scheduleState : Option String) : Prop :=
  ∀ item ∈ items, StateReadable filters scheduleState item

/-- On every item that passes the identity and state filters, the texts of its start and of the
bounds compare as their instants do. -/
def StartsAgree (items : List WorkspaceProjection) (filters : QueryFilters)
    (scheduleState : Option String) : Prop :=
  ∀ item ∈ items, Identified filters item → StateWanted filters scheduleState item →
    (TextInRange filters item ↔ InstantInRange filters item)

/-- On the items of the answer, the texts of the times that are sorted by compare as their instants
do. -/
def OrdersAgree (items : List WorkspaceProjection) (spec : WorkspaceQuerySpec)
    (filters : QueryFilters) (scheduleState : Option String) : Prop :=
  ∀ a ∈ items, ∀ b ∈ items, Satisfies filters scheduleState a →
    Satisfies filters scheduleState b → TextBefore spec a b → InstantBefore spec a b

section
variable {float64 : List Char → Option FloatValue} {lenient : List UInt8 → Option Json}
  {items : List WorkspaceProjection} {spec : WorkspaceQuerySpec} {filters : QueryFilters}
  {scheduleState : Option String} {sourceFingerprint : String}

theorem mem_orderedItems {ordered : List WorkspaceProjection}
    (hfilters : readFilters spec.filters = .ok filters)
    (hordered : orderedItems items spec scheduleState = .ok ordered) (item : WorkspaceProjection) :
    item ∈ ordered ↔ item ∈ items ∧ Selected filters scheduleState item := by
  obtain ⟨filters', hfilters', h⟩ := bind_eq_ok.mp hordered
  obtain rfl := Except.ok.inj (hfilters.symm.trans hfilters')
  obtain ⟨selected, hselected, heq⟩ := bind_eq_ok.mp h
  rw [← Except.ok.inj heq, mem_sorted, mem_filtered hselected]

theorem orderedItems_sorted {ordered : List WorkspaceProjection}
    (hids : (items.map WorkspaceProjection.itemId).Nodup)
    (hordered : orderedItems items spec scheduleState = .ok ordered) :
    ordered.Nodup ∧ ordered.Pairwise (TextBefore spec) := by
  obtain ⟨filters, -, h⟩ := bind_eq_ok.mp hordered
  obtain ⟨selected, hselected, heq⟩ := bind_eq_ok.mp h
  have hsub := hids.sublist ((filtered_sublist hselected).map WorkspaceProjection.itemId)
  rw [← Except.ok.inj heq]
  exact ⟨sorted_nodup spec hsub, sorted_pairwise spec hsub⟩

theorem orderedItems_ok_iff (hfilters : readFilters spec.filters = .ok filters) :
    (∃ ordered, orderedItems items spec scheduleState = .ok ordered) ↔
      StatesReadable items filters scheduleState := by
  rw [StatesReadable, ← filtered_ok_iff]
  constructor
  · rintro ⟨ordered, hordered⟩
    obtain ⟨filters', hfilters', h⟩ := bind_eq_ok.mp hordered
    obtain rfl := Except.ok.inj (hfilters.symm.trans hfilters')
    obtain ⟨selected, hselected, -⟩ := bind_eq_ok.mp h
    exact ⟨selected, hselected⟩
  · rintro ⟨selected, hselected⟩
    exact ⟨_, bind_eq_ok.mpr ⟨filters, hfilters, bind_eq_ok.mpr ⟨selected, hselected, rfl⟩⟩⟩

/-- The selected items are those that satisfy the filters exactly if the starts agree. -/
theorem startsAgree_iff :
    StartsAgree items filters scheduleState ↔ ∀ item ∈ items,
      (Selected filters scheduleState item ↔ Satisfies filters scheduleState item) := by
  refine forall₂_congr fun item _ => ?_
  unfold Selected Satisfies
  constructor
  · intro hagree
    exact and_congr_right fun hid => and_congr_right fun hstate => hagree hid hstate
  · intro hsame hid hstate
    simpa only [hid, hstate, true_and] using hsame

/-- Paging is exact for an order exactly if the states can be read, the starts agree, and the order
sorts the collection. -/
theorem pagingExact_iff {before : WorkspaceProjection → WorkspaceProjection → Prop}
    (hids : (items.map WorkspaceProjection.itemId).Nodup) (hsize : 1 ≤ spec.pageSize)
    (hfilters : readFilters spec.filters = .ok filters)
    (hspec : Representable (cursorScope spec)) :
    PagingExact float64 lenient items spec filters scheduleState sourceFingerprint before ↔
      StatesReadable items filters scheduleState ∧ StartsAgree items filters scheduleState ∧
        ∀ ordered, orderedItems items spec scheduleState = .ok ordered →
          ordered.Pairwise before := by
  constructor
  · rintro ⟨⟨result, hfollows, -, hmem, hbefore⟩, -⟩
    have hordered := hfollows.ordered hsize
    refine ⟨(orderedItems_ok_iff hfilters).mp ⟨result, hordered⟩, ?_, ?_⟩
    · rw [startsAgree_iff]
      intro item hitem
      have hboth := (mem_orderedItems hfilters hordered item).symm.trans (hmem item)
      simpa only [hitem, true_and] using hboth
    · intro ordered hagain
      rw [← Except.ok.inj (hordered.symm.trans hagain)]
      exact hbefore
  · rintro ⟨hreadable, hagree, hsorted⟩
    obtain ⟨ordered, hordered⟩ := (orderedItems_ok_iff hfilters).mpr hreadable
    refine ⟨⟨ordered, follows_first hordered hsize, (orderedItems_sorted hids hordered).1, ?_,
      hsorted ordered hordered⟩, refuses_foreign hspec⟩
    intro item
    rw [mem_orderedItems hfilters hordered]
    exact and_congr_right fun hitem => startsAgree_iff.mp hagree item hitem

end

/-! ### Texts at second precision -/

/-- A text that `format_utc_instant` writes. -/
def Written (text : String) : Prop := ∃ instant, text = formatUtcInstant instant

theorem instantOf_written (instant : Datetime) :
    instantOf (formatUtcInstant instant) = some instant.truncateToSecond := by
  rw [instantOf, parseUtcInstant_formatUtcInstant]

/-- Written texts compare as their instants do. -/
theorem written_lt_iff (a b : Datetime) :
    formatUtcInstant a < formatUtcInstant b ↔ a.truncateToSecond < b.truncateToSecond := by
  rw [formatUtcInstant_lt_iff, Datetime.lt_iff, Datetime.truncateToSecond,
    Datetime.truncateToSecond, Datetime.seconds, Datetime.seconds]
  have ha := a.nonneg
  have hb := b.nonneg
  dsimp only [microsPerSecond]
  omega

/-- **Texts written at second precision agree with their instants**: a query whose bounds are
written so over items whose starts are too is answered exactly. -/
theorem startsAgree_of_written {items : List WorkspaceProjection} {filters : QueryFilters}
    (scheduleState : Option String) (hlow : ∀ low ∈ filters.startAtOrAfter, Written low)
    (hhigh : ∀ high ∈ filters.startBefore, Written high)
    (hstart : ∀ item ∈ items, ∀ start ∈ startText item, Written start) :
    StartsAgree items filters scheduleState := by
  intro item hitem _ _
  refine and_congr (forall₂_congr fun low hmem => ?_) (forall₂_congr fun high hmem => ?_)
  · obtain ⟨bound, rfl⟩ := hlow low hmem
    cases htext : startText item with
    | none => simp [startInstant, htext]
    | some text =>
      obtain ⟨start, rfl⟩ := hstart item hitem text htext
      simp only [startInstant, htext, Option.bind_some, instantOf_written, Option.some.injEq,
        exists_eq_left', exists_and_left]
      rw [← not_lt, ← not_lt, written_lt_iff]
  · obtain ⟨bound, rfl⟩ := hhigh high hmem
    cases htext : startText item with
    | none => simp [startInstant, htext]
    | some text =>
      obtain ⟨start, rfl⟩ := hstart item hitem text htext
      simp only [startInstant, htext, Option.bind_some, instantOf_written, Option.some.injEq,
        exists_eq_left', exists_and_left]
      rw [written_lt_iff]

/-! ### A bound with a fraction -/

/-- An operation that starts on a whole second. -/
def earlyItem : WorkspaceProjection :=
  ⟨"OP1", "OPERATION", .obj [("start_at_utc", .str "2026-01-01T00:00:00Z")], "sha256:1"⟩

def sortById : List Json := [.obj [("field", .str "ITEM_ID"), ("direction", .str "ASC")]]

def boundFilters (low : String) : Json :=
  .obj [("order_ids", .arr []), ("operation_ids", .arr []), ("resource_ids", .arr []),
    ("states", .arr []), ("start_at_or_after_utc", .str low), ("start_before_utc", .null)]

def versionPrecondition : Json := .obj [("schedule_version_id", .str "SV1")]

/-- The fields of the query that its fingerprint covers. -/
def queryProjection (low : String) : List (String × Json) :=
  [("workspace_query_version", .str "workspace-query.v1"), ("schema_set_version", .str "2.6.0"),
    ("canonicalization_version", .str "canonical-json.v1"), ("query_kind", .str "WORKSPACE_VIEW"),
    ("data_plane", .str "SIMULATION"), ("environment", .str "TEST"), ("synthetic", .bool true),
    ("resource", .obj [("resource_type", .str "SCHEDULE_VERSION"), ("resource_id", .str "SV1")]),
    ("view", .str "OPERATIONS"), ("schedule_version_precondition", versionPrecondition),
    ("sort", .arr sortById), ("filters", boundFilters low),
    ("page", .obj [("size", .int 10), ("cursor", .null)])]

/-- A query for the operations that start at or after an instant. -/
def boundQuery (low : String) : Json :=
  .obj (queryProjection low ++
    [("query_fingerprint", .str (contractFingerprint (.obj (queryProjection low)))),
      ("correlation_id", .str "correlation-1"), ("direction", .str "REQUEST"),
      ("result", .null)])

def boundSpec (low : String) : WorkspaceQuerySpec :=
  ⟨.operations, contractFingerprint (.obj (queryProjection low)), "SIMULATION", "TEST",
    "SCHEDULE_VERSION", some "SV1", some versionPrecondition, sortById, boundFilters low, 10, none⟩

theorem boundQuery_accepted (low : String) :
    requireWorkspaceDocument (boundQuery low) = .ok "workspace-query.v1" := by
  have hversion : workspaceDocumentVersion (boundQuery low) = .ok "workspace-query.v1" := rfl
  have hprojection : projection (boundQuery low) queryFingerprintFields =
      .ok (.obj (queryProjection low)) := rfl
  have hfingerprint : precheckQuery (boundQuery low) = .ok () := by
    refine bind_eq_ok.mpr ⟨contractFingerprint (.obj (queryProjection low)), ?_, ?_⟩
    · rw [workspaceQueryFingerprint, hprojection]
      rfl
    · refine (require_eq_ok _ _ _).mpr ?_
      show (Json.str _).pyEq (.str _) = true
      rw [Json.pyEq, beq_self_eq_true]
  refine bind_eq_ok.mpr ⟨_, hversion, ?_⟩
  refine bind_unit_eq_ok.mpr ⟨rfl, bind_unit_eq_ok.mpr ⟨rfl, ?_⟩⟩
  refine bind_unit_eq_ok.mpr ⟨hfingerprint, bind_unit_eq_ok.mpr ⟨rfl, rfl⟩⟩

theorem boundQuery_parsed (low : String) :
    parseWorkspaceQuery (boundQuery low) = .ok (boundSpec low) := by
  have hfingerprint : readText ((boundQuery low).get "query_fingerprint") "query_fingerprint" =
      .ok (contractFingerprint (.obj (queryProjection low))) :=
    bind_unit_eq_ok.mpr
      ⟨(require_eq_ok _ _ _).mpr (contractFingerprint_ne_empty _), rfl⟩
  refine bind_eq_ok.mpr ⟨_, (orReject_eq_ok _ _ _).mpr (boundQuery_accepted low), ?_⟩
  refine bind_unit_eq_ok.mpr ⟨rfl, bind_eq_ok.mpr ⟨.operations, rfl, ?_⟩⟩
  refine bind_eq_ok.mpr ⟨_, rfl, bind_eq_ok.mpr ⟨"SCHEDULE_VERSION", rfl, ?_⟩⟩
  refine bind_eq_ok.mpr ⟨some versionPrecondition, rfl, bind_unit_eq_ok.mpr ⟨rfl, ?_⟩⟩
  refine bind_eq_ok.mpr ⟨sortById, rfl, bind_eq_ok.mpr ⟨sortById, rfl, ?_⟩⟩
  refine bind_unit_eq_ok.mpr ⟨rfl, bind_unit_eq_ok.mpr ⟨rfl, ?_⟩⟩
  refine bind_eq_ok.mpr ⟨boundFilters low, rfl, bind_eq_ok.mpr ⟨_, rfl, ?_⟩⟩
  refine bind_eq_ok.mpr ⟨10, rfl, bind_eq_ok.mpr ⟨none, rfl, ?_⟩⟩
  exact bind_eq_ok.mpr ⟨_, hfingerprint, rfl⟩

theorem boundSpec_representable (low : String) : Representable (cursorScope (boundSpec low)) := by
  refine ⟨literalFloat, ?_, ?_⟩
  · show ["cursor_scope_version", "data_plane", "environment", "resource_type", "resource_id",
      "schedule_version_precondition", "view", "sort", "filters", "page_size"].Nodup
    decide
  · refine ⟨trivial, trivial, trivial, trivial, trivial, ⟨?_, trivial, trivial⟩, trivial,
      ⟨⟨?_, trivial, trivial, trivial⟩, trivial⟩,
      ⟨?_, trivial, trivial, trivial, trivial, trivial, trivial, trivial⟩, trivial, trivial⟩
    · exact List.nodup_singleton _
    · show ["field", "direction"].Nodup
      decide
    · show ["order_ids", "operation_ids", "resource_ids", "states", "start_at_or_after_utc",
        "start_before_utc"].Nodup
      decide

/-- The filters of the query, read. -/
def fromFilters (low : String) : QueryFilters := ⟨[], [], [], [], some low, none⟩

theorem fromFilters_passes (low : String) (item : WorkspaceProjection) :
    Identified (fromFilters low) item ∧ StateKnown (fromFilters low) none :=
  ⟨⟨.inl rfl, .inl rfl, .inl rfl⟩, .inl rfl⟩

theorem boundFilters_read :
    readFilters (boundFilters "2026-01-01T00:00:00Z") = .ok (fromFilters "2026-01-01T00:00:00Z") ∧
      readFilters (boundFilters "2026-01-01T00:00:00.500Z") =
        .ok (fromFilters "2026-01-01T00:00:00.500Z") := by
  decide +kernel

theorem single_nodup : ([earlyItem].map WorkspaceProjection.itemId).Nodup :=
  List.nodup_singleton _

/-- The item's start is before the bound, and its text is after it. -/
theorem earlyItem_misplaced :
    TextInRange (fromFilters "2026-01-01T00:00:00.500Z") earlyItem ∧
      ¬InstantInRange (fromFilters "2026-01-01T00:00:00.500Z") earlyItem := by
  have htext : "2026-01-01T00:00:00.500Z" ≤ "2026-01-01T00:00:00Z" := by decide +kernel
  have hbefore : ∀ bound ∈ instantOf "2026-01-01T00:00:00.500Z",
      ∀ start ∈ instantOf "2026-01-01T00:00:00Z", start < bound := by
    decide +kernel
  refine ⟨⟨?_, ?_⟩, ?_⟩
  · intro low hlow
    obtain rfl := Option.mem_some_iff.mp hlow
    exact ⟨_, rfl, htext⟩
  · intro high hhigh
    cases hhigh
  · rintro ⟨hlow, -⟩
    obtain ⟨bound, start, hbound, hstart, hle⟩ := hlow _ rfl
    exact absurd hle (not_le.mpr (hbefore bound hbound start hstart))

end PlantNexus.Workspace
