import PlantNexus.Domain.Types
import PlantNexus.Domain.WorkspaceContracts

/-! Workspace queries.

`parseWorkspaceQuery` reads the request carrier of a workspace read into a typed specification:
the view and the resource it is scoped to, one to four sort terms, the filters as they stand, and
the page. An exception that the source does not turn into a `WorkspaceReadError` is kept apart. -/
namespace PlantNexus.Workspace
open Data Domain

/-! ### Read errors -/

inductive WorkspaceReadFailure where
  | invalidQuery
  | sourceMissing
  | mixedLineage
  | dataPlaneMismatch
  | staleVersion
  | staleCursor
  | kpiMismatch
deriving DecidableEq, Repr

structure WorkspaceReadError where
  reason : WorkspaceReadFailure
  field : String
  message : String
deriving DecidableEq, Repr

/-- What a read can raise. -/
abbrev Read (α : Type) : Type := Except (Raised WorkspaceReadError) α

/-- `_reject` -/
def reject {α : Type} (reason : WorkspaceReadFailure) (field message : String) : Read α :=
  .error (.rejected ⟨reason, field, message⟩)

/-- A condition of the query. -/
def demand (c : Prop) [Decidable c] (reason : WorkspaceReadFailure) (field message : String) :
    Read Unit := require c (.rejected ⟨reason, field, message⟩)

/-- `_mapping` -/
def mapping (value : Json) (field : String) : Read Json := do
  demand (value.isObj = true) .sourceMissing field "authoritative source must be an object"
  return value

/-- `_sequence` -/
def sequence (value : Json) (field : String) : Read (List Json) :=
  match value with
  | .arr items => .ok items
  | _ => reject .sourceMissing field "authoritative source must be an array"

/-- `_text` -/
def readText (value : Json) (field : String) : Read String :=
  match value with
  | .str text => do
    demand (text ≠ "") .sourceMissing field "authoritative source requires bounded non-empty text"
    return text
  | _ => reject .sourceMissing field "authoritative source requires bounded non-empty text"

/-- `_require_equal` -/
def requireEqual (actual expected : Json) (field : String) : Read Unit :=
  demand (actual.pyEq expected = true) .mixedLineage field
    "does not bind the authoritative source lineage"

theorem contractFingerprint_ne_empty (document : Json) : contractFingerprint document ≠ "" := by
  intro hempty
  have hlength := congrArg String.length hempty
  rw [contractFingerprint, String.length_append, Sha256.length_hexdigest] at hlength
  cases hlength

/-- A value that a set can be asked for; lists and dictionaries are not hashable. -/
def Hashable (value : Json) : Prop := value.typeName ≠ "list" ∧ value.typeName ≠ "dict"

instance (value : Json) : Decidable (Hashable value) := inferInstanceAs (Decidable (_ ∧ _))

/-- `value in {...}` over a set of texts. -/
def memberOf (value : Json) (texts : List String) : Read Bool := do
  require (Hashable value) .typeError
  return texts.any fun text => value = .str text

/-! ### Views -/

inductive WorkspaceView where
  | dataHealth
  | importRuns
  | planningRuns
  | orders
  | operations
  | resources
  | calendars
  | gantt
  | resourceLoad
  | kpi
  | diagnostics
  | locks
  | audit
  | versionComparison
deriving DecidableEq, Repr

namespace WorkspaceView

def value : WorkspaceView → String
  | dataHealth => "DATA_HEALTH"
  | importRuns => "IMPORT_RUNS"
  | planningRuns => "PLANNING_RUNS"
  | orders => "ORDERS"
  | operations => "OPERATIONS"
  | resources => "RESOURCES"
  | calendars => "CALENDARS"
  | gantt => "GANTT"
  | resourceLoad => "RESOURCE_LOAD"
  | kpi => "KPI"
  | diagnostics => "DIAGNOSTICS"
  | locks => "LOCKS"
  | audit => "AUDIT"
  | versionComparison => "VERSION_COMPARISON"

def all : List WorkspaceView :=
  [dataHealth, importRuns, planningRuns, orders, operations, resources, calendars, gantt,
   resourceLoad, kpi, diagnostics, locks, audit, versionComparison]

/-- `WorkspaceView(text)` -/
def ofText (text : String) : Option WorkspaceView := all.find? (·.value = text)

theorem value_injective {a b : WorkspaceView} (h : a.value = b.value) : a = b := by
  revert h
  cases a <;> cases b <;> decide

end WorkspaceView

/-- `_WORKSPACE_VIEWS` -/
def workspaceViews : List WorkspaceView := [.dataHealth, .importRuns, .planningRuns]

/-! ### The specification -/

/-- `_SORT_FIELDS` -/
def sortFields : List String :=
  ["ITEM_ID", "START_AT_UTC", "END_AT_UTC", "RESOURCE_ID", "ORDER_ID", "OCCURRED_AT_UTC"]

structure WorkspaceQuerySpec where
  view : WorkspaceView
  queryFingerprint : String
  dataPlane : String
  environment : String
  resourceType : String
  resourceId : Option String
  scheduleVersionPrecondition : Option Json
  sort : List Json
  filters : Json
  pageSize : Nat
  cursor : Option String

/-- The text of a value, if it is one. -/
def textOf : Json → Option String
  | .str text => some text
  | _ => none

/-- The instant that a text denotes. -/
def instantOf (text : String) : Option Time.Datetime :=
  match parseUtcInstant text with
  | .ok instant => some instant
  | .error _ => none

/-- The resource of a view: the workspace itself, or one version with its precondition. -/
def checkResource (view : WorkspaceView) (resourceType : String) (resourceId : Option String)
    (precondition : Option Json) : Read Unit := do
  if view ∈ workspaceViews then
    demand (resourceType = "WORKSPACE" ∧ resourceId = none ∧ precondition = none) .invalidQuery
      "resource" "workspace view requires WORKSPACE/null and no Version precondition"
  else
    match resourceId, precondition with
    | some resourceId, some precondition =>
      demand (resourceType = "SCHEDULE_VERSION") .invalidQuery "resource"
        "schedule view requires exact Version identity and precondition"
      requireEqual (precondition.get "schedule_version_id") (.str resourceId)
        "schedule_version_precondition.schedule_version_id"
    | _, _ =>
      reject .invalidQuery "resource"
        "schedule view requires exact Version identity and precondition"

/-- A sort term names a field and a direction. -/
def checkSortTerm (term : Json) : Read Unit := do
  let known ← memberOf (term.get "field") sortFields
  let directed ← (if known then memberOf (term.get "direction") ["ASC", "DESC"] else .ok true)
  demand (known = true ∧ directed = true) .invalidQuery "sort"
    "contains an unsupported field or direction"

def readPageSize (size : Json) : Read Nat :=
  match size with
  | .int n => do
    demand (1 ≤ n ∧ n ≤ 500) .invalidQuery "page.size" "must be between 1 and 500"
    return n.toNat
  | _ => reject .invalidQuery "page.size" "must be between 1 and 500"

def readCursor (cursor : Json) : Read (Option String) :=
  match cursor with
  | .null => .ok none
  | .str text => .ok (some text)
  | _ => reject .invalidQuery "page.cursor" "must be null or opaque text"

/-- `WorkspaceView(_text(document.get("view"), "view"))`, every failure of which is one. -/
def readView (value : Json) : Read WorkspaceView :=
  match (textOf value).bind WorkspaceView.ofText with
  | some view => .ok view
  | none => reject .invalidQuery "view" "unsupported workspace view"

def readPrecondition (value : Json) : Read (Option Json) :=
  if value = .null then .ok none else do
    let precondition ← mapping value "schedule_version_precondition"
    return some precondition

/-- `parse_workspace_query` -/
def parseWorkspaceQuery (document : Json) : Read WorkspaceQuerySpec := do
  let _ ← orReject
    (fun _ => ⟨.invalidQuery, "query", "workspace query failed its strict carrier precheck"⟩)
    (requireWorkspaceDocument document)
  demand (document.get "direction" = .str "REQUEST" ∧ document.get "result" = .null) .invalidQuery
    "direction/result" "query service accepts REQUEST carriers only"
  let view ← readView (document.get "view")
  let resource ← mapping (document.get "resource") "resource"
  let resourceType ← readText (resource.get "resource_type") "resource.resource_type"
  let resourceId := textOf (resource.get "resource_id")
  let precondition ← readPrecondition (document.get "schedule_version_precondition")
  checkResource view resourceType resourceId precondition
  let sort ← sequence (document.get "sort") "sort"
  let sort ← collect (fun term => mapping term "sort") sort
  demand (sort ≠ [] ∧ sort.length ≤ 4) .invalidQuery "sort" "requires one to four stable sort terms"
  forEach (fun _ term => checkSortTerm term) sort
  let filters ← mapping (document.get "filters") "filters"
  let page ← mapping (document.get "page") "page"
  let pageSize ← readPageSize (page.get "size")
  let cursor ← readCursor (page.get "cursor")
  let queryFingerprint ← readText (document.get "query_fingerprint") "query_fingerprint"
  let dataPlane ← readText (document.get "data_plane") "data_plane"
  let environment ← readText (document.get "environment") "environment"
  return ⟨view, queryFingerprint, dataPlane, environment, resourceType, resourceId, precondition,
    sort, filters, pageSize, cursor⟩

/-! ### What an accepted query says -/

/-- The parts of a specification that paging relies on. -/
structure Accepted (spec : WorkspaceQuerySpec) : Prop where
  terms : spec.sort ≠ [] ∧ spec.sort.length ≤ 4
  term : ∀ term ∈ spec.sort, ∃ field ∈ sortFields, term.get "field" = .str field ∧
    (term.get "direction" = .str "ASC" ∨ term.get "direction" = .str "DESC")
  size : 1 ≤ spec.pageSize ∧ spec.pageSize ≤ 500
  filters : spec.filters.isObj = true

theorem memberOf_eq_true {value : Json} {texts : List String} (h : memberOf value texts = .ok true) :
    ∃ text ∈ texts, value = .str text := by
  rw [memberOf, bind_unit_eq_ok] at h
  obtain ⟨text, hmem, heq⟩ := List.any_eq_true.mp (Except.ok.inj h.2)
  exact ⟨text, hmem, of_decide_eq_true heq⟩

theorem checkSortTerm_ok {term : Json} (h : checkSortTerm term = .ok ()) :
    ∃ field ∈ sortFields, term.get "field" = .str field ∧
      (term.get "direction" = .str "ASC" ∨ term.get "direction" = .str "DESC") := by
  obtain ⟨known, hknown, h⟩ := bind_eq_ok.mp h
  obtain ⟨directed, hdirected, h⟩ := bind_eq_ok.mp h
  rw [demand, require_eq_ok] at h
  obtain ⟨rfl, rfl⟩ := h
  obtain ⟨field, hfield, heq⟩ := memberOf_eq_true hknown
  rw [if_pos rfl] at hdirected
  obtain ⟨direction, hdirection, hdir⟩ := memberOf_eq_true hdirected
  refine ⟨field, hfield, heq, ?_⟩
  simp only [List.mem_cons, List.not_mem_nil, or_false] at hdirection
  rcases hdirection with rfl | rfl
  · exact .inl hdir
  · exact .inr hdir

theorem readPageSize_ok {size : Json} {n : Nat} (h : readPageSize size = .ok n) :
    1 ≤ n ∧ n ≤ 500 := by
  cases size with
  | int value =>
    rw [readPageSize, bind_unit_eq_ok, demand, require_eq_ok] at h
    obtain ⟨hrange, h⟩ := h
    rw [← Except.ok.inj h]
    omega
  | _ => cases h

/-- A query that is parsed meets its contract. -/
theorem parseWorkspaceQuery_ok {document : Json} {spec : WorkspaceQuerySpec}
    (h : parseWorkspaceQuery document = .ok spec) : Accepted spec := by
  obtain ⟨version, -, h⟩ := bind_eq_ok.mp h
  obtain ⟨-, h⟩ := bind_unit_eq_ok.mp h
  obtain ⟨view, -, h⟩ := bind_eq_ok.mp h
  obtain ⟨resource, -, h⟩ := bind_eq_ok.mp h
  obtain ⟨resourceType, -, h⟩ := bind_eq_ok.mp h
  obtain ⟨precondition, -, h⟩ := bind_eq_ok.mp h
  obtain ⟨-, h⟩ := bind_unit_eq_ok.mp h
  obtain ⟨terms, -, h⟩ := bind_eq_ok.mp h
  obtain ⟨sort, -, h⟩ := bind_eq_ok.mp h
  obtain ⟨hterms, h⟩ := bind_unit_eq_ok.mp h
  obtain ⟨hterm, h⟩ := bind_unit_eq_ok.mp h
  obtain ⟨filters, hfilters, h⟩ := bind_eq_ok.mp h
  obtain ⟨page, -, h⟩ := bind_eq_ok.mp h
  obtain ⟨pageSize, hsize, h⟩ := bind_eq_ok.mp h
  obtain ⟨cursor, -, h⟩ := bind_eq_ok.mp h
  obtain ⟨queryFingerprint, -, h⟩ := bind_eq_ok.mp h
  obtain ⟨dataPlane, -, h⟩ := bind_eq_ok.mp h
  obtain ⟨environment, -, h⟩ := bind_eq_ok.mp h
  rw [← Except.ok.inj h]
  refine ⟨?_, ?_, readPageSize_ok hsize, ?_⟩
  · exact (require_eq_ok _ _ _).mp hterms
  · exact forEach_ok_mem hterm fun _ _ hcheck => checkSortTerm_ok hcheck
  · obtain ⟨hobject, heq⟩ := bind_unit_eq_ok.mp hfilters
    rw [← Except.ok.inj heq]
    exact (require_eq_ok _ _ _).mp hobject

end PlantNexus.Workspace
