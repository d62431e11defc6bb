import PlantNexus.Data.Base64
import PlantNexus.Data.StableSort
import PlantNexus.Domain.CanonicalText
import PlantNexus.Domain.Types
import PlantNexus.Workspace.Query

/-! Filtering, sorting and paging of workspace projections.

A page is a slice of the filtered and sorted collection. The cursor to the next one is the
base64 text of a canonical document that names the query scope, the source and the collection by
their fingerprints, and the offset. Times are filtered and sorted by their texts. -/
namespace PlantNexus.Workspace
open Data Domain JsonRead

/-! ### Projections -/

structure WorkspaceProjection where
  itemId : String
  itemType : String
  payload : Json
  payloadFingerprint : String
deriving DecidableEq

/-- `carrier_reference` -/
def WorkspaceProjection.carrierReference (item : WorkspaceProjection) : Json :=
  .obj [("item_id", .str item.itemId), ("item_type", .str item.itemType),
    ("payload_fingerprint", .str item.payloadFingerprint)]

structure WorkspaceProjectionPage where
  items : List WorkspaceProjection
  nextCursor : Option String
  observedCount : Nat
  collectionFingerprint : String

/-- `_payload_identity`: the first of the fields that holds a text. -/
def payloadIdentity (payload : Json) (fields : List String) : Option String :=
  fields.findSome? fun field => textOf (payload.get field)

def orderIdentity (item : WorkspaceProjection) : Option String :=
  payloadIdentity item.payload ["order_id", "demand_order_id"]

def operationIdentity (item : WorkspaceProjection) : Option String :=
  payloadIdentity item.payload ["operation_id"]

def resourceIdentity (item : WorkspaceProjection) : Option String :=
  payloadIdentity item.payload ["resource_id"]

def startText (item : WorkspaceProjection) : Option String :=
  payloadIdentity item.payload ["start_at_utc", "occurred_at_utc"]

/-! ### Filters -/

structure QueryFilters where
  orderIds : List String
  operationIds : List String
  resourceIds : List String
  states : List String
  startAtOrAfter : Option String
  startBefore : Option String
deriving DecidableEq

/-- `_filter_values` -/
def filterValues (filters : Json) (field : String) : Read (List String) :=
  match filters.get field with
  | .arr values => do
    demand (∀ value ∈ values, value.typeName = "str") .invalidQuery ("filters." ++ field)
      "must be an array of stable identities"
    return values.map Json.text
  | _ => reject .invalidQuery ("filters." ++ field) "must be an array of stable identities"

/-- A bound of the time range. -/
def readBound (filters : Json) (field : String) : Read (Option String) :=
  match filters.get field with
  | .null => .ok none
  | .str text => do
    demand (text.toList.getLast? = some 'Z') .invalidQuery ("filters." ++ field)
      "must be null or an explicit UTC instant"
    let _ ← orReject (fun _ => ⟨.invalidQuery, "filters." ++ field, "must be a valid UTC instant"⟩)
      (parseUtcInstant text)
    return some text
  | _ =>
    reject .invalidQuery ("filters." ++ field) "must be null or an explicit UTC instant"

/-- The checks of `_filtered` before its loop. -/
def readFilters (filters : Json) : Read QueryFilters := do
  let orderIds ← filterValues filters "order_ids"
  let operationIds ← filterValues filters "operation_ids"
  let resourceIds ← filterValues filters "resource_ids"
  let states ← filterValues filters "states"
  let startAtOrAfter ← readBound filters "start_at_or_after_utc"
  let startBefore ← readBound filters "start_before_utc"
  demand (∀ low ∈ startAtOrAfter, ∀ high ∈ startBefore, low < high) .invalidQuery
    "filters.start_at_or_after_utc/start_before_utc" "must describe a non-empty half-open range"
  return ⟨orderIds, operationIds, resourceIds, states, startAtOrAfter, startBefore⟩

/-- An empty filter lets everything pass. -/
def Wanted (ids : List String) (identity : Option String) : Prop :=
  ids = [] ∨ ∃ id ∈ ids, identity = some id

instance (ids : List String) (identity : Option String) : Decidable (Wanted ids identity) :=
  inferInstanceAs (Decidable (_ ∨ _))

/-- The three identity filters. -/
def Identified (filters : QueryFilters) (item : WorkspaceProjection) : Prop :=
  Wanted filters.orderIds (orderIdentity item) ∧
    Wanted filters.operationIds (operationIdentity item) ∧
    Wanted filters.resourceIds (resourceIdentity item)

instance (filters : QueryFilters) (item : WorkspaceProjection) :
    Decidable (Identified filters item) := inferInstanceAs (Decidable (_ ∧ _ ∧ _))

/-- The state filter passes without a look at the payload. -/
def StateKnown (filters : QueryFilters) (scheduleState : Option String) : Prop :=
  filters.states = [] ∨ ∃ state ∈ filters.states, scheduleState = some state

instance (filters : QueryFilters) (scheduleState : Option String) :
    Decidable (StateKnown filters scheduleState) := inferInstanceAs (Decidable (_ ∨ _))

/-- The range test on the text of the start. -/
def TextInRange (filters : QueryFilters) (item : WorkspaceProjection) : Prop :=
  (∀ low ∈ filters.startAtOrAfter, ∃ start, startText item = some start ∧ low ≤ start) ∧
    ∀ high ∈ filters.startBefore, ∃ start, startText item = some start ∧ start < high

/-- The range test as `_filtered` makes it. -/
def startInRange (filters : QueryFilters) (item : WorkspaceProjection) : Bool :=
  (match filters.startAtOrAfter, startText item with
    | none, _ => true
    | some _, none => false
    | some low, some start => decide (¬start < low)) &&
  (match filters.startBefore, startText item with
    | none, _ => true
    | some _, none => false
    | some high, some start => decide (¬high ≤ start))

/-- One turn of the loop of `_filtered`. -/
def selects (filters : QueryFilters) (scheduleState : Option String)
    (item : WorkspaceProjection) : Read Bool :=
  if ¬Identified filters item then .ok false
  else if StateKnown filters scheduleState then .ok (startInRange filters item)
  else do
    let known ← memberOf (item.payload.get "state") filters.states
    return known && startInRange filters item

/-- `_filtered`, after its checks. -/
def filtered (filters : QueryFilters) (scheduleState : Option String) :
    List WorkspaceProjection → Read (List WorkspaceProjection)
  | [] => .ok []
  | item :: rest => do
    let keep ← selects filters scheduleState item
    let more ← filtered filters scheduleState rest
    return if keep then item :: more else more

/-! ### Order -/

/-- `_sort_value` -/
def sortValue (item : WorkspaceProjection) (field : String) : String :=
  if field = "ITEM_ID" then item.itemId
  else if field = "START_AT_UTC" then (payloadIdentity item.payload ["start_at_utc"]).getD ""
  else if field = "END_AT_UTC" then (payloadIdentity item.payload ["end_at_utc"]).getD ""
  else if field = "RESOURCE_ID" then (resourceIdentity item).getD ""
  else if field = "ORDER_ID" then (orderIdentity item).getD ""
  else (payloadIdentity item.payload ["occurred_at_utc"]).getD ""

def sortTerm (term : Json) : SortTerm WorkspaceProjection String :=
  ⟨fun item => sortValue item (term.get "field").text, term.get "direction" = .str "DESC"⟩

/-- `_sorted` -/
def sorted (items : List WorkspaceProjection) (spec : WorkspaceQuerySpec) :
    List WorkspaceProjection :=
  sortTerms (spec.sort.map sortTerm) (sortByKey WorkspaceProjection.itemId items)

/-! ### Cursors -/

section
variable (float64 : List Char → Option FloatValue) (lenient : List UInt8 → Option Json)

/-- `canonical_workspace_bytes` -/
def canonicalWorkspaceBytes (document : Json) : List UInt8 :=
  document.dumps.toList.flatMap String.utf8EncodeChar

/-- `_encode_cursor` -/
def encodeCursor (payload : Json) : String :=
  String.ofList (Base64.rstripPadding (Base64.urlsafeB64encode (canonicalWorkspaceBytes payload)))

def decodeUtf8 (bytes : List UInt8) : Option (List Char) :=
  bytes.toByteArray.utf8Decode?.map Array.toList

/-- `json.loads` of bytes. `lenient` is what the decoder makes of a text that is not UTF-8, repeats
a key, or holds a constant or a surrogate that the strict reader refuses. -/
def jsonLoads (raw : List UInt8) : Option Json :=
  match decodeUtf8 raw with
  | none => lenient raw
  | some text =>
    match loads float64 text with
    | .ok value => some value
    | .error .malformed => none
    | .error _ => lenient raw

/-- `_decode_cursor` -/
def decodeCursor (value : String) : Read Json :=
  match (Base64.urlsafeB64decode (value.toList ++ Base64.padding value.length)).bind
      (jsonLoads float64 lenient) with
  | none => reject .invalidQuery "page.cursor" "opaque cursor is malformed"
  | some decoded => do
    demand (decoded.isObj = true) .invalidQuery "page.cursor" "opaque cursor payload is invalid"
    return decoded

/-! ### Pages -/

def cursorScope (spec : WorkspaceQuerySpec) : Json :=
  .obj [("cursor_scope_version", .str "workspace-query-cursor-scope.v1"),
    ("data_plane", .str spec.dataPlane), ("environment", .str spec.environment),
    ("resource_type", .str spec.resourceType), ("resource_id", Json.ofOption .str spec.resourceId),
    ("schedule_version_precondition", Json.ofOption id spec.scheduleVersionPrecondition),
    ("view", .str spec.view.value), ("sort", .arr spec.sort), ("filters", spec.filters),
    ("page_size", .int spec.pageSize)]

def collectionDocument (scopeFingerprint sourceFingerprint : String)
    (ordered : List WorkspaceProjection) : Json :=
  .obj [("read_model_version", .str "workspace-read-model.v1"),
    ("query_scope_fingerprint", .str scopeFingerprint),
    ("source_fingerprint", .str sourceFingerprint),
    ("items", .arr (ordered.map WorkspaceProjection.carrierReference))]

/-- What a cursor has to name. -/
structure CursorBinding where
  scopeFingerprint : String
  sourceFingerprint : String
  collectionFingerprint : String
  view : String
deriving DecidableEq

def CursorBinding.fields (binding : CursorBinding) : List (String × String) :=
  [("cursor_version", "workspace-cursor.v1"),
    ("query_scope_fingerprint", binding.scopeFingerprint),
    ("source_fingerprint", binding.sourceFingerprint),
    ("collection_fingerprint", binding.collectionFingerprint), ("view", binding.view)]

def cursorMembers (binding : CursorBinding) (offset : Nat) : List (String × Json) :=
  (binding.fields.map fun field => (field.1, .str field.2)) ++ [("offset", .int offset)]

def cursorPayload (binding : CursorBinding) (offset : Nat) : Json :=
  .obj (cursorMembers binding offset)

def bindingOf (spec : WorkspaceQuerySpec) (sourceFingerprint : String)
    (ordered : List WorkspaceProjection) : CursorBinding :=
  let scopeFingerprint := contractFingerprint (cursorScope spec)
  ⟨scopeFingerprint, sourceFingerprint,
    contractFingerprint (collectionDocument scopeFingerprint sourceFingerprint ordered),
    spec.view.value⟩

/-- The offset that a cursor of this binding carries. -/
def readOffset (binding : CursorBinding) (cursor : Json) : Read Nat := do
  forEach
    (fun _ field => demand ((cursor.get field.1).pyEq (.str field.2) = true) .staleCursor
      "page.cursor" "cursor no longer binds this query and immutable source")
    binding.fields
  match cursor.get "offset" with
  | .int offset =>
    demand (0 ≤ offset) .invalidQuery "page.cursor" "cursor offset is invalid"
    return offset.toNat
  | _ => reject .invalidQuery "page.cursor" "cursor offset is invalid"

def startOffset (binding : CursorBinding) (cursor : Option String) : Read Nat :=
  match cursor with
  | none => .ok 0
  | some text => do
    let decoded ← decodeCursor float64 lenient text
    readOffset binding decoded

/-- The page of an ordered collection at an offset. -/
def pageAt (binding : CursorBinding) (ordered : List WorkspaceProjection) (size offset : Nat) :
    WorkspaceProjectionPage :=
  let items := (ordered.drop offset).take size
  let next := offset + items.length
  { items
    nextCursor := if next < ordered.length then some (encodeCursor (cursorPayload binding next))
      else none
    observedCount := ordered.length
    collectionFingerprint := binding.collectionFingerprint }

/-- `paginate_workspace_projections` -/
def paginateWorkspaceProjections (items : List WorkspaceProjection) (spec : WorkspaceQuerySpec)
    (scheduleState : Option String) (sourceFingerprint : String) :
    Read WorkspaceProjectionPage := do
  let filters ← readFilters spec.filters
  let selected ← filtered filters scheduleState items
  let ordered := sorted selected spec
  let binding := bindingOf spec sourceFingerprint ordered
  let offset ← startOffset float64 lenient binding spec.cursor
  return pageAt binding ordered spec.pageSize offset

end
end PlantNexus.Workspace
