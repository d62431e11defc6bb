import PlantNexus.Workspace.Selection

/-! Pages and the cursors between them.

A cursor is decoded to the document it encodes, so it gives its offset to the binding it was issued
for and is stale for every other (`startOffset_encode`). The pages of a query are the consecutive
blocks of its collection, and following `next_cursor` from the first page ends with the whole of it
(`follows_from`). A cursor issued for another query is refused, apart from a collision of the
digest (`refuses_foreign`). -/
namespace PlantNexus.Workspace
open Data Domain JsonRead

/-! ### Cursors -/

section
variable {float64 : List Char → Option FloatValue} {lenient : List UInt8 → Option Json}

theorem decodeUtf8_encode (text : List Char) :
    decodeUtf8 (text.flatMap String.utf8EncodeChar) = some text := by
  have hbytes : (text.flatMap String.utf8EncodeChar).toByteArray = text.utf8Encode := rfl
  rw [decodeUtf8, hbytes, List.utf8Decode?_utf8Encode, Option.map_some]

/-- **A cursor is decoded to the document it encodes.** -/
theorem decodeCursor_encode {members : List (String × Json)}
    (hprinted : Printed float64 (.obj members)) :
    decodeCursor float64 lenient (encodeCursor (.obj members)) =
      .ok (Json.obj members).canonical := by
  have hloads : jsonLoads float64 lenient (canonicalWorkspaceBytes (.obj members)) =
      some (Json.obj members).canonical := by
    rw [jsonLoads, canonicalWorkspaceBytes, decodeUtf8_encode]
    simp only [loads_dumps _ hprinted]
  rw [decodeCursor, encodeCursor, String.toList_ofList, String.length_ofList,
    Base64.urlsafeB64decode_padded, Option.bind_some, hloads]
  rfl

theorem cursorMembers_nodup (binding : CursorBinding) (offset : Nat) :
    ((cursorMembers binding offset).map Prod.fst).Nodup := by
  show ["cursor_version", "query_scope_fingerprint", "source_fingerprint",
    "collection_fingerprint", "view", "offset"].Nodup
  decide

theorem printed_cursorPayload (binding : CursorBinding) (offset : Nat) :
    Printed float64 (cursorPayload binding offset) :=
  ⟨cursorMembers_nodup binding offset, trivial, trivial, trivial, trivial, trivial, trivial,
    trivial⟩

end

/-- A field of the cursor that has to name a text. -/
theorem demand_text (actual expected : String) (reason : WorkspaceReadFailure)
    (field message : String) :
    demand ((Json.str actual).pyEq (.str expected) = true) reason field message =
      if actual = expected then .ok () else reject reason field message := by
  rw [demand, require, Json.pyEq]
  simp only [beq_iff_eq]
  rfl

/-- **A cursor of another binding is stale**; one of the same binding gives its offset. -/
theorem readOffset_canonical (binding issued : CursorBinding) (offset : Nat) :
    readOffset binding (cursorPayload issued offset).canonical =
      if issued = binding then .ok offset
      else reject .staleCursor "page.cursor"
        "cursor no longer binds this query and immutable source" := by
  have hget : ∀ key, (cursorPayload issued offset).canonical.get key =
      ((cursorPayload issued offset).get key).canonical :=
    fun key => get_canonical key (cursorMembers_nodup issued offset)
  have hversion : (cursorPayload issued offset).get "cursor_version" =
      .str "workspace-cursor.v1" := rfl
  have hscope : (cursorPayload issued offset).get "query_scope_fingerprint" =
      .str issued.scopeFingerprint := rfl
  have hsource : (cursorPayload issued offset).get "source_fingerprint" =
      .str issued.sourceFingerprint := rfl
  have hcollection : (cursorPayload issued offset).get "collection_fingerprint" =
      .str issued.collectionFingerprint := rfl
  have hview : (cursorPayload issued offset).get "view" = .str issued.view := rfl
  have hoffset : (cursorPayload issued offset).get "offset" = .int offset := rfl
  obtain ⟨scope, source, collection, view⟩ := binding
  obtain ⟨scope', source', collection', view'⟩ := issued
  simp only [readOffset, CursorBinding.fields, forEach, forEachFrom, hget, hversion, hscope,
    hsource, hcollection, hview, hoffset, Json.canonical, demand_text, CursorBinding.mk.injEq]
  by_cases h1 : scope' = scope
  · by_cases h2 : source' = source
    · by_cases h3 : collection' = collection
      · by_cases h4 : view' = view
        · simp only [h1, h2, h3, h4]
          rfl
        · simp only [h1, h2, h3, h4]
          rfl
      · simp only [h1, h2, h3]
        rfl
    · simp only [h1, h2]
      rfl
  · simp only [h1]
    rfl

/-! ### Pages -/

/-- The collection that a query pages through. -/
def orderedItems (items : List WorkspaceProjection) (spec : WorkspaceQuerySpec)
    (scheduleState : Option String) : Read (List WorkspaceProjection) := do
  let filters ← readFilters spec.filters
  let selected ← filtered filters scheduleState items
  return sorted selected spec

section
variable (float64 : List Char → Option FloatValue) (lenient : List UInt8 → Option Json)
  (items : List WorkspaceProjection) (spec : WorkspaceQuerySpec) (scheduleState : Option String)
  (sourceFingerprint : String)

/-- The page of the query at a cursor. -/
def pageOf (cursor : Option String) : Read WorkspaceProjectionPage :=
  paginateWorkspaceProjections float64 lenient items { spec with cursor } scheduleState
    sourceFingerprint

/-- Following `next_cursor` from a cursor until it is null gives these items. -/
inductive Follows : Option String → List WorkspaceProjection → Prop where
  | last {cursor : Option String} {page : WorkspaceProjectionPage}
      (hpage : pageOf float64 lenient items spec scheduleState sourceFingerprint cursor = .ok page)
      (hend : page.nextCursor = none) : Follows cursor page.items
  | next {cursor : Option String} {page : WorkspaceProjectionPage} {token : String}
      {rest : List WorkspaceProjection}
      (hpage : pageOf float64 lenient items spec scheduleState sourceFingerprint cursor = .ok page)
      (htoken : page.nextCursor = some token) (hrest : Follows (some token) rest) :
      Follows cursor (page.items ++ rest)

end

section
variable {float64 : List Char → Option FloatValue} {lenient : List UInt8 → Option Json}
  {items : List WorkspaceProjection} {spec : WorkspaceQuerySpec} {scheduleState : Option String}
  {sourceFingerprint : String}

/-- The answer does not depend on the way: each page and its cursor are determined. -/
theorem Follows.unique {cursor : Option String} {first second : List WorkspaceProjection}
    (hfirst : Follows float64 lenient items spec scheduleState sourceFingerprint cursor first)
    (hsecond : Follows float64 lenient items spec scheduleState sourceFingerprint cursor second) :
    first = second := by
  induction hfirst generalizing second with
  | last hpage hend =>
    cases hsecond with
    | last hpage' hend' => rw [Except.ok.inj (hpage.symm.trans hpage')]
    | next hpage' htoken' hrest' =>
      rw [← Except.ok.inj (hpage.symm.trans hpage'), hend] at htoken'
      cases htoken'
  | next hpage htoken hrest ih =>
    cases hsecond with
    | last hpage' hend' =>
      rw [← Except.ok.inj (hpage.symm.trans hpage'), htoken] at hend'
      cases hend'
    | next hpage' htoken' hrest' =>
      obtain rfl := Except.ok.inj (hpage.symm.trans hpage')
      rw [htoken] at htoken'
      obtain rfl := Option.some.inj htoken'
      rw [ih hrest']

theorem pageOf_ok_iff {cursor : Option String} {page : WorkspaceProjectionPage} :
    pageOf float64 lenient items spec scheduleState sourceFingerprint cursor = .ok page ↔
      ∃ ordered offset, orderedItems items spec scheduleState = .ok ordered ∧
        startOffset float64 lenient (bindingOf spec sourceFingerprint ordered) cursor =
          .ok offset ∧
        pageAt (bindingOf spec sourceFingerprint ordered) ordered spec.pageSize offset = page := by
  simp only [pageOf, paginateWorkspaceProjections, orderedItems, bind_eq_ok]
  constructor
  · rintro ⟨filters, hfilters, selected, hselected, offset, hoffset, hpage⟩
    exact ⟨sorted selected spec, offset, ⟨filters, hfilters, selected, hselected, rfl⟩, hoffset,
      Except.ok.inj hpage⟩
  · rintro ⟨ordered, offset, ⟨filters, hfilters, selected, hselected, heq⟩, hoffset, hpage⟩
    obtain rfl := Except.ok.inj heq
    exact ⟨filters, hfilters, selected, hselected, offset, hoffset, congrArg _ hpage⟩

/-- A cursor is accepted exactly by the binding it was issued for. -/
theorem startOffset_encode (binding issued : CursorBinding) (offset : Nat) :
    startOffset float64 lenient binding (some (encodeCursor (cursorPayload issued offset))) =
      if issued = binding then .ok offset
      else reject .staleCursor "page.cursor"
        "cursor no longer binds this query and immutable source" := by
  have hdecoded : decodeCursor float64 lenient (encodeCursor (cursorPayload issued offset)) =
      .ok (cursorPayload issued offset).canonical :=
    decodeCursor_encode (printed_cursorPayload issued offset)
  rw [← readOffset_canonical binding issued offset, startOffset, hdecoded]
  simp only [bind, Except.bind]

/-- **The pages are the consecutive blocks of the collection.** -/
theorem follows_from {ordered : List WorkspaceProjection}
    (hordered : orderedItems items spec scheduleState = .ok ordered) (hsize : 1 ≤ spec.pageSize)
    (remaining : Nat) : ∀ (offset : Nat) (cursor : Option String),
    ordered.length - offset ≤ remaining →
    startOffset float64 lenient (bindingOf spec sourceFingerprint ordered) cursor = .ok offset →
    Follows float64 lenient items spec scheduleState sourceFingerprint cursor
      (ordered.drop offset) := by
  induction remaining with
  | zero =>
    intro offset cursor hremaining hoffset
    have hpage := pageOf_ok_iff.mpr ⟨ordered, offset, hordered, hoffset, rfl⟩
    have hnil : ordered.drop offset = [] := List.drop_eq_nil_of_le (by omega)
    have hitems : (pageAt (bindingOf spec sourceFingerprint ordered) ordered spec.pageSize
        offset).items = ordered.drop offset := by
      rw [pageAt, hnil, List.take_nil]
    rw [← hitems]
    refine Follows.last hpage (if_neg ?_)
    rw [hnil, List.take_nil, List.length_nil]
    omega
  | succ remaining ih =>
    intro offset cursor hremaining hoffset
    have hpage := pageOf_ok_iff.mpr ⟨ordered, offset, hordered, hoffset, rfl⟩
    have hlength : ((ordered.drop offset).take spec.pageSize).length =
        min spec.pageSize (ordered.length - offset) := by
      rw [List.length_take, List.length_drop]
    by_cases hmore : offset + ((ordered.drop offset).take spec.pageSize).length < ordered.length
    · -- a full page, and the cursor to the block after it
      have hfull : ((ordered.drop offset).take spec.pageSize).length = spec.pageSize := by omega
      have hrest := ih (offset + spec.pageSize)
        (some (encodeCursor (cursorPayload (bindingOf spec sourceFingerprint ordered)
          (offset + spec.pageSize)))) (by omega) (by rw [startOffset_encode, if_pos rfl])
      have htoken : (pageAt (bindingOf spec sourceFingerprint ordered) ordered spec.pageSize
          offset).nextCursor = some (encodeCursor (cursorPayload
            (bindingOf spec sourceFingerprint ordered) (offset + spec.pageSize))) := by
        rw [pageAt, if_pos hmore, hfull]
      have hall := Follows.next hpage htoken hrest
      rw [← List.drop_drop] at hall
      rw [← List.take_append_drop spec.pageSize (ordered.drop offset)]
      exact hall
    · have htake : (ordered.drop offset).take spec.pageSize = ordered.drop offset := by
        refine List.take_of_length_le ?_
        rw [List.length_drop]
        omega
      have hlast := Follows.last hpage (if_neg hmore)
      rw [pageAt, htake] at hlast
      exact hlast

theorem follows_first {ordered : List WorkspaceProjection}
    (hordered : orderedItems items spec scheduleState = .ok ordered)
    (hsize : 1 ≤ spec.pageSize) :
    Follows float64 lenient items spec scheduleState sourceFingerprint none ordered :=
  follows_from hordered hsize ordered.length 0 none (by omega) rfl

/-- Whoever reaches the end has the whole collection. -/
theorem Follows.ordered {result : List WorkspaceProjection} (hsize : 1 ≤ spec.pageSize)
    (h : Follows float64 lenient items spec scheduleState sourceFingerprint none result) :
    orderedItems items spec scheduleState = .ok result := by
  have hordered : ∃ ordered, orderedItems items spec scheduleState = .ok ordered := by
    cases h with
    | last hpage _ =>
      obtain ⟨ordered, -, hordered, -⟩ := pageOf_ok_iff.mp hpage
      exact ⟨ordered, hordered⟩
    | next hpage _ _ =>
      obtain ⟨ordered, -, hordered, -⟩ := pageOf_ok_iff.mp hpage
      exact ⟨ordered, hordered⟩
  obtain ⟨ordered, hordered⟩ := hordered
  rw [hordered, h.unique (follows_first hordered hsize)]

end
/-! ### Cursors of other queries -/

/-- The two queries have the same scope, sort terms, filters and page size; documents are compared
by their canonical text. -/
structure SameScope (a b : WorkspaceQuerySpec) : Prop where
  dataPlane : a.dataPlane = b.dataPlane
  environment : a.environment = b.environment
  resourceType : a.resourceType = b.resourceType
  resourceId : a.resourceId = b.resourceId
  precondition : (Json.ofOption id a.scheduleVersionPrecondition).dumps =
    (Json.ofOption id b.scheduleVersionPrecondition).dumps
  view : a.view = b.view
  sort : (Json.arr a.sort).dumps = (Json.arr b.sort).dumps
  filters : a.filters.dumps = b.filters.dumps
  pageSize : a.pageSize = b.pageSize

/-- A collision of the digest on two documents. -/
def Collide (a b : Json) : Prop :=
  a.dumps ≠ b.dumps ∧ contractFingerprint a = contractFingerprint b

theorem str_of_dumps {a b : String} (h : (Json.str a).dumps = (Json.str b).dumps) : a = b := by
  have hfree : ∀ text, (Json.str text).NoFloat := fun _ => trivial
  exact Json.str.inj (Json.canonical_eq_of_dumps_eq (hfree a) (hfree b) h)

theorem sameScope_of_dumps {a b : WorkspaceQuerySpec} (ha : Representable (cursorScope a))
    (hb : Representable (cursorScope b)) (h : (cursorScope a).dumps = (cursorScope b).dumps) :
    SameScope a b := by
  have hget := dumps_get_eq ha hb h
  refine ⟨str_of_dumps (hget "data_plane"), str_of_dumps (hget "environment"),
    str_of_dumps (hget "resource_type"), ?_, hget "schedule_version_precondition", ?_, hget "sort",
    hget "filters", ?_⟩
  · have hid : (Json.ofOption Json.str a.resourceId).dumps =
        (Json.ofOption Json.str b.resourceId).dumps := hget "resource_id"
    have hfree : ∀ value : Option String, (Json.ofOption Json.str value).NoFloat := by
      intro value
      cases value with
      | none => trivial
      | some text => trivial
    have hcanonical := Json.canonical_eq_of_dumps_eq (hfree a.resourceId) (hfree b.resourceId) hid
    cases hleft : a.resourceId with
    | none =>
      cases hright : b.resourceId with
      | none => rfl
      | some right =>
        rw [hleft, hright] at hcanonical
        cases hcanonical
    | some left =>
      cases hright : b.resourceId with
      | none =>
        rw [hleft, hright] at hcanonical
        cases hcanonical
      | some right =>
        rw [hleft, hright] at hcanonical
        rw [Json.str.inj hcanonical]
  · exact WorkspaceView.value_injective (str_of_dumps (hget "view"))
  · have hsize : (Json.int a.pageSize).dumps = (Json.int b.pageSize).dumps := hget "page_size"
    have hfree : ∀ value, (Json.int value).NoFloat := fun _ => trivial
    have heq := Json.int.inj (Json.canonical_eq_of_dumps_eq (hfree _) (hfree _) hsize)
    omega

/-- The parts of an item that its carrier reference names. -/
def referenceOf (item : WorkspaceProjection) : String × String × String :=
  (item.itemId, item.itemType, item.payloadFingerprint)

def referenceDocument (reference : String × String × String) : Json :=
  .obj [("item_id", .str reference.1), ("item_type", .str reference.2.1),
    ("payload_fingerprint", .str reference.2.2)]

theorem carrierReference_eq (items : List WorkspaceProjection) :
    items.map WorkspaceProjection.carrierReference =
      (items.map referenceOf).map referenceDocument := by
  rw [List.map_map]
  rfl

theorem referenceDocument_inj (a b : String × String × String)
    (h : (referenceDocument a).canonical = (referenceDocument b).canonical) : a = b := by
  have hkeys : ["item_id", "item_type", "payload_fingerprint"].Nodup := by decide
  have hget : ∀ key, ((referenceDocument a).get key).canonical =
      ((referenceDocument b).get key).canonical := by
    intro key
    refine Json.canonical_get_eq ?_ h key
    exact hkeys
  have hid : a.1 = b.1 := Json.str.inj (hget "item_id")
  have htype : a.2.1 = b.2.1 := Json.str.inj (hget "item_type")
  have hfingerprint : a.2.2 = b.2.2 := Json.str.inj (hget "payload_fingerprint")
  exact Prod.ext hid (Prod.ext htype hfingerprint)

theorem references_of_dumps {scope source : String} {xs ys : List WorkspaceProjection}
    (h : (collectionDocument scope source xs).dumps = (collectionDocument scope source ys).dumps) :
    xs.map WorkspaceProjection.carrierReference =
      ys.map WorkspaceProjection.carrierReference := by
  have hfree : ∀ zs, (collectionDocument scope source zs).NoFloat := by
    intro zs
    refine ⟨trivial, trivial, trivial, ?_, trivial⟩
    exact Json.noFloat_arr_map _ zs fun item => ⟨trivial, trivial, trivial, trivial⟩
  have hcanonical := Json.canonical_eq_of_dumps_eq (hfree xs) (hfree ys) h
  have hkeys : ["read_model_version", "query_scope_fingerprint", "source_fingerprint",
      "items"].Nodup := by decide
  have hitems : ((collectionDocument scope source xs).get "items").canonical =
      ((collectionDocument scope source ys).get "items").canonical := by
    refine Json.canonical_get_eq ?_ hcanonical "items"
    exact hkeys
  have harr : (Json.arr ((xs.map referenceOf).map referenceDocument)).canonical =
      (Json.arr ((ys.map referenceOf).map referenceDocument)).canonical := by
    rw [← carrierReference_eq, ← carrierReference_eq]
    exact hitems
  rw [carrierReference_eq, carrierReference_eq,
    Json.canonical_arr_inj referenceDocument_inj harr]

section
variable {float64 : List Char → Option FloatValue} {lenient : List UInt8 → Option Json}
  {items items' : List WorkspaceProjection} {spec spec' : WorkspaceQuerySpec}
  {scheduleState scheduleState' : Option String} {sourceFingerprint sourceFingerprint' : String}

/-- The binding and the offset of a cursor that a page hands out. -/
theorem issued_cursor {page : WorkspaceProjectionPage} {token : String}
    {ordered : List WorkspaceProjection}
    (hordered : orderedItems items spec scheduleState = .ok ordered) {cursor : Option String}
    (hpage : pageOf float64 lenient items spec scheduleState sourceFingerprint cursor = .ok page)
    (htoken : page.nextCursor = some token) :
    ∃ offset, token =
      encodeCursor (cursorPayload (bindingOf spec sourceFingerprint ordered) offset) := by
  obtain ⟨ordered', offset, hordered', -, rfl⟩ := pageOf_ok_iff.mp hpage
  obtain rfl := Except.ok.inj (hordered.symm.trans hordered')
  rw [pageAt] at htoken
  split_ifs at htoken
  exact ⟨_, (Option.some.inj htoken).symm⟩

/-- A cursor that is not refused was issued for the same fingerprints. -/
theorem pageOf_foreign {ordered : List WorkspaceProjection}
    (hordered : orderedItems items spec scheduleState = .ok ordered) (issued : CursorBinding)
    (offset : Nat) :
    (∃ error, pageOf float64 lenient items spec scheduleState sourceFingerprint
        (some (encodeCursor (cursorPayload issued offset))) = .error (.rejected error) ∧
      error.reason = .staleCursor) ∨ issued = bindingOf spec sourceFingerprint ordered := by
  by_cases hsame : issued = bindingOf spec sourceFingerprint ordered
  · exact .inr hsame
  · left
    obtain ⟨filters, hfilters, h⟩ := bind_eq_ok.mp hordered
    obtain ⟨selected, hselected, heq⟩ := bind_eq_ok.mp h
    obtain rfl := Except.ok.inj heq
    refine ⟨⟨.staleCursor, "page.cursor",
      "cursor no longer binds this query and immutable source"⟩, ?_, rfl⟩
    have hstale : startOffset float64 lenient
        (bindingOf spec sourceFingerprint (sorted selected spec))
        (some (encodeCursor (cursorPayload issued offset))) = _ := startOffset_encode ..
    rw [if_neg hsame] at hstale
    refine bind_eq_error.mpr (.inr ⟨filters, hfilters, ?_⟩)
    refine bind_eq_error.mpr (.inr ⟨selected, hselected, ?_⟩)
    exact bind_eq_error.mpr (.inl hstale)

end

section
variable (float64 : List Char → Option FloatValue) (lenient : List UInt8 → Option Json)
  (items : List WorkspaceProjection) (spec : WorkspaceQuerySpec) (scheduleState : Option String)
  (sourceFingerprint : String)

/-- A cursor issued for another scope, sort, filter, page size, source or collection is refused as
stale, unless the digests of two of the documents concerned collide. -/
def RefusesForeign : Prop :=
  ∀ (items' : List WorkspaceProjection) (spec' : WorkspaceQuerySpec)
    (scheduleState' : Option String) (sourceFingerprint' : String) (cursor' : Option String)
    (page : WorkspaceProjectionPage) (token : String)
    (ordered ordered' : List WorkspaceProjection), Representable (cursorScope spec') →
    orderedItems items spec scheduleState = .ok ordered →
    orderedItems items' spec' scheduleState' = .ok ordered' →
    pageOf float64 lenient items' spec' scheduleState' sourceFingerprint' cursor' = .ok page →
    page.nextCursor = some token →
    ¬SameScope spec' spec ∨ sourceFingerprint' ≠ sourceFingerprint ∨
      ordered'.map WorkspaceProjection.carrierReference ≠
        ordered.map WorkspaceProjection.carrierReference →
    (∃ error, pageOf float64 lenient items spec scheduleState sourceFingerprint (some token) =
      .error (.rejected error) ∧ error.reason = .staleCursor) ∨
    Collide (cursorScope spec') (cursorScope spec) ∨
    Collide (collectionDocument (contractFingerprint (cursorScope spec')) sourceFingerprint'
        ordered')
      (collectionDocument (contractFingerprint (cursorScope spec)) sourceFingerprint ordered)

end

section
variable {float64 : List Char → Option FloatValue} {lenient : List UInt8 → Option Json}
  {items : List WorkspaceProjection} {spec : WorkspaceQuerySpec}
  {scheduleState : Option String} {sourceFingerprint : String}

/-- **A cursor of another query is refused.** -/
theorem refuses_foreign (hspec : Representable (cursorScope spec)) :
    RefusesForeign float64 lenient items spec scheduleState sourceFingerprint := by
  intro items' spec' scheduleState' sourceFingerprint' cursor' page token ordered ordered' hspec'
    hordered hordered' hpage htoken hdiffers
  obtain ⟨offset, rfl⟩ := issued_cursor hordered' hpage htoken
  rcases @pageOf_foreign float64 lenient items spec scheduleState sourceFingerprint ordered
    hordered (bindingOf spec' sourceFingerprint' ordered') offset with hrefused | hsame
  · exact .inl hrefused
  · right
    obtain ⟨hscope, hsource, hcollection, -⟩ := CursorBinding.mk.inj hsame
    by_cases hscopeText : (cursorScope spec').dumps = (cursorScope spec).dumps
    · by_cases hcollectionText :
          (collectionDocument (contractFingerprint (cursorScope spec')) sourceFingerprint'
            ordered').dumps =
          (collectionDocument (contractFingerprint (cursorScope spec)) sourceFingerprint
            ordered).dumps
      · exfalso
        rcases hdiffers with hdiffers | hdiffers | hdiffers
        · exact hdiffers (sameScope_of_dumps hspec' hspec hscopeText)
        · exact hdiffers hsource
        · rw [hscope, hsource] at hcollectionText
          exact hdiffers (references_of_dumps hcollectionText)
      · exact .inr ⟨hcollectionText, hcollection⟩
    · exact .inl ⟨hscopeText, hscope⟩

end

end PlantNexus.Workspace
