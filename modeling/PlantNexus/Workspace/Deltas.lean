import PlantNexus.Data.JsonEquality
import PlantNexus.Workspace.Comparison

/-! Deltas of a version comparison.

The indexed rows of a bound version are the rows that assign its operations, and each of them is
in one slot: a resource and an interval. The kind of a delta is decided by the resource, the
duration and the start text of two rows, so it says `UNCHANGED` for the rows in one slot exactly
when these determine the interval (`unchanged_iff_sameSlot`). -/
namespace PlantNexus.Workspace
open Data Domain Time

/-! ### Rows of a version -/

theorem mapping_ok {value result : Json} {field : String} (h : mapping value field = .ok result) :
    result = value := by
  obtain ⟨-, heq⟩ := bind_unit_eq_ok.mp h
  exact (Except.ok.inj heq).symm

theorem readText_ok {value : Json} {field text : String} (h : readText value field = .ok text) :
    value = .str text := by
  cases value with
  | str found =>
    obtain ⟨-, heq⟩ := bind_unit_eq_ok.mp h
    rw [Except.ok.inj heq]
  | _ => cases h

theorem rowsFrom_ok {field : String} {start : Nat} {values result : List Json}
    (h : rowsFrom field start values = .ok result) : result = values := by
  induction values generalizing start result with
  | nil => exact (Except.ok.inj h).symm
  | cons value rest ih =>
    obtain ⟨row, hrow, h⟩ := bind_eq_ok.mp h
    obtain ⟨more, hmore, h⟩ := bind_eq_ok.mp h
    rw [← Except.ok.inj h, mapping_ok hrow, ih hmore]

theorem rows_ok {value : Json} {field : String} {result : List Json}
    (h : rows value field = .ok result) : value = .arr result := by
  obtain ⟨values, hvalues, h⟩ := bind_eq_ok.mp h
  rw [rowsFrom_ok h]
  cases value with
  | arr items => rw [Except.ok.inj hvalues]
  | _ => cases hvalues

theorem sortRows_ok {values result : List Json} {idField field : String}
    (h : sortRows values idField field = .ok result) : result.Perm values := by
  obtain ⟨keyed, hkeyed, hresult⟩ := bind_eq_ok.mp h
  have hsnd : keyed.map Prod.snd = values := by
    have hall := (collect_eq_ok_iff _ _ _).mp hkeyed
    clear h hresult hkeyed
    induction hall with
    | nil => rfl
    | cons hrow _ ih =>
      obtain ⟨key, -, heq⟩ := bind_eq_ok.mp hrow
      rw [List.map_cons, ← Except.ok.inj heq, ih]
  rw [← Except.ok.inj hresult, ← hsnd]
  exact (sortByKey_perm Prod.fst keyed).map Prod.snd

/-- Rows under their distinct identities. -/
structure Indexed (idField : String) (values : List Json) (result : List (String × Json)) :
    Prop where
  rows : result.map Prod.snd = values
  identity : ∀ entry ∈ result, entry.2.get idField = .str entry.1
  nodup : (result.map Prod.fst).Nodup

theorem indexFrom_ok {idField field : String} {start : Nat} {seen : List (String × Json)}
    {done values : List Json} {result : List (String × Json)} (hseen : Indexed idField done seen)
    (h : indexFrom idField field start seen values = .ok result) :
    Indexed idField (done ++ values) result := by
  induction values generalizing start seen done with
  | nil =>
    rw [← Except.ok.inj h, List.append_nil]
    exact hseen
  | cons row rest ih =>
    obtain ⟨identity, hidentity, h⟩ := bind_eq_ok.mp h
    obtain ⟨hfresh, h⟩ := bind_unit_eq_ok.mp h
    rw [demand, require_eq_ok] at hfresh
    have hnext : Indexed idField (done ++ [row]) (seen ++ [(identity, row)]) := by
      refine ⟨?_, ?_, ?_⟩
      · rw [List.map_append, hseen.rows]
        rfl
      · intro entry hentry
        rcases List.mem_append.mp hentry with hentry | hentry
        · exact hseen.identity entry hentry
        · rw [List.mem_singleton.mp hentry]
          exact readText_ok hidentity
      · rw [List.map_append]
        refine hseen.nodup.append (List.nodup_singleton _) ?_
        intro text hold hnew
        rw [List.mem_singleton.mp hnew] at hold
        exact hfresh hold
    have hall := ih hnext h
    rw [List.append_assoc] at hall
    exact hall

theorem index_ok {values : List Json} {idField field : String} {result : List (String × Json)}
    (h : index values idField field = .ok result) : Indexed idField values result :=
  indexFrom_ok ⟨rfl, fun _ hmem => absurd hmem List.not_mem_nil, List.nodup_nil⟩ h

/-! ### Assignments -/

/-- The rows that a version assigns its operations by. -/
def versionAssignments (version : Json) : List Json :=
  match (version.get "content").get "assignments" with
  | .arr rows => rows
  | _ => []

/-- The version assigns the operation by this row. -/
def Assigns (version : Json) (operationId : String) (row : Json) : Prop :=
  row ∈ versionAssignments version ∧ row.get "operation_id" = .str operationId

/-- The resource and the interval of a row. -/
structure Slot where
  resource : String
  start : Datetime
  finish : Datetime
deriving DecidableEq

/-- The row puts its operation into this slot. -/
structure InSlot (row : Json) (slot : Slot) : Prop where
  resource : row.get "resource_id" = .str slot.resource
  start : ∃ text, row.get "start_at_utc" = .str text ∧ instantOf text = some slot.start
  finish : ∃ text, row.get "end_at_utc" = .str text ∧ instantOf text = some slot.finish

theorem InSlot.unique {row : Json} {slot slot' : Slot} (h : InSlot row slot)
    (h' : InSlot row slot') : slot = slot' := by
  obtain ⟨resource, start, finish⟩ := slot
  obtain ⟨resource', start', finish'⟩ := slot'
  obtain ⟨hresource, ⟨stext, hstext, hstart⟩, ⟨ftext, hftext, hfinish⟩⟩ := h
  obtain ⟨hresource', ⟨stext', hstext', hstart'⟩, ⟨ftext', hftext', hfinish'⟩⟩ := h'
  obtain rfl := Json.str.inj (hresource.symm.trans hresource')
  obtain rfl := Json.str.inj (hstext.symm.trans hstext')
  obtain rfl := Json.str.inj (hftext.symm.trans hftext')
  obtain rfl := Option.some.inj (hstart.symm.trans hstart')
  obtain rfl := Option.some.inj (hfinish.symm.trans hfinish')
  rfl

theorem parseInstant_ok {text : String} {instant : Datetime}
    (h : parseInstant text = .ok instant) : instantOf text = some instant := by
  unfold parseInstant at h
  unfold instantOf
  cases hparse : parseUtcInstant text with
  | ok found =>
    rw [hparse] at h
    rw [Except.ok.inj h]
  | error message =>
    rw [hparse] at h
    cases h

/-- Every assignment that is counted has a slot. -/
theorem busyFrom_slots {operations resources : List (String × Json)} {busy result :
    List (String × Int)} {assignments : List Json}
    (h : busyFrom operations resources busy assignments = .ok result) :
    ∀ row ∈ assignments, ∃ slot, InSlot row slot := by
  induction assignments generalizing busy with
  | nil => exact fun _ hmem => absurd hmem List.not_mem_nil
  | cons row rest ih =>
    obtain ⟨operationId, -, h⟩ := bind_eq_ok.mp h
    obtain ⟨resourceId, hresource, h⟩ := bind_eq_ok.mp h
    obtain ⟨-, h⟩ := bind_unit_eq_ok.mp h
    obtain ⟨seconds, hseconds, h⟩ := bind_eq_ok.mp h
    obtain ⟨stext, hstext, hseconds⟩ := bind_eq_ok.mp hseconds
    obtain ⟨start, hstart, hseconds⟩ := bind_eq_ok.mp hseconds
    obtain ⟨ftext, hftext, hseconds⟩ := bind_eq_ok.mp hseconds
    obtain ⟨finish, hfinish, -⟩ := bind_eq_ok.mp hseconds
    intro other hother
    rcases List.mem_cons.mp hother with rfl | hother
    · exact ⟨⟨resourceId, start, finish⟩, readText_ok hresource,
        ⟨stext, readText_ok hstext, parseInstant_ok hstart⟩,
        ⟨ftext, readText_ok hftext, parseInstant_ok hfinish⟩⟩
    · exact ih h other hother

/-- What binding a version says of its assignments. -/
structure BoundVersion (version : Json) (assignments : List Json) : Prop where
  perm : assignments.Perm (versionAssignments version)
  slots : ∀ row ∈ assignments, ∃ slot, InSlot row slot

theorem bindWorkspaceSources_ok {version : Json} {sources : WorkspaceSourceDocuments}
    {plane : String} {bound : BoundWorkspaceSources}
    (h : bindWorkspaceSources version sources plane = .ok bound) :
    BoundVersion version bound.assignments := by
  obtain ⟨_, -, h⟩ := bind_eq_ok.mp h
  obtain ⟨_, -, h⟩ := bind_eq_ok.mp h
  obtain ⟨-, h⟩ := bind_unit_eq_ok.mp h
  obtain ⟨_, -, h⟩ := bind_eq_ok.mp h
  obtain ⟨-, h⟩ := bind_unit_eq_ok.mp h
  obtain ⟨content, hcontent, h⟩ := bind_eq_ok.mp h
  obtain ⟨raw, hraw, h⟩ := bind_eq_ok.mp h
  obtain ⟨assignments, hassignments, h⟩ := bind_eq_ok.mp h
  obtain ⟨_, -, h⟩ := bind_eq_ok.mp h
  obtain ⟨_, -, h⟩ := bind_eq_ok.mp h
  obtain ⟨-, h⟩ := bind_unit_eq_ok.mp h
  obtain ⟨_, -, h⟩ := bind_eq_ok.mp h
  obtain ⟨_, -, h⟩ := bind_eq_ok.mp h
  obtain ⟨-, h⟩ := bind_unit_eq_ok.mp h
  obtain ⟨_, -, h⟩ := bind_eq_ok.mp h
  obtain ⟨_, -, h⟩ := bind_eq_ok.mp h
  obtain ⟨_, -, h⟩ := bind_eq_ok.mp h
  obtain ⟨_, -, h⟩ := bind_eq_ok.mp h
  obtain ⟨_, -, h⟩ := bind_eq_ok.mp h
  obtain ⟨_, -, h⟩ := bind_eq_ok.mp h
  obtain ⟨_, -, h⟩ := bind_eq_ok.mp h
  obtain ⟨_, -, h⟩ := bind_eq_ok.mp h
  obtain ⟨_, -, h⟩ := bind_eq_ok.mp h
  obtain ⟨_, -, h⟩ := bind_eq_ok.mp h
  obtain ⟨busy, hbusy, h⟩ := bind_eq_ok.mp h
  obtain ⟨-, h⟩ := bind_unit_eq_ok.mp h
  rw [← Except.ok.inj h]
  refine ⟨?_, busyFrom_slots hbusy⟩
  have hrows : versionAssignments version = raw := by
    rw [versionAssignments, ← mapping_ok hcontent, rows_ok hraw]
  rw [hrows]
  exact sortRows_ok hassignments

/-- The indexed assignments of a version are the rows that assign its operations. -/
theorem assignmentOf_iff {version : Json} {assignments : List Json}
    {indexed : List (String × Json)} (hbound : BoundVersion version assignments)
    (hindexed : Indexed "operation_id" assignments indexed) (operationId : String) (row : Json) :
    assignmentOf indexed operationId = some row ↔ Assigns version operationId row := by
  have hdict : assignmentOf indexed operationId = some row ↔ (operationId, row) ∈ indexed := by
    rw [assignmentOf, Option.map_eq_some_iff]
    constructor
    · rintro ⟨⟨key, found⟩, hget, rfl⟩
      obtain ⟨hmem, hkey⟩ := (dictGet_eq_some_iff Prod.fst indexed operationId _ hindexed.nodup).mp
        hget
      rw [← hkey]
      exact hmem
    · intro hmem
      exact ⟨(operationId, row), (dictGet_eq_some_iff Prod.fst indexed operationId _
        hindexed.nodup).mpr ⟨hmem, rfl⟩, rfl⟩
  rw [hdict, Assigns, ← hbound.perm.mem_iff, ← hindexed.rows]
  constructor
  · intro hmem
    exact ⟨List.mem_map.mpr ⟨_, hmem, rfl⟩, hindexed.identity _ hmem⟩
  · rintro ⟨hmem, hid⟩
    obtain ⟨⟨key, found⟩, hentry, rfl⟩ := List.mem_map.mp hmem
    have hkey := hindexed.identity _ hentry
    rw [hid] at hkey
    rw [Json.str.inj hkey]
    exact hentry

/-! ### Kinds -/

/-- The kind of a change seen from the other version. -/
def ChangeKind.swap : ChangeKind → ChangeKind
  | .added => .removed
  | .removed => .added
  | kind => kind

/-- An operation that stays on its resource: equal durations and start texts go with equal start
and end instants. -/
def SlotDetermined (base compared : Json) : Prop :=
  ∀ slot slot', InSlot base slot → InSlot compared slot' → slot.resource = slot'.resource →
    ((base.get "duration_seconds").pyEq (compared.get "duration_seconds") = true ∧
        base.get "start_at_utc" = compared.get "start_at_utc" ↔
      slot.start = slot'.start ∧ slot.finish = slot'.finish)

/-- Two rows are in one slot. -/
def SameSlot (base compared : Json) : Prop := ∃ slot, InSlot base slot ∧ InSlot compared slot

theorem changeKind_unchanged_iff {base compared : Json} {slot slot' : Slot}
    (hbase : InSlot base slot) (hcompared : InSlot compared slot') :
    changeKind (some base) (some compared) = .unchanged ↔
      slot.resource = slot'.resource ∧
        (base.get "duration_seconds").pyEq (compared.get "duration_seconds") = true ∧
        base.get "start_at_utc" = compared.get "start_at_utc" := by
  obtain ⟨stext, hstext, -⟩ := hbase.start
  obtain ⟨stext', hstext', -⟩ := hcompared.start
  have hresource : (base.get "resource_id").pyEq (compared.get "resource_id") = true ↔
      slot.resource = slot'.resource := by
    rw [hbase.resource, hcompared.resource, Json.pyEq_str]
  have hstart : (base.get "start_at_utc").pyEq (compared.get "start_at_utc") = true ↔
      base.get "start_at_utc" = compared.get "start_at_utc" := by
    rw [hstext, hstext', Json.pyEq_str, Json.str.injEq]
  rw [← hresource, ← hstart, changeKind]
  cases (base.get "resource_id").pyEq (compared.get "resource_id") with
  | false => simp
  | true =>
    cases (base.get "duration_seconds").pyEq (compared.get "duration_seconds") with
    | false => simp
    | true => cases (base.get "start_at_utc").pyEq (compared.get "start_at_utc") <;> simp

theorem sameSlot_iff {base compared : Json} {slot slot' : Slot} (hbase : InSlot base slot)
    (hcompared : InSlot compared slot') : SameSlot base compared ↔ slot = slot' := by
  constructor
  · rintro ⟨common, hleft, hright⟩
    rw [hbase.unique hleft, hcompared.unique hright]
  · rintro rfl
    exact ⟨slot, hbase, hcompared⟩

/-- **A delta is unchanged for the rows in one slot** exactly if the slot is determined. -/
theorem unchanged_iff_sameSlot {base compared : Json} {slot slot' : Slot}
    (hbase : InSlot base slot) (hcompared : InSlot compared slot') :
    (changeKind (some base) (some compared) = .unchanged ↔ SameSlot base compared) ↔
      SlotDetermined base compared := by
  rw [changeKind_unchanged_iff hbase hcompared, sameSlot_iff hbase hcompared]
  have hslots : slot = slot' ↔
      slot.resource = slot'.resource ∧ slot.start = slot'.start ∧ slot.finish = slot'.finish := by
    obtain ⟨resource, start, finish⟩ := slot
    obtain ⟨resource', start', finish'⟩ := slot'
    rw [Slot.mk.injEq]
  rw [hslots]
  constructor
  · intro hagree other other' hother hother' hresource
    rw [← hbase.unique hother, ← hcompared.unique hother'] at hresource ⊢
    simpa only [hresource, true_and] using hagree
  · intro hdetermined
    exact and_congr_right fun hresource => hdetermined slot slot' hbase hcompared hresource

theorem changeKind_swap {base compared : Option Json}
    (hbase : ∀ row ∈ base, row.WellFormed) (hcompared : ∀ row ∈ compared, row.WellFormed)
    (hone : base ≠ none ∨ compared ≠ none) :
    changeKind compared base = (changeKind base compared).swap := by
  cases base with
  | none =>
    cases compared with
    | none => simp at hone
    | some row => rfl
  | some left =>
    cases compared with
    | none => rfl
    | some right =>
      have hcomm : ∀ field, (right.get field).pyEq (left.get field) =
          (left.get field).pyEq (right.get field) := fun field =>
        Json.pyEq_comm (Json.wellFormed_get (hcompared right rfl) field)
          (Json.wellFormed_get (hbase left rfl) field)
      simp only [changeKind, hcomm]
      split_ifs <;> rfl

/-! ### Deltas -/

theorem ChangeKind.value_injective : Function.Injective ChangeKind.value := by
  intro kind kind' h
  cases kind <;> cases kind' <;> first | rfl | exact absurd h (by decide)

theorem ChangeKind.swap_swap (kind : ChangeKind) : kind.swap.swap = kind := by
  cases kind <;> rfl

theorem mem_keys_iff {entries : List (String × Json)} {operationId : String} :
    operationId ∈ entries.map Prod.fst ↔ assignmentOf entries operationId ≠ none := by
  rw [assignmentOf, ne_eq, Option.map_eq_none_iff, dictGet_eq_none_iff, List.mem_map]
  push Not
  rfl

theorem mem_comparedIds {base compared : List (String × Json)} {operationId : String} :
    operationId ∈ comparedIds base compared ↔
      assignmentOf base operationId ≠ none ∨ assignmentOf compared operationId ≠ none := by
  rw [comparedIds, mem_sortByKey, List.mem_dedup, List.mem_append, mem_keys_iff,
    mem_keys_iff]

theorem mem_commonIds {base compared : List (String × Json)} {operationId : String} :
    operationId ∈ commonIds base compared ↔
      assignmentOf base operationId ≠ none ∧ assignmentOf compared operationId ≠ none := by
  rw [commonIds, mem_sortByKey, List.mem_dedup, List.mem_filter, decide_eq_true_iff, mem_keys_iff,
    mem_keys_iff]

theorem comparedIds_nodup (base compared : List (String × Json)) :
    (comparedIds base compared).Nodup :=
  (sortByKey_perm id _).nodup_iff.mpr (List.nodup_dedup _)

theorem commonIds_nodup (base compared : List (String × Json)) :
    (commonIds base compared).Nodup :=
  (sortByKey_perm id _).nodup_iff.mpr (List.nodup_dedup _)

/-- The operations that change their resource are counted once more, over the common ones. -/
theorem resourceChangedCount_eq (base compared : List (String × Json)) :
    resourceChangedCount base compared =
      kindCount (operationDeltas base compared) .resourceChange := by
  have hkind : ∀ operationId, changeKind (assignmentOf base operationId)
      (assignmentOf compared operationId) = .resourceChange ↔
      operationId ∈ commonIds base compared ∧
        (fieldOf (assignmentOf base operationId) "resource_id").pyEq
          (fieldOf (assignmentOf compared operationId) "resource_id") = false := by
    intro operationId
    rw [mem_commonIds]
    cases assignmentOf base operationId with
    | none => simp [changeKind]
    | some left =>
      cases assignmentOf compared operationId with
      | none => simp [changeKind]
      | some right =>
        simp only [changeKind, fieldOf]
        split_ifs <;> simp_all
  rw [resourceChangedCount, kindCount, operationDeltas, List.countP_map,
    List.countP_eq_length_filter, List.countP_eq_length_filter]
  refine List.Perm.length_eq ((List.perm_ext_iff_of_nodup ?_ ?_).mpr ?_)
  · exact (commonIds_nodup base compared).filter _
  · exact (comparedIds_nodup base compared).filter _
  · intro operationId
    have hdelta : (assignmentDelta operationId (assignmentOf base operationId)
        (assignmentOf compared operationId)).get "change_kind" =
          .str ChangeKind.resourceChange.value ↔
        changeKind (assignmentOf base operationId) (assignmentOf compared operationId) =
          .resourceChange := by
      rw [← ChangeKind.value_injective.eq_iff]
      exact Json.str.injEq _ _ ▸ Iff.rfl
    rw [List.mem_filter, List.mem_filter, Function.comp_apply, decide_eq_true_iff,
      decide_eq_true_iff, hdelta, hkind, mem_comparedIds]
    constructor
    · rintro ⟨hmem, hchanged⟩
      exact ⟨.inl (mem_commonIds.mp hmem).1, hmem, hchanged⟩
    · rintro ⟨-, hboth⟩
      exact hboth

end PlantNexus.Workspace
