import PlantNexus.Frontend.Encoding

/-! Canonical JSON across the two languages.

For every text that the front end accepts, its canonical bytes, its projections and its
fingerprints are those of the backend, and canonicalisation is idempotent
(`canonicalJson_agrees`). -/
namespace PlantNexus.Frontend
open Data JsonRead

variable {float64 : List Char → Option FloatValue} {pythonFloat : FloatValue → String}

/-! ### A second pass -/

theorem supportedMembers_iff (members : List (String × Json)) :
    SupportedMembers float64 members ↔ ∀ m ∈ members, Supported float64 m.2 := by
  induction members with
  | nil => simp [SupportedMembers]
  | cons m members ih => rw [SupportedMembers, ih, List.forall_mem_cons]

theorem canonicalMembers_keys (members : List (String × Json)) :
    (Json.canonicalMembers members).map Prod.fst = members.map Prod.fst := by
  rw [Json.canonicalMembers_eq, List.map_map]
  rfl

mutual

theorem supported_canonical : ∀ doc : Json, Supported float64 doc →
    Supported float64 doc.canonical
  | .null, _ => trivial
  | .bool _, _ => trivial
  | .int _, h => h
  | .float _, h => h
  | .str _, _ => trivial
  | .arr items, h => supportedItems_canonical items h
  | .obj members, h => by
    refine ⟨?_, ?_⟩
    · have hperm := sortByKey_perm Prod.fst (Json.canonicalMembers members)
      rw [(hperm.map Prod.fst).nodup_iff, canonicalMembers_keys]
      exact h.1
    · rw [supportedMembers_iff]
      intro m hm
      rw [mem_sortByKey] at hm
      exact (supportedMembers_iff _).mp (supportedMembers_canonical members h.2) m hm

theorem supportedItems_canonical : ∀ docs : List Json, SupportedItems float64 docs →
    SupportedItems float64 (Json.canonicalItems docs)
  | [], _ => trivial
  | doc :: docs, h => ⟨supported_canonical doc h.1, supportedItems_canonical docs h.2⟩

theorem supportedMembers_canonical : ∀ docs : List (String × Json),
    SupportedMembers float64 docs → SupportedMembers float64 (Json.canonicalMembers docs)
  | [], _ => trivial
  | (_, doc) :: docs, h => ⟨supported_canonical doc h.1, supportedMembers_canonical docs h.2⟩

end

mutual

theorem canonical_canonical : ∀ doc : Json, doc.canonical.canonical = doc.canonical
  | .null => rfl
  | .bool _ => rfl
  | .int _ => rfl
  | .float _ => rfl
  | .str _ => rfl
  | .arr items => by
    rw [Json.canonical, Json.canonical, canonicalItems_canonicalItems items]
  | .obj members => by
    have hsorted : Json.canonicalMembers (sortByKey Prod.fst (Json.canonicalMembers members)) =
        sortByKey Prod.fst (Json.canonicalMembers (Json.canonicalMembers members)) := by
      rw [Json.canonicalMembers_eq (sortByKey _ _), Json.canonicalMembers_eq
        (Json.canonicalMembers members), sortByKey_map]
    rw [Json.canonical, Json.canonical, hsorted, canonicalMembers_canonicalMembers members,
      sortByKey_sortByKey]

theorem canonicalItems_canonicalItems : ∀ docs : List Json,
    Json.canonicalItems (Json.canonicalItems docs) = Json.canonicalItems docs
  | [] => rfl
  | doc :: docs => by
    rw [Json.canonicalItems, Json.canonicalItems, canonical_canonical doc,
      canonicalItems_canonicalItems docs]

theorem canonicalMembers_canonicalMembers : ∀ docs : List (String × Json),
    Json.canonicalMembers (Json.canonicalMembers docs) = Json.canonicalMembers docs
  | [] => rfl
  | (_, doc) :: docs => by
    rw [Json.canonicalMembers, Json.canonicalMembers, canonical_canonical doc,
      canonicalMembers_canonicalMembers docs]

end

/-- The canonical text of an object is accepted, and canonicalising it changes nothing. -/
theorem reparse_canonical (hrepr : ∀ literal value, float64 literal = some value →
      pythonFloat value = value.text) (hliterals : FloatLiterals float64)
    (members : List (String × Json)) (hdoc : Supported float64 (.obj members)) :
    ∃ again, parseCanonicalJson float64 pythonFloat (Json.obj members).dumpChars = .ok again ∧
      canonicalJson pythonFloat again = .ok (Utf16.encode (Json.obj members).dumpChars) := by
  have hsupported := supported_canonical _ hdoc
  have hprint := Json.dumpChars_eq_print (.obj members)
  have hparsed := parseValue_print hrepr hliterals _ hsupported
    (2 * (Json.obj members).dumpChars.length + 1) [] (by rw [hprint]; omega) (.inl rfl)
  rw [List.append_nil, ← hprint] at hparsed
  refine ⟨ofJson (Json.obj members).canonical, ?_, ?_⟩
  · rw [parseCanonicalJson]
    simp only [bind, Except.bind, hparsed]
    rfl
  · rw [canonicalJson_dumps _ hsupported rfl, Json.dumpChars_eq_print, canonical_canonical, hprint]

/-! ### Projections -/

theorem ofMembers_eq (members : List (String × Json)) :
    ofMembers members = members.map fun m => (units m.1, ofJson m.2) := by
  induction members with
  | nil => rfl
  | cons m members ih => rw [ofMembers, ih, List.map_cons]

/-- A field that is there, in the document and in the parsed value. -/
theorem dictGet_ofMembers {members : List (String × Json)}
    (hnodup : (members.map Prod.fst).Nodup) {field : String}
    (hfield : field ∈ (Json.obj members).keys) :
    dictGet Prod.fst (ofMembers members) (units field) =
        some (units field, ofJson ((Json.obj members).get field)) ∧
      (field, (Json.obj members).get field) ∈ members := by
  obtain ⟨m, hm, rfl⟩ := List.mem_map.mp hfield
  have hget : (Json.obj members).get m.1 = m.2 := by
    rw [Json.get, Json.find?_key_eq hnodup hm]
  have hunits : ((ofMembers members).map Prod.fst).Nodup := by
    rw [ofMembers_eq, List.map_map]
    have hcomp : (Prod.fst ∘ fun m : String × Json => (units m.1, ofJson m.2)) =
        units ∘ Prod.fst := rfl
    rw [hcomp, ← List.map_map]
    exact hnodup.map fun _ _ heq => units_injective heq
  rw [hget, dictGet_eq_some_iff _ _ _ _ hunits, ofMembers_eq]
  exact ⟨⟨List.mem_map_of_mem hm, rfl⟩, hm⟩

theorem dictGet_ofMembers_absent {members : List (String × Json)} {field : String}
    (hfield : field ∉ (Json.obj members).keys) :
    dictGet Prod.fst (ofMembers members) (units field) = none := by
  rw [dictGet_eq_none_iff, ofMembers_eq, List.map_map]
  intro hmem
  obtain ⟨m, hm, heq⟩ := List.mem_map.mp hmem
  exact hfield (List.mem_map.mpr ⟨m, hm, units_injective heq⟩)

/-- The projection of an object to some of its fields. -/
def select (doc : Json) (fields : List String) : Json :=
  .obj (fields.map fun field => (field, doc.get field))

/-- `canonicalProjection` keeps the fields and their number forms. -/
theorem canonicalProjection_select {members : List (String × Json)}
    (hnodup : (members.map Prod.fst).Nodup) (fields : List String)
    (hfields : ∀ field ∈ fields, field ∈ (Json.obj members).keys) :
    canonicalProjection (ofJson (.obj members)) fields =
      .ok (ofJson (select (.obj members) fields)) := by
  have hforms : (fields.filterMap fun field =>
      (formOf (memberForms members) (units field)).map fun form => (units field, form)) =
      memberForms (fields.map fun field => (field, (Json.obj members).get field)) := by
    induction fields with
    | nil => rfl
    | cons field fields ih =>
      have hmem := (dictGet_ofMembers hnodup (hfields field (List.mem_cons_self ..))).2
      rw [List.map_cons, memberForms, List.filterMap_cons, formOf_memberForms members hnodup _ hmem,
        ih fun other h => hfields other (List.mem_cons_of_mem _ h)]
      cases formText ((Json.obj members).get field) with
      | none => rfl
      | some form => rfl
  rw [ofJson, canonicalProjection, bind_eq_ok]
  refine ⟨ofMembers (fields.map fun field => (field, (Json.obj members).get field)), ?_, ?_⟩
  · rw [collect_eq_ok_iff, ofMembers_eq (fields.map _), List.map_map, List.forall₂_map_right_iff,
      List.forall₂_same]
    intro field hfield
    rw [(dictGet_ofMembers hnodup (hfields field hfield)).1]
    rfl
  · rw [hforms]
    rfl

/-- A field that is asked for and absent stops the projection. -/
theorem canonicalProjection_absent {members : List (String × Json)} {fields : List String}
    {field : String} (hfield : field ∈ fields) (habsent : field ∉ (Json.obj members).keys) :
    (canonicalProjection (ofJson (.obj members)) fields).toOption = none := by
  cases hresult : canonicalProjection (ofJson (.obj members)) fields with
  | error e => rfl
  | ok value =>
    rw [ofJson, canonicalProjection] at hresult
    obtain ⟨selected, hselected, -⟩ := bind_eq_ok.mp hresult
    obtain ⟨member, hmember⟩ := (collect_isOk _ fields).mp ⟨selected, hselected⟩ field hfield
    rw [dictGet_ofMembers_absent habsent] at hmember
    cases hmember

theorem supported_select {members : List (String × Json)}
    (hdoc : Supported float64 (.obj members)) {fields : List String} (hdistinct : fields.Nodup)
    (hfields : ∀ field ∈ fields, field ∈ (Json.obj members).keys) :
    Supported float64 (select (.obj members) fields) := by
  refine ⟨?_, ?_⟩
  · rw [List.map_map]
    exact (List.map_id fields).symm ▸ hdistinct
  · rw [supportedMembers_iff]
    intro m hm
    obtain ⟨field, hfield, rfl⟩ := List.mem_map.mp hm
    exact (supportedMembers_iff members).mp hdoc.2 _
      (dictGet_ofMembers hdoc.1 (hfields field hfield)).2

/-- The fields that the front end asks for: the provenance only where it is there. -/
def askedFields (doc : Json) (fields : List String) : List String :=
  fields.filter fun field => field ≠ "synthetic_provenance" ∨ field ∈ doc.keys

/-- **The two projections are written as the same text, and fail together.** -/
theorem projection_agrees (members : List (String × Json))
    (hdoc : Supported float64 (.obj members)) (fields : List String) (hdistinct : fields.Nodup) :
    (canonicalProjection (ofJson (.obj members)) (askedFields (.obj members) fields) >>=
        canonicalJson pythonFloat).toOption =
      (Domain.projection (.obj members) fields).toOption.map
        fun projected => Utf16.encode projected.dumpChars := by
  cases hmissing : fields.find? fun f =>
      f ∉ (Json.obj members).keys ∧ f ≠ "synthetic_provenance" with
  | some missing =>
    have hmem := List.mem_of_find?_eq_some hmissing
    have habsent : missing ∉ (Json.obj members).keys ∧ missing ≠ "synthetic_provenance" := by
      simpa using List.find?_some hmissing
    have hasked : missing ∈ askedFields (.obj members) fields := by
      rw [askedFields, List.mem_filter]
      exact ⟨hmem, decide_eq_true (.inl habsent.2)⟩
    have hnone := canonicalProjection_absent hasked habsent.1
    rw [Domain.projection, hmissing]
    cases hresult : canonicalProjection (ofJson (.obj members))
        (askedFields (.obj members) fields) with
    | error e => rfl
    | ok value =>
      rw [hresult] at hnone
      cases hnone
  | none =>
    have hpresent : ∀ f ∈ fields, f ≠ "synthetic_provenance" → f ∈ (Json.obj members).keys := by
      intro f hf hne
      by_contra habsent
      exact List.find?_eq_none.mp hmissing f hf (decide_eq_true ⟨habsent, hne⟩)
    have hasked : askedFields (.obj members) fields =
        fields.filter (· ∈ (Json.obj members).keys) := by
      apply List.filter_congr
      intro f hf
      rw [decide_eq_decide]
      exact ⟨fun h => h.elim (hpresent f hf) id, .inr⟩
    have hfields : ∀ f ∈ fields.filter (· ∈ (Json.obj members).keys),
        f ∈ (Json.obj members).keys := fun f hf => of_decide_eq_true (List.mem_filter.mp hf).2
    rw [Domain.projection, hmissing, hasked, canonicalProjection_select hdoc.1 _ hfields]
    show (canonicalJson pythonFloat _).toOption = _
    rw [canonicalJson_dumps _ (supported_select hdoc (hdistinct.filter _) hfields) rfl]
    rfl

/-! ### Fingerprints -/

/-- `canonical_json_bytes` -/
def canonicalJsonBytes (doc : Json) : List UInt8 := doc.dumpChars.flatMap String.utf8EncodeChar

/-- The digest of the front end is the backend's on the same text. -/
theorem sha256Fingerprint_encode {value : JsValue} {doc : Json}
    (h : canonicalJson pythonFloat value = .ok (Utf16.encode doc.dumpChars)) :
    sha256Fingerprint pythonFloat value = .ok (Domain.contractFingerprint doc) := by
  rw [sha256Fingerprint, h]
  show Except.ok ("sha256:" ++ String.ofList _) = _
  rw [Utf16.textEncode_encode, Domain.contractFingerprint, Sha256.hexdigest, Json.dumps,
    String.toList_ofList]

theorem isSome_dictGet_ofMembers {members : List (String × Json)}
    (hnodup : (members.map Prod.fst).Nodup) (field : String) :
    (dictGet Prod.fst (ofMembers members) (units field)).isSome =
      decide (field ∈ (Json.obj members).keys) := by
  by_cases hfield : field ∈ (Json.obj members).keys
  · rw [(dictGet_ofMembers hnodup hfield).1, decide_eq_true hfield]
    rfl
  · rw [dictGet_ofMembers_absent hfield, decide_eq_false hfield]
    rfl

/-- Projected and hashed, the two sides agree. -/
theorem projected_fingerprint (members : List (String × Json))
    (hdoc : Supported float64 (.obj members)) (fields : List String) (hdistinct : fields.Nodup) :
    (canonicalProjection (ofJson (.obj members)) (askedFields (.obj members) fields) >>=
        sha256Fingerprint pythonFloat).toOption =
      (Domain.projection (.obj members) fields).toOption.map Domain.contractFingerprint := by
  have hagree : (canonicalProjection (ofJson (.obj members))
      (askedFields (.obj members) fields) >>= canonicalJson pythonFloat).toOption = _ :=
    projection_agrees members hdoc fields hdistinct
  cases hprojected : canonicalProjection (ofJson (.obj members))
      (askedFields (.obj members) fields) with
  | error e =>
    rw [hprojected] at hagree
    cases hbackend : Domain.projection (.obj members) fields with
    | error e => rfl
    | ok projected =>
      rw [hbackend] at hagree
      cases hagree
  | ok value =>
    rw [hprojected] at hagree
    show (sha256Fingerprint pythonFloat value).toOption = _
    cases htext : canonicalJson pythonFloat value with
    | error e =>
      have hsha : sha256Fingerprint pythonFloat value = .error e := by
        rw [sha256Fingerprint, htext]
        rfl
      rw [hsha]
      cases hbackend : Domain.projection (.obj members) fields with
      | error e => rfl
      | ok projected =>
        rw [hbackend] at hagree
        replace hagree : (canonicalJson pythonFloat value).toOption = some _ := hagree
        rw [htext] at hagree
        cases hagree
    | ok text =>
      replace hagree : (canonicalJson pythonFloat value).toOption = _ := hagree
      rw [htext] at hagree
      cases hbackend : Domain.projection (.obj members) fields with
      | error e =>
        rw [hbackend] at hagree
        cases hagree
      | ok projected =>
        rw [hbackend] at hagree
        have hencoded : text = Utf16.encode projected.dumpChars := Option.some.inj hagree
        rw [sha256Fingerprint_encode (hencoded ▸ htext)]
        rfl

/-- **The two fingerprints of a projection agree** wherever the version is the supported one;
the front end refuses any other. -/
theorem projectionFingerprint_agrees (members : List (String × Json))
    (hdoc : Supported float64 (.obj members)) (fields : List String) (hdistinct : fields.Nodup) :
    (projectionFingerprint pythonFloat fields (ofJson (.obj members))).toOption =
      if (Json.obj members).get "canonicalization_version" = .str "canonical-json.v1" then
        (Domain.projection (.obj members) fields).toOption.map Domain.contractFingerprint
      else none := by
  have hasked : (fields.filter fun field => field ≠ "synthetic_provenance" ∨
      (dictGet Prod.fst (ofMembers members) (units field)).isSome) =
      askedFields (.obj members) fields := by
    apply List.filter_congr
    intro field _
    rw [isSome_dictGet_ofMembers hdoc.1, decide_eq_decide, decide_eq_true_iff]
  rw [ofJson, projectionFingerprint]
  by_cases hfield : "canonicalization_version" ∈ (Json.obj members).keys
  · rw [(dictGet_ofMembers hdoc.1 hfield).1]
    cases hversion : (Json.obj members).get "canonicalization_version" with
    | str version =>
      by_cases hsupported : version = "canonical-json.v1"
      · rw [if_pos (congrArg Json.str hsupported), ← projected_fingerprint members hdoc fields
          hdistinct, ← hasked]
        show Except.toOption (require (units version = units "canonical-json.v1") _ >>= _) = _
        rw [require, if_pos (congrArg units hsupported)]
        rfl
      · rw [if_neg fun heq => hsupported (Json.str.inj heq)]
        show Except.toOption (require (units version = units "canonical-json.v1") _ >>= _) = _
        rw [require, if_neg fun heq => hsupported (units_injective heq)]
        rfl
    | _ => rfl
  · have hnull : (Json.obj members).get "canonicalization_version" = .null := by
      rw [Json.get]
      cases hfind : members.find? fun m => m.1 == "canonicalization_version" with
      | none => rfl
      | some m =>
        have hkey : m.1 = "canonicalization_version" := by simpa using List.find?_some hfind
        exact (hfield (List.mem_map.mpr ⟨m, List.mem_of_find?_eq_some hfind, hkey⟩)).elim
    rw [dictGet_ofMembers_absent hfield, hnull]
    rfl

/-! ### Agreement -/

theorem commandFields_nodup : Domain.commandFingerprintFields.Nodup := by decide

theorem queryFields_nodup : Domain.queryFingerprintFields.Nodup := by decide

/-- **Cross-language canonical JSON.** A text that the front end accepts is read by the backend;
the canonical text of the parsed value has the backend's canonical bytes, is accepted again and
is its own canonical text; every projection is written as the backend writes it; and the command
and query fingerprints are the backend's wherever the front end computes them, which it does for
the supported canonicalisation version. -/
theorem canonicalJson_agrees (float64 : List Char → Option FloatValue)
    (pythonFloat : FloatValue → String)
    (hrepr : ∀ literal value, float64 literal = some value → pythonFloat value = value.text)
    (hliterals : FloatLiterals float64) (raw : List Char) (value : JsValue)
    (hparse : parseCanonicalJson float64 pythonFloat raw = .ok value) :
    ∃ doc text, loads float64 raw = .ok doc ∧
      canonicalJson pythonFloat value = .ok (Utf16.encode text) ∧
      Utf16.textEncode (Utf16.encode text) = canonicalJsonBytes doc ∧
      (∃ again, parseCanonicalJson float64 pythonFloat text = .ok again ∧
        canonicalJson pythonFloat again = .ok (Utf16.encode text)) ∧
      (∀ fields : List String, fields.Nodup →
        (canonicalProjection value (askedFields doc fields) >>=
            canonicalJson pythonFloat).toOption =
          (Domain.projection doc fields).toOption.map
            fun projected => Utf16.encode projected.dumpChars) ∧
      (workspaceCommandFingerprint pythonFloat value).toOption =
        (if doc.get "canonicalization_version" = .str "canonical-json.v1" then
          (Domain.workspaceCommandFingerprint doc).toOption else none) ∧
      (workspaceQueryFingerprint pythonFloat value).toOption =
        (if doc.get "canonicalization_version" = .str "canonical-json.v1" then
          (Domain.workspaceQueryFingerprint doc).toOption else none) := by
  obtain ⟨parsed, hvalue, hend⟩ := bind_eq_ok.mp hparse
  obtain ⟨doc, hread, hsupported, hdoc, -⟩ := parseValue_reads hrepr _ raw parsed hvalue
  obtain ⟨hrest, members, rfl, rfl⟩ : skipBlanks parsed.rest = [] ∧
      ∃ members, doc = .obj members ∧ value = ofJson (.obj members) := by
    split at hend
    · rename_i jsMembers forms hnil hobj
      rw [← Except.ok.inj hend, ← hobj, hdoc]
      rw [hdoc] at hobj
      cases doc with
      | obj members => exact ⟨hnil, members, rfl, rfl⟩
      | _ => cases hobj
    · cases hend
  refine ⟨.obj members, (Json.obj members).dumpChars, ?_, canonicalJson_dumps _ hsupported rfl,
    Utf16.textEncode_encode _, reparse_canonical hrepr hliterals members hsupported,
    fun fields hdistinct => projection_agrees members hsupported fields hdistinct, ?_, ?_⟩
  · rw [loads, hread]
    show (if skipBlanks parsed.rest = [] then _ else _) = _
    rw [if_pos hrest]
    rfl
  · rw [workspaceCommandFingerprint, projectionFingerprint_agrees members hsupported _
      commandFields_nodup, Domain.workspaceCommandFingerprint]
    cases Domain.projection (.obj members) Domain.commandFingerprintFields with
    | error e => rfl
    | ok projected => rfl
  · rw [workspaceQueryFingerprint, projectionFingerprint_agrees members hsupported _
      queryFields_nodup, Domain.workspaceQueryFingerprint]
    cases Domain.projection (.obj members) Domain.queryFingerprintFields with
    | error e => rfl
    | ok projected => rfl

/-- The double of one literal and of its printed form. -/
def halfFloat64 (literal : List Char) : Option FloatValue :=
  if literal = ['0', '.', '5', '0'] ∨ literal = ['0', '.', '5'] then
    some ⟨String.ofList ['0', '.', '5'], 1, 2⟩
  else none

theorem halfFloat64_eq {literal : List Char} {value : FloatValue}
    (h : halfFloat64 literal = some value) :
    value = ⟨String.ofList ['0', '.', '5'], 1, 2⟩ := by
  unfold halfFloat64 at h
  split_ifs at h
  exact (Option.some.inj h).symm

theorem halfFloat64_literals : FloatLiterals halfFloat64 where
  literal := by
    intro cs value h
    rw [halfFloat64_eq h, String.toList_ofList]
    exact ⟨⟨['0'], ['.', '5']⟩, by decide, by decide⟩
  roundTrip := by
    intro cs value h
    rw [halfFloat64_eq h, String.toList_ofList]
    rfl

/-- A text with a digit key, a float and a negative zero. -/
def mixedText : List Char :=
  ['\x7b', '"', 'b', '"', ':', '0', '.', '5', '0', ',', ' ', '"', '1', '0', '"', ':', '[', '-', '0',
   ']', '\x7d']

theorem canonicalJson_agrees_mixedText : ∃ doc text,
    loads halfFloat64 mixedText = .ok doc ∧
      (parseCanonicalJson halfFloat64 FloatValue.text mixedText >>=
        canonicalJson FloatValue.text) = .ok (Utf16.encode text) ∧
      Utf16.textEncode (Utf16.encode text) = canonicalJsonBytes doc := by
  obtain ⟨value, hparse⟩ : ∃ value,
      parseCanonicalJson halfFloat64 FloatValue.text mixedText = .ok value := ⟨_, rfl⟩
  obtain ⟨doc, text, hdoc, htext, hbytes, -⟩ := canonicalJson_agrees halfFloat64 FloatValue.text
    (fun _ _ _ => rfl) halfFloat64_literals mixedText value hparse
  refine ⟨doc, text, hdoc, ?_, hbytes⟩
  rw [hparse]
  exact htext

end PlantNexus.Frontend
