import PlantNexus.Data.JsonScan
import PlantNexus.Frontend.Canonical

/-! What the front end's parser reads.

`ofJson` is the parsed value of a document: its numbers leave their canonical text in the
container they stand in. A text that the parser accepts is a text that the standard decoder
accepts, and the two read the same document (`parseValue_reads`); on the other hand the parser
reads the text of every such document back (`parseValue_print`). -/
namespace PlantNexus.Frontend
open Data JsonRead

/-! ### Documents -/

/-- The form that a number leaves in its container. -/
def formText : Json → Option (List Nat)
  | .int value => some (units (toString value))
  | .float value => some (units value.text)
  | _ => none

def itemForms : Nat → List Json → List (List Nat × List Nat)
  | _, [] => []
  | index, x :: xs =>
    setForm [] (units (toString index)) (formText x) ++ itemForms (index + 1) xs

def memberForms : List (String × Json) → List (List Nat × List Nat)
  | [] => []
  | (key, value) :: rest => setForm [] (units key) (formText value) ++ memberForms rest

mutual

/-- The parsed value of a document. -/
def ofJson : Json → JsValue
  | .null => .null
  | .bool value => .bool value
  | .int value => .number (.safe value)
  | .float value => .number (.double value)
  | .str value => .str (units value)
  | .arr items => .arr (ofItems items) (itemForms 0 items)
  | .obj members => .obj (ofMembers members) (memberForms members)

def ofItems : List Json → List JsValue
  | [] => []
  | x :: xs => ofJson x :: ofItems xs

def ofMembers : List (String × Json) → List (List Nat × JsValue)
  | [] => []
  | (key, value) :: rest => (units key, ofJson value) :: ofMembers rest

end

section
variable (float64 : List Char → Option FloatValue)

mutual

/-- Integers are safe, floats are doubles of a literal, and no object repeats a key. -/
def Supported : Json → Prop
  | .int value => value.natAbs ≤ maxSafeInteger
  | .float value => ∃ literal, float64 literal = some value
  | .arr items => SupportedItems items
  | .obj members => (members.map Prod.fst).Nodup ∧ SupportedMembers members
  | _ => True

def SupportedItems : List Json → Prop
  | [] => True
  | x :: xs => Supported x ∧ SupportedItems xs

def SupportedMembers : List (String × Json) → Prop
  | [] => True
  | (_, value) :: rest => Supported value ∧ SupportedMembers rest

end
end

theorem units_injective {s t : String} (h : units s = units t) : s = t :=
  String.toList_inj.mp (Utf16.encode_injective h)

theorem setForm_append (forms : List (List Nat × List Nat)) (key : List Nat)
    (form : Option (List Nat)) : setForm forms key form = forms ++ setForm [] key form := by
  cases form with
  | none => exact (List.append_nil forms).symm
  | some form => rfl

/-! ### Strings -/

theorem pieceUnits_cons (piece : Piece) (pieces : List Piece) :
    pieceUnits (piece :: pieces) = pieceUnits [piece] ++ pieceUnits pieces := by
  simp [pieceUnits]

theorem pieceUnits_char (c : Char) (pieces : List Piece) :
    pieceUnits (.char c :: pieces) = Utf16.encodeChar c ++ pieceUnits pieces := rfl

theorem pieceUnits_escape (unit : Nat) (pieces : List Piece) :
    pieceUnits (.escape unit :: pieces) = unit :: pieceUnits pieces := rfl

/-- A scanned string is made of code units and takes at least its closing quote. -/
theorem scanPieces_spec {cs : List Char} {pieces : List Piece} {rest : List Char}
    (h : scanPieces cs = some (pieces, rest)) :
    (∀ u ∈ pieceUnits pieces, u < 0x10000) ∧ rest.length < cs.length := by
  induction cs using scanPieces.induct generalizing pieces rest with
  | case1 => cases h
  | case2 tail =>
    rw [scanPieces_quote] at h
    obtain ⟨rfl, rfl⟩ := Prod.mk.inj (Option.some.inj h)
    refine ⟨?_, Nat.lt_succ_self _⟩
    intro u hu
    cases hu
  | case3 h₁ h₂ h₃ h₄ tail hne ih =>
    rw [scanPieces_hex] at h
    simp only [Option.bind_eq_bind, Option.bind_eq_some_iff, Prod.exists] at h
    obtain ⟨unit, after, hunit, pieces', rest', hscan, heq⟩ := h
    obtain ⟨rfl, rfl⟩ := Prod.mk.inj (Option.some.inj heq)
    obtain ⟨hunits, hlength⟩ := ih hscan
    refine ⟨?_, by simp only [List.length_cons]; omega⟩
    intro u hu
    obtain rfl | hu := List.mem_cons.mp hu
    · exact hex4_lt hunit
    · exact hunits u hu
  | case4 e tail hnot hne ih =>
    rw [scanPieces_letter e tail hnot] at h
    simp only [Option.bind_eq_bind, Option.bind_eq_some_iff, Prod.exists] at h
    obtain ⟨letter, -, pieces', rest', hscan, heq⟩ := h
    obtain ⟨rfl, rfl⟩ := Prod.mk.inj (Option.some.inj heq)
    obtain ⟨hunits, hlength⟩ := ih hscan
    refine ⟨?_, by simp only [List.length_cons]; omega⟩
    intro u hu
    rw [pieceUnits_char, List.mem_append] at hu
    exact hu.elim (Utf16.encodeChar_lt letter u) (hunits u)
  | case5 hne =>
    rw [scanPieces, if_neg hne, if_pos rfl] at h
    cases h
  | case6 c tail hquote hslash hcontrol =>
    rw [scanPieces_char hquote hslash, if_pos hcontrol] at h
    cases h
  | case7 c tail hquote hslash hcontrol ih =>
    rw [scanPieces_char hquote hslash, if_neg hcontrol] at h
    simp only [Option.bind_eq_bind, Option.bind_eq_some_iff, Prod.exists] at h
    obtain ⟨pieces', rest', hscan, heq⟩ := h
    obtain ⟨rfl, rfl⟩ := Prod.mk.inj (Option.some.inj heq)
    obtain ⟨hunits, hlength⟩ := ih hscan
    refine ⟨?_, by simp only [List.length_cons]; omega⟩
    intro u hu
    rw [pieceUnits_char, List.mem_append] at hu
    exact hu.elim (Utf16.encodeChar_lt c u) (hunits u)

/-- A character never completes a surrogate pair. -/
theorem codePoints_cons_char (unit : Nat) (c : Char) (tail : List Nat) :
    Utf16.codePoints (unit :: (Utf16.encodeChar c ++ tail)) =
      unit :: Utf16.codePoints (Utf16.encodeChar c ++ tail) := by
  by_cases hc : c.toNat < 0x10000
  · rw [Utf16.encodeChar_basic c hc]
    show Utf16.codePoints (unit :: c.toNat :: tail) = _
    rw [Utf16.codePoints, if_neg fun hpair => (Utf16.not_surrogate c hc).2 hpair.2]
    rfl
  · obtain ⟨high, low, heq, hhigh, -, -⟩ := Utf16.encodeChar_pair c hc
    rw [heq]
    show Utf16.codePoints (unit :: high :: low :: tail) = _
    have hnot : ¬Utf16.IsLow high := by
      unfold Utf16.IsHigh at hhigh
      unfold Utf16.IsLow
      omega
    rw [Utf16.codePoints, if_neg fun hpair => hnot hpair.2]
    rfl

/-- The two languages see the same code points in a string literal. -/
theorem points_eq (pieces : List Piece) :
    points pieces = Utf16.codePoints (pieceUnits pieces) := by
  induction pieces using points.induct with
  | case1 => rfl
  | case2 c rest ih => rw [points, ih, pieceUnits_char, Utf16.codePoints_append_char]
  | case3 unit => rfl
  | case4 unit c rest ih =>
    rw [points, ih, pieceUnits_escape, pieceUnits_char, codePoints_cons_char]
  | case5 unit next rest hpair ih =>
    rw [points, if_pos hpair, ih]
    exact (if_pos hpair).symm
  | case6 unit next rest hpair ih =>
    rw [points, if_neg hpair, ih]
    exact (if_neg hpair).symm

theorem quoted_eq_ok {value text : List Nat} :
    quoted value = .ok text ↔ Utf16.Paired value ∧ stringify value = text := by
  rw [quoted, bind_unit_eq_ok, require_eq_ok]
  exact and_congr_right fun _ => ⟨Except.ok.inj, congrArg _⟩

theorem isValidChar_toNat (c : Char) : c.toNat.isValidChar := c.valid

theorem stringOf_text {pieces : List Piece} {text : List Char}
    (h : points pieces = text.map Char.toNat) : stringOf pieces = .ok (String.ofList text) := by
  unfold stringOf
  rw [h, if_pos]
  · rw [List.map_map]
    congr 2
    exact (List.map_congr_left fun c _ => Utf16.scalar_toNat c).trans (List.map_id text)
  · intro point hpoint
    obtain ⟨c, -, rfl⟩ := List.mem_map.mp hpoint
    exact isValidChar_toNat c

/-- **A string that the front end accepts is the one the standard decoder reads.** -/
theorem parseString_reads {cs : List Char} {value : List Nat} {rest : List Char}
    (h : parseString cs = .ok (value, rest)) :
    ∃ text, readString cs = .ok (text, rest) ∧ value = units text ∧
      rest.length < cs.length := by
  unfold parseString at h
  cases hscan : scanPieces cs with
  | none =>
    rw [hscan] at h
    cases h
  | some scanned =>
    obtain ⟨pieces, rest'⟩ := scanned
    rw [hscan] at h
    obtain ⟨text, hquoted, heq⟩ := bind_eq_ok.mp h
    obtain ⟨rfl, rfl⟩ := Prod.mk.inj (Except.ok.inj heq)
    obtain ⟨hunits, hlength⟩ := scanPieces_spec hscan
    obtain ⟨chars, hchars⟩ := (Utf16.paired_iff _ hunits).mp (quoted_eq_ok.mp hquoted).1
    have hpoints : points pieces = chars.map Char.toNat := by
      rw [points_eq, hchars, Utf16.codePoints_encode]
    refine ⟨String.ofList chars, ?_, ?_, hlength⟩
    · unfold readString
      rw [hscan]
      show (stringOf pieces >>= fun text => pure (text, rest')) = _
      rw [stringOf_text hpoints]
      rfl
    · rw [units, String.toList_ofList, hchars]

/-! ### The parser and the standard decoder -/

section
variable {float64 : List Char → Option FloatValue} {pythonFloat : FloatValue → String}

theorem parseNumber_reads (hrepr : ∀ literal value, float64 literal = some value →
      pythonFloat value = value.text)
    {token : NumberToken} {number : JsNumber} {form : List Nat}
    (h : parseNumber float64 pythonFloat token = .ok (number, form)) :
    ∃ doc, (if token.tail = [] then some (.int (integerValue token.integer))
        else (float64 (token.integer ++ token.tail)).map Json.float) = some doc ∧
      Supported float64 doc ∧ .number number = ofJson doc ∧ some form = formText doc := by
  unfold parseNumber at h
  by_cases htail : token.tail = []
  · rw [if_neg (not_not.mpr htail)] at h
    rw [if_pos htail]
    by_cases hsafe : (integerValue token.integer).natAbs ≤ maxSafeInteger
    · rw [if_pos hsafe] at h
      obtain ⟨rfl, rfl⟩ := Prod.mk.inj (Except.ok.inj h)
      exact ⟨_, rfl, hsafe, rfl, rfl⟩
    · rw [if_neg hsafe] at h
      cases h
  · rw [if_pos htail] at h
    rw [if_neg htail]
    cases hvalue : float64 (token.integer ++ token.tail) with
    | none =>
      rw [hvalue] at h
      cases h
    | some value =>
      rw [hvalue] at h
      obtain ⟨rfl, rfl⟩ := Prod.mk.inj (Except.ok.inj h)
      exact ⟨.float value, rfl, ⟨_, hvalue⟩, rfl, by rw [hrepr _ _ hvalue]; rfl⟩

/-- What was parsed is a document that the standard decoder reads from the same text. -/
def Reads (float64 : List Char → Option FloatValue) (result : Except ReadError (Json × List Char))
    (parsed : Parsed) : Prop :=
  ∃ doc, result = .ok (doc, parsed.rest) ∧ Supported float64 doc ∧ parsed.value = ofJson doc ∧
    parsed.form = formText doc

theorem parseAtom_reads (hrepr : ∀ literal value, float64 literal = some value →
      pythonFloat value = value.text)
    {cs : List Char} {parsed : Parsed} (h : parseAtom float64 pythonFloat cs = .ok parsed) :
    Reads float64 (readAtom float64 cs) parsed := by
  unfold parseAtom at h
  split_ifs at h with htrue hfalse hnull
  · obtain ⟨rest, rfl⟩ := List.isPrefixOf_iff_prefix.mp htrue
    rw [← Except.ok.inj h]
    exact ⟨.bool true, rfl, trivial, rfl, rfl⟩
  · obtain ⟨rest, rfl⟩ := List.isPrefixOf_iff_prefix.mp hfalse
    rw [← Except.ok.inj h]
    exact ⟨.bool false, rfl, trivial, rfl, rfl⟩
  · obtain ⟨rest, rfl⟩ := List.isPrefixOf_iff_prefix.mp hnull
    rw [← Except.ok.inj h]
    exact ⟨.null, rfl, trivial, rfl, rfl⟩
  · cases hscan : scanNumber cs with
    | none =>
      rw [hscan] at h
      cases h
    | some scanned =>
      obtain ⟨token, rest⟩ := scanned
      rw [hscan] at h
      obtain ⟨⟨number, form⟩, hnumber, heq⟩ := bind_eq_ok.mp h
      rw [← Except.ok.inj heq]
      obtain ⟨doc, hdoc, hsupported, hvalue, hform⟩ := parseNumber_reads hrepr hnumber
      refine ⟨doc, ?_, hsupported, hvalue, hform⟩
      rw [readAtom, if_neg hnull, if_neg htrue, if_neg hfalse, hscan]
      show (if token.tail = [] then _ else _) = _
      by_cases htail : token.tail = []
      · rw [if_pos htail] at hdoc ⊢
        rw [Option.some.inj hdoc]
      · rw [if_neg htail] at hdoc ⊢
        obtain ⟨value, hfloat, rfl⟩ := Option.map_eq_some_iff.mp hdoc
        rw [hfloat]

section Brackets
variable {float64 : List Char → Option FloatValue} {rest rest' : List Char} (fuel : Nat)

theorem readValue_arr_nil (h : skipBlanks rest = ']' :: rest') :
    readValue float64 (fuel + 1) ('[' :: rest) = .ok (.arr [], rest') := by
  simp only [readValue, h]

theorem readValue_arr {items : List Json} (hopen : ∀ tail, skipBlanks rest = ']' :: tail → False)
    (hread : readItems float64 fuel (skipBlanks rest) = .ok (items, rest')) :
    readValue float64 (fuel + 1) ('[' :: rest) = .ok (.arr items, rest') := by
  rw [readValue]
  split
  · rename_i hclose
    exact (hopen _ hclose).elim
  · rw [hread]
    rfl

theorem readValue_obj_nil (h : skipBlanks rest = '\x7d' :: rest') :
    readValue float64 (fuel + 1) ('\x7b' :: rest) = .ok (.obj [], rest') := by
  simp only [readValue, h]

theorem readValue_obj {members : List (String × Json)}
    (hopen : ∀ tail, skipBlanks rest = '\x7d' :: tail → False)
    (hread : readMembers float64 fuel (skipBlanks rest) = .ok (members, rest'))
    (hnodup : (members.map Prod.fst).Nodup) :
    readValue float64 (fuel + 1) ('\x7b' :: rest) = .ok (.obj members, rest') := by
  rw [readValue]
  split
  · rename_i hclose
    exact (hopen _ hclose).elim
  · rw [hread]
    exact if_pos hnodup

end Brackets

mutual

/-- **The parser reads what the standard decoder reads.** -/
theorem parseValue_reads (hrepr : ∀ literal value, float64 literal = some value →
      pythonFloat value = value.text) : ∀ (fuel : Nat) (cs : List Char) (parsed : Parsed),
    parseValue float64 pythonFloat fuel cs = .ok parsed →
    Reads float64 (readValue float64 fuel (skipBlanks cs)) parsed
  | 0, cs, parsed, h => by cases h
  | fuel + 1, cs, parsed, h => by
    rw [parseValue] at h
    split at h
    · rename_i rest heq
      rw [heq, readValue]
      obtain ⟨⟨value, rest'⟩, hstring, hparsed⟩ := bind_eq_ok.mp h
      rw [← Except.ok.inj hparsed]
      obtain ⟨text, hread, rfl, -⟩ := parseString_reads hstring
      rw [hread]
      exact ⟨.str text, rfl, trivial, rfl, rfl⟩
    · rename_i rest heq
      rw [heq]
      split at h
      · rename_i rest' hclose
        rw [readValue_arr_nil fuel hclose, ← Except.ok.inj h]
        exact ⟨.arr [], rfl, trivial, rfl, rfl⟩
      · rename_i hopen
        obtain ⟨⟨items, forms, rest'⟩, hitems, hparsed⟩ := bind_eq_ok.mp h
        rw [← Except.ok.inj hparsed]
        obtain ⟨docs, hread, hsupported, rfl, rfl⟩ := parseItems_reads hrepr fuel _ _ _ _ _ _ hitems
        rw [skipBlanks_skipBlanks] at hread
        exact ⟨.arr docs, readValue_arr fuel hopen hread, hsupported, rfl, rfl⟩
    · rename_i rest heq
      rw [heq]
      split at h
      · rename_i rest' hclose
        rw [readValue_obj_nil fuel hclose, ← Except.ok.inj h]
        exact ⟨.obj [], rfl, ⟨List.nodup_nil, trivial⟩, rfl, rfl⟩
      · rename_i hopen
        obtain ⟨⟨members, forms, rest'⟩, hmembers, hparsed⟩ := bind_eq_ok.mp h
        rw [← Except.ok.inj hparsed]
        obtain ⟨docs, hread, hsupported, rfl, rfl, hnodup, -⟩ :=
          parseMembers_reads hrepr fuel _ _ _ _ _ _ hmembers
        rw [skipBlanks_skipBlanks] at hread
        exact ⟨.obj docs, readValue_obj fuel hopen hread hnodup, ⟨hnodup, hsupported⟩, rfl, rfl⟩
    · rename_i hstring harr hobj
      rw [readValue]
      · exact parseAtom_reads hrepr h
      · exact hstring
      · exact harr
      · exact hobj

theorem parseItems_reads (hrepr : ∀ literal value, float64 literal = some value →
      pythonFloat value = value.text) :
    ∀ (fuel : Nat) (items : List JsValue) (forms : List (List Nat × List Nat)) (cs : List Char)
      (items' : List JsValue) (forms' : List (List Nat × List Nat)) (rest : List Char),
    parseItems float64 pythonFloat fuel items forms cs = .ok (items', forms', rest) →
    ∃ docs, readItems float64 fuel (skipBlanks cs) = .ok (docs, rest) ∧
      SupportedItems float64 docs ∧ items' = items ++ ofItems docs ∧
      forms' = forms ++ itemForms items.length docs
  | 0, _, _, _, _, _, _, h => by cases h
  | fuel + 1, items, forms, cs, items', forms', rest, h => by
    rw [parseItems] at h
    obtain ⟨item, hitem, h⟩ := bind_eq_ok.mp h
    obtain ⟨doc, hread, hsupported, hvalue, hform⟩ := parseValue_reads hrepr fuel cs item hitem
    rw [readItems]
    split at h
    · rename_i tail heq
      obtain ⟨docs, hrest, hdocs, hitems, hforms⟩ := parseItems_reads hrepr fuel _ _ _ _ _ _ h
      refine ⟨doc :: docs, ?_, ⟨hsupported, hdocs⟩, ?_, ?_⟩
      · simp only [bind, Except.bind, hread, heq, hrest]
        rfl
      · rw [hitems, ofItems, hvalue, List.append_assoc]
        rfl
      · rw [hforms, itemForms, hform, setForm_append, List.length_append, List.append_assoc]
        rfl
    · rename_i tail heq
      obtain ⟨rfl, hpair⟩ := Prod.mk.inj (Except.ok.inj h)
      obtain ⟨rfl, rfl⟩ := Prod.mk.inj hpair
      refine ⟨[doc], ?_, ⟨hsupported, trivial⟩, ?_, ?_⟩
      · simp only [bind, Except.bind, hread, heq]
        rfl
      · rw [hvalue]
        rfl
      · rw [itemForms, itemForms, hform, setForm_append, List.append_nil]
    · cases h

theorem parseMembers_reads (hrepr : ∀ literal value, float64 literal = some value →
      pythonFloat value = value.text) :
    ∀ (fuel : Nat) (members : List (List Nat × JsValue)) (forms : List (List Nat × List Nat))
      (cs : List Char) (members' : List (List Nat × JsValue))
      (forms' : List (List Nat × List Nat)) (rest : List Char),
    parseMembers float64 pythonFloat fuel members forms cs = .ok (members', forms', rest) →
    ∃ docs, readMembers float64 fuel (skipBlanks cs) = .ok (docs, rest) ∧
      SupportedMembers float64 docs ∧ members' = members ++ ofMembers docs ∧
      forms' = forms ++ memberForms docs ∧ (docs.map Prod.fst).Nodup ∧
      ∀ doc ∈ docs, units doc.1 ∉ members.map Prod.fst
  | 0, _, _, _, _, _, _, h => by cases h
  | fuel + 1, members, forms, cs, members', forms', rest, h => by
    rw [parseMembers] at h
    split at h
    · rename_i tail heq
      rw [heq, readMembers]
      obtain ⟨⟨member, tail⟩, hstring, h⟩ := bind_eq_ok.mp h
      obtain ⟨key, hkey, rfl, -⟩ := parseString_reads hstring
      obtain ⟨hfresh, h⟩ := bind_unit_eq_ok.mp h
      rw [require_eq_ok] at hfresh
      split at h
      · rename_i tail' hcolon
        obtain ⟨item, hitem, h⟩ := bind_eq_ok.mp h
        obtain ⟨doc, hread, hsupported, hvalue, hform⟩ :=
          parseValue_reads hrepr fuel _ item hitem
        split at h
        · rename_i tail'' hcomma
          obtain ⟨docs, hrest, hdocs, hmembers, hforms, hnodup, hnew⟩ :=
            parseMembers_reads hrepr fuel _ _ _ _ _ _ h
          refine ⟨(key, doc) :: docs, ?_, ⟨hsupported, hdocs⟩, ?_, ?_, ?_, ?_⟩
          · simp only [bind, Except.bind, hkey, hcolon, hread, hcomma, hrest]
            rfl
          · rw [hmembers, ofMembers, hvalue, List.append_assoc]
            rfl
          · rw [hforms, memberForms, hform, setForm_append, List.append_assoc]
          · rw [List.map_cons, List.nodup_cons]
            refine ⟨?_, hnodup⟩
            intro hmem
            obtain ⟨other, hother, hsame⟩ := List.mem_map.mp hmem
            apply hnew other hother
            rw [hsame, List.map_append]
            exact List.mem_append_right _ (List.mem_singleton_self _)
          · intro other hother hmem
            obtain rfl | hother := List.mem_cons.mp hother
            · exact hfresh hmem
            · apply hnew other hother
              rw [List.map_append]
              exact List.mem_append_left _ hmem
        · rename_i tail'' hclose
          obtain ⟨rfl, hpair⟩ := Prod.mk.inj (Except.ok.inj h)
          obtain ⟨rfl, rfl⟩ := Prod.mk.inj hpair
          refine ⟨[(key, doc)], ?_, ⟨hsupported, trivial⟩, ?_, ?_, List.nodup_singleton _, ?_⟩
          · simp only [bind, Except.bind, hkey, hcolon, hread, hclose]
            rfl
          · rw [hvalue]
            rfl
          · rw [memberForms, memberForms, hform, setForm_append, List.append_nil]
          · intro other hother
            rw [List.mem_singleton.mp hother]
            exact hfresh
        · cases h
      · cases h
    · cases h

end

/-! ### The bound on the recursion -/

theorem parseAtom_length {cs : List Char} {parsed : Parsed}
    (h : parseAtom float64 pythonFloat cs = .ok parsed) : parsed.rest.length < cs.length := by
  have hword : ∀ (word : String) (rest : List Char), 0 < word.toList.length →
      ((word.toList ++ rest).drop word.toList.length).length <
        (word.toList ++ rest).length := by
    intro word rest hpos
    rw [List.length_drop, List.length_append]
    omega
  unfold parseAtom at h
  split_ifs at h with htrue hfalse hnull
  · obtain ⟨rest, rfl⟩ := List.isPrefixOf_iff_prefix.mp htrue
    rw [← Except.ok.inj h]
    exact hword "true" rest (by decide)
  · obtain ⟨rest, rfl⟩ := List.isPrefixOf_iff_prefix.mp hfalse
    rw [← Except.ok.inj h]
    exact hword "false" rest (by decide)
  · obtain ⟨rest, rfl⟩ := List.isPrefixOf_iff_prefix.mp hnull
    rw [← Except.ok.inj h]
    exact hword "null" rest (by decide)
  · cases hscan : scanNumber cs with
    | none =>
      rw [hscan] at h
      cases h
    | some scanned =>
      obtain ⟨token, rest⟩ := scanned
      rw [hscan] at h
      obtain ⟨⟨number, form⟩, -, heq⟩ := bind_eq_ok.mp h
      rw [← Except.ok.inj heq]
      exact scanNumber_length hscan

mutual

/-- A parsed value takes at least one character. -/
theorem parseValue_length : ∀ (fuel : Nat) (cs : List Char) (parsed : Parsed),
    parseValue float64 pythonFloat fuel cs = .ok parsed → parsed.rest.length < cs.length
  | 0, cs, parsed, h => by cases h
  | fuel + 1, cs, parsed, h => by
    have hskip := length_skipBlanks_le cs
    rw [parseValue] at h
    split at h
    · rename_i rest heq
      rw [heq, List.length_cons] at hskip
      obtain ⟨⟨value, rest'⟩, hstring, hparsed⟩ := bind_eq_ok.mp h
      obtain ⟨-, -, -, hlength⟩ := parseString_reads hstring
      rw [← Except.ok.inj hparsed]
      exact Nat.lt_of_lt_of_le (Nat.lt_succ_of_lt hlength) hskip
    · rename_i rest heq
      rw [heq, List.length_cons] at hskip
      have hrest := length_skipBlanks_le rest
      split at h
      · rename_i rest' hclose
        rw [hclose, List.length_cons] at hrest
        rw [← Except.ok.inj h]
        show rest'.length < cs.length
        omega
      · obtain ⟨⟨items, forms, rest'⟩, hitems, hparsed⟩ := bind_eq_ok.mp h
        have hlength := parseItems_length fuel _ _ _ _ _ _ hitems
        rw [← Except.ok.inj hparsed]
        show rest'.length < cs.length
        omega
    · rename_i rest heq
      rw [heq, List.length_cons] at hskip
      have hrest := length_skipBlanks_le rest
      split at h
      · rename_i rest' hclose
        rw [hclose, List.length_cons] at hrest
        rw [← Except.ok.inj h]
        show rest'.length < cs.length
        omega
      · obtain ⟨⟨members, forms, rest'⟩, hmembers, hparsed⟩ := bind_eq_ok.mp h
        have hlength := parseMembers_length fuel _ _ _ _ _ _ hmembers
        rw [← Except.ok.inj hparsed]
        show rest'.length < cs.length
        omega
    · exact Nat.lt_of_lt_of_le (parseAtom_length h) hskip

theorem parseItems_length : ∀ (fuel : Nat) (items : List JsValue)
    (forms : List (List Nat × List Nat)) (cs : List Char) (items' : List JsValue)
    (forms' : List (List Nat × List Nat)) (rest : List Char),
    parseItems float64 pythonFloat fuel items forms cs = .ok (items', forms', rest) →
    rest.length < cs.length
  | 0, _, _, _, _, _, _, h => by cases h
  | fuel + 1, items, forms, cs, items', forms', rest, h => by
    rw [parseItems] at h
    obtain ⟨item, hitem, h⟩ := bind_eq_ok.mp h
    have hlength := parseValue_length fuel cs item hitem
    have hskip := length_skipBlanks_le item.rest
    split at h
    · rename_i tail heq
      rw [heq, List.length_cons] at hskip
      have hrest := parseItems_length fuel _ _ _ _ _ _ h
      omega
    · rename_i tail heq
      rw [heq, List.length_cons] at hskip
      obtain ⟨-, hpair⟩ := Prod.mk.inj (Except.ok.inj h)
      obtain ⟨-, rfl⟩ := Prod.mk.inj hpair
      omega
    · cases h

theorem parseMembers_length : ∀ (fuel : Nat) (members : List (List Nat × JsValue))
    (forms : List (List Nat × List Nat)) (cs : List Char) (members' : List (List Nat × JsValue))
    (forms' : List (List Nat × List Nat)) (rest : List Char),
    parseMembers float64 pythonFloat fuel members forms cs = .ok (members', forms', rest) →
    rest.length < cs.length
  | 0, _, _, _, _, _, _, h => by cases h
  | fuel + 1, members, forms, cs, members', forms', rest, h => by
    have hstart := length_skipBlanks_le cs
    rw [parseMembers] at h
    split at h
    · rename_i tail heq
      rw [heq, List.length_cons] at hstart
      obtain ⟨⟨member, tail⟩, hstring, h⟩ := bind_eq_ok.mp h
      obtain ⟨-, -, -, hkey⟩ := parseString_reads hstring
      obtain ⟨-, h⟩ := bind_unit_eq_ok.mp h
      have hbefore := length_skipBlanks_le tail
      split at h
      · rename_i tail' hcolon
        rw [hcolon, List.length_cons] at hbefore
        obtain ⟨item, hitem, h⟩ := bind_eq_ok.mp h
        have hlength := parseValue_length fuel _ item hitem
        have hskip := length_skipBlanks_le item.rest
        split at h
        · rename_i tail'' hcomma
          rw [hcomma, List.length_cons] at hskip
          have hrest := parseMembers_length fuel _ _ _ _ _ _ h
          omega
        · rename_i tail'' hclose
          rw [hclose, List.length_cons] at hskip
          obtain ⟨-, hpair⟩ := Prod.mk.inj (Except.ok.inj h)
          obtain ⟨-, rfl⟩ := Prod.mk.inj hpair
          omega
        · cases h
      · cases h
    · cases h

end

theorem quoted_ne_fuel (value : List Nat) : quoted value ≠ .error .fuel := by
  unfold quoted require
  split_ifs
  · intro h
    cases h
  · intro h
    cases h

theorem parseString_ne_fuel (cs : List Char) : parseString cs ≠ .error .fuel := by
  unfold parseString
  cases scanPieces cs with
  | none =>
    intro h
    cases h
  | some scanned =>
    intro h
    obtain h | ⟨text, -, h⟩ := bind_eq_error.mp h
    · exact quoted_ne_fuel _ h
    · cases h

theorem parseAtom_ne_fuel (cs : List Char) :
    parseAtom float64 pythonFloat cs ≠ .error .fuel := by
  unfold parseAtom
  split_ifs
  · intro h
    cases h
  · intro h
    cases h
  · intro h
    cases h
  · cases scanNumber cs with
    | none =>
      intro h
      cases h
    | some scanned =>
      intro h
      obtain h | ⟨number, -, h⟩ := bind_eq_error.mp h
      · unfold parseNumber at h
        split_ifs at h
        · split at h
          · cases h
          · cases h
        · dsimp only at h
          split_ifs at h
          cases h
      · cases h

mutual

theorem parseValue_ne_fuel : ∀ (fuel : Nat) (cs : List Char), 2 * cs.length + 1 ≤ fuel →
    parseValue float64 pythonFloat fuel cs ≠ .error .fuel
  | 0, cs, hfuel => by omega
  | fuel + 1, cs, hfuel => by
    have hskip := length_skipBlanks_le cs
    intro h
    rw [parseValue] at h
    split at h
    · obtain h | ⟨value, -, h⟩ := bind_eq_error.mp h
      · exact parseString_ne_fuel _ h
      · cases h
    · rename_i rest heq
      rw [heq, List.length_cons] at hskip
      have hrest := length_skipBlanks_le rest
      split at h
      · cases h
      · obtain h | ⟨items, -, h⟩ := bind_eq_error.mp h
        · exact parseItems_ne_fuel fuel _ _ _ (by omega) h
        · cases h
    · rename_i rest heq
      rw [heq, List.length_cons] at hskip
      have hrest := length_skipBlanks_le rest
      split at h
      · cases h
      · obtain h | ⟨members, -, h⟩ := bind_eq_error.mp h
        · exact parseMembers_ne_fuel fuel _ _ _ (by omega) h
        · cases h
    · exact parseAtom_ne_fuel _ h

theorem parseItems_ne_fuel : ∀ (fuel : Nat) (items : List JsValue)
    (forms : List (List Nat × List Nat)) (cs : List Char), 2 * cs.length + 2 ≤ fuel →
    parseItems float64 pythonFloat fuel items forms cs ≠ .error .fuel
  | 0, _, _, _, hfuel => by omega
  | fuel + 1, items, forms, cs, hfuel => by
    intro h
    rw [parseItems] at h
    obtain h | ⟨item, hitem, h⟩ := bind_eq_error.mp h
    · exact parseValue_ne_fuel fuel cs (by omega) h
    · have hlength := parseValue_length fuel cs item hitem
      have hskip := length_skipBlanks_le item.rest
      split at h
      · rename_i tail heq
        rw [heq, List.length_cons] at hskip
        exact parseItems_ne_fuel fuel _ _ _ (by omega) h
      · cases h
      · cases h

theorem parseMembers_ne_fuel : ∀ (fuel : Nat) (members : List (List Nat × JsValue))
    (forms : List (List Nat × List Nat)) (cs : List Char), 2 * cs.length + 1 ≤ fuel →
    parseMembers float64 pythonFloat fuel members forms cs ≠ .error .fuel
  | 0, _, _, _, hfuel => by omega
  | fuel + 1, members, forms, cs, hfuel => by
    have hstart := length_skipBlanks_le cs
    intro h
    rw [parseMembers] at h
    split at h
    · rename_i tail heq
      rw [heq, List.length_cons] at hstart
      obtain h | ⟨⟨member, tail⟩, hstring, h⟩ := bind_eq_error.mp h
      · exact parseString_ne_fuel _ h
      · obtain ⟨-, -, -, hkey⟩ := parseString_reads hstring
        obtain h | ⟨-, -, h⟩ := bind_eq_error.mp h
        · rw [require_eq_error] at h
          cases h.2
        · have hbefore := length_skipBlanks_le tail
          split at h
          · rename_i tail' hcolon
            rw [hcolon, List.length_cons] at hbefore
            obtain h | ⟨item, hitem, h⟩ := bind_eq_error.mp h
            · exact parseValue_ne_fuel fuel _ (by omega) h
            · have hlength := parseValue_length fuel _ item hitem
              have hskip := length_skipBlanks_le item.rest
              split at h
              · rename_i tail'' hcomma
                rw [hcomma, List.length_cons] at hskip
                exact parseMembers_ne_fuel fuel _ _ _ (by omega) h
              · cases h
              · cases h
          · cases h
    · cases h

end

/-- **Twice the length of the text bounds the recursion of the parser.** -/
theorem parseCanonicalJson_ne_fuel (raw : List Char) :
    parseCanonicalJson float64 pythonFloat raw ≠ .error .fuel := by
  intro h
  obtain h | ⟨result, -, h⟩ := bind_eq_error.mp h
  · exact parseValue_ne_fuel _ raw (Nat.le_refl _) h
  · split at h
    · cases h
    · cases h

end
end PlantNexus.Frontend
