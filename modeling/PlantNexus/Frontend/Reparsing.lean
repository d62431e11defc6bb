import PlantNexus.Frontend.Parsing

/-! The parser on a printed document.

`FloatLiterals` is what the documentation of both languages says of the shortest decimal of a
double: it is a number literal with a fraction or an exponent, and its nearest double is the one
it was printed from. Then a supported document is parsed back from its text, whatever ends it
(`parseValue_print`). -/
namespace PlantNexus.Frontend
open Data JsonRead

/-- A double is read back from its printed form. -/
structure FloatLiterals (float64 : List Char → Option FloatValue) : Prop where
  literal : ∀ cs value, float64 cs = some value →
    ∃ token, scanNumber value.text.toList = some (token, []) ∧ token.tail ≠ []
  roundTrip : ∀ cs value, float64 cs = some value → float64 value.text.toList = some value

/-! ### Strings -/

theorem hexDigit?_digitChar : ∀ n < 16, hexDigit? n.digitChar = some n := by decide

/-- The escape of a control character is four digits of its code unit. -/
theorem hex4_hexDigits (n : Nat) (h : n < 32) :
    hex4 (Json.hexDigits 4 n) = some (n, []) := by
  rw [Json.hexDigits_four, hex4, hexDigit?_digitChar _ (Nat.mod_lt _ (by decide)),
    hexDigit?_digitChar _ (Nat.mod_lt _ (by decide)),
    hexDigit?_digitChar _ (Nat.mod_lt _ (by decide)),
    hexDigit?_digitChar _ (Nat.mod_lt _ (by decide))]
  have hvalue : 4096 * (n / 4096 % 16) + 256 * (n / 256 % 16) + 16 * (n / 16 % 16) + n % 16 = n := by
    omega
  show some (4096 * (n / 4096 % 16) + 256 * (n / 256 % 16) + 16 * (n / 16 % 16) + n % 16, _) = _
  rw [hvalue]

/-- An escaped character is scanned as one piece with its code units. -/
theorem scanPieces_escapeChar (c : Char) : ∃ piece, pieceUnits [piece] = Utf16.encodeChar c ∧
    ∀ cs, scanPieces (Json.escapeChar c ++ cs) =
      (scanPieces cs).map fun s => (piece :: s.1, s.2) := by
  have hletter : ∀ (e letter : Char), e ≠ 'u' → escapeLetter e = some letter →
      ∀ cs, scanPieces ('\\' :: e :: cs) =
        (scanPieces cs).map fun s => (.char letter :: s.1, s.2) := by
    intro e letter he hescape cs
    rw [scanPieces_letter e cs fun _ _ _ _ _ heq _ => he heq, hescape]
    cases scanPieces cs with
    | none => rfl
    | some s => rfl
  have hchar : ∀ d, pieceUnits [.char d] = Utf16.encodeChar d := fun d => List.append_nil _
  unfold Json.escapeChar
  split_ifs with h1 h2 h3 h4 h5 h6 h7 h8
  · rw [h1]
    exact ⟨.char '"', hchar _, hletter '"' '"' (by decide) rfl⟩
  · rw [h2]
    exact ⟨.char '\\', hchar _, hletter '\\' '\\' (by decide) rfl⟩
  · rw [h3]
    exact ⟨.char '\n', hchar _, hletter 'n' '\n' (by decide) rfl⟩
  · rw [h4]
    exact ⟨.char '\r', hchar _, hletter 'r' '\r' (by decide) rfl⟩
  · rw [h5]
    exact ⟨.char '\t', hchar _, hletter 't' '\t' (by decide) rfl⟩
  · have hc : c = Char.ofNat 12 := by rw [← h6, Char.ofNat_toNat]
    rw [hc]
    exact ⟨.char (Char.ofNat 12), hchar _, hletter 'f' (Char.ofNat 12) (by decide) rfl⟩
  · have hc : c = Char.ofNat 8 := by rw [← h7, Char.ofNat_toNat]
    rw [hc]
    exact ⟨.char (Char.ofNat 8), hchar _, hletter 'b' (Char.ofNat 8) (by decide) rfl⟩
  · refine ⟨.escape c.toNat, ?_, ?_⟩
    · rw [Utf16.encodeChar_basic c (by omega)]
      rfl
    · intro cs
      have hhex := hex4_hexDigits c.toNat h8
      rw [Json.hexDigits_four] at hhex ⊢
      simp only [List.cons_append, List.nil_append]
      rw [scanPieces_hex, hhex]
      cases scanPieces cs with
      | none => rfl
      | some s => rfl
  · refine ⟨.char c, hchar c, ?_⟩
    intro cs
    rw [List.cons_append, List.nil_append, scanPieces_char h1 h2, if_neg h8]
    cases scanPieces cs with
    | none => rfl
    | some s => rfl

theorem scanPieces_escaped (text rest : List Char) :
    ∃ pieces, scanPieces (text.flatMap Json.escapeChar ++ '"' :: rest) = some (pieces, rest) ∧
      pieceUnits pieces = Utf16.encode text := by
  induction text with
  | nil => exact ⟨[], scanPieces_quote rest, rfl⟩
  | cons c text ih =>
    obtain ⟨pieces, hscan, hunits⟩ := ih
    obtain ⟨piece, hpiece, hstep⟩ := scanPieces_escapeChar c
    refine ⟨piece :: pieces, ?_, ?_⟩
    · rw [List.flatMap_cons, List.append_assoc, hstep, hscan]
      rfl
    · rw [pieceUnits_cons, hpiece, hunits, Utf16.encode_cons]

/-- A quoted string is parsed back. -/
theorem parseString_quote (text : String) (rest : List Char) :
    parseString (text.toList.flatMap Json.escapeChar ++ '"' :: rest) = .ok (units text, rest) := by
  obtain ⟨pieces, hscan, hunits⟩ := scanPieces_escaped text.toList rest
  have hquoted : quoted (pieceUnits pieces) = .ok (stringify (pieceUnits pieces)) := by
    rw [quoted_eq_ok, hunits]
    exact ⟨Utf16.paired_encode _, rfl⟩
  unfold parseString
  rw [hscan]
  simp only [bind, Except.bind, hquoted]
  rw [hunits]
  rfl

/-! ### Values -/

section
variable {float64 : List Char → Option FloatValue} {pythonFloat : FloatValue → String}

theorem skipBlanks_cons {c : Char} (h : isBlank c = false) (tail : List Char) :
    skipBlanks (c :: tail) = c :: tail := by
  rw [skipBlanks, List.dropWhile_cons, h]
  exact if_neg Bool.false_ne_true

/-- A number is read where a number starts. -/
theorem parseValue_number {cs rest : List Char} {token : NumberToken} {number : JsNumber}
    {form : List Nat} (hhead : NumberHead cs) (hscan : scanNumber cs = some (token, rest))
    (hnumber : parseNumber float64 pythonFloat token = .ok (number, form)) (fuel : Nat) :
    parseValue float64 pythonFloat (fuel + 1) cs = .ok ⟨.number number, some form, rest⟩ := by
  obtain ⟨c, tail, rfl, hc⟩ := hhead
  have hne : ∀ d : Char, d ≠ '-' → d.isDigit = false → c ≠ d := by
    intro d hminus hdigit heq
    obtain rfl | hc := hc
    · exact hminus heq.symm
    · rw [heq, hdigit] at hc
      cases hc
  have hblank : isBlank c = false := by
    simp only [isBlank, Bool.or_eq_false_iff, decide_eq_false_iff_not]
    exact ⟨⟨⟨hne ' ' (by decide) rfl, hne '\t' (by decide) rfl⟩, hne '\n' (by decide) rfl⟩,
      hne '\r' (by decide) rfl⟩
  have hlead : ∀ (word : String) (d : Char) (ds : List Char), word.toList = d :: ds → d ≠ '-' →
      d.isDigit = false → ¬word.toList.isPrefixOf (c :: tail) = true := by
    intro word d ds hword hminus hdigit hleads
    obtain ⟨rest, heq⟩ := List.isPrefixOf_iff_prefix.mp hleads
    rw [hword] at heq
    exact hne d hminus hdigit (List.cons.inj heq).1.symm
  have hatom : parseAtom float64 pythonFloat (c :: tail) =
      .ok ⟨.number number, some form, rest⟩ := by
    rw [parseAtom, if_neg (hlead "true" 't' _ rfl (by decide) rfl),
      if_neg (hlead "false" 'f' _ rfl (by decide) rfl),
      if_neg (hlead "null" 'n' _ rfl (by decide) rfl), hscan]
    simp only [bind, Except.bind, hnumber]
    rfl
  rw [parseValue, skipBlanks_cons hblank]
  split
  · rename_i heq
    exact (hne '"' (by decide) rfl (List.cons.inj heq).1).elim
  · rename_i heq
    exact (hne '[' (by decide) rfl (List.cons.inj heq).1).elim
  · rename_i heq
    exact (hne '\x7b' (by decide) rfl (List.cons.inj heq).1).elim
  · exact hatom

/-- A written integer is parsed back. -/
theorem parseValue_int {value : Int} (hsafe : value.natAbs ≤ maxSafeInteger) {rest : List Char}
    (hends : Ends rest) (fuel : Nat) :
    parseValue float64 pythonFloat (fuel + 1) ((toString value).toList ++ rest) =
      .ok ⟨ofJson (.int value), formText (.int value), rest⟩ := by
  obtain ⟨-, hhead, happend⟩ := scanNumber_append (scanNumber_int value)
  obtain ⟨c, tail, hc, hcase⟩ := hhead
  refine parseValue_number ⟨c, tail ++ rest, ?_, hcase⟩ (happend rest hends) ?_ fuel
  · rw [hc]
    rfl
  · rw [parseNumber, if_neg (not_not.mpr rfl), integerValue_int]
    exact if_pos hsafe

/-- A printed float is parsed back. -/
theorem parseValue_float (hrepr : ∀ literal value, float64 literal = some value →
      pythonFloat value = value.text) (hliterals : FloatLiterals float64)
    {literal : List Char} {value : FloatValue} (hvalue : float64 literal = some value)
    {rest : List Char} (hends : Ends rest) (fuel : Nat) :
    parseValue float64 pythonFloat (fuel + 1) (value.text.toList ++ rest) =
      .ok ⟨ofJson (.float value), formText (.float value), rest⟩ := by
  obtain ⟨token, hscan, htail⟩ := hliterals.literal literal value hvalue
  obtain ⟨hsplit, hhead, happend⟩ := scanNumber_append hscan
  obtain ⟨c, tail, hc, hcase⟩ := hhead
  refine parseValue_number ⟨c, tail ++ rest, ?_, hcase⟩ (happend rest hends) ?_ fuel
  · rw [hc]
    rfl
  · rw [parseNumber, if_pos htail, ← hsplit, hliterals.roundTrip literal value hvalue]
    show Except.ok (JsNumber.double value, units (pythonFloat value)) = _
    rw [hrepr literal value hvalue]

/-- A number starts neither with a blank nor with a closing bracket. -/
theorem numberHead_plain {cs : List Char} (hhead : NumberHead cs) :
    ∃ c tail, cs = c :: tail ∧ isBlank c = false ∧ c ≠ ']' ∧ c ≠ '\x7d' := by
  obtain ⟨c, tail, rfl, hc⟩ := hhead
  obtain rfl | hc := hc
  · exact ⟨'-', tail, rfl, by decide⟩
  · have hne : ∀ d : Char, d.isDigit = false → c ≠ d := by
      intro d hdigit heq
      rw [heq, hdigit] at hc
      cases hc
    refine ⟨c, tail, rfl, ?_, hne _ rfl, hne _ rfl⟩
    simp only [isBlank, Bool.or_eq_false_iff, decide_eq_false_iff_not]
    exact ⟨⟨⟨hne ' ' rfl, hne '\t' rfl⟩, hne '\n' rfl⟩, hne '\r' rfl⟩

/-- The first character of a printed value is neither a blank nor a closing bracket. -/
theorem print_head (hliterals : FloatLiterals float64) (doc : Json)
    (hdoc : Supported float64 doc) :
    ∃ c tail, Json.print doc = c :: tail ∧ isBlank c = false ∧ c ≠ ']' ∧ c ≠ '\x7d' := by
  cases doc with
  | null => exact ⟨'n', _, rfl, by decide⟩
  | bool value =>
    cases value with
    | true => exact ⟨'t', _, rfl, by decide⟩
    | false => exact ⟨'f', _, rfl, by decide⟩
  | int value => exact numberHead_plain (scanNumber_append (scanNumber_int value)).2.1
  | float value =>
    obtain ⟨literal, hvalue⟩ := hdoc
    obtain ⟨token, hscan, -⟩ := hliterals.literal literal value hvalue
    exact numberHead_plain (scanNumber_append hscan).2.1
  | str value => exact ⟨'"', _, rfl, by decide⟩
  | arr items => exact ⟨'[', _, Json.print_arr items, by decide⟩
  | obj members => exact ⟨'\x7b', _, Json.print_obj members, by decide⟩

theorem ends_printItems (items : List Json) (rest : List Char) :
    Ends (Json.printItems items ++ ']' :: rest) := by
  cases items with
  | nil => exact ends_cons (.inr (.inl rfl)) rest
  | cons x xs => exact ends_cons (.inl rfl) _

theorem ends_printMembers (members : List (String × Json)) (rest : List Char) :
    Ends (Json.printMembers members ++ '\x7d' :: rest) := by
  cases members with
  | nil => exact ends_cons (.inr (.inr rfl)) rest
  | cons m members => exact ends_cons (.inl rfl) _

theorem parseItems_comma {fuel : Nat} {items : List JsValue} {forms : List (List Nat × List Nat)}
    {cs rest : List Char} {item : Parsed}
    (hitem : parseValue float64 pythonFloat fuel cs = .ok item)
    (hrest : skipBlanks item.rest = ',' :: rest) :
    parseItems float64 pythonFloat (fuel + 1) items forms cs =
      parseItems float64 pythonFloat fuel (items ++ [item.value])
        (setForm forms (units (toString items.length)) item.form) rest := by
  rw [parseItems]
  simp only [bind, Except.bind, hitem, hrest]

theorem parseItems_close {fuel : Nat} {items : List JsValue} {forms : List (List Nat × List Nat)}
    {cs rest : List Char} {item : Parsed}
    (hitem : parseValue float64 pythonFloat fuel cs = .ok item)
    (hrest : skipBlanks item.rest = ']' :: rest) :
    parseItems float64 pythonFloat (fuel + 1) items forms cs =
      .ok (items ++ [item.value],
        setForm forms (units (toString items.length)) item.form, rest) := by
  rw [parseItems]
  simp only [bind, Except.bind, hitem, hrest]
  rfl

theorem parseMembers_comma {fuel : Nat} {members : List (List Nat × JsValue)}
    {forms : List (List Nat × List Nat)} {cs rest : List Char} {key : String} {item : Parsed}
    (hfresh : units key ∉ members.map Prod.fst)
    (hitem : parseValue float64 pythonFloat fuel cs = .ok item)
    (hrest : skipBlanks item.rest = ',' :: rest) :
    parseMembers float64 pythonFloat (fuel + 1) members forms (Json.quote key ++ ':' :: cs) =
      parseMembers float64 pythonFloat fuel (members ++ [(units key, item.value)])
        (setForm forms (units key) item.form) rest := by
  rw [Json.quote, List.cons_append, List.append_assoc, List.singleton_append, parseMembers,
    skipBlanks_cons (by decide)]
  simp only [bind, Except.bind, parseString_quote, require, if_pos hfresh]
  rw [skipBlanks_cons (by decide)]
  simp only [hitem, hrest]

theorem parseMembers_close {fuel : Nat} {members : List (List Nat × JsValue)}
    {forms : List (List Nat × List Nat)} {cs rest : List Char} {key : String} {item : Parsed}
    (hfresh : units key ∉ members.map Prod.fst)
    (hitem : parseValue float64 pythonFloat fuel cs = .ok item)
    (hrest : skipBlanks item.rest = '\x7d' :: rest) :
    parseMembers float64 pythonFloat (fuel + 1) members forms (Json.quote key ++ ':' :: cs) =
      .ok (members ++ [(units key, item.value)], setForm forms (units key) item.form, rest) := by
  rw [Json.quote, List.cons_append, List.append_assoc, List.singleton_append, parseMembers,
    skipBlanks_cons (by decide)]
  simp only [bind, Except.bind, parseString_quote, require, if_pos hfresh]
  rw [skipBlanks_cons (by decide)]
  simp only [hitem, hrest]
  rfl

theorem parseValue_arr {fuel : Nat} {cs rest : List Char} {items : List JsValue}
    {forms : List (List Nat × List Nat)} {c : Char} {tail : List Char} (hcs : cs = c :: tail)
    (hblank : isBlank c = false) (hclose : c ≠ ']')
    (hitems : parseItems float64 pythonFloat fuel [] [] cs = .ok (items, forms, rest)) :
    parseValue float64 pythonFloat (fuel + 1) ('[' :: cs) = .ok ⟨.arr items forms, none, rest⟩ := by
  have hskip : skipBlanks cs = cs := by rw [hcs, skipBlanks_cons hblank]
  rw [parseValue, skipBlanks_cons (by decide)]
  simp only [hskip]
  split
  · exact (hclose (List.cons.inj hcs).1.symm).elim
  · simp only [bind, Except.bind, hitems]
    rfl

theorem parseValue_obj {fuel : Nat} {cs rest : List Char} {members : List (List Nat × JsValue)}
    {forms : List (List Nat × List Nat)} (key : String)
    (hmembers : parseMembers float64 pythonFloat fuel [] [] (Json.quote key ++ cs) =
      .ok (members, forms, rest)) :
    parseValue float64 pythonFloat (fuel + 1) ('\x7b' :: (Json.quote key ++ cs)) =
      .ok ⟨.obj members forms, none, rest⟩ := by
  rw [parseValue, skipBlanks_cons (by decide)]
  rw [Json.quote, List.cons_append] at hmembers ⊢
  simp only [skipBlanks_cons (show isBlank '"' = false from rfl)]
  show (parseMembers float64 pythonFloat fuel [] [] _ >>= _) = _
  rw [hmembers]
  rfl

mutual

/-- **A supported document is parsed back from its text.** -/
theorem parseValue_print (hrepr : ∀ literal value, float64 literal = some value →
      pythonFloat value = value.text) (hliterals : FloatLiterals float64) :
    ∀ (doc : Json), Supported float64 doc → ∀ (fuel : Nat) (rest : List Char),
    2 * (Json.print doc).length ≤ fuel → Ends rest →
    parseValue float64 pythonFloat fuel (Json.print doc ++ rest) =
      .ok ⟨ofJson doc, formText doc, rest⟩
  | doc, hdoc, fuel, rest, hfuel, hends => by
    obtain ⟨c, tail, hhead, -⟩ := print_head hliterals doc hdoc
    obtain ⟨fuel, rfl⟩ : ∃ n, fuel = n + 1 := by
      rw [hhead, List.length_cons] at hfuel
      exact ⟨fuel - 1, by omega⟩
    cases doc with
    | null => rfl
    | bool value =>
      cases value with
      | true => rfl
      | false => rfl
    | int value => exact parseValue_int hdoc hends fuel
    | float value =>
      obtain ⟨literal, hvalue⟩ := hdoc
      exact parseValue_float hrepr hliterals hvalue hends fuel
    | str value =>
      rw [Json.print, Json.quote, List.cons_append, List.append_assoc, List.singleton_append,
        parseValue, skipBlanks_cons (by decide)]
      simp only [bind, Except.bind, parseString_quote]
      rfl
    | arr items =>
      cases items with
      | nil => rfl
      | cons x xs =>
        obtain ⟨c, tail, hx, hblank, hclose, -⟩ := print_head hliterals x hdoc.1
        have hitems := parseItems_print hrepr hliterals (x :: xs) hdoc x xs rfl fuel [] [] rest (by
          simp only [Json.print, List.length_cons, List.length_append, List.length_nil] at hfuel
          omega)
        rw [Json.print, List.cons_append, List.append_assoc, List.append_assoc,
          List.singleton_append]
        exact parseValue_arr (c := c) (by rw [hx]; rfl) hblank hclose hitems
    | obj members =>
      cases members with
      | nil => rfl
      | cons m members =>
        obtain ⟨key, value⟩ := m
        have hmembers := parseMembers_print hrepr hliterals ((key, value) :: members) hdoc.2 hdoc.1
          key value members rfl fuel [] [] rest (fun _ _ hmem => absurd hmem List.not_mem_nil) (by
          simp only [Json.print, List.length_cons, List.length_append, List.length_nil] at hfuel
          omega)
        rw [Json.print]
        simp only [List.cons_append, List.append_assoc, List.nil_append]
        exact parseValue_obj key hmembers

theorem parseItems_print (hrepr : ∀ literal value, float64 literal = some value →
      pythonFloat value = value.text) (hliterals : FloatLiterals float64) :
    ∀ (docs : List Json), SupportedItems float64 docs → ∀ (x : Json) (xs : List Json),
    docs = x :: xs → ∀ (fuel : Nat) (items : List JsValue) (forms : List (List Nat × List Nat))
      (rest : List Char),
    2 * ((Json.print x).length + (Json.printItems xs).length) + 1 ≤ fuel →
    parseItems float64 pythonFloat fuel items forms
        (Json.print x ++ (Json.printItems xs ++ ']' :: rest)) =
      .ok (items ++ ofItems docs, forms ++ itemForms items.length docs, rest)
  | [], _, _, _, hdocs, _, _, _, _, _ => by cases hdocs
  | x :: xs, hsupported, _, _, rfl, fuel, items, forms, rest, hfuel => by
    obtain ⟨fuel, rfl⟩ : ∃ n, fuel = n + 1 := ⟨fuel - 1, by omega⟩
    have hitem := parseValue_print hrepr hliterals x hsupported.1 fuel
      (Json.printItems xs ++ ']' :: rest) (by omega) (ends_printItems xs rest)
    cases xs with
    | nil =>
      rw [parseItems_close hitem rfl, ofItems, ofItems, itemForms, itemForms, List.append_nil,
        ← setForm_append]
    | cons y ys =>
      obtain ⟨c, tail, hx, -⟩ := print_head hliterals x hsupported.1
      have hrest := parseItems_print hrepr hliterals (y :: ys) hsupported.2 y ys rfl fuel
        (items ++ [ofJson x]) (setForm forms (units (toString items.length)) (formText x)) rest (by
          simp only [Json.printItems, List.length_cons, List.length_append] at hfuel
          rw [hx, List.length_cons] at hfuel
          omega)
      have hcomma : skipBlanks (Json.printItems (y :: ys) ++ ']' :: rest) =
          ',' :: (Json.print y ++ (Json.printItems ys ++ ']' :: rest)) := by
        rw [Json.printItems, List.cons_append, List.append_assoc]
        exact skipBlanks_cons rfl _
      rw [parseItems_comma hitem hcomma, hrest, List.length_append, ofItems, itemForms,
        setForm_append, List.append_assoc, List.append_assoc]
      rfl

theorem parseMembers_print (hrepr : ∀ literal value, float64 literal = some value →
      pythonFloat value = value.text) (hliterals : FloatLiterals float64) :
    ∀ (docs : List (String × Json)), SupportedMembers float64 docs →
    (docs.map Prod.fst).Nodup → ∀ (key : String) (x : Json) (xs : List (String × Json)),
    docs = (key, x) :: xs → ∀ (fuel : Nat) (members : List (List Nat × JsValue))
      (forms : List (List Nat × List Nat)) (rest : List Char),
    (∀ doc ∈ docs, units doc.1 ∉ members.map Prod.fst) →
    2 * ((Json.print x).length + (Json.printMembers xs).length) + 1 ≤ fuel →
    parseMembers float64 pythonFloat fuel members forms
        (Json.quote key ++ ':' :: (Json.print x ++ (Json.printMembers xs ++ '\x7d' :: rest))) =
      .ok (members ++ ofMembers docs, forms ++ memberForms docs, rest)
  | [], _, _, _, _, _, hdocs, _, _, _, _, _, _ => by cases hdocs
  | (key, x) :: xs, hsupported, hnodup, _, _, _, rfl, fuel, members, forms, rest, hnew, hfuel => by
    obtain ⟨fuel, rfl⟩ : ∃ n, fuel = n + 1 := ⟨fuel - 1, by omega⟩
    have hfresh := hnew (key, x) (List.mem_cons_self ..)
    have hitem := parseValue_print hrepr hliterals x hsupported.1 fuel
      (Json.printMembers xs ++ '\x7d' :: rest) (by omega) (ends_printMembers xs rest)
    cases xs with
    | nil =>
      rw [parseMembers_close hfresh hitem rfl, ofMembers, ofMembers, memberForms, memberForms,
        List.append_nil, ← setForm_append]
    | cons m ys =>
      obtain ⟨key', y⟩ := m
      obtain ⟨hnot, hnodup⟩ := List.nodup_cons.mp hnodup
      have hrest := parseMembers_print hrepr hliterals ((key', y) :: ys) hsupported.2 hnodup key' y
        ys rfl fuel (members ++ [(units key, ofJson x)])
        (setForm forms (units key) (formText x)) rest (by
          intro doc hdoc hmem
          rw [List.map_append, List.mem_append] at hmem
          obtain hmem | hmem := hmem
          · exact hnew doc (List.mem_cons_of_mem _ hdoc) hmem
          · apply hnot
            exact List.mem_map.mpr ⟨doc, hdoc, units_injective (List.mem_singleton.mp hmem)⟩) (by
          simp only [Json.printMembers, List.length_cons, List.length_append] at hfuel
          omega)
      have hcomma : skipBlanks (Json.printMembers ((key', y) :: ys) ++ '\x7d' :: rest) =
          ',' :: (Json.quote key' ++ ':' ::
            (Json.print y ++ (Json.printMembers ys ++ '\x7d' :: rest))) := by
        rw [Json.printMembers]
        simp only [List.cons_append, List.append_assoc]
        exact skipBlanks_cons rfl _
      rw [parseMembers_comma hfresh hitem hcomma, hrest, ofMembers, memberForms, setForm_append,
        List.append_assoc, List.append_assoc]
      rfl

end

end
end PlantNexus.Frontend
