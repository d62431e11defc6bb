import PlantNexus.Frontend.Reparsing

/-! The standard decoder on canonical text.

A printed document is read back by `json.loads` (`loads_dumps`), provided that its floats are
printed as number literals and its objects do not repeat a key. So two documents with one
canonical text agree member by member (`dumps_get_eq`): a fingerprint of the text, apart from a
collision of the digest, binds every member. -/
namespace PlantNexus.Domain
open Data JsonRead

/-! ### Printed documents -/

section
variable (float64 : List Char → Option FloatValue)

mutual

/-- Every float is the double of its text, which is a literal with a fraction or an exponent,
and no object repeats a key. -/
def Printed : Json → Prop
  | .float value =>
    (∃ token, scanNumber value.text.toList = some (token, []) ∧ token.tail ≠ []) ∧
      float64 value.text.toList = some value
  | .arr items => PrintedItems items
  | .obj members => (members.map Prod.fst).Nodup ∧ PrintedMembers members
  | _ => True

def PrintedItems : List Json → Prop
  | [] => True
  | x :: xs => Printed x ∧ PrintedItems xs

def PrintedMembers : List (String × Json) → Prop
  | [] => True
  | (_, value) :: rest => Printed value ∧ PrintedMembers rest

end
end

section
variable {float64 : List Char → Option FloatValue}

theorem printedMembers_iff (members : List (String × Json)) :
    PrintedMembers float64 members ↔ ∀ m ∈ members, Printed float64 m.2 := by
  induction members with
  | nil => simp [PrintedMembers]
  | cons m members ih => rw [PrintedMembers, ih, List.forall_mem_cons]

theorem printedItems_iff (items : List Json) :
    PrintedItems float64 items ↔ ∀ x ∈ items, Printed float64 x := by
  induction items with
  | nil => simp [PrintedItems]
  | cons x items ih => rw [PrintedItems, ih, List.forall_mem_cons]

mutual

theorem printed_canonical : ∀ doc : Json, Printed float64 doc → Printed float64 doc.canonical
  | .null, _ => trivial
  | .bool _, _ => trivial
  | .int _, _ => trivial
  | .float _, h => h
  | .str _, _ => trivial
  | .arr items, h => printedItems_canonical items h
  | .obj members, h => by
    have hperm := sortByKey_perm Prod.fst (Json.canonicalMembers members)
    refine ⟨?_, ?_⟩
    · rw [(hperm.map Prod.fst).nodup_iff, Json.canonicalMembers_eq, List.map_map]
      exact h.1
    · rw [printedMembers_iff]
      intro m hm
      exact (printedMembers_iff _).mp (printedMembers_canonical members h.2) m
        (hperm.mem_iff.mp hm)

theorem printedItems_canonical : ∀ docs : List Json, PrintedItems float64 docs →
    PrintedItems float64 (Json.canonicalItems docs)
  | [], _ => trivial
  | doc :: docs, h => ⟨printed_canonical doc h.1, printedItems_canonical docs h.2⟩

theorem printedMembers_canonical : ∀ docs : List (String × Json),
    PrintedMembers float64 docs → PrintedMembers float64 (Json.canonicalMembers docs)
  | [], _ => trivial
  | (_, doc) :: docs, h => ⟨printed_canonical doc h.1, printedMembers_canonical docs h.2⟩

end

/-! ### Reading -/

theorem readString_quote (text : String) (rest : List Char) :
    readString (text.toList.flatMap Json.escapeChar ++ '"' :: rest) = .ok (text, rest) := by
  obtain ⟨read, hread, hunits, -⟩ :=
    Frontend.parseString_reads (Frontend.parseString_quote text rest)
  rw [hread, Frontend.units_injective hunits]

/-- A number is read where a number starts. -/
theorem readValue_number {cs rest : List Char} {value : Json} (hhead : NumberHead cs)
    {token : NumberToken} (hscan : scanNumber cs = some (token, rest))
    (hvalue : (if token.tail = [] then .ok (.int (integerValue token.integer), rest)
      else match float64 (token.integer ++ token.tail) with
        | some value => .ok (.float value, rest)
        | none => .error .nonFinite : Except ReadError (Json × List Char)) = .ok (value, rest))
    (fuel : Nat) : readValue float64 (fuel + 1) cs = .ok (value, rest) := by
  obtain ⟨c, tail, rfl, hc⟩ := hhead
  have hne : ∀ d : Char, d ≠ '-' → d.isDigit = false → c ≠ d := by
    intro d hminus hdigit heq
    obtain rfl | hc := hc
    · exact hminus heq.symm
    · rw [heq, hdigit] at hc
      cases hc
  have hlead : ∀ (word : String) (d : Char) (ds : List Char), word.toList = d :: ds → d ≠ '-' →
      d.isDigit = false → ¬word.toList.isPrefixOf (c :: tail) = true := by
    intro word d ds hword hminus hdigit hleads
    obtain ⟨rest, heq⟩ := List.isPrefixOf_iff_prefix.mp hleads
    rw [hword] at heq
    exact hne d hminus hdigit (List.cons.inj heq).1.symm
  rw [readValue]
  · rw [readAtom, if_neg (hlead "null" 'n' _ rfl (by decide) rfl),
      if_neg (hlead "true" 't' _ rfl (by decide) rfl),
      if_neg (hlead "false" 'f' _ rfl (by decide) rfl), hscan]
    exact hvalue
  · exact fun _ heq => hne '"' (by decide) rfl (List.cons.inj heq).1
  · exact fun _ heq => hne '[' (by decide) rfl (List.cons.inj heq).1
  · exact fun _ heq => hne '\x7b' (by decide) rfl (List.cons.inj heq).1

theorem readValue_int (value : Int) {rest : List Char} (hends : Ends rest) (fuel : Nat) :
    readValue float64 (fuel + 1) ((toString value).toList ++ rest) = .ok (.int value, rest) := by
  obtain ⟨-, ⟨c, tail, hc, hcase⟩, happend⟩ := scanNumber_append (scanNumber_int value)
  refine readValue_number ⟨c, tail ++ rest, ?_, hcase⟩ (happend rest hends) ?_ fuel
  · rw [hc]
    rfl
  · rw [if_pos rfl, integerValue_int]

theorem readValue_float {value : FloatValue} (hvalue : Printed float64 (.float value))
    {rest : List Char} (hends : Ends rest) (fuel : Nat) :
    readValue float64 (fuel + 1) (value.text.toList ++ rest) = .ok (.float value, rest) := by
  obtain ⟨⟨token, hscan, htail⟩, hread⟩ := hvalue
  obtain ⟨hsplit, ⟨c, tail, hc, hcase⟩, happend⟩ := scanNumber_append hscan
  refine readValue_number ⟨c, tail ++ rest, ?_, hcase⟩ (happend rest hends) ?_ fuel
  · rw [hc]
    rfl
  · rw [if_neg htail, ← hsplit, hread]

/-- The first character of a printed value is neither a blank nor a closing bracket. -/
theorem print_head (doc : Json) (hdoc : Printed float64 doc) :
    ∃ c tail, Json.print doc = c :: tail ∧ isBlank c = false ∧ c ≠ ']' ∧ c ≠ '\x7d' := by
  cases doc with
  | null => exact ⟨'n', _, rfl, by decide⟩
  | bool value =>
    cases value with
    | true => exact ⟨'t', _, rfl, by decide⟩
    | false => exact ⟨'f', _, rfl, by decide⟩
  | int value => exact Frontend.numberHead_plain (scanNumber_append (scanNumber_int value)).2.1
  | float value =>
    obtain ⟨⟨token, hscan, -⟩, -⟩ := hdoc
    exact Frontend.numberHead_plain (scanNumber_append hscan).2.1
  | str value => exact ⟨'"', _, rfl, by decide⟩
  | arr items => exact ⟨'[', _, Json.print_arr items, by decide⟩
  | obj members => exact ⟨'\x7b', _, Json.print_obj members, by decide⟩

theorem readItems_cons {fuel : Nat} {cs rest rest' rest'' : List Char} {value : Json}
    {items : List Json} (hvalue : readValue float64 fuel cs = .ok (value, rest))
    (hrest : skipBlanks rest = ',' :: rest')
    (hitems : readItems float64 fuel (skipBlanks rest') = .ok (items, rest'')) :
    readItems float64 (fuel + 1) cs = .ok (value :: items, rest'') := by
  rw [readItems]
  simp only [bind, Except.bind, hvalue, hrest, hitems]
  rfl

theorem readItems_last {fuel : Nat} {cs rest rest' : List Char} {value : Json}
    (hvalue : readValue float64 fuel cs = .ok (value, rest))
    (hrest : skipBlanks rest = ']' :: rest') :
    readItems float64 (fuel + 1) cs = .ok ([value], rest') := by
  rw [readItems]
  simp only [bind, Except.bind, hvalue, hrest]
  rfl

theorem readMembers_cons {fuel : Nat} {cs rest rest' rest'' : List Char} {key : String}
    {value : Json} {members : List (String × Json)}
    (hvalue : readValue float64 fuel (skipBlanks cs) = .ok (value, rest))
    (hrest : skipBlanks rest = ',' :: rest')
    (hmembers : readMembers float64 fuel (skipBlanks rest') = .ok (members, rest'')) :
    readMembers float64 (fuel + 1) (Json.quote key ++ ':' :: cs) =
      .ok ((key, value) :: members, rest'') := by
  rw [Json.quote, List.cons_append, List.append_assoc, List.singleton_append, readMembers]
  simp only [bind, Except.bind, readString_quote]
  rw [Frontend.skipBlanks_cons (by decide)]
  simp only [hvalue, hrest, hmembers]
  rfl

theorem readMembers_last {fuel : Nat} {cs rest rest' : List Char} {key : String} {value : Json}
    (hvalue : readValue float64 fuel (skipBlanks cs) = .ok (value, rest))
    (hrest : skipBlanks rest = '\x7d' :: rest') :
    readMembers float64 (fuel + 1) (Json.quote key ++ ':' :: cs) = .ok ([(key, value)], rest') := by
  rw [Json.quote, List.cons_append, List.append_assoc, List.singleton_append, readMembers]
  simp only [bind, Except.bind, readString_quote]
  rw [Frontend.skipBlanks_cons (by decide)]
  simp only [hvalue, hrest]
  rfl

mutual

/-- **A printed document is read back from its text.** -/
theorem readValue_print : ∀ (doc : Json), Printed float64 doc → ∀ (fuel : Nat)
    (rest : List Char), 2 * (Json.print doc).length ≤ fuel → Ends rest →
    readValue float64 fuel (Json.print doc ++ rest) = .ok (doc, rest)
  | doc, hdoc, fuel, rest, hfuel, hends => by
    obtain ⟨c, tail, hhead, -⟩ := print_head doc hdoc
    obtain ⟨fuel, rfl⟩ : ∃ n, fuel = n + 1 := by
      rw [hhead, List.length_cons] at hfuel
      exact ⟨fuel - 1, by omega⟩
    cases doc with
    | null => rfl
    | bool value =>
      cases value with
      | true => rfl
      | false => rfl
    | int value => exact readValue_int value hends fuel
    | float value => exact readValue_float hdoc hends fuel
    | str value =>
      rw [Json.print, Json.quote, List.cons_append, List.append_assoc, List.singleton_append,
        readValue]
      simp only [bind, Except.bind, readString_quote]
      rfl
    | arr items =>
      cases items with
      | nil => rfl
      | cons x xs =>
        obtain ⟨c, tail, hx, hblank, hclose, -⟩ := print_head x hdoc.1
        have hitems := readItems_print (x :: xs) hdoc x xs rfl fuel rest (by
          simp only [Json.print, List.length_cons, List.length_append, List.length_nil] at hfuel
          omega)
        rw [Json.print, List.cons_append, List.append_assoc, List.append_assoc,
          List.singleton_append]
        have hskip : skipBlanks (Json.print x ++ (Json.printItems xs ++ ']' :: rest)) =
            Json.print x ++ (Json.printItems xs ++ ']' :: rest) := by
          rw [hx, List.cons_append]
          exact Frontend.skipBlanks_cons hblank _
        refine Frontend.readValue_arr fuel ?_ ?_
        · intro tail' heq
          rw [hskip, hx, List.cons_append] at heq
          exact hclose (List.cons.inj heq).1
        · rw [hskip]
          exact hitems
    | obj members =>
      cases members with
      | nil => rfl
      | cons m members =>
        obtain ⟨key, value⟩ := m
        have hmembers := readMembers_print ((key, value) :: members) hdoc.2 key value members rfl
          fuel rest (by
            simp only [Json.print, List.length_cons, List.length_append, List.length_nil] at hfuel
            omega)
        rw [Json.print]
        simp only [List.cons_append, List.append_assoc, List.nil_append]
        have hskip : ∀ cs, skipBlanks (Json.quote key ++ cs) = Json.quote key ++ cs :=
          fun _ => Frontend.skipBlanks_cons rfl _
        refine Frontend.readValue_obj fuel ?_ ?_ hdoc.1
        · intro tail' heq
          rw [hskip, Json.quote, List.cons_append] at heq
          exact absurd (List.cons.inj heq).1 (by decide)
        · rw [hskip]
          exact hmembers

theorem readItems_print : ∀ (docs : List Json), PrintedItems float64 docs →
    ∀ (x : Json) (xs : List Json), docs = x :: xs → ∀ (fuel : Nat) (rest : List Char),
    2 * ((Json.print x).length + (Json.printItems xs).length) + 1 ≤ fuel →
    readItems float64 fuel (Json.print x ++ (Json.printItems xs ++ ']' :: rest)) = .ok (docs, rest)
  | [], _, _, _, hdocs, _, _, _ => by cases hdocs
  | x :: xs, hprinted, _, _, rfl, fuel, rest, hfuel => by
    obtain ⟨fuel, rfl⟩ : ∃ n, fuel = n + 1 := ⟨fuel - 1, by omega⟩
    have hvalue := readValue_print x hprinted.1 fuel (Json.printItems xs ++ ']' :: rest) (by omega)
      (Frontend.ends_printItems xs rest)
    cases xs with
    | nil => exact readItems_last hvalue rfl
    | cons y ys =>
      obtain ⟨c, tail, hx, -⟩ := print_head x hprinted.1
      obtain ⟨d, tail', hy, hblank, -⟩ := print_head y hprinted.2.1
      have hrest := readItems_print (y :: ys) hprinted.2 y ys rfl fuel rest (by
        simp only [Json.printItems, List.length_cons, List.length_append] at hfuel
        rw [hx, List.length_cons] at hfuel
        omega)
      have hcomma : skipBlanks (Json.printItems (y :: ys) ++ ']' :: rest) =
          ',' :: (Json.print y ++ (Json.printItems ys ++ ']' :: rest)) := by
        rw [Json.printItems, List.cons_append, List.append_assoc]
        exact Frontend.skipBlanks_cons rfl _
      refine readItems_cons hvalue hcomma ?_
      rw [hy, List.cons_append, Frontend.skipBlanks_cons hblank, ← List.cons_append, ← hy]
      exact hrest

theorem readMembers_print : ∀ (docs : List (String × Json)), PrintedMembers float64 docs →
    ∀ (key : String) (x : Json) (xs : List (String × Json)), docs = (key, x) :: xs →
    ∀ (fuel : Nat) (rest : List Char),
    2 * ((Json.print x).length + (Json.printMembers xs).length) + 1 ≤ fuel →
    readMembers float64 fuel
        (Json.quote key ++ ':' :: (Json.print x ++ (Json.printMembers xs ++ '\x7d' :: rest))) =
      .ok (docs, rest)
  | [], _, _, _, _, hdocs, _, _, _ => by cases hdocs
  | (key, x) :: xs, hprinted, _, _, _, rfl, fuel, rest, hfuel => by
    obtain ⟨fuel, rfl⟩ : ∃ n, fuel = n + 1 := ⟨fuel - 1, by omega⟩
    obtain ⟨c, tail, hx, hblank, -⟩ := print_head x hprinted.1
    have hvalue := readValue_print x hprinted.1 fuel (Json.printMembers xs ++ '\x7d' :: rest)
      (by omega) (Frontend.ends_printMembers xs rest)
    have hskip : skipBlanks (Json.print x ++ (Json.printMembers xs ++ '\x7d' :: rest)) =
        Json.print x ++ (Json.printMembers xs ++ '\x7d' :: rest) := by
      rw [hx, List.cons_append]
      exact Frontend.skipBlanks_cons hblank _
    rw [← hskip] at hvalue
    cases xs with
    | nil => exact readMembers_last hvalue rfl
    | cons m ys =>
      obtain ⟨key', y⟩ := m
      have hrest := readMembers_print ((key', y) :: ys) hprinted.2 key' y ys rfl fuel rest (by
        simp only [Json.printMembers, List.length_cons, List.length_append] at hfuel
        omega)
      have hcomma : skipBlanks (Json.printMembers ((key', y) :: ys) ++ '\x7d' :: rest) =
          ',' :: (Json.quote key' ++ ':' ::
            (Json.print y ++ (Json.printMembers ys ++ '\x7d' :: rest))) := by
        rw [Json.printMembers]
        simp only [List.cons_append, List.append_assoc]
        exact Frontend.skipBlanks_cons rfl _
      refine readMembers_cons hvalue hcomma ?_
      rw [Json.quote, List.cons_append, Frontend.skipBlanks_cons (by decide), ← List.cons_append,
        ← Json.quote]
      exact hrest

end

/-- **Canonical text is read back as the canonical document.** -/
theorem loads_dumps (doc : Json) (hdoc : Printed float64 doc) :
    loads float64 doc.dumps.toList = .ok doc.canonical := by
  have hprinted := printed_canonical doc hdoc
  have htext : doc.dumps.toList = Json.print doc.canonical := by
    rw [Json.dumps, String.toList_ofList, Json.dumpChars_eq_print]
  obtain ⟨c, tail, hhead, hblank, -⟩ := print_head _ hprinted
  have hread := readValue_print _ hprinted (2 * (Json.print doc.canonical).length + 1) []
    (by omega) (.inl rfl)
  rw [List.append_nil] at hread
  have hskip : skipBlanks (Json.print doc.canonical) = Json.print doc.canonical := by
    rw [hhead]
    exact Frontend.skipBlanks_cons hblank _
  rw [loads, htext, hskip]
  simp only [bind, Except.bind, hread]
  rfl

end

/-- A member of a canonical object is the canonical member. -/
theorem get_canonical (key : String) {members : List (String × Json)}
    (hnodup : (members.map Prod.fst).Nodup) :
    (Json.obj members).canonical.get key = ((Json.obj members).get key).canonical := by
  have hperm := sortByKey_perm Prod.fst (Json.canonicalMembers members)
  have hkeys : ((sortByKey Prod.fst (Json.canonicalMembers members)).map Prod.fst).Nodup := by
    rw [(hperm.map Prod.fst).nodup_iff, Json.canonicalMembers_eq, List.map_map]
    exact hnodup
  rw [Json.canonical, Json.get, Json.find?_key_perm hperm hkeys key]
  clear hkeys hperm hnodup
  induction members with
  | nil => rfl
  | cons m rest ih =>
    simp only [Json.get, Json.canonicalMembers, List.find?_cons] at ih ⊢
    cases hkey : m.1 == key with
    | true => rfl
    | false => exact ih

/-! ### Documents with one canonical text -/

/-- Every float has a literal with a fraction or an exponent as its text, as `repr` writes it,
and no object repeats a key. -/
def Representable (doc : Json) : Prop := ∃ float64, Printed float64 doc

mutual

/-- The document with only the texts of its floats kept. -/
def floatTexts : Json → Json
  | .float value => .float ⟨value.text, 0, 1⟩
  | .arr items => .arr (floatTextsItems items)
  | .obj members => .obj (floatTextsMembers members)
  | value => value

def floatTextsItems : List Json → List Json
  | [] => []
  | x :: xs => floatTexts x :: floatTextsItems xs

def floatTextsMembers : List (String × Json) → List (String × Json)
  | [] => []
  | (key, value) :: rest => (key, floatTexts value) :: floatTextsMembers rest

end

theorem floatTextsMembers_eq (members : List (String × Json)) :
    floatTextsMembers members = members.map fun m => (m.1, floatTexts m.2) := by
  induction members with
  | nil => rfl
  | cons m rest ih => rw [floatTextsMembers, ih, List.map_cons]

mutual

theorem dumpChars_floatTexts : ∀ doc : Json, (floatTexts doc).dumpChars = doc.dumpChars
  | .null => rfl
  | .bool _ => rfl
  | .int _ => rfl
  | .float _ => rfl
  | .str _ => rfl
  | .arr items => by rw [floatTexts, Json.dumpChars, dumpItems_floatTexts items, Json.dumpChars]
  | .obj members => by
    rw [floatTexts, Json.dumpChars, dumpMembers_floatTexts members, Json.dumpChars]

theorem dumpItems_floatTexts : ∀ docs : List Json,
    Json.dumpItems (floatTextsItems docs) = Json.dumpItems docs
  | [] => rfl
  | doc :: docs => by
    rw [floatTextsItems, Json.dumpItems, dumpChars_floatTexts doc, dumpItems_floatTexts docs,
      Json.dumpItems]

theorem dumpMembers_floatTexts : ∀ docs : List (String × Json),
    Json.dumpMembers (floatTextsMembers docs) = Json.dumpMembers docs
  | [] => rfl
  | (_, doc) :: docs => by
    rw [floatTextsMembers, Json.dumpMembers, dumpChars_floatTexts doc, dumpMembers_floatTexts docs,
      Json.dumpMembers]

end

theorem dumps_floatTexts (doc : Json) : (floatTexts doc).dumps = doc.dumps := by
  rw [Json.dumps, dumpChars_floatTexts, Json.dumps]

/-- A literal as a float of which only the text is known. -/
def literalFloat (literal : List Char) : Option FloatValue := some ⟨String.ofList literal, 0, 1⟩

section
variable {float64 : List Char → Option FloatValue}

mutual

theorem printed_floatTexts : ∀ doc : Json, Printed float64 doc →
    Printed literalFloat (floatTexts doc)
  | .null, _ => trivial
  | .bool _, _ => trivial
  | .int _, _ => trivial
  | .float value, h => by
    refine ⟨h.1, ?_⟩
    show some _ = some _
    rw [String.ofList_toList]
  | .str _, _ => trivial
  | .arr items, h => printedItems_floatTexts items h
  | .obj members, h => by
    refine ⟨?_, printedMembers_floatTexts members h.2⟩
    rw [floatTextsMembers_eq, List.map_map]
    exact h.1

theorem printedItems_floatTexts : ∀ docs : List Json, PrintedItems float64 docs →
    PrintedItems literalFloat (floatTextsItems docs)
  | [], _ => trivial
  | doc :: docs, h => ⟨printed_floatTexts doc h.1, printedItems_floatTexts docs h.2⟩

theorem printedMembers_floatTexts : ∀ docs : List (String × Json), PrintedMembers float64 docs →
    PrintedMembers literalFloat (floatTextsMembers docs)
  | [], _ => trivial
  | (_, doc) :: docs, h => ⟨printed_floatTexts doc h.1, printedMembers_floatTexts docs h.2⟩

end
end

theorem floatTexts_get (key : String) (members : List (String × Json)) :
    floatTexts ((Json.obj members).get key) = (Json.obj (floatTextsMembers members)).get key := by
  induction members with
  | nil => rfl
  | cons m rest ih =>
    simp only [Json.get, floatTextsMembers, List.find?_cons] at ih ⊢
    cases hkey : m.1 == key with
    | true => rfl
    | false => exact ih

/-- **Objects with one canonical text have the same members**, as canonical texts. -/
theorem dumps_get_eq {xs ys : List (String × Json)} (hxs : Representable (.obj xs))
    (hys : Representable (.obj ys)) (h : (Json.obj xs).dumps = (Json.obj ys).dumps)
    (key : String) : ((Json.obj xs).get key).dumps = ((Json.obj ys).get key).dumps := by
  obtain ⟨float64, hxs⟩ := hxs
  obtain ⟨float64', hys⟩ := hys
  have hx := loads_dumps _ (printed_floatTexts _ hxs)
  have hy := loads_dumps _ (printed_floatTexts _ hys)
  rw [dumps_floatTexts] at hx hy
  rw [h, hy] at hx
  have hcanonical : (Json.obj (floatTextsMembers xs)).canonical =
      (Json.obj (floatTextsMembers ys)).canonical := (Except.ok.inj hx).symm
  have hget := Json.canonical_get_eq (printed_floatTexts _ hxs).1 hcanonical key
  rw [← floatTexts_get, ← floatTexts_get] at hget
  rw [← dumps_floatTexts, ← dumps_floatTexts ((Json.obj ys).get key), Json.dumps, Json.dumps,
    Json.dumpChars_eq_print, Json.dumpChars_eq_print, hget]

end PlantNexus.Domain
