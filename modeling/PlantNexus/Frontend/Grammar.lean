import PlantNexus.Data.JsonGrammar
import PlantNexus.Frontend.Parsing

/-! The texts that the front end's parser accepts.

`Raw.parseCanonicalJson` is the parser over code units: a string may hold surrogates that stand
alone, in the text as in an escape. It terminates on every text, and it accepts exactly the
object texts of the grammar that repeat no member name, leave no surrogate alone, and have safe
integers and finite numbers only (`parseCanonicalJson_iff`). -/
namespace PlantNexus.Frontend.Raw
open Data
open JsonRead (NumberToken scanNumber integerValue)
open JsonGrammar (Tree readTree)

/-! ### The parser -/

/-- The loop of `string`: the text up to the closing quotation mark. An escape takes the next unit
with it. -/
def closingQuote : List Nat → Option (List Nat × List Nat)
  | [] => none
  | 92 :: letter :: rest => (closingQuote rest).map fun s => (92 :: letter :: s.1, s.2)
  | 34 :: rest => some ([], rest)
  | u :: rest => (closingQuote rest).map fun s => (u :: s.1, s.2)

/-- `string`: the slice between the marks goes through `JSON.parse`. -/
def parseString (cs : List Nat) : Except CanonicalError (List Nat × List Nat) :=
  match closingQuote cs with
  | none => .error invalid
  | some (inner, rest) =>
    match readTree (34 :: (inner ++ [34])) with
    | some (.str value) => do
      let _ ← quoted value
      return (value, rest)
    | _ => .error invalid

/-- What `parse` returns: the value, the form it leaves in its container, and the rest. -/
structure Parsed where
  value : JsValue
  form : Option (List Nat)
  rest : List Nat

section
variable (float64 : List Char → Option FloatValue) (pythonFloat : FloatValue → String)

/-- A constant or a number. -/
def parseAtom (cs : List Nat) : Except CanonicalError Parsed :=
  if (JsonGrammar.codes "true".toList).isPrefixOf cs then .ok ⟨.bool true, none, cs.drop 4⟩
  else if (JsonGrammar.codes "false".toList).isPrefixOf cs then .ok ⟨.bool false, none, cs.drop 5⟩
  else if (JsonGrammar.codes "null".toList).isPrefixOf cs then .ok ⟨.null, none, cs.drop 4⟩
  else match scanNumber (cs.map Utf16.scalar) with
    | none => .error invalid
    | some (token, _) => do
      let (value, form) ← parseNumber float64 pythonFloat token
      return ⟨.number value, some form, cs.drop (token.integer ++ token.tail).length⟩

/-- The key is none of the keys before it. -/
def isNew (member : List Nat) (members : List (List Nat)) : Bool :=
  members.all fun key => key ≠ member

theorem isNew_iff (member : List Nat) (members : List (List Nat)) :
    isNew member members = true ↔ member ∉ members := by
  simp only [isNew, List.all_eq_true, decide_eq_true_eq]
  exact ⟨fun h hmem => h member hmem rfl, fun h key hkey heq => h (heq ▸ hkey)⟩

mutual

/-- `parse` -/
def parseValue : Nat → List Nat → Except CanonicalError Parsed
  | 0, _ => .error .fuel
  | fuel + 1, cs =>
    match JsonGrammar.skipBlanks cs with
    | 34 :: rest => do
      let (value, rest) ← parseString rest
      return ⟨.str value, none, rest⟩
    | 91 :: rest =>
      match JsonGrammar.skipBlanks rest with
      | 93 :: rest => .ok ⟨.arr [] [], none, rest⟩
      | rest => do
        let (items, forms, rest) ← parseItems fuel [] [] rest
        return ⟨.arr items forms, none, rest⟩
    | 123 :: rest =>
      match JsonGrammar.skipBlanks rest with
      | 125 :: rest => .ok ⟨.obj [] [], none, rest⟩
      | rest => do
        let (members, forms, rest) ← parseMembers fuel [] [] rest
        return ⟨.obj members forms, none, rest⟩
    | cs => parseAtom float64 pythonFloat cs

/-- The loop over an array, with the items and forms so far. -/
def parseItems : Nat → List JsValue → List (List Nat × List Nat) → List Nat →
    Except CanonicalError (List JsValue × List (List Nat × List Nat) × List Nat)
  | 0, _, _, _ => .error .fuel
  | fuel + 1, items, forms, cs => do
    let item ← parseValue fuel cs
    let forms := setForm forms (units (toString items.length)) item.form
    let items := items ++ [item.value]
    match JsonGrammar.skipBlanks item.rest with
    | 44 :: rest => parseItems fuel items forms rest
    | 93 :: rest => return (items, forms, rest)
    | _ => .error invalid

/-- The loop over an object, with the members and forms so far. -/
def parseMembers : Nat → List (List Nat × JsValue) → List (List Nat × List Nat) → List Nat →
    Except CanonicalError (List (List Nat × JsValue) × List (List Nat × List Nat) × List Nat)
  | 0, _, _, _ => .error .fuel
  | fuel + 1, members, forms, cs =>
    match JsonGrammar.skipBlanks cs with
    | 34 :: rest => do
      let (member, rest) ← parseString rest
      require (isNew member (members.map Prod.fst) = true) (.typeError "Duplicate JSON key")
      match JsonGrammar.skipBlanks rest with
      | 58 :: rest => do
        let item ← parseValue fuel rest
        let forms := setForm forms member item.form
        let members := members ++ [(member, item.value)]
        match JsonGrammar.skipBlanks item.rest with
        | 44 :: rest => parseMembers fuel members forms rest
        | 125 :: rest => return (members, forms, rest)
        | _ => .error invalid
      | _ => .error invalid
    | _ => .error invalid

end

/-- `parseCanonicalJson`, of the supported version. -/
def parseCanonicalJson (raw : List Nat) : Except CanonicalError JsValue := do
  let result ← parseValue float64 pythonFloat (2 * raw.length + 1) raw
  match JsonGrammar.skipBlanks result.rest, result.value with
  | [], .obj members forms => return .obj members forms
  | _, _ => .error invalid

/-! ### What a tree denotes -/

/-- The finite double of a literal. -/
def doubleOf (token : NumberToken) : FloatValue :=
  (float64 (token.integer ++ token.tail)).getD ⟨"", 0, 1⟩

def denoteNumber (token : NumberToken) : JsNumber :=
  if token.tail = [] then .safe (integerValue token.integer) else .double (doubleOf float64 token)

/-- The canonical text of a number: that of an integer, or that of a float. -/
def denoteForm : Tree → Option (List Nat)
  | .number token =>
    if token.tail = [] then some (units (toString (integerValue token.integer)))
    else some (units (pythonFloat (doubleOf float64 token)))
  | _ => none

def denoteItemForms : Nat → List Tree → List (List Nat × List Nat)
  | _, [] => []
  | index, item :: items =>
    setForm [] (units (toString index)) (denoteForm float64 pythonFloat item) ++
      denoteItemForms (index + 1) items

def denoteMemberForms : List (List Nat × Tree) → List (List Nat × List Nat)
  | [] => []
  | (name, value) :: members =>
    setForm [] name (denoteForm float64 pythonFloat value) ++ denoteMemberForms members

mutual

/-- The value of a tree, with the forms of its numbers. -/
def denote : Tree → JsValue
  | .null => .null
  | .bool value => .bool value
  | .number token => .number (denoteNumber float64 token)
  | .str value => .str value
  | .arr items => .arr (denoteItems items) (denoteItemForms float64 pythonFloat 0 items)
  | .obj members => .obj (denoteMembers members) (denoteMemberForms float64 pythonFloat members)

def denoteItems : List Tree → List JsValue
  | [] => []
  | item :: items => denote item :: denoteItems items

def denoteMembers : List (List Nat × Tree) → List (List Nat × JsValue)
  | [] => []
  | (name, value) :: members => (name, denote value) :: denoteMembers members

end

mutual

/-- No object repeats a member name, no string leaves a surrogate alone, every integer literal is
safe and every other number finite. -/
def Admissible : Tree → Prop
  | .null => True
  | .bool _ => True
  | .number token =>
    if token.tail = [] then (integerValue token.integer).natAbs ≤ maxSafeInteger
    else (float64 (token.integer ++ token.tail)).isSome = true
  | .str value => Utf16.Paired value
  | .arr items => AdmissibleItems items
  | .obj members => (members.map Prod.fst).Nodup ∧ AdmissibleMembers members

def AdmissibleItems : List Tree → Prop
  | [] => True
  | item :: items => Admissible item ∧ AdmissibleItems items

def AdmissibleMembers : List (List Nat × Tree) → Prop
  | [] => True
  | (name, value) :: members =>
    Utf16.Paired name ∧ Admissible value ∧ AdmissibleMembers members

end
end

/-! ### Strings -/

theorem closingQuote_sound {cs inner rest : List Nat}
    (h : closingQuote cs = some (inner, rest)) : cs = inner ++ 34 :: rest := by
  induction cs using closingQuote.induct generalizing inner rest with
  | case1 => cases h
  | case2 letter tail ih =>
    obtain ⟨⟨inner', rest'⟩, hfound, heq⟩ := Option.map_eq_some_iff.mp h
    obtain ⟨rfl, rfl⟩ := Prod.mk.inj heq
    rw [ih hfound]
    rfl
  | case3 tail =>
    obtain ⟨rfl, rfl⟩ := Prod.mk.inj (Option.some.inj h)
    rfl
  | case4 u tail hescape hquote ih =>
    rw [closingQuote] at h
    · obtain ⟨⟨inner', rest'⟩, hfound, heq⟩ := Option.map_eq_some_iff.mp h
      obtain ⟨rfl, rfl⟩ := Prod.mk.inj heq
      rw [ih hfound]
      rfl
    · exact hescape
    · exact hquote

theorem closingQuote_unit {u : Nat} (hquote : u ≠ 34) (hslash : u ≠ 92) (rest : List Nat) :
    closingQuote (u :: rest) = (closingQuote rest).map fun s => (u :: s.1, s.2) := by
  rw [closingQuote]
  · exact fun _ _ hu => absurd hu hslash
  · exact hquote

/-- A hexadecimal digit is neither a quotation mark nor a backslash. -/
theorem hexValue_unit {u v : Nat} (h : JsonGrammar.hexValue u = some v) : u ≠ 34 ∧ u ≠ 92 := by
  unfold JsonGrammar.hexValue at h
  split_ifs at h with hdigit hlower hupper
  · exact ⟨by omega, by omega⟩
  · exact ⟨by omega, by omega⟩
  · exact ⟨by omega, by omega⟩

theorem hexUnit_units {a b c d u : Nat} (h : JsonGrammar.hexUnit a b c d = some u) :
    (a ≠ 34 ∧ a ≠ 92) ∧ (b ≠ 34 ∧ b ≠ 92) ∧ (c ≠ 34 ∧ c ≠ 92) ∧ d ≠ 34 ∧ d ≠ 92 := by
  obtain ⟨_, ha, h⟩ := Option.bind_eq_some_iff.mp h
  obtain ⟨_, hb, h⟩ := Option.bind_eq_some_iff.mp h
  obtain ⟨_, hc, h⟩ := Option.bind_eq_some_iff.mp h
  obtain ⟨_, hd, -⟩ := Option.bind_eq_some_iff.mp h
  exact ⟨hexValue_unit ha, hexValue_unit hb, hexValue_unit hc, hexValue_unit hd⟩

theorem closingQuote_complete {content value : List Nat}
    (h : JsonGrammar.Content content value) (rest : List Nat) :
    closingQuote (content ++ 34 :: rest) = some (content, rest) := by
  induction h with
  | nil => rfl
  | unescaped hcontrol hquote hslash htail ih =>
    rw [List.cons_append, closingQuote_unit hquote hslash, ih]
    rfl
  | short hshort htail ih =>
    rw [List.cons_append, List.cons_append, closingQuote, ih]
    rfl
  | hex hhex htail ih =>
    obtain ⟨ha, hb, hc, hd⟩ := hexUnit_units hhex
    simp only [List.cons_append]
    rw [closingQuote, closingQuote_unit ha.1 ha.2, closingQuote_unit hb.1 hb.2,
      closingQuote_unit hc.1 hc.2, closingQuote_unit hd.1 hd.2, ih]
    rfl

/-- A text between quotation marks that spells a string is its content. -/
theorem readTree_quoted {inner value : List Nat} :
    readTree (34 :: (inner ++ [34])) = some (.str value) ↔ JsonGrammar.Content inner value := by
  rw [JsonGrammar.readTree_iff]
  constructor
  · rintro ⟨front, text, back, hfront, ⟨content, hcontent, rfl⟩, hback, heq⟩
    have hempty : front = [] := by
      cases front with
      | nil => rfl
      | cons u front =>
        have hu := hfront u List.mem_cons_self
        rw [← (List.cons.inj heq).1] at hu
        exact absurd hu (by decide)
    subst hempty
    have hlast : back = [] := by
      rcases List.eq_nil_or_concat back with rfl | ⟨init, u, rfl⟩
      · rfl
      · have hu := hback u (by simp)
        have hends : 34 :: inner ++ [34] = 34 :: (content ++ 34 :: init) ++ [u] := by
          simpa using heq
        rw [← List.singleton_inj.mp (List.append_inj' hends rfl).2] at hu
        exact absurd hu (by decide)
    subst hlast
    have hinner : inner ++ [34] = content ++ [34] := by
      simpa using heq
    rw [List.append_cancel_right hinner]
    exact hcontent
  · intro hcontent
    exact ⟨[], _, [], List.forall_mem_nil _, ⟨inner, hcontent, rfl⟩, List.forall_mem_nil _,
      by rw [List.append_nil, List.nil_append]⟩

theorem quoted_ok_iff {value : List Nat} : (∃ text, quoted value = .ok text) ↔
    Utf16.Paired value := by
  constructor
  · rintro ⟨text, h⟩
    exact (require_eq_ok _ _ _).mp (bind_unit_eq_ok.mp h).1
  · intro h
    exact ⟨_, bind_unit_eq_ok.mpr ⟨(require_eq_ok _ _ _).mpr h, rfl⟩⟩

/-- **A string is accepted if it is in the grammar and leaves no surrogate alone.** -/
theorem parseString_iff {cs value rest : List Nat} :
    parseString cs = .ok (value, rest) ↔
      JsonGrammar.readContent cs = some (value, rest) ∧ Utf16.Paired value := by
  constructor
  · intro h
    rw [parseString] at h
    split at h
    · cases h
    · rename_i inner after hclose
      split at h
      · rename_i found hread
        obtain ⟨text, hquoted, heq⟩ := bind_eq_ok.mp h
        obtain ⟨rfl, rfl⟩ := Prod.mk.inj (Except.ok.inj heq)
        refine ⟨?_, quoted_ok_iff.mp ⟨text, hquoted⟩⟩
        rw [closingQuote_sound hclose]
        exact JsonGrammar.readContent_complete (readTree_quoted.mp hread) _
      · cases h
  · rintro ⟨hread, hpaired⟩
    obtain ⟨content, hcontent, rfl⟩ := JsonGrammar.readContent_sound hread
    obtain ⟨text, hquoted⟩ := quoted_ok_iff.mpr hpaired
    rw [parseString, closingQuote_complete hcontent]
    dsimp only
    rw [readTree_quoted.mpr hcontent]
    exact bind_eq_ok.mpr ⟨text, hquoted, rfl⟩

/-! ### The parser and the grammar -/

section
variable {float64 : List Char → Option FloatValue} {pythonFloat : FloatValue → String}

theorem parseNumber_iff {token : NumberToken} {number : JsNumber} {form : List Nat} :
    parseNumber float64 pythonFloat token = .ok (number, form) ↔
      Admissible float64 (.number token) ∧ number = denoteNumber float64 token ∧
        some form = denoteForm float64 pythonFloat (.number token) := by
  rw [parseNumber, Admissible, denoteNumber, denoteForm, doubleOf]
  by_cases htail : token.tail = []
  · rw [if_neg (not_not.mpr htail), if_pos htail, if_pos htail, if_pos htail]
    by_cases hsafe : (integerValue token.integer).natAbs ≤ maxSafeInteger
    · simp only [hsafe, if_true, Except.ok.injEq, Prod.mk.injEq, Option.some.injEq, true_and]
      exact and_congr eq_comm eq_comm
    · simp [hsafe]
  · rw [if_pos htail, if_neg htail, if_neg htail, if_neg htail]
    cases float64 (token.integer ++ token.tail) with
    | none => simp
    | some value =>
      simp only [Except.ok.injEq, Prod.mk.injEq, Option.isSome_some, Option.getD_some,
        Option.some.injEq, true_and]
      exact and_congr eq_comm eq_comm

/-- What was parsed is the tree that was read, if that is admissible. -/
def Parses (float64 : List Char → Option FloatValue) (pythonFloat : FloatValue → String)
    (read : Option (Tree × List Nat)) (parsed : Parsed) : Prop :=
  ∃ tree, read = some (tree, parsed.rest) ∧ Admissible float64 tree ∧
    parsed.value = denote float64 pythonFloat tree ∧
    parsed.form = denoteForm float64 pythonFloat tree

theorem parseAtom_iff {cs : List Nat} {parsed : Parsed} :
    parseAtom float64 pythonFloat cs = .ok parsed ↔
      Parses float64 pythonFloat (JsonGrammar.readAtom cs) parsed := by
  obtain ⟨value, form, rest⟩ := parsed
  unfold parseAtom JsonGrammar.readAtom Parses
  split_ifs with htrue hfalse hnull
  · simp only [Except.ok.injEq, Parsed.mk.injEq, Option.some.injEq, Prod.mk.injEq]
    constructor
    · rintro ⟨rfl, rfl, rfl⟩
      exact ⟨.bool true, ⟨rfl, rfl⟩, trivial, rfl, rfl⟩
    · rintro ⟨tree, ⟨rfl, rfl⟩, -, rfl, rfl⟩
      exact ⟨rfl, rfl, rfl⟩
  · simp only [Except.ok.injEq, Parsed.mk.injEq, Option.some.injEq, Prod.mk.injEq]
    constructor
    · rintro ⟨rfl, rfl, rfl⟩
      exact ⟨.bool false, ⟨rfl, rfl⟩, trivial, rfl, rfl⟩
    · rintro ⟨tree, ⟨rfl, rfl⟩, -, rfl, rfl⟩
      exact ⟨rfl, rfl, rfl⟩
  · simp only [Except.ok.injEq, Parsed.mk.injEq, Option.some.injEq, Prod.mk.injEq]
    constructor
    · rintro ⟨rfl, rfl, rfl⟩
      exact ⟨.null, ⟨rfl, rfl⟩, trivial, rfl, rfl⟩
    · rintro ⟨tree, ⟨rfl, rfl⟩, -, rfl, rfl⟩
      exact ⟨rfl, rfl, rfl⟩
  · cases scanNumber (cs.map Utf16.scalar) with
    | none => simp
    | some found =>
      obtain ⟨token, after⟩ := found
      dsimp only [Option.map_some]
      constructor
      · intro h
        obtain ⟨⟨number, text⟩, hnumber, heq⟩ := bind_eq_ok.mp h
        obtain ⟨hadmissible, hvalue, hform⟩ := parseNumber_iff.mp hnumber
        obtain ⟨rfl, rfl, rfl⟩ := Parsed.mk.inj (Except.ok.inj heq)
        exact ⟨.number token, rfl, hadmissible, by rw [hvalue, denote], hform⟩
      · rintro ⟨tree, heq, hadmissible, rfl, rfl⟩
        obtain ⟨rfl, rfl⟩ := Prod.mk.inj (Option.some.inj heq)
        obtain ⟨text, htext⟩ : ∃ text, denoteForm float64 pythonFloat (.number token) =
            some text := by
          rw [denoteForm]
          split_ifs
          · exact ⟨_, rfl⟩
          · exact ⟨_, rfl⟩
        refine bind_eq_ok.mpr ⟨(denoteNumber float64 token, text),
          parseNumber_iff.mpr ⟨hadmissible, rfl, htext.symm⟩, ?_⟩
        rw [htext, denote]
        rfl

/-- The items that were parsed behind those so far are the trees that were read. -/
def ParsesItems (float64 : List Char → Option FloatValue) (pythonFloat : FloatValue → String)
    (items : List JsValue) (forms : List (List Nat × List Nat))
    (read : Option (List Tree × List Nat))
    (result : List JsValue × List (List Nat × List Nat) × List Nat) : Prop :=
  ∃ trees, read = some (trees, result.2.2) ∧ AdmissibleItems float64 trees ∧
    result.1 = items ++ denoteItems float64 pythonFloat trees ∧
    result.2.1 = forms ++ denoteItemForms float64 pythonFloat items.length trees

/-- The members that were parsed behind those so far are the trees that were read. -/
def ParsesMembers (float64 : List Char → Option FloatValue) (pythonFloat : FloatValue → String)
    (members : List (List Nat × JsValue)) (forms : List (List Nat × List Nat))
    (read : Option (List (List Nat × Tree) × List Nat))
    (result : List (List Nat × JsValue) × List (List Nat × List Nat) × List Nat) : Prop :=
  ∃ trees, read = some (trees, result.2.2) ∧ AdmissibleMembers float64 trees ∧
    (trees.map Prod.fst).Nodup ∧ (members.map Prod.fst).Disjoint (trees.map Prod.fst) ∧
    result.1 = members ++ denoteMembers float64 pythonFloat trees ∧
    result.2.1 = forms ++ denoteMemberForms float64 pythonFloat trees

/-- With this fuel the parser accepts what the reader reads, if it is admissible. -/
structure Simulates (float64 : List Char → Option FloatValue) (pythonFloat : FloatValue → String)
    (fuel : Nat) : Prop where
  value : ∀ cs parsed, parseValue float64 pythonFloat fuel cs = .ok parsed ↔
    Parses float64 pythonFloat (JsonGrammar.readValue fuel cs) parsed
  items : ∀ items forms cs result,
    parseItems float64 pythonFloat fuel items forms cs = .ok result ↔
      ParsesItems float64 pythonFloat items forms (JsonGrammar.readItems fuel cs) result
  members : ∀ members forms cs result,
    parseMembers float64 pythonFloat fuel members forms cs = .ok result ↔
      ParsesMembers float64 pythonFloat members forms (JsonGrammar.readMembers fuel cs) result

theorem parseValue_iff {fuel : Nat} (ih : Simulates float64 pythonFloat fuel) {cs : List Nat}
    {parsed : Parsed} : parseValue float64 pythonFloat (fuel + 1) cs = .ok parsed ↔
      Parses float64 pythonFloat (JsonGrammar.readValue (fuel + 1) cs) parsed := by
  obtain ⟨value, form, rest⟩ := parsed
  rw [parseValue]
  split
  · rename_i tail hskip
    rw [JsonGrammar.readValue_string hskip]
    constructor
    · intro h
      obtain ⟨⟨text, after⟩, hstring, heq⟩ := bind_eq_ok.mp h
      obtain ⟨hread, hpaired⟩ := parseString_iff.mp hstring
      obtain ⟨rfl, rfl, rfl⟩ := Parsed.mk.inj (Except.ok.inj heq)
      exact ⟨.str text, by rw [hread]; rfl, hpaired, rfl, rfl⟩
    · rintro ⟨tree, hread, hadmissible, rfl, rfl⟩
      obtain ⟨⟨text, after⟩, htext, heq⟩ := Option.map_eq_some_iff.mp hread
      obtain ⟨rfl, rfl⟩ := Prod.mk.inj heq
      exact bind_eq_ok.mpr ⟨(text, after), parseString_iff.mpr ⟨htext, hadmissible⟩, rfl⟩
  · rename_i tail hskip
    split
    · rename_i after hclose
      rw [JsonGrammar.readValue_emptyArray hskip hclose]
      constructor
      · intro h
        obtain ⟨rfl, rfl, rfl⟩ := Parsed.mk.inj (Except.ok.inj h)
        exact ⟨.arr [], rfl, trivial, rfl, rfl⟩
      · rintro ⟨tree, heq, -, rfl, rfl⟩
        obtain ⟨rfl, rfl⟩ := Prod.mk.inj (Option.some.inj heq)
        rfl
    · rename_i hopen
      rw [JsonGrammar.readValue_array hskip hopen]
      constructor
      · intro h
        obtain ⟨⟨items, forms, after⟩, hitems, heq⟩ := bind_eq_ok.mp h
        obtain ⟨trees, hread, hadmissible, hvalues, hforms⟩ := (ih.items _ _ _ _).mp hitems
        obtain ⟨rfl, rfl, rfl⟩ := Parsed.mk.inj (Except.ok.inj heq)
        exact ⟨.arr trees, by rw [hread]; rfl, hadmissible, congrArg₂ JsValue.arr hvalues hforms,
          rfl⟩
      · rintro ⟨tree, hread, hadmissible, rfl, rfl⟩
        obtain ⟨⟨trees, after⟩, htrees, heq⟩ := Option.map_eq_some_iff.mp hread
        obtain ⟨rfl, rfl⟩ := Prod.mk.inj heq
        exact bind_eq_ok.mpr ⟨_, (ih.items _ _ _ (_, _, _)).mpr
          ⟨trees, htrees, hadmissible, rfl, rfl⟩, rfl⟩
  · rename_i tail hskip
    split
    · rename_i after hclose
      rw [JsonGrammar.readValue_emptyObject hskip hclose]
      constructor
      · intro h
        obtain ⟨rfl, rfl, rfl⟩ := Parsed.mk.inj (Except.ok.inj h)
        exact ⟨.obj [], rfl, ⟨List.nodup_nil, trivial⟩, rfl, rfl⟩
      · rintro ⟨tree, heq, -, rfl, rfl⟩
        obtain ⟨rfl, rfl⟩ := Prod.mk.inj (Option.some.inj heq)
        rfl
    · rename_i hopen
      rw [JsonGrammar.readValue_object hskip hopen]
      constructor
      · intro h
        obtain ⟨⟨members, forms, after⟩, hmembers, heq⟩ := bind_eq_ok.mp h
        obtain ⟨trees, hread, hadmissible, hnodup, -, hvalues, hforms⟩ :=
          (ih.members _ _ _ _).mp hmembers
        obtain ⟨rfl, rfl, rfl⟩ := Parsed.mk.inj (Except.ok.inj heq)
        exact ⟨.obj trees, by rw [hread]; rfl, ⟨hnodup, hadmissible⟩,
          congrArg₂ JsValue.obj hvalues hforms, rfl⟩
      · rintro ⟨tree, hread, hadmissible, rfl, rfl⟩
        obtain ⟨⟨trees, after⟩, htrees, heq⟩ := Option.map_eq_some_iff.mp hread
        obtain ⟨rfl, rfl⟩ := Prod.mk.inj heq
        exact bind_eq_ok.mpr ⟨_, (ih.members _ _ _ (_, _, _)).mpr
          ⟨trees, htrees, hadmissible.2, hadmissible.1, List.disjoint_nil_left _, rfl, rfl⟩, rfl⟩
  · rename_i hstring harray hobject
    rw [JsonGrammar.readValue_atom hstring harray hobject]
    exact parseAtom_iff

theorem parseItems_iff {fuel : Nat} (ih : Simulates float64 pythonFloat fuel)
    {items : List JsValue} {forms : List (List Nat × List Nat)} {cs : List Nat}
    {result : List JsValue × List (List Nat × List Nat) × List Nat} :
    parseItems float64 pythonFloat (fuel + 1) items forms cs = .ok result ↔
      ParsesItems float64 pythonFloat items forms (JsonGrammar.readItems (fuel + 1) cs) result := by
  obtain ⟨items', forms', rest⟩ := result
  have hform : ∀ (tree : Tree) (more : List Tree), setForm forms (units (toString items.length))
        (denoteForm float64 pythonFloat tree) ++
          denoteItemForms float64 pythonFloat (items.length + 1) more =
      forms ++ denoteItemForms float64 pythonFloat items.length (tree :: more) := by
    intro tree more
    rw [setForm_append, List.append_assoc, denoteItemForms]
  constructor
  · intro h
    obtain ⟨item, hitem, h⟩ := bind_eq_ok.mp h
    obtain ⟨tree, hread, hadmissible, hvalue, hvalueForm⟩ := (ih.value _ _).mp hitem
    rw [hvalue, hvalueForm] at h
    split at h
    · rename_i inner hcomma
      obtain ⟨more, hmore, hrest, hvalues, hforms⟩ := (ih.items _ _ _ _).mp h
      refine ⟨tree :: more, JsonGrammar.readItems_succ_iff.mpr ⟨tree, more, _, rfl, hread,
        .inr ⟨inner, hcomma, hmore⟩⟩, ⟨hadmissible, hrest⟩, ?_, ?_⟩
      · rw [hvalues, List.append_assoc]
        rfl
      · rw [hforms, List.length_append]
        exact hform tree more
    · rename_i after hclose
      obtain ⟨hvalues, hresult⟩ := Prod.mk.inj (Except.ok.inj h)
      obtain ⟨hforms, rfl⟩ := Prod.mk.inj hresult
      refine ⟨[tree], JsonGrammar.readItems_succ_iff.mpr ⟨tree, [], _, rfl, hread,
        .inl ⟨rfl, hclose⟩⟩, ⟨hadmissible, trivial⟩, hvalues.symm, ?_⟩
      dsimp only
      rw [← hforms, ← hform tree [], denoteItemForms, List.append_nil]
    · cases h
  · rintro ⟨trees, hread, hadmissible, rfl, rfl⟩
    obtain ⟨tree, more, after, rfl, hvalue, hnext⟩ := JsonGrammar.readItems_succ_iff.mp hread
    refine bind_eq_ok.mpr ⟨⟨denote float64 pythonFloat tree, denoteForm float64 pythonFloat tree,
      after⟩, (ih.value _ _).mpr ⟨tree, hvalue, hadmissible.1, rfl, rfl⟩, ?_⟩
    obtain ⟨rfl, hclose⟩ | ⟨inner, hcomma, hmore⟩ := hnext
    · dsimp only
      rw [hclose, ← hform tree [], denoteItemForms, List.append_nil]
      rfl
    · dsimp only
      rw [hcomma]
      refine (ih.items _ _ _ _).mpr ⟨more, hmore, hadmissible.2, ?_, ?_⟩
      · rw [List.append_assoc]
        rfl
      · rw [List.length_append]
        exact (hform tree more).symm

theorem parseMembers_iff {fuel : Nat} (ih : Simulates float64 pythonFloat fuel)
    {members : List (List Nat × JsValue)} {forms : List (List Nat × List Nat)} {cs : List Nat}
    {result : List (List Nat × JsValue) × List (List Nat × List Nat) × List Nat} :
    parseMembers float64 pythonFloat (fuel + 1) members forms cs = .ok result ↔
      ParsesMembers float64 pythonFloat members forms (JsonGrammar.readMembers (fuel + 1) cs)
        result := by
  obtain ⟨members', forms', rest⟩ := result
  have hform : ∀ (name : List Nat) (tree : Tree) (more : List (List Nat × Tree)),
      setForm forms name (denoteForm float64 pythonFloat tree) ++
          denoteMemberForms float64 pythonFloat more =
      forms ++ denoteMemberForms float64 pythonFloat ((name, tree) :: more) := by
    intro name tree more
    rw [setForm_append, List.append_assoc, denoteMemberForms]
  have hfresh : ∀ (name : List Nat) (value : JsValue) (more : List (List Nat × Tree)),
      (name ∉ members.map Prod.fst ∧ (more.map Prod.fst).Nodup ∧
          ((members ++ [(name, value)]).map Prod.fst).Disjoint (more.map Prod.fst)) ↔
        (name :: more.map Prod.fst).Nodup ∧
          (members.map Prod.fst).Disjoint (name :: more.map Prod.fst) := by
    intro name value more
    rw [List.map_append, List.disjoint_append_left, List.nodup_cons, List.disjoint_cons_right]
    show _ ∧ _ ∧ _ ∧ List.Disjoint [name] _ ↔ _
    rw [List.singleton_disjoint]
    tauto
  constructor
  · intro h
    rw [parseMembers] at h
    split at h
    · rename_i key hskip
      obtain ⟨⟨name, behind⟩, hstring, h⟩ := bind_eq_ok.mp h
      obtain ⟨hname, hpaired⟩ := parseString_iff.mp hstring
      obtain ⟨hnew, h⟩ := bind_unit_eq_ok.mp h
      rw [require_eq_ok, isNew_iff] at hnew
      split at h
      · rename_i colon hcolon
        obtain ⟨item, hitem, h⟩ := bind_eq_ok.mp h
        obtain ⟨tree, hread, hadmissible, hvalue, hvalueForm⟩ := (ih.value _ _).mp hitem
        rw [hvalue, hvalueForm] at h
        split at h
        · rename_i inner hcomma
          obtain ⟨more, hmore, hrest, hnodup, hdisjoint, hvalues, hforms⟩ :=
            (ih.members _ _ _ _).mp h
          obtain ⟨hnames, hapart⟩ := (hfresh name _ more).mp ⟨hnew, hnodup, hdisjoint⟩
          refine ⟨(name, tree) :: more, JsonGrammar.readMembers_succ_iff.mpr ⟨name, tree, more, _,
            _, _, _, rfl, hskip, hname, hcolon, hread, .inr ⟨inner, hcomma, hmore⟩⟩,
            ⟨hpaired, hadmissible, hrest⟩, hnames, hapart, ?_, ?_⟩
          · rw [hvalues, List.append_assoc]
            rfl
          · rw [hforms]
            exact hform name tree more
        · rename_i after hclose
          obtain ⟨hvalues, hresult⟩ := Prod.mk.inj (Except.ok.inj h)
          obtain ⟨hforms, rfl⟩ := Prod.mk.inj hresult
          obtain ⟨hnames, hapart⟩ := (hfresh name (denote float64 pythonFloat tree) []).mp
            ⟨hnew, List.nodup_nil, List.disjoint_nil_right _⟩
          refine ⟨[(name, tree)], JsonGrammar.readMembers_succ_iff.mpr ⟨name, tree, [], _, _, _, _,
            rfl, hskip, hname, hcolon, hread, .inl ⟨rfl, hclose⟩⟩, ⟨hpaired, hadmissible, trivial⟩,
            hnames, hapart, hvalues.symm, ?_⟩
          dsimp only
          rw [← hforms, ← hform name tree [], denoteMemberForms, List.append_nil]
        · cases h
      · cases h
    · cases h
  · rintro ⟨trees, hread, hadmissible, hnodup, hdisjoint, rfl, rfl⟩
    obtain ⟨name, tree, more, key, behind, colon, after, rfl, hskip, hname, hcolon, hvalue, hnext⟩ :=
      JsonGrammar.readMembers_succ_iff.mp hread
    obtain ⟨hnew, hnames, hapart⟩ :=
      (hfresh name (denote float64 pythonFloat tree) more).mpr ⟨hnodup, hdisjoint⟩
    obtain ⟨hpaired, htree, hmembers⟩ := hadmissible
    rw [parseMembers, hskip]
    refine bind_eq_ok.mpr ⟨(name, behind), parseString_iff.mpr ⟨hname, hpaired⟩, ?_⟩
    refine bind_unit_eq_ok.mpr ⟨(require_eq_ok _ _ _).mpr ((isNew_iff _ _).mpr hnew), ?_⟩
    dsimp only
    rw [hcolon]
    refine bind_eq_ok.mpr ⟨⟨denote float64 pythonFloat tree, denoteForm float64 pythonFloat tree,
      after⟩, (ih.value _ _).mpr ⟨tree, hvalue, htree, rfl, rfl⟩, ?_⟩
    obtain ⟨rfl, hclose⟩ | ⟨inner, hcomma, hmore⟩ := hnext
    · dsimp only
      rw [hclose, ← hform name tree [], denoteMemberForms, List.append_nil]
      rfl
    · dsimp only
      rw [hcomma]
      refine (ih.members _ _ _ _).mpr ⟨more, hmore, hmembers, hnames, hapart, ?_, ?_⟩
      · rw [List.append_assoc]
        rfl
      · exact (hform name tree more).symm

theorem simulates (fuel : Nat) : Simulates float64 pythonFloat fuel := by
  induction fuel with
  | zero =>
    refine ⟨?_, ?_, ?_⟩
    · intro cs parsed
      refine iff_of_false (fun h => by cases h) ?_
      rintro ⟨tree, hread, -⟩
      cases hread
    · intro items forms cs result
      refine iff_of_false (fun h => by cases h) ?_
      rintro ⟨trees, hread, -⟩
      cases hread
    · intro members forms cs result
      refine iff_of_false (fun h => by cases h) ?_
      rintro ⟨trees, hread, -⟩
      cases hread
  | succ fuel ih =>
    exact ⟨fun _ _ => parseValue_iff ih, fun _ _ _ _ => parseItems_iff ih,
      fun _ _ _ _ => parseMembers_iff ih⟩

/-! ### Termination -/

theorem quoted_ne_fuel (value : List Nat) : quoted value ≠ .error .fuel := by
  intro h
  rcases bind_eq_error.mp h with hrequire | ⟨_, -, hpure⟩
  · cases ((require_eq_error _ _ _).mp hrequire).2
  · cases hpure

theorem parseString_ne_fuel (cs : List Nat) : parseString cs ≠ .error .fuel := by
  intro h
  rw [parseString] at h
  split at h
  · cases h
  · split at h
    · rcases bind_eq_error.mp h with hquoted | ⟨_, -, hpure⟩
      · exact quoted_ne_fuel _ hquoted
      · cases hpure
    · cases h

theorem parseAtom_ne_fuel (cs : List Nat) : parseAtom float64 pythonFloat cs ≠ .error .fuel := by
  intro h
  rw [parseAtom] at h
  split_ifs at h
  split at h
  · cases h
  · rcases bind_eq_error.mp h with hnumber | ⟨_, -, hpure⟩
    · rw [parseNumber] at hnumber
      split at hnumber
      · split at hnumber
        · cases hnumber
        · cases hnumber
      · dsimp only at hnumber
        split at hnumber
        · cases hnumber
        · cases hnumber
    · cases hpure

theorem length_skipBlanks {cs tail : List Nat} {u : Nat}
    (h : JsonGrammar.skipBlanks cs = u :: tail) : tail.length < cs.length := by
  have hle : (JsonGrammar.skipBlanks cs).length ≤ cs.length :=
    (List.dropWhile_sublist _).length_le
  rw [h] at hle
  exact hle

theorem parseValue_length {fuel : Nat} {cs : List Nat} {parsed : Parsed}
    (h : parseValue float64 pythonFloat fuel cs = .ok parsed) : parsed.rest.length < cs.length := by
  obtain ⟨tree, hread, -⟩ := ((simulates fuel).value _ _).mp h
  obtain ⟨front, inner, -, hspells, rfl⟩ := (JsonGrammar.read_sound fuel).value _ _ _ hread
  obtain ⟨u, tail, rfl, -⟩ := hspells.head
  simp only [List.length_append, List.length_cons]
  omega

theorem parseString_length {cs value rest : List Nat} (h : parseString cs = .ok (value, rest)) :
    rest.length < cs.length := by
  obtain ⟨content, -, rfl⟩ := JsonGrammar.readContent_sound (parseString_iff.mp h).1
  simp only [List.length_append, List.length_cons]
  omega

/-- With this fuel the parser does not run out of it on a text that is short enough. -/
structure Terminates (float64 : List Char → Option FloatValue) (pythonFloat : FloatValue → String)
    (fuel : Nat) : Prop where
  value : ∀ cs, 2 * cs.length + 1 ≤ fuel → parseValue float64 pythonFloat fuel cs ≠ .error .fuel
  items : ∀ items forms cs, 2 * cs.length + 2 ≤ fuel →
    parseItems float64 pythonFloat fuel items forms cs ≠ .error .fuel
  members : ∀ members forms cs, 2 * cs.length + 2 ≤ fuel →
    parseMembers float64 pythonFloat fuel members forms cs ≠ .error .fuel

theorem parseValue_terminates {fuel : Nat} (ih : Terminates float64 pythonFloat fuel)
    {cs : List Nat} (hfuel : 2 * cs.length + 1 ≤ fuel + 1) :
    parseValue float64 pythonFloat (fuel + 1) cs ≠ .error .fuel := by
  intro h
  rw [parseValue] at h
  split at h
  · rcases bind_eq_error.mp h with hstring | ⟨_, -, hpure⟩
    · exact parseString_ne_fuel _ hstring
    · cases hpure
  · rename_i tail hskip
    have hlength := length_skipBlanks hskip
    have hinner : (JsonGrammar.skipBlanks tail).length ≤ tail.length :=
      (List.dropWhile_sublist _).length_le
    split at h
    · cases h
    · rcases bind_eq_error.mp h with hitems | ⟨_, -, hpure⟩
      · exact ih.items _ _ _ (by omega) hitems
      · cases hpure
  · rename_i tail hskip
    have hlength := length_skipBlanks hskip
    have hinner : (JsonGrammar.skipBlanks tail).length ≤ tail.length :=
      (List.dropWhile_sublist _).length_le
    split at h
    · cases h
    · rcases bind_eq_error.mp h with hmembers | ⟨_, -, hpure⟩
      · exact ih.members _ _ _ (by omega) hmembers
      · cases hpure
  · exact parseAtom_ne_fuel _ h

theorem parseItems_terminates {fuel : Nat} (ih : Terminates float64 pythonFloat fuel)
    {items : List JsValue} {forms : List (List Nat × List Nat)} {cs : List Nat}
    (hfuel : 2 * cs.length + 2 ≤ fuel + 1) :
    parseItems float64 pythonFloat (fuel + 1) items forms cs ≠ .error .fuel := by
  intro h
  rcases bind_eq_error.mp h with hvalue | ⟨item, hitem, hnext⟩
  · exact ih.value _ (by omega) hvalue
  · have hlength := parseValue_length hitem
    dsimp only at hnext
    split at hnext
    · rename_i inner hcomma
      have hinner := length_skipBlanks hcomma
      exact ih.items _ _ _ (by omega) hnext
    · cases hnext
    · cases hnext

theorem parseMembers_terminates {fuel : Nat} (ih : Terminates float64 pythonFloat fuel)
    {members : List (List Nat × JsValue)} {forms : List (List Nat × List Nat)} {cs : List Nat}
    (hfuel : 2 * cs.length + 2 ≤ fuel + 1) :
    parseMembers float64 pythonFloat (fuel + 1) members forms cs ≠ .error .fuel := by
  intro h
  rw [parseMembers] at h
  split at h
  · rename_i key hskip
    have hkey := length_skipBlanks hskip
    rcases bind_eq_error.mp h with hstring | ⟨⟨name, behind⟩, hstring, hnext⟩
    · exact parseString_ne_fuel _ hstring
    have hbehind := parseString_length hstring
    rcases bind_eq_error.mp hnext with hrequire | ⟨_, -, hnext⟩
    · cases ((require_eq_error _ _ _).mp hrequire).2
    split at hnext
    · rename_i colon hcolon
      have hcolonLength := length_skipBlanks hcolon
      rcases bind_eq_error.mp hnext with hvalue | ⟨item, hitem, hlast⟩
      · exact ih.value _ (by omega) hvalue
      have hitemLength := parseValue_length hitem
      dsimp only at hlast
      split at hlast
      · rename_i inner hcomma
        have hinner := length_skipBlanks hcomma
        exact ih.members _ _ _ (by omega) hlast
      · cases hlast
      · cases hlast
    · cases hnext
  · cases h

theorem terminates (fuel : Nat) : Terminates float64 pythonFloat fuel := by
  induction fuel with
  | zero =>
    refine ⟨?_, ?_, ?_⟩
    · intro cs hfuel
      omega
    · intro items forms cs hfuel
      omega
    · intro members forms cs hfuel
      omega
  | succ fuel ih =>
    exact ⟨fun _ hfuel => parseValue_terminates ih hfuel,
      fun _ _ _ hfuel => parseItems_terminates ih hfuel,
      fun _ _ _ hfuel => parseMembers_terminates ih hfuel⟩

end

/-- **The parser terminates on every text, and accepts exactly the admissible object texts of the
grammar**, as the value that they denote. -/
theorem parseCanonicalJson_iff (float64 : List Char → Option FloatValue)
    (pythonFloat : FloatValue → String) (raw : List Nat) :
    parseCanonicalJson float64 pythonFloat raw ≠ .error .fuel ∧
    ∀ value, parseCanonicalJson float64 pythonFloat raw = .ok value ↔
      ∃ members, JsonGrammar.Padded (JsonGrammar.Spells (.obj members)) raw ∧
        Admissible float64 (.obj members) ∧
        value = denote float64 pythonFloat (.obj members) := by
  refine ⟨?_, ?_⟩
  · intro h
    rcases bind_eq_error.mp h with hvalue | ⟨result, -, hnext⟩
    · exact (terminates _).value raw le_rfl hvalue
    · split at hnext
      · cases hnext
      · cases hnext
  · intro value
    constructor
    · intro h
      obtain ⟨⟨found, form, rest⟩, hparse, hnext⟩ := bind_eq_ok.mp h
      obtain ⟨tree, hread, hadmissible, hvalue, -⟩ := ((simulates _).value _ _).mp hparse
      dsimp only at hvalue hnext
      split at hnext
      · rename_i hend
        have htree : readTree raw = some tree := by
          rw [readTree, hread]
          exact if_pos hend
        cases tree with
        | obj trees =>
          refine ⟨trees, (JsonGrammar.readTree_iff _ _).mp htree, hadmissible, ?_⟩
          rw [← Except.ok.inj hnext, hvalue]
        | _ =>
          rw [denote] at hvalue
          cases hvalue
      · cases hnext
    · rintro ⟨members, hspells, hadmissible, rfl⟩
      have htree := (JsonGrammar.readTree_iff _ _).mpr hspells
      rw [readTree] at htree
      split at htree
      · rename_i tree rest hread
        split_ifs at htree with hend
        obtain rfl := Option.some.inj htree
        refine bind_eq_ok.mpr ⟨⟨_, _, rest⟩, ((simulates _).value _ _).mpr
          ⟨.obj members, hread, hadmissible, rfl, rfl⟩, ?_⟩
        dsimp only
        rw [hend, denote]
        rfl
      · cases htree

end PlantNexus.Frontend.Raw
