import PlantNexus.Data.JsonEval
import PlantNexus.Frontend.Reparsing

/-! The two canonical encoders agree.

`canonicalJson` of a parsed document is the text of `json.dumps` in code units
(`canonicalJson_dumps`). With what the parser reads and reads back, this gives
`canonicalJson_agrees`: for every text that the front end accepts, the bytes, the projections and
the fingerprints are the backend's, and a second pass changes nothing. -/
namespace PlantNexus.Frontend
open Data JsonRead

/-! ### Strings and keys -/

theorem encode_append (s t : List Char) :
    Utf16.encode (s ++ t) = Utf16.encode s ++ Utf16.encode t := List.flatMap_append

/-- The signs and escapes that a string does not need. -/
theorem stringifyUnit_plain {unit : Nat} (hcontrol : 32 ≤ unit) (hquote : unit ≠ 34)
    (hslash : unit ≠ 92) : stringifyUnit unit = [unit] := by
  rw [stringifyUnit, if_neg hquote, if_neg hslash, if_neg (by omega), if_neg (by omega),
    if_neg (by omega), if_neg (by omega), if_neg (by omega), if_neg (by omega)]

theorem stringifyUnit_control {unit : Nat} (hcontrol : unit < 32) (hn : unit ≠ 10)
    (hr : unit ≠ 13) (ht : unit ≠ 9) (hf : unit ≠ 12) (hb : unit ≠ 8) :
    stringifyUnit unit = 92 :: 117 :: (Json.hexDigits 4 unit).map Char.toNat := by
  rw [stringifyUnit, if_neg (by omega), if_neg (by omega), if_neg hn, if_neg hr, if_neg ht,
    if_neg hf, if_neg hb, if_pos hcontrol]

theorem digitChar_lt : ∀ n < 16, n.digitChar.toNat < 0x10000 := by decide

theorem encode_hexDigits (n : Nat) :
    Utf16.encode (Json.hexDigits 4 n) = (Json.hexDigits 4 n).map Char.toNat := by
  have hone : ∀ m, Utf16.encodeChar (Nat.digitChar (m % 16)) = [(Nat.digitChar (m % 16)).toNat] :=
    fun m => Utf16.encodeChar_basic _ (digitChar_lt _ (Nat.mod_lt _ (by decide)))
  rw [Json.hexDigits_four]
  simp only [Utf16.encode_cons, hone]
  rfl

/-- `JSON.stringify` and `json.dumps` escape the same characters. -/
theorem stringify_char (c : Char) :
    (Utf16.encodeChar c).flatMap stringifyUnit = Utf16.encode (Json.escapeChar c) := by
  have hne : ∀ d : Char, c ≠ d → c.toNat ≠ d.toNat := fun d h heq => h (Char.toNat_inj.mp heq)
  unfold Json.escapeChar
  split_ifs with h1 h2 h3 h4 h5 h6 h7 h8
  · rw [h1]
    rfl
  · rw [h2]
    rfl
  · rw [h3]
    rfl
  · rw [h4]
    rfl
  · rw [h5]
    rfl
  · have hc : c = Char.ofNat 12 := by rw [← h6, Char.ofNat_toNat]
    rw [hc]
    rfl
  · have hc : c = Char.ofNat 8 := by rw [← h7, Char.ofNat_toNat]
    rw [hc]
    rfl
  · rw [Utf16.encodeChar_basic c (by omega), List.flatMap_singleton,
      stringifyUnit_control h8 (hne '\n' h3) (hne '\r' h4) (hne '\t' h5) h6 h7, Utf16.encode_cons,
      Utf16.encode_cons, encode_hexDigits]
    rfl
  · rw [Utf16.encode_cons]
    by_cases hbasic : c.toNat < 0x10000
    · rw [Utf16.encodeChar_basic c hbasic, List.flatMap_singleton,
        stringifyUnit_plain (by omega) (hne _ h1) (hne _ h2)]
      rfl
    · obtain ⟨high, low, heq, hhigh, hlow, -⟩ := Utf16.encodeChar_pair c hbasic
      unfold Utf16.IsHigh at hhigh
      unfold Utf16.IsLow at hlow
      rw [heq, List.flatMap_cons, List.flatMap_singleton,
        stringifyUnit_plain (by omega) (by omega) (by omega),
        stringifyUnit_plain (by omega) (by omega) (by omega)]
      rfl

theorem quoted_units (text : String) :
    quoted (units text) = .ok (Utf16.encode (Json.quote text)) := by
  rw [quoted_eq_ok]
  refine ⟨Utf16.paired_encode _, ?_⟩
  have hbody : (units text).flatMap stringifyUnit =
      Utf16.encode (text.toList.flatMap Json.escapeChar) := by
    unfold units Utf16.encode
    rw [List.flatMap_assoc, List.flatMap_assoc]
    exact List.flatMap_congr fun c _ => stringify_char c
  rw [stringify, hbody, Json.quote, Utf16.encode_cons, encode_append]
  rfl

theorem compareCodePoints_eq (left right : List Nat) : compareCodePoints left right =
    (compareCodePoints.go (Utf16.codePoints left) (Utf16.codePoints right)).getD
      ((Utf16.codePoints left).length - (Utf16.codePoints right).length) := by
  unfold compareCodePoints
  dsimp only
  cases compareCodePoints.go (Utf16.codePoints left) (Utf16.codePoints right) with
  | none => rfl
  | some difference => rfl

theorem comparePoints_le (ls rs : List Char) :
    (compareCodePoints.go (ls.map Char.toNat) (rs.map Char.toNat)).getD
      ((ls.length : Int) - rs.length) ≤ 0 ↔ Spelling.charsLe ls rs = true := by
  induction ls generalizing rs with
  | nil =>
    cases rs with
    | nil => simp [compareCodePoints.go, Spelling.charsLe]
    | cons r rs => simp [compareCodePoints.go, Spelling.charsLe]
  | cons l ls ih =>
    cases rs with
    | nil => simp [compareCodePoints.go, Spelling.charsLe]
    | cons r rs =>
      rw [List.map_cons, List.map_cons, compareCodePoints.go, Spelling.charsLe, Bool.or_eq_true,
        Bool.and_eq_true, Nat.blt_eq, Nat.beq_eq]
      by_cases heq : l.toNat = r.toNat
      · have hlength : ((l :: ls).length : Int) - (r :: rs).length = (ls.length : Int) - rs.length := by
          rw [List.length_cons, List.length_cons]
          omega
        rw [if_neg (by omega), hlength, ih]
        exact ⟨fun h => .inr ⟨heq, h⟩, fun h => h.elim (fun hlt => by omega) And.right⟩
      · rw [if_pos (by omega), Option.getD_some]
        exact ⟨fun h => .inl (by omega), fun h => h.elim (fun hlt => by omega)
          fun hand => (heq hand.1).elim⟩

/-- Keys are compared as the backend compares them: by code points. -/
theorem compareCodePoints_le (left right : String) :
    compareCodePoints (units left) (units right) ≤ 0 ↔ left ≤ right := by
  rw [compareCodePoints_eq, units, units, Utf16.codePoints_encode, Utf16.codePoints_encode,
    List.length_map, List.length_map, comparePoints_le, Spelling.charsLe_iff, ← not_lt,
    String.lt_iff_toList_lt]

theorem join_encode (texts : List (List Char)) :
    join (texts.map Utf16.encode) = Utf16.encode (Json.commaJoin texts) := by
  induction texts with
  | nil => rfl
  | cons x xs ih =>
    cases xs with
    | nil => rfl
    | cons y ys =>
      rw [Json.commaJoin, encode_append, Utf16.encode_cons, ← ih]
      · rfl
      · exact List.cons_ne_nil y ys

/-- A member of a printed document in code units. -/
def encodeMember (member : String × List Char) : List Nat × List Nat :=
  (units member.1, Utf16.encode member.2)

theorem ownOrder_perm {α : Type} (members : List (List Nat × α)) :
    (ownOrder members).Perm members := by
  have hsplit : ∀ p : List Nat × α → Bool,
      (members.filter p ++ members.filter fun m => ¬p m).Perm members := by
    intro p
    have hnot : (fun m => decide (¬p m = true)) = fun m => !p m := by
      funext m
      cases p m with
      | true => rfl
      | false => rfl
    rw [hnot]
    exact List.filter_append_perm p members
  exact ((sortByKey_perm _ _).append_right _).trans (hsplit _)

/-- A reordering of mapped elements is a mapped reordering. -/
theorem exists_map_of_perm {α β : Type} {f : α → β} {xs : List α} {ys : List β}
    (h : ys.Perm (xs.map f)) : ∃ zs : List α, ys = zs.map f ∧ zs.Perm xs := by
  have himage : List.Forall₂ (fun y x => y = f x) (xs.map f) xs := by
    rw [List.forall₂_map_left_iff]
    exact List.forall₂_same.mpr fun _ _ => rfl
  obtain ⟨zs, hzs, hperm⟩ := List.perm_comp_forall₂ h himage
  refine ⟨zs, ?_, hperm⟩
  rw [← List.forall₂_eq_eq_eq, List.forall₂_map_right_iff]
  exact hzs

/-- Whatever order the keys are listed in, sorting them gives the backend's. -/
theorem sortKeys_ownOrder (texts : List (String × List Char))
    (hnodup : (texts.map Prod.fst).Nodup) :
    sortKeys (ownOrder (texts.map encodeMember)) =
      (sortByKey Prod.fst texts).map encodeMember := by
  obtain ⟨reordered, hown, hperm⟩ :=
    exists_map_of_perm (ownOrder_perm (texts.map encodeMember))
  have hsorted : sortKeys (reordered.map encodeMember) =
      (sortByKey Prod.fst reordered).map encodeMember :=
    (List.map_insertionSort (fun a b : String × List Char => a.1 ≤ b.1)
      (fun a b : List Nat × List Nat => compareCodePoints a.1 b.1 ≤ 0) encodeMember reordered
      fun a _ b _ => (compareCodePoints_le a.1 b.1).symm).symm
  rw [hown, hsorted]
  congr 1
  have hkeys : (reordered.map Prod.fst).Nodup := (hperm.map Prod.fst).nodup_iff.mpr hnodup
  exact sortByKey_eq_of_perm (fun x hx y hy => List.inj_on_of_nodup_map hkeys hx hy) hperm

/-! ### Number forms -/

theorem formOf_append (xs ys : List (List Nat × List Nat)) (key : List Nat) :
    formOf (xs ++ ys) key = (formOf ys key).or (formOf xs key) := by
  rw [formOf, dictGet_append, formOf, formOf]
  cases dictGet Prod.fst ys key with
  | none => rfl
  | some entry => rfl

theorem formOf_setForm (key other : List Nat) (form : Option (List Nat)) :
    formOf (setForm [] key form) other = if key = other then form else none := by
  cases form with
  | none => exact (ite_self none).symm
  | some form =>
    simp only [setForm, formOf, dictGet, List.nil_append, List.reverse_singleton, List.find?]
    split_ifs with heq
    · simp [heq]
    · simp [heq]

theorem natText_injective {m n : Nat} (h : units (toString m) = units (toString n)) : m = n := by
  have hdigits := congrArg String.toList (units_injective h)
  rw [show (toString m).toList = Nat.toDigits 10 m from Nat.toList_repr,
    show (toString n).toList = Nat.toDigits 10 n from Nat.toList_repr] at hdigits
  have hvalue := congrArg (fun ds => Nat.ofDigitChars 10 ds 0) hdigits
  simpa only [Nat.ofDigitChars_ten_toDigits] using hvalue

theorem formOf_itemForms_lt (docs : List Json) (index other : Nat) (h : other < index) :
    formOf (itemForms index docs) (units (toString other)) = none := by
  induction docs generalizing index with
  | nil => rfl
  | cons x xs ih =>
    have hne : units (toString index) ≠ units (toString other) := by
      intro heq
      have := natText_injective heq
      omega
    rw [itemForms, formOf_append, ih (index + 1) (by omega), formOf_setForm, if_neg hne]
    rfl

/-- The form of an item is found under its index. -/
theorem formOf_itemForms (docs : List Json) (index offset : Nat) (doc : Json)
    (h : docs[offset]? = some doc) :
    formOf (itemForms index docs) (units (toString (index + offset))) = formText doc := by
  induction docs generalizing index offset with
  | nil => cases h
  | cons x xs ih =>
    rw [itemForms, formOf_append, formOf_setForm]
    cases offset with
    | zero =>
      obtain rfl : x = doc := Option.some.inj h
      have hnone := formOf_itemForms_lt xs (index + 1) (index + 0) (by omega)
      have hsame : units (toString index) = units (toString (index + 0)) := rfl
      rw [hnone, if_pos hsame]
      rfl
    | succ offset =>
      have hne : units (toString index) ≠ units (toString (index + (offset + 1))) := by
        intro heq
        have := natText_injective heq
        omega
      have hindex : index + (offset + 1) = index + 1 + offset := by omega
      rw [if_neg hne, Option.or_none, hindex]
      exact ih (index + 1) offset h

theorem formOf_memberForms_absent (docs : List (String × Json)) (key : String)
    (h : key ∉ docs.map Prod.fst) : formOf (memberForms docs) (units key) = none := by
  induction docs with
  | nil => rfl
  | cons doc docs ih =>
    obtain ⟨name, value⟩ := doc
    rw [List.map_cons, List.mem_cons, not_or] at h
    have hne : units name ≠ units key := fun heq => h.1 (units_injective heq).symm
    rw [memberForms, formOf_append, ih h.2, formOf_setForm, if_neg hne]
    rfl

/-- The form of a member is found under its key. -/
theorem formOf_memberForms (docs : List (String × Json)) (hnodup : (docs.map Prod.fst).Nodup)
    (doc : String × Json) (hdoc : doc ∈ docs) :
    formOf (memberForms docs) (units doc.1) = formText doc.2 := by
  induction docs with
  | nil => cases hdoc
  | cons first docs ih =>
    obtain ⟨hnot, hnodup⟩ := List.nodup_cons.mp hnodup
    rw [memberForms, formOf_append, formOf_setForm]
    obtain rfl | hdoc := List.mem_cons.mp hdoc
    · rw [formOf_memberForms_absent docs doc.1 hnot, if_pos rfl]
      rfl
    · have hne : units first.1 ≠ units doc.1 := by
        intro heq
        apply hnot
        exact List.mem_map.mpr ⟨doc, hdoc, (units_injective heq).symm⟩
      rw [if_neg hne, Option.or_none]
      exact ih hnodup hdoc

/-! ### Documents -/

section
variable {float64 : List Char → Option FloatValue} {pythonFloat : FloatValue → String}

theorem formText_dumps {doc : Json} {form : List Nat} (h : formText doc = some form) :
    form = Utf16.encode doc.dumpChars := by
  cases doc with
  | int value => exact (Option.some.inj h).symm
  | float value => exact (Option.some.inj h).symm
  | _ => cases h

theorem dumpMembers_keys (members : List (String × Json)) :
    (Json.dumpMembers members).map Prod.fst = members.map Prod.fst := by
  induction members with
  | nil => rfl
  | cons m members ih => rw [Json.dumpMembers, List.map_cons, List.map_cons, ih]

mutual

/-- **The encoder of the front end writes what `json.dumps` writes.** A number is written by the
container it stands in. -/
theorem canonicalJson_dumps : ∀ doc : Json, Supported float64 doc → formText doc = none →
    canonicalJson pythonFloat (ofJson doc) = .ok (Utf16.encode doc.dumpChars)
  | .null, _, _ => rfl
  | .bool value, _, _ => by
    cases value with
    | true => rfl
    | false => rfl
  | .int _, _, hform => by cases hform
  | .float _, _, hform => by cases hform
  | .str value, _, _ => by
    rw [ofJson, canonicalJson, quoted_units]
    rfl
  | .arr items, hdoc, _ => by
    have hitems := canonicalItems_dumps items hdoc (itemForms 0 items) 0
      fun offset doc h => formOf_itemForms items 0 offset doc h
    rw [ofJson, canonicalJson, hitems]
    show Except.ok (91 :: (join _ ++ [93])) = _
    rw [join_encode, Json.dumpChars, Utf16.encode_cons, encode_append]
    rfl
  | .obj members, hdoc, _ => by
    have hmembers := canonicalMembers_dumps members hdoc.2 (memberForms members)
      fun doc h => formOf_memberForms members hdoc.1 doc h
    have hkeys : ((Json.dumpMembers members).map Prod.fst).Nodup := by
      rw [dumpMembers_keys]
      exact hdoc.1
    rw [ofJson, canonicalJson, hmembers]
    show Except.ok (123 :: (join ((sortKeys (ownOrder _)).map Prod.snd) ++ [125])) = _
    rw [sortKeys_ownOrder _ hkeys, List.map_map]
    have htexts : (sortByKey Prod.fst (Json.dumpMembers members)).map (Prod.snd ∘ encodeMember) =
        ((sortByKey Prod.fst (Json.dumpMembers members)).map Prod.snd).map Utf16.encode := by
      rw [List.map_map]
      rfl
    rw [htexts, join_encode, Json.dumpChars, Utf16.encode_cons, encode_append]
    rfl

theorem canonicalItems_dumps : ∀ docs : List Json, SupportedItems float64 docs →
    ∀ (forms : List (List Nat × List Nat)) (index : Nat),
    (∀ offset doc, docs[offset]? = some doc →
      formOf forms (units (toString (index + offset))) = formText doc) →
    canonicalItems pythonFloat forms index (ofItems docs) =
      .ok ((Json.dumpItems docs).map Utf16.encode)
  | [], _, _, _, _ => rfl
  | doc :: docs, hdocs, forms, index, hforms => by
    have hfirst : formOf forms (units (toString index)) = formText doc := hforms 0 doc rfl
    have hrest := canonicalItems_dumps docs hdocs.2 forms (index + 1) (by
      intro offset other h
      have hindex : index + 1 + offset = index + (offset + 1) := by omega
      rw [hindex]
      exact hforms (offset + 1) other h)
    rw [ofItems, canonicalItems, hfirst, hrest]
    cases hform : formText doc with
    | none =>
      rw [canonicalJson_dumps doc hdocs.1 hform]
      rfl
    | some form =>
      rw [formText_dumps hform]
      rfl

theorem canonicalMembers_dumps : ∀ docs : List (String × Json), SupportedMembers float64 docs →
    ∀ forms : List (List Nat × List Nat),
    (∀ doc ∈ docs, formOf forms (units doc.1) = formText doc.2) →
    canonicalMembers pythonFloat forms (ofMembers docs) =
      .ok ((Json.dumpMembers docs).map encodeMember)
  | [], _, _, _ => rfl
  | (key, doc) :: docs, hdocs, forms, hforms => by
    have hfirst : formOf forms (units key) = formText doc :=
      hforms (key, doc) (List.mem_cons_self ..)
    have hrest := canonicalMembers_dumps docs hdocs.2 forms
      fun other h => hforms other (List.mem_cons_of_mem _ h)
    have hname : Utf16.encode (Json.quote key ++ ':' :: doc.dumpChars) =
        Utf16.encode (Json.quote key) ++ 58 :: Utf16.encode doc.dumpChars := by
      rw [encode_append, Utf16.encode_cons]
      rfl
    rw [ofMembers, canonicalMembers, quoted_units, hfirst, hrest, Json.dumpMembers, List.map_cons,
      encodeMember, hname]
    cases hform : formText doc with
    | none =>
      rw [canonicalJson_dumps doc hdocs.1 hform]
      rfl
    | some form =>
      rw [formText_dumps hform]
      rfl

end

end
end PlantNexus.Frontend
