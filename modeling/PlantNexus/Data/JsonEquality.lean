import PlantNexus.Data.Json

/-! Equality of decoded values is symmetric.

Objects compare by looking every member of the first up in the second; with distinct keys on both
sides and equally many members the second has no other ones. -/
namespace PlantNexus.Data.Json

theorem wellFormedMembers_iff (members : List (String × Json)) :
    WellFormedMembers members ↔ ∀ m ∈ members, m.2.WellFormed := by
  induction members with
  | nil => simp [WellFormedMembers]
  | cons m rest ih => rw [WellFormedMembers, ih, List.forall_mem_cons]

theorem pyEqMembers_iff (xs ys : List (String × Json)) :
    pyEqMembers xs ys = true ↔ ∀ m ∈ xs, ∃ other, ys.find? (fun y => y.1 == m.1) = some other ∧
      pyEq m.2 other.2 = true := by
  induction xs with
  | nil => simp [pyEqMembers]
  | cons m rest ih =>
    rw [pyEqMembers, Bool.and_eq_true, ih, List.forall_mem_cons]
    refine and_congr_left fun _ => ?_
    cases ys.find? fun y => y.1 == m.1 with
    | none => simp
    | some other => simp

/-- Equally many members with distinct keys, looked up in one direction, are the same keys. -/
theorem keys_subset_of_lookup {xs ys : List (String × Json)} (hxs : (xs.map Prod.fst).Nodup)
    (hlength : xs.length = ys.length)
    (hlookup : ∀ m ∈ xs, ∃ other, ys.find? (fun y => y.1 == m.1) = some other) :
    ys.map Prod.fst ⊆ xs.map Prod.fst := by
  have hsubset : xs.map Prod.fst ⊆ ys.map Prod.fst := by
    intro key hkey
    obtain ⟨m, hm, rfl⟩ := List.mem_map.mp hkey
    obtain ⟨other, hother⟩ := hlookup m hm
    have heq : other.1 = m.1 := by simpa using List.find?_some hother
    exact heq ▸ List.mem_map_of_mem (List.mem_of_find?_eq_some hother)
  have hperm := (List.subperm_of_subset hxs hsubset).perm_of_length_le
    (by rw [List.length_map, List.length_map, hlength])
  exact hperm.symm.subset

mutual

theorem pyEq_symm : ∀ a b : Json, a.WellFormed → b.WellFormed → pyEq a b = true →
    pyEq b a = true
  | null, b, _, _, h => by cases b <;> simp_all [pyEq, number]
  | bool _, b, _, _, h => by cases b <;> simp_all [pyEq, number]
  | int _, b, _, _, h => by cases b <;> simp_all [pyEq, number]
  | float _, b, _, _, h => by cases b <;> simp_all [pyEq, number]
  | str _, b, _, _, h => by cases b <;> simp_all [pyEq, number]
  | arr xs, b, ha, hb, h => by
    cases b with
    | arr ys =>
      rw [pyEq] at h ⊢
      exact pyEqItems_symm xs ys ha hb h
    | _ => simp_all [pyEq, number]
  | obj xs, b, ha, hb, h => by
    cases b with
    | obj ys =>
      rw [pyEq, Bool.and_eq_true, beq_iff_eq, pyEqMembers_iff] at h
      rw [pyEq, Bool.and_eq_true, beq_iff_eq, pyEqMembers_iff]
      obtain ⟨hlength, hmembers⟩ := h
      refine ⟨hlength.symm, ?_⟩
      intro m hm
      have hsubset := keys_subset_of_lookup ha.1 hlength fun x hx =>
        (hmembers x hx).imp fun _ hboth => hboth.1
      obtain ⟨x, hx, hkey⟩ := List.mem_map.mp (hsubset (List.mem_map_of_mem hm))
      obtain ⟨other, hfind, heq⟩ := hmembers x hx
      rw [hkey, find?_key_eq hb.1 hm] at hfind
      obtain rfl := Option.some.inj hfind
      refine ⟨x, ?_, ?_⟩
      · rw [← hkey]
        exact find?_key_eq ha.1 hx
      · exact pyEqMember_symm xs ha.2 x hx m.2 ((wellFormedMembers_iff ys).mp hb.2 m hm) heq
    | _ => simp_all [pyEq, number]

theorem pyEqItems_symm : ∀ xs ys : List Json, WellFormedItems xs → WellFormedItems ys →
    pyEqItems xs ys = true → pyEqItems ys xs = true
  | [], [], _, _, _ => rfl
  | [], _ :: _, _, _, h => by cases h
  | _ :: _, [], _, _, h => by cases h
  | x :: xs, y :: ys, hx, hy, h => by
    rw [pyEqItems, Bool.and_eq_true] at h ⊢
    exact ⟨pyEq_symm x y hx.1 hy.1 h.1, pyEqItems_symm xs ys hx.2 hy.2 h.2⟩

theorem pyEqMember_symm : ∀ xs : List (String × Json), WellFormedMembers xs → ∀ m ∈ xs,
    ∀ w : Json, w.WellFormed → pyEq m.2 w = true → pyEq w m.2 = true
  | [], _, _, hm, _, _, _ => by cases hm
  | (_, value) :: rest, hxs, m, hm, w, hw, h => by
    rcases List.mem_cons.mp hm with rfl | hm
    · exact pyEq_symm value w hxs.1 hw h
    · exact pyEqMember_symm rest hxs.2 m hm w hw h

end

theorem pyEq_comm {a b : Json} (ha : a.WellFormed) (hb : b.WellFormed) :
    pyEq a b = pyEq b a := by
  rw [Bool.eq_iff_iff]
  exact ⟨pyEq_symm a b ha hb, pyEq_symm b a hb ha⟩

@[simp]
theorem pyEq_str (a b : String) : pyEq (str a) (str b) = true ↔ a = b := by
  rw [pyEq, beq_iff_eq]

/-- Only a text is equal to a text. -/
theorem eq_str_of_pyEq {value : Json} {text : String} (h : value.pyEq (str text) = true) :
    value = str text := by
  cases value with
  | str found => rw [of_decide_eq_true h]
  | null | bool | int | float | arr | obj => cases h

/-- A member of a well-formed object is well formed. -/
theorem wellFormed_get {value : Json} (h : value.WellFormed) (key : String) :
    (value.get key).WellFormed := by
  cases value with
  | obj members =>
    rw [get]
    cases hfind : members.find? fun m => m.1 == key with
    | none => trivial
    | some m =>
      exact (wellFormedMembers_iff members).mp h.2 m (List.mem_of_find?_eq_some hfind)
  | _ => trivial

theorem wellFormed_item {items : List Json} (h : (arr items).WellFormed) :
    ∀ x ∈ items, x.WellFormed := by
  rw [WellFormed] at h
  induction items with
  | nil => simp
  | cons y ys ih =>
    rw [List.forall_mem_cons]
    exact ⟨h.1, ih h.2⟩

end PlantNexus.Data.Json
