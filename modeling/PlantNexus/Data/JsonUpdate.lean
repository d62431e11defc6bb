import PlantNexus.Data.Json

/-! `dict.update` on decoded objects.

The fields of the update replace the members of the same name. Members are compared by key, so
the order in which they stand does not matter. -/
namespace PlantNexus.Data
namespace Json

/-- `document.update(fields)` -/
def update (document : Json) (fields : List (String × Json)) : Json :=
  match document with
  | obj members => obj (members.filter (fun member => member.1 ∉ fields.map Prod.fst) ++ fields)
  | other => other

theorem isObj_update (document : Json) (fields : List (String × Json)) :
    (document.update fields).isObj = document.isObj := by
  cases document <;> rfl

theorem get_obj (key : String) (members : List (String × Json)) :
    get key (obj members) = ((members.find? (·.1 == key)).map Prod.snd).getD null := by
  simp only [get]
  cases members.find? (·.1 == key) <;> rfl

/-- A field of the update has its new value. -/
theorem get_update_mem {document : Json} {fields : List (String × Json)} {key : String}
    (hdocument : document.isObj = true) (hkey : key ∈ fields.map Prod.fst) :
    (document.update fields).get key = (obj fields).get key := by
  cases document with
  | obj members =>
    rw [update, get_obj, get_obj, List.find?_append]
    have hold : (members.filter fun member => member.1 ∉ fields.map Prod.fst).find?
        (·.1 == key) = none := by
      rw [List.find?_eq_none]
      intro member hmember heq
      rw [beq_iff_eq] at heq
      exact (of_decide_eq_true (List.mem_filter.mp hmember).2) (heq ▸ hkey)
    rw [hold, Option.none_or]
  | _ => cases hdocument

/-- A field that the update does not name keeps its value. -/
theorem get_update_of_notMem {document : Json} {fields : List (String × Json)} {key : String}
    (hkey : key ∉ fields.map Prod.fst) : (document.update fields).get key = document.get key := by
  cases document with
  | obj members =>
    rw [update, get_obj, get_obj, List.find?_append]
    have hnew : fields.find? (·.1 == key) = none := by
      rw [List.find?_eq_none]
      intro member hmember heq
      rw [beq_iff_eq] at heq
      exact hkey (heq ▸ List.mem_map_of_mem hmember)
    rw [hnew, Option.or_none, List.find?_filter]
    congr 3
    funext member
    by_cases h : member.1 = key
    · subst h
      simp [hkey]
    · simp [h]
  | _ => rfl

/-- A member that joins the end of an object is found under its key. -/
theorem get_append_self {members : List (String × Json)} {key : String} {value : Json}
    (h : key ∉ members.map Prod.fst) : (obj (members ++ [(key, value)])).get key = value := by
  rw [get_obj, List.find?_append]
  have hold : members.find? (·.1 == key) = none := by
    rw [List.find?_eq_none]
    intro member hmember heq
    rw [beq_iff_eq] at heq
    exact h (heq ▸ List.mem_map_of_mem hmember)
  simp [hold]

theorem get_append_of_ne {members : List (String × Json)} {key other : String} {value : Json}
    (h : other ≠ key) : (obj (members ++ [(key, value)])).get other = (obj members).get other := by
  rw [get_obj, get_obj, List.find?_append]
  have hnew : [(key, value)].find? (·.1 == other) = none := by simp [Ne.symm h]
  rw [hnew, Option.or_none]

/-- A field of an object depends on the members of its key only. -/
theorem get_congr {members members' : List (String × Json)} {key : String}
    (h : List.Forall₂ (fun member member' => member.1 = member'.1 ∧
      (member.1 = key → member.2 = member'.2)) members members') :
    (obj members).get key = (obj members').get key := by
  rw [get_obj, get_obj]
  induction h with
  | nil => rfl
  | @cons member member' rest rest' hmember _ ih =>
    obtain ⟨hkey, hvalue⟩ := hmember
    rw [List.find?_cons, List.find?_cons, ← hkey]
    by_cases heq : member.1 = key
    · simp [heq, hvalue heq]
    · simp only [beq_eq_false_iff_ne.mpr heq]
      exact ih

end Json
end PlantNexus.Data
