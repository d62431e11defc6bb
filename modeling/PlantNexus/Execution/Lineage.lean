import PlantNexus.Data.JsonText
import PlantNexus.Execution.Checkpoint

/-! The lineage of a projected snapshot.

A projected snapshot names the base it was projected from, the authority and the stream prefix
that it contains. The position in it is written in decimal and read back as a Python integer. -/
namespace PlantNexus.Execution
open Data Domain Time Snapshot

/-! ### Lineages -/

theorem isDigitRun_digits {cs : List Char} (hne : cs ≠ []) (h : ∀ c ∈ cs, c.isDigit = true) :
    isDigitRun cs = true := by
  induction cs with
  | nil => exact absurd rfl hne
  | cons c rest ih =>
    have hc := h c (List.mem_cons_self ..)
    have hrest : ∀ d ∈ rest, d.isDigit = true := fun d hd => h d (List.mem_cons_of_mem _ hd)
    cases rest with
    | nil => exact hc
    | cons d rest =>
      have hd : d ≠ '_' := by
        intro heq
        have := hrest d (List.mem_cons_self ..)
        rw [heq] at this
        cases this
      rw [isDigitRun.eq_4 _ _ (by simp) (by intro _ _ hcons; exact hd (List.cons.inj hcons).1)]
      rw [hc, ih (by simp) hrest]
      rfl

theorem isDigit_bounds {c : Char} (h : c.isDigit = true) : 48 ≤ c.toNat ∧ c.toNat ≤ 57 := by
  simp only [Char.isDigit, ge_iff_le, Bool.and_eq_true, decide_eq_true_eq] at h
  exact ⟨UInt32.le_iff_toNat_le.mp h.1, UInt32.le_iff_toNat_le.mp h.2⟩

theorem isSpace_digit {c : Char} (h : c.isDigit = true) : isSpace c = false := by
  have hbounds := isDigit_bounds h
  simp only [isSpace, Bool.or_eq_false_iff, Bool.and_eq_false_iff, decide_eq_false_iff_not,
    beq_eq_false_iff_ne]
  omega

theorem dropWhile_digits {cs : List Char} (h : ∀ c ∈ cs, c.isDigit = true) :
    cs.dropWhile isSpace = cs := by
  cases cs with
  | nil => rfl
  | cons c rest =>
    rw [List.dropWhile_cons_of_neg]
    rw [isSpace_digit (h c (List.mem_cons_self ..))]
    simp

/-- A position is read back from its decimal digits. -/
theorem pyInt_toDigits (n : Nat) : pyInt (Nat.toDigits 10 n) = some (n : Int) := by
  have hdigits : ∀ c ∈ Nat.toDigits 10 n, c.isDigit = true := fun c hc =>
    Nat.isDigit_of_mem_toDigits (by decide) (by decide) hc
  have hstrip : (((Nat.toDigits 10 n).dropWhile isSpace).reverse.dropWhile isSpace).reverse =
      Nat.toDigits 10 n := by
    rw [dropWhile_digits hdigits, dropWhile_digits, List.reverse_reverse]
    intro c hc
    exact hdigits c (List.mem_reverse.mp hc)
  have hvalue : pyNat (Nat.toDigits 10 n) = some n := by
    have hfilter : (Nat.toDigits 10 n).filter (· ≠ '_') = Nat.toDigits 10 n := by
      apply List.filter_eq_self.mpr
      intro c hc
      rw [decide_eq_true_eq]
      intro heq
      rw [heq] at hc
      exact Nat.underscore_not_in_toDigits hc
    rw [pyNat, if_pos (isDigitRun_digits Nat.toDigits_ne_nil hdigits), hfilter,
      Nat.ofDigitChars_ten_toDigits]
  obtain ⟨c, tail, hhead, hdigit⟩ := Json.toDigits_head n
  rw [pyInt, hstrip, hhead]
  split
  · rename_i heq
    rw [(List.cons.inj heq).1] at hdigit
    cases hdigit
  · rename_i heq
    rw [(List.cons.inj heq).1] at hdigit
    cases hdigit
  · rw [← hhead, hvalue]
    rfl

section
variable {scope : ProjectionScope}

/-- The lineage of a prefix is read back. -/
theorem lineagePosition_streamLineage (position : Nat) (fingerprint : String) :
    lineagePosition scope (streamLineage scope position fingerprint) =
      some ((position : Int), true, fingerprint) := by
  have hdigits : ∀ c ∈ Nat.toDigits 10 position, decide (c ≠ '#') = true := by
    intro c hc
    have hbounds := isDigit_bounds (Nat.isDigit_of_mem_toDigits (by decide) (by decide) hc)
    rw [decide_eq_true_eq]
    intro heq
    rw [heq] at hbounds
    exact absurd hbounds.1 (by decide)
  have hlist : (streamLineage scope position fingerprint).toList =
      (scope.streamId ++ "@" ++ scope.streamVersion ++ "#position=").toList ++
        (Nat.toDigits 10 position ++ '#' :: fingerprint.toList) := by
    have htext : streamLineage scope position fingerprint =
        scope.streamId ++ "@" ++ scope.streamVersion ++ "#position=" ++
          (toString position ++ ("#" ++ fingerprint)) := by
      simp only [streamLineage, String.append_assoc]
      rfl
    have hhash : "#".toList = ['#'] := rfl
    have hposition : (toString position).toList = Nat.toDigits 10 position := by
      rw [Nat.toString_eq_ofList_toDigits, String.toList_ofList]
    simp only [htext, String.toList_append, hposition, hhash, List.singleton_append,
      List.append_assoc]
  obtain ⟨start, hstart⟩ : ∃ start,
      (scope.streamId ++ "@" ++ scope.streamVersion ++ "#position=").toList = start := ⟨_, rfl⟩
  have hleading : ∀ rest : List Char, start.isPrefixOf (start ++ rest) = true := by
    intro rest
    rw [List.isPrefixOf_iff_prefix]
    exact List.prefix_append ..
  have htake : (Nat.toDigits 10 position ++ '#' :: fingerprint.toList).takeWhile (· ≠ '#') =
      Nat.toDigits 10 position := by
    rw [List.takeWhile_append_of_pos hdigits]
    simp
  have hdrop : (Nat.toDigits 10 position ++ '#' :: fingerprint.toList).drop
      ((Nat.toDigits 10 position).length + 1) = fingerprint.toList := by
    rw [List.drop_append]
    simp
  have hlength : (Nat.toDigits 10 position).length <
      (Nat.toDigits 10 position ++ '#' :: fingerprint.toList).length := by
    rw [List.length_append, List.length_cons]
    omega
  simp only [lineagePosition, hlist, hstart, removePrefix, hleading, if_true, List.drop_left,
    htake, pyInt_toDigits, Option.map_some, Bool.true_and, hdrop, hlength, decide_true,
    String.ofList_toList]

/-! ### Source versions -/

/-- The dictionary has one entry under the key. -/
structure Entry (items : List (String × String)) (key value : String) : Prop where
  mem : (key, value) ∈ items
  only : ∀ item ∈ items, item.1 = key → item = (key, value)

theorem Entry.dictValue {items : List (String × String)} {key value : String}
    (h : Entry items key value) : dictValue items key = some value := by
  rw [Snapshot.dictValue, dictGet]
  cases hfound : items.reverse.find? (fun item => decide (item.1 = key)) with
  | none =>
    have hnone := List.find?_eq_none.mp hfound (key, value) (List.mem_reverse.mpr h.mem)
    exact absurd (decide_eq_true rfl) hnone
  | some item =>
    have hmem := List.mem_reverse.mp (List.mem_of_find?_eq_some hfound)
    have hkey : item.1 = key := by simpa using List.find?_some hfound
    rw [h.only item hmem hkey]
    rfl

theorem Entry.perm {items others : List (String × String)} {key value : String}
    (h : Entry items key value) (hperm : items.Perm others) : Entry others key value where
  mem := hperm.mem_iff.mp h.mem
  only := fun item hitem => h.only item (hperm.mem_iff.mpr hitem)

theorem Entry.set (items : List (String × String)) (key value : String) :
    Entry (dictSet items key value) key value where
  mem := by simp [dictSet]
  only := by
    intro item hitem hkey
    rw [dictSet, List.mem_append, List.mem_filter, List.mem_singleton] at hitem
    rcases hitem with ⟨-, hne⟩ | rfl
    · exact absurd hkey (by simpa using hne)
    · rfl

theorem Entry.keep {items : List (String × String)} {key value other otherValue : String}
    (h : Entry items key value) (hne : key ≠ other) :
    Entry (dictSet items other otherValue) key value where
  mem := by
    rw [dictSet, List.mem_append, List.mem_filter]
    exact .inl ⟨h.mem, by simpa using hne⟩
  only := by
    intro item hitem hkey
    rw [dictSet, List.mem_append, List.mem_filter, List.mem_singleton] at hitem
    rcases hitem with ⟨hmem, -⟩ | rfl
    · exact h.only item hmem hkey
    · exact absurd hkey hne.symm

/-- The lineage that a batch leaves in its document. -/
structure Lineage (scope : ProjectionScope) (baseHash : String) (position : Nat)
    (fingerprint : String) (versions : List (String × String)) : Prop where
  base : dictValue versions "plantnexus-previous-snapshot" = some baseHash
  authority : dictValue versions "plantnexus-execution-event-authority" = some scope.authorityId
  stream : dictValue versions "plantnexus-execution-event-prefix" =
    some (streamLineage scope position fingerprint)

theorem projectedVersions_lineage {baseHash fingerprint : String} {position : Nat}
    {versions others : List (String × String)}
    (hperm : (projectedVersions scope baseHash position fingerprint versions).Perm others) :
    Lineage scope baseHash position fingerprint others where
  base := (((Entry.set _ _ _).keep (by decide)).keep (by decide)).perm hperm |>.dictValue
  authority := ((Entry.set _ _ _).keep (by decide)).perm hperm |>.dictValue
  stream := (Entry.set _ _ _).perm hperm |>.dictValue

/-- The position of a snapshot with the lineage of a prefix. -/
theorem Lineage.position {baseHash : String} {position : Nat} {fingerprints : List String}
    {snapshot : ImmutablePlanningSnapshot}
    (h : Lineage scope baseHash position (eventStreamFingerprint (fingerprints.take position))
      snapshot.document.sourceVersions)
    (hpos : 1 ≤ position) (hle : position ≤ fingerprints.length) :
    snapshotStreamPosition scope snapshot fingerprints = .ok position := by
  simp only [snapshotStreamPosition, h.stream, h.authority, lineagePosition_streamLineage,
    bind_eq_ok, exists_unit_iff, require_eq_ok, Int.toNat_natCast, pure, Except.pure]
  exact ⟨⟨trivial, trivial, by omega, by omega, trivial⟩, trivial⟩

/-! ### Projected tails -/

/-- What is known of a projected tail. -/
structure TailProjected (scope : ProjectionScope) (base : ImmutablePlanningSnapshot)
    (fullPrefix : List Json) (afterPosition : Nat) (projected : ProjectedFactBatch)
    (snapshot : ImmutablePlanningSnapshot) (fingerprints : List String) : Prop where
  valid : validateEventPrefix scope fullPrefix = .ok fingerprints
  after : afterPosition < fullPrefix.length
  through : projected.throughPosition = fullPrefix.length
  fingerprint : projected.streamFingerprint = eventStreamFingerprint fingerprints
  lineage : Lineage scope base.document.snapshotHash fullPrefix.length
    (eventStreamFingerprint fingerprints) snapshot.document.sourceVersions
  verified : verifySnapshot snapshot = .ok ()

section
variable {Inputs : Type}
  {standardSnapshot : Inputs → String → Except ProjectionError ImmutablePlanningSnapshot}

theorem buildProjectedSnapshot_ok {projected : PlanningSnapshot}
    {snapshot : ImmutablePlanningSnapshot} (h : buildProjectedSnapshot projected = .ok snapshot) :
    snapshot.document.sourceVersions = sortByKey Prod.fst projected.sourceVersions ∧
      verifySnapshot snapshot = .ok () := by
  simp only [buildProjectedSnapshot, bind_eq_ok, exists_unit_iff, pure, Except.pure,
    Except.ok.injEq] at h
  obtain ⟨-, hverified, rfl⟩ := h
  exact ⟨rfl, hverified⟩

theorem projectTail_ok {base snapshot : ImmutablePlanningSnapshot}
    {imports : List (String × UrgentDemandImport Inputs)} {fullPrefix : List Json}
    {afterPosition : Nat} {projected : ProjectedFactBatch}
    (h : projectTail standardSnapshot scope base imports fullPrefix afterPosition =
      .ok (projected, snapshot)) :
    ∃ fingerprints, TailProjected scope base fullPrefix afterPosition projected snapshot
      fingerprints := by
  simp only [projectTail, bind_eq_ok, mapError_eq_ok, pure, Except.pure, Except.ok.injEq,
    Prod.mk.injEq] at h
  obtain ⟨urgent, -, batch, hbatch, built, hbuilt, rfl, rfl⟩ := h
  simp only [projectExecutionEventBatch, bind_eq_ok, exists_unit_iff, require_eq_ok, Prod.exists,
    pure, Except.pure, Except.ok.injEq] at hbatch
  obtain ⟨fingerprints, hvalid, hle, htail, -, hash, hhash, -, document, priorities, -, cutoff, -,
    occurred, -, rfl⟩ := hbatch
  obtain ⟨hversions, hverified⟩ := buildProjectedSnapshot_ok hbuilt
  have hsame := Json.str.inj (factText_ok hhash)
  refine ⟨fingerprints, hvalid, ?_, rfl, rfl, ?_, hverified⟩
  · by_contra hge
    exact htail (List.drop_eq_nil_of_le (by omega))
  · rw [hversions, hsame]
    exact projectedVersions_lineage (sortByKey_perm _ _).symm

end

end

end PlantNexus.Execution
