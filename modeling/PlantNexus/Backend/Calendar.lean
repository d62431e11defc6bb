import PlantNexus.Backend.Selection

/-! The calendar on ticks.

`calendarTickBlocks` returns when every unavailability lies on whole seconds of the horizon's
clock. Its blocks are sorted, apart and within the horizon, and a processing interval on the tick
grid meets one of them exactly when its UTC interval meets a raw unavailability
(`calendarTickBlocks_exact`): rounding a start down and an end up to the grid moves no instant
across a tick boundary. -/
namespace PlantNexus.Backend
open Data Time Domain Problem

/-! ### Spans -/

/-- The half-open spans have a point in common. -/
def Meets (a b c d : Int) : Prop := ∃ x, a ≤ x ∧ x < b ∧ c ≤ x ∧ x < d

theorem meets_iff {a b c d : Int} : Meets a b c d ↔ a < b ∧ c < d ∧ a < d ∧ c < b := by
  constructor
  · rintro ⟨x, hax, hxb, hcx, hxd⟩
    omega
  · rintro ⟨hab, hcd, had, hcb⟩
    exact ⟨max a c, by omega⟩

/-- A span meets a merged block exactly when it meets a given one. -/
theorem meets_mergeBlocks (blocks : List Block) (a b : Int) :
    (∃ c ∈ mergeBlocks blocks, Meets a b c.1 c.2) ↔ ∃ c ∈ blocks, Meets a b c.1 c.2 := by
  have hcovers : ∀ bs : List Block, (∃ c ∈ bs, Meets a b c.1 c.2) ↔
      ∃ x, (a ≤ x ∧ x < b) ∧ ∃ c ∈ bs, Block.Covers c x := by
    intro bs
    constructor
    · rintro ⟨c, hc, x, hax, hxb, hcov⟩
      exact ⟨x, ⟨hax, hxb⟩, c, hc, hcov⟩
    · rintro ⟨x, ⟨hax, hxb⟩, c, hc, hcov⟩
      exact ⟨c, hc, x, hax, hxb, hcov⟩
  rw [hcovers, hcovers]
  refine exists_congr fun x => and_congr_right fun _ => ?_
  exact mem_mergeBlocks blocks x

/-! ### Seconds of the horizon's clock -/

/-- An unavailability between two instants. -/
structure Between (interval : UnavailableInterval) (opens closes : Datetime) : Prop where
  opens_eq : parseUtcInstant interval.startUtc = .ok opens
  closes_eq : parseUtcInstant interval.endUtc = .ok closes
  lt : opens < closes

theorem Between.unique {interval : UnavailableInterval} {opens closes opens' closes' : Datetime}
    (h : Between interval opens closes) (h' : Between interval opens' closes') :
    opens = opens' ∧ closes = closes' :=
  ⟨Except.ok.inj (h.opens_eq.symm.trans h'.opens_eq),
    Except.ok.inj (h.closes_eq.symm.trans h'.closes_eq)⟩

/-- What the problem contract says about the horizon's clock and the unavailabilities: a
positive tick, and nonempty intervals of declared resources. -/
structure Timeline (problem : PlanningProblem) (origin : Datetime) : Prop where
  tick_pos : 0 < problem.tickSeconds
  origin_eq : parseUtcInstant problem.horizonStartUtc = .ok origin
  declared : ∀ interval ∈ problem.resourceUnavailableIntervals,
    interval.resourceId ∈ problem.resources.map Resource.resourceId
  between : ∀ interval ∈ problem.resourceUnavailableIntervals,
    ∃ opens closes, Between interval opens closes

/-- The instant is a whole number of seconds from the origin. -/
def OnSeconds (origin instant : Datetime) : Prop := microsPerSecond ∣ instant.sub origin

/-- The instant of a tick. -/
def gridMicros (problem : PlanningProblem) (origin : Datetime) (tick : Int) : Int :=
  origin.micros + tick * problem.tickSeconds * microsPerSecond

section
variable {problem : PlanningProblem} {origin : Datetime} (h : Timeline problem origin)
include h

theorem relativeSeconds_eq {value : String} {instant : Datetime}
    (hvalue : parseUtcInstant value = .ok instant) :
    relativeSeconds value problem.horizonStartUtc =
      if instant.sub origin % 1000000 ≠ 0 then
        .error (.value "Temporal instants must use exact whole-second precision")
      else .ok (instant.sub origin / 1000000) := by
  unfold relativeSeconds
  rw [(instantAt_eq_ok _ _).mpr hvalue, (instantAt_eq_ok _ _).mpr h.origin_eq]
  rfl

theorem relativeSeconds_iff {value : String} {instant : Datetime} {seconds : Int}
    (hvalue : parseUtcInstant value = .ok instant) :
    relativeSeconds value problem.horizonStartUtc = .ok seconds ↔
      instant.micros = origin.micros + seconds * microsPerSecond := by
  rw [relativeSeconds_eq h hvalue, microsPerSecond]
  unfold Datetime.sub
  constructor
  · intro hok
    split_ifs at hok with hwhole
    have heq := Except.ok.inj hok
    omega
  · intro heq
    rw [if_neg (by omega)]
    congr 1
    omega

theorem relativeSeconds_isOk {value : String} {instant : Datetime}
    (hvalue : parseUtcInstant value = .ok instant) :
    (∃ seconds, relativeSeconds value problem.horizonStartUtc = .ok seconds) ↔
      OnSeconds origin instant := by
  simp only [relativeSeconds_iff h hvalue]
  unfold OnSeconds Datetime.sub
  constructor
  · rintro ⟨seconds, heq⟩
    exact ⟨seconds, by rw [heq]; ring⟩
  · rintro ⟨seconds, heq⟩
    exact ⟨seconds, by rw [mul_comm]; omega⟩

/-! ### One unavailability -/

/-- A block on the ticks and the unavailability that it stands for meet the same processing. -/
theorem clippedBlock_meets {horizonTicks from' to' : Int} {opens closes : Datetime}
    (hopens : opens.micros = origin.micros + from' * microsPerSecond)
    (hcloses : closes.micros = origin.micros + to' * microsPerSecond) (hlt : opens < closes)
    {first last : Int} (hfirst : 0 ≤ first) (hlast : last ≤ horizonTicks) :
    Meets first last (clippedBlock problem.tickSeconds horizonTicks from' to').1
        (clippedBlock problem.tickSeconds horizonTicks from' to').2 ↔
      Meets (gridMicros problem origin first) (gridMicros problem origin last)
        opens.micros closes.micros := by
  have htick := h.tick_pos
  replace hlt : opens.micros < closes.micros := hlt
  have hfrom := ceilSecondsToTicks_le_iff to' problem.tickSeconds first htick
  have hto := le_floorSecondsToTicks_iff from' problem.tickSeconds last htick
  have horder : first * problem.tickSeconds < last * problem.tickSeconds ↔ first < last :=
    ⟨fun hmul => lt_of_mul_lt_mul_right hmul htick.le,
      fun hless => mul_lt_mul_of_pos_right hless htick⟩
  -- a nonempty unavailability touches a tick, so its block before clipping is not empty
  have hcovers : floorSecondsToTicks from' problem.tickSeconds <
      ceilSecondsToTicks to' problem.tickSeconds := by
    by_contra hge
    have hle := (ceilSecondsToTicks_le_iff to' _ _ htick).mp (not_lt.mp hge)
    have hle' := (le_floorSecondsToTicks_iff from' problem.tickSeconds _ htick).mp le_rfl
    rw [hopens, hcloses, microsPerSecond] at hlt
    omega
  rw [meets_iff, meets_iff]
  unfold clippedBlock gridMicros
  dsimp only
  rw [hopens, hcloses, microsPerSecond] at hlt ⊢
  generalize first * problem.tickSeconds = a at *
  generalize last * problem.tickSeconds = b at *
  omega

theorem calendarBlock_iff {horizonTicks : Int} {interval : UnavailableInterval}
    (hm : interval ∈ problem.resourceUnavailableIntervals) {block : String × Block} :
    calendarBlock problem horizonTicks interval = .ok block ↔
      ∃ s e, relativeSeconds interval.startUtc problem.horizonStartUtc = .ok s ∧
        relativeSeconds interval.endUtc problem.horizonStartUtc = .ok e ∧
        block = (interval.resourceId, clippedBlock problem.tickSeconds horizonTicks s e) := by
  have hdeclared : ∀ s e : Int,
      ¬((clippedBlock problem.tickSeconds horizonTicks s e).1 <
          (clippedBlock problem.tickSeconds horizonTicks s e).2 ∧
        interval.resourceId ∉ problem.resources.map Resource.resourceId) :=
    fun s e hmissing => hmissing.2 (h.declared interval hm)
  constructor
  · intro hok
    obtain ⟨s, hs, hok⟩ := bind_eq_ok.mp hok
    obtain ⟨e, he, hok⟩ := bind_eq_ok.mp hok
    dsimp only at hok
    rw [if_neg (hdeclared s e)] at hok
    exact ⟨s, e, hs, he, (Except.ok.inj hok).symm⟩
  · rintro ⟨s, e, hs, he, rfl⟩
    exact bind_eq_ok.mpr ⟨s, hs, bind_eq_ok.mpr ⟨e, he, if_neg (hdeclared s e)⟩⟩

/-! ### All of them -/

/-- The unavailabilities lie on whole seconds of the horizon's clock. -/
def WholeSeconds (problem : PlanningProblem) (origin : Datetime) : Prop :=
  ∀ interval ∈ problem.resourceUnavailableIntervals, ∀ opens closes,
    Between interval opens closes → OnSeconds origin opens ∧ OnSeconds origin closes

/-- What the blocks of a resource say about its calendar. -/
structure ExactBlocks (problem : PlanningProblem) (origin : Datetime) (horizonTicks : Int)
    (resourceId : String) (blocks : List Block) : Prop where
  nonempty : ∀ c ∈ blocks, c.1 < c.2
  within : ∀ c ∈ blocks, 0 ≤ c.1 ∧ c.2 ≤ horizonTicks
  /-- Sorted, and with a gap between any two. -/
  apart : blocks.Pairwise fun c d => c.2 < d.1
  meets : ∀ first last, 0 ≤ first → last ≤ horizonTicks →
    ((∃ c ∈ blocks, Meets first last c.1 c.2) ↔
      ∃ interval ∈ problem.resourceUnavailableIntervals, interval.resourceId = resourceId ∧
        ∃ opens closes, Between interval opens closes ∧
          Meets (gridMicros problem origin first) (gridMicros problem origin last)
            opens.micros closes.micros)

theorem calendarTickBlocks_isOk (horizonTicks : Int) :
    (∃ blocks, calendarTickBlocks problem horizonTicks = .ok blocks) ↔
      WholeSeconds problem origin := by
  have hall : (∃ blocks, calendarTickBlocks problem horizonTicks = .ok blocks) ↔
      ∃ projected, collect (calendarBlock problem horizonTicks)
        problem.resourceUnavailableIntervals = .ok projected := by
    constructor
    · rintro ⟨blocks, hblocks⟩
      obtain ⟨projected, hprojected, -⟩ := bind_eq_ok.mp hblocks
      exact ⟨projected, hprojected⟩
    · rintro ⟨projected, hprojected⟩
      exact ⟨_, bind_eq_ok.mpr ⟨projected, hprojected, rfl⟩⟩
  rw [hall, collect_isOk]
  refine forall₂_congr fun interval hm => ?_
  obtain ⟨opens, closes, hbetween⟩ := h.between interval hm
  have hopens := relativeSeconds_isOk h hbetween.opens_eq
  have hcloses := relativeSeconds_isOk h hbetween.closes_eq
  constructor
  · rintro ⟨block, hblock⟩ opens' closes' hbetween'
    obtain ⟨rfl, rfl⟩ := hbetween.unique hbetween'
    obtain ⟨s, e, hs, he, -⟩ := (calendarBlock_iff h hm).mp hblock
    exact ⟨hopens.mp ⟨s, hs⟩, hcloses.mp ⟨e, he⟩⟩
  · intro hwhole
    obtain ⟨honOpens, honCloses⟩ := hwhole opens closes hbetween
    obtain ⟨s, hs⟩ := hopens.mpr honOpens
    obtain ⟨e, he⟩ := hcloses.mpr honCloses
    exact ⟨_, (calendarBlock_iff h hm).mpr ⟨s, e, hs, he, rfl⟩⟩

theorem calendarTickBlocks_blocks {horizonTicks : Int} {blocks : List (String × List Block)}
    (hok : calendarTickBlocks problem horizonTicks = .ok blocks) :
    blocks.map Prod.fst = sortByKey id (problem.resources.map Resource.resourceId).dedup ∧
      ∀ b ∈ blocks, ExactBlocks problem origin horizonTicks b.1 b.2 := by
  obtain ⟨projected, hprojected, hok⟩ := bind_eq_ok.mp hok
  rw [← Except.ok.inj hok]
  refine ⟨by rw [List.map_map]; exact List.map_id _, fun b hb => ?_⟩
  obtain ⟨resource, -, rfl⟩ := List.mem_map.mp hb
  dsimp only
  -- the blocks that are merged, each with the unavailability it comes from
  have hgiven : ∀ c, c ∈ (projected.filter fun b => b.1 = resource ∧ b.2.1 < b.2.2).map Prod.snd ↔
      c.1 < c.2 ∧ ∃ interval ∈ problem.resourceUnavailableIntervals,
        interval.resourceId = resource ∧
        ∃ s e, relativeSeconds interval.startUtc problem.horizonStartUtc = .ok s ∧
          relativeSeconds interval.endUtc problem.horizonStartUtc = .ok e ∧
          c = clippedBlock problem.tickSeconds horizonTicks s e := by
    intro c
    simp only [List.mem_map, List.mem_filter, decide_eq_true_eq]
    constructor
    · rintro ⟨block, ⟨hmem, hres, hne⟩, rfl⟩
      obtain ⟨interval, hm, hblock⟩ := (mem_collect hprojected _).mp hmem
      obtain ⟨s, e, hs, he, rfl⟩ := (calendarBlock_iff h hm).mp hblock
      exact ⟨hne, interval, hm, hres, s, e, hs, he, rfl⟩
    · rintro ⟨hne, interval, hm, hres, s, e, hs, he, rfl⟩
      refine ⟨(interval.resourceId, _), ⟨?_, hres, hne⟩, rfl⟩
      exact (mem_collect hprojected _).mpr
        ⟨interval, hm, (calendarBlock_iff h hm).mpr ⟨s, e, hs, he, rfl⟩⟩
  refine ⟨mergeBlocks_nonempty _, mergeBlocks_within ?_, mergeBlocks_separated _, ?_⟩
  · intro c hc
    obtain ⟨-, interval, -, -, s, e, -, -, rfl⟩ := (hgiven c).mp hc
    exact ⟨le_max_left _ _, min_le_left _ _⟩
  intro first last hfirst hlast
  rw [meets_mergeBlocks]
  constructor
  · rintro ⟨c, hc, hmeets⟩
    obtain ⟨-, interval, hm, hres, s, e, hs, he, rfl⟩ := (hgiven c).mp hc
    obtain ⟨opens, closes, hbetween⟩ := h.between interval hm
    refine ⟨interval, hm, hres, opens, closes, hbetween, ?_⟩
    exact (clippedBlock_meets h ((relativeSeconds_iff h hbetween.opens_eq).mp hs)
      ((relativeSeconds_iff h hbetween.closes_eq).mp he) hbetween.lt hfirst hlast).mp hmeets
  · rintro ⟨interval, hm, hres, opens, closes, hbetween, hmeets⟩
    obtain ⟨_, hblock⟩ := (collect_isOk _ _).mp ⟨projected, hprojected⟩ interval hm
    obtain ⟨s, e, hs, he, -⟩ := (calendarBlock_iff h hm).mp hblock
    have hmeets' := (clippedBlock_meets h ((relativeSeconds_iff h hbetween.opens_eq).mp hs)
      ((relativeSeconds_iff h hbetween.closes_eq).mp he) hbetween.lt hfirst hlast).mpr hmeets
    obtain ⟨-, hne, -, -⟩ := meets_iff.mp hmeets'
    exact ⟨_, (hgiven _).mpr ⟨hne, interval, hm, hres, s, e, hs, he, rfl⟩, hmeets'⟩

/-- **The blocks forbid exactly the grid-aligned processing that the calendar forbids.** They are
returned when the unavailabilities lie on whole seconds, and an error otherwise. -/
theorem calendarTickBlocks_exact (horizonTicks : Int) :
    ((∃ blocks, calendarTickBlocks problem horizonTicks = .ok blocks) ↔
      WholeSeconds problem origin) ∧
    ∀ blocks, calendarTickBlocks problem horizonTicks = .ok blocks →
      blocks.map Prod.fst = sortByKey id (problem.resources.map Resource.resourceId).dedup ∧
        ∀ b ∈ blocks, ExactBlocks problem origin horizonTicks b.1 b.2 :=
  ⟨calendarTickBlocks_isOk h horizonTicks, fun _ hok => calendarTickBlocks_blocks h hok⟩

end

/-! ### Unavailabilities off the grid and off the seconds -/

def down (startUtc endUtc : String) : UnavailableInterval := ⟨"CAL1", "R1", startUtc, endUtc⟩

/-- Four hours in ticks of one minute, with one resource down for a while. -/
def downProblem (startUtc endUtc : String) : PlanningProblem :=
  { plainProblem with resourceUnavailableIntervals := [down startUtc endUtc] }

/-- Midnight, and some milliseconds later. -/
def millisAfter (millis : Nat) (h : millis < 86400000) : Datetime where
  micros := 63902822400000000 + millis * 1000
  nonneg := by omega
  lt := by
    unfold microsLimit maxOrdinal
    omega

theorem downProblem_timeline {startUtc endUtc : String} {opens closes : Datetime}
    (h : Between (down startUtc endUtc) opens closes) :
    Timeline (downProblem startUtc endUtc) (millisAfter 0 (by decide)) where
  tick_pos := show (0 : Int) < 60 by decide
  origin_eq := show parseUtcInstant "2026-01-01T00:00:00Z" = _ by decide +kernel
  declared := by
    intro interval hm
    rw [List.mem_singleton.mp hm]
    exact List.mem_singleton_self _
  between := by
    intro interval hm
    rw [List.mem_singleton.mp hm]
    exact ⟨opens, closes, h⟩

theorem halfMinutes_between : Between (down "2026-01-01T00:00:30Z" "2026-01-01T00:01:30Z")
    (millisAfter 30000 (by decide)) (millisAfter 90000 (by decide)) where
  opens_eq := by decide +kernel
  closes_eq := by decide +kernel
  lt := by decide

/-- Down from half a minute to one and a half. -/
theorem calendarTickBlocks_exact_halfMinutes :
    Timeline (downProblem "2026-01-01T00:00:30Z" "2026-01-01T00:01:30Z")
        (millisAfter 0 (by decide)) ∧
      ∃ blocks, calendarTickBlocks
          (downProblem "2026-01-01T00:00:30Z" "2026-01-01T00:01:30Z") 240 = .ok blocks ∧
        ∀ b ∈ blocks, ExactBlocks (downProblem "2026-01-01T00:00:30Z" "2026-01-01T00:01:30Z")
          (millisAfter 0 (by decide)) 240 b.1 b.2 := by
  have htimeline := downProblem_timeline halfMinutes_between
  obtain ⟨hisOk, hexact⟩ := calendarTickBlocks_exact htimeline 240
  have hwhole : WholeSeconds (downProblem "2026-01-01T00:00:30Z" "2026-01-01T00:01:30Z")
      (millisAfter 0 (by decide)) := by
    intro interval hm opens closes hbetween
    rw [List.mem_singleton.mp hm] at hbetween
    obtain ⟨rfl, rfl⟩ := hbetween.unique halfMinutes_between
    exact ⟨⟨30, by decide⟩, ⟨90, by decide⟩⟩
  obtain ⟨blocks, hblocks⟩ := hisOk.mpr hwhole
  exact ⟨htimeline, blocks, hblocks, (hexact blocks hblocks).2⟩

theorem halfSecond_between : Between (down "2026-01-01T00:00:00.500Z" "2026-01-01T00:01:00Z")
    (millisAfter 500 (by decide)) (millisAfter 60000 (by decide)) where
  opens_eq := by decide +kernel
  closes_eq := by decide +kernel
  lt := by decide

/-- An unavailability from half a second past midnight leaves no calendar at all. -/
theorem calendarTickBlocks_rejects_halfSecond :
    Timeline (downProblem "2026-01-01T00:00:00.500Z" "2026-01-01T00:01:00Z")
        (millisAfter 0 (by decide)) ∧
      ¬ ∃ blocks, calendarTickBlocks
          (downProblem "2026-01-01T00:00:00.500Z" "2026-01-01T00:01:00Z") 240 = .ok blocks := by
  have htimeline := downProblem_timeline halfSecond_between
  refine ⟨htimeline, ?_⟩
  rw [calendarTickBlocks_isOk htimeline]
  intro hwhole
  obtain ⟨hopens, -⟩ := hwhole _ (List.mem_singleton_self _) _ _ halfSecond_between
  have hremainder := Int.emod_eq_zero_of_dvd hopens
  revert hremainder
  decide

end PlantNexus.Backend
