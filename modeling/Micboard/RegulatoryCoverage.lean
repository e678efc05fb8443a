import Mathlib.Data.Rat.Cast.Order
import Mathlib.Data.Real.Basic
import Micboard.DeviceImport
import Micboard.LibraryInterval

/-! Whether the regulatory data of its location cover the band plan of a chassis. The range of the
domain is compared as a whole; of the frequency bands only the first start and the last end are, so
that a gap between two bands is not seen. -/

namespace Micboard

open Library

inductive BandType where
  | allowed | restricted | forbidden | guard
  deriving DecidableEq, Repr

/-- Regulatory body or region governing RF spectrum usage, with its global bounds. -/
structure RegulatoryDomain where
  pk : Nat
  countryCode : String
  minFrequencyMhz : ℚ
  maxFrequencyMhz : ℚ
  deriving DecidableEq

/-- Specific frequency band within a regulatory domain. -/
structure FrequencyBand where
  regulatoryDomain : Nat
  startFrequencyMhz : ℚ
  endFrequencyMhz : ℚ
  bandType : BandType

/-- The regulatory tables, the domains in the order of their codes. -/
structure RegulatoryTables where
  domains : List RegulatoryDomain
  bands : List FrequencyBand

structure RegulatoryBuilding where
  regulatoryDomain : Option RegulatoryDomain
  country : String

structure RegulatoryLocation where
  building : Option RegulatoryBuilding

/-- What the coverage check reads of a chassis. -/
structure PlannedChassis where
  bandPlanMinMhz : Option ℚ
  bandPlanMaxMhz : Option ℚ
  location : Option RegulatoryLocation

section Coverage

variable (tables : RegulatoryTables) (chassis : PlannedChassis)

/-- Get the applicable regulatory domain for a geographic location. -/
def getRegulatoryDomainForLocation : Option RegulatoryLocation → Option RegulatoryDomain
  | none => none
  | some location =>
    match location.building with
    | none => none
    | some building =>
      match building.regulatoryDomain with
      | some domain => some domain
      | none =>
        if building.country = "" then none
        else tables.domains.find? fun domain => domain.countryCode = upperText building.country

/-- Return whether both chassis band-plan bounds form an ordered range. -/
def getBandPlanStatus : Bool :=
  match chassis.bandPlanMinMhz, chassis.bandPlanMaxMhz with
  | some bandMin, some bandMax => bandMax > bandMin
  | _, _ => false

/-- The bands of a domain that overlap a range, without the forbidden ones. -/
def overlappingBands (domain : RegulatoryDomain) (bandMin bandMax : ℚ) : List FrequencyBand :=
  (tables.bands.filter fun band => band.regulatoryDomain = domain.pk ∧
    band.startFrequencyMhz < bandMax ∧ band.endFrequencyMhz > bandMin).filter
    fun band => band.bandType ≠ .forbidden

/-- The first start and the last end of the bands contain the range. -/
def extentCovers (bands : List FrequencyBand) (bandMin bandMax : ℚ) : Bool :=
  match (bands.map FrequencyBand.startFrequencyMhz).min?,
    (bands.map FrequencyBand.endFrequencyMhz).max? with
  | some coveredMin, some coveredMax => coveredMin ≤ bandMin ∧ coveredMax ≥ bandMax
  | _, _ => false

/-- Check if chassis's band plan has regulatory coverage. -/
def hasBandPlanRegulatoryCoverage : Bool :=
  if !getBandPlanStatus chassis then false
  else
    match getRegulatoryDomainForLocation tables chassis.location with
    | none => false
    | some domain =>
      match chassis.bandPlanMinMhz, chassis.bandPlanMaxMhz with
      | some bandMin, some bandMax =>
        if domain.minFrequencyMhz ≤ bandMin ∧ domain.maxFrequencyMhz ≥ bandMax then true
        else
          let overlapping := overlappingBands tables domain bandMin bandMax
          if overlapping.isEmpty then false else extentCovers overlapping bandMin bandMax
      | _, _ => false

/-! ### Soundness -/

/-- The chassis has an ordered range of frequencies, and its location a domain. -/
structure PlannedIn (domain : RegulatoryDomain) (bandMin bandMax : ℚ) : Prop where
  bandPlanMin : chassis.bandPlanMinMhz = some bandMin
  bandPlanMax : chassis.bandPlanMaxMhz = some bandMax
  ordered : bandMin < bandMax
  resolves : getRegulatoryDomainForLocation tables chassis.location = some domain

/-- A frequency lies in the range of the domain or in a band of it that is not forbidden. -/
def RegulatorilyCovered (domain : RegulatoryDomain) (frequency : ℝ) : Prop :=
  (domain.minFrequencyMhz ≤ frequency ∧ frequency ≤ domain.maxFrequencyMhz) ∨
    ∃ band ∈ tables.bands, band.regulatoryDomain = domain.pk ∧ band.bandType ≠ .forbidden ∧
      band.startFrequencyMhz ≤ frequency ∧ frequency ≤ band.endFrequencyMhz

/-- A positive answer is right for every frequency of the range. -/
def CoverageSound : Prop :=
  hasBandPlanRegulatoryCoverage tables chassis = true →
    ∀ domain bandMin bandMax, PlannedIn tables chassis domain bandMin bandMax →
      ∀ frequency : ℝ, bandMin ≤ frequency → frequency ≤ bandMax →
        RegulatorilyCovered tables domain frequency

/-- The range of a domain, and its bands that are not forbidden. -/
def regulatedSpans (domain : RegulatoryDomain) : List (Span ℚ) :=
  ⟨domain.minFrequencyMhz, domain.maxFrequencyMhz⟩ ::
    ((tables.bands.filter fun band =>
      band.regulatoryDomain = domain.pk ∧ band.bandType ≠ .forbidden).map
      fun band => ⟨band.startFrequencyMhz, band.endFrequencyMhz⟩)

/-- The overlapping bands reach both ends of the range. -/
def BandsReach (domain : RegulatoryDomain) (bandMin bandMax : ℚ) : Prop :=
  (∃ band ∈ overlappingBands tables domain bandMin bandMax, band.startFrequencyMhz ≤ bandMin) ∧
    ∃ band ∈ overlappingBands tables domain bandMin bandMax, bandMax ≤ band.endFrequencyMhz

/-- Where a band or the range of the domain ends within the band plan, another one goes on. -/
def LeavesNoGap (domain : RegulatoryDomain) (bandMin bandMax : ℚ) : Prop :=
  ∀ span ∈ regulatedSpans tables domain, bandMin ≤ span.stop → span.stop < bandMax →
    Span.Continues (regulatedSpans tables domain) span.stop

end Coverage

section Soundness

variable {tables : RegulatoryTables} {chassis : PlannedChassis} {domain : RegulatoryDomain}
  {bandMin bandMax : ℚ} {bands : List FrequencyBand}

theorem extentCovers_iff : extentCovers bands bandMin bandMax = true ↔
    (∃ band ∈ bands, band.startFrequencyMhz ≤ bandMin) ∧
      ∃ band ∈ bands, bandMax ≤ band.endFrequencyMhz := by
  unfold extentCovers
  cases hmin : (bands.map FrequencyBand.startFrequencyMhz).min? with
  | none =>
      rw [List.min?_eq_none_iff, List.map_eq_nil_iff] at hmin
      simp [hmin]
  | some coveredMin =>
      cases hmax : (bands.map FrequencyBand.endFrequencyMhz).max? with
      | none =>
          rw [List.max?_eq_none_iff, List.map_eq_nil_iff] at hmax
          simp [hmax] at hmin
      | some coveredMax =>
          obtain ⟨hminMem, hminLe⟩ := List.min?_eq_some_iff.mp hmin
          obtain ⟨hmaxMem, hleMax⟩ := List.max?_eq_some_iff.mp hmax
          obtain ⟨first, hfirst, rfl⟩ := List.mem_map.mp hminMem
          obtain ⟨last, hlast, rfl⟩ := List.mem_map.mp hmaxMem
          simp only [decide_eq_true_eq, ge_iff_le]
          constructor
          · rintro ⟨hstart, hstop⟩
            exact ⟨⟨first, hfirst, hstart⟩, last, hlast, hstop⟩
          · rintro ⟨⟨band, hband, hstart⟩, other, hother, hstop⟩
            exact ⟨(hminLe _ (List.mem_map_of_mem hband)).trans hstart,
              hstop.trans (hleMax _ (List.mem_map_of_mem hother))⟩

theorem hasBandPlanRegulatoryCoverage_iff (h : PlannedIn tables chassis domain bandMin bandMax) :
    hasBandPlanRegulatoryCoverage tables chassis = true ↔
      (domain.minFrequencyMhz ≤ bandMin ∧ bandMax ≤ domain.maxFrequencyMhz) ∨
        BandsReach tables domain bandMin bandMax := by
  have hstatus : getBandPlanStatus chassis = true := by
    rw [getBandPlanStatus, h.bandPlanMin, h.bandPlanMax]
    exact decide_eq_true h.ordered
  unfold hasBandPlanRegulatoryCoverage
  rw [hstatus, h.resolves, h.bandPlanMin, h.bandPlanMax]
  simp only [Bool.not_true, Bool.false_eq_true, if_false, ge_iff_le]
  by_cases hdomain : domain.minFrequencyMhz ≤ bandMin ∧ bandMax ≤ domain.maxFrequencyMhz
  · simp [hdomain]
  · simp only [hdomain, if_false, false_or]
    by_cases hempty : (overlappingBands tables domain bandMin bandMax).isEmpty = true
    · rw [if_pos hempty]
      rw [List.isEmpty_iff] at hempty
      simp [BandsReach, hempty]
    · rw [if_neg hempty, extentCovers_iff]
      exact Iff.rfl

theorem mem_overlappingBands {band : FrequencyBand} :
    band ∈ overlappingBands tables domain bandMin bandMax ↔ band ∈ tables.bands ∧
      band.regulatoryDomain = domain.pk ∧ band.bandType ≠ .forbidden ∧
        band.startFrequencyMhz < bandMax ∧ bandMin < band.endFrequencyMhz := by
  simp only [overlappingBands, List.mem_filter, decide_eq_true_eq, gt_iff_lt]
  tauto

theorem mem_regulatedSpans {span : Span ℚ} :
    span ∈ regulatedSpans tables domain ↔ span = ⟨domain.minFrequencyMhz, domain.maxFrequencyMhz⟩ ∨
      ∃ band ∈ tables.bands, band.regulatoryDomain = domain.pk ∧ band.bandType ≠ .forbidden ∧
        span = ⟨band.startFrequencyMhz, band.endFrequencyMhz⟩ := by
  simp only [regulatedSpans, List.mem_cons, List.mem_map, List.mem_filter, decide_eq_true_eq, and_assoc]
  simp only [@eq_comm _ _ span]

/-- The embedding of the stored frequencies into all frequencies. -/
noncomputable def frequencyEmbedding : ℚ ↪o ℝ := Rat.castOrderEmbedding

theorem regulatorilyCovered_iff {frequency : ℝ} : RegulatorilyCovered tables domain frequency ↔
    Span.Covered ((regulatedSpans tables domain).map (Span.map frequencyEmbedding)) frequency := by
  constructor
  · rintro (⟨hstart, hstop⟩ | ⟨band, hband, hdomain, htype, hstart, hstop⟩)
    · exact ⟨_, List.mem_map_of_mem (mem_regulatedSpans.mpr (.inl rfl)), hstart, hstop⟩
    · exact ⟨_, List.mem_map_of_mem (mem_regulatedSpans.mpr (.inr ⟨band, hband, hdomain, htype, rfl⟩)),
        hstart, hstop⟩
  · rintro ⟨_, hmapped, hstart, hstop⟩
    obtain ⟨span, hspan, rfl⟩ := List.mem_map.mp hmapped
    rcases mem_regulatedSpans.mp hspan with rfl | ⟨band, hband, hdomain, htype, rfl⟩
    · exact .inl ⟨hstart, hstop⟩
    · exact .inr ⟨band, hband, hdomain, htype, hstart, hstop⟩

/-- The whole range is covered exactly when its start is and no gap follows. -/
theorem range_covered_iff (hordered : bandMin < bandMax) :
    (∀ frequency : ℝ, bandMin ≤ frequency → frequency ≤ bandMax →
        RegulatorilyCovered tables domain frequency) ↔
      Span.Covered (regulatedSpans tables domain) bandMin ∧
        LeavesNoGap tables domain bandMin bandMax := by
  have hcast : ∀ value : ℚ, ((value : ℚ) : ℝ) = frequencyEmbedding value := fun _ => rfl
  simp only [regulatorilyCovered_iff, hcast]
  rw [Span.covered_iff (frequencyEmbedding.monotone hordered.le), Span.covered_map]
  simp only [List.forall_mem_map, Span.map, frequencyEmbedding.le_iff_le, frequencyEmbedding.lt_iff_lt,
    Span.continues_map]
  exact Iff.rfl

theorem leavesNoGap_of_domain
    (h : domain.minFrequencyMhz ≤ bandMin ∧ bandMax ≤ domain.maxFrequencyMhz) :
    LeavesNoGap tables domain bandMin bandMax := by
  intro span _ hafter hbefore
  exact ⟨_, mem_regulatedSpans.mpr (.inl rfl), h.1.trans hafter, hbefore.trans_le h.2⟩

/-- **A positive answer is right exactly when the bands do not reach both ends of the range with a gap
between them.** -/
theorem coverage_sound_iff : CoverageSound tables chassis ↔
    ∀ domain bandMin bandMax, PlannedIn tables chassis domain bandMin bandMax →
      BandsReach tables domain bandMin bandMax → LeavesNoGap tables domain bandMin bandMax := by
  constructor
  · intro h domain bandMin bandMax hplanned hreach
    have hcovered := h ((hasBandPlanRegulatoryCoverage_iff hplanned).mpr (.inr hreach)) domain bandMin
      bandMax hplanned
    exact ((range_covered_iff hplanned.ordered).mp hcovered).2
  · intro h hanswer domain bandMin bandMax hplanned
    rw [range_covered_iff hplanned.ordered]
    rcases (hasBandPlanRegulatoryCoverage_iff hplanned).mp hanswer with hdomain | hreach
    · exact ⟨⟨_, mem_regulatedSpans.mpr (.inl rfl), hdomain.1, hplanned.ordered.le.trans hdomain.2⟩,
        leavesNoGap_of_domain hdomain⟩
    · refine ⟨?_, h domain bandMin bandMax hplanned hreach⟩
      obtain ⟨band, hband, hstart⟩ := hreach.1
      obtain ⟨hmem, hdomain, htype, -, hstop⟩ := mem_overlappingBands.mp hband
      exact ⟨_, mem_regulatedSpans.mpr (.inr ⟨band, hmem, hdomain, htype, rfl⟩), hstart, hstop.le⟩

end Soundness

/-- A domain without a range of its own, and two bands with a gap between them. -/
def splitTables : RegulatoryTables where
  domains := [⟨1, "US", 470, 470⟩]
  bands := [⟨1, 470, 500, .allowed⟩, ⟨1, 550, 608, .allowed⟩]

def splitChassis : PlannedChassis where
  bandPlanMinMhz := some 470
  bandPlanMaxMhz := some 600
  location := some ⟨some ⟨none, "us"⟩⟩

/-- The frequencies between the bands are taken for covered. -/
theorem gap_taken_for_covered : ¬ ∀ tables chassis, CoverageSound tables chassis := by
  intro hclaim
  have hplanned : PlannedIn splitTables splitChassis ⟨1, "US", 470, 470⟩ 470 600 :=
    ⟨rfl, rfl, by norm_num, by decide +kernel⟩
  have hcovered := hclaim splitTables splitChassis (by decide +kernel) _ _ _ hplanned 520 (by norm_num)
    (by norm_num)
  rcases hcovered with ⟨-, hstop⟩ | ⟨band, hband, -, -, hstart, hstop⟩
  · norm_num at hstop
  · simp only [splitTables, List.mem_cons, List.not_mem_nil, or_false] at hband
    rcases hband with rfl | rfl
    · norm_num at hstop
    · norm_num at hstart

end Micboard
