import Stencil.Engine.Settings
import Stencil.Proofs.Calendar.RoundTrip
import Stencil.Proofs.Fields
import Stencil.Proofs.Result

/-!
The default offset of dates. A document of settings is accepted only if its offset is less than a day, so that
every date is written in the zone that was asked for. All other offsets are refused, but for the least of all
words: it has no absolute value among the words, and the test itself overflows.
-/
namespace Stencil

theorem toInt_abs_of_ne_minValue {minutes : Int32} (hne : minutes ≠ .minValue) :
    minutes.abs.toInt = |minutes.toInt| := by
  have hbits : minutes.toBitVec ≠ BitVec.intMin 32 := fun heq => hne (Int32.toBitVec_inj.mp heq)
  rw [Int.abs_eq_natAbs]
  exact BitVec.toInt_abs_eq_natAbs_of_ne_intMin hbits

namespace Calendar

/-- Less than a day, in minutes. -/
def IsOffset (minutesBehind : Int32) : Prop := -1440 < minutesBehind.toInt ∧ minutesBehind.toInt < 1440

instance (minutesBehind : Int32) : Decidable (IsOffset minutesBehind) :=
  inferInstanceAs (Decidable (_ ∧ _))

/-- The seconds east of UTC, unless the seconds behind it do not fit into a word, or are a day or more. -/
def zone? (minutesBehind : Int32) : Option Int :=
  let seconds := 60 * minutesBehind.toInt
  if -0x80000000 ≤ seconds ∧ seconds < 0x80000000 then
    if -86400 < seconds ∧ seconds < 86400 then some (-seconds) else none
  else none

theorem zone?_of_isOffset {minutesBehind : Int32} (h : IsOffset minutesBehind) :
    zone? minutesBehind = some (-60 * minutesBehind.toInt) := by
  obtain ⟨hlow, hhigh⟩ := h
  unfold zone?
  rw [if_pos (by omega), if_pos (by omega), Int.neg_mul]

theorem zone?_of_not_isOffset {minutesBehind : Int32} (h : ¬ IsOffset minutesBehind) :
    zone? minutesBehind = none := by
  unfold IsOffset at h
  unfold zone?
  dsimp only
  split
  · exact if_neg (by omega)
  · rfl

/-- Without an offset that is one, dates are those of UTC. -/
theorem zoneSeconds_eq_getD (minutesBehind : Int32) :
    zoneSeconds minutesBehind.toInt = (zone? minutesBehind).getD 0 := by
  by_cases h : IsOffset minutesBehind
  · rw [zone?_of_isOffset h, zoneSeconds_eq h.1 h.2]
    rfl
  · rw [zone?_of_not_isOffset h]
    unfold IsOffset at h
    unfold zoneSeconds
    simp
    omega

/-- What calendar and clock show so many seconds east of UTC. -/
def Local.east (instant : Instant) (zone : Int) : Local :=
  let shown := instant.seconds + zone
  ⟨shown / 86400, (shown % 86400).toNat, instant.nanos, zone⟩

end Calendar

open Calendar

namespace Filter

/-- The arguments of `date` bring an offset of their own. -/
def GivesOffset (arguments : List Value) : Prop :=
  ∃ value, arguments[1]? = some value ∧ value.isNull = false ∧ value.toNumber.isFinite = true

/-- Without an offset of its own a date is written in the default zone. -/
theorem date_of_not_givesOffset {minutesBehind : Int32} {input : Value} {arguments : List Value}
    {instant : Instant} (hinput : Instant.ofValue? input = some instant) (h : ¬ GivesOffset arguments) :
    date minutesBehind input arguments = .string (String.ofList
      (formatChars instant (.east instant (zoneSeconds minutesBehind.toInt)) (textArgument arguments 2)
        ((textArgument arguments 0).getD "").toList)) := by
  have hnone : ((arguments[1]?.filter (!·.isNull)).map Value.toNumber).filter Float.isFinite = none := by
    rw [Option.eq_none_iff_forall_ne_some]
    intro number hnumber
    obtain ⟨hmap, hfinite⟩ := Option.filter_eq_some_iff.mp hnumber
    obtain ⟨value, hvalue, rfl⟩ := Option.map_eq_some_iff.mp hmap
    obtain ⟨hget, hnull⟩ := Option.filter_eq_some_iff.mp hvalue
    exact h ⟨value, hget, by simpa using hnull, hfinite⟩
  unfold date
  rw [hinput, hnone]
  rfl

end Filter

/-- Dates that come without an offset are written so many seconds east of UTC. -/
def Settings.DatesAt (settings : Settings) (zone : Int) : Prop :=
  ∃ filter, Fields.get? settings.filters "date" = some filter ∧
    ∀ input arguments instant, Instant.ofValue? input = some instant → ¬ Filter.GivesOffset arguments →
      filter input arguments = .string (String.ofList
        (formatChars instant (.east instant zone) (Filter.textArgument arguments 2)
          ((Filter.textArgument arguments 0).getD "").toList))

namespace Config

variable {config result : Config} {text : String} {host : Host}

/-- A host without a filter of this name leaves dates to the configuration. -/
theorem datesAt_of (config : Config) (hhost : Fields.get? host.filters "date" = none) :
    (Settings.of config host).DatesAt ((zone? config.tzOffset).getD 0) := by
  refine ⟨Filter.date config.tzOffset, ?_, fun input arguments instant hinput hgives => ?_⟩
  · rw [Settings.of, Fields.get?_merge_of_absent hhost]
    rfl
  · rw [Filter.date_of_not_givesOffset hinput hgives, zoneSeconds_eq_getD]

theorem ne_minValue_of_isOffset {minutes : Int32} (h : IsOffset minutes) : minutes ≠ .minValue := by
  rintro rfl
  exact absurd h.1 (by decide)

theorem magnitude?_eq_none_iff {minutes : Int32} : magnitude? minutes = none ↔ minutes = .minValue := by
  unfold magnitude?
  split <;> simp_all

/-- A word that has an absolute value is less than a day if and only if that is. -/
theorem day_le_abs_iff {minutes : Int32} (hne : minutes ≠ .minValue) :
    24 * 60 ≤ minutes.abs ↔ ¬ IsOffset minutes := by
  rw [Int32.le_iff_toInt_le, toInt_abs_of_ne_minValue hne]
  change (1440 : Int) ≤ _ ↔ _
  rw [← not_lt, abs_lt]
  rfl

theorem validate_of_isOffset (h : IsOffset config.tzOffset) : config.validate = .ok config := by
  have hne := ne_minValue_of_isOffset h
  unfold validate magnitude?
  rw [if_neg hne]
  exact if_neg fun hday => (day_le_abs_iff hne).mp hday h

theorem validate_of_minValue (h : config.tzOffset = .minValue) : config.validate = .error .overflow := by
  unfold validate
  rw [magnitude?_eq_none_iff.mpr h]

theorem validate_of_refused (h : ¬ IsOffset config.tzOffset) (hne : config.tzOffset ≠ .minValue) :
    config.validate = .error (.error (.invalidValue "tz_offset"
      s!"{config.tzOffset.toInt} minutes is not a valid UTC offset")) := by
  unfold validate magnitude?
  rw [if_neg hne]
  exact if_pos ((day_le_abs_iff hne).mpr h)

/-- The settings of a document are accepted if and only if their offset is less than a day. Testing them
overflows for the least word and for no other, and all others are refused by name. Dates are written in the
zone that accepted settings ask for, wherever the host leaves them to the configuration. -/
theorem load_offset (h : ofToml text = .ok config) :
    ((∃ result, load text = .ok result) ↔
      -1440 < config.tzOffset.toInt ∧ config.tzOffset.toInt < 1440) ∧
    (load text = .error .overflow ↔ config.tzOffset.toInt = -2147483648) ∧
    (∀ error, load text = .error (.error error) ↔
      ¬ (-1440 < config.tzOffset.toInt ∧ config.tzOffset.toInt < 1440) ∧
        config.tzOffset.toInt ≠ -2147483648 ∧
        error = .invalidValue "tz_offset"
          s!"{config.tzOffset.toInt} minutes is not a valid UTC offset") ∧
    ∀ result, load text = .ok result → result = config ∧
      zone? config.tzOffset = some (-60 * config.tzOffset.toInt) ∧
      ∀ host, Fields.get? host.filters "date" = none →
        (Settings.of config host).DatesAt (-60 * config.tzOffset.toInt) := by
  have hload : load text = config.validate := by
    unfold load
    rw [h]
  have hleast : config.tzOffset.toInt = -2147483648 ↔ config.tzOffset = .minValue :=
    ⟨fun heq => Int32.toInt_inj.mp heq, fun heq => by rw [heq]; rfl⟩
  change (_ ↔ IsOffset config.tzOffset) ∧ _ ∧ (∀ _, _ ↔ ¬ IsOffset config.tzOffset ∧ _) ∧ _
  rw [hload, ne_eq, hleast]
  by_cases hoffset : IsOffset config.tzOffset
  · have hzone := zone?_of_isOffset hoffset
    rw [validate_of_isOffset hoffset]
    refine ⟨⟨fun _ => hoffset, fun _ => ⟨config, rfl⟩⟩,
      ⟨nofun, fun heq => absurd heq (ne_minValue_of_isOffset hoffset)⟩,
      fun error => ⟨nofun, fun hrefused => absurd hoffset hrefused.1⟩, ?_⟩
    rintro _ ⟨⟩
    refine ⟨rfl, hzone, fun host hhost => ?_⟩
    have hdates := datesAt_of config hhost
    rwa [hzone] at hdates
  · by_cases hne : config.tzOffset = .minValue
    · rw [validate_of_minValue hne]
      exact ⟨⟨nofun, fun hin => absurd hin hoffset⟩, ⟨fun _ => hne, fun _ => rfl⟩,
        fun error => ⟨nofun, fun hrefused => absurd hne hrefused.2.1⟩, nofun⟩
    · rw [validate_of_refused hoffset hne]
      refine ⟨⟨nofun, fun hin => absurd hin hoffset⟩, ⟨nofun, fun heq => absurd heq hne⟩,
        fun error => ?_, nofun⟩
      rw [Except.error.injEq, Fault.error.injEq]
      exact ⟨fun heq => ⟨hoffset, hne, heq.symm⟩, fun hrefused => hrefused.2.2.symm⟩

section Sample

/-- One minute less than a day east of UTC. -/
theorem load_offset_greatest : ∃ config, ofToml "tz_offset = -1439" = .ok config ∧
    load "tz_offset = -1439" = .ok config ∧ (Settings.of config {}).DatesAt 86340 := by
  obtain ⟨config, hconfig, hoffset⟩ := exists_eq_ok_of_map (by decide +kernel :
    (ofToml "tz_offset = -1439").toOption.map (·.tzOffset) = some (-1439))
  obtain ⟨haccepts, -, -, hdates⟩ := load_offset hconfig
  have hin : -1440 < config.tzOffset.toInt ∧ config.tzOffset.toInt < 1440 := by
    rw [hoffset]
    decide
  obtain ⟨result, hresult⟩ := haccepts.mpr hin
  obtain ⟨rfl, -, hdate⟩ := hdates result hresult
  have hat := hdate {} rfl
  rw [hoffset] at hat
  exact ⟨result, hconfig, hresult, hat⟩

/-- The least word is neither accepted nor refused: taking its absolute value overflows. -/
theorem load_least_offset : ∃ config, ofToml "tz_offset = -2147483648" = .ok config ∧
    config.tzOffset.toInt = -2147483648 ∧ load "tz_offset = -2147483648" = .error .overflow := by
  obtain ⟨config, hconfig, hoffset⟩ := exists_eq_ok_of_map (by decide +kernel :
    (ofToml "tz_offset = -2147483648").toOption.map (·.tzOffset) = some .minValue)
  refine ⟨config, hconfig, ?_, ?_⟩
  · rw [hoffset]
    rfl
  · unfold load
    rw [hconfig]
    exact validate_of_minValue hoffset

end Sample

end Config

end Stencil
