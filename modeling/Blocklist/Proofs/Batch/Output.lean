/-
This file says what the report of a list holds under a limit, and what its text is decoded to. A
positive limit below the count of rules leaves the first rules and is told once at the end of the
diagnostics, and every other limit changes nothing.
-/

import Blocklist.Proofs.Batch.Ledger
import Blocklist.Proofs.Content.Json

namespace Blocklist

theorem effectiveLimit_eq_some_iff {limit : Option Int} {bound : Nat} :
    effectiveLimit limit = some bound ↔ 0 < bound ∧ limit = some (bound : Int) := by
  cases limit with
  | none => simp [effectiveLimit]
  | some number =>
      by_cases positive : 0 < number
      · simp only [effectiveLimit, Option.filter, positive, decide_true, if_true, Option.map_some,
          Option.some.injEq]
        omega
      · simp only [effectiveLimit, Option.filter, positive, decide_false, Bool.false_eq_true,
          if_false, Option.map_none, reduceCtorEq, Option.some.injEq, false_iff]
        omega

namespace Report

/-- The first rules of a report, with a diagnostic on those that are left out. -/
def truncate (bound : Nat) (report : Report) : Report :=
  { rules := report.rules.take bound
    overLimit := true
    diagnostics := report.diagnostics ++ [⟨none, .overLimit bound⟩]
    events := report.events ++ [.limitReached bound (report.rules.length - bound)] }

@[simp] theorem truncate_convertedCount (bound : Nat) (report : Report) :
    (report.truncate bound).convertedCount = min bound report.convertedCount :=
  List.length_take

theorem truncate_convertedCount_of_exceeded {bound : Nat} {report : Report}
    (exceeded : bound < report.rules.length) : (report.truncate bound).convertedCount = bound :=
  List.length_take_of_le (Nat.le_of_lt exceeded)

@[simp] theorem truncate_errorsCount (bound : Nat) (report : Report) :
    (report.truncate bound).errorsCount = report.errorsCount + 1 :=
  List.length_append

/-- What a limit leaves of a report. -/
def under (limit : Option Int) (report : Report) : Report :=
  match effectiveLimit limit with
  | some bound => if bound < report.rules.length then report.truncate bound else report
  | none => report

theorem ofGroups_under (limit : Option Int) (sourceCount : Nat) (groups : Groups) :
    ofGroups (effectiveLimit limit) sourceCount groups =
      (ofGroups none sourceCount groups).under limit := by
  unfold under
  cases effectiveLimit limit with
  | none => rfl
  | some bound => rfl

/-- A limit is applied to the report that the list has without one. -/
theorem ofSources_under (parser : FilterRule.Parser) (limit : Option Int)
    (sources : List Source) :
    ofSources parser limit sources = (ofSources parser none sources).map (under limit) := by
  unfold ofSources
  split
  case isTrue => rfl
  case isFalse =>
    cases Groups.ofOutcomes (sources.map (Outcome.ofSource parser)) with
    | error cause => rfl
    | ok groups => exact congrArg Except.ok (ofGroups_under limit sources.length groups)

theorem ofSources_under_ok {parser : FilterRule.Parser} {sources : List Source} {full : Report}
    (limit : Option Int) (succeeded : ofSources parser none sources = .ok full) :
    ofSources parser limit sources = .ok (full.under limit) := by
  rw [ofSources_under, succeeded]
  rfl

theorem under_eq_truncate {report : Report} {bound : Nat} (positive : 0 < bound)
    (exceeded : bound < report.rules.length) :
    report.under (some bound) = report.truncate bound := by
  rw [under, effectiveLimit_eq_some_iff.mpr ⟨positive, rfl⟩]
  exact if_pos exceeded

theorem under_eq_self {report : Report} {limit : Option Int}
    (fits : ∀ bound : Nat, 0 < bound → limit = some (bound : Int) → report.rules.length ≤ bound) :
    report.under limit = report := by
  rw [under]
  split
  case h_1 bound effective =>
    obtain ⟨positive, rfl⟩ := effectiveLimit_eq_some_iff.mp effective
    have allowed := fits bound positive rfl
    exact if_neg (by omega)
  case h_2 => rfl

/-- A limit leaves reports with the same rules as they are, or it cuts all of them. -/
theorem under_together {report other : Report} (same : report.rules = other.rules)
    (limit : Option Int) :
    (report.under limit = report ∧ other.under limit = other) ∨
      ∃ bound, report.under limit = report.truncate bound ∧
        other.under limit = other.truncate bound := by
  unfold under
  rw [same]
  cases effectiveLimit limit with
  | none => exact .inl ⟨rfl, rfl⟩
  | some bound =>
      dsimp only
      split
      case isTrue => exact .inr ⟨bound, rfl, rfl⟩
      case isFalse => exact .inl ⟨rfl, rfl⟩

/-- A positive limit leaves as many of the first rules as it allows, be there more or not. -/
theorem under_rules {report : Report} {bound : Nat} (positive : 0 < bound) :
    (report.under (some bound)).rules = report.rules.take bound := by
  by_cases exceeded : bound < report.rules.length
  · rw [under_eq_truncate positive exceeded]
    rfl
  · have fits : report.rules.length ≤ bound := by omega
    rw [List.take_of_length_le fits, under_eq_self]
    intro other _ same
    have := Option.some.inj same
    omega

theorem under_rules_prefix (limit : Option Int) (report : Report) :
    (report.under limit).rules <+: report.rules := by
  rw [under]
  split
  case h_1 bound _ =>
    split
    case isTrue => exact List.take_prefix bound report.rules
    case isFalse => exact List.prefix_refl _
  case h_2 => exact List.prefix_refl _

/-- Under a limit the report holds the first rules of the whole report. -/
theorem ofSources_prefix (parser : FilterRule.Parser) (limit : Option Int) (sources : List Source)
    {full : Report} (succeeded : ofSources parser none sources = .ok full) :
    ∃ cut, ofSources parser limit sources = .ok cut ∧ cut.rules <+: full.rules :=
  ⟨full.under limit, ofSources_under_ok limit succeeded, under_rules_prefix limit full⟩

/-- The report keeps of the whole one what the limit allows, and tells what it does not. -/
structure LimitedTo (limit : Option Int) (full report : Report) : Prop where
  exceeded : ∀ bound : Int, limit = some bound → 0 < bound → bound < full.rules.length →
    report.rules = full.rules.take bound.toNat ∧ (report.convertedCount : Int) = bound ∧
      ContentRule.readAll? report.converted = some (full.rules.take bound.toNat) ∧
      report.overLimit = true ∧ report.errorsCount = full.errorsCount + 1 ∧
      report.diagnostics = full.diagnostics ++ [⟨none, .overLimit bound.toNat⟩]
  allowed : (∀ bound : Int, limit = some bound → 0 < bound → full.rules.length ≤ bound) →
    report.rules = full.rules ∧ report.convertedCount = full.convertedCount ∧
      report.converted = full.converted ∧ report.overLimit = false ∧
      report.errorsCount = full.errorsCount ∧ report.diagnostics = full.diagnostics

theorem limitedTo_under (limit : Option Int) {full : Report} (complete : full.overLimit = false) :
    LimitedTo limit full (full.under limit) := by
  constructor
  · rintro bound rfl positive exceeded
    obtain ⟨count, rfl⟩ := Int.eq_ofNat_of_zero_le (Int.le_of_lt positive)
    rw [Int.toNat_natCast, under_eq_truncate (by omega) (by omega)]
    have counted : (full.truncate count).convertedCount = count :=
      truncate_convertedCount_of_exceeded (by omega)
    exact ⟨rfl, congrArg Int.ofNat counted, ContentRule.readAll?_writeAll _, rfl,
      truncate_errorsCount count full, rfl⟩
  · intro fits
    have unchanged : full.under limit = full := by
      apply under_eq_self
      intro bound positive same
      have allowed := fits bound same (by omega)
      omega
    rw [unchanged]
    exact ⟨rfl, rfl, rfl, complete, rfl, rfl⟩

/-- A limit only truncates the report, and a lower limit leaves the beginning of what a higher one
leaves. -/
theorem ofSources_limitedTo (parser : FilterRule.Parser) (first : Source) (rest : List Source) :
    ∃ full, ofSources parser none (first :: rest) = .ok full ∧
      (∀ limit, ∃ report, ofSources parser limit (first :: rest) = .ok report ∧
        LimitedTo limit full report) ∧
      ∀ lower upper : Int, 0 < lower → lower ≤ upper →
        ∃ fewer more, ofSources parser (some lower) (first :: rest) = .ok fewer ∧
          ofSources parser (some upper) (first :: rest) = .ok more ∧
          fewer.rules <+: more.rules := by
  obtain ⟨full, fates, succeeded, ledger⟩ := Ledger.exists_ofItems parser first rest
  refine ⟨full, succeeded, ?_, ?_⟩
  · intro limit
    exact ⟨full.under limit, ofSources_under_ok limit succeeded,
      limitedTo_under limit ledger.complete⟩
  · intro lower upper positive ordered
    refine ⟨_, _, ofSources_under_ok (some lower) succeeded,
      ofSources_under_ok (some upper) succeeded, ?_⟩
    obtain ⟨fewest, rfl⟩ := Int.eq_ofNat_of_zero_le (Int.le_of_lt positive)
    obtain ⟨most, rfl⟩ := Int.eq_ofNat_of_zero_le (by omega : 0 ≤ upper)
    rw [under_rules (by omega), under_rules (by omega)]
    exact List.take_prefix_take_left (by omega)

end Report

/-- Rules are decoded from their text, so that different rules have different texts, and every list
with an item has a text from which the rules that the report counts are decoded. -/
theorem ContentRule.writeAll_decodes :
    (∀ rules, ContentRule.readAll? (ContentRule.writeAll rules) = some rules) ∧
      Function.Injective ContentRule.writeAll ∧
      ∀ parser limit first rest, ∃ report rules,
        Report.ofSources parser limit (first :: rest) = .ok report ∧
          ContentRule.readAll? report.converted = some rules ∧
          rules.length = report.convertedCount := by
  refine ⟨ContentRule.readAll?_writeAll, ?_, ?_⟩
  · intro first second same
    have read := ContentRule.readAll?_writeAll first
    rw [same, ContentRule.readAll?_writeAll] at read
    exact (Option.some.inj read).symm
  · intro parser limit first rest
    obtain ⟨full, fates, succeeded, -⟩ := Ledger.exists_ofItems parser first rest
    exact ⟨full.under limit, _, Report.ofSources_under_ok limit succeeded,
      ContentRule.readAll?_writeAll _, rfl⟩

end Blocklist
