/-
This file shows that the passes over a pattern keep what it accepts. Stars are dropped at an end of
the text; the text that is left has the same normal form as the whole text, without the stars.
-/

import Blocklist.Proofs.Except
import Blocklist.Proofs.Filter.PatternRegex
import Mathlib.Data.List.DropRight
import Mathlib.Logic.Relation

namespace Blocklist

open Wildcard (stars)

namespace Text

/-- A text of stars is known by its length. -/
theorem eq_stars_of_forall {text : Text} (starred : ∀ c ∈ text, c = '*') :
    text = stars text.length :=
  List.eq_replicate_of_mem starred

theorem exists_dropTrailing_append_stars (text : Text) :
    ∃ count, text = dropTrailing (· == '*') text ++ stars count := by
  have starred : ∀ c ∈ text.rtakeWhile (· == '*'), c = '*' := fun c member => by
    simpa using List.mem_rtakeWhile_imp member
  have split : dropTrailing (· == '*') text ++ text.rtakeWhile (· == '*') = text :=
    List.rdropWhile_append_rtakeWhile
  rw [eq_stars_of_forall starred] at split
  exact ⟨_, split.symm⟩

theorem exists_stars_append_dropWhile {text : Text} (begins : text.startsWith ['*'] = true) :
    ∃ count, text = stars (count + 1) ++ text.dropWhile (· == '*') := by
  obtain ⟨rest, rfl⟩ := List.isPrefixOf_iff_prefix.mp begins
  have starred : ∀ c ∈ rest.takeWhile (· == '*'), c = '*' := fun c member => by
    simpa using List.mem_takeWhile_imp member
  have split := List.takeWhile_append_dropWhile (p := (· == '*')) (l := rest)
  rw [eq_stars_of_forall starred] at split
  exact ⟨_, congrArg ('*' :: ·) split.symm⟩

end Text

namespace LetterCase

/-- A star ends a word, so that stars behind a text are as good as its end. -/
theorem nextIsCased_append_stars (text : Text) (count : Nat) :
    nextIsCased (text ++ stars count) = nextIsCased text := by
  induction text with
  | nil => cases count <;> rfl
  | cons c text inductionHypothesis =>
      cases ignorable : isIgnorable c with
      | true => simpa [nextIsCased, ignorable] using inductionHypothesis
      | false => simp [nextIsCased, ignorable]

theorem lowerFrom_stars_append (reversedBefore text : Text) (count : Nat) :
    lowerFrom reversedBefore (stars count ++ text) =
      stars count ++ lowerFrom (stars count ++ reversedBefore) text := by
  induction count generalizing reversedBefore with
  | zero => rfl
  | succ count inductionHypothesis =>
      change '*' :: lowerFrom ('*' :: reversedBefore) (stars count ++ text) = _
      rw [inductionHypothesis, List.append_cons, stars, ← List.replicate_succ']
      rfl

/-- The case of a text does not depend on stars before it. -/
theorem lowerFrom_append_stars_before (reversedBefore text : Text) (count : Nat) :
    lowerFrom (reversedBefore ++ stars count) text = lowerFrom reversedBefore text := by
  induction text generalizing reversedBefore with
  | nil => rfl
  | cons c text inductionHypothesis =>
      rw [lowerFrom, lowerFrom, nextIsCased_append_stars, ← List.cons_append, inductionHypothesis]

theorem lowerFrom_append_stars (reversedBefore text : Text) (count : Nat) :
    lowerFrom reversedBefore (text ++ stars count) =
      lowerFrom reversedBefore text ++ stars count := by
  induction text generalizing reversedBefore with
  | nil => simpa [lowerFrom] using lowerFrom_stars_append reversedBefore [] count
  | cons c text inductionHypothesis =>
      rw [List.cons_append, lowerFrom, lowerFrom, nextIsCased_append_stars, inductionHypothesis,
        List.append_assoc]

end LetterCase

theorem Text.lowercase_append_stars (text : Text) (count : Nat) :
    (text ++ stars count).lowercase = text.lowercase ++ stars count :=
  LetterCase.lowerFrom_append_stars [] text count

theorem Text.lowercase_stars_append (text : Text) (count : Nat) :
    (stars count ++ text).lowercase = stars count ++ text.lowercase := by
  have skipped := LetterCase.lowerFrom_append_stars_before [] text count
  rw [Text.lowercase, LetterCase.lowerFrom_stars_append, List.append_nil]
  exact congrArg _ skipped

namespace Pattern

theorem takeWhile_host_append_stars (text : Text) (count : Nat) :
    ((text ++ stars count).takeWhile fun c => !endsHostname c) =
      text.takeWhile fun c => !endsHostname c := by
  induction text with
  | nil => cases count <;> rfl
  | cons c text inductionHypothesis =>
      cases ends : endsHostname c <;> simp [ends, inductionHypothesis]

theorem dropWhile_host_append_stars (text : Text) (count : Nat) :
    ((text ++ stars count).dropWhile fun c => !endsHostname c) =
      (text.dropWhile fun c => !endsHostname c) ++ stars count := by
  induction text with
  | nil => cases count <;> rfl
  | cons c text inductionHypothesis =>
      cases ends : endsHostname c <;> simp [ends, inductionHypothesis]

/-- A star ends the hostname, so that stars behind it stay as they are. -/
theorem asciiHostname_append_stars (text : Text) (count : Nat) :
    asciiHostname (text ++ stars count) = (asciiHostname text).map (· ++ stars count) := by
  rw [asciiHostname, asciiHostname, takeWhile_host_append_stars, dropWhile_host_append_stars]
  cases Text.isAscii (text.takeWhile fun c => !endsHostname c) with
  | true => rfl
  | false =>
      cases Hostname.normalize? (text.takeWhile fun c => !endsHostname c) with
      | none => rfl
      | some normal => exact congrArg Except.ok (List.append_assoc ..).symm

/-- The text of a pattern in its normal form, behind the left anchor. -/
def normalText (left : Option LeftAnchor) (matchCase : Bool) (text : Text) :
    Except FilterError Text :=
  let lowered := if matchCase then text else text.lowercase
  if left = some .hostname then asciiHostname lowered else .ok lowered

theorem normalize_eq_map (pattern : Pattern) (matchCase : Bool) :
    pattern.normalize matchCase =
      (normalText pattern.left matchCase pattern.text).map fun text => { pattern with text } := by
  rw [normalize, normalText]
  split <;> rfl

theorem normalText_append_stars (left : Option LeftAnchor) (matchCase : Bool) (text : Text)
    (count : Nat) :
    normalText left matchCase (text ++ stars count) =
      (normalText left matchCase text).map (· ++ stars count) := by
  have lowered : (if matchCase then text ++ stars count else (text ++ stars count).lowercase) =
      (if matchCase then text else text.lowercase) ++ stars count := by
    cases matchCase with
    | true => rfl
    | false => exact text.lowercase_append_stars count
  rw [normalText, normalText, lowered]
  split
  · exact asciiHostname_append_stars _ count
  · rfl

theorem normalText_stars_append {left : Option LeftAnchor} (noHostname : left ≠ some .hostname)
    (matchCase : Bool) (text : Text) (count : Nat) :
    normalText left matchCase (stars count ++ text) =
      (normalText none matchCase text).map (stars count ++ ·) := by
  rw [normalText, normalText, if_neg noHostname]
  cases matchCase with
  | true => rfl
  | false => exact congrArg Except.ok (text.lowercase_stars_append count)

/-- Stars are dropped at an open end, or in front of a pattern without a hostname. -/
inductive DropsStars : Pattern → Pattern → Prop
  | behind (left : Option LeftAnchor) (text : Text) (count : Nat) :
      DropsStars ⟨left, text ++ stars count, false⟩ ⟨left, text, false⟩
  | inFront {left : Option LeftAnchor} (noHostname : left ≠ some .hostname) (text : Text)
      (endAnchored : Bool) (count : Nat) :
      DropsStars ⟨left, stars (count + 1) ++ text, endAnchored⟩ ⟨none, text, endAnchored⟩

open Relation (ReflTransGen)

theorem dropsStars_inFront (left : Option LeftAnchor) (text : Text) (endAnchored : Bool) :
    ReflTransGen DropsStars ⟨left, text, endAnchored⟩
      (if left ≠ some .hostname ∧ text.startsWith ['*'] then
        ⟨none, text.dropWhile (· == '*'), endAnchored⟩
      else ⟨left, text, endAnchored⟩) := by
  split
  case isTrue begins =>
    obtain ⟨count, starred⟩ := text.exists_stars_append_dropWhile begins.2
    have drops := DropsStars.inFront begins.1 (text.dropWhile (· == '*')) endAnchored count
    rw [← starred] at drops
    exact .single drops
  case isFalse => exact .refl

/-- The stars of a pattern are dropped in two steps at most, those behind its text first. -/
theorem dropsStars_trimStars (pattern : Pattern) :
    ReflTransGen DropsStars pattern pattern.trimStars := by
  obtain ⟨left, text, endAnchored⟩ := pattern
  cases endAnchored with
  | true => exact dropsStars_inFront left text true
  | false =>
      obtain ⟨count, starred⟩ := text.exists_dropTrailing_append_stars
      have drops := DropsStars.behind left (Text.dropTrailing (· == '*') text) count
      rw [← starred] at drops
      exact .head drops (dropsStars_inFront left _ false)

/-- The pattern asks nothing of the URL but its end: its text holds stars only, and it names no
hostname. -/
def AsksNothing (pattern : Pattern) : Prop :=
  pattern.left ≠ some .hostname ∧ ∀ c ∈ pattern.text, c = '*'

section Trimming

variable {pattern trimmed : Pattern}

theorem DropsStars.accepts_iff (drops : DropsStars pattern trimmed) (url : Text) :
    pattern.Accepts url ↔ trimmed.Accepts url := by
  cases drops with
  | behind left text count => exact accepts_appendStars left text url count
  | inFront noHostname text endAnchored count =>
      exact accepts_starsAppend noHostname text url endAnchored count

theorem DropsStars.asksNothing (drops : DropsStars pattern trimmed)
    (asksNothing : trimmed.AsksNothing) : pattern.AsksNothing := by
  cases drops with
  | behind left text count =>
      refine ⟨asksNothing.1, fun c member => ?_⟩
      rcases List.mem_append.mp member with member | member
      · exact asksNothing.2 c member
      · exact List.eq_of_mem_replicate member
  | inFront noHostname text endAnchored count =>
      refine ⟨noHostname, fun c member => ?_⟩
      rcases List.mem_append.mp member with member | member
      · exact List.eq_of_mem_replicate member
      · exact asksNothing.2 c member

/-- A pattern has a normal form if it has one without the stars, and the stars are in it. -/
theorem DropsStars.normalize {matchCase : Bool} {normal : Pattern}
    (drops : DropsStars pattern trimmed) (normalized : trimmed.normalize matchCase = .ok normal) :
    ∃ whole, pattern.normalize matchCase = .ok whole ∧ DropsStars whole normal := by
  rw [normalize_eq_map] at normalized
  obtain ⟨normalText, normalizedText, rfl⟩ := map_eq_ok.mp normalized
  cases drops with
  | behind left text count =>
      refine ⟨_, ?_, .behind left normalText count⟩
      rw [normalize_eq_map, normalText_append_stars, normalizedText]
      rfl
  | inFront noHostname text endAnchored count =>
      refine ⟨_, ?_, .inFront noHostname normalText endAnchored count⟩
      rw [normalize_eq_map, normalText_stars_append noHostname, normalizedText]
      rfl

/-- Stars that are dropped make no difference to what the normal form accepts. -/
theorem normalize_of_dropsStars {matchCase : Bool} {normal : Pattern}
    (drops : ReflTransGen DropsStars pattern trimmed)
    (normalized : trimmed.normalize matchCase = .ok normal) :
    ∃ whole, pattern.normalize matchCase = .ok whole ∧
      ∀ url, whole.Accepts url ↔ normal.Accepts url := by
  induction drops using ReflTransGen.head_induction_on with
  | refl => exact ⟨normal, normalized, fun url => Iff.rfl⟩
  | head drop _ inductionHypothesis =>
      -- The normal form is found from the trimmed pattern outwards, one dropped end at a time.
      obtain ⟨between, normalizedBetween, same⟩ := inductionHypothesis
      obtain ⟨whole, normalizedWhole, dropNormal⟩ := drop.normalize normalizedBetween
      exact ⟨whole, normalizedWhole, fun url => (dropNormal.accepts_iff url).trans (same url)⟩

theorem asksNothing_of_dropsStars (drops : ReflTransGen DropsStars pattern trimmed)
    (asksNothing : trimmed.AsksNothing) : pattern.AsksNothing := by
  induction drops using ReflTransGen.head_induction_on with
  | refl => exact asksNothing
  | head drop _ inductionHypothesis => exact drop.asksNothing inductionHypothesis

end Trimming

theorem isOpen_iff {pattern : Pattern} :
    pattern.isOpen = true ↔ pattern.text = [] ∧ pattern.left = none := by
  rw [Pattern.isOpen, Bool.and_eq_true, List.isEmpty_iff, Option.isNone_iff_eq_none]

theorem asksNothing_of_isOpen {pattern : Pattern} (isOpen : pattern.isOpen = true) :
    pattern.AsksNothing := by
  obtain ⟨noText, noLeft⟩ := isOpen_iff.mp isOpen
  rw [AsksNothing, noText, noLeft]
  exact ⟨by simp, by simp⟩

/-- The texts that are derived from a pattern. -/
theorem derive_eq_ok {pattern : Pattern} {matchCase : Bool} {derived : Text}
    (derives : pattern.derive matchCase = .ok derived) :
    (pattern.isWebSocket = true ∧ derived = webSocketRegex) ∨
      (pattern.trimStars.isOpen = true ∧ derived = anyHttpUrlRegex) ∨
      pattern.trimStars.isOpen = false ∧
        ∃ normal, pattern.trimStars.normalize matchCase = .ok normal ∧ derived = normal.regex := by
  unfold derive at derives
  split at derives
  case isTrue webSocket => exact .inl ⟨webSocket, (Except.ok.inj derives).symm⟩
  case isFalse =>
    split at derives
    case isTrue isOpen => exact .inr (.inl ⟨isOpen, (Except.ok.inj derives).symm⟩)
    case isFalse closed =>
      obtain ⟨normal, normalized, rfl⟩ := map_eq_ok.mp derives
      exact .inr (.inr ⟨by simpa using closed, normal, normalized, rfl⟩)

/-- The regular expression that is derived from a pattern finds what the normal form of the pattern
accepts. -/
theorem derive_means {pattern : Pattern} {matchCase : Bool} {derived : Text}
    (noWebSocket : pattern.isWebSocket = false) (asks : ¬pattern.AsksNothing)
    (derives : pattern.derive matchCase = .ok derived) :
    ∃ regex normal, Regex.read? derived = some regex ∧
      pattern.normalize matchCase = .ok normal ∧ ∀ url, regex.Finds url ↔ normal.Accepts url := by
  have trimmed := dropsStars_trimStars pattern
  have closed : ¬pattern.trimStars.isOpen = true := fun isOpen =>
    asks (asksNothing_of_dropsStars trimmed (asksNothing_of_isOpen isOpen))
  rcases derive_eq_ok derives with
    ⟨webSocket, -⟩ | ⟨isOpen, -⟩ | ⟨-, written, normalizedTrimmed, rfl⟩
  · cases noWebSocket.symm.trans webSocket
  · exact absurd isOpen closed
  obtain ⟨normal, normalized, same⟩ := normalize_of_dropsStars trimmed normalizedTrimmed
  refine ⟨_, normal, read?_regex written, normalized, fun url => ?_⟩
  exact (finds_parts_iff written url).trans (same url).symm

end Pattern

end Blocklist
