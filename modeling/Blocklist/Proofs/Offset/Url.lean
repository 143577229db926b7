/-
This file reads a URL rule by slices of its line, from the mark of an exception over the slashes,
the options and the bars to the pattern, and shows that every slice exists and that the rule is the
one that the characters give.
-/

import Blocklist.Proofs.Except
import Blocklist.Proofs.Filter.OptionMark
import Blocklist.Proofs.Filter.PatternEnds
import Blocklist.Proofs.Offset.Search

namespace Blocklist

open Text

namespace Pattern

/-- A bar in front of the end, looked for behind the start only. -/
def hasEndBarAt {C : Type} (line : Text) (start stop : Nat) : Except (Failure C) Bool := do
  if start < stop then
    let front ← sliceTo line stop
    return front.endsWith ['|']
  else return false

/-- The pattern between two offsets of a line, without its anchor in front. -/
def ofBodyAt {C : Type} (line : Text) (left : Option LeftAnchor) (start stop : Nat) :
    Except (Failure C) Pattern := do
  let endAnchored ← hasEndBarAt line start stop
  let stop := if endAnchored then stop - 1 else stop
  return ⟨left, ← slice line start stop, endAnchored⟩

/-- The pattern between two offsets of a line. -/
def ofRawAt {C : Type} (line : Text) (start stop : Nat) : Except (Failure C) Pattern := do
  let raw ← slice line start stop
  if raw.startsWith ['|', '|'] then ofBodyAt line (some .hostname) (start + 2) stop
  else if raw.startsWith ['|'] then ofBodyAt line (some .start) (start + 1) stop
  else ofBodyAt line none start stop

/-- A pattern of more than one byte stands between slashes, without anchors. -/
def isRegex (pattern : Pattern) : Bool :=
  pattern.left.isNone && !pattern.endAnchored && 1 < pattern.text.size &&
    pattern.text.startsWith ['/'] && pattern.text.endsWith ['/']

/-- The text between the slashes. -/
def regexBodyAt? {C : Type} (pattern : Pattern) : Except (Failure C) (Option Text) := do
  if pattern.isRegex then return some (← slice pattern.text 1 (pattern.text.size - 1))
  else return none

/-- A hostname in front is put in ASCII form, and what follows it stays. -/
def asciiHostnameAt (text : Text) : Except (Failure FilterError) Text := do
  let stop := (offsetOf? endsHostname text).getD text.size
  let host ← sliceTo text stop
  if host.isAscii then return text
  let some normal := Hostname.normalize? host | throw (.refused .punycode)
  return normal ++ (← sliceFrom text stop)

/-- The text in small letters unless their case matters, with the hostname in ASCII form. -/
def normalizeAt (pattern : Pattern) (matchCase : Bool) : Except (Failure FilterError) Pattern := do
  let lowered := if matchCase then pattern.text else pattern.text.lowercase
  let text ← if pattern.left = some .hostname then asciiHostnameAt lowered else pure lowered
  return { pattern with text }

def deriveAt (pattern : Pattern) (matchCase : Bool) : Except (Failure FilterError) Text :=
  if pattern.isWebSocket then .ok webSocketRegex
  else if pattern.trimStars.isOpen then .ok anyHttpUrlRegex
  else (pattern.trimStars.normalizeAt matchCase).map regex

section Slices

variable {C : Type}

theorem hasEndBarAt_append (front body back : Text) {stop : Nat}
    (stopEq : stop = size front + size body) :
    (hasEndBarAt (front ++ body ++ back) (size front) stop : Except (Failure C) Bool) =
      .ok (body.endsWith ['|']) := by
  unfold hasEndBarAt
  by_cases empty : body = []
  · subst empty
    rw [if_neg (by simp [stopEq])]
    rfl
  · have inside : size front < stop := by
      have positive := size_pos empty
      omega
    rw [if_pos inside, stopEq, ← size_append, sliceTo_append, ok_bind,
      endsWith_append_single empty]
    rfl

theorem ofBodyAt_append (left : Option LeftAnchor) (front body back : Text) {stop : Nat}
    (stopEq : stop = size front + size body) :
    (ofBodyAt (front ++ body ++ back) left (size front) stop : Except (Failure C) Pattern) =
      .ok (ofBody left body) := by
  rw [ofBodyAt, hasEndBarAt_append front body back stopEq, ok_bind, ofBody]
  split
  case isTrue ends =>
    obtain ⟨text, rfl⟩ := endsWith_single.mp ends
    have bar : size ['|'] = 1 := rfl
    have inFront : stop - 1 = size front + size text := by
      rw [stopEq, size_append, bar]
      omega
    have cut := slice_append (C := C) front text (['|'] ++ back) inFront
    rw [← List.append_assoc (front ++ text), List.append_assoc front text] at cut
    dsimp only
    rw [cut, List.dropLast_concat, ends]
    rfl
  case isFalse plain =>
    dsimp only
    rw [slice_append front body back stopEq, Bool.eq_false_iff.mpr plain]
    rfl

/-- The anchor in front is skipped by its size. -/
theorem ofRawAt_append (front raw back : Text) {stop : Nat}
    (stopEq : stop = size front + size raw) :
    (ofRawAt (front ++ raw ++ back) (size front) stop : Except (Failure C) Pattern) =
      .ok (ofRaw raw) := by
  have behind (anchor body : Text) (left : Option LeftAnchor) (rawEq : raw = anchor ++ body) :
      (ofBodyAt (front ++ raw ++ back) left (size front + size anchor) stop :
        Except (Failure C) Pattern) = .ok (ofBody left body) := by
    have stopBehind : stop = size (front ++ anchor) + size body := by
      rw [stopEq, rawEq, size_append, size_append, Nat.add_assoc]
    have rest := ofBodyAt_append (C := C) left (front ++ anchor) body back stopBehind
    rwa [size_append, List.append_assoc front, ← rawEq] at rest
  rw [ofRawAt, slice_append front raw back stopEq, ok_bind, ofRaw_eq]
  split
  case isTrue begins =>
    obtain ⟨body, rfl⟩ := List.isPrefixOf_iff_prefix.mp begins
    exact behind ['|', '|'] body (some .hostname) rfl
  split
  case isTrue begins =>
    obtain ⟨body, rfl⟩ := startsWith_single.mp begins
    exact behind ['|'] body (some .start) rfl
  case isFalse => exact behind [] raw none rfl

theorem isRegex_iff {pattern : Pattern} :
    pattern.isRegex = true ↔ ∃ body, pattern.regexBody? = some body := by
  obtain ⟨left, text, endAnchored⟩ := pattern
  simp only [regexBody?_eq_some_iff]
  constructor
  · intro regex
    simp only [isRegex, Bool.and_eq_true, Option.isNone_iff_eq_none, Bool.not_eq_true',
      decide_eq_true_eq] at regex
    obtain ⟨⟨⟨⟨rfl, rfl⟩, large⟩, begins⟩, ends⟩ := regex
    obtain ⟨rest, rfl⟩ := startsWith_single.mp begins
    have some : rest ≠ [] := by
      rintro rfl
      exact absurd large (by decide)
    rw [← List.singleton_append, endsWith_append_single some] at ends
    obtain ⟨body, rfl⟩ := endsWith_single.mp ends
    exact ⟨body, rfl⟩
  · rintro ⟨body, same⟩
    obtain ⟨rfl, rfl, rfl⟩ := Pattern.mk.inj same
    have large : 1 < size ('/' :: (body ++ ['/'])) := by
      have slash : '/'.utf8Size = 1 := rfl
      rw [size_cons, size_append, size_cons, slash]
      omega
    have ends : Text.endsWith ('/' :: (body ++ ['/'])) ['/'] = true :=
      endsWith_single.mpr ⟨'/' :: body, rfl⟩
    rw [isRegex, decide_eq_true large, ends]
    rfl

theorem regexBodyAt?_eq (pattern : Pattern) :
    (pattern.regexBodyAt? : Except (Failure C) (Option Text)) = .ok pattern.regexBody? := by
  unfold regexBodyAt?
  cases found : pattern.regexBody? with
  | none =>
      rw [if_neg fun regex => ?_]
      · rfl
      · obtain ⟨body, same⟩ := isRegex_iff.mp regex
        cases found.symm.trans same
  | some body =>
      rw [if_pos (isRegex_iff.mpr ⟨body, found⟩), regexBody?_eq_some_iff.mp found]
      dsimp only
      have cut := slice_append (C := C) ['/'] body ['/'] rfl
      have stopEq : size ('/' :: (body ++ ['/'])) - 1 = size ['/'] + size body := by
        have slash : '/'.utf8Size = 1 := rfl
        have alone : size ['/'] = 1 := rfl
        rw [size_cons, size_append]
        omega
      rw [stopEq]
      exact congrArg (· >>= fun inside => Except.ok (some inside)) cut

theorem asciiHostnameAt_eq (text : Text) :
    asciiHostnameAt text = (asciiHostname text).mapError .refused := by
  have split : text = (text.takeWhile fun c => !endsHostname c) ++
      (text.dropWhile fun c => !endsHostname c) := List.takeWhile_append_dropWhile.symm
  have stopEq : (offsetOf? endsHostname text).getD text.size =
      size (text.takeWhile fun c => !endsHostname c) := by
    rcases offsetOf?_cases endsHostname text with ⟨absent, all, -⟩ | found
    · rw [absent, all]
      rfl
    · rw [found]
      rfl
  unfold asciiHostnameAt asciiHostname
  dsimp only
  rw [stopEq]
  have front := sliceTo_append (C := FilterError) (text.takeWhile fun c => !endsHostname c)
    (text.dropWhile fun c => !endsHostname c)
  have back := sliceFrom_append (C := FilterError) (text.takeWhile fun c => !endsHostname c)
    (text.dropWhile fun c => !endsHostname c)
  rw [← split] at front back
  rw [front, back, ok_bind]
  split
  case isTrue => rfl
  case isFalse =>
    cases Hostname.normalize? (text.takeWhile fun c => !endsHostname c) <;> rfl

theorem normalizeAt_eq (pattern : Pattern) (matchCase : Bool) :
    pattern.normalizeAt matchCase = (pattern.normalize matchCase).mapError .refused := by
  unfold normalizeAt normalize
  dsimp only
  split
  case isTrue => rw [asciiHostnameAt_eq, mapError_bind]; rfl
  case isFalse => rfl

theorem deriveAt_eq (pattern : Pattern) (matchCase : Bool) :
    pattern.deriveAt matchCase = (pattern.derive matchCase).mapError .refused := by
  unfold deriveAt derive
  rw [normalizeAt_eq]
  split
  case isTrue => rfl
  split
  case isTrue => rfl
  rw [mapError_map]

end Slices

end Pattern

namespace UrlRule

/-- The offset of the last slash, if the pattern begins with another one. -/
def lastSlashAt? {C : Type} (line : Text) (start : Nat) : Except (Failure C) (Option Nat) := do
  match lastByte? '/'.toUInt8 line with
  | none => return none
  | some slash =>
      let body ← sliceFrom line start
      return if body.startsWith ['/'] && start < slash then some slash else none

/-- The offset of the mark in front of the options. -/
def optionMarkAt? {C : Type} (line : Text) (start : Nat) : Except (Failure C) (Option Nat) := do
  match ← lastSlashAt? line start with
  | some slash =>
      let behind ← sliceFrom line slash
      return (firstByte? '$'.toUInt8 behind).map (slash + ·)
  | none => return (lastByte? '$'.toUInt8 line).filter (start ≤ ·)

def patternTextsAt (pattern : Pattern) (raw : Text) (matchCase : Bool) :
    Except (Failure FilterError) PatternTexts := do
  match ← pattern.regexBodyAt? with
  | some body => return ⟨some (Pattern.unescape body), none, raw⟩
  | none => return ⟨none, some (← pattern.deriveAt matchCase), raw⟩

/-- The rule whose pattern stands between two offsets of a line. -/
def buildAt (line : Text) (start stop : Nat) (options : OptionSet) :
    Except (Failure FilterError) UrlRule := do
  let raw ← slice line start stop
  let pattern ← Pattern.ofRawAt line start stop
  if options.types = ∅ then throw (.refused .unreadable)
  let texts ← patternTextsAt pattern raw options.matchCase
  return ofParts line texts options

/-- Two at signs mark an exception. -/
def parseAt (line : Text) : Except (Failure FilterError) UrlRule := do
  let start := if line.startsWith ['@', '@'] then 2 else 0
  match ← optionMarkAt? line start with
  | some mark =>
      let written ← sliceFrom line (mark + 1)
      let options ← (RuleOption.parseAll written).mapError .refused
      buildAt line start mark (OptionSet.ofList options)
  | none => buildAt line start line.size (OptionSet.ofList [])

section Slices

variable {C : Type}

theorem lastSlashAt?_of_plain (front : Text) {body : Text} (plain : body.startsWith ['/'] = false) :
    (lastSlashAt? (front ++ body) (size front) : Except (Failure C) (Option Nat)) = .ok none := by
  rw [lastSlashAt?, sliceFrom_append]
  cases lastByte? '/'.toUInt8 (front ++ body) with
  | none => rfl
  | some slash =>
      change Except.ok (if body.startsWith ['/'] && _ then _ else _) = _
      rw [plain]
      rfl

/-- The first slash is not taken for the last one. -/
theorem lastSlashAt?_of_slash {front : Text} (noSlash : '/' ∉ front) (rest : Text) :
    (lastSlashAt? (front ++ '/' :: rest) (size front) : Except (Failure C) (Option Nat)) =
      .ok ((cutLast? '/' rest).map fun cut => size (front ++ '/' :: cut.1)) := by
  rw [lastSlashAt?, lastByte?_eq (by decide), cutLast?_append_of_absent noSlash, sliceFrom_append,
    cutLast?]
  cases cutLast? '/' rest with
  | none =>
      change Except.ok (if _ && decide (size front < size (front ++ [])) then _ else _) = _
      rw [List.append_nil, decide_eq_false (Nat.lt_irrefl _), Bool.and_false]
      rfl
  | some cut =>
      have behind : size front < size (front ++ '/' :: cut.1) := by
        rw [size_append, size_cons]
        have slash : '/'.utf8Size = 1 := rfl
        omega
      change Except.ok
        (if _ && decide (size front < size (front ++ '/' :: cut.1)) then _ else _) = _
      rw [decide_eq_true behind]
      rfl

theorem optionMarkAt?_append {front : Text} (noSlash : '/' ∉ front) (noMark : '$' ∉ front)
    (body : Text) : (optionMarkAt? (front ++ body) (size front) : Except (Failure C) (Option Nat)) =
      .ok ((cutOptions? body).map fun cut => size (front ++ cut.1)) := by
  have lastMark : (lastByte? '$'.toUInt8 (front ++ body)).filter (size front ≤ ·) =
      (cutLast? '$' body).map fun cut => size (front ++ cut.1) := by
    rw [lastByte?_eq (by decide), cutLast?_append_of_absent noMark]
    cases cutLast? '$' body <;> simp
  cases begins : body.startsWith ['/'] with
  | false =>
      rw [optionMarkAt?, lastSlashAt?_of_plain front begins, ok_bind, lastMark,
        cutOptions?_of_plain begins]
      rfl
  | true =>
      obtain ⟨rest, rfl⟩ := startsWith_single.mp begins
      -- The search for the mark starts at the last slash itself, which is no dollar sign.
      rw [optionMarkAt?, lastSlashAt?_of_slash noSlash, ok_bind, lastMark, cutOptions?]
      cases cut : cutLast? '/' rest with
      | none => rfl
      | some pieces =>
          obtain ⟨inside, behind⟩ := pieces
          have lineEq : front ++ '/' :: rest = (front ++ '/' :: inside) ++ '/' :: behind := by
            rw [(cutLast?_eq_some_iff.mp cut).1]
            simp
          dsimp only [Option.map_some]
          rw [lineEq, sliceFrom_append, ok_bind, firstByte?_eq (by decide), cutFirst?,
            if_neg (by decide)]
          cases cutFirst? '$' behind with
          | none => rfl
          | some parts => simp [pure, Except.pure, Nat.add_assoc]

theorem patternTextsAt_eq (raw : Text) (matchCase : Bool) :
    patternTextsAt (Pattern.ofRaw raw) raw matchCase =
      (patternTexts raw matchCase).mapError .refused := by
  unfold patternTextsAt patternTexts
  rw [Pattern.regexBodyAt?_eq, Pattern.deriveAt_eq, ok_bind]
  dsimp only
  cases (Pattern.ofRaw raw).regexBody? with
  | some body => rfl
  | none => exact (mapError_map _ _ _).symm

theorem buildAt_append (front raw back : Text) (options : OptionSet) :
    buildAt (front ++ raw ++ back) (size front) (size front + size raw) options =
      (build (front ++ raw ++ back) raw options).mapError .refused := by
  unfold buildAt build
  rw [slice_append front raw back rfl, Pattern.ofRawAt_append _ _ _ rfl, ok_bind, ok_bind]
  split
  case isTrue => rfl
  case isFalse => 
    rw [mapError_bind, patternTextsAt_eq]
    rfl

/-- The mark of an exception in front of the body of a line has no slash and no dollar sign. -/
theorem exists_front_of_bodyOf (line : Text) :
    ∃ front, line = front ++ bodyOf line ∧
      size front = (if line.startsWith ['@', '@'] then 2 else 0) ∧ '/' ∉ front ∧ '$' ∉ front := by
  unfold bodyOf
  split
  case isTrue begins =>
    obtain ⟨body, rfl⟩ := List.isPrefixOf_iff_prefix.mp begins
    exact ⟨['@', '@'], rfl, rfl, by decide, by decide⟩
  case isFalse => exact ⟨[], rfl, rfl, by decide, by decide⟩

theorem parseAt_eq (line : Text) : parseAt line = (parse line).mapError .refused := by
  obtain ⟨front, lineEq, frontSize, noSlash, noMark⟩ := exists_front_of_bodyOf line
  have found := optionMarkAt?_append (C := FilterError) noSlash noMark (bodyOf line)
  rw [← lineEq] at found
  rw [parseAt, parse_eq_build, ← frontSize, found, ok_bind]
  cases cut : cutOptions? (bodyOf line) with
  | none =>
      have built := buildAt_append front (bodyOf line) [] (OptionSet.ofList [])
      rw [List.append_nil, ← size_append, ← lineEq] at built
      exact built
  | some pieces =>
      obtain ⟨raw, written⟩ := pieces
      have wholeEq : front ++ raw ++ '$' :: written = line := by
        rw [List.append_assoc, ← eq_append_of_cutOptions? cut, ← lineEq]
      have small : '$'.toNat < 128 := by decide
      have behind := sliceFrom_behind (C := FilterError) small (front ++ raw) written
      rw [wholeEq] at behind
      dsimp only [Option.map_some]
      rw [behind, ok_bind, mapError_bind, size_append]
      congr 1
      funext options
      rw [← wholeEq]
      exact buildAt_append front raw ('$' :: written) (OptionSet.ofList options)

example : ∀ line ∈ ["|||", "@@/", "//$", "@@||$", "@@|/$", "ß|$"],
    parseAt line.toList ≠ .error .noSlice := by decide +kernel

end Slices

end UrlRule

end Blocklist
