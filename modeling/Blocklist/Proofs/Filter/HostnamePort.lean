/-
This file says when a hostname behind two bars may be written in ASCII form without a change to what
is derived for the rule. The hostname ends in front of a slash, a separator or a star, but not in
front of a port, so that the port is brought to ASCII form together with the last label.
-/

import Blocklist.Proofs.Filter.OptionMark
import Blocklist.Proofs.Filter.PatternEnds
import Blocklist.Proofs.Hostname.Port
import Blocklist.Proofs.Hostname.SmallAscii
import Blocklist.Proofs.Text.Blank

namespace Blocklist

open Text

namespace Pattern

/-- What is kept of the text at the end of a pattern, and whether a bar ends it. -/
def openEnd (tail : Text) : Text × Bool :=
  if tail.endsWith ['|'] then (tail.dropLast, true) else (dropTrailing (· == '*') tail, false)

theorem openEnd_prefix (tail : Text) : (openEnd tail).1 <+: tail := by
  unfold openEnd
  split
  case isTrue => exact List.dropLast_prefix tail
  case isFalse => exact dropTrailingPrefix _ tail

/-- The text ends in front of a hostname's end, or is the hostname. -/
def BeginsWithEnd (tail : Text) : Prop := ∀ c, tail.head? = some c → endsHostname c = true

instance (tail : Text) : Decidable (BeginsWithEnd tail) :=
  decidable_of_iff (tail.head?.all endsHostname = true) (Option.all_eq_true _ _)

theorem BeginsWithEnd.of_prefix {tail back : Text} (begins : BeginsWithEnd tail)
    (isPrefix : back <+: tail) : BeginsWithEnd back := by
  obtain ⟨rest, rfl⟩ := isPrefix
  intro c first
  apply begins c
  rw [List.head?_append, first]
  rfl

/-- No character of the text ends a hostname, and none is a bar. -/
def IsFront (front : Text) : Prop := ∀ c ∈ front, endsHostname c = false ∧ c ≠ '|'

section Front

variable {front : Text} (isFront : IsFront front)
include isFront

/-- A text without stars keeps the stars that it has behind it. -/
theorem dropTrailing_front (tail : Text) :
    dropTrailing (· == '*') (front ++ tail) = front ++ dropTrailing (· == '*') tail := by
  have noStar : ∀ c ∈ front, (c == '*') = false := by
    intro c member
    rw [beq_eq_false_iff_ne]
    rintro rfl
    exact absurd (isFront '*' member).1 (by decide)
  have kept : front.reverse.dropWhile (· == '*') = front.reverse := by
    apply dropWhile_eq_self
    intro c first
    exact noStar c (List.mem_reverse.mp (List.mem_of_mem_head? first))
  rw [dropTrailing, List.reverse_append, List.dropWhile_append]
  split
  case isTrue noneLeft =>
    rw [kept, dropTrailing, List.isEmpty_iff.mp noneLeft]
    simp
  case isFalse => simp [dropTrailing]

theorem endsWith_bar (tail : Text) :
    Text.endsWith (front ++ tail) ['|'] = tail.endsWith ['|'] := by
  by_cases none : tail = []
  · have noBar : '|' ∉ front := fun member => (isFront '|' member).2 rfl
    rw [none, List.append_nil]
    refine Bool.eq_false_iff.mpr fun ends => noBar ?_
    obtain ⟨before, rfl⟩ := Text.endsWith_single.mp ends
    simp
  · exact Text.endsWith_append_single none front '|'

/-- The stars and the bar at the end of a pattern are those of the text behind the hostname. -/
theorem trimStars_ofBody (tail : Text) :
    (ofBody (some .hostname) (front ++ tail)).trimStars =
      ⟨some .hostname, front ++ (openEnd tail).1, (openEnd tail).2⟩ := by
  rw [ofBody, endsWith_bar isFront, openEnd]
  split
  case isTrue barred =>
    have some : tail ≠ [] := by
      rintro rfl
      cases barred
    simp [trimStars, List.dropLast_append_of_ne_nil some]
  case isFalse => simp [trimStars, dropTrailing_front isFront]

/-- In front of an end the hostname is the whole front. -/
theorem takeHostname_front {back : Text} (ends : BeginsWithEnd back) :
    ((front ++ back).takeWhile fun c => !endsHostname c) = front ∧
      ((front ++ back).dropWhile fun c => !endsHostname c) = back := by
  have plain : ∀ c ∈ front, (!endsHostname c) = true := by
    intro c member
    rw [(isFront c member).1]
    rfl
  rw [List.takeWhile_append_of_pos plain, List.dropWhile_append_of_pos plain]
  cases back with
  | nil => simp
  | cons c back => simp [ends c rfl]

theorem asciiHostname_front : asciiHostname front =
    if front.isAscii then .ok front
    else
      match Hostname.normalize? front with
      | some normal => .ok normal
      | none => .error .punycode := by
  have noEnd : BeginsWithEnd [] := nofun
  have alone := takeHostname_front isFront noEnd
  rw [List.append_nil] at alone
  rw [asciiHostname, alone.1, alone.2]
  cases Hostname.normalize? front <;> simp

theorem asciiHostname_append {back : Text} (ends : BeginsWithEnd back) :
    asciiHostname (front ++ back) = (asciiHostname front).map (· ++ back) := by
  have whole := takeHostname_front isFront ends
  rw [asciiHostname_front isFront, asciiHostname, whole.1, whole.2]
  split
  case isTrue => rfl
  case isFalse => cases Hostname.normalize? front <;> simp [Except.map]

/-- What is derived for a hostname in small letters with text behind it. -/
theorem derive_ofBody {tail : Text} (ends : BeginsWithEnd tail) (matchCase : Bool)
    (small : (front ++ tail).lowercase = front ++ tail) :
    (ofBody (some .hostname) (front ++ tail)).derive matchCase =
      (asciiHostname front).map fun host =>
        regex ⟨some .hostname, host ++ (openEnd tail).1, (openEnd tail).2⟩ := by
  have kept := openEnd_prefix tail
  have smallFront : (front ++ (openEnd tail).1).lowercase = front ++ (openEnd tail).1 :=
    lowercase_of_subset small ((List.prefix_append_right_inj front).mpr kept).subset
  have noWebSocket : (ofBody (some .hostname) (front ++ tail)).isWebSocket = false := by
    rw [isWebSocket, ofBody_left]
    rfl
  have lowered : (if matchCase then front ++ (openEnd tail).1
      else (front ++ (openEnd tail).1).lowercase) = front ++ (openEnd tail).1 := by
    rw [smallFront, ite_self]
  have closed : isOpen ⟨some .hostname, front ++ (openEnd tail).1, (openEnd tail).2⟩ = false :=
    Bool.and_false _
  rw [derive, noWebSocket, trimStars_ofBody isFront, closed, if_neg Bool.false_ne_true,
    if_neg Bool.false_ne_true, normalize_eq_map, normalText, lowered, if_pos rfl,
    asciiHostname_append isFront (ends.of_prefix kept)]
  cases asciiHostname front <;> rfl

end Front

end Pattern

/-- A name in small letters without blanks around it is brought to ASCII form as it stands. -/
theorem Hostname.normalize?_of_small {name : Text} (beyond : name.isAscii = false)
    (noBlank : ∀ c ∈ name, isBlank c = false) (small : name.lowercase = name) :
    normalize? name = toAscii? name := by
  have trimmed : trim name = name := trim_eq_self
    (fun c first => noBlank c (List.mem_of_mem_head? first))
    (fun c last => noBlank c (List.mem_of_getLast? last))
  rw [normalize?, trimmed, small, if_neg (by simp [beyond])]

namespace UrlRule

/-- The line of a rule for the body behind two bars. -/
def hostLine (body : Text) : Text := '|' :: '|' :: body

/-- The line is read, and this is derived for its pattern. -/
def Derives (line derived : Text) : Prop :=
  ∃ rule, parse line = .ok rule ∧ rule.pattern.derived = some derived

theorem Derives.of_parse {line derived : Text}
    (parsed : parse line = .ok (ofParts line ⟨none, some derived, line⟩ OptionSet.empty)) :
    Derives line derived :=
  ⟨_, parsed, rfl⟩

theorem Derives.unique {line first second : Text} (derives : Derives line first)
    (derivesToo : Derives line second) : first = second := by
  obtain ⟨rule, parsed, isFirst⟩ := derives
  obtain ⟨other, parsedToo, isSecond⟩ := derivesToo
  obtain rfl := Except.ok.inj (parsed.symm.trans parsedToo)
  exact Option.some.inj (isFirst.symm.trans isSecond)

theorem patternTexts_hostLine (body : Text) (matchCase : Bool) :
    patternTexts (hostLine body) matchCase =
      ((Pattern.ofBody (some .hostname) body).derive matchCase).map fun derived =>
        ⟨none, some derived, hostLine body⟩ := by
  have noRegex : (Pattern.ofBody (some .hostname) body).regexBody? = none := by
    rw [Pattern.regexBody?, Pattern.ofBody_left]
  change (match (Pattern.ofBody (some .hostname) body).regexBody? with
    | some body => _
    | none => _) = _
  rw [noRegex]
  rfl

theorem derives_hostLine_iff {body derived : Text} (noMark : '$' ∉ body) :
    Derives (hostLine body) derived ↔
      (Pattern.ofBody (some .hostname) body).derive false = .ok derived := by
  have absent : cutOptions? (hostLine body) = none := by
    rw [cutOptions?_of_plain rfl]
    exact cutLast?_eq_none_iff.mpr (by simp [hostLine, noMark])
  have types : ¬(OptionSet.ofList []).types = ∅ := by decide
  have parsed : parse (hostLine body) =
      (patternTexts (hostLine body) false).map fun pattern =>
        ofParts (hostLine body) pattern (OptionSet.ofList []) := by
    have isBody : bodyOf (hostLine body) = hostLine body := rfl
    rw [parse_eq_build, isBody, absent]
    dsimp only
    rw [build, if_neg types]
    exact bind_pure_comp _ (patternTexts (hostLine body) false)
  rw [Derives, parsed, patternTexts_hostLine]
  cases (Pattern.ofBody (some .hostname) body).derive false with
  | error cause => simp [Except.map]
  | ok text => simp [Except.map, ofParts]

/-- In front of the last dollar sign stands what the text is derived from. -/
theorem exists_derive_of_marked {front rest derived : Text} (noMark : '$' ∉ rest)
    (derives : Derives (hostLine (front ++ '$' :: rest)) derived) :
    ∃ matchCase, (Pattern.ofBody (some .hostname) front).derive matchCase = .ok derived := by
  obtain ⟨rule, parsed, isDerived⟩ := derives
  have cut : cutOptions? (hostLine (front ++ '$' :: rest)) = some (hostLine front, rest) := by
    rw [cutOptions?_of_plain rfl]
    exact cutLast?Append '$' (hostLine front) noMark
  obtain ⟨raw, options, pattern, holds, -, written, rfl⟩ := parse_eq_ok parsed
  change Holds (hostLine (front ++ '$' :: rest)) raw options at holds
  cases holds with
  | whole absent => cases cut.symm.trans absent
  | cut found =>
      obtain ⟨rfl, rfl⟩ := Prod.mk.inj (Option.some.inj (cut.symm.trans found))
      rw [patternTexts_hostLine] at written
      obtain ⟨text, derives, rfl⟩ := map_eq_ok.mp written
      obtain rfl := Option.some.inj isDerived
      exact ⟨_, derives⟩

/-- The digits of a port with a colon in front; there may be no port. -/
def portText : Option Text → Text
  | none => []
  | some digits => ':' :: digits

/-- The text may be taken for a hostname: nothing in it ends one or has another meaning. -/
def isHostText (text : Text) : Bool :=
  text.all fun c => !Pattern.endsHostname c && c != ':' && c != '|' && !isBlank c

theorem plain_of_isHostText {text : Text} (isText : isHostText text = true) :
    ∀ c ∈ text, Pattern.endsHostname c = false ∧ c ≠ ':' ∧ c ≠ '|' ∧ isBlank c = false := by
  intro c member
  simpa [and_assoc] using List.all_eq_true.mp isText c member

/-- A hostname that is not in ASCII, its ASCII form, and what stands behind it: perhaps a port, and
then text that ends a hostname or nothing. Both parts are in small letters. -/
structure Punycoded (host normal : Text) (port : Option Text) (tail : Text) : Prop where
  beyond : host.isAscii = false
  hostText : isHostText host = true
  normalized : Hostname.normalize? host = some normal
  normalText : isHostText normal = true
  unmarked : '$' ∉ host ∧ '$' ∉ portText port ++ tail
  small : host.lowercase = host ∧ (portText port ++ tail).lowercase = portText port ++ tail
  digits : ∀ digits, port = some digits → ∀ c ∈ digits, c.isDigit = true
  ends : Pattern.BeginsWithEnd tail

namespace Punycoded

variable {host normal tail : Text} {port : Option Text}
  (punycoded : Punycoded host normal port tail)
include punycoded

theorem portText_plain : ∀ c ∈ portText port,
    Pattern.endsHostname c = false ∧ c ≠ '|' ∧ isBlank c = false ∧ c.toNat < 128 := by
  cases port with
  | none => nofun
  | some digits =>
      have every : (Hostname.portChars.all fun c => !Pattern.endsHostname c && c != '|' &&
          !isBlank c && c.toNat < 128) = true := by decide
      intro c member
      have inPort := Hostname.mem_portChars (punycoded.digits digits rfl) c member
      simpa [and_assoc] using List.all_eq_true.mp every c inPort

/-- A name and a port contain no end of a hostname. -/
theorem isFront {name : Text} (nameText : isHostText name = true) :
    Pattern.IsFront (name ++ portText port) := by
  intro c member
  rcases List.mem_append.mp member with inName | inPort
  · have plain := plain_of_isHostText nameText c inName
    exact ⟨plain.1, plain.2.2.1⟩
  · exact ⟨(punycoded.portText_plain c inPort).1, (punycoded.portText_plain c inPort).2.1⟩

theorem host_notBlank : ∀ c ∈ host, isBlank c = false := fun c member =>
  (plain_of_isHostText punycoded.hostText c member).2.2.2

theorem normal_small : ∀ c ∈ normal, c.toNat < 128 ∧ c.isUpper = false :=
  Text.isSmallAscii_iff.mp (Hostname.normalize?_small punycoded.normalized)

/-- The ASCII form is in small letters too. -/
theorem normal_lowercase : normal.lowercase = normal := by
  rw [lowercase_eq_self_iff]
  intro c member
  obtain ⟨ascii, noCapital⟩ := punycoded.normal_small c member
  exact LetterCase.isSmall_of_ascii ascii noCapital

theorem toAscii?_host : Hostname.toAscii? host = some normal := by
  rw [← Hostname.normalize?_of_small punycoded.beyond punycoded.host_notBlank punycoded.small.1]
  exact punycoded.normalized

theorem isAscii_hostPort : Text.isAscii (host ++ portText port) = false := by
  rw [Text.isAscii, List.all_append]
  exact (congrArg (· && _) punycoded.beyond).trans (Bool.false_and _)

/-- The name is brought to ASCII form together with the port. -/
theorem normalize?_port :
    Hostname.normalize? (host ++ portText port) = Hostname.toAscii? (host ++ portText port) := by
  apply Hostname.normalize?_of_small punycoded.isAscii_hostPort
  · intro c member
    rcases List.mem_append.mp member with inHost | inPort
    · exact punycoded.host_notBlank c inHost
    · exact (punycoded.portText_plain c inPort).2.2.1
  · apply lowercase_append punycoded.small.1
    exact lowercase_of_subset punycoded.small.2 (List.subset_append_left _ tail)

/-- The port stays behind the ASCII form exactly when the name takes it. -/
theorem normalize?_port_iff :
    Hostname.normalize? (host ++ portText port) = some (normal ++ portText port) ↔
      ∀ digits, port = some digits → Hostname.takesPort host digits = true := by
  rw [punycoded.normalize?_port]
  cases port with
  | none => simpa [portText] using punycoded.toAscii?_host
  | some digits =>
      have iff := Hostname.toAscii?_append_port_iff (punycoded.digits digits rfl)
        punycoded.toAscii?_host
      simpa [portText] using iff

/-- What is derived for the name as it is. -/
theorem derives_host_iff {derived : Text} :
    Derives (hostLine (host ++ portText port ++ tail)) derived ↔
      ∃ ascii, Hostname.normalize? (host ++ portText port) = some ascii ∧
        Pattern.regex ⟨some .hostname, ascii ++ (Pattern.openEnd tail).1,
          (Pattern.openEnd tail).2⟩ = derived := by
  have small : (host ++ portText port ++ tail).lowercase = host ++ portText port ++ tail := by
    rw [List.append_assoc]
    exact lowercase_append punycoded.small.1 punycoded.small.2
  have noMark : '$' ∉ host ++ portText port ++ tail := by
    rw [List.append_assoc, List.mem_append, not_or]
    exact punycoded.unmarked
  have beyond : ¬Text.isAscii (host ++ portText port) = true := by
    simp [punycoded.isAscii_hostPort]
  have isFront := punycoded.isFront punycoded.hostText
  rw [derives_hostLine_iff noMark, Pattern.derive_ofBody isFront punycoded.ends false small,
    Pattern.asciiHostname_front isFront, if_neg beyond]
  cases Hostname.normalize? (host ++ portText port) <;> simp [Except.map]

/-- What is derived for the ASCII form, if it has no dollar sign. -/
theorem derives_normal_iff {derived : Text} (unmarked : '$' ∉ normal) :
    Derives (hostLine (normal ++ portText port ++ tail)) derived ↔
      Pattern.regex ⟨some .hostname, normal ++ portText port ++ (Pattern.openEnd tail).1,
        (Pattern.openEnd tail).2⟩ = derived := by
  have small : (normal ++ portText port ++ tail).lowercase = normal ++ portText port ++ tail := by
    rw [List.append_assoc]
    exact lowercase_append punycoded.normal_lowercase punycoded.small.2
  have noMark : '$' ∉ normal ++ portText port ++ tail := by
    rw [List.append_assoc, List.mem_append, not_or]
    exact ⟨unmarked, punycoded.unmarked.2⟩
  have ascii : Text.isAscii (normal ++ portText port) = true := by
    apply List.all_eq_true.mpr
    intro c member
    rcases List.mem_append.mp member with inNormal | inPort
    · exact decide_eq_true (punycoded.normal_small c inNormal).1
    · exact decide_eq_true (punycoded.portText_plain c inPort).2.2.2
  have isFront := punycoded.isFront punycoded.normalText
  rw [derives_hostLine_iff noMark, Pattern.derive_ofBody isFront punycoded.ends false small,
    Pattern.asciiHostname_front isFront, if_pos ascii]
  simp [Except.map]

/-- Behind a dollar sign in the ASCII form options are read, so that less is derived. -/
theorem exists_before_of_marked {derived : Text} (marked : '$' ∈ normal)
    (derives : Derives (hostLine (normal ++ portText port ++ tail)) derived) :
    ∃ before after, normal = before ++ '$' :: after ∧
      Pattern.regex ⟨some .hostname, before, false⟩ = derived := by
  obtain ⟨before, after, cut⟩ := exists_cutLast? marked
  obtain ⟨split, noMark⟩ := cutLast?_eq_some_iff.mp cut
  refine ⟨before, after, split, ?_⟩
  have inNormal : before ⊆ normal := by
    rw [split]
    exact List.subset_append_left before _
  have noMarkBehind : '$' ∉ after ++ (portText port ++ tail) := by
    rw [List.mem_append, not_or]
    exact ⟨noMark, punycoded.unmarked.2⟩
  rw [split, List.append_assoc, List.append_assoc, List.cons_append] at derives
  obtain ⟨matchCase, derives⟩ := exists_derive_of_marked noMarkBehind derives
  have isFront : Pattern.IsFront before := fun c member =>
    punycoded.isFront punycoded.normalText c (List.mem_append_left _ (inNormal member))
  have small : (before ++ []).lowercase = before ++ [] := by
    rw [List.append_nil]
    exact lowercase_of_subset punycoded.normal_lowercase inNormal
  have ascii : before.isAscii = true :=
    List.all_eq_true.mpr fun c member =>
      decide_eq_true (punycoded.normal_small c (inNormal member)).1
  have noEnd : Pattern.BeginsWithEnd [] := nofun
  have written := Pattern.derive_ofBody isFront noEnd matchCase small
  rw [List.append_nil, Pattern.asciiHostname_front isFront, if_pos ascii] at written
  obtain rfl := Except.ok.inj (written.symm.trans derives)
  change _ = Pattern.regex ⟨some .hostname, before ++ [], false⟩
  rw [List.append_nil]

/-- A name with a port is not shorter in ASCII form, and its port has a colon. -/
theorem ne_of_normalize?_port {ascii before after back : Text}
    (found : Hostname.normalize? (host ++ portText port) = some ascii)
    (split : normal = before ++ '$' :: after) : ascii ++ back ≠ before := by
  intro same
  cases port with
  | none =>
      have whole : ascii = normal := by
        rw [portText, List.append_nil, punycoded.normalized] at found
        exact (Option.some.inj found).symm
      have length := congrArg List.length same
      simp [whole, split] at length
  | some digits =>
      rw [punycoded.normalize?_port] at found
      have colon := Hostname.colon_mem_of_toAscii? (punycoded.digits digits rfl)
        punycoded.toAscii?_host found
      have inNormal : ':' ∈ normal := by
        rw [split, ← same]
        simp [colon]
      exact (plain_of_isHostText punycoded.normalText ':' inNormal).2.1 rfl

end Punycoded

/-- The same is derived for a hostname and for its ASCII form exactly when that form has no dollar
sign and the name takes the port, if there is one. -/
theorem derives_punycoded_iff {host normal tail : Text} {port : Option Text}
    (punycoded : Punycoded host normal port tail) :
    (∃ derived, Derives (hostLine (host ++ portText port ++ tail)) derived ∧
      Derives (hostLine (normal ++ portText port ++ tail)) derived) ↔
      '$' ∉ normal ∧ ∀ digits, port = some digits → Hostname.takesPort host digits = true := by
  rw [← punycoded.normalize?_port_iff]
  constructor
  · rintro ⟨derived, fromHost, fromNormal⟩
    obtain ⟨ascii, found, sameRegex⟩ := punycoded.derives_host_iff.mp fromHost
    have unmarked : '$' ∉ normal := by
      intro marked
      obtain ⟨before, after, split, otherRegex⟩ :=
        punycoded.exists_before_of_marked marked fromNormal
      have samePattern := Pattern.eq_of_regex (by rfl) (sameRegex.trans otherRegex.symm)
      exact punycoded.ne_of_normalize?_port found split (congrArg Pattern.text samePattern)
    have otherRegex := (punycoded.derives_normal_iff unmarked).mp fromNormal
    have samePattern := Pattern.eq_of_regex (by rfl) (sameRegex.trans otherRegex.symm)
    have same := List.append_cancel_right (congrArg Pattern.text samePattern)
    exact ⟨unmarked, found.trans (congrArg some same)⟩
  · rintro ⟨unmarked, found⟩
    exact ⟨_, punycoded.derives_host_iff.mpr ⟨_, found, rfl⟩,
      (punycoded.derives_normal_iff unmarked).mpr rfl⟩

/-- The digits of a port are checked one by one. -/
theorem Punycoded.digits_of_all {port : Option Text}
    (every : (port.all fun digits => digits.all Char.isDigit) = true) :
    ∀ digits, port = some digits → ∀ c ∈ digits, c.isDigit = true := by
  intro digits isPort
  exact List.all_eq_true.mp ((Option.all_eq_true _ _).mp every digits isPort)

theorem punycoded_bookshop :
    Punycoded "bücher.example".toList "xn--bcher-kva.example".toList (some "8080".toList)
      "/ads".toList := by
  constructor
  case digits => exact Punycoded.digits_of_all (by decide)
  all_goals decide +kernel

/-- The port behind a top-level domain in ASCII is carried over. -/
theorem derives_punycoded_bookshop :
    Punycoded "bücher.example".toList "xn--bcher-kva.example".toList (some "8080".toList)
        "/ads".toList ∧
      ∃ derived, Derives (hostLine "bücher.example:8080/ads".toList) derived ∧
        Derives (hostLine "xn--bcher-kva.example:8080/ads".toList) derived := by
  refine ⟨punycoded_bookshop, (derives_punycoded_iff punycoded_bookshop).mpr ⟨by decide, ?_⟩⟩
  rintro _ ⟨⟩
  decide +kernel

/-- The port behind a label beyond ASCII gets into the code of that label, so that it is lost. -/
theorem punycodedPort_differs :
    Punycoded "例え".toList "xn--r8jz45g".toList (some "8080".toList) "^".toList ∧
      Derives (hostLine "例え:8080^".toList)
        "^[^:]+:(//)?([^/]+\\.)?xn--:8080-653dw88r([^a-zA-Z0-9_.%-]|$)".toList ∧
      ¬∃ derived, Derives (hostLine "例え:8080^".toList) derived ∧
        Derives (hostLine "xn--r8jz45g:8080^".toList) derived := by
  have punycoded : Punycoded "例え".toList "xn--r8jz45g".toList (some "8080".toList)
      "^".toList := by
    constructor
    case digits => exact Punycoded.digits_of_all (by decide)
    all_goals decide +kernel
  have fromHost : Derives (hostLine "例え:8080^".toList)
      "^[^:]+:(//)?([^/]+\\.)?xn--:8080-653dw88r([^a-zA-Z0-9_.%-]|$)".toList :=
    .of_parse (by decide +kernel)
  have fromNormal : Derives (hostLine "xn--r8jz45g:8080^".toList)
      "^[^:]+:(//)?([^/]+\\.)?xn--r8jz45g:8080([^a-zA-Z0-9_.%-]|$)".toList :=
    .of_parse (by decide +kernel)
  refine ⟨punycoded, fromHost, ?_⟩
  rintro ⟨derived, first, second⟩
  have same := (first.unique fromHost).symm.trans (second.unique fromNormal)
  exact absurd same (by decide)

end UrlRule

end Blocklist
