/-
This file says when a port behind a name stays as it is in the normal form. The passes over the
characters carry it along at the end of the last label. A label in ASCII keeps it there, but the
code of any other label takes it in, and the code of a label that is written in ASCII form cannot
hold it.
-/

import Blocklist.Proofs.Hostname.Labels

namespace Blocklist

open Text

/-- The fields of a text with more behind it differ in the last one. -/
theorem Text.intercalate_concat_append {separator : Char} (init : List Text) (last back : Text) :
    [separator].intercalate (init ++ [last]) ++ back =
      [separator].intercalate (init ++ [last ++ back]) := by
  induction init with
  | nil => simp
  | cons part init inductionHypothesis =>
      rw [List.cons_append, List.intercalate_cons_of_ne_nil (by simp), List.append_assoc,
        inductionHypothesis, List.cons_append, List.intercalate_cons_of_ne_nil (by simp)]

theorem Text.fields_append {separator : Char} {text last back : Text} {init : List Text}
    (split : fields separator text = init ++ [last]) (absent : separator ∉ back) :
    fields separator (text ++ back) = init ++ [last ++ back] := by
  have noSeparator : ∀ part ∈ init ++ [last], separator ∉ part := fun part member =>
    not_mem_of_mem_fields (split ▸ member)
  rw [← intercalate_fields separator text, split, intercalate_concat_append]
  apply fields_intercalate (by simp)
  intro part member
  rcases List.mem_append.mp member with early | isLast
  · exact noSeparator part (List.mem_append_left _ early)
  · rw [List.mem_singleton.mp isLast, List.mem_append, not_or]
    exact ⟨noSeparator last (by simp), absent⟩

namespace Hostname

/-- A colon and decimal digits. -/
def portChars : Text := ":0123456789".toList

theorem mem_portChars_of_isDigit {c : Char} (digit : c.isDigit = true) : c ∈ portChars := by
  have bounds : 48 ≤ c.toNat ∧ c.toNat ≤ 57 := by
    simpa [Char.isDigit, UInt32.le_iff_toNat_le] using digit
  have every : ∀ code ∈ List.range 58, 48 ≤ code → Char.ofNat code ∈ portChars := by decide
  rw [← Char.ofNat_toNat c]
  exact every c.toNat (List.mem_range.mpr (by omega)) bounds.1

/-- The character is passed on by all passes over a name, whatever stands in front of it. -/
structure IsSteady (c : Char) : Prop where
  ascii : c.toNat < 128
  image : Mapping.image? c = some [c]
  allowed : Mapping.isAllowed c = true
  starter : Composition.combiningClass c = 0
  noMark : Direction.markRanges.covers c.toNat = false
  noPoint : c ≠ '.'

theorem isSteady_of_mem {c : Char} (member : c ∈ portChars) : IsSteady c := by
  have every : (portChars.all fun c => c.toNat < 128 ∧ Mapping.image? c = some [c] ∧
      Mapping.isAllowed c = true ∧ Composition.combiningClass c = 0 ∧
      Direction.markRanges.covers c.toNat = false ∧ c ≠ '.') = true := by decide +kernel
  obtain ⟨ascii, image, allowed, starter, noMark, noPoint⟩ :=
    of_decide_eq_true (List.all_eq_true.mp every c member)
  exact ⟨ascii, image, allowed, starter, noMark, noPoint⟩

section Steady

variable {port : Text} (steady : ∀ c ∈ port, IsSteady c)
include steady

theorem mapText?_append (text : Text) :
    Mapping.mapText? (text ++ port) = (Mapping.mapText? text).map (· ++ port) := by
  have itself : ∃ images, port.mapM Mapping.image? = some images ∧ images.flatten = port := by
    induction port with
    | nil => exact ⟨[], by simp, rfl⟩
    | cons c port inductionHypothesis =>
        obtain ⟨images, mapped, joined⟩ := inductionHypothesis fun other member =>
          steady other (List.mem_cons_of_mem c member)
        refine ⟨[c] :: images, mapM_cons_eq_some_iff.mpr ⟨[c], images, ?_, mapped, rfl⟩, ?_⟩
        · exact (steady c List.mem_cons_self).image
        · rw [List.flatten_cons, joined]
          rfl
  obtain ⟨images, mapped, joined⟩ := itself
  rw [Mapping.mapText?, Mapping.mapText?, List.mapM_append, mapped]
  cases text.mapM Mapping.image? with
  | none => rfl
  | some front => simp [joined]

namespace Composition

theorem decompose_append (text : Text) : decompose (text ++ port) = decompose text ++ port := by
  have itself : decompose port = port := by
    conv_rhs => rw [← List.flatMap_singleton' port]
    apply List.flatMap_congr
    intro c member
    exact if_pos (Nat.lt_trans (steady c member).ascii (by decide))
  rw [decompose, List.flatMap_append]
  exact congrArg (decompose text ++ ·) itself

/-- Nothing moves behind a character of class zero. -/
theorem insertMark_append (mark : Char) (text : Text) :
    insertMark mark (text ++ port) = insertMark mark text ++ port := by
  induction text with
  | nil =>
      cases port with
      | nil => rfl
      | cons c port =>
          have starter := (steady c List.mem_cons_self).starter
          exact if_neg fun moves => moves.1 starter
  | cons next text inductionHypothesis =>
      rw [List.cons_append, insertMark, insertMark, inductionHypothesis]
      split <;> rfl

theorem arrange_steady : arrange port = port := by
  induction port with
  | nil => rfl
  | cons c port inductionHypothesis =>
      have later : ∀ other ∈ port, IsSteady other := fun other member =>
        steady other (List.mem_cons_of_mem c member)
      rw [arrange, List.foldr_cons]
      change insertMark c (arrange port) = _
      rw [inductionHypothesis later]
      exact insertMark_append later c []

theorem arrange_append (text : Text) : arrange (text ++ port) = arrange text ++ port := by
  induction text with
  | nil => exact arrange_steady steady
  | cons mark text inductionHypothesis =>
      rw [List.cons_append, arrange, List.foldr_cons]
      change insertMark mark (arrange (text ++ port)) = _
      rw [inductionHypothesis, insertMark_append steady]
      rfl

/-- No character is composed with a port. -/
theorem composeFrom_steady (starter : Char) (marks : Text) (lastClass : Nat) :
    composeFrom starter marks lastClass port = starter :: (marks ++ port) := by
  induction port generalizing starter marks lastClass with
  | nil => rw [composeFrom, List.append_nil]
  | cons c port inductionHypothesis =>
      have isSteady := steady c List.mem_cons_self
      have apart : composePair? starter c = none :=
        if_pos (Nat.lt_trans isSteady.ascii (by decide))
      have later := inductionHypothesis fun other member =>
        steady other (List.mem_cons_of_mem c member)
      rw [composeFrom, apart, ite_self]
      dsimp only
      rw [if_pos isSteady.starter, later]
      rfl

theorem composeFrom_append (starter : Char) (marks : Text) (lastClass : Nat) (text : Text) :
    composeFrom starter marks lastClass (text ++ port) =
      composeFrom starter marks lastClass text ++ port := by
  induction text generalizing starter marks lastClass with
  | nil => rw [List.nil_append, composeFrom_steady steady, composeFrom, List.cons_append]
  | cons c text inductionHypothesis =>
      rw [List.cons_append, composeFrom, composeFrom]
      split
      case h_1 => exact inductionHypothesis _ marks lastClass
      case h_2 =>
        split
        case isTrue => rw [inductionHypothesis, List.cons_append, List.append_assoc]
        case isFalse => exact inductionHypothesis starter _ _

theorem compose_append (text : Text) : compose (text ++ port) = compose text ++ port := by
  induction text with
  | nil =>
      cases port with
      | nil => rfl
      | cons c port =>
          have later : ∀ other ∈ port, IsSteady other := fun other member =>
            steady other (List.mem_cons_of_mem c member)
          change compose (c :: port) = c :: port
          rw [compose, if_pos (steady c List.mem_cons_self).starter, composeFrom_steady later]
          rfl
  | cons c text inductionHypothesis =>
      rw [List.cons_append, compose, compose]
      split
      case isTrue => exact composeFrom_append steady c [] 0 text
      case isFalse => rw [inductionHypothesis, List.cons_append]

theorem normalForm_append (text : Text) : normalForm (text ++ port) = normalForm text ++ port := by
  rw [normalForm, decompose_append steady, arrange_append steady, compose_append steady]
  rfl

end Composition

/-- The last label of a name takes the port. -/
theorem mappedLabels?_append {name last : Text} {init : List Text}
    (found : mappedLabels? name = some (init ++ [last])) :
    mappedLabels? (name ++ port) = some (init ++ [last ++ port]) := by
  obtain ⟨mapped, mappedName, split⟩ := Option.map_eq_some_iff.mp found
  have noPoint : '.' ∉ port := fun member => (steady '.' member).noPoint rfl
  rw [mappedLabels?, mapText?_append steady, mappedName, Option.map_some, Option.map_some,
    Composition.normalForm_append steady, fields_append split noPoint]

theorem isValidLabel_append (label : Text) : isValidLabel (label ++ port) = isValidLabel label := by
  have allowed : port.all Mapping.isAllowed = true :=
    List.all_eq_true.mpr fun c member => (steady c member).allowed
  cases label with
  | nil =>
      cases port with
      | nil => rfl
      | cons c port => simp [isValidLabel, (steady c List.mem_cons_self).noMark, allowed]
  | cons first label =>
      rw [List.cons_append, isValidLabel, isValidLabel, ← List.cons_append, List.all_append,
        allowed, Bool.and_true]

end Steady

section Digits

variable {digits : Text} (areDigits : ∀ c ∈ digits, c.isDigit = true)
include areDigits

theorem mem_portChars : ∀ c ∈ ':' :: digits, c ∈ portChars := by
  intro c member
  rcases List.mem_cons.mp member with rfl | later
  · exact List.mem_cons_self
  · exact mem_portChars_of_isDigit (areDigits c later)

theorem isSteady_port : ∀ c ∈ ':' :: digits, IsSteady c := fun c member =>
  isSteady_of_mem (mem_portChars areDigits c member)

theorem not_mem_digits {c : Char} (noDigit : c.isDigit = false) : c ∉ digits := by
  intro member
  rw [areDigits c member] at noDigit
  cases noDigit

theorem isAscii_append_port (label : Text) :
    Text.isAscii (label ++ ':' :: digits) = label.isAscii := by
  have ascii : Text.isAscii (':' :: digits) = true :=
    List.all_eq_true.mpr fun c member => decide_eq_true (isSteady_port areDigits c member).ascii
  rw [Text.isAscii, List.all_append]
  exact (congrArg (label.isAscii && ·) ascii).trans (Bool.and_true _)

/-- A label that stands for itself takes the port. -/
theorem readLabel?_append_port {label : Text} (unmarked : label.startsWith labelMark = false) :
    readLabel? (label ++ ':' :: digits) = (readLabel? label).map (· ++ ':' :: digits) := by
  have absent := startsWith_eq_false_iff.mp unmarked
  have stillAbsent : after? (label ++ ':' :: digits) labelMark = none := by
    rw [after?_append_cons (by decide), absent]
    rfl
  rw [readLabel?, readLabel?, absent, stillAbsent]
  dsimp only
  rw [isValidLabel_append (isSteady_port areDigits)]
  split <;> rfl

/-- A label in ASCII form cannot be read with a port behind it. -/
theorem readLabel?_port_of_marked {label : Text} (marked : label.startsWith labelMark = true) :
    readLabel? (label ++ ':' :: digits) = none := by
  rw [startsWith_eq_isSome, Option.isSome_iff_exists] at marked
  obtain ⟨encoded, found⟩ := marked
  have noHyphen : '-' ∉ ':' :: digits := by
    rw [List.mem_cons, not_or]
    exact ⟨by decide, not_mem_digits areDigits (by decide)⟩
  rw [readLabel?, after?_append_cons (by decide), found, Option.map_some]
  dsimp only
  rw [Punycode.decode?_eq_none (by decide) noHyphen]
  rfl

/-- The code of a label that is written in code takes the port in. -/
theorem writeLabel?_port_ne {label written : Text} (beyond : label.isAscii = false)
    (wrote : writeLabel? label = some written) :
    writeLabel? (label ++ ':' :: digits) ≠ some (written ++ ':' :: digits) := by
  intro wrotePort
  have beyondPort : Text.isAscii (label ++ ':' :: digits) = false :=
    (isAscii_append_port areDigits label).trans beyond
  rw [writeLabel?, if_neg (by simp [beyond])] at wrote
  rw [writeLabel?, if_neg (by simp [beyondPort])] at wrotePort
  obtain ⟨code, -, rfl⟩ := Option.map_eq_some_iff.mp wrote
  obtain ⟨portCode, encoded, same⟩ := Option.map_eq_some_iff.mp wrotePort
  rw [List.append_assoc] at same
  rw [List.append_cancel_left same] at encoded
  refine Punycode.encode?_ne (by decide) (by decide) ?_ ?_ encoded
  · intro c member
    exact decide_eq_true (isSteady_port areDigits c member).ascii
  · exact not_mem_digits areDigits (by decide)

namespace Direction

theorem ofChar_port : ∀ c ∈ ':' :: digits, ofChar c = .neutral ∨ ofChar c = .europeanNumber := by
  have every : (portChars.all fun c =>
      ofChar c = .neutral ∨ ofChar c = .europeanNumber) = true := by decide
  intro c member
  exact of_decide_eq_true (List.all_eq_true.mp every c (mem_portChars areDigits c member))

theorem ofChar_digit : ∀ c ∈ digits, ofChar c = .europeanNumber := by
  have every : (portChars.all fun c => c ≠ ':' → ofChar c = .europeanNumber) = true := by decide
  intro c member
  have inPort := mem_portChars_of_isDigit (areDigits c member)
  apply of_decide_eq_true (List.all_eq_true.mp every c inPort)
  rintro rfl
  exact not_mem_digits areDigits (by decide) member

theorem turns_append_port (label : Text) : turns (label ++ ':' :: digits) = turns label := by
  have still : turns (':' :: digits) = false := by
    rw [turns, List.any_eq_false]
    intro c member
    rcases ofChar_port areDigits c member with neutral | number
    · simp [neutral]
    · simp [number]
  rw [turns, List.any_append]
  exact (congrArg (turns label || ·) still).trans (Bool.or_false _)

omit areDigits in
theorem last?_concat (directions : List Direction) {direction : Direction}
    (noMark : direction ≠ .mark) : last? (directions ++ [direction]) = some direction := by
  simp [last?, noMark]

/-- A port ends in a number if it has a digit, and otherwise in a neutral character. -/
theorem last?_append_port (directions : List Direction) :
    last? (directions ++ (':' :: digits).map ofChar) =
      some (if digits = [] then .neutral else .europeanNumber) := by
  rcases List.eq_nil_or_concat digits with rfl | ⟨front, digit, rfl⟩
  · exact last?_concat directions (by decide)
  · have number : ofChar digit = .europeanNumber := ofChar_digit areDigits digit (by simp)
    rw [List.concat_eq_append, ← List.cons_append, List.map_append, ← List.append_assoc,
      List.map_singleton, number, last?_concat _ (by decide), if_neg (by simp)]

omit areDigits in
theorem ofChar_ne_rightToLeft {c : Char} (ascii : c.toNat < 128) : ofChar c ≠ .rightToLeft := by
  rw [ofChar, if_pos ascii, ofAscii]
  split
  · decide
  split
  · decide
  split <;> decide

/-- A port that is not empty keeps the direction from left to right. -/
theorem keepsLeftToRight_append_port {directions : List Direction}
    (keeps : keepsLeftToRight directions = true) :
    keepsLeftToRight (directions ++ (':' :: digits).map ofChar) = !digits.isEmpty := by
  have portKeeps : ((':' :: digits).map ofChar).all (fun direction =>
      direction == .leftToRight || direction == .europeanNumber || direction == .neutral ||
        direction == .mark) = true := by
    rw [List.all_map, List.all_eq_true]
    intro c member
    rcases ofChar_port areDigits c member with neutral | number
    · simp [neutral]
    · simp [number]
  rw [keepsLeftToRight, Bool.and_eq_true] at keeps
  rw [keepsLeftToRight, List.all_append, keeps.1, portKeeps, last?_append_port areDigits]
  cases digits <;> rfl

/-- An ASCII label that obeys the rules of direction does so with a port if neither is empty. -/
theorem obeys_append_port {label : Text} (ascii : label.isAscii = true)
    (obeysAlone : obeys label = true) :
    obeys (label ++ ':' :: digits) = (!label.isEmpty && !digits.isEmpty) := by
  cases label with
  | nil => rfl
  | cons c label =>
      rw [Text.isAscii, List.all_cons, Bool.and_eq_true, decide_eq_true_eq] at ascii
      rw [obeys, List.map_cons, List.head?_cons] at obeysAlone
      -- A label that obeys begins with a letter, and an ASCII letter stands from left to right.
      have leftToRight : ofChar c = .leftToRight := by
        have apart := ofChar_ne_rightToLeft ascii.1
        split at obeysAlone
        case h_1 noFirst => cases noFirst
        case h_2 first => exact Option.some.inj first
        case h_3 first => exact absurd (Option.some.inj first) apart
        case h_4 => cases obeysAlone
      rw [leftToRight] at obeysAlone
      have keeps := keepsLeftToRight_append_port areDigits obeysAlone
      rw [obeys, List.map_append, List.map_cons, List.cons_append, List.head?_cons, leftToRight]
      exact keeps

end Direction

end Digits

/-- The last label of the name is in ASCII and stands for itself. If a label of the name turns, the
last one is not empty, and the port has a digit. -/
def takesPort (name digits : Text) : Bool :=
  match mappedLabels? name with
  | none => false
  | some mapped =>
      let last := mapped.getLastD []
      last.isAscii && !last.startsWith labelMark &&
        (!(mapped.mapM readLabel?).any (List.any · Direction.turns) ||
          !last.isEmpty && !digits.isEmpty)

theorem eq_of_intercalate_concat {separator : Char} {init : List Text} {first second : Text}
    (same : [separator].intercalate (init ++ [first]) =
      [separator].intercalate (init ++ [second])) : first = second := by
  have split (last : Text) : [separator].intercalate (init ++ [last]) =
      [separator].intercalate (init ++ [[]]) ++ last :=
    (intercalate_concat_append init [] last).symm
  rw [split first, split second] at same
  exact List.append_cancel_left same

/-- A label without the mark stands for itself. -/
theorem eq_of_readLabel? {label read : Text} (unmarked : label.startsWith labelMark = false)
    (found : readLabel? label = some read) : read = label := by
  rw [readLabel?, startsWith_eq_false_iff.mp unmarked] at found
  dsimp only at found
  split at found
  case isTrue => exact (Option.some.inj found).symm
  case isFalse => cases found

section Name

variable {name normal digits : Text} (areDigits : ∀ c ∈ digits, c.isDigit = true)
include areDigits

/-- Labels keep the rules of direction with a port behind the last one, unless that one or the port
is empty. -/
theorem keepsDirections_append_port {init : List Text} {last : Text} (ascii : last.isAscii = true)
    (keeps : KeepsDirections (init ++ [last])) :
    KeepsDirections (init ++ [last ++ ':' :: digits]) ↔
      (init ++ [last]).any Direction.turns = false ∨
        last.isEmpty = false ∧ digits.isEmpty = false := by
  have turns : (init ++ [last ++ ':' :: digits]).any Direction.turns =
      (init ++ [last]).any Direction.turns := by
    simp [Direction.turns_append_port areDigits]
  rw [KeepsDirections, turns, ← Bool.not_eq_true, ← imp_iff_not_or]
  apply forall_congr'
  intro turning
  have obeying := keeps turning
  rw [List.all_append, Bool.and_eq_true, List.all_cons, List.all_nil, Bool.and_true] at obeying
  rw [List.all_append, obeying.1, List.all_cons, List.all_nil,
    Direction.obeys_append_port areDigits ascii obeying.2]
  simp

/-- The normal form of a name with a port is that of the name, with the port behind it, exactly when
the name takes the port. -/
theorem toAscii?_append_port_iff (found : toAscii? name = some normal) :
    toAscii? (name ++ ':' :: digits) = some (normal ++ ':' :: digits) ↔
      takesPort name digits = true := by
  obtain ⟨mapped, labels, parts, mappedLabels, read, keeps, wrote, rfl⟩ :=
    toAscii?_eq_some_iff.mp found
  rcases List.eq_nil_or_concat mapped with rfl | ⟨init, last, rfl⟩
  · exact absurd rfl (mappedLabels?_ne_nil mappedLabels)
  rw [List.concat_eq_append] at mappedLabels read
  obtain ⟨labelInit, lastLabel, readInit, readLast, rfl⟩ := mapM_concat_eq_some_iff.mp read
  obtain ⟨partInit, lastPart, wroteInit, wroteLast, rfl⟩ := mapM_concat_eq_some_iff.mp wrote
  have mappedPort := mappedLabels?_append (isSteady_port areDigits) mappedLabels
  rw [takesPort, mappedLabels, intercalate_concat_append]
  dsimp only
  rw [List.getLastD_concat, read, Option.any_some]
  simp only [Bool.and_eq_true, Bool.or_eq_true, Bool.not_eq_true']
  constructor
  · intro foundPort
    obtain ⟨_, labels, parts, mappedAgain, readPort, keepsPort, wrotePort, joined⟩ :=
      toAscii?_eq_some_iff.mp foundPort
    obtain rfl := Option.some.inj (mappedPort.symm.trans mappedAgain)
    obtain ⟨_, portLabel, readInitAgain, readPortLabel, rfl⟩ := mapM_concat_eq_some_iff.mp readPort
    obtain rfl := Option.some.inj (readInit.symm.trans readInitAgain)
    obtain ⟨_, portPart, wroteInitAgain, wrotePortPart, rfl⟩ :=
      mapM_concat_eq_some_iff.mp wrotePort
    obtain rfl := Option.some.inj (wroteInit.symm.trans wroteInitAgain)
    obtain rfl := eq_of_intercalate_concat joined
    have unmarked : last.startsWith labelMark = false := by
      rw [← Bool.not_eq_true]
      intro marked
      rw [readLabel?_port_of_marked areDigits marked] at readPortLabel
      cases readPortLabel
    obtain rfl := eq_of_readLabel? unmarked readLast
    rw [readLabel?_append_port areDigits unmarked, readLast] at readPortLabel
    obtain rfl := Option.some.inj readPortLabel
    have ascii : lastLabel.isAscii = true := by
      rw [← Bool.not_eq_false]
      exact fun beyond => writeLabel?_port_ne areDigits beyond wroteLast wrotePortPart
    exact ⟨⟨ascii, unmarked⟩, (keepsDirections_append_port areDigits ascii keeps).mp keepsPort⟩
  · rintro ⟨⟨ascii, unmarked⟩, directed⟩
    obtain rfl := eq_of_readLabel? unmarked readLast
    have readPort : readLabel? (lastLabel ++ ':' :: digits) =
        some (lastLabel ++ ':' :: digits) := by
      rw [readLabel?_append_port areDigits unmarked, readLast]
      rfl
    have wrotePort : writeLabel? (lastLabel ++ ':' :: digits) =
        some (lastPart ++ ':' :: digits) := by
      rw [writeLabel?_of_ascii ascii] at wroteLast
      obtain rfl := Option.some.inj wroteLast
      exact writeLabel?_of_ascii ((isAscii_append_port areDigits lastLabel).trans ascii)
    exact toAscii?_eq_some_iff.mpr ⟨_, _, _, mappedPort,
      mapM_concat_eq_some_iff.mpr ⟨_, _, readInit, readPort, rfl⟩,
      (keepsDirections_append_port areDigits ascii keeps).mpr directed,
      mapM_concat_eq_some_iff.mpr ⟨_, _, wroteInit, wrotePort, rfl⟩, rfl⟩

/-- The colon of the port is in the normal form, if the name has one. -/
theorem colon_mem_of_toAscii? {normalPort : Text} (found : toAscii? name = some normal)
    (foundPort : toAscii? (name ++ ':' :: digits) = some normalPort) : ':' ∈ normalPort := by
  obtain ⟨mapped, -, -, mappedLabels, -⟩ := toAscii?_eq_some_iff.mp found
  rcases List.eq_nil_or_concat mapped with rfl | ⟨init, last, rfl⟩
  · exact absurd rfl (mappedLabels?_ne_nil mappedLabels)
  rw [List.concat_eq_append] at mappedLabels
  have mappedPort := mappedLabels?_append (isSteady_port areDigits) mappedLabels
  obtain ⟨_, labels, parts, mappedAgain, readPort, -, wrotePort, rfl⟩ :=
    toAscii?_eq_some_iff.mp foundPort
  obtain rfl := Option.some.inj (mappedPort.symm.trans mappedAgain)
  obtain ⟨labelInit, portLabel, -, readLast, rfl⟩ := mapM_concat_eq_some_iff.mp readPort
  obtain ⟨partInit, portPart, -, wroteLast, rfl⟩ := mapM_concat_eq_some_iff.mp wrotePort
  cases marked : last.startsWith labelMark with
  | true =>
      rw [readLabel?_port_of_marked areDigits marked] at readLast
      cases readLast
  | false =>
      rw [readLabel?_append_port areDigits marked] at readLast
      obtain ⟨label, -, rfl⟩ := Option.map_eq_some_iff.mp readLast
      have inPart : ':' ∈ portPart := mem_writeLabel? (by decide) wroteLast (by simp)
      exact mem_intercalate_of_mem (by simp) inPart

end Name

end Hostname

end Blocklist
