/-
This file reads regular expressions from text. The reader takes one character at a time and keeps
the open groups on a stack, so that a text is read part by part.
-/

import Blocklist.Proofs.Filter.Regex

namespace Blocklist.Regex

/-- An open group: the branches in front of its last bar and the parts behind it, latest first. -/
structure OpenGroup where
  branches : List Regex
  parts : List Regex
deriving DecidableEq, Repr

namespace OpenGroup

def empty : OpenGroup := ⟨[], []⟩

def add (part : Regex) (group : OpenGroup) : OpenGroup :=
  { group with parts := part :: group.parts }

/-- A bar ends a branch. -/
def endBranch (group : OpenGroup) : OpenGroup :=
  ⟨sequence group.parts.reverse :: group.branches, []⟩

def regex (group : OpenGroup) : Regex :=
  group.branches.foldl (fun later branch => .either branch later)
    (sequence group.parts.reverse)

end OpenGroup

/-- The place in a set in brackets: behind the bracket, behind the circumflex or a range, behind a
character that may begin a range, or behind the hyphen of a range. -/
inductive SetPlace where
  | opening
  | between
  | behind (c : Char)
  | range (least : Char)
deriving DecidableEq, Repr

inductive Mode where
  | plain
  | escape
  | set (set : CharSet) (place : SetPlace)
deriving DecidableEq, Repr

/-- What has been read: the innermost open group, and the groups around it. -/
structure Reader where
  mode : Mode
  group : OpenGroup
  outer : List OpenGroup
deriving DecidableEq, Repr

namespace Reader

def initial : Reader := ⟨.plain, .empty, []⟩

def add (part : Regex) (reader : Reader) : Reader :=
  { reader with mode := .plain, group := reader.group.add part }

def enterSet (set : CharSet) (place : SetPlace) (reader : Reader) : Reader :=
  { reader with mode := .set set place }

/-- A mark of repetition changes the part in front of it. -/
def change? (change : Regex → Regex) (reader : Reader) : Option Reader :=
  match reader.group.parts with
  | [] => none
  | part :: parts => some { reader with group.parts := change part :: parts }

def closeGroup? (reader : Reader) : Option Reader :=
  match reader.outer with
  | [] => none
  | group :: outer =>
      some { reader with group := group.add reader.group.regex, outer }

/-- Marks that have no meaning here, such as those of bounded repetition, are refused. -/
def stepPlain (reader : Reader) (c : Char) : Option Reader :=
  match c with
  | '\\' => some { reader with mode := .escape }
  | '.' => some (reader.add (.oneOf .all))
  | '^' => some (reader.add .start)
  | '$' => some (reader.add .finish)
  | '*' => reader.change? .many
  | '+' => reader.change? oneOrMore
  | '?' => reader.change? optional
  | '|' => some { reader with group := reader.group.endBranch }
  | '(' => some { reader with group := .empty, outer := reader.group :: reader.outer }
  | ')' => reader.closeGroup?
  | '[' => some (reader.enterSet ⟨false, []⟩ .opening)
  | ']' => none
  | '\x7b' => none
  | '\x7d' => none
  | _ => some (reader.add (.oneOf (.only c)))

def marks : Text := "\\.^$*+?|()[]\x7b\x7d".toList

theorem stepPlain_literal (reader : Reader) {c : Char} (noMark : c ∉ marks) :
    reader.stepPlain c = some (reader.add (.oneOf (.only c))) := by
  unfold stepPlain
  split
  case h_15 => rfl
  all_goals exact absurd (by decide) noMark

/-- A backslash takes its meaning from a mark; letters and digits behind it are refused. -/
def stepEscape (reader : Reader) (c : Char) : Option Reader :=
  if c.isAlphanum then none else some (reader.add (.oneOf (.only c)))

/-- The set with a character that does not begin a range, and a hyphen that does not join one. -/
def settle (set : CharSet) : SetPlace → CharSet
  | .opening => set
  | .between => set
  | .behind c => { set with ranges := set.ranges ++ [(c, c)] }
  | .range least => { set with ranges := set.ranges ++ [(least, least), ('-', '-')] }

/-- Empty sets, nested sets and escapes in a set are refused. -/
def stepSet (reader : Reader) (set : CharSet) (place : SetPlace) (c : Char) : Option Reader :=
  if c = ']' then
    if (settle set place).ranges.isEmpty then none
    else some (reader.add (.oneOf (settle set place)))
  else if c = '[' ∨ c = '\\' then none
  else
    match place with
    | .opening =>
        if c = '^' then some (reader.enterSet { set with negated := true } .between)
        else some (reader.enterSet set (.behind c))
    | .between => some (reader.enterSet set (.behind c))
    | .behind least =>
        if c = '-' then some (reader.enterSet set (.range least))
        else some (reader.enterSet (settle set place) (.behind c))
    | .range least =>
        if least ≤ c then
          some (reader.enterSet { set with ranges := set.ranges ++ [(least, c)] } .between)
        else none

def step (reader : Reader) (c : Char) : Option Reader :=
  match reader.mode with
  | .plain => reader.stepPlain c
  | .escape => reader.stepEscape c
  | .set set place => reader.stepSet set place c

def run (reader : Reader) (text : Text) : Option Reader := text.foldlM step reader

theorem run_append (reader : Reader) (text rest : Text) :
    reader.run (text ++ rest) = (reader.run text).bind fun reached => reached.run rest :=
  List.foldlM_append

/-- All groups and sets are closed at the end. -/
def finish? (reader : Reader) : Option Regex :=
  match reader.mode, reader.outer with
  | .plain, [] => some reader.group.regex
  | _, _ => none

end Reader

/-- The regular expression that a text writes. -/
def read? (text : Text) : Option Regex := (Reader.initial.run text).bind Reader.finish?

example : read? "a|(b+)?[^c-e]$".toList = some (.either (sequence [.oneOf (.only 'a')])
    (sequence [optional (sequence [oneOrMore (.oneOf (.only 'b'))]),
      .oneOf ⟨true, [('c', 'e')]⟩, .finish])) := by decide

end Blocklist.Regex
