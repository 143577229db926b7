/-
This file says which URLs a pattern accepts: a star stands for any text, a circumflex for a
separator or for the end of the URL, and every other character for itself, between the anchors of
the pattern. Stars at an end without an anchor ask nothing.
-/

import Blocklist.Filter.Pattern

namespace Blocklist

/-- Letters, digits and four marks stand in hostnames and path segments. -/
def isSeparator (c : Char) : Bool := !(c.isAlphanum || ['_', '.', '%', '-'].contains c)

namespace Wildcard

/-- The text of a pattern accepts a part of a URL in front of the rest of it. -/
inductive Accepts : Text → Text → Text → Prop
  | nil {rest : Text} : Accepts [] [] rest
  | star {text part rest : Text} (skipped : Text) (accepted : Accepts text part rest) :
      Accepts ('*' :: text) (skipped ++ part) rest
  | separator {c : Char} {text part rest : Text} (separates : isSeparator c = true)
      (accepted : Accepts text part rest) : Accepts ('^' :: text) (c :: part) rest
  | urlEnd {text : Text} (accepted : Accepts text [] []) : Accepts ('^' :: text) [] []
  | literal {c : Char} {text part rest : Text} (noStar : c ≠ '*') (noSeparator : c ≠ '^')
      (accepted : Accepts text part rest) : Accepts (c :: text) (c :: part) rest

section Equations

variable {text part rest : Text}

@[simp] theorem accepts_nil_iff : Accepts [] part rest ↔ part = [] := by
  constructor
  · intro accepted
    cases accepted
    rfl
  · rintro rfl
    exact .nil

theorem accepts_star_iff :
    Accepts ('*' :: text) part rest ↔
      ∃ skipped tail, part = skipped ++ tail ∧ Accepts text tail rest := by
  constructor
  · intro accepted
    cases accepted with
    | star skipped accepted => exact ⟨skipped, _, rfl, accepted⟩
    | literal noStar _ _ => exact absurd rfl noStar
  · rintro ⟨skipped, tail, rfl, accepted⟩
    exact .star skipped accepted

theorem accepts_separator_iff :
    Accepts ('^' :: text) part rest ↔
      (∃ c tail, part = c :: tail ∧ isSeparator c = true ∧ Accepts text tail rest) ∨
        (part = [] ∧ rest = [] ∧ Accepts text [] []) := by
  constructor
  · intro accepted
    cases accepted with
    | separator separates accepted => exact .inl ⟨_, _, rfl, separates, accepted⟩
    | urlEnd accepted => exact .inr ⟨rfl, rfl, accepted⟩
    | literal _ noSeparator _ => exact absurd rfl noSeparator
  · rintro (⟨c, tail, rfl, separates, accepted⟩ | ⟨rfl, rfl, accepted⟩)
    · exact .separator separates accepted
    · exact .urlEnd accepted

theorem accepts_literal_iff {c : Char} (noStar : c ≠ '*') (noSeparator : c ≠ '^') :
    Accepts (c :: text) part rest ↔ ∃ tail, part = c :: tail ∧ Accepts text tail rest := by
  constructor
  · intro accepted
    cases accepted with
    | star => exact absurd rfl noStar
    | separator => exact absurd rfl noSeparator
    | urlEnd => exact absurd rfl noSeparator
    | literal _ _ accepted => exact ⟨_, rfl, accepted⟩
  · rintro ⟨tail, rfl, accepted⟩
    exact .literal noStar noSeparator accepted

end Equations

/-- A text of stars. -/
def stars (count : Nat) : Text := List.replicate count '*'

theorem accepts_stars {part rest : Text} (count : Nat) (accepted : Accepts text part rest) :
    Accepts (stars count ++ text) part rest := by
  induction count with
  | zero => exact accepted
  | succ count inductionHypothesis => exact .star [] inductionHypothesis

/-- Stars in front skip any text, as a single star does. -/
theorem accepts_stars_append_iff {text part rest : Text} (count : Nat) :
    Accepts (stars (count + 1) ++ text) part rest ↔
      ∃ skipped tail, part = skipped ++ tail ∧ Accepts text tail rest := by
  induction count generalizing part with
  | zero => exact accepts_star_iff
  | succ count inductionHypothesis =>
      change Accepts ('*' :: (stars (count + 1) ++ text)) part rest ↔ _
      rw [accepts_star_iff]
      constructor
      · rintro ⟨skipped, _, rfl, accepted⟩
        obtain ⟨more, tail, rfl, acceptedTail⟩ := inductionHypothesis.mp accepted
        exact ⟨skipped ++ more, tail, by simp, acceptedTail⟩
      · rintro ⟨skipped, tail, rfl, accepted⟩
        exact ⟨skipped, tail, rfl, inductionHypothesis.mpr ⟨[], tail, rfl, accepted⟩⟩

/-- Stars at the end accept more of the URL, which the text in front of them need not see. -/
theorem accepts_append_stars {text part rest : Text} {count : Nat}
    (accepted : Accepts (text ++ stars count) part rest) :
    ∃ head skipped, part = head ++ skipped ∧ Accepts text head (skipped ++ rest) := by
  induction text generalizing part with
  | nil => exact ⟨[], part, rfl, .nil⟩
  | cons c text inductionHypothesis =>
      rw [List.cons_append] at accepted
      cases accepted with
      | star before accepted =>
          obtain ⟨head, skipped, rfl, inFront⟩ := inductionHypothesis accepted
          exact ⟨before ++ head, skipped, by simp, .star before inFront⟩
      | separator separates accepted =>
          obtain ⟨head, skipped, rfl, inFront⟩ := inductionHypothesis accepted
          exact ⟨_ :: head, skipped, rfl, .separator separates inFront⟩
      | urlEnd accepted =>
          -- At the end of the URL nothing is left that the stars could accept.
          obtain ⟨head, skipped, empty, inFront⟩ := inductionHypothesis accepted
          obtain ⟨rfl, rfl⟩ := List.append_eq_nil_iff.mp empty.symm
          exact ⟨[], [], rfl, .urlEnd inFront⟩
      | literal noStar noSeparator accepted =>
          obtain ⟨head, skipped, rfl, inFront⟩ := inductionHypothesis accepted
          exact ⟨c :: head, skipped, rfl, .literal noStar noSeparator inFront⟩

theorem accepts_append_stars_of_accepts {text part rest : Text} (count : Nat)
    (accepted : Accepts text part rest) : Accepts (text ++ stars count) part rest := by
  induction accepted with
  | nil => simpa using accepts_stars count .nil
  | star skipped _ inductionHypothesis => exact .star skipped inductionHypothesis
  | separator separates _ inductionHypothesis => exact .separator separates inductionHypothesis
  | urlEnd _ inductionHypothesis => exact .urlEnd inductionHypothesis
  | literal noStar noSeparator _ inductionHypothesis =>
      exact .literal noStar noSeparator inductionHypothesis

end Wildcard

open Wildcard

/-- The text in front of what is accepted: nothing behind the start of the URL, and a scheme with
perhaps two slashes and subdomains in front of a hostname. -/
def LeftAnchor.Allows (before : Text) : Option LeftAnchor → Prop
  | none => True
  | some .start => before = []
  | some .hostname => ∃ scheme slashes subdomains,
      before = scheme ++ ':' :: (slashes ++ subdomains) ∧ scheme ≠ [] ∧ ':' ∉ scheme ∧
        (slashes = [] ∨ slashes = ['/', '/']) ∧
        (subdomains = [] ∨ ∃ name, name ≠ [] ∧ '/' ∉ name ∧ subdomains = name ++ ['.'])

namespace Pattern

/-- The text of the pattern accepts a part of the URL that its anchors allow. -/
def Accepts (pattern : Pattern) (url : Text) : Prop :=
  ∃ before part after, url = before ++ (part ++ after) ∧
    LeftAnchor.Allows before pattern.left ∧ Wildcard.Accepts pattern.text part after ∧
    (pattern.endAnchored = true → after = [])

/-- Stars at an open end ask nothing of the URL. -/
theorem accepts_appendStars (left : Option LeftAnchor) (text url : Text) (count : Nat) :
    Accepts ⟨left, text ++ stars count, false⟩ url ↔ Accepts ⟨left, text, false⟩ url := by
  constructor
  · rintro ⟨before, part, after, rfl, allowed, accepted, -⟩
    obtain ⟨head, skipped, rfl, inFront⟩ := accepts_append_stars accepted
    exact ⟨before, head, skipped ++ after, by simp, allowed, inFront, by simp⟩
  · rintro ⟨before, part, after, rfl, allowed, accepted, -⟩
    exact ⟨before, part, after, rfl, allowed, accepts_append_stars_of_accepts count accepted,
      by simp⟩

/-- Stars in front make the start of the URL no matter, unless a hostname is asked for. -/
theorem accepts_starsAppend {left : Option LeftAnchor} (noHostname : left ≠ some .hostname)
    (text url : Text) (endAnchored : Bool) (count : Nat) :
    Accepts ⟨left, stars (count + 1) ++ text, endAnchored⟩ url ↔
      Accepts ⟨none, text, endAnchored⟩ url := by
  constructor
  · rintro ⟨before, part, after, rfl, -, accepted, ended⟩
    obtain ⟨skipped, tail, rfl, acceptedTail⟩ := (accepts_stars_append_iff count).mp accepted
    exact ⟨before ++ skipped, tail, after, by simp, trivial, acceptedTail, ended⟩
  · rintro ⟨before, part, after, rfl, -, accepted, ended⟩
    refine ⟨[], before ++ part, after, by simp, ?_,
      (accepts_stars_append_iff count).mpr ⟨before, part, rfl, accepted⟩, ended⟩
    cases left with
    | none => trivial
    | some anchor =>
        cases anchor with
        | start => rfl
        | hostname => exact absurd rfl noHostname

end Pattern

end Blocklist
