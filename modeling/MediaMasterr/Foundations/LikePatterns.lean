import Mathlib.Data.List.Infix
import Mathlib.Data.List.Forall2

/-! # Patterns with wildcards

A pattern is a list of letters, wildcards for one letter and wildcards for any text.
Patterns are matched in pieces; a text matches every pattern that only puts wildcards
in the place of its letters. -/

namespace MediaMasterr.Foundations.LikePatterns

variable {α : Type*}

inductive Symbol (α : Type*) where
  | letter (a : α)
  | one
  | many

inductive Matches : List (Symbol α) → List α → Prop
  | nil : Matches [] []
  | letter {p t} (a : α) (h : Matches p t) : Matches (.letter a :: p) (a :: t)
  | one {p t} (a : α) (h : Matches p t) : Matches (.one :: p) (a :: t)
  | none {p t} (h : Matches p t) : Matches (.many :: p) t
  | more {p t} (a : α) (h : Matches (.many :: p) t) : Matches (.many :: p) (a :: t)

variable {p q : List (Symbol α)} {t l : List α}

@[simp] theorem matches_nil_iff : Matches [] t ↔ t = [] := by
  constructor
  · rintro ⟨⟩
    rfl
  · rintro rfl
    exact .nil

@[simp] theorem matches_letter_cons_iff {a : α} :
    Matches (.letter a :: p) t ↔ ∃ rest, t = a :: rest ∧ Matches p rest := by
  constructor
  · rintro (_ | ⟨_, h⟩)
    exact ⟨_, rfl, h⟩
  · rintro ⟨rest, rfl, h⟩
    exact h.letter a

@[simp] theorem matches_one_cons_iff :
    Matches (.one :: p) t ↔ ∃ a rest, t = a :: rest ∧ Matches p rest := by
  constructor
  · rintro (_ | _ | ⟨_, h⟩)
    exact ⟨_, _, rfl, h⟩
  · rintro ⟨a, rest, rfl, h⟩
    exact h.one a

theorem Matches.many_append (h : Matches p t) (before : List α) :
    Matches (.many :: p) (before ++ t) := by
  induction before with
  | nil => exact h.none
  | cons a before ih => exact ih.more a

@[simp] theorem matches_many_cons_iff :
    Matches (.many :: p) t ↔ ∃ before rest, t = before ++ rest ∧ Matches p rest := by
  constructor
  · intro h
    generalize hq : Symbol.many :: p = q at h
    induction h with
    | none h =>
      obtain ⟨-, rfl⟩ := List.cons.inj hq
      exact ⟨[], _, rfl, h⟩
    | more a _ ih =>
      obtain ⟨before, rest, rfl, h⟩ := ih hq
      exact ⟨a :: before, rest, rfl, h⟩
    | nil | letter | one => cases hq
  · rintro ⟨before, rest, rfl, h⟩
    exact h.many_append before

/-- A pattern is matched in pieces. -/
theorem matches_append_iff :
    Matches (p ++ q) t ↔ ∃ t₁ t₂, t = t₁ ++ t₂ ∧ Matches p t₁ ∧ Matches q t₂ := by
  induction p generalizing t with
  | nil => simp
  | cons s p ih =>
    cases s with
    | letter a =>
      simp only [List.cons_append, matches_letter_cons_iff, ih]
      constructor
      · rintro ⟨rest, rfl, t₁, t₂, rfl, h₁, h₂⟩
        exact ⟨a :: t₁, t₂, rfl, ⟨t₁, rfl, h₁⟩, h₂⟩
      · rintro ⟨_, t₂, rfl, ⟨t₁, rfl, h₁⟩, h₂⟩
        exact ⟨t₁ ++ t₂, rfl, t₁, t₂, rfl, h₁, h₂⟩
    | one =>
      simp only [List.cons_append, matches_one_cons_iff, ih]
      constructor
      · rintro ⟨a, rest, rfl, t₁, t₂, rfl, h₁, h₂⟩
        exact ⟨a :: t₁, t₂, rfl, ⟨a, t₁, rfl, h₁⟩, h₂⟩
      · rintro ⟨_, t₂, rfl, ⟨a, t₁, rfl, h₁⟩, h₂⟩
        exact ⟨a, t₁ ++ t₂, rfl, t₁, t₂, rfl, h₁, h₂⟩
    | many =>
      simp only [List.cons_append, matches_many_cons_iff, ih]
      constructor
      · rintro ⟨before, rest, rfl, t₁, t₂, rfl, h₁, h₂⟩
        exact ⟨before ++ t₁, t₂, by simp, ⟨before, t₁, rfl, h₁⟩, h₂⟩
      · rintro ⟨_, t₂, rfl, ⟨before, t₁, rfl, h₁⟩, h₂⟩
        exact ⟨before, t₁ ++ t₂, by simp, t₁, t₂, rfl, h₁, h₂⟩

/-! ## Patterns around a text -/

theorem matches_startsWith_iff : Matches (p ++ [.many]) t ↔ ∃ s, s <+: t ∧ Matches p s := by
  rw [matches_append_iff]
  constructor
  · rintro ⟨t₁, t₂, rfl, h, -⟩
    exact ⟨t₁, List.prefix_append _ _, h⟩
  · rintro ⟨s, ⟨rest, rfl⟩, h⟩
    exact ⟨s, rest, rfl, h, by simp⟩

theorem matches_endsWith_iff : Matches (.many :: p) t ↔ ∃ s, s <:+ t ∧ Matches p s := by
  rw [matches_many_cons_iff]
  constructor
  · rintro ⟨before, rest, rfl, h⟩
    exact ⟨rest, List.suffix_append _ _, h⟩
  · rintro ⟨s, ⟨before, rfl⟩, h⟩
    exact ⟨before, s, rfl, h⟩

theorem matches_contains_iff :
    Matches (.many :: (p ++ [.many])) t ↔ ∃ s, s <:+: t ∧ Matches p s := by
  rw [matches_endsWith_iff]
  simp only [matches_startsWith_iff]
  constructor
  · rintro ⟨rest, hrest, s, hs, h⟩
    exact ⟨s, hs.isInfix.trans hrest.isInfix, h⟩
  · rintro ⟨s, ⟨before, after, rfl⟩, h⟩
    refine ⟨s ++ after, ?_, s, List.prefix_append _ _, h⟩
    rw [List.append_assoc]
    exact List.suffix_append _ _

/-! ## Wildcards in the place of letters -/

/-- The symbol stands for the letter, or for more than it. -/
inductive Symbol.Covers : Symbol α → α → Prop
  | letter (a : α) : Covers (.letter a) a
  | one (a : α) : Covers .one a
  | many (a : α) : Covers .many a

theorem matches_of_covers (h : List.Forall₂ Symbol.Covers p t) : Matches p t := by
  induction h with
  | nil => exact .nil
  | cons hcovers _ ih =>
    cases hcovers with
    | letter => exact ih.letter _
    | one => exact ih.one _
    | many => exact ih.none.more _

end MediaMasterr.Foundations.LikePatterns
