import SqlToolkit.Proofs.SearchCondition.Truth

/-!
# Search conditions

A search condition is made of atoms by `NOT`, `AND`, `OR` and parentheses, where `NOT` binds more
tightly than `AND`, and `AND` more tightly than `OR`. The trees say how a condition is grouped, and
the lexemes of a tree say how it is written; two trees are never written alike, so the lexemes
determine the tree.
-/

namespace SqlToolkit.SearchCondition

inductive Lexeme where
  | atom (text : List Char)
  | not
  | and
  | or
  | opening
  | closing
  deriving Repr, DecidableEq

mutual

/-- An atom, a negation, or a condition in parentheses. -/
inductive Factor where
  | atom (text : List Char)
  | not (factor : Factor)
  | group (tree : Tree)

/-- Factors with `AND` between them. -/
inductive Term where
  | one (factor : Factor)
  | and (factor : Factor) (rest : Term)

/-- Terms with `OR` between them. -/
inductive Tree where
  | one (term : Term)
  | or (term : Term) (rest : Tree)

end

mutual

def Factor.spelled : Factor → List Lexeme
  | .atom text => [.atom text]
  | .not factor => .not :: factor.spelled
  | .group tree => .opening :: (tree.spelled ++ [.closing])

def Term.spelled : Term → List Lexeme
  | .one factor => factor.spelled
  | .and factor rest => factor.spelled ++ .and :: rest.spelled

def Tree.spelled : Tree → List Lexeme
  | .one term => term.spelled
  | .or term rest => term.spelled ++ .or :: rest.spelled

end

mutual

def Factor.truth (value : List Char → Truth) : Factor → Truth
  | .atom text => value text
  | .not factor => (factor.truth value).not
  | .group tree => tree.truth value

def Term.truth (value : List Char → Truth) : Term → Truth
  | .one factor => factor.truth value
  | .and factor rest => (factor.truth value).and (rest.truth value)

def Tree.truth (value : List Char → Truth) : Tree → Truth
  | .one term => term.truth value
  | .or term rest => (term.truth value).or (rest.truth value)

end

mutual

def Factor.atoms : Factor → List (List Char)
  | .atom text => [text]
  | .not factor => factor.atoms
  | .group tree => tree.atoms

def Term.atoms : Term → List (List Char)
  | .one factor => factor.atoms
  | .and factor rest => factor.atoms ++ rest.atoms

def Tree.atoms : Tree → List (List Char)
  | .one term => term.atoms
  | .or term rest => term.atoms ++ rest.atoms

end

/-! ## What is written determines the tree -/

/-- The lexemes do not go on with the given one. -/
def Ends (lexeme : Lexeme) (rest : List Lexeme) : Prop := rest.head? ≠ some lexeme

theorem ends_cons {lexeme first : Lexeme} {rest : List Lexeme} (h : first ≠ lexeme) :
    Ends lexeme (first :: rest) := fun hc => h (Option.some.inj hc)

mutual

theorem Factor.spelled_append_inj {left right : List Lexeme} :
    ∀ {f g : Factor}, f.spelled ++ left = g.spelled ++ right → f = g ∧ left = right
  | .atom text, .atom other, h => by
    obtain ⟨hhead, hrest⟩ := List.cons.inj h
    exact ⟨congrArg Factor.atom (Lexeme.atom.inj hhead), hrest⟩
  | .not f, .not g, h => by
    obtain ⟨rfl, hrest⟩ := Factor.spelled_append_inj (List.cons.inj h).2
    exact ⟨rfl, hrest⟩
  | .group x, .group y, h => by
    simp only [Factor.spelled, List.cons_append, List.append_assoc, List.nil_append] at h
    obtain ⟨rfl, hrest⟩ := Tree.spelled_append_inj (ends_cons (by decide)) (ends_cons (by decide))
      (ends_cons (by decide)) (ends_cons (by decide)) (List.cons.inj h).2
    exact ⟨rfl, (List.cons.inj hrest).2⟩
  | .atom _, .not _, h => nomatch h
  | .atom _, .group _, h => nomatch h
  | .not _, .atom _, h => nomatch h
  | .not _, .group _, h => nomatch h
  | .group _, .atom _, h => nomatch h
  | .group _, .not _, h => nomatch h

theorem Term.spelled_append_inj {left right : List Lexeme} (hl : Ends .and left)
    (hr : Ends .and right) :
    ∀ {t u : Term}, t.spelled ++ left = u.spelled ++ right → t = u ∧ left = right
  | .one f, .one g, h => by
    obtain ⟨rfl, hrest⟩ := Factor.spelled_append_inj h
    exact ⟨rfl, hrest⟩
  | .and f t, .and g u, h => by
    simp only [Term.spelled, List.append_assoc, List.cons_append] at h
    obtain ⟨rfl, hrest⟩ := Factor.spelled_append_inj h
    obtain ⟨rfl, hend⟩ := Term.spelled_append_inj hl hr (List.cons.inj hrest).2
    exact ⟨rfl, hend⟩
  | .one f, .and g u, h => by
    simp only [Term.spelled, List.append_assoc, List.cons_append] at h
    obtain ⟨-, rfl⟩ := Factor.spelled_append_inj h
    exact absurd rfl hl
  | .and f t, .one g, h => by
    simp only [Term.spelled, List.append_assoc, List.cons_append] at h
    obtain ⟨-, rfl⟩ := Factor.spelled_append_inj h
    exact absurd rfl hr

theorem Tree.spelled_append_inj {left right : List Lexeme} (hl : Ends .and left)
    (hr : Ends .and right) (hlo : Ends .or left) (hro : Ends .or right) :
    ∀ {x y : Tree}, x.spelled ++ left = y.spelled ++ right → x = y ∧ left = right
  | .one t, .one u, h => by
    obtain ⟨rfl, hrest⟩ := Term.spelled_append_inj hl hr h
    exact ⟨rfl, hrest⟩
  | .or t x, .or u y, h => by
    simp only [Tree.spelled, List.append_assoc, List.cons_append] at h
    obtain ⟨rfl, hrest⟩ :=
      Term.spelled_append_inj (ends_cons (by decide)) (ends_cons (by decide)) h
    obtain ⟨rfl, hend⟩ := Tree.spelled_append_inj hl hr hlo hro (List.cons.inj hrest).2
    exact ⟨rfl, hend⟩
  | .one t, .or u y, h => by
    simp only [Tree.spelled, List.append_assoc, List.cons_append] at h
    obtain ⟨-, rfl⟩ := Term.spelled_append_inj hl (ends_cons (by decide)) h
    exact absurd rfl hlo
  | .or t x, .one u, h => by
    simp only [Tree.spelled, List.append_assoc, List.cons_append] at h
    obtain ⟨-, rfl⟩ := Term.spelled_append_inj (ends_cons (by decide)) hr h
    exact absurd rfl hro

end

/-- Two conditions are never written alike. -/
theorem Tree.spelled_inj {x y : Tree} (h : x.spelled = y.spelled) : x = y := by
  have hnil (lexeme : Lexeme) : Ends lexeme [] := nofun
  have happend : x.spelled ++ [] = y.spelled ++ [] := by rw [h]
  exact (Tree.spelled_append_inj (hnil _) (hnil _) (hnil _) (hnil _) happend).1

end SqlToolkit.SearchCondition
