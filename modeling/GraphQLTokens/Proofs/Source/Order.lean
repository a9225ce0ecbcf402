import GraphQLTokens.Proofs.Source.Positions

namespace GraphQLTokens.Lines

structure Ascends (t : Text) : Prop where
  order : ∀ a b, a < b → b ≤ t.length → compare (positionAt a t) (positionAt b t) = .lt
  past : ∀ i, t.length < i → positionAt i t = positionAt t.length t
  next : ∀ i < t.length,
    positionAt (i + 1) t = ⟨(positionAt i t).line, (positionAt i t).column + 1⟩ ∨
      positionAt (i + 1) t = ⟨(positionAt i t).line + 1, 1⟩
  newLine_iff : ∀ i < t.length,
    positionAt (i + 1) t = ⟨(positionAt i t).line + 1, 1⟩ ↔ LineEndsAfter t i
  injective : ∀ a b, a ≤ t.length → b ≤ t.length → positionAt a t = positionAt b t → a = b

variable {t : Text} {p q r : Position} {a b i : Nat}

lemma compare_eq_lt_iff :
    compare p q = .lt ↔ p.line < q.line ∨ p.line = q.line ∧ p.column < q.column := by
  change (compare p.line q.line).then (compare p.column q.column) = .lt ↔ _
  rw [Ordering.then_eq_lt, Nat.compare_eq_lt, Nat.compare_eq_eq, Nat.compare_eq_lt]

lemma compare_trans (h : compare p q = .lt) (h' : compare q r = .lt) : compare p r = .lt := by
  rw [compare_eq_lt_iff] at h h' ⊢
  omega

lemma ne_of_compare_lt (h : compare p q = .lt) : p ≠ q := by
  rintro rfl
  rw [compare_eq_lt_iff] at h
  omega

lemma compare_succ (h : i < t.length) : compare (positionAt i t) (positionAt (i + 1) t) = .lt := by
  rw [compare_eq_lt_iff]
  by_cases hend : LineEndsAfter t i
  · rw [(locates_positionAt t).newLine i hend]
    exact .inl (Nat.lt_succ_self _)
  · rw [(locates_positionAt t).sameLine i h hend]
    exact .inr ⟨rfl, Nat.lt_succ_self _⟩

lemma compare_of_lt (hab : a < b) (hb : b ≤ t.length) :
    compare (positionAt a t) (positionAt b t) = .lt := by
  induction hab with
  | refl => exact compare_succ hb
  | step _ ih => exact compare_trans (ih (Nat.le_of_lt hb)) (compare_succ hb)

theorem positionAt_ascends (t : Text) : Ascends t := by
  have hlocates := locates_positionAt t
  constructor
  case order => exact fun a b hab hb => compare_of_lt hab hb
  case past => exact fun i hi => hlocates.past i (Nat.le_of_lt hi)
  case next =>
    intro i hi
    by_cases hend : LineEndsAfter t i
    · exact .inr (hlocates.newLine i hend)
    · exact .inl (hlocates.sameLine i hi hend)
  case newLine_iff =>
    intro i hi
    refine ⟨fun hnext => ?_, hlocates.newLine i⟩
    -- On the same line the line number stays.
    by_contra hend
    have hline := congrArg Position.line ((hlocates.sameLine i hi hend).symm.trans hnext)
    exact absurd hline (Nat.succ_ne_self _).symm
  case injective =>
    intro a b ha hb heq
    rcases Nat.lt_trichotomy a b with hab | hab | hba
    · exact absurd heq (ne_of_compare_lt (compare_of_lt hab hb))
    · exact hab
    · exact absurd heq.symm (ne_of_compare_lt (compare_of_lt hba ha))

end GraphQLTokens.Lines
