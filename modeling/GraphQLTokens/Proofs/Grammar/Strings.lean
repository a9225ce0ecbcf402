import GraphQLTokens.Lexer.Recognizer
import GraphQLTokens.Proofs.Grammar.Reading

namespace GraphQLTokens.Grammar

variable {t body before after rest : Text}

lemma splitAtBlockQuote_le (b a : Text) : ∃ before after,
    splitAtBlockQuote (b ++ blockQuote ++ a) = some (before, after) ∧ before.length ≤ b.length := by
  induction b with
  | nil => exact ⟨[], a, rfl, Nat.le_refl _⟩
  | cons c b ih =>
    obtain ⟨before, after, hsplit, hle⟩ := ih
    rw [List.cons_append, List.cons_append]
    unfold splitAtBlockQuote
    split
    · simp at *
    · exact ⟨[], _, rfl, Nat.zero_le _⟩
    · rename_i he
      cases he
      refine ⟨c :: before, after, by rw [hsplit]; rfl, by simpa using hle⟩

lemma splitAtBlockQuote_eq_some_iff : splitAtBlockQuote t = some (before, after) ↔
    before ++ blockQuote ++ after = t ∧
      ∀ b a, b ++ blockQuote ++ a = t → before.length ≤ b.length := by
  constructor
  · intro h
    refine ⟨by simpa using append_of_splitAtBlockQuote h, ?_⟩
    rintro b a rfl
    obtain ⟨before', after', hsplit, hle⟩ := splitAtBlockQuote_le b a
    rw [h] at hsplit
    cases hsplit
    exact hle
  · rintro ⟨rfl, hfirst⟩
    obtain ⟨before', after', hsplit, hle⟩ := splitAtBlockQuote_le before after
    have happ : before' ++ blockQuote ++ after' = before ++ blockQuote ++ after := by
      simpa using append_of_splitAtBlockQuote hsplit
    have hlen : before'.length = before.length := Nat.le_antisymm hle (hfirst _ _ happ)
    simp only [List.append_assoc] at happ
    obtain ⟨rfl, happ⟩ := List.append_inj happ hlen
    cases List.append_cancel_left happ
    exact hsplit

lemma splitAtBlockQuote_eq_none_iff :
    splitAtBlockQuote t = none ↔ ∀ b a, b ++ blockQuote ++ a ≠ t := by
  constructor
  · rintro h b a rfl
    obtain ⟨before, after, hsplit, -⟩ := splitAtBlockQuote_le b a
    rw [h] at hsplit
    cases hsplit
  · intro h
    cases hsplit : splitAtBlockQuote t with
    | none => rfl
    | some found => exact absurd (splitAtBlockQuote_eq_some_iff.1 hsplit).1 (h _ _)

lemma blockString?_eq_some_iff : blockString? t = some (body, rest) ↔
    body ∈ blockBodies ∧ t = blockQuote ++ body ++ blockQuote ++ rest := by
  constructor
  · intro h
    refine ⟨?_, (append_of_blockString? h).symm⟩
    unfold blockString? at h
    split at h
    · obtain ⟨rfl, hfirst⟩ := splitAtBlockQuote_eq_some_iff.1 h
      intro b a hb
      exact hfirst b (a ++ rest) (by rw [← List.append_assoc, hb])
    · simp at h
  · rintro ⟨hbody, rfl⟩
    change splitAtBlockQuote (body ++ blockQuote ++ rest) = _
    refine splitAtBlockQuote_eq_some_iff.2 ⟨rfl, ?_⟩
    intro b a hb
    by_contra hlt
    have hpre : b ++ blockQuote <+: body ++ blockQuote := by
      refine List.prefix_of_prefix_length_le ⟨a, hb⟩ ⟨rest, rfl⟩ ?_
      simp
      omega
    obtain ⟨a', ha'⟩ := hpre
    exact hlt (hbody b a' ha')

lemma mem_lineBodies : body ∈ lineBodies ↔ ∀ c ∈ body, isStringScalar c := by
  simp [lineBodies, isStringScalar, isLineTerminator]

lemma mem_lineBodies_iff : body ∈ lineBodies ↔ '"' ∉ body ∧ ∀ c ∈ body, ¬ isLineTerminator c := by
  simp only [mem_lineBodies, isStringScalar, Bool.and_eq_true, Bool.not_eq_true', bne_iff_ne,
    Bool.not_eq_true]
  constructor
  · intro h
    exact ⟨fun hc => (h _ hc).1 rfl, fun c hc => (h c hc).2⟩
  · rintro ⟨hquote, hplain⟩ c hc
    exact ⟨fun he => hquote (he ▸ hc), hplain c hc⟩

lemma singleString?_eq_some_iff : singleString? t = some (body, rest) ↔
    body ∈ lineBodies ∧ t = ['"'] ++ body ++ ['"'] ++ rest := by
  rw [mem_lineBodies]
  constructor
  · intro h
    refine ⟨?_, (append_of_singleString? h).symm⟩
    unfold singleString? at h
    split at h
    · split at h
      · cases h
        exact fun c => List.mem_takeWhile_imp
      · simp at h
    · simp at h
  · rintro ⟨hbody, rfl⟩
    have hq : ¬ isStringScalar '"' := by simp [isStringScalar]
    simp [singleString?, List.takeWhile_append_of_pos hbody, List.dropWhile_append_of_pos hbody, hq]

end GraphQLTokens.Grammar
