import GraphQLTokens.Check
import GraphQLTokens.Proofs.Diagnosis.Causes
import GraphQLTokens.Proofs.Source.Snippets

namespace GraphQLTokens.Diagnosis

open Lexing Lines

def headline (level : Level) (code : Code) (message : Text) : Text :=
  level.name ++ ('[' :: code.render ++ "]: ".toList ++ message)

def swapped (v : Verdict) : Verdict :=
  ⟨v.tokens, v.warnings, v.errors⟩

structure Written (f : SourceFile) (level : Level) (code : Code) (message rest : Text) : Prop where
  reported : ∃ d, diagnose? level (tokensOf f.content) f = .ok (some d) ∧ d.level = level ∧
    d.code = some code ∧ d.message = message
  oneLine : '\n' ∉ headline level code message
  plain : (check f level false).map (·.2) = .ok (headline level code message ++ '\n' :: rest)
  painted : (check f level true).map (·.2) =
    .ok (level.style ++ headline level code message ++ resetStyle ++ '\n' :: rest)

/-- Checks of one document at both levels and with or without colour. Either all of them overflow, or none
does; a text in memory is too short for that. -/
structure OnlyHeadline (f : SourceFile) : Prop where
  answers : f.content.length < indexLimit → ∀ level color, ∃ answer, check f level color = .ok answer
  verdicts : ∀ color color', (check f .warning color).map (·.1) = (check f .error color').map (swapped ·.1)
  silent : (∀ x ∈ tokensOf f.content, ¬ x.kind.isUnrecognized) →
    ∀ level color, (check f level color).map (·.2) = .ok []
  written : (∃ x ∈ tokensOf f.content, x.kind.isUnrecognized) →
    (∀ level color, check f level color = .error .overflow) ∨
      ∃ code message rest, ∀ level, Written f level code message rest
  reworded : (∃ x ∈ tokensOf f.content, x.kind.isUnrecognized) →
    (∀ level color, check f level color = .error .overflow) ∨
      ∃ rest, ∀ level, (check f level false).map (·.2) = .ok (level.name ++ rest)

variable {f : SourceFile} {touching : Option Token} {u m : Text} {r : Span} {F : Finding} {c : Char}

lemma hexDigit_of_mem (n : Nat) (h : c ∈ Nat.toDigits 16 n) : ∃ d < 16, c = Nat.digitChar d := by
  induction n using Nat.strongRecOn with
  | ind n ih =>
    rcases Nat.lt_or_ge n 16 with hlt | hge
    · rw [Nat.toDigits_of_lt_base hlt] at h
      exact ⟨n, hlt, List.mem_singleton.1 h⟩
    · rw [Nat.toDigits_of_base_le (by decide) hge] at h
      rcases List.mem_append.1 h with h | h
      · exact ih (n / 16) (by omega) h
      · exact ⟨n % 16, Nat.mod_lt n (by decide), List.mem_singleton.1 h⟩

lemma not_mem_numbered (c : Char) : '\n' ∉ numbered c := by
  intro h
  simp only [numbered, List.mem_append] at h
  rcases h with (h | h) | h
  · exact absurd h (by decide)
  · obtain ⟨d, hd, he⟩ := hexDigit_of_mem _ h
    exact absurd he.symm ((by decide : ∀ d < 16, Nat.digitChar d ≠ '\n') d hd)
  · exact absurd h (by decide)

lemma not_mem_escaped (quote c : Char) : '\n' ∉ escaped quote c := by
  unfold escaped
  split_ifs with _ _ hbreak
  · decide
  · decide
  · decide
  · decide
  · simpa using Ne.symm hbreak
  · exact not_mem_numbered c
  · simpa using Ne.symm hbreak

lemma not_mem_message (hF : Finding.ofRemainder touching u r = .ok F) : '\n' ∉ F.message := by
  refine ofRemainder_cases hF ?block ?string ?dots ?minus ?character
  case block =>
    intros
    exact (by decide : '\n' ∉ "unterminated block string".toList)
  case string =>
    intros
    exact (by decide : '\n' ∉ "unterminated string".toList)
  case dots =>
    intros
    have hdots : '\n' ∉ u.takeWhile (· == '.') := fun h => absurd (List.mem_takeWhile_imp h) (by decide)
    have hmessage : '\n' ∉ "invalid punctuator ".toList := by decide
    have hticked : '\n' ∉ TokenKind.ticked (u.takeWhile (· == '.')) :=
      List.not_mem_append (List.not_mem_append (by decide) hdots) (by decide)
    exact List.not_mem_append hmessage hticked
  case minus =>
    intros
    exact (by decide : '\n' ∉ "invalid number".toList)
  case character =>
    intros
    have hmessage : '\n' ∉ "unexpected character ".toList := by decide
    refine List.not_mem_append hmessage (List.not_mem_append (fun h => ?_) (by decide))
    exact not_mem_escaped _ _ (List.mem_of_ne_of_mem (by decide) h)

lemma letter_code (hF : Finding.ofRemainder touching u r = .ok F) : F.code.letter = ['E'] := by
  refine ofRemainder_cases hF ?block ?string ?dots ?minus ?character <;> intros <;> rfl

lemma not_mem_render (code : Code) (h : '\n' ∉ code.letter) : '\n' ∉ code.render := by
  have hnumber : '\n' ∉ decimal code.number := not_mem_decimal (by decide) _
  simp [Code.render, List.leftpad, h, hnumber]

lemma not_mem_headline (hF : Finding.ofRemainder touching u r = .ok F) (level : Level) :
    '\n' ∉ headline level F.code F.message := by
  have hcode := not_mem_render F.code (by simp [letter_code hF])
  have hlevel : '\n' ∉ level.name := by cases level <;> decide
  simp [headline, hlevel, hcode, not_mem_message hF]

lemma render_diagnostic (F : Finding) (level : Level) (r : Span) (f : SourceFile) :
    (F.diagnostic level r f).render f =
      headline level F.code F.message ++ '\n' :: (F.diagnostic .error r f).body f := by
  rw [Diagnostic.render]
  congr 1
  simp [Diagnostic.header, Finding.diagnostic, headline]

lemma painted_append (level : Level) (h : '\n' ∉ m) (rest : Text) :
    painted level (m ++ '\n' :: rest) = level.style ++ m ++ resetStyle ++ '\n' :: rest := by
  have hm : ∀ c ∈ m, (c != '\n') = true := by
    intro c hc
    simpa using ne_of_mem_of_not_mem hc h
  rw [painted, List.takeWhile_append_of_pos hm, List.dropWhile_append_of_pos hm]
  simp

lemma check_of_last (hlast : (tokensOf f.content).getLast? = some ⟨.unrecognized u, r⟩) (level : Level)
    (color : Bool) : check f level color =
      (Finding.ofRemainder (touchingToken (tokensOf f.content) r) u r).map fun F =>
        (⟨(tokensOf f.content).length, if level = .error then 1 else 0, if level = .error then 0 else 1⟩,
          let d := F.diagnostic level r f
          if color then painted level (d.render f) else d.render f) := by
  rw [check, report_of_last hlast]
  cases Finding.ofRemainder (touchingToken (tokensOf f.content) r) u r with
  | error => rfl
  | ok F => cases level <;> simp [Except.map, Log.written, Log.errors, Log.warnings, Finding.diagnostic]

lemma check_of_no_remainder (h : ∀ u r, (tokensOf f.content).getLast? ≠ some ⟨.unrecognized u, r⟩)
    (level : Level) (color : Bool) :
    check f level color = .ok (⟨(tokensOf f.content).length, 0, 0⟩, []) := by
  rw [check, report_of_no_remainder h]
  rfl

lemma getLast?_of_mem {t : Text} {x : Token} (hx : x ∈ tokensOf t) (hu : x.kind.isUnrecognized) :
    ∃ u r, (tokensOf t).getLast? = some ⟨.unrecognized u, r⟩ := by
  obtain ⟨kind, r⟩ := x
  rw [tokensOf_eq] at hx ⊢
  cases kind with
  | unrecognized u => exact ⟨u, r, (last_of_unrecognized hx hu).1⟩
  | identifier | int | float | string | punctuator => cases hu

lemma check_isOk (hlen : f.content.length < indexLimit) (level : Level) (color : Bool) :
    ∃ answer, check f level color = .ok answer := by
  by_cases h : ∃ u r, (tokensOf f.content).getLast? = some ⟨.unrecognized u, r⟩
  · obtain ⟨u, r, hlast⟩ := h
    obtain ⟨F, hF⟩ := exists_finding hlen hlast
    rw [check_of_last hlast, hF]
    exact ⟨_, rfl⟩
  · exact ⟨_, check_of_no_remainder (fun u r hur => h ⟨u, r, hur⟩) level color⟩

lemma written_of_last (hlast : (tokensOf f.content).getLast? = some ⟨.unrecognized u, r⟩)
    (hF : Finding.ofRemainder (touchingToken (tokensOf f.content) r) u r = .ok F) (level : Level) :
    Written f level F.code F.message ((F.diagnostic .error r f).body f) := by
  have hline := not_mem_headline hF level
  constructor
  case reported =>
    rw [diagnose?_of_last hlast, hF]
    exact ⟨_, rfl, rfl, rfl, rfl⟩
  case oneLine => exact hline
  case plain =>
    rw [check_of_last hlast, hF]
    exact congrArg Except.ok (render_diagnostic F level r f)
  case painted =>
    rw [check_of_last hlast, hF, ← painted_append level hline]
    exact congrArg (Except.ok <| painted level ·) (render_diagnostic F level r f)

lemma written_of_mem (h : ∃ x ∈ tokensOf f.content, x.kind.isUnrecognized) :
    (∀ level color, check f level color = .error .overflow) ∨
      ∃ code message rest, ∀ level, Written f level code message rest := by
  obtain ⟨x, hx, hu⟩ := h
  obtain ⟨u, r, hlast⟩ := getLast?_of_mem hx hu
  cases hF : Finding.ofRemainder (touchingToken (tokensOf f.content) r) u r with
  | error e =>
    refine .inl fun level color => ?_
    rw [check_of_last hlast, hF]
    rfl
  | ok F => exact .inr ⟨_, _, _, written_of_last hlast hF⟩

end GraphQLTokens.Diagnosis
