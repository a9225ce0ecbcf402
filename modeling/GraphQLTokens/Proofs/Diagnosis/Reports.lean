import GraphQLTokens.Proofs.Diagnosis.Findings
import GraphQLTokens.Proofs.Source.Underlines

namespace GraphQLTokens.Diagnosis

open Lines

structure Reported (f : SourceFile) (level : Level) (touching : Option Token) (u : Text) (r : Span)
    (d : Diagnostic) : Prop where
  level : d.level = level
  span : d.span = exactSpan touching u r
  snippets : d.snippets.length = if d.span.start ≤ d.span.stop ∧ d.span.stop ≤ f.length then 1 else 0
  shows : ∀ s ∈ d.snippets, ∃ label, Shows f d.span (some label) s
  reads : ReadsLine f d.span.start ∧ LooksUp f d.span.stop

variable {u : Text} {touching : Option Token} {r : Span} {F : Finding} {tokens : List Token}

lemma reported_diagnostic (name t : Text) (level : Level) (hF : Finding.ofRemainder touching u r = .ok F) :
    Reported (SourceFile.ofText name t) level touching u r
      (F.diagnostic level r (SourceFile.ofText name t)) := by
  have hsnippet := snippet?_cases name t F.span (some F.label)
  constructor
  case level => rfl
  case span => exact span_of_ofRemainder hF
  case snippets =>
    rw [Finding.diagnostic]
    rcases hsnippet with ⟨hle, hin, s, hok, -⟩ | ⟨hout, e, herror⟩
    · rw [hok, if_pos ⟨hle, hin⟩]
      rfl
    · rw [herror, if_neg hout]
      rfl
  case shows =>
    intro s hs
    rw [Finding.diagnostic] at hs
    rcases hsnippet with ⟨-, -, s', hok, hshows⟩ | ⟨-, e, herror⟩
    · rw [hok] at hs
      obtain rfl := List.mem_singleton.1 hs
      exact ⟨_, hshows⟩
    · rw [herror] at hs
      cases hs
  case reads => exact ⟨readsLine name t _, looksUp_ofText name t _⟩

/-- One diagnostic is added for a remainder and none for any other list. If the end of the span to report
is no word, the report stops instead. -/
theorem report_of_tokens (level : Level) (name t : Text) (log : Log)
    (hwords : ∀ x ∈ tokens, x.span.start < indexLimit ∧ x.span.stop < indexLimit) :
    (∀ u r, tokens.getLast? = some ⟨.unrecognized u, r⟩ →
      ((exactSpan (touchingToken tokens r) u r).stop < indexLimit → ∃ d,
        report level tokens (SourceFile.ofText name t) log = .ok (1, log ++ [d]) ∧
          Reported (SourceFile.ofText name t) level (touchingToken tokens r) u r d) ∧
      (indexLimit ≤ (exactSpan (touchingToken tokens r) u r).stop →
        report level tokens (SourceFile.ofText name t) log = .error .overflow)) ∧
    ((∀ u r, tokens.getLast? ≠ some ⟨.unrecognized u, r⟩) →
      report level tokens (SourceFile.ofText name t) log = .ok (0, log)) := by
  refine ⟨fun u r hlast => ?_, fun hnone => report_of_no_remainder hnone level _ log⟩
  rw [report_of_last hlast]
  constructor
  · intro hlt
    obtain ⟨F, hF⟩ := ofRemainder_of_lt hlt
    rw [hF]
    exact ⟨_, rfl, reported_diagnostic name t level hF⟩
  · intro hle
    rw [ofRemainder_of_le (hwords _ (List.mem_of_getLast? hlast)).2 hle]
    rfl

def strayTokens : List Token :=
  [⟨.string .single [], 7, 5⟩, ⟨.unrecognized ['"', 'a'], 5, 2⟩]

theorem report_of_tokens_stray :
    (∀ x ∈ strayTokens, x.span.start < indexLimit ∧ x.span.stop < indexLimit) ∧
    strayTokens.getLast? = some ⟨.unrecognized ['"', 'a'], 5, 2⟩ ∧ ∃ d,
      report .warning strayTokens (SourceFile.ofText [] ['a', 'b', 'c']) [] = .ok (1, [d]) ∧
        Reported (SourceFile.ofText [] ['a', 'b', 'c']) .warning (some ⟨.string .single [], 7, 5⟩)
          ['"', 'a'] ⟨5, 2⟩ d ∧ d.span = ⟨7, 2⟩ := by
  have hwords : ∀ x ∈ strayTokens, x.span.start < indexLimit ∧ x.span.stop < indexLimit := by decide
  have hlast : strayTokens.getLast? = some ⟨.unrecognized ['"', 'a'], 5, 2⟩ := rfl
  obtain ⟨d, hreport, hreported⟩ :=
    ((report_of_tokens .warning [] ['a', 'b', 'c'] [] hwords).1 _ _ hlast).1 (by decide)
  exact ⟨hwords, hlast, d, hreport, hreported, hreported.span⟩

theorem report_stops :
    exactSpan none ['?'] ⟨indexLimit - 1, indexLimit - 1⟩ = ⟨indexLimit - 1, indexLimit⟩ ∧
    ∀ level log, report level [⟨.unrecognized ['?'], indexLimit - 1, indexLimit - 1⟩]
      (SourceFile.ofText [] []) log = .error .overflow :=
  ⟨rfl, fun _ _ => rfl⟩

end GraphQLTokens.Diagnosis
