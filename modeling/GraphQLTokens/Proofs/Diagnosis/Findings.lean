import GraphQLTokens.Diagnosis
import Mathlib.Data.List.Infix

namespace GraphQLTokens.Diagnosis

variable {tokens : List Token} {x : Token} {touching : Option Token} {u : Text} {r : Span}
  {F : Finding} {P : Finding → Prop}

def reportedLength (u : Text) : Nat :=
  match u with
  | '"' :: _ => (u.takeWhile (!isLineTerminator ·)).length
  | '.' :: _ => (u.takeWhile (· == '.')).length
  | _ => 1

/-- The span to report, its end not limited to a word. -/
def exactSpan (touching : Option Token) (u : Text) (r : Span) : Span :=
  match u, touching with
  | '"' :: _, some ⟨.string .single [], opening⟩ => ⟨opening.start, r.stop⟩
  | _, _ => ⟨r.start, r.start + reportedLength u⟩

lemma leading_of_lt {n : Nat} (h : r.start + n < indexLimit) :
    Finding.leading r n = .ok ⟨r.start, r.start + n⟩ := by
  rw [Finding.leading, indexSum_of_lt h]
  rfl

lemma leading_of_le {n : Nat} (h : indexLimit ≤ r.start + n) : Finding.leading r n = .error .overflow := by
  rw [Finding.leading, indexSum_of_le h]
  rfl

lemma of_leading {n : Nat} {make : Span → Finding} (h : (Finding.leading r n).map make = .ok F) :
    F = make ⟨r.start, r.start + n⟩ := by
  rcases Nat.lt_or_ge (r.start + n) indexLimit with hlt | hge
  · rw [leading_of_lt hlt] at h
    cases h
    rfl
  · rw [leading_of_le hge] at h
    cases h

@[elab_as_elim]
lemma ofRemainder_cases (h : Finding.ofRemainder touching u r = .ok F)
    (block : ∀ opening rest, u = '"' :: rest → touching = some ⟨.string .single [], opening⟩ →
      P (.unterminatedBlockString opening r))
    (string : ∀ rest, u = '"' :: rest → (∀ opening, touching ≠ some ⟨.string .single [], opening⟩) →
      P (.unterminatedString ⟨r.start, r.start + (u.takeWhile (!isLineTerminator ·)).length⟩))
    (dots : ∀ rest, u = '.' :: rest → P (.invalidPunctuator (u.takeWhile (· == '.'))
      (touching.any (·.kind.isNumber)) ⟨r.start, r.start + (u.takeWhile (· == '.')).length⟩))
    (minus : ∀ rest, u = '-' :: rest → P (.invalidNumber ⟨r.start, r.start + 1⟩))
    (character : u.head? ∉ [some '"', some '.', some '-'] →
      P (.unexpectedCharacter (u.head?.getD '\x00') ⟨r.start, r.start + 1⟩)) : P F := by
  rw [Finding.ofRemainder.eq_def] at h
  split at h
  · split at h
    · cases h
      exact block _ _ rfl rfl
    · rename_i hnone
      exact of_leading h ▸ string _ rfl hnone
  · exact of_leading h ▸ dots _ rfl
  · exact of_leading h ▸ minus _ rfl
  · rename_i c rest hquote hdot hminus
    exact of_leading h ▸ character (by simpa using ⟨hquote, hdot, hminus⟩)
  · exact of_leading h ▸ character (by decide)

lemma reportedLength_of_head (h : u.head? ∉ [some '"', some '.', some '-']) : reportedLength u = 1 := by
  rw [reportedLength.eq_def]
  split
  · exact absurd (by simp) h
  · exact absurd (by simp) h
  · rfl

lemma exactSpan_of_ne (h : ∀ rest opening, u = '"' :: rest → touching ≠ some ⟨.string .single [], opening⟩)
    (r : Span) : exactSpan touching u r = ⟨r.start, r.start + reportedLength u⟩ := by
  rw [exactSpan.eq_def]
  split
  · exact absurd rfl (h _ _ rfl)
  · rfl

lemma exactSpan_of_head (h : u.head? ≠ some '"') (touching : Option Token) (r : Span) :
    exactSpan touching u r = ⟨r.start, r.start + reportedLength u⟩ := by
  refine exactSpan_of_ne ?_ r
  rintro rest opening rfl
  exact absurd rfl h

lemma span_of_ofRemainder (h : Finding.ofRemainder touching u r = .ok F) :
    F.span = exactSpan touching u r := by
  refine ofRemainder_cases h ?block ?string ?dots ?minus ?character
  case block =>
    rintro opening rest rfl rfl
    rfl
  case string =>
    rintro rest rfl hnone
    rw [exactSpan_of_ne fun _ opening _ => hnone opening]
    rfl
  case dots =>
    rintro rest rfl
    rw [exactSpan_of_head (by simp)]
    rfl
  case minus =>
    rintro rest rfl
    rw [exactSpan_of_head (by simp)]
    rfl
  case character =>
    intro hhead
    rw [exactSpan_of_head fun h => hhead (h ▸ .head _), reportedLength_of_head hhead]
    rfl

lemma ofRemainder_eq (touching : Option Token) (u : Text) (r : Span) :
    (∃ F, Finding.ofRemainder touching u r = .ok F ∧ (exactSpan touching u r).stop = r.stop) ∨
      exactSpan touching u r = ⟨r.start, r.start + reportedLength u⟩ ∧ ∃ make : Span → Finding,
        Finding.ofRemainder touching u r = (Finding.leading r (reportedLength u)).map make := by
  rw [Finding.ofRemainder.eq_def]
  split
  · split
    · exact .inl ⟨_, rfl, rfl⟩
    · rename_i hnone
      exact .inr ⟨exactSpan_of_ne (fun _ opening _ => hnone opening) r, _, rfl⟩
  · exact .inr ⟨exactSpan_of_head (by simp) _ r, _, rfl⟩
  · exact .inr ⟨exactSpan_of_head (by simp) _ r, _, rfl⟩
  · rename_i c rest hquote hdot hminus
    refine .inr ⟨exactSpan_of_head (by simpa using hquote) _ r, .unexpectedCharacter c, ?_⟩
    rw [reportedLength_of_head (by simpa using ⟨hquote, hdot, hminus⟩)]
  · exact .inr ⟨exactSpan_of_head (by simp) _ r, _, rfl⟩

lemma ofRemainder_of_lt (h : (exactSpan touching u r).stop < indexLimit) :
    ∃ F, Finding.ofRemainder touching u r = .ok F := by
  rcases ofRemainder_eq touching u r with ⟨F, hF, -⟩ | ⟨hspan, make, hmake⟩
  · exact ⟨F, hF⟩
  · rw [hspan] at h
    rw [hmake, leading_of_lt h]
    exact ⟨_, rfl⟩

lemma ofRemainder_of_le (hr : r.stop < indexLimit) (h : indexLimit ≤ (exactSpan touching u r).stop) :
    Finding.ofRemainder touching u r = .error .overflow := by
  rcases ofRemainder_eq touching u r with ⟨F, -, hstop⟩ | ⟨hspan, make, hmake⟩
  · exact absurd (hstop.trans_lt hr) (Nat.not_lt.2 h)
  · rw [hspan] at h
    rw [hmake, leading_of_le h]
    rfl

lemma reportedLength_le (h : u ≠ []) : reportedLength u ≤ u.length := by
  rw [reportedLength.eq_def]
  split
  · exact (List.takeWhile_prefix _).length_le
  · exact (List.takeWhile_prefix _).length_le
  · exact List.length_pos_iff.2 h

lemma exactSpan_stop_le (h : u ≠ []) (hr : r.start + u.length ≤ r.stop) (touching : Option Token) :
    (exactSpan touching u r).stop ≤ r.stop := by
  rw [exactSpan.eq_def]
  split
  · exact Nat.le_refl _
  · exact (Nat.add_le_add_left (reportedLength_le h) _).trans hr

def touchingToken (tokens : List Token) (r : Span) : Option Token :=
  tokens.dropLast.getLast?.filter (·.span.stop == r.start)

lemma mem_of_touching (h : x ∈ touchingToken tokens r) : x ∈ tokens ∧ x.span.stop = r.start := by
  obtain ⟨hx, hstop⟩ := Option.filter_eq_some_iff.1 h
  exact ⟨List.mem_of_mem_dropLast (List.mem_of_getLast? hx), by simpa using hstop⟩

lemma diagnose?_of_last (hlast : tokens.getLast? = some ⟨.unrecognized u, r⟩) (level : Level)
    (file : SourceFile) : diagnose? level tokens file =
      (Finding.ofRemainder (touchingToken tokens r) u r).map fun F => some (F.diagnostic level r file) := by
  rw [diagnose?, hlast]
  rfl

lemma diagnose?_of_no_remainder (h : ∀ u r, tokens.getLast? ≠ some ⟨.unrecognized u, r⟩) (level : Level)
    (file : SourceFile) : diagnose? level tokens file = .ok none := by
  rw [diagnose?]
  split
  case h_1 u r hlast => exact absurd hlast (h u r)
  case h_2 => rfl

lemma report_of_last (hlast : tokens.getLast? = some ⟨.unrecognized u, r⟩) (level : Level)
    (file : SourceFile) (log : Log) : report level tokens file log =
      (Finding.ofRemainder (touchingToken tokens r) u r).map fun F =>
        (1, log ++ [F.diagnostic level r file]) := by
  rw [report, diagnose?_of_last hlast]
  cases Finding.ofRemainder (touchingToken tokens r) u r <;> rfl

lemma report_of_no_remainder (h : ∀ u r, tokens.getLast? ≠ some ⟨.unrecognized u, r⟩) (level : Level)
    (file : SourceFile) (log : Log) : report level tokens file log = .ok (0, log) := by
  rw [report, diagnose?_of_no_remainder h]
  rfl

end GraphQLTokens.Diagnosis
