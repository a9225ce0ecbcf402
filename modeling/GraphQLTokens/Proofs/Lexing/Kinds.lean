import GraphQLTokens.Proofs.Lexing.Tiling

namespace GraphQLTokens.Lexing

open Grammar

inductive IsTrivia : TriviaKind → Text → Text → Prop
  | whitespace {m rest : Text} : m ≠ [] → (∀ c ∈ m, isWhitespace c) → Stops (isWhitespace ·) rest →
      IsTrivia .whitespace m rest
  | comma {rest : Text} : IsTrivia .comma [','] rest
  | comment {body rest : Text} : (∀ c ∈ body, ¬ isLineTerminator c) → AtLineEnd rest →
      IsTrivia .comment ('#' :: body) rest

structure Classified (t : Text) (tokens : List Token) (trivia : List Trivia) : Prop where
  kinds : ∀ v ∈ trivia, IsTrivia v.kind (v.span.slice t) (t.drop v.span.stop)
  unique : ∀ v ∈ trivia, ∀ kind m rest, m ++ rest = t.drop v.span.start → IsTrivia kind m rest →
    kind = v.kind ∧ m = v.span.slice t
  after_whitespace : ∀ v ∈ trivia, v.kind = .whitespace →
    ∀ w ∈ trivia, w.span.start = v.span.stop → w.kind ≠ .whitespace
  after_comment : ∀ v ∈ trivia, v.kind = .comment →
    (∀ w ∈ trivia, w.span.start = v.span.stop → w.kind = .whitespace) ∧
      ∀ x ∈ tokens, x.span.start ≠ v.span.stop
  tokens_start : ∀ x ∈ tokens, ∃ c rest, x.kind.lexeme = c :: rest ∧ t[x.span.start]? = some c ∧
    ¬ isWhitespace c ∧ c ≠ ',' ∧ c ≠ '#'

variable {t m rest : Text} {kind : TriviaKind} {v : Trivia} {x : Token}

lemma IsTrivia.stops (h : IsTrivia kind m rest) (hkind : kind = .whitespace) :
    Stops (isWhitespace ·) rest := by
  cases h with
  | whitespace _ _ hrest => exact hrest
  | comma => cases hkind
  | comment => cases hkind

lemma IsTrivia.atLineEnd (h : IsTrivia kind m rest) (hkind : kind = .comment) : AtLineEnd rest := by
  cases h with
  | whitespace => cases hkind
  | comma => cases hkind
  | comment _ hrest => exact hrest

lemma isTrivia_of_leadingTrivia? (h : leadingTrivia? t = some (kind, m, rest)) : IsTrivia kind m rest := by
  cases t with
  | nil => cases h
  | cons c t =>
    rw [leadingTrivia?] at h
    split_ifs at h with hspace hcomma hnumber
    · cases h
      refine .whitespace (List.cons_ne_nil _ _) (fun d hd => ?_) (stops_dropWhile isWhitespace t)
      rcases List.mem_cons.1 hd with rfl | hd
      · exact hspace
      · exact List.mem_takeWhile_imp hd
    · cases h
      exact hcomma ▸ .comma
    · cases h
      refine hnumber ▸ .comment (fun d hd => ?_) (atLineEnd_dropWhile t)
      simpa using List.mem_takeWhile_imp hd

lemma leadingTrivia?_of_isTrivia (h : IsTrivia kind m rest) :
    leadingTrivia? (m ++ rest) = some (kind, m, rest) := by
  cases h with
  | @whitespace m rest hne hm hrest =>
    obtain ⟨c, m, rfl⟩ := List.exists_cons_of_ne_nil hne
    have hin : ∀ d ∈ m, isWhitespace d := fun d hd => hm d (List.mem_cons_of_mem c hd)
    have htake : rest.takeWhile isWhitespace = [] ∧ rest.dropWhile isWhitespace = rest := by
      cases rest with
      | nil => exact ⟨rfl, rfl⟩
      | cons d rest => simpa using hrest
    rw [List.cons_append, leadingTrivia?_whitespace (hm c (List.mem_cons_self)),
      List.takeWhile_append_of_pos hin, List.dropWhile_append_of_pos hin, htake.1, htake.2, List.append_nil]
  | comma => rfl
  | comment hbody hrest => exact leadingTrivia?_comment hbody hrest

lemma leadingTrivia?_eq_some_iff :
    leadingTrivia? t = some (kind, m, rest) ↔ m ++ rest = t ∧ IsTrivia kind m rest := by
  constructor
  · exact fun h => ⟨(append_of_leadingTrivia? h).1, isTrivia_of_leadingTrivia? h⟩
  · rintro ⟨rfl, h⟩
    exact leadingTrivia?_of_isTrivia h

lemma leadingTrivia?_of_mem (h : v ∈ triviaIn (pieces 0 t)) :
    leadingTrivia? (t.drop v.span.start) = some (v.kind, v.span.slice t, t.drop v.span.stop) := by
  obtain ⟨m, hm, hstop⟩ := readIn_of_mem rfl (Nat.zero_le _) (mem_triviaIn.1 h)
  rw [hm, Span.slice, ← (append_of_leadingTrivia? hm).1, hstop, Nat.add_sub_cancel_left, List.take_left]

lemma head_of_mem (h : x ∈ tokensIn (pieces 0 t)) : ∃ c rest, x.kind.lexeme = c :: rest ∧
    t[x.span.start]? = some c ∧ ¬ isWhitespace c ∧ c ≠ ',' ∧ c ≠ '#' := by
  have hmem := mem_tokensIn.1 h
  have hread := readIn_of_mem rfl (Nat.zero_le _) hmem
  obtain ⟨-, hlt, hle⟩ : 0 ≤ x.span.start ∧ x.span.start < x.span.stop ∧ x.span.stop ≤ 0 + t.length :=
    (tiles_pieces 0 t).bounds (List.mem_map_of_mem hmem)
  have hstart : x.span.start < t.length := by omega
  have hdrop := List.drop_eq_getElem_cons hstart
  obtain ⟨n, hn⟩ := Nat.exists_eq_succ_of_ne_zero (Nat.sub_ne_zero_of_lt hlt)
  have hstops := leadingTrivia?_eq_none_iff.1 hread.1
  rw [hdrop, stops_cons] at hstops
  refine ⟨t[x.span.start], (t.drop (x.span.start + 1)).take n, ?_, List.getElem?_eq_getElem hstart, ?_⟩
  · rw [lexeme_eq_slice hread, Span.slice, hdrop, hn, List.take_succ_cons]
  · simpa [StartsTrivia] using hstops

lemma AtLineEnd.kind_eq (h : AtLineEnd t) (h' : leadingTrivia? t = some (kind, m, rest)) :
    kind = .whitespace := by
  cases t with
  | nil => cases h'
  | cons c t =>
    rw [leadingTrivia?_whitespace (whitespace_of_lineTerminator (h c rfl))] at h'
    cases h'
    rfl

lemma kind_ne_whitespace (h : Stops (isWhitespace ·) t) (h' : leadingTrivia? t = some (kind, m, rest)) :
    kind ≠ .whitespace := by
  rintro rfl
  obtain ⟨rfl, hm⟩ := leadingTrivia?_eq_some_iff.1 h'
  cases hm with
  | whitespace hne hm _ =>
    obtain ⟨c, m, rfl⟩ := List.exists_cons_of_ne_nil hne
    exact stops_cons.1 h (hm c List.mem_cons_self)

theorem tokensAndTriviaOf_classified (t : Text) :
    Classified t (tokensAndTriviaOf t).1 (tokensAndTriviaOf t).2 := by
  rw [tokensAndTriviaOf_eq]
  have hkind {v : Trivia} (hv : v ∈ triviaIn (pieces 0 t)) :
      IsTrivia v.kind (v.span.slice t) (t.drop v.span.stop) :=
    isTrivia_of_leadingTrivia? (leadingTrivia?_of_mem hv)
  constructor
  case kinds => exact fun v hv => hkind hv
  case unique =>
    intro v hv kind m rest hdrop hm
    have hsame := leadingTrivia?_eq_some_iff.2 ⟨hdrop, hm⟩
    rw [leadingTrivia?_of_mem hv] at hsame
    cases hsame
    exact ⟨rfl, rfl⟩
  case after_whitespace =>
    intro v hv hspace w hw hnext
    exact kind_ne_whitespace ((hkind hv).stops hspace) (hnext ▸ leadingTrivia?_of_mem hw)
  case after_comment =>
    intro v hv hcomment
    have hend := (hkind hv).atLineEnd hcomment
    refine ⟨fun w hw hnext => hend.kind_eq (hnext ▸ leadingTrivia?_of_mem hw), fun x hx hnext => ?_⟩
    obtain ⟨c, -, -, hc, hspace, -⟩ := head_of_mem hx
    rw [hnext, ← List.head?_drop] at hc
    exact hspace (whitespace_of_lineTerminator (hend c hc))
  case tokens_start => exact fun x hx => head_of_mem hx

end GraphQLTokens.Lexing
