import GraphQLTokens.Proofs.Grammar.Chain
import GraphQLTokens.Proofs.Lexing.Pieces
import Mathlib.Data.List.Sort

namespace GraphQLTokens.Lexing

open Grammar
open scoped List

variable {start stop lo hi i : Nat} {t s : Text} {p : Piece} {ps front back : List Piece} {x : Token}
  {v : Trivia} {spans : List Span}

def Tiles : Nat → List Span → Nat → Prop
  | lo, [], hi => lo = hi
  | lo, s :: spans, hi => s.start = lo ∧ lo < s.stop ∧ Tiles s.stop spans hi

lemma tiles_pieces (start : Nat) (t : Text) :
    Tiles start ((pieces start t).map Piece.span) (start + t.length) := by
  fun_induction pieces start t with
  | case1 start t kind m rest h _ ih =>
    obtain ⟨rfl, hne⟩ := append_of_leadingTrivia? h
    refine ⟨rfl, Nat.lt_add_of_pos_right (List.length_pos_iff.2 hne), ?_⟩
    rwa [List.length_append, ← Nat.add_assoc]
  | case2 start t h k rest hk _ stop ih =>
    obtain ⟨rfl, hne⟩ := append_of_firstToken hk
    refine ⟨rfl, Nat.lt_add_of_pos_right (List.length_pos_iff.2 hne), ?_⟩
    rwa [List.length_append, ← Nat.add_assoc]
  | case3 start t h hk hempty => simp_all [Tiles]
  | case4 start t h hk hempty =>
    refine ⟨rfl, Nat.lt_add_of_pos_right (List.length_pos_iff.2 ?_), rfl⟩
    simpa using hempty

lemma Tiles.le (h : Tiles lo spans hi) : lo ≤ hi := by
  induction spans generalizing lo with
  | nil => exact Nat.le_of_eq h
  | cons s spans ih =>
    obtain ⟨-, hlt, h⟩ := h
    exact hlt.le.trans (ih h)

lemma Tiles.bounds (h : Tiles lo spans hi) {s : Span} (hs : s ∈ spans) :
    lo ≤ s.start ∧ s.start < s.stop ∧ s.stop ≤ hi := by
  induction spans generalizing lo with
  | nil => simp at hs
  | cons s' spans ih =>
    obtain ⟨rfl, hlt, h⟩ := h
    rcases List.mem_cons.1 hs with rfl | hs
    · exact ⟨Nat.le_refl _, hlt, h.le⟩
    · obtain ⟨hlo, hs⟩ := ih h hs
      exact ⟨hlt.le.trans hlo, hs⟩

lemma Tiles.pairwise (h : Tiles lo spans hi) : spans.Pairwise (·.stop ≤ ·.start) := by
  induction spans generalizing lo with
  | nil => exact .nil
  | cons s spans ih =>
    obtain ⟨-, -, h⟩ := h
    exact .cons (fun s' hs' => (h.bounds hs').1) (ih h)

lemma Tiles.ascending (h : Tiles lo spans hi) : spans.Pairwise (·.start < ·.start) := by
  refine h.pairwise.imp_of_mem ?_
  intro a b ha _ hab
  exact (h.bounds ha).2.1.trans_le hab

def Covers (i : Nat) (s : Span) : Bool :=
  s.start ≤ i && i < s.stop

lemma Tiles.countP_covers (h : Tiles lo spans hi) (i : Nat) :
    spans.countP (Covers i) = if lo ≤ i ∧ i < hi then 1 else 0 := by
  induction spans generalizing lo with
  | nil =>
    obtain rfl : lo = hi := h
    rw [if_neg (by omega)]
    rfl
  | cons s spans ih =>
    obtain ⟨rfl, hlt, h⟩ := h
    have hle := h.le
    rw [List.countP_cons, ih h]
    simp only [Covers, Bool.and_eq_true, decide_eq_true_eq]
    split_ifs <;> omega

lemma Tiles.flatMap_slice (h : Tiles lo spans hi) (t : Text) :
    spans.flatMap (·.slice t) = (t.drop lo).take (hi - lo) := by
  induction spans generalizing lo with
  | nil =>
    obtain rfl : lo = hi := h
    simp
  | cons s spans ih =>
    obtain ⟨rfl, hlt, h⟩ := h
    have hle := h.le
    have hsplit : hi - s.start = (s.stop - s.start) + (hi - s.stop) := by omega
    have hdrop : s.start + (s.stop - s.start) = s.stop := by omega
    rw [List.flatMap_cons, ih h, hsplit, List.take_add, List.drop_drop, hdrop]
    rfl

def ReadIn (t : Text) : Piece → Prop
  | .trivia v => ∃ m, leadingTrivia? (t.drop v.span.start) = some (v.kind, m, t.drop v.span.stop) ∧
      v.span.stop = v.span.start + m.length
  | .token x => leadingTrivia? (t.drop x.span.start) = none ∧
      ((firstToken Recognizer.order (t.drop x.span.start) = some (x.kind, t.drop x.span.stop) ∧
        x.span.stop = x.span.start + x.kind.lexeme.length) ∨
      (firstToken Recognizer.order (t.drop x.span.start) = none ∧
        x.kind = .unrecognized (t.drop x.span.start) ∧ x.span.stop = t.length))

lemma drop_of_append {m rest : Text} (h : m ++ rest = t.drop start) :
    rest = t.drop (start + m.length) := by
  rw [← List.drop_drop, ← h, List.drop_left]

lemma length_of_append {m rest : Text} (h : t.drop start = m ++ rest) (hne : m ≠ []) :
    t.length = start + m.length + rest.length := by
  have hpos := List.length_pos_iff.2 hne
  have hlen := congrArg List.length h
  rw [List.length_drop, List.length_append] at hlen
  omega

lemma readIn_of_mem (hs : s = t.drop start) (hle : start ≤ t.length) (hp : p ∈ pieces start s) :
    ReadIn t p := by
  fun_induction pieces start s with
  | case1 start s kind m rest h _ ih =>
    have happ := (append_of_leadingTrivia? h).1
    have hlen := congrArg List.length happ
    rw [hs] at h happ hlen
    rw [List.length_append, List.length_drop] at hlen
    obtain rfl := drop_of_append happ
    rcases List.mem_cons.1 hp with rfl | hp
    · exact ⟨m, h, rfl⟩
    · exact ih rfl (by omega) hp
  | case2 start s h k rest hk _ stop ih =>
    have happ := (append_of_firstToken hk).1
    have hlen := congrArg List.length happ
    rw [hs] at h hk happ hlen
    rw [List.length_append, List.length_drop] at hlen
    obtain rfl := drop_of_append happ
    rcases List.mem_cons.1 hp with rfl | hp
    · exact ⟨h, .inl ⟨hk, rfl⟩⟩
    · exact ih rfl (by omega) hp
  | case3 => simp at hp
  | case4 start s h hk hempty =>
    obtain rfl := List.mem_singleton.1 hp
    refine ⟨hs ▸ h, .inr ⟨hs ▸ hk, hs ▸ rfl, ?_⟩⟩
    rw [hs, List.length_drop]
    exact Nat.add_sub_cancel' hle

def endFrom (start : Nat) (ps : List Piece) : Nat :=
  (ps.getLast?.map (·.span.stop)).getD start

lemma endFrom_cons (start : Nat) (p : Piece) (ps : List Piece) :
    endFrom start (p :: ps) = endFrom p.span.stop ps := by
  rw [endFrom, endFrom, List.getLast?_cons]
  cases ps.getLast? <;> rfl

lemma pieces_tail (h : pieces start (t.drop start) = p :: ps) :
    ps = pieces p.span.stop (t.drop p.span.stop) := by
  cases hm : leadingTrivia? (t.drop start) with
  | some found =>
    obtain ⟨kind, m, rest⟩ := found
    rw [pieces_of_trivia hm, drop_of_append (append_of_leadingTrivia? hm).1] at h
    obtain ⟨rfl, rfl⟩ := List.cons.inj h
    rfl
  | none =>
    cases hk : firstToken Recognizer.order (t.drop start) with
    | some found =>
      obtain ⟨k, rest⟩ := found
      rw [pieces_of_token hm hk, drop_of_append (append_of_firstToken hk).1] at h
      obtain ⟨rfl, rfl⟩ := List.cons.inj h
      rfl
    | none =>
      have hne : t.drop start ≠ [] := by
        intro he
        simp [he] at h
      rw [pieces_of_none hm hk hne] at h
      obtain ⟨rfl, rfl⟩ := List.cons.inj h
      have hdone : t.drop (start + (t.drop start).length) = [] := by
        rw [← List.drop_drop, List.drop_length]
      rw [Piece.span, hdone, pieces_nil]

lemma pieces_after (h : pieces start (t.drop start) = front ++ back) :
    back = pieces (endFrom start front) (t.drop (endFrom start front)) := by
  induction front generalizing start with
  | nil => exact h.symm
  | cons p front ih =>
    rw [endFrom_cons]
    exact ih (pieces_tail h).symm

lemma pieces_split (hs : s = t.drop start) (hp : p ∈ pieces start s) :
    ∃ front, pieces start s = front ++ p :: pieces p.span.stop (t.drop p.span.stop) := by
  subst hs
  obtain ⟨front, back, h⟩ := List.append_of_mem hp
  have hfront : pieces start (t.drop start) = front ++ [p] ++ back := h.trans (List.append_cons ..)
  have hback := pieces_after hfront
  rw [endFrom, List.getLast?_concat] at hback
  exact ⟨front, hback ▸ h⟩

lemma lexeme_eq_slice (h : ReadIn t (.token x)) : x.kind.lexeme = x.span.slice t := by
  obtain ⟨-, ⟨hk, hstop⟩ | ⟨-, hk, hstop⟩⟩ := h
  · rw [Span.slice, ← (append_of_firstToken hk).1, hstop, Nat.add_sub_cancel_left, List.take_left]
  · rw [Span.slice, hk, hstop, ← List.length_drop, List.take_length]
    rfl

def Piece.text (t : Text) : Piece → Text
  | .token x => x.kind.lexeme
  | .trivia v => v.span.slice t

lemma Piece.text_eq_slice (h : ReadIn t p) : p.text t = p.span.slice t := by
  cases p with
  | token x => exact lexeme_eq_slice h
  | trivia v => rfl

lemma flatMap_text (t : Text) : (pieces 0 t).flatMap (Piece.text t) = t := by
  have htext : (pieces 0 t).map (Piece.text t) = ((pieces 0 t).map Piece.span).map (·.slice t) := by
    rw [List.map_map]
    apply List.map_congr_left
    intro p hp
    exact Piece.text_eq_slice (readIn_of_mem rfl (Nat.zero_le _) hp)
  have hslice := (tiles_pieces 0 t).flatMap_slice t
  rw [List.flatMap_def, ← htext, ← List.flatMap_def] at hslice
  simpa using hslice

section Parts

variable {β : Type} (ps)

lemma perm_map_pieces (f : Piece → β) : (tokensIn ps).map (fun x => f (.token x)) ++
    (triviaIn ps).map (fun v => f (.trivia v)) ~ ps.map f := by
  induction ps with
  | nil => rfl
  | cons p ps ih =>
    cases p with
    | token x => exact ih.cons _
    | trivia v => exact List.perm_middle.trans (ih.cons _)

lemma tokensIn_sublist : (tokensIn ps).map (·.span) <+ ps.map Piece.span := by
  induction ps with
  | nil => rfl
  | cons p ps ih =>
    cases p with
    | token x => exact ih.cons_cons _
    | trivia v => exact ih.cons _

lemma triviaIn_sublist : (triviaIn ps).map (·.span) <+ ps.map Piece.span := by
  induction ps with
  | nil => rfl
  | cons p ps ih =>
    cases p with
    | token x => exact ih.cons _
    | trivia v => exact ih.cons_cons _

end Parts

lemma mergeSort_eq_of_perm {α : Type} {key : α → Nat} {l l' : List α} (h : l ~ l')
    (hs : l'.Pairwise (key · < key ·)) : l.mergeSort (key · ≤ key ·) = l' := by
  have hsorted : (l.mergeSort (key · ≤ key ·)).Pairwise (key · ≤ key ·) := by
    have hpair : (l.mergeSort (key · ≤ key ·)).Pairwise (decide <| key · ≤ key ·) :=
      List.pairwise_mergeSort (fun a b c hab hbc => by simp at *; omega) (fun a b => by simp; omega) l
    simpa using hpair
  have hperm := (List.mergeSort_perm l (key · ≤ key ·)).trans h
  refine hperm.eq_of_pairwise ?_ hsorted (hs.imp le_of_lt)
  have hkeys : (l'.map key).Nodup := List.pairwise_map.2 (hs.imp ne_of_lt)
  intro a b ha hb hab hba
  exact List.inj_on_of_nodup_map hkeys (hperm.mem_iff.1 ha) hb (Nat.le_antisymm hab hba)

lemma pieces_remainder (start : Nat) (t : Text) : ∃ body last, pieces start t = body ++ last ∧
    (∀ x ∈ tokensIn body, ¬ x.kind.isUnrecognized) ∧
      (last = [] ∨ ∃ u n, last = [.token ⟨.unrecognized u, n, start + t.length⟩]) := by
  fun_induction pieces start t with
  | case1 start t kind m rest h _ ih =>
    obtain ⟨rfl, -⟩ := append_of_leadingTrivia? h
    obtain ⟨body, last, heq, hbody, hlast⟩ := ih
    refine ⟨_ :: body, last, congrArg _ heq, hbody, ?_⟩
    rwa [List.length_append, ← Nat.add_assoc]
  | case2 start t h k rest hk _ stop ih =>
    obtain ⟨rfl, -⟩ := append_of_firstToken hk
    obtain ⟨body, last, heq, hbody, hlast⟩ := ih
    refine ⟨_ :: body, last, congrArg _ heq, ?_, ?_⟩
    · intro x hx
      rcases List.mem_cons.1 hx with rfl | hx
      · exact not_unrecognized_of_firstToken hk
      · exact hbody x hx
    · rwa [List.length_append, ← Nat.add_assoc]
  | case3 => exact ⟨[], [], rfl, by simp, .inl rfl⟩
  | case4 start t => exact ⟨[], _, rfl, by simp, .inr ⟨t, start, rfl⟩⟩

lemma countP_unrecognized_le (start : Nat) (t : Text) :
    (tokensIn (pieces start t)).countP (·.kind.isUnrecognized) ≤ 1 := by
  obtain ⟨body, last, heq, hbody, hlast⟩ := pieces_remainder start t
  have hnone : (tokensIn body).countP (·.kind.isUnrecognized) = 0 := List.countP_eq_zero.2 hbody
  rw [heq, tokensIn_append, List.countP_append, hnone]
  rcases hlast with rfl | ⟨u, n, rfl⟩ <;> simp [TokenKind.isUnrecognized]

lemma last_of_unrecognized (hx : x ∈ tokensIn (pieces start t)) (hu : x.kind.isUnrecognized) :
    (tokensIn (pieces start t)).getLast? = some x ∧ x.span.stop = start + t.length ∧
      ∀ v ∈ triviaIn (pieces start t), v.span.stop ≤ x.span.start := by
  have hpair := (tiles_pieces start t).pairwise
  obtain ⟨body, last, heq, hbody, hlast⟩ := pieces_remainder start t
  rw [heq] at hx hpair ⊢
  rw [tokensIn_append] at hx ⊢
  rcases List.mem_append.1 hx with hx | hx
  · exact absurd hu (hbody x hx)
  · rcases hlast with rfl | ⟨u, n, rfl⟩
    · simp at hx
    · obtain rfl := List.mem_singleton.1 hx
      refine ⟨List.getLast?_concat, rfl, ?_⟩
      intro v hv
      rw [triviaIn_append, List.mem_append] at hv
      rw [List.map_append, List.pairwise_append] at hpair
      have hv := mem_triviaIn.1 (hv.resolve_right (by simp))
      exact hpair.2.2 v.span (List.mem_map.2 ⟨_, hv, rfl⟩) _ (List.mem_singleton.2 rfl)

def joined (parts : List (Nat × Text)) : Text :=
  (parts.mergeSort (·.1 ≤ ·.1)).flatMap (·.2)

lemma joined_pieces (t : Text) :
    joined (((tokensIn (pieces 0 t)).map fun x => (x.span.start, x.kind.lexeme)) ++
      (triviaIn (pieces 0 t)).map fun v => (v.span.start, v.span.slice t)) = t := by
  have hparts := perm_map_pieces (pieces 0 t) fun p => (p.span.start, p.text t)
  have hascend : ((pieces 0 t).map fun p => (p.span.start, p.text t)).Pairwise (·.1 < ·.1) := by
    have hspans := (tiles_pieces 0 t).ascending
    rw [List.pairwise_map] at hspans ⊢
    exact hspans
  refine (congrArg (List.flatMap (·.2)) (mergeSort_eq_of_perm hparts hascend)).trans ?_
  rw [List.flatMap_map]
  exact flatMap_text t

structure Tiling (t : Text) (tokens : List Token) (trivia : List Trivia) : Prop where
  tokens_ascend : tokens.Pairwise (·.span.start < ·.span.start)
  trivia_ascend : trivia.Pairwise (·.span.start < ·.span.start)
  nonempty : ∀ s ∈ tokens.map (·.span) ++ trivia.map (·.span), s.start < s.stop
  partition : ∀ i, (tokens.map (·.span) ++ trivia.map (·.span)).countP (Covers i) =
    if i < t.length then 1 else 0
  lexeme : ∀ x ∈ tokens, x.kind.lexeme = x.span.slice t
  restores : joined ((tokens.map fun x => (x.span.start, x.kind.lexeme)) ++
    trivia.map fun v => (v.span.start, v.span.slice t)) = t
  one_remainder : tokens.countP (·.kind.isUnrecognized) ≤ 1
  remainder_last : ∀ x ∈ tokens, x.kind.isUnrecognized → tokens.getLast? = some x ∧
    x.span.stop = t.length ∧ ∀ v ∈ trivia, v.span.stop ≤ x.span.start

theorem tokensAndTriviaOf_tiling (t : Text) :
    Tiling t (tokensAndTriviaOf t).1 (tokensAndTriviaOf t).2 := by
  have htiles : Tiles 0 ((pieces 0 t).map Piece.span) t.length := by
    simpa using tiles_pieces 0 t
  have hperm := perm_map_pieces (pieces 0 t) Piece.span
  rw [tokensAndTriviaOf_eq]
  constructor
  case tokens_ascend =>
    have hspans := htiles.ascending.sublist (tokensIn_sublist (pieces 0 t))
    rwa [List.pairwise_map] at hspans
  case trivia_ascend =>
    have hspans := htiles.ascending.sublist (triviaIn_sublist (pieces 0 t))
    rwa [List.pairwise_map] at hspans
  case nonempty =>
    intro s hs
    exact (htiles.bounds (hperm.mem_iff.1 hs)).2.1
  case partition =>
    intro i
    rw [← (htiles.countP_covers i).trans (if_congr (by simp) rfl rfl)]
    exact hperm.countP_eq _
  case lexeme =>
    intro x hx
    exact lexeme_eq_slice (readIn_of_mem rfl (Nat.zero_le _) (mem_tokensIn.1 hx))
  case restores => exact joined_pieces t
  case one_remainder => exact countP_unrecognized_le 0 t
  case remainder_last =>
    intro x hx hu
    simpa using last_of_unrecognized hx hu

end GraphQLTokens.Lexing
