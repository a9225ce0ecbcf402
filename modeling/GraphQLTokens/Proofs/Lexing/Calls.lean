import GraphQLTokens.Proofs.Lexing.Tiling

namespace GraphQLTokens.Lexing

variable {l : Lexer} {c : Lexer.Call} {calls more : List Lexer.Call} {ps qs : List Piece}

def after (l : Lexer) (calls : List Lexer.Call) : Lexer :=
  calls.foldl (fun l c => (l.call c).2) l

def tokensReplied : Lexer.Reply → List Token
  | .token x => x.toList
  | .tokens xs => xs
  | .trivia _ => []
  | .done => []

def triviaReplied : Lexer.Reply → List Trivia
  | .trivia vs => vs
  | .token _ => []
  | .tokens _ => []
  | .done => []

def tokensGiven (l : Lexer) (calls : List Lexer.Call) : List Token :=
  (l.replies calls).flatMap (tokensReplied ·.1)

def triviaGiven (l : Lexer) (calls : List Lexer.Call) : List Trivia :=
  (l.replies calls).flatMap (triviaReplied ·.1)

def held (l : Lexer) : List Trivia :=
  (l.recorded.getD #[]).toList

def asksForTokens : Lexer.Call → Bool
  | .next => true
  | .collect => true
  | .withTrivia => false
  | .takeTrivia => false

def Sound (l : Lexer) : Prop :=
  l.finished → l.rest = []

/-- From `l` to `l'` the pieces `ps` are passed, and their trivia is added to the record, if there is one. -/
structure Passes (l : Lexer) (ps : List Piece) (l' : Lexer) : Prop where
  pieces : pieces l.position l.rest = ps ++ pieces l'.position l'.rest
  length : l'.position + l'.rest.length = l.position + l.rest.length
  recorded : l'.recorded = l.recorded.map (·.appendList (triviaIn ps))
  sound : Sound l'

lemma replies_cons (l : Lexer) (c : Lexer.Call) (calls : List Lexer.Call) :
    l.replies (c :: calls) = ((l.call c).1, (l.call c).2.position) :: (l.call c).2.replies calls :=
  rfl

lemma replies_append (l : Lexer) (calls more : List Lexer.Call) :
    l.replies (calls ++ more) = l.replies calls ++ (after l calls).replies more := by
  induction calls generalizing l with
  | nil => rfl
  | cons c calls ih => exact congrArg _ (ih _)

lemma after_append (l : Lexer) (calls more : List Lexer.Call) :
    after l (calls ++ more) = after (after l calls) more :=
  List.foldl_append

lemma passes_nil (h : Sound l) : Passes l [] l where
  pieces := rfl
  length := rfl
  recorded := by
    cases l.recorded with
    | none => rfl
    | some a => simp
  sound := h

lemma next_of_finished (h : l.finished) : l.next = (none, l) := by
  simp [Lexer.next, Lexer.nextBy, h]

lemma next_passes (h : Sound l) : ∃ ps, Passes l ps l.next.2 ∧ tokensIn ps = l.next.1.toList ∧
    (l.next.1 = none → l.next.2.finished) ∧ ∀ x ∈ l.next.1, l.next.2.position = x.span.stop := by
  obtain ⟨start, t, recorded, finished⟩ := l
  cases finished with
  | true =>
    rw [next_of_finished rfl]
    exact ⟨[], passes_nil h, rfl, fun _ => rfl, by simp⟩
  | false =>
    have hsplit := pieces_eq_trivia_append start t
    have hlen := length_afterTrivia start t
    have hnone := leadingTrivia?_afterTrivia start t
    cases hk : firstToken Recognizer.order (afterTrivia start t).2 with
    | some found =>
      obtain ⟨k, rest⟩ := found
      rw [next_of_token hk]
      rw [pieces_of_token hnone hk, List.append_cons] at hsplit
      have happ := congrArg List.length (append_of_firstToken hk).1
      rw [List.length_append] at happ
      refine ⟨_, ⟨hsplit, ?_, ?_, nofun⟩, ?_, nofun, ?_⟩
      · simp only
        omega
      · simp [triviaIn_append, triviaIn_map_trivia]
      · simp [tokensIn_append, tokensIn_map_trivia]
      · rintro x ⟨⟩
        rfl
    | none =>
      by_cases hr : (afterTrivia start t).2 = []
      · rw [next_of_end hr]
        rw [hr, pieces_nil, List.append_nil] at hsplit
        rw [hr] at hlen
        refine ⟨pieces start t, ⟨by simp, hlen, ?_, fun _ => rfl⟩, ?_, fun _ => rfl, nofun⟩
        · rw [hsplit, triviaIn_map_trivia]
        · rw [hsplit, tokensIn_map_trivia]
          rfl
      · rw [next_of_remainder hk hr]
        rw [pieces_of_none hnone hk hr, hlen] at hsplit
        refine ⟨pieces start t, ⟨by simp, by simp, ?_, fun _ => rfl⟩, ?_, nofun, ?_⟩
        · simp [hsplit, triviaIn_append, triviaIn_map_trivia]
        · simp [hsplit, tokensIn_append, tokensIn_map_trivia]
        · rintro x ⟨⟩
          rfl

lemma collect_passes (h : Sound l) :
    ∃ ps, Passes l ps l.collect.2 ∧ tokensIn ps = l.collect.1 ∧ l.collect.2.finished := by
  obtain ⟨start, t, recorded, finished⟩ := l
  cases finished with
  | true =>
    rw [collect_finished rfl]
    exact ⟨[], passes_nil h, rfl, rfl⟩
  | false =>
    rw [collect_eq]
    refine ⟨pieces start t, ⟨?_, by simp, rfl, fun _ => rfl⟩, rfl, rfl⟩
    simp

structure Delivers (l : Lexer) (calls : List Lexer.Call) (ps : List Piece) : Prop where
  pieces : pieces l.position l.rest =
    ps ++ pieces (after l calls).position (after l calls).rest
  length : (after l calls).position + (after l calls).rest.length = l.position + l.rest.length
  sound : Sound (after l calls)
  tokens : tokensGiven l calls = tokensIn ps
  trivia : l.recorded.isSome → .withTrivia ∉ calls → (after l calls).recorded.isSome ∧
    triviaGiven l calls ++ held (after l calls) = held l ++ triviaIn ps
  silent : l.recorded = none → .withTrivia ∉ calls → (after l calls).recorded = none ∧
    triviaGiven l calls = []

lemma delivers_nil (h : Sound l) : Delivers l [] [] where
  pieces := rfl
  length := rfl
  sound := h
  tokens := rfl
  trivia hsome _ := ⟨hsome, (List.append_nil _).symm⟩
  silent hnone _ := ⟨hnone, rfl⟩

lemma Delivers.append (h : Delivers l calls ps) (h' : Delivers (after l calls) more qs) :
    Delivers l (calls ++ more) (ps ++ qs) where
  pieces := by rw [after_append, h.pieces, h'.pieces, List.append_assoc]
  length := by rw [after_append, h'.length, h.length]
  sound := after_append l calls more ▸ h'.sound
  tokens := by
    rw [tokensGiven, replies_append, List.flatMap_append, tokensIn_append, ← h.tokens, ← h'.tokens]
    rfl
  trivia hsome hnew := by
    simp only [List.mem_append, not_or] at hnew
    obtain ⟨hsome', htrivia⟩ := h.trivia hsome hnew.1
    obtain ⟨hsome'', htrivia'⟩ := h'.trivia hsome' hnew.2
    rw [after_append]
    refine ⟨hsome'', ?_⟩
    rw [triviaGiven, replies_append, List.flatMap_append, triviaIn_append, ← List.append_assoc, ← htrivia,
      List.append_assoc, List.append_assoc, ← htrivia']
    rfl
  silent hnone hnew := by
    simp only [List.mem_append, not_or] at hnew
    obtain ⟨hnone', hgiven⟩ := h.silent hnone hnew.1
    obtain ⟨hnone'', hgiven'⟩ := h'.silent hnone' hnew.2
    rw [after_append]
    refine ⟨hnone'', ?_⟩
    rw [triviaGiven, replies_append, List.flatMap_append]
    exact List.append_eq_nil_iff.2 ⟨hgiven, hgiven'⟩

lemma held_of_some {a : Array Trivia} (h : l.recorded = some a) : held l = a.toList := by
  rw [held, h, Option.getD_some]

lemma held_takeTrivia (l : Lexer) : held l.takeTrivia.2 = [] := by
  unfold held Lexer.takeTrivia
  cases l.recorded <;> rfl

lemma triviaGiven_of_asksForTokens (hc : asksForTokens c) : triviaGiven l [c] = [] := by
  cases c with
  | next | collect => rfl
  | withTrivia | takeTrivia => cases hc

lemma Passes.delivers (h : Passes l ps (l.call c).2) (hc : asksForTokens c)
    (htokens : tokensReplied (l.call c).1 = tokensIn ps) : Delivers l [c] ps where
  pieces := h.pieces
  length := h.length
  sound := h.sound
  tokens := by
    rw [← htokens]
    exact List.append_nil _
  trivia hsome _ := by
    obtain ⟨a, ha⟩ := Option.isSome_iff_exists.1 hsome
    have hrecorded := h.recorded
    rw [ha] at hrecorded
    refine ⟨Option.isSome_of_mem hrecorded, ?_⟩
    rw [triviaGiven_of_asksForTokens hc, held_of_some ha]
    exact (held_of_some hrecorded).trans (Array.toList_appendList ..)
  silent hnone _ := by
    have hrecorded := h.recorded
    rw [hnone] at hrecorded
    exact ⟨hrecorded, triviaGiven_of_asksForTokens hc⟩

lemma call_delivers (h : Sound l) (c : Lexer.Call) : ∃ ps, Delivers l [c] ps := by
  cases c with
  | next =>
    obtain ⟨ps, hpasses, htokens, -, -⟩ := next_passes h
    exact ⟨ps, Passes.delivers hpasses rfl htokens.symm⟩
  | collect =>
    obtain ⟨ps, hpasses, htokens, -⟩ := collect_passes h
    exact ⟨ps, Passes.delivers hpasses rfl htokens.symm⟩
  | withTrivia => exact ⟨[], rfl, rfl, h, rfl, fun _ hnew => by simp at hnew, fun _ hnew => by simp at hnew⟩
  | takeTrivia =>
    refine ⟨[], rfl, rfl, h, rfl, fun hsome _ => ?_, fun hnone _ => ?_⟩
    · refine ⟨(Option.isSome_map ..).trans hsome, ?_⟩
      change (held l ++ []) ++ held l.takeTrivia.2 = held l ++ []
      rw [held_takeTrivia, List.append_nil]
    · simp [after, Lexer.call, Lexer.takeTrivia, triviaGiven, Lexer.replies, triviaReplied, hnone]

lemma calls_deliver (h : Sound l) (calls : List Lexer.Call) : ∃ ps, Delivers l calls ps := by
  induction calls generalizing l with
  | nil => exact ⟨[], delivers_nil h⟩
  | cons c calls ih =>
    obtain ⟨ps, hstep⟩ := call_delivers h c
    obtain ⟨qs, hrun⟩ := ih hstep.sound
    exact ⟨ps ++ qs, hstep.append hrun⟩

end GraphQLTokens.Lexing
