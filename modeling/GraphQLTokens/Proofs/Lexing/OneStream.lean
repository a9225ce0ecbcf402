import GraphQLTokens.Proofs.Lexing.Calls

/-! A lexer is one stream under any order of calls: what it hands out does not depend on who asks for
tokens, for a record of the trivia or for what was recorded, and when. -/

namespace GraphQLTokens.Lexing

variable {t : Text} {l : Lexer} {c : Lexer.Call} {calls : List Lexer.Call} {ps qs rs : List Piece}
  {lo mid hi : Nat} {spans spans' : List Span}

def answersWithTokens : Lexer.Reply → Bool
  | .token _ => true
  | .tokens _ => true
  | .trivia _ => false
  | .done => false

def endsStream : Lexer.Reply → Bool
  | .token none => true
  | .token (some _) => false
  | .tokens _ => true
  | .trivia _ => false
  | .done => false

lemma forall_replies {I : Lexer → Prop} {P : Lexer.Reply × Nat → Prop}
    (hcall : ∀ l c, I l → P ((l.call c).1, (l.call c).2.position) ∧ I (l.call c).2) (h : I l)
    (calls : List Lexer.Call) : ∀ entry ∈ l.replies calls, P entry := by
  induction calls generalizing l with
  | nil => simp [Lexer.replies]
  | cons c calls ih =>
    obtain ⟨hp, hnext⟩ := hcall l c h
    intro entry hentry
    rcases List.mem_cons.1 hentry with rfl | hentry
    · exact hp
    · exact ih hnext entry hentry

lemma sound_call (h : Sound l) (c : Lexer.Call) : Sound (l.call c).2 := by
  obtain ⟨ps, hdelivers⟩ := call_delivers h c
  exact hdelivers.sound

lemma call_of_finished (h : l.finished) (c : Lexer.Call) : (l.call c).2.finished ∧
    (l.call c).2.position = l.position ∧ tokensReplied (l.call c).1 = [] := by
  cases c with
  | next =>
    rw [Lexer.call, next_of_finished h]
    exact ⟨h, rfl, rfl⟩
  | collect =>
    rw [Lexer.call, collect_finished h]
    exact ⟨h, rfl, rfl⟩
  | withTrivia | takeTrivia => exact ⟨h, rfl, rfl⟩

lemma finished_after (h : l.finished) (calls : List Lexer.Call) : (after l calls).finished := by
  induction calls generalizing l with
  | nil => exact h
  | cons c calls ih => exact ih (call_of_finished h c).1

lemma finished_of_endsStream (h : Sound l) (hend : endsStream (l.call c).1) : (l.call c).2.finished := by
  cases c with
  | next =>
    obtain ⟨ps, -, -, hfinished, -⟩ := next_passes h
    rw [Lexer.call] at hend
    cases hx : l.next.1 with
    | none => exact hfinished hx
    | some x => simp [hx, endsStream] at hend
  | collect =>
    obtain ⟨ps, -, -, hfinished⟩ := collect_passes h
    exact hfinished
  | withTrivia | takeTrivia => cases hend

structure Within (t : Text) (l : Lexer) : Prop where
  sound : Sound l
  length : l.position + l.rest.length = t.length

lemma within_ofText (t : Text) : Within t (.ofText t) :=
  ⟨nofun, Nat.zero_add _⟩

lemma Within.call (h : Within t l) (c : Lexer.Call) : Within t (l.call c).2 := by
  obtain ⟨ps, hdelivers⟩ := call_delivers h.sound c
  exact ⟨hdelivers.sound, hdelivers.length.trans h.length⟩

lemma Within.position_eq (h : Within t l) (hfinished : l.finished) : l.position = t.length := by
  have hlen := h.length
  rwa [h.sound hfinished] at hlen

lemma stop_of_token (h : Sound l) (calls : List Lexer.Call) :
    ∀ entry ∈ l.replies calls, ∀ x, entry.1 = .token (some x) → entry.2 = x.span.stop := by
  refine forall_replies (I := Sound) ?_ h calls
  intro l c hl
  refine ⟨fun x hx => ?_, sound_call hl c⟩
  cases c with
  | next =>
    obtain ⟨ps, -, -, -, hstop⟩ := next_passes hl
    exact hstop x (by simpa [Lexer.call] using hx)
  | collect | withTrivia | takeTrivia => cases hx

lemma Within.ended (h : Within t l) (calls : List Lexer.Call) :
    ∀ entry ∈ l.replies calls, endsStream entry.1 → entry.2 = t.length :=
  forall_replies (fun _ c hl => ⟨fun hend => (hl.call c).position_eq (finished_of_endsStream hl.sound hend),
    hl.call c⟩) h calls

lemma finished_replies (h : l.finished) (calls : List Lexer.Call) :
    ∀ entry ∈ l.replies calls, entry.2 = l.position ∧ tokensReplied entry.1 = [] := by
  have hinv : l.finished ∧ l.position = l.position := ⟨h, rfl⟩
  refine forall_replies (I := fun l' => l'.finished ∧ l'.position = l.position) ?_ hinv calls
  rintro l' c ⟨hl, hposition⟩
  obtain ⟨hfinished, hstays, hnone⟩ := call_of_finished hl c
  exact ⟨⟨hstays.trans hposition, hnone⟩, hfinished, hstays.trans hposition⟩

lemma Within.stays (h : Within t l) (calls : List Lexer.Call) :
    (l.replies calls).Pairwise fun earlier later =>
      endsStream earlier.1 → later.2 = t.length ∧ tokensReplied later.1 = [] := by
  induction calls generalizing l with
  | nil => exact .nil
  | cons c calls ih =>
    refine .cons (fun entry hentry hend => ?_) (ih (h.call c))
    have hfinished := finished_of_endsStream h.sound hend
    rw [← (h.call c).position_eq hfinished]
    exact finished_replies hfinished calls entry hentry

def unrecorded (l : Lexer) : Lexer :=
  { l with recorded := none }

@[simp]
lemma position_unrecorded (l : Lexer) : (unrecorded l).position = l.position :=
  rfl

lemma next_unrecorded (l : Lexer) : (unrecorded l).next = (l.next.1, unrecorded l.next.2) := by
  unfold Lexer.next Lexer.nextBy unrecorded
  dsimp only
  split
  · rfl
  · split
    · rfl
    · split <;> rfl

lemma collect_unrecorded (l : Lexer) : (unrecorded l).collect = (l.collect.1, unrecorded l.collect.2) := by
  obtain ⟨start, t, recorded, finished⟩ := l
  cases finished with
  | true =>
    rw [collect_finished rfl, unrecorded, collect_finished rfl]
    rfl
  | false =>
    rw [collect_eq, unrecorded, collect_eq]
    rfl

lemma call_unrecorded (hc : asksForTokens c) (l : Lexer) :
    (unrecorded l).call c = ((l.call c).1, unrecorded (l.call c).2) := by
  cases c with
  | next =>
    rw [Lexer.call, next_unrecorded]
    rfl
  | collect =>
    rw [Lexer.call, collect_unrecorded]
    rfl
  | withTrivia | takeTrivia => cases hc

lemma answersWithTokens_call (l : Lexer) (c : Lexer.Call) :
    answersWithTokens (l.call c).1 = asksForTokens c := by
  cases c <;> rfl

lemma replies_unrecorded (l : Lexer) (calls : List Lexer.Call) :
    (l.replies calls).filter (answersWithTokens ·.1) =
      (unrecorded l).replies (calls.filter asksForTokens) := by
  induction calls generalizing l with
  | nil => rfl
  | cons c calls ih =>
    have hanswer := answersWithTokens_call l c
    cases hc : asksForTokens c with
    | true =>
      rw [hc] at hanswer
      simp [replies_cons, hanswer, hc, call_unrecorded hc, ih]
    | false =>
      rw [hc] at hanswer
      have hsame : unrecorded (l.call c).2 = unrecorded l := by
        cases c with
        | next | collect => cases hc
        | withTrivia | takeTrivia => rfl
      simp [replies_cons, hanswer, hc, hsame, ih]

lemma Tiles.cancel (h : Tiles lo (spans ++ spans') hi) (h' : Tiles mid spans' hi) : Tiles lo spans mid := by
  induction spans generalizing lo with
  | nil =>
    cases spans' with
    | nil => exact Eq.trans h (Eq.symm h')
    | cons s spans' => exact h.1.symm.trans h'.1
  | cons s spans ih =>
    obtain ⟨hstart, hlt, h⟩ := h
    exact ⟨hstart, hlt, ih h⟩

lemma Delivers.tiles (h : Delivers l calls ps) :
    Tiles l.position (ps.map Piece.span) (after l calls).position := by
  have hwhole := tiles_pieces l.position l.rest
  rw [h.pieces, List.map_append, ← h.length] at hwhole
  exact hwhole.cancel (tiles_pieces _ _)

lemma Tiles.triviaIn_bounds (h : Tiles lo (ps.map Piece.span) hi) :
    ∀ v ∈ triviaIn ps, lo ≤ v.span.start ∧ v.span.start < v.span.stop ∧ v.span.stop ≤ hi := by
  intro v hv
  exact h.bounds (List.mem_map_of_mem (mem_triviaIn.1 hv))

lemma filter_triviaIn (hps : Tiles 0 (ps.map Piece.span) lo)
    (hqs : Tiles lo (qs.map Piece.span) hi) (hrs : Tiles hi (rs.map Piece.span) mid) :
    (triviaIn (ps ++ qs ++ rs)).filter (fun v => lo ≤ v.span.start ∧ v.span.stop ≤ hi) = triviaIn qs := by
  rw [triviaIn_append, triviaIn_append, List.filter_append, List.filter_append]
  have hbefore : (triviaIn ps).filter (fun v => lo ≤ v.span.start ∧ v.span.stop ≤ hi) = [] := by
    rw [List.filter_eq_nil_iff]
    intro v hv
    have hbounds := hps.triviaIn_bounds v hv
    simp
    omega
  have hwithin : (triviaIn qs).filter (fun v => lo ≤ v.span.start ∧ v.span.stop ≤ hi) = triviaIn qs := by
    rw [List.filter_eq_self]
    intro v hv
    have hbounds := hqs.triviaIn_bounds v hv
    simp
    omega
  have hbehind : (triviaIn rs).filter (fun v => lo ≤ v.span.start ∧ v.span.stop ≤ hi) = [] := by
    rw [List.filter_eq_nil_iff]
    intro v hv
    have hbounds := hrs.triviaIn_bounds v hv
    simp
    omega
  rw [hbefore, hwithin, hbehind, List.nil_append, List.append_nil]

structure OneStream (t : Text) (calls : List Lexer.Call) : Prop where
  initial : tokensGiven (.ofText t) calls <+: tokensOf t
  whole : .collect ∈ calls → tokensGiven (.ofText t) calls = tokensOf t
  stop : ∀ entry ∈ (Lexer.ofText t).replies calls, ∀ x, entry.1 = .token (some x) → entry.2 = x.span.stop
  ended : ∀ entry ∈ (Lexer.ofText t).replies calls, endsStream entry.1 → entry.2 = t.length
  stays : ((Lexer.ofText t).replies calls).Pairwise fun earlier later =>
    endsStream earlier.1 → later.2 = t.length ∧ tokensReplied later.1 = []
  unrecorded : ((Lexer.ofText t).replies calls).filter (answersWithTokens ·.1) =
    (Lexer.ofText t).replies (calls.filter asksForTokens)
  silent : ∀ before later, calls = before ++ later → .withTrivia ∉ before →
    triviaGiven (.ofText t) before = []
  recorded : ∀ before recording, calls = before ++ .withTrivia :: recording → .withTrivia ∉ recording →
    triviaGiven (after (.ofText t) before).withTrivia recording ++ held (after (.ofText t) calls) =
      (tokensAndTriviaOf t).2.filter fun v => (after (.ofText t) before).position ≤ v.span.start ∧
        v.span.stop ≤ (after (.ofText t) calls).position
  drained : ∀ before later, calls = before ++ .takeTrivia :: later →
    held (after (.ofText t) (before ++ [.takeTrivia])) = []
  reference : (tokensAndTriviaOf t).2 = triviaIn (pieces 0 t)

theorem replies_oneStream (t : Text) (calls : List Lexer.Call) : OneStream t calls := by
  have hwithin := within_ofText t
  obtain ⟨ps, hps⟩ := calls_deliver hwithin.sound calls
  constructor
  case initial =>
    rw [hps.tokens, tokensOf_eq]
    exact ⟨_, (tokensIn_append.symm.trans (congrArg tokensIn hps.pieces.symm))⟩
  case whole =>
    intro hcollect
    obtain ⟨before, later, rfl⟩ := List.append_of_mem hcollect
    obtain ⟨qs, hqs⟩ := calls_deliver hwithin.sound before
    have hfinished : (after (.ofText t) (before ++ .collect :: later)).finished := by
      rw [after_append]
      exact finished_after (finished_of_endsStream (c := .collect) hqs.sound rfl) later
    have hpieces := hps.pieces
    rw [hps.sound hfinished, pieces_nil, List.append_nil] at hpieces
    rw [hps.tokens, tokensOf_eq, ← hpieces]
    rfl
  case stop => exact stop_of_token hwithin.sound calls
  case ended => exact hwithin.ended calls
  case stays => exact hwithin.stays calls
  case unrecorded => exact replies_unrecorded _ calls
  case silent =>
    intro before later _ hnew
    obtain ⟨qs, hqs⟩ := calls_deliver hwithin.sound before
    exact (hqs.silent rfl hnew).2
  case recorded =>
    rintro before recording rfl hnew
    obtain ⟨qs, hqs⟩ := calls_deliver hwithin.sound before
    have hsound : Sound (after (.ofText t) before).withTrivia := hqs.sound
    obtain ⟨rs, hrs⟩ := calls_deliver hsound recording
    have hafter : after (.ofText t) (before ++ .withTrivia :: recording) =
        after (after (.ofText t) before).withTrivia recording :=
      after_append _ _ _
    have hpieces : pieces 0 t = qs ++ rs ++
        pieces (after (after (.ofText t) before).withTrivia recording).position
          (after (after (.ofText t) before).withTrivia recording).rest := by
      rw [List.append_assoc, ← hrs.pieces]
      exact hqs.pieces
    rw [tokensAndTriviaOf_eq, hpieces, hafter, filter_triviaIn hqs.tiles hrs.tiles (tiles_pieces _ _)]
    exact (hrs.trivia rfl hnew).2
  case drained =>
    intro before later _
    rw [after_append]
    exact held_takeTrivia _
  case reference => rw [tokensAndTriviaOf_eq]

end GraphQLTokens.Lexing
