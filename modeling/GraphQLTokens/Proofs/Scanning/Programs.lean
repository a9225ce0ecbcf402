import GraphQLTokens.Cursor.Program
import GraphQLTokens.Proofs.Scanning.Contracts

/-! Programs on a cursor. However attempts are nested and whichever snapshots are restored, the cursor
stays within the text it began with, and an attempt that fails ends where it began. A caller that chooses
its steps by the replies makes, in the end, the steps of one such program. -/

namespace GraphQLTokens.Scanning

open Cursor

variable {t : Text} {c c' : Cursor} {r r' : Run} {x : Char} {s : Snapshot} {step : Step}
  {steps body : List Step}

inductive Reaches : Run → List Step → Run → Prop where
  | here (r : Run) (steps : List Step) : Reaches r steps r
  | later {r r' : Run} {step : Step} {steps : List Step} (h : Reaches (perform r step).2 steps r') :
      Reaches r (step :: steps) r'
  | inside {r r' : Run} {body steps : List Step} {succeeds : Bool} (h : Reaches r body r') :
      Reaches r (.attempt body succeeds :: steps) r'

def Advances (c c' : Cursor) : Prop :=
  ∃ n ≤ c.remaining.length, c' = c.moveBy n

inductive Effect (r : Run) : Run → Prop where
  | advanced {c : Cursor} (h : Advances r.cursor c) : Effect r (r.moved c)
  | saved : Effect r ⟨r.cursor, r.slots ++ [r.cursor.snapshot]⟩
  | restored {s : Snapshot} (h : s ∈ r.slots) : Effect r (r.moved (r.cursor.restore s))

structure InText (t : Text) (r : Run) : Prop where
  source : r.cursor.source = t
  position_le : r.cursor.position ≤ t.length
  slots_le : ∀ s ∈ r.slots, s.position ≤ t.length

structure Keeps (t : Text) (r : Run) : Prop where
  source : r.cursor.source = t
  position_le : r.cursor.position ≤ t.length
  split : t.take r.cursor.position ++ r.cursor.remaining = t
  failed : ∀ body, (perform r (.attempt body false)).2 = (performAll r body).2.moved r.cursor
  succeeded : ∀ body, (perform r (.attempt body true)).2 = (performAll r body).2
  sliced : ∀ start ≤ r.cursor.position, ∃ m, (perform r (.sliceFrom start)).1 = .text (some m) ∧
    t.take start ++ m ++ r.cursor.remaining = t
  outOfRange_iff : ∀ step, (perform r step).1 = .outOfRange ↔
    ∃ start, step = .sliceFrom start ∧ r.cursor.position < start

lemma length_remaining (c : Cursor) : c.remaining.length = c.source.length - c.position :=
  List.length_drop

lemma advances_refl (c : Cursor) : Advances c c :=
  ⟨0, Nat.zero_le _, rfl⟩

lemma advances_of_peek (h : c.peek = some x) : Advances c (c.moveBy 1) := by
  obtain ⟨hlt, -⟩ := List.getElem?_eq_some_iff.1 h
  refine ⟨1, ?_, rfl⟩
  rw [length_remaining]
  omega

lemma advances_advance (c : Cursor) : Advances c c.advance.2 := by
  unfold Cursor.advance
  split
  · exact advances_of_peek ‹_›
  · exact advances_refl c

lemma advances_eatIf (p : Char → Bool) (c : Cursor) : Advances c (c.eatIf p).2 := by
  unfold Cursor.eatIf
  split
  · split
    · exact advances_of_peek ‹_›
    · exact advances_refl c
  · exact advances_refl c

lemma advances_advanceMany (c : Cursor) (n : Nat) : Advances c (c.advanceMany n).2 := by
  refine ⟨_, ?_, rfl⟩
  rw [length_remaining]
  exact Nat.min_le_right _ _

lemma advances_eatWhile (p : Char → Bool) (c : Cursor) : Advances c (c.eatWhile p).2 :=
  ⟨_, (List.takeWhile_prefix p).length_le, rfl⟩

lemma advances_recognize (q : Recognizer) (c : Cursor) : Advances c (c.recognize q).2 := by
  cases h : q.read c.remaining with
  | none =>
    rw [recognize_of_none h]
    exact advances_refl c
  | some found =>
    rw [recognize_of_read h]
    refine ⟨_, ?_, rfl⟩
    rw [← (Recognizer.append_of_read h).1, List.length_append]
    exact Nat.le_add_right _ _

lemma effect_perform (r : Run) (h : ∀ body succeeds, step ≠ .attempt body succeeds) :
    Effect r (perform r step).2 := by
  cases step with
  | attempt body succeeds => exact absurd rfl (h body succeeds)
  | advance => exact .advanced (advances_advance _)
  | advanceMany n => exact .advanced (advances_advanceMany _ n)
  | eat x => exact .advanced (advances_eatIf (· == x) _)
  | eatIf p => exact .advanced (advances_eatIf p _)
  | eatWhile p => exact .advanced (advances_eatWhile p _)
  | recognize q => exact .advanced (advances_recognize q _)
  | snapshot => exact .saved
  | restore slot =>
    rw [perform]
    split
    · exact .restored (List.mem_of_getElem? ‹_›)
    · exact .advanced (advances_refl _)
  | peek | peekNth | peekMany | startsWith | isAtEnd | source | remaining | sliceFrom | refuse =>
    exact .advanced (advances_refl _)

lemma InText.moved (h : InText t r) (hsource : c.source = t) (hle : c.position ≤ t.length) :
    InText t (r.moved c) :=
  ⟨hsource, hle, h.slots_le⟩

lemma Effect.inText (heffect : Effect r r') (h : InText t r) : InText t r' := by
  cases heffect with
  | advanced hadvances =>
    obtain ⟨n, hn, rfl⟩ := hadvances
    have hle := h.position_le
    rw [length_remaining, h.source] at hn
    refine h.moved h.source ?_
    change r.cursor.position + n ≤ t.length
    omega
  | saved =>
    refine ⟨h.source, h.position_le, fun s hs => ?_⟩
    rcases List.mem_append.1 hs with hs | hs
    · exact h.slots_le s hs
    · rw [List.mem_singleton.1 hs]
      exact h.position_le
  | restored hs => exact h.moved h.source (h.slots_le _ hs)

lemma perform_attempt (r : Run) (body : List Step) (succeeds : Bool) :
    (perform r (.attempt body succeeds)).2 = if succeeds then (performAll r body).2 else
      (performAll r body).2.moved ((performAll r body).2.cursor.restore r.cursor.snapshot) :=
  rfl

mutual

lemma perform_inText {r : Run} (h : InText t r) (step : Step) : InText t (perform r step).2 := by
  cases step with
  | attempt body succeeds =>
    have hbody := performAll_inText h body
    cases succeeds with
    | true => exact hbody
    -- The body may have moved or restored to anywhere in the text; only its snapshots are kept.
    | false => exact hbody.moved hbody.source h.position_le
  | _ => exact (effect_perform r fun _ _ => Step.noConfusion).inText h

lemma performAll_inText {r : Run} (h : InText t r) (steps : List Step) : InText t (performAll r steps).2 := by
  cases steps with
  | nil => exact h
  | cons step steps => exact performAll_inText (perform_inText h step) steps

end

lemma inText_start (t : Text) : InText t (.start t) where
  source := rfl
  position_le := Nat.zero_le _
  slots_le := nofun

lemma Reaches.inText (hreaches : Reaches r steps r') (h : InText t r) : InText t r' := by
  induction hreaches with
  | here => exact h
  | later _ ih => exact ih (perform_inText h _)
  | inside _ ih => exact ih h

lemma restore_snapshot (h : c'.source = c.source) : c'.restore c.snapshot = c :=
  congrArg (Cursor.mk · c.position) h

lemma sliceFrom?_eq {start : Nat} (h : start ≤ c.position) (hc : c.position ≤ c.source.length) :
    ∃ m, c.sliceFrom? start = some m ∧ c.source.take start ++ m ++ c.remaining = c.source := by
  refine ⟨_, if_pos ⟨h, hc⟩, ?_⟩
  have htake : c.source.take start = (c.source.take c.position).take start := by
    rw [List.take_take, Nat.min_eq_left h]
  rw [htake, List.take_append_drop, Cursor.remaining, List.take_append_drop]

lemma perform_sliceFrom (r : Run) (start : Nat) : (perform r (.sliceFrom start)).1 =
    ((r.cursor.sliceFrom? start).map fun m => Reply.text (some m)).getD .outOfRange :=
  rfl

lemma perform_peekNth_ne (r : Run) (n : Nat) : (perform r (.peekNth n)).1 ≠ .outOfRange := by
  change (r.cursor.look (.peekNth n)).getD .done ≠ _
  rw [look]
  split <;> exact Reply.noConfusion

lemma perform_eq_outOfRange_iff (hr : r.cursor.position ≤ r.cursor.source.length) (step : Step) :
    (perform r step).1 = .outOfRange ↔ ∃ start, step = .sliceFrom start ∧ r.cursor.position < start := by
  cases step with
  | sliceFrom start =>
    rw [perform_sliceFrom]
    by_cases h : start ≤ r.cursor.position
    · simp [Cursor.sliceFrom?, h, hr]
    · simp [Cursor.sliceFrom?, h, Nat.lt_of_not_le h]
  | restore slot =>
    rw [perform]
    split <;> simp
  | peekNth n => simp [perform_peekNth_ne]
  | _ => simp [perform, Cursor.look]

theorem keeps_of_reaches (h : Reaches (.start t) steps r) : Keeps t r := by
  have hin := h.inText (inText_start t)
  constructor
  case source => exact hin.source
  case position_le => exact hin.position_le
  case split => rw [Cursor.remaining, hin.source, List.take_append_drop]
  case failed =>
    intro body
    have hbody := (performAll_inText hin body).source
    rw [perform_attempt, if_neg Bool.false_ne_true, restore_snapshot (hbody.trans hin.source.symm)]
  case succeeded => exact fun body => perform_attempt r body true
  case sliced =>
    intro start hstart
    obtain ⟨m, hm, hsplit⟩ := sliceFrom?_eq hstart (hin.source ▸ hin.position_le)
    rw [hin.source] at hsplit
    refine ⟨m, ?_, hsplit⟩
    rw [perform_sliceFrom, hm]
    rfl
  case outOfRange_iff => exact perform_eq_outOfRange_iff (hin.source ▸ hin.position_le)

theorem keeps_of_reaches_restored :
    Reaches (.start ['a', 'b', 'c'])
      [.attempt [.advanceMany 2, .snapshot, .attempt [.advance] true] false, .eat 'a', .restore 0]
      ⟨⟨['a', 'b', 'c'], 2⟩, [⟨2⟩]⟩ ∧
    Keeps ['a', 'b', 'c'] ⟨⟨['a', 'b', 'c'], 2⟩, [⟨2⟩]⟩ := by
  have hreaches : Reaches (.start ['a', 'b', 'c'])
      [.attempt [.advanceMany 2, .snapshot, .attempt [.advance] true] false, .eat 'a', .restore 0]
      ⟨⟨['a', 'b', 'c'], 2⟩, [⟨2⟩]⟩ :=
    .later (.later (.later (.here _ [])))
  exact ⟨hreaches, keeps_of_reaches hreaches⟩

end GraphQLTokens.Scanning
