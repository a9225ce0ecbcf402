import GraphQLTokens.Proofs.Grammar.Chain
import GraphQLTokens.Proofs.Scanning.Recognizers

namespace GraphQLTokens.Scanning

open Grammar

variable {r : Recognizer} {c : Cursor} {k : TokenKind} {m rest : Text}

structure Takes (l : Language Char) (c : Cursor) (k : TokenKind) (c' : Cursor) : Prop where
  mem : k.lexeme ∈ l
  spells : Spells k.lexeme k
  longest : ∀ m ∈ l, m <+: c.remaining → m <+: k.lexeme
  source : c'.source = c.source
  position : c'.position = c.position + k.lexeme.length
  remaining : c.remaining = k.lexeme ++ c'.remaining
  taken : c'.sliceFrom? c.position = some k.lexeme

structure Contract (r : Recognizer) (c : Cursor) : Prop where
  succeeds_iff : (c.recognize r).1.isSome ↔ ∃ m ∈ languageOf r, m <+: c.remaining
  takes : ∀ k, (c.recognize r).1 = some k → Takes (languageOf r) c k (c.recognize r).2
  stays : (c.recognize r).1 = none → (c.recognize r).2 = c

structure Parts (c : Cursor) (k : TokenKind) (i f e : Text) : Prop where
  kind : k = .float (i ++ f ++ e)
  integer : i ∈ ints ∧ integerPart? c.remaining = some (i, (c.moveBy i.length).remaining)
  fraction : f ∈ optional fractions ∧ optionalPart fractionalPart? (c.moveBy i.length).remaining =
    (f, (c.moveBy (i ++ f).length).remaining)
  exponent : e ∈ optional exponents ∧ optionalPart exponentPart? (c.moveBy (i ++ f).length).remaining =
    (e, (c.moveBy (i ++ f ++ e).length).remaining)
  some_part : f ≠ [] ∨ e ≠ []
  int : c.recognize .int = (some (.int i), c.moveBy i.length)
  proper : i <+: i ++ f ++ e ∧ i ≠ i ++ f ++ e

lemma recognize_of_read (h : r.read c.remaining = some (k, rest)) :
    c.recognize r = (some k, c.moveBy k.lexeme.length) :=
  (recognizes r).moves h

lemma recognize_of_none (h : r.read c.remaining = none) : c.recognize r = (none, c) :=
  (recognizes r).stays h

lemma isSome_recognize : (c.recognize r).1.isSome = (r.read c.remaining).isSome := by
  cases h : r.read c.remaining with
  | none =>
    rw [recognize_of_none h]
    rfl
  | some found =>
    rw [recognize_of_read h]
    rfl

lemma read_of_recognize (h : (c.recognize r).1 = some k) :
    ∃ rest, r.read c.remaining = some (k, rest) := by
  cases hread : r.read c.remaining with
  | none =>
    rw [recognize_of_none hread] at h
    cases h
  | some found =>
    rw [recognize_of_read hread] at h
    cases h
    exact ⟨found.2, rfl⟩

lemma takes_of_read (h : r.read c.remaining = some (k, rest)) :
    Takes (languageOf r) c k (c.moveBy k.lexeme.length) := by
  obtain ⟨happ, hne⟩ := Recognizer.append_of_read h
  have hlexeme := lexeme?_of_read h
  constructor
  case mem => exact (reads_recognizer r).mem hlexeme
  case spells => exact spells_of_read h
  case longest =>
    intro m hm hprefix
    have hle := (reads_recognizer r).longest hlexeme hm hprefix
    exact List.prefix_of_prefix_length_le hprefix ⟨rest, happ⟩ hle
  case source => rfl
  case position => rfl
  case remaining => rw [remaining_moveBy happ.symm, happ]
  case taken => exact sliceFrom?_moveBy happ.symm (position_le_of_append happ.symm hne)

lemma contract (r : Recognizer) (c : Cursor) : Contract r c where
  succeeds_iff := by
    rw [isSome_recognize, ← isSome_lexeme?]
    exact (reads_recognizer r).isSome_iff
  takes k hk := by
    obtain ⟨rest, hread⟩ := read_of_recognize hk
    rw [recognize_of_read hread]
    exact takes_of_read hread
  stays hnone := by
    cases hread : r.read c.remaining with
    | none => rw [recognize_of_none hread]
    | some found =>
      rw [recognize_of_read hread] at hnone
      cases hnone

lemma parts_of_read (h : floatLiteral? c.remaining = some (m, rest)) :
    ∃ i f e, Parts c (.float m) i f e := by
  obtain ⟨i, f, e, afterInt, afterFraction, hi, hf, he, hne, rfl⟩ := parts_of_floatLiteral? h
  have happ := (append_of_integerPart? hi).1
  have hfraction := append_optionalPart (fun _ _ _ => append_of_fractionalPart?) afterInt
  have hexponent := append_optionalPart (fun _ _ _ => append_of_exponentPart?) afterFraction
  have hfmem := optionalPart_mem reads_fraction afterInt
  have hemem := optionalPart_mem reads_exponent afterFraction
  rw [hf] at hfraction hfmem
  rw [he] at hexponent hemem
  have hafterInt : (c.moveBy i.length).remaining = afterInt := remaining_moveBy happ.symm
  have hafterFraction : (c.moveBy (i ++ f).length).remaining = afterFraction := by
    apply remaining_moveBy
    rw [← happ, ← hfraction, List.append_assoc]
  have hafterExponent : (c.moveBy (i ++ f ++ e).length).remaining = rest := by
    apply remaining_moveBy
    rw [(append_of_floatLiteral? h).1]
  refine ⟨i, f, e, rfl, ⟨reads_int.mem hi, ?_⟩, ⟨hfmem, ?_⟩, ⟨hemem, ?_⟩, hne, ?_, ?_⟩
  · rw [hi, hafterInt]
  · rw [hafterInt, hf, hafterFraction]
  · rw [hafterFraction, he, hafterExponent]
  · apply recognize_of_read
    rw [Recognizer.read, hi]
    rfl
  · rw [List.append_assoc]
    refine ⟨List.prefix_append _ _, fun heq => ?_⟩
    have hnil := List.append_eq_nil_iff.1 (List.self_eq_append_right.1 heq)
    exact hne.elim (· hnil.1) (· hnil.2)

theorem recognize_contract (c : Cursor) : (∀ r, Contract r c) ∧
    ∀ k, (c.recognize .float).1 = some k → ∃ i f e, Parts c k i f e := by
  refine ⟨fun r => contract r c, fun k hk => ?_⟩
  obtain ⟨rest, hread⟩ := read_of_recognize hk
  obtain ⟨⟨m, after⟩, hm, h⟩ := Option.map_eq_some_iff.1 hread
  cases h
  exact parts_of_read hm

theorem recognize_contract_fraction :
    ((Cursor.mk "a-1.5e-".toList 1).recognize .float).1 = some (.float "-1.5".toList) ∧
      ∃ i f e, Parts (Cursor.mk "a-1.5e-".toList 1) (.float "-1.5".toList) i f e := by
  have hread : ((Cursor.mk "a-1.5e-".toList 1).recognize .float).1 = some (.float "-1.5".toList) := by
    decide
  exact ⟨hread, (recognize_contract _).2 _ hread⟩

end GraphQLTokens.Scanning
