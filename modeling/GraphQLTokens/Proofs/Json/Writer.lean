import GraphQLTokens.Listing.Json
import GraphQLTokens.Proofs.Grammar.Numbers
import GraphQLTokens.Proofs.Json.Grammar

namespace GraphQLTokens.JsonText

open Grammar

mutual

def meaning : Json → Value
  | .number n => .number n
  | .string t => .string t
  | .array items => .array (meanings items)
  | .object members => .object (memberMeanings members)

def meanings : List Json → List Value
  | [] => []
  | v :: vs => meaning v :: meanings vs

def memberMeanings : List (Text × Json) → List (Text × Value)
  | [] => []
  | (key, v) :: ms => (key, meaning v) :: memberMeanings ms

end

variable {c : Char} {m w w' : Text} {n : Nat} {l : Language Char}

lemma hexValue?_hexDigit : ∀ n < 16, hexValue? (Json.hexDigit n) = some n := by
  decide

lemma codeUnit?_control (h : n < 0x20) :
    codeUnit? ['0', '0', Json.hexDigit (n / 16), Json.hexDigit (n % 16)] = some n := by
  have hzero : hexValue? '0' = some 0 := by decide
  have hsum : ((0 * 16 + 0) * 16 + n / 16) * 16 + n % 16 = n := by omega
  rw [codeUnit?, hzero, hexValue?_hexDigit (n / 16) (by omega), hexValue?_hexDigit (n % 16) (by omega)]
  exact congrArg some hsum

lemma spelling_escaped (c : Char) : Spelling c (Json.escaped c) := by
  unfold Json.escaped
  split_ifs with hquote hslash hb hf hn hr ht hcontrol
  · exact hquote ▸ .short (e := '"') rfl
  · exact hslash ▸ .short (e := '\\') rfl
  · exact hb ▸ .short (e := 'b') rfl
  · exact hf ▸ .short (e := 'f') rfl
  · exact hn ▸ .short (e := 'n') rfl
  · exact hr ▸ .short (e := 'r') rfl
  · exact ht ▸ .short (e := 't') rfl
  · exact .code (codeUnit?_control hcontrol)
  · exact .plain (Nat.le_of_not_lt hcontrol) hquote hslash

lemma escaped_mem (t : Text) : t.flatMap Json.escaped ∈ bodies t := by
  induction t with
  | nil => rfl
  | cons c t ih => exact ⟨_, _, spelling_escaped c, ih, List.flatMap_cons⟩

lemma quoted_mem (t : Text) : Json.quoted t ∈ strings t :=
  ⟨_, escaped_mem t, rfl⟩

lemma head_decimal (h : 0 < n) : ∃ c rest, isNonzeroDigit c ∧ decimal n = c :: rest := by
  induction n using Nat.strong_induction_on with
  | _ n ih =>
    rcases Nat.lt_or_ge n 10 with hlt | hge
    · have hdigit : ∀ n < 10, 0 < n → isNonzeroDigit n.digitChar := by decide
      exact ⟨n.digitChar, [], hdigit n hlt h, Nat.toDigits_of_lt_base hlt⟩
    · obtain ⟨c, rest, hc, hrest⟩ := ih (n / 10) (by omega) (by omega)
      refine ⟨c, rest ++ [(n % 10).digitChar], hc, ?_⟩
      rw [decimal, Nat.toDigits_of_base_le (by decide) hge, ← decimal, hrest, List.cons_append]

lemma decimal_mem_ints (n : Nat) : decimal n ∈ ints := by
  refine ⟨[], .inl rfl, decimal n, ?_, rfl⟩
  rcases Nat.eq_zero_or_pos n with rfl | hpos
  · exact .inl ⟨'0', rfl, rfl⟩
  · obtain ⟨c, rest, hc, hn⟩ := head_decimal hpos
    have hrest : ∀ d ∈ rest, isDigit d := by
      intro d hd
      apply isDigit_of_mem_decimal (n := n)
      rw [hn]
      exact List.mem_cons_of_mem c hd
    rw [hn]
    exact .inr (mem_oneOf_mul.2 ⟨c, rest, hc, mem_star_oneOf.2 hrest, rfl⟩)

lemma amount_digits (h : ∀ c ∈ m, isDigit c) : amount m = decimalValue m := by
  have hmark : ∀ c ∈ m, c ≠ '-' ∧ ¬ isExponentMark c := by
    intro c hc
    exact of_codes (P := fun c => c ≠ '-' ∧ ¬ isExponentMark c) (by decide) (toNat_mem_digitCodes (h c hc))
  have hsign : m.dropWhile (· == '-') = m := by
    cases m with
    | nil => rfl
    | cons c m => exact List.dropWhile_cons_of_neg (by simpa using (hmark c (List.mem_cons_self ..)).1)
  have hhead : m.head? ≠ some '-' := by
    intro hc
    exact (hmark '-' (List.mem_of_head? hc)).1 rfl
  have hwhole : wholeDigits m = m := by
    rw [wholeDigits, hsign, List.takeWhile_eq_self_iff]
    exact h
  have hplaces : decimalPlaces m = [] := by
    rw [decimalPlaces, hsign, List.dropWhile_eq_nil_iff.2 h]
  have hscale : scale m = 0 := by
    have hnone : m.dropWhile (!isExponentMark ·) = [] := by
      rw [List.dropWhile_eq_nil_iff]
      intro c hc
      simpa using (hmark c hc).2
    rw [scale, hnone]
  rw [amount, if_neg hhead, hwhole, hplaces, hscale, List.append_nil]
  simp

lemma amount_decimal (n : Nat) : amount (decimal n) = n := by
  rw [amount_digits fun c => isDigit_of_mem_decimal, decimalValue_decimal]

lemma newline_mem (depth : Nat) : Json.newline depth ∈ blanks := by
  refine mem_star_oneOf.2 fun c hc => ?_
  rcases List.mem_cons.1 hc with rfl | hc
  · rfl
  · rw [List.eq_of_mem_replicate hc]
    rfl

def continued (depth : Nat) (m : Text) : Text :=
  ',' :: Json.newline depth ++ m

def memberText (depth : Nat) (key : Text) (v : Json) : Text :=
  Json.quoted key ++ ": ".toList ++ v.render depth

lemma renderItems_eq (depth : Nat) (items : List Json) :
    Json.renderItems depth items = (items.map (Json.render depth)).flatMap (continued depth) := by
  induction items with
  | nil => rfl
  | cons item items ih => rw [Json.renderItems, ih, List.map_cons, List.flatMap_cons, continued]

lemma renderMembers_eq (depth : Nat) (members : List (Text × Json)) :
    Json.renderMembers depth members =
      (members.map fun member => memberText depth member.1 member.2).flatMap (continued depth) := by
  induction members with
  | nil => rfl
  | cons member members ih =>
    rw [Json.renderMembers, ih, List.map_cons, List.flatMap_cons, continued, memberText]
    simp only [List.append_assoc, List.cons_append]

lemma continued_mem {ms : List Text} {ls : List (Language Char)}
    (h : List.Forall₂ (fun m (l : Language Char) => m ∈ l) ms ls) (hm : m ∈ l) (hw : w ∈ blanks)
    (hw' : w' ∈ blanks) (depth : Nat) :
    w ++ m ++ ms.flatMap (continued depth) ++ w' ∈ sequence (l :: ls) := by
  induction h generalizing w m l with
  | nil => exact mem_padded.2 ⟨w, hw, m, hm, w', hw', by simp⟩
  | cons hitem _ ih =>
    have hnil : [] ∈ blanks := Language.nil_mem_kstar _
    refine ⟨w ++ m ++ [], mem_padded.2 ⟨w, hw, m, hm, [], hnil, rfl⟩, _, ih hitem (newline_mem depth), ?_⟩
    simp [continued]

lemma memberText_mem {v : Json} {depth : Nat} (h : v.render depth ∈ texts (meaning v)) (key : Text) :
    memberText depth key v ∈ strings key * padded (oneOf (· = ':')) * texts (meaning v) := by
  have hcolon : ": ".toList ∈ padded (oneOf (· = ':')) := by
    refine mem_padded.2 ⟨[], Language.nil_mem_kstar _, [':'], ⟨':', rfl, rfl⟩, [' '], ?_, rfl⟩
    exact mem_star_oneOf.2 (by simp [isBlank])
  exact ⟨_, ⟨_, quoted_mem key, _, hcolon, rfl⟩, _, h, rfl⟩

mutual

lemma render_mem : ∀ (v : Json) (depth : Nat), v.render depth ∈ texts (meaning v)
  | .number n, _ => by
    rw [meaning, texts, Json.render]
    exact ⟨.inl (decimal_mem_ints n), amount_decimal n⟩
  | .string t, _ => by
    rw [meaning, texts, Json.render]
    exact quoted_mem t
  | .array [], _ => by
    rw [meaning, texts, Json.render]
    exact ⟨[], Language.nil_mem_kstar _, rfl⟩
  | .object [], _ => by
    rw [meaning, texts, Json.render]
    exact ⟨[], Language.nil_mem_kstar _, rfl⟩
  | .array (item :: items), depth => by
    rw [meaning, texts, Json.render, renderItems_eq]
    refine ⟨_, continued_mem (items_mem items (depth + 1)) (render_mem item (depth + 1))
      (newline_mem (depth + 1)) (newline_mem depth) (depth + 1), ?_⟩
    simp
  | .object ((key, v) :: members), depth => by
    rw [meaning, texts, Json.render, renderMembers_eq]
    refine ⟨_, continued_mem (members_mem members (depth + 1))
      (memberText_mem (render_mem v (depth + 1)) key) (newline_mem (depth + 1)) (newline_mem depth)
      (depth + 1), ?_⟩
    simp [memberText]

lemma items_mem : ∀ (items : List Json) (depth : Nat),
    List.Forall₂ (fun m (l : Language Char) => m ∈ l) (items.map (Json.render depth))
      (itemTexts (meanings items))
  | [], _ => .nil
  | item :: items, depth => .cons (render_mem item depth) (items_mem items depth)

lemma members_mem : ∀ (members : List (Text × Json)) (depth : Nat),
    List.Forall₂ (fun m (l : Language Char) => m ∈ l)
      (members.map fun member => memberText depth member.1 member.2)
      (memberTexts (memberMeanings members))
  | [], _ => .nil
  | (key, v) :: members, depth =>
    .cons (memberText_mem (render_mem v depth) key) (members_mem members depth)

end

end GraphQLTokens.JsonText
