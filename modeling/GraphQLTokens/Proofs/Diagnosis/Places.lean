import GraphQLTokens.Proofs.Diagnosis.Causes
import GraphQLTokens.Proofs.Source.Snippets

namespace GraphQLTokens.Diagnosis

open Grammar Lexing Lines

def remainingNote (count : Nat) : Text :=
  "lexing stopped here; the remaining ".toList ++ decimal count ++
    " character(s) were not scanned".toList

structure PointsInto (name t : Text) (d : Diagnostic) : Prop where
  span : d.span.start < d.span.stop ∧ d.span.stop ≤ t.length
  location : ∃ rest, d.render (SourceFile.ofText name t) = d.header ++ '\n' ::
    (" --> ".toList ++ name ++ ':' :: (positionAt d.span.start t).render ++ '\n' :: rest)
  snippet : ∃ s, d.snippets = [s] ∧ Marks t d.span s
  note : ∀ count, remainingNote count ∈ d.notes ↔
    d.span.stop < t.length ∧ count = t.length - d.span.stop

variable {t m u rest name : Text} {r span : Span} {touching : Option Token} {F : Finding} {a i p : Nat}
  {code : Code}

structure Covered (t : Text) (span : Span) (m rest : Text) : Prop where
  drop_eq : t.drop span.start = m ++ rest
  stop_eq : span.stop = span.start + m.length
  head : ∃ c m', m = c :: m' ∧ ¬ isLineTerminator c
  plain : rest = [] ∨ Plain m

lemma covered_of_plain (hs : t.drop a = m ++ rest) (hm : Plain m) (hne : m ≠ []) :
    Covered t ⟨a, a + m.length⟩ m rest := by
  refine ⟨hs, rfl, ?_, .inr hm⟩
  obtain ⟨c, m, rfl⟩ := List.exists_cons_of_ne_nil hne
  exact ⟨c, m, rfl, (plain_cons.1 hm).1⟩

lemma Explained.covered (h : Explained t p code span) : ∃ m rest, Covered t span m rest := by
  cases h with
  | @blockString q _ hopen _ =>
    obtain ⟨after, hafter⟩ := hopen
    have hlen := length_of_append hafter.symm (List.cons_ne_nil _ _)
    refine ⟨t.drop q, [], (List.append_nil _).symm, ?_, ⟨'"', _, hafter.symm, by decide⟩, .inl rfl⟩
    simp only [List.length_drop]
    omega
  | string hs hbody _ =>
    have hplain : Plain ('"' :: _) := plain_cons.2 ⟨by decide, (mem_lineBodies_iff.1 hbody).2⟩
    exact ⟨_, _, covered_of_plain hs hplain (List.cons_ne_nil _ _)⟩
  | dots hs hm _ =>
    refine ⟨_, _, covered_of_plain hs ?_ ?_⟩
    · rcases hm with rfl | rfl <;> simp [isLineTerminator]
    · rcases hm with rfl | rfl <;> exact List.cons_ne_nil _ _
  | minus hs _ =>
    have hplain : Plain ['-'] := by simp [isLineTerminator]
    exact ⟨['-'], _, covered_of_plain hs hplain (List.cons_ne_nil _ _)⟩
  | @character c _ hs hspace _ _ _ _ =>
    have hplain : Plain [c] := by simpa using mt whitespace_of_lineTerminator hspace
    exact ⟨[c], _, covered_of_plain hs hplain (List.cons_ne_nil _ _)⟩

lemma Covered.bounds (h : Covered t span m rest) : span.start < span.stop ∧ span.stop ≤ t.length := by
  obtain ⟨c, m, rfl, -⟩ := h.head
  have hlen := length_of_append h.drop_eq (List.cons_ne_nil _ _)
  rw [h.stop_eq, hlen, List.length_cons]
  omega

lemma Covered.getElem?_eq (h : Covered t span m rest) (hstart : span.start ≤ i) (hstop : i < span.stop) :
    t[i]? = m[i - span.start]? := by
  have hget := congrArg (·[i - span.start]?) h.drop_eq
  have hstop' := h.stop_eq
  simp only [List.getElem?_drop, Nat.add_sub_cancel' hstart] at hget
  rw [hget, List.getElem?_append_left (by omega)]

lemma Covered.cut (h : Covered t span m rest) :
    span.stop = t.length ∨ ∀ i, span.start ≤ i → i < span.stop → Marked t span i := by
  rcases h.plain with rfl | hplain
  · obtain ⟨c, m, rfl, -⟩ := h.head
    exact .inl (h.stop_eq.trans (length_of_append h.drop_eq (List.cons_ne_nil _ _)).symm)
  · refine .inr fun i hstart hstop => ⟨hstart, hstop, fun j c hj hji hc => ?_⟩
    rw [h.getElem?_eq hj (by omega)] at hc
    exact hplain c (List.mem_of_getElem? hc)

lemma Covered.snippet?_marks (h : Covered t span m rest) (name : Text) {label : Text}
    (hlabel : '\n' ∉ label ∧ '^' ∉ label) : ∃ s,
      (SourceFile.ofText name t).snippet? span (some label) = .ok s ∧ Marks t span s := by
  obtain ⟨hlt, hle⟩ := h.bounds
  obtain ⟨before, line, after, k, hstands⟩ := exists_stands (Nat.le_of_lt (hlt.trans_le hle))
  obtain ⟨c, m', hm, hc⟩ := h.head
  have hget : t[span.start]? = some c := by
    rw [h.getElem?_eq (Nat.le_refl _) hlt, Nat.sub_self, hm]
    rfl
  have hk := hstands.lt_text hget hc
  refine ⟨_, hstands.snippet?_cut name (some label) hk hlt hle h.cut, ?_⟩
  refine hstands.marks hk hlt hle rfl rfl rfl rfl ?_
  rintro _ ⟨⟩
  exact hlabel

def labels : List Text :=
  ["block string starts here".toList, "string is never closed".toList, "not a valid token".toList,
    "expected a digit after `-`".toList, "unexpected character".toList]

lemma label_mem_labels (hF : Finding.ofRemainder touching u r = .ok F) : F.label ∈ labels := by
  refine ofRemainder_cases hF ?block ?string ?dots ?minus ?character
  case block => exact fun _ _ _ _ => .head _
  case string => exact fun _ _ _ => .tail _ (.head _)
  case dots => exact fun _ _ => .tail _ (.tail _ (.head _))
  case minus => exact fun _ _ => .tail _ (.tail _ (.tail _ (.head _)))
  case character => exact fun _ => .tail _ (.tail _ (.tail _ (.tail _ (.head _))))

lemma not_mem_label : ∀ label ∈ labels, '\n' ∉ label ∧ '^' ∉ label := by
  decide +kernel

lemma head_note (hF : Finding.ofRemainder touching u r = .ok F) {n : Text} (h : n ∈ F.note) :
    n.head? = some 'a' := by
  revert h
  refine ofRemainder_cases hF ?block ?string ?dots ?minus ?character
  case dots =>
    intro rest hu h
    rw [Finding.invalidPunctuator] at h
    split at h
    · cases h
      rfl
    · cases h
  all_goals
    intros
    contradiction

lemma remainingNote_inj {k n : Nat} : remainingNote k = remainingNote n ↔ k = n := by
  constructor
  · intro h
    exact decimal_inj.1 (List.append_cancel_left (List.append_cancel_right h))
  · exact congrArg remainingNote

lemma remainingNote_mem_iff (hF : Finding.ofRemainder touching u r = .ok F) (hr : r.stop = t.length)
    (level : Level) (file : SourceFile) (count : Nat) :
    remainingNote count ∈ (F.diagnostic level r file).notes ↔
      F.span.stop < t.length ∧ count = t.length - F.span.stop := by
  have hnote : remainingNote count ∉ F.note.toList := by
    intro h
    have hhead : some 'l' = some 'a' := head_note hF (Option.mem_toList.1 h)
    cases hhead
  rw [Finding.diagnostic, List.mem_append, or_iff_right hnote, Finding.unscannedNote, hr,
    Option.mem_toList]
  split
  · rename_i hnone
    simp only [reduceCtorEq, false_iff]
    omega
  · rename_i hsome
    rw [Option.some_inj, eq_comm]
    refine (remainingNote_inj (n := t.length - F.span.stop)).trans ?_
    omega

lemma render_eq (name t : Text) (d : Diagnostic) : ∃ rest, d.render (SourceFile.ofText name t) =
    d.header ++ '\n' :: (" --> ".toList ++ name ++ ':' :: (positionAt d.span.start t).render ++
      '\n' :: rest) := by
  have hbreak : "\n".toList = ['\n'] := by decide
  unfold Diagnostic.render Diagnostic.body
  simp only [position_ofText, hbreak, List.append_assoc, List.singleton_append]
  exact ⟨_, rfl⟩

end GraphQLTokens.Diagnosis
