import GraphQLTokens.Listing.Format
import Mathlib.Data.List.Basic

namespace GraphQLTokens.Listing

variable {c : Char} {before after : Text} {file : SourceFile} {withTrivia : Bool} {r : Record}
  {rs : List Record}

def cutAt? (c : Char) (t : Text) : Option (Text × Text) :=
  match t.dropWhile (· != c) with
  | [] => none
  | _ :: after => some (t.takeWhile (· != c), after)

structure Fields where
  line : Nat
  column : Nat
  kind : Text
  text : Text

def fields? (row : Text) : Option Fields := do
  let (place, entry) ← cutAt? ' ' row
  let (line, column) ← cutAt? ':' place
  let (kind, text) ← cutAt? ' ' entry
  return ⟨decimalValue line, decimalValue column, kind, text⟩

def fieldsOf (r : Record) : Fields :=
  ⟨r.line, r.column, r.kind, unbroken r.text⟩

def placeOf (r : Record) : Text :=
  decimal r.line ++ ':' :: decimal r.column

def rowOf (r : Record) : Text :=
  placeOf r ++ ' ' :: (r.kind ++ ' ' :: unbroken r.text)

def breaks : List Char :=
  ['\n', '\r', '\t']

def isKindScalar (c : Char) : Bool :=
  c == '_' || 'a' ≤ c && c ≤ 'z'

def Named (r : Record) : Prop :=
  r.kind.all isKindScalar

inductive OneLine : Text → Text → Prop
  | nil : OneLine [] []
  | lineFeed {t s : Text} : OneLine t s → OneLine ('\n' :: t) ('\\' :: 'n' :: s)
  | carriageReturn {t s : Text} : OneLine t s → OneLine ('\r' :: t) ('\\' :: 'r' :: s)
  | tab {t s : Text} : OneLine t s → OneLine ('\t' :: t) ('\\' :: 't' :: s)
  | other {c : Char} {t s : Text} : c ∉ breaks → OneLine t s → OneLine (c :: t) (c :: s)

structure RowByRow (rs : List Record) (t : Text) : Prop where
  plain : '\r' ∉ t ∧ '\t' ∉ t
  rows : ∃ rows, t.splitOn '\n' = rows ++ [[]] ∧ rows.map fields? = rs.map (some ∘ fieldsOf)

lemma cutAt?_append (h : c ∉ before) : cutAt? c (before ++ c :: after) = some (before, after) := by
  have hbefore : ∀ x ∈ before, (x != c) = true := by
    intro x hx
    exact bne_iff_ne.2 (ne_of_mem_of_not_mem hx h)
  rw [cutAt?, List.dropWhile_append_of_pos hbefore, List.takeWhile_append_of_pos hbefore]
  simp

lemma not_mem_unbroken (hc : c ∈ breaks) (t : Text) : c ∉ unbroken t := by
  intro h
  obtain ⟨x, -, hx⟩ := List.mem_flatMap.1 h
  have hescapes : ∀ c ∈ breaks, c ∉ "\\n".toList ∧ c ∉ "\\r".toList ∧ c ∉ "\\t".toList := by
    simp [breaks]
  obtain ⟨hn, hr, ht⟩ := hescapes c hc
  split_ifs at hx with hxn hxr hxt
  · exact hn hx
  · exact hr hx
  · exact ht hx
  · rw [List.mem_singleton.1 hx] at hc
    simp [breaks, hxn, hxr, hxt] at hc

lemma Named.not_mem_kind (h : Named r) (hc : c ∈ ' ' :: breaks) : c ∉ r.kind := by
  have hother : ∀ c ∈ ' ' :: breaks, ¬ isKindScalar c := by simp [breaks, isKindScalar]
  exact fun hmem => hother c hc (List.all_eq_true.1 h c hmem)

lemma named_ofToken (file : SourceFile) (x : Token) : Named (.ofToken file x) := by
  obtain ⟨kind, span⟩ := x
  cases kind with
  | string quotation body => cases quotation <;> rfl
  | identifier | int | float | punctuator | unrecognized => rfl

lemma named_ofTrivia (file : SourceFile) (v : Trivia) : Named (.ofTrivia file v) := by
  obtain ⟨kind, span⟩ := v
  cases kind <;> rfl

lemma named_of_mem (h : r ∈ records file withTrivia) : Named r := by
  cases withTrivia with
  | true =>
    rw [records, if_pos rfl, List.mem_mergeSort, List.mem_append, List.mem_map, List.mem_map] at h
    rcases h with ⟨x, -, rfl⟩ | ⟨v, -, rfl⟩
    · exact named_ofToken file x
    · exact named_ofTrivia file v
  | false =>
    obtain ⟨x, -, rfl⟩ := List.mem_map.1 h
    exact named_ofToken file x

lemma row_eq (r : Record) : r.row = rowOf r ++ ['\n'] := by
  simp [Record.row, rowOf, placeOf]

lemma not_mem_placeOf (hc : c ∈ ' ' :: breaks) (r : Record) : c ∉ placeOf r := by
  have hdigit : ∀ c ∈ ' ' :: breaks, ¬ isDigit c ∧ c ≠ ':' := by simp [breaks, isDigit]
  obtain ⟨hdigit, hcolon⟩ := hdigit c hc
  simp [placeOf, not_mem_decimal hdigit, hcolon]

lemma Named.not_mem_rowOf (h : Named r) (hc : c ∈ breaks) : c ∉ rowOf r := by
  have hspace : c ≠ ' ' := by
    rintro rfl
    revert hc
    decide
  have hmem : c ∈ ' ' :: breaks := List.mem_cons_of_mem _ hc
  simp [rowOf, not_mem_placeOf hmem r, hspace, h.not_mem_kind hmem, not_mem_unbroken hc]

lemma Named.fields?_rowOf (h : Named r) : fields? (rowOf r) = some (fieldsOf r) := by
  have hplace : ' ' ∉ placeOf r := not_mem_placeOf (List.mem_cons_self ..) r
  have hline : ':' ∉ decimal r.line := not_mem_decimal (by decide) _
  have hkind : ' ' ∉ r.kind := h.not_mem_kind (List.mem_cons_self ..)
  have hnumbers : cutAt? ':' (placeOf r) = some (decimal r.line, decimal r.column) := cutAt?_append hline
  simp only [fields?, rowOf, cutAt?_append hplace, hnumbers, cutAt?_append hkind, Option.bind_eq_bind,
    Option.bind_some, decimalValue_decimal]
  rfl

lemma splitOn_rows (h : ∀ r ∈ rs, Named r) :
    (rs.flatMap Record.row).splitOn '\n' = rs.map rowOf ++ [[]] := by
  induction rs with
  | nil => exact List.splitOn_nil _
  | cons r rs ih =>
    obtain ⟨hr, hrs⟩ := List.forall_mem_cons.1 h
    have hbreak : '\n' ∉ rowOf r := hr.not_mem_rowOf (List.mem_cons_self ..)
    rw [List.flatMap_cons, row_eq, List.append_assoc, List.singleton_append,
      List.splitOn_append_cons_self_of_not_mem hbreak, ih hrs]
    rfl

lemma not_mem_rows (h : ∀ r ∈ rs, Named r) (hc : c ∈ breaks) (hne : c ≠ '\n') :
    c ∉ rs.flatMap Record.row := by
  intro hmem
  obtain ⟨r, hr, hmem⟩ := List.mem_flatMap.1 hmem
  rw [row_eq] at hmem
  rcases List.mem_append.1 hmem with hmem | hmem
  · exact (h r hr).not_mem_rowOf hc hmem
  · exact hne (List.mem_singleton.1 hmem)

theorem listing_rowByRow (file : SourceFile) (withTrivia : Bool) :
    RowByRow (records file withTrivia) (listing file .text withTrivia) := by
  have hnamed : ∀ r ∈ records file withTrivia, Named r := fun _ => named_of_mem
  constructor
  case plain =>
    exact ⟨not_mem_rows hnamed (by decide) (by decide), not_mem_rows hnamed (by decide) (by decide)⟩
  case rows =>
    refine ⟨_, splitOn_rows hnamed, ?_⟩
    rw [List.map_map, List.map_inj_left]
    exact fun r hr => (hnamed r hr).fields?_rowOf

lemma oneLine_unbroken (t : Text) : OneLine t (unbroken t) := by
  induction t with
  | nil => exact .nil
  | cons c t ih =>
    rw [unbroken, List.flatMap_cons, ← unbroken]
    split_ifs with hfeed hreturn htab
    · exact hfeed ▸ .lineFeed ih
    · exact hreturn ▸ .carriageReturn ih
    · exact htab ▸ .tab ih
    · exact .other (by simp [breaks, hfeed, hreturn, htab]) ih

theorem unbroken_eq_iff {t s : Text} : unbroken t = s ↔ OneLine t s := by
  constructor
  · rintro rfl
    exact oneLine_unbroken t
  · intro h
    induction h with
    | nil => rfl
    | lineFeed _ ih | carriageReturn _ ih | tab _ ih => exact congrArg (_ ++ ·) ih
    | @other c _ _ hc _ ih =>
      simp only [breaks, List.mem_cons, List.not_mem_nil, or_false, not_or] at hc
      obtain ⟨hfeed, hreturn, htab⟩ := hc
      rw [unbroken, List.flatMap_cons, if_neg hfeed, if_neg hreturn, if_neg htab, ← ih]
      rfl

end GraphQLTokens.Listing
