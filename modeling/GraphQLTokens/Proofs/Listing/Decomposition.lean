import GraphQLTokens.Listing.Record
import GraphQLTokens.Proofs.Lexing.Tiling
import GraphQLTokens.Proofs.Source.Positions

namespace GraphQLTokens.Listing

open Lexing Lines

variable {t : Text} {p : Piece}

def recordOf (file : SourceFile) : Piece → Record
  | .token x => .ofToken file x
  | .trivia v => .ofTrivia file v

def spanOf (r : Record) : Span :=
  ⟨r.start, r.stop⟩

def triviaNames : List Text :=
  [TriviaKind.whitespace, .comma, .comment].map TriviaKind.name

lemma spanOf_recordOf (file : SourceFile) (p : Piece) : spanOf (recordOf file p) = p.span := by
  cases p <;> rfl

lemma text_recordOf (name t : Text) (p : Piece) :
    (recordOf (SourceFile.ofText name t) p).text = p.text t := by
  cases p with
  | token x => rfl
  | trivia v => exact SourceFile.slice_ofText name t v.span

lemma position_recordOf (name t : Text) (p : Piece) :
    Position.mk (recordOf (SourceFile.ofText name t) p).line (recordOf (SourceFile.ofText name t) p).column =
      positionAt (recordOf (SourceFile.ofText name t) p).start t := by
  cases p <;> exact position_ofText name t _

def isToken (r : Record) : Bool :=
  r.kind ∉ triviaNames

lemma isToken_ofToken (file : SourceFile) (x : Token) : isToken (.ofToken file x) = true := by
  obtain ⟨kind, span⟩ := x
  cases kind with
  | string quotation body => cases quotation <;> rfl
  | identifier | int | float | punctuator | unrecognized => rfl

lemma isToken_ofTrivia (file : SourceFile) (v : Trivia) : isToken (.ofTrivia file v) = false := by
  obtain ⟨kind, span⟩ := v
  cases kind <;> rfl

lemma filter_isToken (file : SourceFile) (ps : List Piece) :
    (ps.map (recordOf file)).filter isToken = (tokensIn ps).map (Record.ofToken file) := by
  induction ps with
  | nil => rfl
  | cons p ps ih =>
    cases p with
    | token x =>
      rw [List.map_cons, recordOf, List.filter_cons_of_pos (isToken_ofToken file x), ih, tokensIn_token,
        List.map_cons]
    | trivia v =>
      have hkind : ¬ isToken (.ofTrivia file v) = true := by
        rw [isToken_ofTrivia]
        exact Bool.false_ne_true
      rw [List.map_cons, recordOf, List.filter_cons_of_neg hkind, ih, tokensIn_trivia]

lemma ascending_recordOf (file : SourceFile) (t : Text) :
    ((pieces 0 t).map (recordOf file)).Pairwise (·.start < ·.start) := by
  have hspans := (tiles_pieces 0 t).ascending
  rw [List.pairwise_map] at hspans ⊢
  refine hspans.imp ?_
  intro p q hpq
  rwa [← spanOf_recordOf file p, ← spanOf_recordOf file q] at hpq

lemma records_trivia (name t : Text) : records (SourceFile.ofText name t) true =
    (pieces 0 t).map (recordOf (SourceFile.ofText name t)) := by
  have hperm := perm_map_pieces (pieces 0 t) (recordOf (SourceFile.ofText name t))
  have hsort := mergeSort_eq_of_perm hperm (ascending_recordOf _ t)
  have hcontent : (SourceFile.ofText name t).content = t := rfl
  rw [records, if_pos rfl, hcontent, tokensAndTriviaOf_eq]
  exact hsort

lemma records_tokens (name t : Text) : records (SourceFile.ofText name t) false =
    (tokensIn (pieces 0 t)).map (Record.ofToken (SourceFile.ofText name t)) := by
  rw [← tokensOf_eq]
  rfl

lemma flatMap_text_records (name t : Text) :
    (records (SourceFile.ofText name t) true).flatMap (·.text) = t := by
  rw [records_trivia, List.flatMap_map]
  simp only [text_recordOf]
  exact flatMap_text t

structure Decomposes (file : SourceFile) (rs : List Record) : Prop where
  ordered : rs.Pairwise (·.start < ·.start)
  adjoining : Tiles 0 (rs.map spanOf) file.length
  restores : rs.flatMap (·.text) = file.content
  measured : ∀ r ∈ rs, r.stop - r.start = r.text.length
  located : ∀ r ∈ rs, Position.mk r.line r.column = positionAt r.start file.content

lemma length_text_of_mem (hp : p ∈ pieces 0 t) : p.span.stop - p.span.start = (p.text t).length := by
  have hread := readIn_of_mem rfl (Nat.zero_le _) hp
  have hbounds := (tiles_pieces 0 t).bounds (List.mem_map_of_mem hp)
  rw [Nat.zero_add] at hbounds
  rw [Piece.text_eq_slice hread, Span.slice, List.length_take, List.length_drop]
  omega

end GraphQLTokens.Listing
