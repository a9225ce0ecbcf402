import GraphQLTokens.Listing.Format
import GraphQLTokens.Proofs.Json.Reader
import GraphQLTokens.Proofs.Json.Writer
import GraphQLTokens.Proofs.Listing.Decomposition

namespace GraphQLTokens.Listing

open JsonText

def recordValue (r : Record) : Value :=
  .object [("kind".toList, .string r.kind), ("text".toList, .string r.text), ("start".toList, .number r.start),
    ("end".toList, .number r.stop), ("line".toList, .number r.line), ("column".toList, .number r.column)]

def field? (key : Text) : Value → Option Value
  | .object members => members.lookup key
  | _ => none

def textOf (v : Value) : Text :=
  match field? "text".toList v with
  | some (.string t) => t
  | _ => []

def textsJoined : Value → Text
  | .array items => items.flatMap textOf
  | _ => []

structure DecodesTo (t : Text) (v : Value) : Prop where
  wellFormed : ∃ body ∈ texts v, t = body ++ ['\n']
  decoded : decode? t = some v
  only : ∀ v', t ∈ padded (texts v') → v' = v

lemma meaning_toJson (r : Record) : meaning r.toJson = recordValue r :=
  rfl

lemma meanings_toJson (rs : List Record) : meanings (rs.map Record.toJson) = rs.map recordValue := by
  induction rs with
  | nil => rfl
  | cons r rs ih => rw [List.map_cons, meanings, ih, meaning_toJson, List.map_cons]

lemma listing_mem (file : SourceFile) (withTrivia : Bool) :
    ∃ body ∈ texts (.array ((records file withTrivia).map recordValue)),
      listing file .json withTrivia = body ++ ['\n'] := by
  refine ⟨_, ?_, rfl⟩
  rw [← meanings_toJson, ← meaning]
  exact render_mem _ 0

lemma decodesTo_of_mem {t : Text} {v : Value} (h : ∃ body ∈ texts v, t = body ++ ['\n']) : DecodesTo t v := by
  obtain ⟨body, hbody, rfl⟩ := h
  have hmem : body ++ ['\n'] ∈ padded (texts v) :=
    mem_padded.2 ⟨[], Language.nil_mem_kstar _, body, hbody, ['\n'], newline_mem 0, rfl⟩
  have hdecoded := decode?_of_mem hmem
  refine ⟨⟨body, hbody, rfl⟩, hdecoded, fun v' hv' => ?_⟩
  rw [decode?_of_mem hv'] at hdecoded
  exact Option.some_inj.1 hdecoded

lemma textsJoined_records (rs : List Record) :
    textsJoined (.array (rs.map recordValue)) = rs.flatMap (·.text) := by
  rw [textsJoined, List.flatMap_map]
  rfl

theorem listing_decodes (name t : Text) :
    (∀ withTrivia, DecodesTo (listing (SourceFile.ofText name t) .json withTrivia)
      (.array ((records (SourceFile.ofText name t) withTrivia).map recordValue))) ∧
    (decode? (listing (SourceFile.ofText name t) .json true)).map textsJoined = some t := by
  have hdecodes (withTrivia : Bool) := decodesTo_of_mem (listing_mem (SourceFile.ofText name t) withTrivia)
  refine ⟨hdecodes, ?_⟩
  rw [(hdecodes true).decoded, Option.map_some, textsJoined_records, flatMap_text_records]

end GraphQLTokens.Listing
