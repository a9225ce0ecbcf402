import GraphQLTokens.Proofs.CommandLine.Traces
import GraphQLTokens.Proofs.Diagnosis.Levels
import GraphQLTokens.Proofs.Listing.Decoding
import GraphQLTokens.Proofs.Listing.Rows

namespace GraphQLTokens.CommandLine

open Diagnosis JsonText Lexing Listing

section

variable {file : SourceFile} {rs : List Record} {u : Text} {r : Span}

lemma mapM_of_forall {α β : Type} {f : α → Option β} {g : α → β} {as : List α}
    (h : ∀ a ∈ as, f a = some (g a)) : as.mapM f = some (as.map g) := by
  induction as with
  | nil => rfl
  | cons a as ih =>
    obtain ⟨ha, has⟩ := List.forall_mem_cons.1 h
    rw [List.mapM_cons, ha, ih has]
    rfl

def kindOf? (v : Value) : Option Text :=
  match field? "kind".toList v with
  | some (.string kind) => some kind
  | _ => none

/-- The kinds in a listing, read off what is printed. -/
def kindsListed? : Format → Text → Option (List Text)
  | .text, t => ((t.splitOn '\n').dropLast.mapM fields?).map (·.map Fields.kind)
  | .json, t =>
    match decode? t with
    | some (.array items) => items.mapM kindOf?
    | _ => none

lemma kindsListed?_text (h : ∀ r ∈ rs, Named r) :
    kindsListed? .text (rs.flatMap Record.row) = some (rs.map (·.kind)) := by
  have hfields : rs.mapM (fields? ∘ rowOf) = some (rs.map fieldsOf) :=
    mapM_of_forall fun r hr => (h r hr).fields?_rowOf
  rw [kindsListed?, splitOn_rows h, List.dropLast_concat, List.mapM_map, hfields, Option.map_some,
    List.map_map]
  rfl

lemma kindsListed?_json {t : Text} (h : decode? t = some (.array (rs.map recordValue))) :
    kindsListed? .json t = some (rs.map (·.kind)) := by
  have hkinds : rs.mapM (kindOf? ∘ recordValue) = some (rs.map (·.kind)) :=
    mapM_of_forall fun _ _ => rfl
  simp only [kindsListed?, h]
  rw [List.mapM_map, hkinds]

def kindsOf (file : SourceFile) : List Text :=
  (records file false).map (·.kind)

lemma kindsListed?_listing (file : SourceFile) (format : Format) :
    kindsListed? format (listing file format false) = some (kindsOf file) := by
  cases format with
  | text => exact kindsListed?_text fun _ => named_of_mem
  | json => exact kindsListed?_json (decodesTo_of_mem (listing_mem file false)).decoded

def unrecognizedName : Text :=
  "unrecognized".toList

lemma ne_unrecognized : ∀ kind ∈ ["identifier", "int", "float", "string", "block_string", "punctuator"],
    kind.toList ≠ unrecognizedName := by
  decide

lemma name_eq_unrecognized {k : TokenKind} (h : k.name = unrecognizedName) : ∃ u, k = .unrecognized u := by
  cases k with
  | unrecognized u => exact ⟨u, rfl⟩
  | string quotation body =>
    cases quotation
    · exact absurd h (ne_unrecognized "block_string" (by decide))
    · exact absurd h (ne_unrecognized "string" (by decide))
  | identifier => exact absurd h (ne_unrecognized "identifier" (by decide))
  | int => exact absurd h (ne_unrecognized "int" (by decide))
  | float => exact absurd h (ne_unrecognized "float" (by decide))
  | punctuator => exact absurd h (ne_unrecognized "punctuator" (by decide))

lemma mem_kindsOf_iff : unrecognizedName ∈ kindsOf file ↔
    ∃ u r, (tokensOf file.content).getLast? = some ⟨.unrecognized u, r⟩ := by
  constructor
  case mp =>
    intro h
    obtain ⟨_, hr, hk⟩ := List.mem_map.1 h
    obtain ⟨⟨kind, span⟩, hx, rfl⟩ := List.mem_map.1 hr
    obtain ⟨u, rfl⟩ := name_eq_unrecognized hk
    rw [tokensOf_eq] at hx ⊢
    exact ⟨u, span, (last_of_unrecognized hx rfl).1⟩
  case mpr =>
    rintro ⟨u, r, hlast⟩
    exact List.mem_map.2 ⟨_, List.mem_map_of_mem (List.mem_of_getLast? hlast), rfl⟩

lemma length_kindsOf (file : SourceFile) : (tokensOf file.content).length = (kindsOf file).length := by
  rw [kindsOf, List.length_map, records, if_neg Bool.false_ne_true, List.length_map]

end

def shown (color : Bool) (d : Diagnostic) (file : SourceFile) : Text :=
  if color then painted d.level (d.render file) else d.render file

def summaryLine (kinds : List Text) : Text :=
  if kinds.contains unrecognizedName then
    decimal kinds.length ++ " tokens, ".toList ++ decimal 1 ++ " warning(s)\n".toList
  else "ok: ".toList ++ decimal kinds.length ++ " tokens\n".toList

def levelOf (config : Config) : Level :=
  if config.failOnUnrecognized then .error else .warning

structure Outcome where
  status : Nat
  output : Text
  complaints : Text

lemma summary_silent {kinds : List Text} (h : unrecognizedName ∉ kinds) :
    Verdict.summary ⟨kinds.length, 0, 0⟩ = summaryLine kinds := by
  rw [summaryLine, if_neg (mt List.contains_iff_mem.1 h)]
  rfl

lemma summary_warning {kinds : List Text} (h : unrecognizedName ∈ kinds) :
    Verdict.summary ⟨kinds.length, 0, 1⟩ = summaryLine kinds := by
  rw [summaryLine, if_pos (List.contains_iff_mem.2 h)]
  rfl

lemma check_silent {file : SourceFile} (h : unrecognizedName ∉ kindsOf file) (level : Level) (color : Bool) :
    check file level color = .ok (⟨(kindsOf file).length, 0, 0⟩, []) := by
  rw [check_of_no_remainder, length_kindsOf]
  exact fun u r hlast => h (mem_kindsOf_iff.2 ⟨u, r, hlast⟩)

lemma check_reported {file : SourceFile} (hlen : file.content.length < indexLimit)
    (h : unrecognizedName ∈ kindsOf file) (level : Level) (color : Bool) : ∃ d,
      diagnose? level (tokensOf file.content) file = .ok (some d) ∧ check file level color =
        .ok (⟨(kindsOf file).length, if level = .error then 1 else 0, if level = .error then 0 else 1⟩,
          shown color d file) := by
  obtain ⟨u, r, hlast⟩ := mem_kindsOf_iff.1 h
  obtain ⟨F, hF⟩ := exists_finding hlen hlast
  rw [diagnose?_of_last hlast, check_of_last hlast, hF, length_kindsOf]
  exact ⟨_, rfl, rfl⟩

section

variable {σ : Type} [Host (StateM σ)] {env env' : Environment} {arguments arguments' : List Text}
  {s s' : σ} {i i' : Invocation} {config config' : Config} {file : SourceFile}

structure Ends [View σ] (env : Environment) (arguments : List Text) (s : σ) (o : Outcome) : Prop where
  status : ((run env arguments : StateM σ Nat).run s).1 = o.status
  frame : Frame [] o.output o.complaints s ((run env arguments : StateM σ Nat).run s).2

inductive Readable (s : σ) : Text → SourceFile → Prop
  | input {t : Text} : textOfBytes? ((Host.readInput : StateM σ ByteArray).run s).1 = some t →
      Readable s "-".toList (.ofText "<stdin>".toList t)
  | file {path t : Text} {bytes : ByteArray} : path ≠ "-".toList →
      ((Host.readFile path : StateM σ (Except FileError ByteArray)).run s).1 = .ok bytes →
      textOfBytes? bytes = some t → Readable s path (.ofText path t)

lemma Readable.run_readDocument {path : Text} (h : Readable s path file) :
    ((readDocument path : ExceptT Failure (StateM σ) SourceFile).run.run s).1 = .ok file := by
  cases h with
  | input ht =>
    rw [readDocument, if_pos rfl, run_lift_bind, ht]
    rfl
  | file hpath hread ht =>
    rw [readDocument, if_neg hpath, run_lift_bind, hread]
    simp only [ht]
    rfl

structure Ready (env : Environment) (arguments : List Text) (s : σ) (i : Invocation) (config : Config)
    (file : SourceFile) : Prop where
  invoked : invocation? env arguments = .ok i
  loaded : ∃ s', (effectiveConfig env (i.configPath env) : ExceptT Failure (StateM σ) Config).run.run s =
    (.ok config, s') ∧ Readable s' i.input file

/-- What a listing of the tokens of a document and a check of it say of each other, the kinds of the tokens
being read off what the listing prints. -/
structure Agree (file : SourceFile) (format : Format) (config : Config) (color : Bool) (kinds : List Text)
    (listed checked : Outcome) : Prop where
  exits : listed.status = 0
  lists : kindsListed? format listed.output = some kinds
  diagnoses : unrecognizedName ∈ kinds → ∃ d,
    diagnose? (levelOf config) (tokensOf file.content) file = .ok (some d) ∧
      shown color d file <+: checked.complaints
  silent : unrecognizedName ∉ kinds → checked.complaints = []
  succeeds : checked.status = 0 ↔ unrecognizedName ∉ kinds ∨ config.failOnUnrecognized = false
  summarizes : checked.status = 0 → checked.output = summaryLine kinds
  output_eq_nil : checked.status ≠ 0 → checked.output = []

lemma agree_silent (h : unrecognizedName ∉ kindsOf file) (format : Format) (color : Bool) :
    Agree file format config color (kindsOf file) ⟨0, listing file format false, []⟩
      ⟨0, summaryLine (kindsOf file), []⟩ where
  exits := rfl
  lists := kindsListed?_listing file format
  diagnoses hmem := absurd hmem h
  silent _ := rfl
  succeeds := iff_of_true rfl (.inl h)
  summarizes _ := rfl
  output_eq_nil hs := absurd rfl hs

lemma agree_failing (h : unrecognizedName ∈ kindsOf file) (hfails : config.failOnUnrecognized = true)
    {d : Diagnostic} (hd : diagnose? (levelOf config) (tokensOf file.content) file = .ok (some d))
    (format : Format) (color : Bool) (complaint : Text) :
    Agree file format config color (kindsOf file) ⟨0, listing file format false, []⟩
      ⟨1, [], shown color d file ++ complaint⟩ where
  exits := rfl
  lists := kindsListed?_listing file format
  diagnoses _ := ⟨d, hd, List.prefix_append _ _⟩
  silent hnot := absurd h hnot
  succeeds := iff_of_false Nat.one_ne_zero (by simp [h, hfails])
  summarizes hs := absurd hs Nat.one_ne_zero
  output_eq_nil _ := rfl

lemma agree_tolerating (h : unrecognizedName ∈ kindsOf file) (hfails : config.failOnUnrecognized = false)
    {d : Diagnostic} (hd : diagnose? (levelOf config) (tokensOf file.content) file = .ok (some d))
    (format : Format) (color : Bool) :
    Agree file format config color (kindsOf file) ⟨0, listing file format false, []⟩
      ⟨0, summaryLine (kindsOf file), shown color d file⟩ where
  exits := rfl
  lists := kindsListed?_listing file format
  diagnoses _ := ⟨d, hd, List.prefix_rfl⟩
  silent hnot := absurd h hnot
  succeeds := iff_of_true rfl (.inr hfails)
  summarizes _ := rfl
  output_eq_nil hs := absurd rfl hs

variable [View σ]

lemma ends_of_ok {output complaints : Text} (hi : invocation? env arguments = .ok i)
    (hr : (commandOf env i : ExceptT Failure (StateM σ) Unit).run.run s = (.ok (), s'))
    (hframe : Frame [] output complaints s s') : Ends env arguments s ⟨0, output, complaints⟩ := by
  have hrun := run_of_ok hi hr
  refine ⟨congrArg Prod.fst hrun, ?_⟩
  rwa [hrun]

variable [LawfulHost σ]

lemma Ready.run_commandOf (h : Ready env arguments s i config file)
    {next : SourceFile → ExceptT Failure (StateM σ) Unit}
    (hexec : execute i env config = readDocument i.input >>= next) :
    ∃ s', Frame [] [] [] s s' ∧ (commandOf env i : ExceptT Failure (StateM σ) Unit).run.run s =
      (next file).run.run s' := by
  obtain ⟨loaded, hload, hreadable⟩ := h.loaded
  have hread := hreadable.run_readDocument
  have hloaded := effectiveConfig_keeps env (i.configPath env) s
  rw [hload] at hloaded
  have hkept := readDocument_keeps i.input loaded
  rcases hr : (readDocument i.input : ExceptT Failure (StateM σ) SourceFile).run.run loaded with ⟨result, s'⟩
  rw [hr] at hread hkept
  cases hread
  refine ⟨s', hloaded.trans hkept, ?_⟩
  rw [commandOf, ExceptT.run_bind, StateT.run_bind, hload]
  change (execute i env config : ExceptT Failure (StateM σ) Unit).run.run loaded = _
  rw [hexec, ExceptT.run_bind, StateT.run_bind, hr]
  rfl

lemma ends_of_error {output complaints : Text} {f : Failure} (hi : invocation? env arguments = .ok i)
    (hr : (commandOf env i : ExceptT Failure (StateM σ) Unit).run.run s = (.error f, s'))
    (hframe : Frame [] output complaints s s') :
    Ends env arguments s ⟨f.status, output, complaints ++ ("error: ".toList ++ f.message ++ "\n".toList)⟩ := by
  have hrun := run_of_error hi hr
  refine ⟨congrArg Prod.fst hrun, ?_⟩
  rw [hrun]
  exact hframe.printError _

lemma tokens_ends (h : Ready env arguments s i config file) (htokens : i.command = .tokens)
    (hplain : (i.trivia || config.showTrivia) = false) :
    Ends env arguments s ⟨0, listing file (i.format.getD config.format) false, []⟩ := by
  have hexec : (execute i env config : ExceptT Failure (StateM σ) Unit) = readDocument i.input >>= fun file =>
      liftM (Host.print (listing file (i.format.getD config.format) false) : StateM σ Unit) := by
    simp only [execute, htokens, hplain]
  obtain ⟨s', hframe, hrun⟩ := h.run_commandOf hexec
  exact ends_of_ok h.invoked hrun (hframe.print _)

lemma Ready.run_check (h : Ready env arguments s i config file) (hcommand : i.command = .check)
    {verdict : Verdict} {written : Text}
    (hcheck : check file (levelOf config) (config.color && !i.noColor env) = .ok (verdict, written)) :
    ∃ s', Frame [] [] written s s' ∧ (commandOf env i : ExceptT Failure (StateM σ) Unit).run.run s =
      (do
        if 0 < verdict.errors then throw (.lexical file.name verdict.errors)
        (Host.print verdict.summary : StateM σ Unit) : ExceptT Failure (StateM σ) Unit).run.run s' := by
  have hexec : (execute i env config : ExceptT Failure (StateM σ) Unit) =
      readDocument i.input >>= fun file => checkDocument file config (i.noColor env) := by
    simp only [execute, hcommand]
  obtain ⟨s', hframe, hrun⟩ := h.run_commandOf hexec
  refine ⟨_, hframe.printError written, ?_⟩
  rw [levelOf] at hcheck
  rw [hrun, checkDocument]
  simp only [hcheck]
  rw [run_lift_bind]

lemma check_fails (h : Ready env arguments s i config file) (hcommand : i.command = .check)
    {verdict : Verdict} {written : Text}
    (hcheck : check file (levelOf config) (config.color && !i.noColor env) = .ok (verdict, written))
    (herrors : 0 < verdict.errors) : ∃ complaint, Ends env arguments s ⟨1, [], written ++ complaint⟩ := by
  obtain ⟨s', hframe, hrun⟩ := h.run_check hcommand hcheck
  rw [if_pos herrors] at hrun
  exact ⟨_, ends_of_error h.invoked hrun hframe⟩

lemma check_succeeds (h : Ready env arguments s i config file) (hcommand : i.command = .check)
    {verdict : Verdict} {written : Text}
    (hcheck : check file (levelOf config) (config.color && !i.noColor env) = .ok (verdict, written))
    (herrors : verdict.errors = 0) : Ends env arguments s ⟨0, verdict.summary, written⟩ := by
  obtain ⟨s', hframe, hrun⟩ := h.run_check hcommand hcheck
  rw [if_neg (by simp [herrors])] at hrun
  exact ends_of_ok h.invoked hrun (hframe.print verdict.summary)

end

def invocationOn (command : Command) (path : Text) : Invocation :=
  ⟨.start none, command, { Given.start (some command) with operands := [path] }⟩

lemma readable_oneFile :
    Readable (oneFile "a".toList "?".toList) "a".toList (.ofText "a".toList "?".toList) :=
  .file (by decide) rfl rfl

lemma ready_tokens : Ready (fun _ => none) (["tokens", "a"].map String.toList)
    (oneFile "a".toList "?".toList) (invocationOn .tokens "a".toList) .default
    (.ofText "a".toList "?".toList) :=
  ⟨rfl, oneFile "a".toList "?".toList, rfl, readable_oneFile⟩

lemma ready_check : Ready (fun _ => none) (["check", "a"].map String.toList)
    (oneFile "a".toList "?".toList) (invocationOn .check "a".toList) .default
    (.ofText "a".toList "?".toList) :=
  ⟨rfl, oneFile "a".toList "?".toList, rfl, readable_oneFile⟩

end GraphQLTokens.CommandLine
