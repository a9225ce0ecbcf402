import GraphQLTokens.CommandLine.Run
import GraphQLTokens.Proofs.CommandLine.Files

namespace GraphQLTokens.CommandLine

open View

section

variable {σ : Type} [Host (StateM σ)] [View σ] [LawfulHost σ]

lemma firstExisting_keeps (paths : List Text) :
    Keeps (firstExisting paths : StateM σ (Option Text)) := by
  induction paths with
  | nil => exact keeps_pure _
  | cons path paths ih =>
    apply (LawfulHost.pathExists_keeps path).bind
    intro found
    split
    · exact keeps_pure _
    · exact ih

lemma readConfig_keeps (path : Text) :
    Keeps (readConfig path : ExceptT Failure (StateM σ) Config).run := by
  apply (LawfulHost.pathExists_keeps path).run_lift.run_bind
  intro found
  simp only
  split
  · exact keeps_run_throw (σ := σ) _
  · apply (LawfulHost.readFile_keeps path).run_lift.run_bind
    intro result
    repeat' split
    all_goals first | exact keeps_run_throw _ | exact keeps_run_pure _

lemma effectiveConfig_keeps (env : Environment) (path : Option Text) :
    Keeps (effectiveConfig env path : ExceptT Failure (StateM σ) Config).run := by
  cases path with
  | some path => exact readConfig_keeps path
  | none =>
    apply (firstExisting_keeps (configPlaces env)).run_lift.run_bind
    rintro (_ | path)
    · exact keeps_run_pure _
    · exact readConfig_keeps path

lemma readDocument_keeps (path : Text) :
    Keeps (readDocument path : ExceptT Failure (StateM σ) SourceFile).run := by
  unfold readDocument
  split
  · apply LawfulHost.readInput_keeps.run_lift.run_bind
    intro bytes
    split
    · exact keeps_run_throw _
    · exact keeps_run_pure _
  · apply (LawfulHost.readFile_keeps path).run_lift.run_bind
    intro result
    repeat' split
    all_goals first | exact keeps_run_throw _ | exact keeps_run_pure _

lemma createDirectory_keeps (path : Text) :
    Keeps (createDirectory path : StateM σ (Except FileError Unit)) := by
  apply (LawfulHost.createDirectory_keeps path).bind
  intro result
  split
  · apply (LawfulHost.isDirectory_keeps path).bind
    intro found
    exact keeps_pure _
  · exact keeps_pure _

lemma createDirectories_keeps (paths : List Text) :
    Keeps (createDirectories paths : StateM σ (Except FileError Unit)) := by
  induction paths with
  | nil => exact keeps_pure _
  | cons path outer ih =>
    apply (createDirectory_keeps path).bind
    intro result
    split
    · apply ih.bind
      intro result
      split
      · exact createDirectory_keeps path
      · exact keeps_pure _
    · exact keeps_pure _

end

def writtenPath? (i : Invocation) : Option Text :=
  if i.command = .config then i.writePath else none

def givenPath? (env : Environment) (arguments : List Text) : Option Text :=
  match invocation? env arguments with
  | .ok i => writtenPath? i
  | .error _ => none

section

variable {σ : Type} [Host (StateM σ)] [View σ]

/-- What a run that ends with the status leaves behind. A file that is opened for writing is emptied, so that
a run that fails can only be told to have kept all files where what is opened can be written. -/
structure LeavesNoTrace (given? : Option Text) (s : σ) (status : Nat) (s' : σ) : Prop where
  printed : status ≠ 0 → printed s' = printed s
  files : Stores σ → status ≠ 0 → ∀ location, content? s' location = content? s location
  changed : ∀ location, content? s' location ≠ content? s location →
    ∃ path, given? = some path ∧ location? s' path = some location

variable {given? : Option Text} {path output complaints : Text} {s s' s'' : σ} {status : Nat}
  {location : Location}

lemma LeavesNoTrace.trans (h : Frame [] [] complaints s s') (h' : LeavesNoTrace given? s' status s'') :
    LeavesNoTrace given? s status s'' where
  printed hs := by rw [h'.printed hs, h.printed, List.append_nil]
  files hstores hs location := by rw [h'.files hstores hs, h.files location List.not_mem_nil]
  changed location := h.files location List.not_mem_nil ▸ h'.changed location

lemma LeavesNoTrace.complain (h : LeavesNoTrace given? s status s') (h' : Frame [] [] complaints s' s'') :
    LeavesNoTrace given? s status s'' where
  printed hs := by rw [h'.printed, h.printed hs, List.append_nil]
  files hstores hs location := by rw [h'.files location List.not_mem_nil, h.files hstores hs]
  changed location hne := by
    rw [h'.files location List.not_mem_nil] at hne
    obtain ⟨path, hgiven, hl⟩ := h.changed location hne
    exact ⟨path, hgiven, h'.paths path location hl⟩

lemma leavesNoTrace_of_frame (h : Frame [] output complaints s s') (hs : status ≠ 0 → output = []) :
    LeavesNoTrace given? s status s' where
  printed hne := by rw [h.printed, hs hne, List.append_nil]
  files _ _ location := h.files location List.not_mem_nil
  changed location hne := absurd (h.files location List.not_mem_nil) hne

lemma leavesNoTrace_of_touched (h : Frame [location] output complaints s s')
    (hl : location? s' path = some location) (hs : status ≠ 0 → output = [] ∧ ¬ Stores σ) :
    LeavesNoTrace (some path) s status s' where
  printed hne := by rw [h.printed, (hs hne).1, List.append_nil]
  files hstores hne := absurd hstores (hs hne).2
  changed other hne := by
    refine ⟨path, rfl, ?_⟩
    by_contra ho
    refine hne (h.files other fun hmem => ho ?_)
    rwa [List.mem_singleton.1 hmem]

end

def statusOf : Except Failure Unit → Nat
  | .ok () => 0
  | .error f => f.status

lemma run_lift_bind {σ α β : Type} (act : StateM σ α) (next : α → ExceptT Failure (StateM σ) β) (s : σ) :
    (liftM act >>= next).run.run s = (next (act.run s).1).run.run (act.run s).2 :=
  rfl

section

variable {σ : Type} [Host (StateM σ)] {env : Environment} {arguments : List Text} {i : Invocation} {s s' : σ}

def commandOf (env : Environment) (i : Invocation) : ExceptT Failure (StateM σ) Unit := do
  let config ← effectiveConfig env (i.configPath env)
  execute i env config

lemma run_of_ok (hi : invocation? env arguments = .ok i)
    (h : (commandOf env i : ExceptT Failure (StateM σ) Unit).run.run s = (.ok (), s')) :
    (run env arguments : StateM σ Nat).run s = (0, s') := by
  rw [commandOf] at h
  rw [run, hi]
  dsimp only
  rw [StateT.run_bind, h]
  rfl

lemma run_of_error {f : Failure} (hi : invocation? env arguments = .ok i)
    (h : (commandOf env i : ExceptT Failure (StateM σ) Unit).run.run s = (.error f, s')) :
    (run env arguments : StateM σ Nat).run s = (f.status,
      ((Host.printError ("error: ".toList ++ f.message ++ "\n".toList) : StateM σ Unit).run s').2) := by
  rw [commandOf] at h
  rw [run, hi]
  dsimp only
  rw [StateT.run_bind, h]
  rfl

end

section

variable {σ : Type} [Host (StateM σ)] [View σ]

def Traceless (given? : Option Text) (act : ExceptT Failure (StateM σ) Unit) : Prop :=
  ∀ s, LeavesNoTrace given? s (statusOf (act.run.run s).1) (act.run.run s).2

variable {given? : Option Text}

lemma traceless_throw (f : Failure) : Traceless given? (throw f : ExceptT Failure (StateM σ) Unit) :=
  fun s => leavesNoTrace_of_frame (.refl s) fun _ => rfl

lemma Traceless.bind {α : Type} {act : ExceptT Failure (StateM σ) α}
    {next : α → ExceptT Failure (StateM σ) Unit} (h : Keeps act.run)
    (hn : ∀ a, Traceless given? (next a)) : Traceless given? (act >>= next) := by
  intro s
  rw [ExceptT.run_bind, StateT.run_bind]
  have hs := h s
  rcases hr : act.run.run s with ⟨f | a, s'⟩ <;> rw [hr] at hs
  · exact leavesNoTrace_of_frame hs fun _ => rfl
  · exact .trans hs (hn a s')

variable [LawfulHost σ]

lemma traceless_print (text : Text) :
    Traceless given? (liftM (Host.print text : StateM σ Unit) : ExceptT Failure (StateM σ) Unit) :=
  fun s => leavesNoTrace_of_frame (LawfulHost.print_frame text s) fun hs => absurd rfl hs

lemma traceless_printError_bind (text : Text) {next : Unit → ExceptT Failure (StateM σ) Unit}
    (h : Traceless given? (next ())) :
    Traceless given? (liftM (Host.printError text : StateM σ Unit) >>= next) :=
  fun s => .trans (LawfulHost.printError_frame text s) (h _)

lemma writeFile_cases {path : Text} {bytes : ByteArray} {result : Except FileError Unit} {s s' : σ}
    (h : (writeFile path bytes : StateM σ _).run s = (result, s')) :
    (result ≠ .ok () ∧ Frame [] [] [] s s') ∨
      ∃ location, location? s' path = some location ∧ Frame [location] [] [] s s' ∧
        (Stores σ → result = .ok ()) := by
  rw [writeFile, StateT.run_bind] at h
  rcases hc : (Host.createFile path : StateM σ _).run s with ⟨e | handle, opened⟩
  · rw [hc] at h
    cases h
    exact .inl ⟨nofun, LawfulHost.createFile_fails hc⟩
  · rw [hc] at h
    obtain ⟨hl, hopened⟩ := LawfulHost.createFile_opens hc
    have hwritten := LawfulHost.write_frame handle bytes opened
    change (Host.write handle bytes : StateM σ _).run opened = _ at h
    rw [h] at hwritten
    refine .inr ⟨View.place handle, hwritten.paths path _ hl, ?_, fun hstores => ?_⟩
    · exact (hopened.trans hwritten).mono (by simp)
    · exact (congrArg Prod.fst h).symm.trans (hstores path bytes handle s opened hc)

lemma saveConfig_traceless (config : Config) (path output : Text) :
    Traceless (some path) (do
      saveConfig config path
      (Host.print output : StateM σ Unit) : ExceptT Failure (StateM σ) Unit) := by
  rw [saveConfig, bind_assoc]
  apply Traceless.bind (createDirectories_keeps _).run_lift
  rintro (e | ⟨⟩)
  · exact traceless_throw (σ := σ) (.file e)
  rw [bind_assoc]
  intro s
  rw [run_lift_bind]
  rcases hw : (writeFile path (bytesOfText config.render) : StateM σ _).run s with ⟨e | ⟨⟩, s'⟩
  · rcases writeFile_cases hw with ⟨-, hframe⟩ | ⟨location, hl, hframe, hstores⟩
    · exact leavesNoTrace_of_frame hframe fun _ => rfl
    · exact leavesNoTrace_of_touched hframe hl fun _ => ⟨rfl, fun h => nomatch hstores h⟩
  · rcases writeFile_cases hw with ⟨hne, -⟩ | ⟨location, hl, hframe, -⟩
    · exact absurd rfl hne
    · have hprinted := LawfulHost.print_frame output s'
      exact leavesNoTrace_of_touched (hframe.trans hprinted) (hprinted.paths path location hl)
        fun h => absurd rfl h

lemma checkDocument_traceless (file : SourceFile) (config : Config) (noColor : Bool) :
    Traceless given? (checkDocument file config noColor : ExceptT Failure (StateM σ) Unit) := by
  unfold checkDocument
  dsimp only
  split
  · exact traceless_throw _
  · apply traceless_printError_bind
    split
    · exact traceless_throw (σ := σ) _
    · exact traceless_print _

lemma execute_traceless (i : Invocation) (env : Environment) (config : Config) :
    Traceless (writtenPath? i) (execute i env config : ExceptT Failure (StateM σ) Unit) := by
  unfold execute
  cases hc : i.command with
  | tokens => exact .bind (readDocument_keeps _) fun _ => traceless_print _
  | check => exact .bind (readDocument_keeps _) fun file => checkDocument_traceless file config _
  | position =>
    apply Traceless.bind (readDocument_keeps _)
    intro file
    split
    · exact traceless_throw _
    · exact traceless_print _
  | config =>
    simp only [writtenPath?, hc, if_pos]
    cases i.writePath with
    | some path => exact saveConfig_traceless config path _
    | none => exact traceless_print _

lemma commandOf_traceless (env : Environment) (i : Invocation) :
    Traceless (writtenPath? i) (commandOf env i : ExceptT Failure (StateM σ) Unit) :=
  .bind (effectiveConfig_keeps env (i.configPath env)) (execute_traceless i env)

end

def oneFile (name text : Text) : FileTree where
  node? location :=
    if location = [] then some .directory
    else if location = [name] then some (.file (bytesOfText text))
    else none
  workingDirectory := []
  input := .empty
  printed := []
  complained := []

def runOn (t : FileTree) (arguments : List String) : Nat × FileTree :=
  (run (fun _ => none) (arguments.map String.toList) : StateM FileTree Nat).run t

def held : FileTree :=
  (oneFile "a".toList "b".toList).set ["d".toList] .directory

end GraphQLTokens.CommandLine
