import GraphQLTokens.CommandLine.FileTree
import Mathlib.Tactic.ByContra
import Mathlib.Tactic.Lemma
import Mathlib.Tactic.SplitIfs

namespace GraphQLTokens.CommandLine

section

variable {ε α β : Type} {e : ε}

lemma bind_eq_ok {x : Except ε α} {next : α → Except ε β} {b : β} :
    x >>= next = .ok b ↔ ∃ a, x = .ok a ∧ next a = .ok b := by
  cases x <;> simp [bind, Except.bind]

lemma pure_eq_ok {a b : α} : (pure a : Except ε α) = .ok b ↔ a = b := by
  simp [pure, Except.pure]

lemma throw_ne_ok {a : α} : ¬(throw e : Except ε α) = .ok a := by
  simp [throw, throwThe, MonadExceptOf.throw]

lemma guard_eq_ok {p : Prop} [Decidable p] {next : α → Except ε β} {x : Except ε β} {b : β} :
    (if p then throw e >>= next else x) = .ok b ↔ ¬p ∧ x = .ok b := by
  split <;> simp_all [bind_eq_ok, throw_ne_ok]

end

class View (σ : Type) [Host (StateM σ)] where
  content? : σ → Location → Option ByteArray
  location? : σ → Text → Option Location
  place : Host.Handle (StateM σ) → Location
  printed : σ → Text
  complained : σ → Text

open View

section

variable {σ : Type} [Host (StateM σ)] [View σ]

/-- From `s` to `s'` only the files at `touched` change, the texts are added to the two outputs, and paths
lead where they led. -/
structure Frame (touched : List Location) (output complaints : Text) (s s' : σ) : Prop where
  files : ∀ location ∉ touched, content? s' location = content? s location
  paths : ∀ path location, location? s path = some location → location? s' path = some location
  printed : printed s' = printed s ++ output
  complained : complained s' = complained s ++ complaints

variable {touched touched' : List Location} {output output' complaints complaints' : Text} {s s' s'' : σ}

lemma Frame.refl (s : σ) : Frame [] [] [] s s where
  files _ _ := rfl
  paths _ _ h := h
  printed := (List.append_nil _).symm
  complained := (List.append_nil _).symm

lemma Frame.trans (h : Frame touched output complaints s s')
    (h' : Frame touched' output' complaints' s' s'') :
    Frame (touched ++ touched') (output ++ output') (complaints ++ complaints') s s'' where
  files location hl := by
    rw [List.mem_append, not_or] at hl
    rw [h'.files location hl.2, h.files location hl.1]
  paths path location hl := h'.paths path location (h.paths path location hl)
  printed := by rw [h'.printed, h.printed, List.append_assoc]
  complained := by rw [h'.complained, h.complained, List.append_assoc]

lemma Frame.mono (h : Frame touched output complaints s s') (hsub : touched ⊆ touched') :
    Frame touched' output complaints s s' :=
  { h with files := fun location hl => h.files location fun hmem => hl (hsub hmem) }

def Keeps {α : Type} (act : StateM σ α) : Prop :=
  ∀ s, Frame [] [] [] s (act.run s).2

variable {ε α β : Type}

lemma keeps_pure (a : α) : Keeps (pure a : StateM σ α) :=
  Frame.refl

lemma Keeps.bind {act : StateM σ α} {next : α → StateM σ β} (h : Keeps act)
    (hn : ∀ a, Keeps (next a)) : Keeps (act >>= next) :=
  fun s => (h s).trans (hn _ _)

lemma keeps_run_pure (a : α) : Keeps (pure a : ExceptT ε (StateM σ) α).run :=
  Frame.refl

lemma keeps_run_throw (e : ε) : Keeps (throw e : ExceptT ε (StateM σ) α).run :=
  Frame.refl

lemma Keeps.run_lift {act : StateM σ α} (h : Keeps act) :
    Keeps (liftM act : ExceptT ε (StateM σ) α).run :=
  h

lemma Keeps.run_bind {act : ExceptT ε (StateM σ) α} {next : α → ExceptT ε (StateM σ) β}
    (h : Keeps act.run) (hn : ∀ a, Keeps (next a).run) : Keeps (act >>= next).run := by
  rw [ExceptT.run_bind]
  apply h.bind
  rintro (e | a)
  · exact keeps_pure _
  · exact hn a

end

/-- What is documented of the operations. A file that is opened for writing is emptied, and a write that
fails may have written a part; either changes that file only. -/
class LawfulHost (σ : Type) [Host (StateM σ)] [View σ] : Prop where
  pathExists_keeps (path : Text) : Keeps (Host.pathExists path : StateM σ Bool)
  isDirectory_keeps (path : Text) : Keeps (Host.isDirectory path : StateM σ Bool)
  createDirectory_keeps (path : Text) :
    Keeps (Host.createDirectory path : StateM σ (Except FileError Unit))
  readFile_keeps (path : Text) : Keeps (Host.readFile path : StateM σ (Except FileError ByteArray))
  readInput_keeps : Keeps (Host.readInput : StateM σ ByteArray)
  createFile_fails {path : Text} {e : FileError} {s s' : σ} :
    (Host.createFile path : StateM σ _).run s = (.error e, s') → Frame [] [] [] s s'
  createFile_opens {path : Text} {handle : Host.Handle (StateM σ)} {s s' : σ} :
    (Host.createFile path : StateM σ _).run s = (.ok handle, s') →
      location? s' path = some (place handle) ∧ Frame [place handle] [] [] s s'
  write_frame (handle : Host.Handle (StateM σ)) (bytes : ByteArray) (s : σ) :
    Frame [place handle] [] [] s ((Host.write handle bytes : StateM σ _).run s).2
  print_frame (text : Text) (s : σ) : Frame [] text [] s ((Host.print text : StateM σ Unit).run s).2
  printError_frame (text : Text) (s : σ) :
    Frame [] [] text s ((Host.printError text : StateM σ Unit).run s).2

section

variable {σ : Type} [Host (StateM σ)] [View σ] [LawfulHost σ] {touched : List Location}
  {output complaints : Text} {s s' : σ}

lemma Frame.print (h : Frame touched output complaints s s') (text : Text) :
    Frame touched (output ++ text) complaints s ((Host.print text : StateM σ Unit).run s').2 := by
  simpa using h.trans (LawfulHost.print_frame text s')

lemma Frame.printError (h : Frame touched output complaints s s') (text : Text) :
    Frame touched output (complaints ++ text) s ((Host.printError text : StateM σ Unit).run s').2 := by
  simpa using h.trans (LawfulHost.printError_frame text s')

end

def Stores (σ : Type) [Host (StateM σ)] : Prop :=
  ∀ (path : Text) (bytes : ByteArray) (handle : Host.Handle (StateM σ)) (s s' : σ),
    (Host.createFile path : StateM σ _).run s = (.ok handle, s') →
      ((Host.write handle bytes : StateM σ _).run s').1 = .ok ()

end GraphQLTokens.CommandLine

namespace GraphQLTokens.FileTree

open CommandLine

def content? (t : FileTree) (location : Location) : Option ByteArray :=
  match t.node? location with
  | some (.file bytes) => some bytes
  | _ => none

def location? (t : FileTree) (path : Text) : Option Location :=
  (t.walk (t.base path) (pathNames path)).toOption

instance : View FileTree where
  content? := content?
  location? := location?
  place location := location
  printed := printed
  complained := complained

variable {t : FileTree} {location : Location} {node : Node}

@[simp]
lemma node?_set (other : Location) :
    (t.set location node).node? other = if other = location then some node else t.node? other :=
  rfl

@[simp]
lemma base_set (path : Text) : (t.set location node).base path = t.base path :=
  rfl

lemma isDirectoryAt_set_of_ne {other : Location} (h : other ≠ location) :
    (t.set location node).isDirectoryAt other = t.isDirectoryAt other := by
  simp only [isDirectoryAt, node?_set, if_neg h]

lemma isSome_set {other : Location} (h : (t.node? other).isSome) :
    ((t.set location node).node? other).isSome := by
  rw [node?_set]
  split
  · rfl
  · exact h

lemma enter_eq_ok {here next : Location} {name : Text} :
    t.enter here name = .ok next ↔
      t.isDirectoryAt here = true ∧
        (name = hereName ∧ here = next ∨
          name ≠ hereName ∧ name = parentName ∧ here.dropLast = next ∨
          name ≠ hereName ∧ name ≠ parentName ∧ ¬nameLimit < byteSize name ∧
            (t.node? (here ++ [name])).isSome ∧ here ++ [name] = next) := by
  rw [enter]
  split_ifs <;> simp_all

lemma enter_set {here next : Location} {name : Text} (hl : t.isDirectoryAt location = false)
    (h : t.enter here name = .ok next) : (t.set location node).enter here name = .ok next := by
  rw [enter_eq_ok] at h ⊢
  obtain ⟨hd, h⟩ := h
  have hne : here ≠ location := by
    rintro rfl
    simp [hl] at hd
  refine ⟨by rwa [isDirectoryAt_set_of_ne hne], ?_⟩
  rcases h with h | h | ⟨hh, hp, hs, hn, rfl⟩
  · exact .inl h
  · exact .inr (.inl h)
  · exact .inr (.inr ⟨hh, hp, hs, isSome_set hn, rfl⟩)

lemma walk_set {start here : Location} {names : List Text}
    (hl : t.isDirectoryAt location = false) (h : t.walk start names = .ok here) :
    (t.set location node).walk start names = .ok here := by
  induction names generalizing start with
  | nil => exact h
  | cons name names ih =>
    rw [walk, List.foldlM_cons, bind_eq_ok] at h ⊢
    obtain ⟨next, hn, h⟩ := h
    exact ⟨next, enter_set hl hn, ih h⟩

lemma content?_set_of_ne {other : Location} (h : other ≠ location) :
    (t.set location node).content? other = t.content? other := by
  simp only [content?, node?_set, if_neg h]

lemma location?_set_of_some {path : Text} {other : Location} (hl : t.isDirectoryAt location = false)
    (h : t.location? path = some other) : (t.set location node).location? path = some other := by
  rw [location?] at h ⊢
  rw [base_set]
  cases hw : t.walk (t.base path) (pathNames path) with
  | error e =>
    rw [hw] at h
    cases h
  | ok here =>
    rw [walk_set hl hw]
    rwa [hw] at h

lemma frame_set (hl : t.isDirectoryAt location = false) : Frame [location] [] [] t (t.set location node) where
  files _ ho := content?_set_of_ne (List.ne_of_not_mem_cons ho)
  paths _ _ h := location?_set_of_some hl h
  printed := (List.append_nil _).symm
  complained := (List.append_nil _).symm

lemma frame_set_directory (h : t.node? location = none) : Frame [] [] [] t (t.set location .directory) := by
  have hl : t.isDirectoryAt location = false := by rw [isDirectoryAt, h]
  refine { frame_set hl with files := fun other _ => ?_ }
  rcases eq_or_ne other location with rfl | ho
  · simp [View.content?, content?, h]
  · exact content?_set_of_ne ho

lemma place_eq_ok {start here : Location} {names : List Text} {name : Text} :
    t.place start names = .ok (here, some name) ↔
      t.walk start names.dropLast = .ok here ∧ t.isDirectoryAt here = true ∧
        names.getLastD hereName = name ∧ name ≠ hereName ∧ name ≠ parentName := by
  simp only [place, bind_eq_ok, guard_eq_ok, pure_eq_ok, Prod.mk.injEq]
  grind

lemma createDirectory_eq_ok {t' : FileTree} {path : Text} (h : t.createDirectory path = .ok t') :
    ∃ location, t.node? location = none ∧ t.set location .directory = t' := by
  simp only [createDirectory, guard_eq_ok, bind_eq_ok] at h
  obtain ⟨-, -, ⟨here, _ | name⟩, -, h⟩ := h
  · exact absurd h throw_ne_ok
  · simp only [guard_eq_ok, pure_eq_ok, Option.not_isSome_iff_eq_none] at h
    obtain ⟨-, hn, rfl⟩ := h
    exact ⟨_, hn, rfl⟩

lemma filePlace_eq_ok {path : Text} (h : t.filePlace path = .ok location) :
    ∃ here name, t.place (t.base path) (pathNames path) = .ok (here, some name) ∧
      ¬nameLimit < byteSize name ∧ t.isDirectoryAt (here ++ [name]) = false ∧ here ++ [name] = location := by
  simp only [filePlace, guard_eq_ok, bind_eq_ok] at h
  obtain ⟨-, -, ⟨here, _ | name⟩, hp, h⟩ := h
  · exact absurd h throw_ne_ok
  · simp only [guard_eq_ok, pure_eq_ok, Bool.not_eq_true] at h
    obtain ⟨-, hs, hd, hl⟩ := h
    exact ⟨here, name, hp, hs, hd, hl⟩

lemma write_eq_ok {t' : FileTree} {bytes : ByteArray} (h : t.write location bytes = .ok t') :
    t.isDirectoryAt location = false ∧ ∃ node, t.set location node = t' := by
  rw [write] at h
  split at h
  · rename_i hnode
    cases h
    rw [isDirectoryAt, hnode]
    exact ⟨rfl, _, rfl⟩
  · cases h

lemma location?_set {here : Location} {name path : Text}
    (hp : t.place (t.base path) (pathNames path) = .ok (here, some name))
    (hs : ¬nameLimit < byteSize name) (hd : t.isDirectoryAt (here ++ [name]) = false) :
    (t.set (here ++ [name]) node).location? path = some (here ++ [name]) := by
  obtain ⟨hw, hh, hl, hn⟩ := place_eq_ok.mp hp
  have hnames : (pathNames path).dropLast ++ [name] = pathNames path := by
    rcases (pathNames path).eq_nil_or_concat with h | ⟨outer, last, h⟩
    · rw [h] at hl
      exact absurd hl.symm hn.1
    · rw [h] at hl ⊢
      simpa using hl.symm
  have hne : here ≠ here ++ [name] := by
    simp
  have hw' : (t.set (here ++ [name]) node).walk (t.base path) (pathNames path) =
      .ok (here ++ [name]) := by
    rw [walk, ← hnames, List.foldlM_append, bind_eq_ok]
    refine ⟨here, walk_set hd hw, ?_⟩
    rw [List.foldlM_cons, bind_eq_ok]
    refine ⟨here ++ [name], enter_eq_ok.mpr ⟨?_, .inr (.inr ⟨hn.1, hn.2, hs, ?_, rfl⟩)⟩, rfl⟩
    · rwa [isDirectoryAt_set_of_ne hne]
    · simp
  rw [location?, base_set, hw']
  rfl

section

variable {change : FileTree → Except FileError FileTree} {t' : FileTree}

lemma update_eq_ok (h : (update change).run t = (.ok (), t')) : change t = .ok t' := by
  change update change t = _ at h
  unfold update at h
  split at h
  case h_1 _ ht =>
    cases h
    exact ht
  case h_2 => cases h

lemma update_eq_error {e : FileError} (h : (update change).run t = (.error e, t')) : t = t' := by
  change update change t = _ at h
  unfold update at h
  split at h <;> cases h
  rfl

end

lemma createFile_eq_ok {t' : FileTree} {path : Text}
    (h : (Host.createFile path : StateM FileTree _).run t = (.ok location, t')) :
    t.filePlace path = .ok location ∧ t' = t.set location (.file .empty) := by
  rw [Host.createFile, StateT.run] at h
  dsimp only [instHostStateMFileTree] at h
  cases hplace : t.filePlace path with
  | error e =>
    rw [hplace] at h
    cases h
  | ok location =>
    rw [hplace] at h
    cases h
    exact ⟨rfl, rfl⟩

lemma createFile_eq_error {t' : FileTree} {path : Text} {e : FileError}
    (h : (Host.createFile path : StateM FileTree _).run t = (.error e, t')) : t = t' := by
  rw [Host.createFile, StateT.run] at h
  dsimp only [instHostStateMFileTree] at h
  cases hplace : t.filePlace path with
  | error e =>
    rw [hplace] at h
    cases h
    rfl
  | ok location =>
    rw [hplace] at h
    cases h

lemma stores : Stores FileTree := by
  intro path bytes location t t' h
  obtain ⟨-, rfl⟩ := createFile_eq_ok h
  have hnode : (t.set location (.file .empty)).node? location = some (.file .empty) := if_pos rfl
  change (update (·.write location bytes) (t.set location (.file .empty))).1 = _
  simp only [update, write, hnode]

instance : LawfulHost FileTree where
  pathExists_keeps _ := Frame.refl
  isDirectory_keeps _ := Frame.refl
  readFile_keeps _ := Frame.refl
  readInput_keeps := Frame.refl
  createDirectory_keeps path t := by
    rcases h : (Host.createDirectory path : StateM FileTree _).run t with ⟨_ | _, t'⟩
    · cases update_eq_error h
      exact Frame.refl t
    · obtain ⟨location, hn, rfl⟩ := createDirectory_eq_ok (update_eq_ok h)
      exact frame_set_directory hn
  createFile_fails h := createFile_eq_error h ▸ Frame.refl _
  createFile_opens h := by
    obtain ⟨hplace, rfl⟩ := createFile_eq_ok h
    obtain ⟨here, name, hp, hs, hd, rfl⟩ := filePlace_eq_ok hplace
    exact ⟨location?_set hp hs hd, frame_set hd⟩
  write_frame location bytes t := by
    rcases h : (Host.write (m := StateM FileTree) location bytes).run t with ⟨_ | _, t'⟩
    · cases update_eq_error h
      exact (Frame.refl t).mono (List.nil_subset _)
    · obtain ⟨hd, node, rfl⟩ := write_eq_ok (update_eq_ok h)
      exact frame_set hd
  print_frame text t := { Frame.refl t with printed := rfl }
  printError_frame text t := { Frame.refl t with complained := rfl }

end GraphQLTokens.FileTree
