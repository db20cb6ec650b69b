import Mathlib.Data.List.Infix

/-!
# Paths and files

A path lists the names on the way from the top of a file system.  There are no
links, so a written path is resolved segment by segment.
-/

namespace Files

abbrev Path := List (List Char)

/-- A segment that names an entry of a directory. -/
def isName (segment : List Char) : Bool := segment ≠ [] && segment ≠ ['.']

/-- One segment of a written path; the top is its own parent. -/
def enter (path : Path) (segment : List Char) : Path :=
  if isName segment = false then path
  else if segment = ['.', '.'] then path.dropLast
  else path ++ [segment]

def walk (path : Path) (segments : List (List Char)) : Path := segments.foldl enter path

/-- The directories above a path. -/
def parents (path : Path) : List Path := path.inits.filter (fun above => above ≠ path)

theorem mem_parents {above path : Path} :
    above ∈ parents path ↔ above <+: path ∧ above ≠ path := by
  simp [parents, List.mem_inits]

/-- Without a step upwards a path only grows, by the names in it. -/
theorem walk_descends {segments : List (List Char)} (path : Path)
    (down : ['.', '.'] ∉ segments) : walk path segments = path ++ segments.filter isName := by
  induction segments generalizing path with
  | nil => simp [walk]
  | cons segment segments induction =>
      rw [List.mem_cons, not_or] at down
      have step : walk path (segment :: segments) = walk (enter path segment) segments := rfl
      rw [step, induction _ down.2]
      cases named : isName segment with
      | false => simp [enter, named]
      | true => simp [enter, named, Ne.symm down.1]

theorem walk_isName (path : Path) (segments : List (List Char))
    (named : ∀ name ∈ path, isName name = true ∧ name ≠ ['.', '.']) :
    ∀ name ∈ walk path segments, isName name = true ∧ name ≠ ['.', '.'] := by
  induction segments generalizing path with
  | nil => exact named
  | cons segment segments induction =>
      apply induction (enter path segment)
      unfold enter
      split
      · exact named
      · split
        · intro name member
          exact named name (List.dropLast_subset path member)
        · next isNamed notUp =>
            intro name member
            rcases List.mem_append.mp member with before | last
            · exact named name before
            · rw [List.mem_singleton.mp last]
              exact ⟨by simpa using isNamed, notUp⟩

/-- An entry of a file system. -/
inductive Node (α : Type) where
  | directory
  | file (content : α)
  deriving DecidableEq

instance {α : Type} (node : Option (Node α)) : Decidable (node = some .directory) :=
  match node with
  | some .directory => isTrue rfl
  | some (.file _) => isFalse (by intro same; cases same)
  | none => isFalse (by intro same; cases same)

/-- Every entry stands in a directory. -/
structure FileSystem (α : Type) where
  entry : Path → Option (Node α)
  top : entry [] = some .directory
  inDirectory : ∀ path, entry path ≠ none → entry path.dropLast = some .directory

inductive FileError where
  | notFound
  | alreadyExists
  | isDirectory
  | notDirectory
  deriving DecidableEq

namespace FileSystem

variable {α : Type} {fs fs' : FileSystem α} {path other : Path} {content : α}

/-- A file stands where a directory would have to be. -/
def isBlocked (fs : FileSystem α) (path : Path) : Bool :=
  path.inits.any (fun above => match fs.entry above with
    | some (.file _) => true
    | _ => false)

/-- The error of a path without an entry. -/
def absence (fs : FileSystem α) (path : Path) : FileError :=
  if fs.isBlocked path then .notDirectory else .notFound

def read (fs : FileSystem α) (path : Path) : Except FileError α :=
  match fs.entry path with
  | some (.file content) => .ok content
  | some .directory => .error .isDirectory
  | none => .error (fs.absence path)

/-- Make a directory and those above it that are missing. -/
def makeDirectories (fs : FileSystem α) (path : Path) : Except FileError (FileSystem α) :=
  if fs.isBlocked path then
    -- a file at the path itself is told from one on the way to it
    .error (if fs.isBlocked path.dropLast then .notDirectory else .alreadyExists)
  else .ok {
    entry := fun other => if other <+: path then some .directory else fs.entry other
    top := if_pos List.nil_prefix
    inDirectory := by
      intro other stands
      by_cases above : other <+: path
      · exact if_pos ((List.dropLast_prefix other).trans above)
      · rw [if_neg above] at stands
        split
        · rfl
        · exact fs.inDirectory other stands }

/-- Write a file in a directory that exists. -/
def write (fs : FileSystem α) (path : Path) (content : α) : Except FileError (FileSystem α) :=
  if isDirectory : fs.entry path = some .directory then .error .isDirectory
  else if stands : fs.entry path.dropLast = some .directory then
    .ok {
      entry := fun other => if other = path then some (.file content) else fs.entry other
      top := by
        have notTop : [] ≠ path := by
          intro top
          exact isDirectory (top ▸ fs.top)
        rw [if_neg notTop]
        exact fs.top
      inDirectory := by
        intro other found
        have above : other.dropLast ≠ path ∨ other = path := by
          by_cases same : other = path
          · exact .inr same
          · left
            intro inside
            rw [if_neg same] at found
            exact isDirectory (inside ▸ fs.inDirectory other found)
        by_cases same : other = path
        · subst same
          have proper : other.dropLast ≠ other := by
            intro unchanged
            rw [unchanged] at stands
            exact isDirectory stands
          rw [if_neg proper]
          exact stands
        · rw [if_neg same] at found
          rw [if_neg (above.resolve_right same)]
          exact fs.inDirectory other found }
  else .error (fs.absence path)

/-- Write a file that does not exist yet. -/
def create (fs : FileSystem α) (path : Path) (content : α) : Except FileError (FileSystem α) :=
  match fs.entry path with
  | some _ => .error .alreadyExists
  | none => fs.write path content

/-- Remove a file. -/
def unlink (fs : FileSystem α) (path : Path) : Except FileError (FileSystem α) :=
  match found : fs.entry path with
  | some (.file content) =>
      .ok {
        entry := fun other => if other = path then none else fs.entry other
        top := by
          have notTop : [] ≠ path := by
            intro top
            rw [← top, fs.top] at found
            cases found
          rw [if_neg notTop]
          exact fs.top
        inDirectory := by
          intro other stands
          by_cases same : other = path
          · rw [if_pos same] at stands
            exact absurd rfl stands
          · rw [if_neg same] at stands
            have above := fs.inDirectory other stands
            have inside : other.dropLast ≠ path := by
              intro inside
              rw [inside, found] at above
              cases above
            rw [if_neg inside]
            exact above }
  | some .directory => .error .isDirectory
  | none => .error (fs.absence path)

/-- Remove a file if it is there. -/
def discard (fs : FileSystem α) (path : Path) : Except FileError (FileSystem α) :=
  match fs.unlink path with
  | .error .notFound => .ok fs
  | outcome => outcome

/-- Move a file over another, in one step. -/
def replace (fs : FileSystem α) (source target : Path) : Except FileError (FileSystem α) := do
  let content ← fs.read source
  if source = target then
    return fs
  let written ← fs.write target content
  written.unlink source

/-- The same entries except at these paths. -/
def AgreesOff (paths : List Path) (fs fs' : FileSystem α) : Prop :=
  ∀ other ∉ paths, fs'.entry other = fs.entry other

theorem AgreesOff.trans {fs'' : FileSystem α} {paths : List Path} (first : AgreesOff paths fs fs')
    (second : AgreesOff paths fs' fs'') : AgreesOff paths fs fs'' := by
  intro other outside
  rw [second other outside, first other outside]

theorem AgreesOff.mono {paths more : List Path} (agrees : AgreesOff paths fs fs')
    (wider : paths ⊆ more) : AgreesOff more fs fs' := by
  intro other outside
  apply agrees
  intro member
  exact outside (wider member)

theorem write_agrees (written : fs.write path content = .ok fs') : AgreesOff [path] fs fs' := by
  intro other outside
  unfold write at written
  split at written
  · cases written
  · split at written
    · cases written
      exact if_neg (by simpa using outside)
    · cases written

theorem create_agrees (created : fs.create path content = .ok fs') : AgreesOff [path] fs fs' := by
  unfold create at created
  split at created
  · cases created
  · exact write_agrees created

theorem unlink_agrees (removed : fs.unlink path = .ok fs') :
    AgreesOff [path] fs fs' ∧ fs'.entry path = none := by
  unfold unlink at removed
  split at removed
  · cases removed
    refine ⟨?_, if_pos rfl⟩
    intro other outside
    exact if_neg (by simpa using outside)
  · cases removed
  · cases removed

theorem unlink_notFound (missing : fs.unlink path = .error .notFound) : fs.entry path = none := by
  unfold unlink at missing
  split at missing
  · cases missing
  · cases missing
  · assumption

theorem discard_agrees (discarded : fs.discard path = .ok fs') :
    AgreesOff [path] fs fs' ∧ fs'.entry path = none := by
  unfold discard at discarded
  split at discarded
  · next missing =>
      cases discarded
      exact ⟨fun _ _ => rfl, unlink_notFound missing⟩
  · exact unlink_agrees discarded

theorem replace_agrees {source target : Path} (replaced : fs.replace source target = .ok fs') :
    AgreesOff [source, target] fs fs' := by
  unfold replace at replaced
  cases content : fs.read source with
  | error fault =>
      rw [content] at replaced
      cases replaced
  | ok content' =>
      rw [content] at replaced
      simp only [bind, Except.bind] at replaced
      split at replaced
      · cases replaced
        exact fun _ _ => rfl
      · cases written : fs.write target content' with
        | error fault =>
            rw [written] at replaced
            cases replaced
        | ok fs'' =>
            rw [written] at replaced
            apply AgreesOff.trans
            · apply (write_agrees written).mono
              simp
            · apply (unlink_agrees replaced).1.mono
              simp

theorem makeDirectories_entry (made : fs.makeDirectories path = .ok fs') :
    fs'.entry other = fs.entry other ∨
      (other <+: path ∧ fs.entry other = none ∧ fs'.entry other = some .directory) := by
  unfold makeDirectories at made
  split at made
  · cases made
  · next free =>
      cases made
      by_cases above : other <+: path
      · simp only [if_pos above]
        cases found : fs.entry other with
        | none => exact .inr ⟨above, rfl, trivial⟩
        | some node =>
            cases node with
            | directory => exact .inl rfl
            | file content =>
                exfalso
                apply free
                apply List.any_eq_true.mpr
                refine ⟨other, (List.mem_inits other path).mpr above, ?_⟩
                rw [found]
      · exact .inl (if_neg above)

section Outcomes

theorem directory_above (stands : fs.entry path ≠ none) {above : Path} (prior : above <+: path)
    (proper : above ≠ path) : fs.entry above = some .directory := by
  induction path using List.reverseRecOn with
  | nil => exact absurd (List.prefix_nil.mp prior) proper
  | append_singleton path name induction =>
      have inside := fs.inDirectory _ stands
      rw [List.dropLast_concat] at inside
      rcases List.prefix_concat_iff.mp prior with same | below
      · exact absurd same proper
      · by_cases same : above = path
        · rw [same]
          exact inside
        · exact induction (by rw [inside]; simp) below same

theorem isBlocked_iff : fs.isBlocked path = true ↔
    ∃ above content, above <+: path ∧ fs.entry above = some (.file content) := by
  rw [isBlocked, List.any_eq_true]
  constructor
  · rintro ⟨above, member, blocks⟩
    split at blocks
    · next content found => exact ⟨above, content, (List.mem_inits above path).mp member, found⟩
    · cases blocks
  · rintro ⟨above, content, prior, found⟩
    refine ⟨above, (List.mem_inits above path).mpr prior, ?_⟩
    rw [found]

theorem isBlocked_eq_false (stands : fs.entry path.dropLast = some .directory)
    (open_ : ∀ content, fs.entry path ≠ some (.file content)) : fs.isBlocked path = false := by
  rw [← Bool.not_eq_true, isBlocked_iff]
  rintro ⟨above, content, prior, found⟩
  by_cases same : above = path
  · exact open_ content (same ▸ found)
  · have shorter : above <+: path.dropLast := by
      cases path using List.reverseRecOn with
      | nil => exact absurd (List.prefix_nil.mp prior) same
      | append_singleton path name =>
          rw [List.dropLast_concat]
          exact (List.prefix_concat_iff.mp prior).resolve_left same
    by_cases here : above = path.dropLast
    · rw [here, stands] at found
      cases found
    · rw [directory_above (by rw [stands]; simp) shorter here] at found
      cases found

theorem read_ok_iff : fs.read path = .ok content ↔ fs.entry path = some (.file content) := by
  unfold read
  split
  · next found => simp [found]
  · next found => simp [found]
  · next found => simp [found]

theorem makeDirectories_ok (free : fs.isBlocked path = false) :
    ∃ made, fs.makeDirectories path = .ok made ∧ made.entry path = some .directory ∧
      ∀ other, ¬ other <+: path → made.entry other = fs.entry other := by
  unfold makeDirectories
  rw [if_neg (by simp [free])]
  exact ⟨_, rfl, if_pos (List.prefix_refl path), fun other outside => if_neg outside⟩

theorem makeDirectories_blocked (blocked : fs.isBlocked path = true) :
    ∃ fault, fs.makeDirectories path = .error fault := by
  rw [makeDirectories, if_pos blocked]
  exact ⟨_, rfl⟩

theorem write_ok (file : fs.entry path ≠ some .directory)
    (stands : fs.entry path.dropLast = some .directory) (content : α) :
    ∃ written, fs.write path content = .ok written ∧
      written.entry path = some (.file content) ∧ AgreesOff [path] fs written := by
  cases result : fs.write path content with
  | error fault =>
      rw [write, dif_neg file, dif_pos stands] at result
      cases result
  | ok written =>
      refine ⟨written, rfl, ?_, write_agrees result⟩
      rw [write, dif_neg file, dif_pos stands] at result
      cases result
      exact if_pos rfl

theorem write_directory (directory : fs.entry path = some .directory) (content : α) :
    fs.write path content = .error .isDirectory := by
  rw [write, dif_pos directory]

theorem create_ok (fresh : fs.entry path = none)
    (stands : fs.entry path.dropLast = some .directory) (content : α) :
    ∃ created, fs.create path content = .ok created ∧
      created.entry path = some (.file content) ∧ AgreesOff [path] fs created := by
  have file : fs.entry path ≠ some .directory := by simp [fresh]
  rw [create, fresh]
  exact write_ok file stands content

theorem unlink_ok (found : fs.entry path = some (.file content)) :
    ∃ removed, fs.unlink path = .ok removed ∧ removed.entry path = none ∧
      AgreesOff [path] fs removed := by
  cases result : fs.unlink path with
  | error fault =>
      unfold unlink at result
      split at result
      · cases result
      · next directory =>
          rw [found] at directory
          cases directory
      · next missing =>
          rw [found] at missing
          cases missing
  | ok removed =>
      obtain ⟨agrees, gone⟩ := unlink_agrees result
      exact ⟨removed, rfl, gone, agrees⟩

theorem discard_ok (found : fs.entry path = some (.file content)) :
    ∃ removed, fs.discard path = .ok removed ∧ removed.entry path = none ∧
      AgreesOff [path] fs removed := by
  obtain ⟨removed, unlinked, gone, agrees⟩ := unlink_ok found
  refine ⟨removed, ?_, gone, agrees⟩
  rw [discard, unlinked]

/-- Nothing is removed where nothing stands. -/
theorem discard_missing (missing : fs.entry path = none)
    (stands : fs.entry path.dropLast = some .directory) : fs.discard path = .ok fs := by
  have unblocked : fs.isBlocked path = false := isBlocked_eq_false stands (by simp [missing])
  have absent : fs.unlink path = .error .notFound := by
    unfold unlink
    split
    · next found =>
        rw [missing] at found
        cases found
    · next found =>
        rw [missing] at found
        cases found
    · simp [absence, unblocked]
  rw [discard, absent]

theorem replace_ok {source target : Path} (apart : source ≠ target)
    (found : fs.entry source = some (.file content))
    (file : fs.entry target ≠ some .directory)
    (stands : fs.entry target.dropLast = some .directory) :
    ∃ moved, fs.replace source target = .ok moved ∧
      moved.entry target = some (.file content) ∧ moved.entry source = none ∧
        AgreesOff [source, target] fs moved := by
  obtain ⟨written, wrote, here, agrees⟩ := write_ok file stands content
  have still : written.entry source = some (.file content) := by
    rw [agrees source (by simpa using apart), found]
  obtain ⟨moved, removed, gone, rest⟩ := unlink_ok still
  have result : fs.replace source target = .ok moved := by
    simp only [replace, read_ok_iff.mpr found, bind, Except.bind, if_neg apart, wrote, removed]
  refine ⟨moved, result, ?_, gone, replace_agrees result⟩
  rw [rest target (by simpa using Ne.symm apart), here]

theorem replace_directory {source target : Path} (apart : source ≠ target)
    (found : fs.entry source = some (.file content))
    (directory : fs.entry target = some .directory) :
    fs.replace source target = .error .isDirectory := by
  simp only [replace, read_ok_iff.mpr found, bind, Except.bind, if_neg apart,
    write_directory directory]

/-- The same files are read except at these paths. -/
def KeepsFiles (paths : List Path) (fs fs' : FileSystem α) : Prop :=
  ∀ other ∉ paths, ∀ content, fs'.read other = .ok content ↔ fs.read other = .ok content

theorem AgreesOff.keepsFiles {paths : List Path} (agrees : AgreesOff paths fs fs') :
    KeepsFiles paths fs fs' := by
  intro other outside content
  rw [read_ok_iff, read_ok_iff, agrees other outside]

theorem KeepsFiles.trans {fs'' : FileSystem α} {paths : List Path}
    (first : KeepsFiles paths fs fs') (second : KeepsFiles paths fs' fs'') :
    KeepsFiles paths fs fs'' :=
  fun other outside content => (second other outside content).trans (first other outside content)

theorem makeDirectories_keepsFiles (made : fs.makeDirectories path = .ok fs') :
    KeepsFiles [] fs fs' := by
  intro other _ content
  rw [read_ok_iff, read_ok_iff]
  rcases makeDirectories_entry made with same | ⟨-, missing, directory⟩
  · rw [same]
  · rw [missing, directory]
    constructor
    · rintro ⟨⟩
    · rintro ⟨⟩

/-- Nothing but the top. -/
def empty : FileSystem α where
  entry path := if path = [] then some .directory else none
  top := rfl
  inDirectory := by
    intro path stands
    by_cases top : path = []
    · rw [top]
      exact if_pos rfl
    · exact absurd (if_neg top) stands

end Outcomes

end FileSystem

end Files
