import ModernSapi.Manager.ProviderInstaller

/-!
# What an extraction makes

To the file system a path is a place: where its folder leads, where it leads itself, and
whether it ends in a separator. An entry makes the folders that are missing on the way to its
folder, and its file, unless the file system refuses it (`Place.Refused`). A place stays in
the target when the folder it asks for is there or in the target, and its file is refused or
in the target (`Place.Stays`).

`made_extractEntries`: entries whose places stay make nothing outside the target, whatever
the file system does that keeps a base folder. `stay_of_made`: in a file system where only the
base is there and nothing else is refused, they have to.
-/

set_option autoImplicit false

namespace ModernSapi

open WindowsPath ProviderInstaller

/-- The folder and those above it are there. -/
def Moment.Keeps (moment : Moment) (base : FullPath) : Prop :=
  ∀ folder : FullPath, folder.Above base → moment.directories folder = true

/-- What a path is to the file system. -/
structure Place where
  /-- Where the folder of the path leads, if it has one. -/
  folder : Option (Option FullPath)
  file : Option FullPath
  separated : Bool
  deriving DecidableEq

def placeOf (system : System) (path : Text) : Place where
  folder := (getDirectoryName path).map (getFullPath system)
  file := getFullPath system path
  separated := endsInSeparator path

namespace Place

variable (base target : FullPath) (place : Place)

/-- The file system refuses to write the file: its folder leads nowhere, its path ends in a
separator or leads nowhere, or it is a folder that is kept. -/
def Refused : Prop :=
  place.folder = some none ∨ place.separated = true ∨
    ∀ full, place.file = some full → full.Above base

instance : Decidable (place.Refused base) :=
  have : Decidable (∀ full, place.file = some full → full.Above base) :=
    match found : place.file with
    | none => .isTrue (by simp)
    | some full => decidable_of_iff (full.Above base) (by simp)
  inferInstanceAs (Decidable (_ ∨ _ ∨ _))

/-- The folder that is asked for is there, or lies in the target. -/
def FolderStays : Prop :=
  ∀ full, place.folder = some (some full) →
    full.names = [] ∨ full.Above base ∨ target.Above full

/-- A file that is not refused lies in the target. -/
def FileStays : Prop :=
  ∀ full, place.file = some full → place.Refused base ∨ target.Above full

def Stays : Prop := place.FolderStays base target ∧ place.FileStays base target

end Place

/-- The places of the entries that are tried: those up to the first one that is refused. -/
def triedPlaces (base : FullPath) (place : Text → Place) (fold : Char → Char)
    (root : Option Text) : List ZipArchiveEntry → List Place
  | [] => []
  | entry :: entries =>
      match relativePath fold root entry with
      | none => triedPlaces base place fold root entries
      | some relative =>
          if (place relative).Refused base then [place relative]
          else place relative :: triedPlaces base place fold root entries

variable {system : System} {base target full : FullPath} {path destPath targetInstallDir : Text}
  {moment : Moment} {entries : List ZipArchiveEntry} {root : Option Text} {name : Text}

/-- An entry that is not left out has a path. -/
theorem relative_ne_nil {fold : Char → Char} {entry : ZipArchiveEntry} {relative : Text}
    (kept : relativePath fold root entry = some relative) : relative ≠ [] := by
  unfold relativePath at kept
  split at kept
  · cases kept
  · dsimp only at kept
    split at kept
    · cases kept
    · next filled =>
        cases kept
        intro empty
        rw [List.map_eq_nil_iff.mp empty] at filled
        exact filled rfl

/-- Only the places of paths that are not empty matter. -/
theorem triedPlaces_congr {place other : Text → Place}
    (same : ∀ relative ≠ [], place relative = other relative) (fold : Char → Char)
    (root : Option Text) (entries : List ZipArchiveEntry) :
    triedPlaces base place fold root entries = triedPlaces base other fold root entries := by
  induction entries with
  | nil => rfl
  | cons entry entries ih =>
      cases kept : relativePath fold root entry with
      | none =>
          simp only [triedPlaces, kept]
          exact ih
      | some relative =>
          simp only [triedPlaces, kept, same relative (relative_ne_nil kept), ih]

/-! ## What one call makes -/

/-- The folders that are made were missing on the way to the path. -/
theorem made_ensureDirectory {made : FullPath}
    (member : made ∈ (moment.ensureDirectory system path).1) :
    ∃ full, getFullPath system path = some full ∧ made ∈ full.chain ∧
      moment.directories made = false := by
  unfold Moment.ensureDirectory at member
  split at member
  · simp at member
  · unfold Moment.createDirectory at member
    cases leads : getFullPath system path with
    | none => simp [leads] at member
    | some full =>
        simp only [leads] at member
        obtain ⟨chained, missing⟩ := List.mem_filter.mp ((List.takeWhile_subset _) member)
        exact ⟨full, rfl, chained, by simpa using missing⟩

/-- A folder whose path leads nowhere cannot be made. -/
theorem leads_of_ensureDirectory (succeeds : (moment.ensureDirectory system path).2 = true) :
    ∃ full, getFullPath system path = some full := by
  cases leads : getFullPath system path with
  | some full => exact ⟨full, rfl⟩
  | none =>
      simp [Moment.ensureDirectory, Moment.directoryExists, Moment.createDirectory, leads]
        at succeeds

theorem extractToFile_eq_some {file : FullPath}
    (writes : moment.extractToFile system path = some file) :
    getFullPath system path = some file ∧ endsInSeparator path = false ∧
      moment.directories file = false := by
  unfold Moment.extractToFile at writes
  cases leads : getFullPath system path with
  | none => simp [leads] at writes
  | some full =>
      simp only [leads] at writes
      split at writes
      · cases writes
      · next free =>
          cases writes
          simp only [Bool.or_eq_true, not_or, Bool.not_eq_true] at free
          exact ⟨rfl, free.1.1, free.1.2⟩

/-- What an entry makes is for its folder, or its file. -/
theorem mem_extractEntry {made : FullPath}
    (member : made ∈ (extractEntry system moment destPath).1) :
    made ∈ (makeFolder system moment destPath).1 ∨
      (makeFolder system moment destPath).2 = true ∧
        moment.extractToFile system destPath = some made := by
  unfold extractEntry at member
  dsimp only at member
  split at member
  · next folders =>
    cases writes : moment.extractToFile system destPath with
    | none =>
        simp only [writes] at member
        exact .inl member
    | some file =>
        simp only [writes, List.mem_append, List.mem_singleton] at member
        rcases member with folder | rfl
        · exact .inl folder
        · exact .inr ⟨folders, rfl⟩
  · exact .inl member

/-- An entry is extracted when its folder is there and its file is written. -/
theorem extractEntry_succeeds_iff :
    (extractEntry system moment destPath).2 = true ↔
      (makeFolder system moment destPath).2 = true ∧
        (moment.extractToFile system destPath).isSome = true := by
  unfold extractEntry
  dsimp only
  split
  · next folders =>
      cases moment.extractToFile system destPath with
      | none => simp
      | some file => simp [folders]
  · next failed => simp [failed]

/-- What is missing is not kept. -/
theorem Moment.Keeps.not_above (keeps : moment.Keeps base)
    (missing : moment.directories full = false) : ¬ full.Above base := by
  intro above
  rw [keeps full above] at missing
  cases missing

/-- An entry that is extracted is not one that is refused. -/
theorem not_refused_of_extracted (keeps : moment.Keeps base)
    (extracted : (extractEntry system moment destPath).2 = true) :
    ¬ (placeOf system destPath).Refused base := by
  obtain ⟨folders, written⟩ := extractEntry_succeeds_iff.mp extracted
  obtain ⟨file, writes⟩ := Option.isSome_iff_exists.mp written
  obtain ⟨leads, named, missing⟩ := extractToFile_eq_some writes
  rintro (nowhere | separated | kept)
  · obtain ⟨destDir, folder, leadsNowhere⟩ := Option.map_eq_some_iff.mp nowhere
    simp only [makeFolder, folder] at folders
    obtain ⟨full, somewhere⟩ := leads_of_ensureDirectory folders
    rw [leadsNowhere] at somewhere
    cases somewhere
  · rw [placeOf, named] at separated
    cases separated
  · exact keeps.not_above missing (kept file leads)

/-- What is missing on the way to a folder of the target lies in the target. -/
theorem above_of_missing {made : FullPath} (direct : target = base.child name)
    (above : made.Above full) (outside : ¬ made.Above base) (inside : target.Above full) :
    target.Above made := by
  rcases above.total inside with upper | lower
  · rw [direct, FullPath.above_child_iff] at upper
    rcases upper with kept | same
    · exact absurd kept outside
    · rw [direct, same]
      exact FullPath.Above.refl _
  · exact lower

/-- What is made for a path that stays lies in the target. -/
theorem made_extractEntry (keeps : moment.Keeps base) (direct : target = base.child name)
    (stays : (placeOf system destPath).Stays base target) :
    ∀ made ∈ (extractEntry system moment destPath).1, target.Above made := by
  intro made member
  rcases mem_extractEntry member with inFolder | ⟨folders, writes⟩
  · cases named : getDirectoryName destPath with
    | none => simp [makeFolder, named] at inFolder
    | some destDir =>
        simp only [makeFolder, named] at inFolder
        obtain ⟨full, leads, chained, missing⟩ := made_ensureDirectory inFolder
        obtain ⟨above, filled⟩ := FullPath.mem_chain.mp chained
        have outside := keeps.not_above missing
        have folder : (placeOf system destPath).folder = some (some full) := by
          simp only [placeOf, named, Option.map_some, leads]
        rcases stays.1 full folder with rootless | kept | inside
        · have shorter := above.2
          rw [rootless, List.prefix_nil] at shorter
          exact absurd shorter filled
        · exact absurd (above.trans kept) outside
        · exact above_of_missing direct above outside inside
  · have extracted : (extractEntry system moment destPath).2 = true :=
      extractEntry_succeeds_iff.mpr ⟨folders, by rw [writes]; rfl⟩
    exact (stays.2 made (extractToFile_eq_some writes).1).resolve_left
      (not_refused_of_extracted keeps extracted)

/-- The places of the paths below a folder. -/
def placesBelow (system : System) (targetInstallDir relative : Text) : Place :=
  placeOf system (combine targetInstallDir relative)

/-- **Entries whose places stay make nothing outside the target.** -/
theorem made_extractEntries {moments : ℕ → Moment}
    (keeps : ∀ index, (moments index).Keeps base) (direct : target = base.child name)
    (stay : ∀ place ∈ triedPlaces base (placesBelow system targetInstallDir) system.fold root
      entries, place.Stays base target) :
    ∀ made ∈ (extractEntries system targetInstallDir root moments entries).1,
      target.Above made := by
  induction entries generalizing moments with
  | nil =>
      intro made member
      simp [extractEntries] at member
  | cons entry entries ih =>
      have later : ∀ index, (moments (index + 1)).Keeps base := fun index => keeps (index + 1)
      cases kept : relativePath system.fold root entry with
      | none =>
          simp only [triedPlaces, kept] at stay
          simp only [extractEntries, kept]
          exact ih later stay
      | some relative =>
          simp only [triedPlaces, kept] at stay
          simp only [extractEntries, kept]
          have here : (placesBelow system targetInstallDir relative).Stays base target := by
            refine stay _ ?_
            split <;> simp
          have first := made_extractEntry (keeps 0) direct here
          split
          · next extracted =>
              have free := not_refused_of_extracted (keeps 0) extracted
              rw [placesBelow, if_neg free] at stay
              intro made member
              rcases List.mem_append.mp member with inFirst | inLater
              · exact first made inFirst
              · exact ih later (fun other member => stay other (List.mem_cons_of_mem _ member))
                  made inLater
          · exact first

/-! ## A file system that refuses nothing -/

/-- Only the kept folders are there, and everything can be made. -/
def Moment.bare (base : FullPath) : Moment where
  directories folder := folder.Above base
  rooted folder name above := by
    simp only [decide_eq_true_eq] at above ⊢
    exact (FullPath.above_child folder name).trans above
  creates _ := true
  writes _ := true

theorem keeps_bare (base : FullPath) : (Moment.bare base).Keeps base := by
  intro folder above
  simpa [Moment.bare] using above

/-- All that is missing on the way is made. -/
theorem mem_ensureDirectory_bare {made : FullPath} (leads : getFullPath system path = some full)
    (chained : made ∈ full.chain) (outside : ¬ made.Above base) :
    made ∈ ((Moment.bare base).ensureDirectory system path).1 := by
  have missing : ¬ full.Above base :=
    fun above => outside ((FullPath.mem_chain.mp chained).1.trans above)
  have all (folders : List FullPath) : folders.takeWhile (fun _ => true) = folders :=
    List.takeWhile_eq_self_iff.mpr fun _ _ => rfl
  simp [Moment.ensureDirectory, Moment.directoryExists, Moment.createDirectory, leads,
    Moment.bare, missing, chained, outside, all]

theorem ensureDirectory_bare_succeeds (leads : getFullPath system path = some full) :
    ((Moment.bare base).ensureDirectory system path).2 = true := by
  unfold Moment.ensureDirectory
  split
  · rfl
  · simp [Moment.createDirectory, leads, Moment.bare]

theorem makeFolder_bare_succeeds (free : ¬ (placeOf system destPath).Refused base) :
    (makeFolder system (Moment.bare base) destPath).2 = true := by
  cases named : getDirectoryName destPath with
  | none => simp only [makeFolder, named]
  | some destDir =>
      cases leads : getFullPath system destDir with
      | none => exact absurd (.inl (by simp only [placeOf, named, Option.map_some, leads])) free
      | some full =>
          simp only [makeFolder, named]
          exact ensureDirectory_bare_succeeds leads

theorem extractToFile_bare (free : ¬ (placeOf system destPath).Refused base) :
    ∃ full, getFullPath system destPath = some full ∧
      (Moment.bare base).extractToFile system destPath = some full := by
  simp only [Place.Refused, placeOf, not_or, not_forall] at free
  obtain ⟨-, named, full, leads, outside⟩ := free
  refine ⟨full, leads, ?_⟩
  simp [Moment.extractToFile, leads, named, Moment.bare, outside]

/-- What is not refused is extracted. -/
theorem extractEntry_bare_succeeds (free : ¬ (placeOf system destPath).Refused base) :
    (extractEntry system (Moment.bare base) destPath).2 = true := by
  obtain ⟨full, -, writes⟩ := extractToFile_bare free
  exact extractEntry_succeeds_iff.mpr ⟨makeFolder_bare_succeeds free, by rw [writes]; rfl⟩

theorem subset_extractEntry :
    (makeFolder system moment destPath).1 ⊆ (extractEntry system moment destPath).1 := by
  unfold extractEntry
  dsimp only
  split
  · cases moment.extractToFile system destPath with
    | none => exact List.Subset.refl _
    | some file => exact List.subset_append_left _ _
  · exact List.Subset.refl _

/-- A path for which nothing is made outside the target stays in it. -/
theorem stays_of_made
    (inside : ∀ made ∈ (extractEntry system (Moment.bare base) destPath).1, target.Above made) :
    (placeOf system destPath).Stays base target := by
  constructor
  · intro full folder
    obtain ⟨destDir, named, leads⟩ := Option.map_eq_some_iff.mp folder
    by_cases rootless : full.names = []
    · exact .inl rootless
    · by_cases kept : full.Above base
      · exact .inr (.inl kept)
      · refine .inr (.inr (inside full (subset_extractEntry ?_)))
        simp only [makeFolder, named]
        exact mem_ensureDirectory_bare leads
          (FullPath.mem_chain.mpr ⟨FullPath.Above.refl full, rootless⟩) kept
  · intro full leads
    by_cases refused : (placeOf system destPath).Refused base
    · exact .inl refused
    · obtain ⟨file, leadsToo, writes⟩ := extractToFile_bare refused
      have same : file = full := Option.some.inj (leadsToo.symm.trans leads)
      subst same
      refine .inr (inside file ?_)
      simp [extractEntry, makeFolder_bare_succeeds refused, writes]

/-- **Where nothing is made outside the target, the places that are tried stay in it.** -/
theorem stay_of_made
    (inside : ∀ made ∈ (extractEntries system targetInstallDir root
      (fun _ => Moment.bare base) entries).1, target.Above made) :
    ∀ place ∈ triedPlaces base (placesBelow system targetInstallDir) system.fold root entries,
      place.Stays base target := by
  induction entries with
  | nil =>
      intro place member
      simp [triedPlaces] at member
  | cons entry entries ih =>
      cases kept : relativePath system.fold root entry with
      | none =>
          simp only [extractEntries, kept] at inside
          simp only [triedPlaces, kept]
          exact ih inside
      | some relative =>
          simp only [extractEntries, kept] at inside
          simp only [triedPlaces, kept]
          split
          · next refused =>
              have failed : ¬ (extractEntry system (Moment.bare base)
                  (combine targetInstallDir relative)).2 = true :=
                fun extracted => not_refused_of_extracted (keeps_bare base) extracted refused
              rw [if_neg failed] at inside
              intro place member
              rw [List.mem_singleton.mp member]
              exact stays_of_made inside
          · next free =>
              rw [if_pos (extractEntry_bare_succeeds free)] at inside
              intro place member
              rcases List.mem_cons.mp member with rfl | inLater
              · exact stays_of_made fun made here => inside made (List.mem_append_left _ here)
              · exact ih (fun made here => inside made (List.mem_append_right _ here))
                  place inLater

end ModernSapi
