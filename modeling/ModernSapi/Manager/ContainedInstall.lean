import ModernSapi.Library.FixedPath
import ModernSapi.Manager.InstallEffects

/-!
# Where an installation writes

An installation should make folders and files in the folder of its provider only, and that
folder should be one of those in the folder of the providers. The code puts the id and the
names of the entries behind the path of that folder and leaves the rest to the file system.

So it depends on these names alone: on where the segments of the id lead from the folder of
the providers, and where those of each entry lead from there (`NamesStay`). A name that is
rooted replaces all that stands before it, and leads where it leads on its own.
`install_contained_iff` says that this decides whether an installation is contained, in a
file system that keeps the folder of the providers and is free in all else. Packages with
ordinary names are contained (`contained_of_ordinary`).
-/

set_option autoImplicit false

namespace ModernSapi

open WindowsPath ProviderInstaller

/-- The folder of the providers: names below a drive or a share. -/
structure ProvidersFolder where
  root : Root
  names : List Text
  fixed : root.Fixed
  filled : names ≠ []
  plain : ∀ name ∈ names, PlainName name

namespace ProvidersFolder

variable (providers : ProvidersFolder) (system : System)

/-- The path that the program has for it. -/
def path : Text := providers.root.written ++ List.intercalate ['\\'] providers.names

/-- Where its path leads. -/
def full : FullPath := settle system providers.root false (walk [] providers.names)

end ProvidersFolder

/-- The installation of a package makes nothing outside the folder it has for it, and that
folder lies in the folder of the providers. -/
structure InstallContained (computer : Computer) (providers : ProvidersFolder)
    (zipPath : Text) : Prop where
  target : ∀ target, getFullPath computer.system
      (inspectPackage computer zipPath providers.path).targetInstallDir = some target →
    (providers.full computer.system).StrictlyAbove target
  made : ∀ moments : ℕ → Moment,
    (∀ index, (moments index).Keeps (providers.full computer.system)) →
    ∀ path ∈ (extractAndInstall computer moments zipPath
        (inspectPackage computer zipPath providers.path).targetInstallDir).1,
      ∃ target, getFullPath computer.system
        (inspectPackage computer zipPath providers.path).targetInstallDir = some target ∧
          target.Above path

/-! ## Where names lead -/

section Names

variable (system : System) (providers : ProvidersFolder)

/-- Where the id leads from the folder of the providers. -/
def idTarget (providerId : Text) : Option FullPath :=
  if isPathRooted providerId then getFullPath system providerId
  else resolve system providers.root (endsInSeparator providerId)
    (providers.names ++ segments providerId)

/-- The place of the path of an entry behind the id. -/
def entryPlace (providerId relative : Text) : Place :=
  if isPathRooted relative then placeOf system relative
  else if isPathRooted providerId then placeOf system (combine providerId relative)
  else
    let target := providers.names ++ segments providerId
    { folder := some (resolve system providers.root false (target ++ folderSegments relative))
      file := resolve system providers.root (endsInSeparator relative)
        (target ++ segments relative)
      separated := endsInSeparator relative }

/-- The id leads to a folder in the folder of the providers, and the entries that are tried
stay in it. -/
def NamesStay (providerId : Text) (entries : List ZipArchiveEntry) : Prop :=
  ∀ target, idTarget system providers providerId = some target →
    (∃ name, target = (providers.full system).child name) ∧
      ∀ place ∈ triedPlaces (providers.full system) (entryPlace system providers providerId)
          system.fold (singleRootPrefix system.fold entries) entries,
        place.Stays (providers.full system) target

end Names

variable {system : System} {providers : ProvidersFolder} {providerId relative first second : Text}

theorem segments_intercalate {names : List Text} (plain : ∀ name ∈ names, PlainName name) :
    segments (List.intercalate ['\\'] names) = names := by
  induction names with
  | nil => rfl
  | cons name names ih =>
      have here := plain name List.mem_cons_self
      have rest := ih fun other member => plain other (List.mem_cons_of_mem _ member)
      cases names with
      | nil =>
          rw [List.intercalate_singleton]
          exact segments_of_plain here.filled here.whole
      | cons second names =>
          rw [List.intercalate_cons_cons, List.append_assoc, List.singleton_append,
            here.segments_append, rest]

namespace ProvidersFolder

theorem segments_names (providers : ProvidersFolder) :
    segments (List.intercalate ['\\'] providers.names) = providers.names :=
  segments_intercalate providers.plain

theorem names_filled (providers : ProvidersFolder) :
    List.intercalate ['\\'] providers.names ≠ [] := by
  intro empty
  have found := providers.segments_names
  rw [empty, segments_nil] at found
  exact providers.filled found.symm

end ProvidersFolder

/-- The text of a path below the folder of the providers. -/
theorem exists_below (providers : ProvidersFolder) {body name : Text} (filled : body ≠ [])
    (named : name ≠ []) (relative : isPathRooted name = false) :
    ∃ front, combine (providers.root.written ++ body) name =
        providers.root.written ++ (front ++ name) ∧ endsInSeparator front = true ∧
      segments front = segments body := by
  have whole : providers.root.written ++ body ≠ [] := by simp [filled]
  obtain ⟨front, combined, ends, -, same⟩ := exists_combine whole named relative
  rcases same with same | same
  · refine ⟨body, by rw [combined, same, List.append_assoc], ?_, rfl⟩
    rw [same, endsInSeparator_append filled] at ends
    exact ends
  · refine ⟨body ++ ['\\'], by rw [combined, same]; simp only [List.append_assoc], ?_, ?_⟩
    · exact endsInSeparator_concat _ _
    · exact segments_concat rfl _

/-- **The path of the id leads where its segments lead.** -/
theorem getFullPath_id (named : providerId ≠ []) :
    getFullPath system (combine providers.path providerId) =
      idTarget system providers providerId := by
  unfold idTarget
  split
  · next rooted => simp [combine, named, rooted, ProvidersFolder.path, providers.names_filled]
  · next relative =>
      have relative : isPathRooted providerId = false := by simpa using relative
      obtain ⟨front, combined, ends, same⟩ :=
        exists_below providers providers.names_filled named relative
      rw [ProvidersFolder.path, combined, getFullPath_fixed providers.fixed (by simp [named]),
        endsInSeparator_append named, segments_append (.inr ends), same,
        providers.segments_names]

theorem combine_rooted (first : Text) (filled : second ≠ [])
    (rooted : isPathRooted second = true) : combine first second = second := by
  simp [combine, filled, rooted]

/-- **The path of an entry leads where its segments lead behind those of the id.** -/
theorem placesBelow_id (named : providerId ≠ []) (filled : relative ≠ []) :
    placesBelow system (combine providers.path providerId) relative =
      entryPlace system providers providerId relative := by
  unfold entryPlace placesBelow
  split
  · next rooted => rw [combine_rooted _ filled rooted]
  · next notRooted =>
      have notRooted : isPathRooted relative = false := by simpa using notRooted
      split
      · next rooted => rw [combine_rooted _ named rooted]
      · next notRootedId =>
          have notRootedId : isPathRooted providerId = false := by simpa using notRootedId
          obtain ⟨idFront, idCombined, idEnds, idSame⟩ :=
            exists_below providers providers.names_filled named notRootedId
          have idFilled : idFront ++ providerId ≠ [] := by simp [named]
          obtain ⟨front, combined, ends, same⟩ :=
            exists_below providers idFilled filled notRooted
          rw [segments_append (.inr idEnds), idSame, providers.segments_names] at same
          have folderBelow : folderSegments (front ++ relative) =
              providers.names ++ segments providerId ++ folderSegments relative := by
            rw [folderSegments_append ends (segments_ne_nil filled notRooted), same]
          have folderFilled : folderPart (front ++ relative) ≠ [] := by
            intro empty
            have none := segments_folderPart (front ++ relative)
            rw [empty, segments_nil, folderBelow] at none
            simp [providers.filled] at none
          obtain ⟨folder, named, leads⟩ := getFullPath_getDirectoryName providers.fixed folderFilled
          have text : combine (combine providers.path providerId) relative =
              providers.root.written ++ (front ++ relative) := by
            rw [ProvidersFolder.path, idCombined, combined]
          rw [text, placeOf, named, Option.map_some, leads, folderBelow,
            getFullPath_fixed providers.fixed (by simp [filled]), endsInSeparator_append filled,
            segments_append (.inr ends), same, endsInSeparator_append (by simp [filled]),
            endsInSeparator_append filled]

/-! ## Installations -/

/-- The package is there and has a manifest with an id. -/
structure IsPackage (computer : Computer) (zipPath providerId : Text)
    (entries : List ZipArchiveEntry) : Prop where
  found : (isBlank zipPath || !computer.fileExists zipPath) = false
  opens : computer.openRead zipPath = .ok entries
  named : ∃ manifest, packageManifest computer.system.fold entries = .ok (some manifest) ∧
    manifest.providerId.getD [] = providerId
  notBlank : isBlank providerId = false

variable {computer : Computer} {zipPath targetInstallDir : Text} {base target : FullPath}
  {entries : List ZipArchiveEntry}

/-- The target of a package. -/
theorem targetInstallDir_of_package (package : IsPackage computer zipPath providerId entries)
    (baseProvidersDir : Text) :
    (inspectPackage computer zipPath baseProvidersDir).targetInstallDir =
      combine baseProvidersDir providerId := by
  obtain ⟨manifest, reads, rfl⟩ := package.named
  have opened : (computer.openRead zipPath).bind (packageManifest computer.system.fold) =
      .ok (some manifest) := by
    rw [package.opens]
    exact reads
  simp only [inspectPackage, package.found, Bool.false_eq_true, if_false, opened,
    package.notBlank, inspectManifest]

/-- Without a package there is no target. -/
theorem package_or_targetless (computer : Computer) (zipPath baseProvidersDir : Text) :
    (∃ providerId entries, IsPackage computer zipPath providerId entries) ∨
      (inspectPackage computer zipPath baseProvidersDir).targetInstallDir = [] := by
  unfold inspectPackage
  split
  · exact .inr rfl
  · next found =>
      split
      · exact .inr rfl
      · next result opened =>
          cases result with
          | none => exact .inr rfl
          | some manifest =>
              dsimp only
              split
              · exact .inr rfl
              · next named =>
                  cases opens : computer.openRead zipPath with
                  | error message =>
                      rw [opens] at opened
                      cases opened
                  | ok entries =>
                      rw [opens] at opened
                      refine .inl ⟨manifest.providerId.getD [], entries, ?_, opens,
                        ⟨manifest, opened, rfl⟩, ?_⟩
                      · simpa using found
                      · simpa using named

/-- A target whose path leads nowhere is not made, and nothing in it. -/
theorem nothing_made (moments : ℕ → Moment)
    (nowhere : getFullPath computer.system targetInstallDir = none) :
    (extractAndInstall computer moments zipPath targetInstallDir).1 = [] := by
  unfold extractAndInstall
  dsimp only
  split
  · rfl
  · have failed : (moments 0).ensureDirectory computer.system targetInstallDir = ([], false) := by
      simp [Moment.ensureDirectory, Moment.directoryExists, Moment.createDirectory, nowhere]
    simp [failed]

/-- What an installation makes is its folder, with those that are missing above it, and what
its entries make. -/
theorem mem_extractAndInstall (package : IsPackage computer zipPath providerId entries)
    {moments : ℕ → Moment} {made : FullPath}
    (member : made ∈ (extractAndInstall computer moments zipPath targetInstallDir).1) :
    made ∈ ((moments 0).ensureDirectory computer.system targetInstallDir).1 ∨
      made ∈ (extractEntries computer.system targetInstallDir
        (singleRootPrefix computer.system.fold entries) (fun later => moments (later + 1))
        entries).1 := by
  simp only [extractAndInstall, package.found, Bool.false_eq_true, if_false, package.opens]
    at member
  split at member
  · exact List.mem_append.mp member
  · exact .inl member

/-- In the bare file system the folder is made, and the entries are tried. -/
theorem extractAndInstall_bare (package : IsPackage computer zipPath providerId entries)
    (leads : getFullPath computer.system targetInstallDir = some target) :
    (extractAndInstall computer (fun _ => Moment.bare base) zipPath targetInstallDir).1 =
      ((Moment.bare base).ensureDirectory computer.system targetInstallDir).1 ++
        (extractEntries computer.system targetInstallDir
          (singleRootPrefix computer.system.fold entries) (fun _ => Moment.bare base) entries).1 := by
  simp only [extractAndInstall, package.found, Bool.false_eq_true, if_false, package.opens,
    ensureDirectory_bare_succeeds leads, if_true]

/-- A target for which no other folder is made is a child of the folder above it. -/
theorem exists_child_of_made (strictly : base.StrictlyAbove target)
    (leads : getFullPath system targetInstallDir = some target)
    (inside : ∀ made ∈ ((Moment.bare base).ensureDirectory system targetInstallDir).1,
      target.Above made) :
    ∃ name, target = base.child name := by
  obtain ⟨name, above⟩ := strictly.exists_child
  refine ⟨name, (inside (base.child name) ?_).antisymm above⟩
  exact mem_ensureDirectory_bare leads
    (FullPath.mem_chain.mpr ⟨above, by simp [FullPath.child]⟩) (base.not_child_above name)

theorem id_ne_nil (package : IsPackage computer zipPath providerId entries) :
    providerId ≠ [] := by
  rintro rfl
  exact absurd package.notBlank (by decide)

section Directions

variable {providers : ProvidersFolder}

/-- What a contained installation says about the names of its package: among the file systems
is the bare one, in which every folder is made and every entry is tried. -/
theorem InstallContained.namesStay (contained : InstallContained computer providers zipPath)
    (package : IsPackage computer zipPath providerId entries) :
    NamesStay computer.system providers providerId entries := by
  intro target leads
  have targetIs := targetInstallDir_of_package package providers.path
  have named := id_ne_nil package
  rw [← getFullPath_id named] at leads
  have strictly := contained.target target (targetIs ▸ leads)
  have inside : ∀ made ∈ (extractAndInstall computer
      (fun _ => Moment.bare (providers.full computer.system)) zipPath
      (combine providers.path providerId)).1, target.Above made := by
    intro made member
    obtain ⟨other, leadsToo, above⟩ := contained.made _
      (fun _ => keeps_bare (providers.full computer.system)) made (targetIs ▸ member)
    rw [targetIs, leads] at leadsToo
    cases leadsToo
    exact above
  rw [extractAndInstall_bare package leads] at inside
  refine ⟨exists_child_of_made strictly leads fun made here =>
    inside made (List.mem_append_left _ here), ?_⟩
  rw [← triedPlaces_congr fun relative filled => placesBelow_id named filled]
  exact stay_of_made fun made here => inside made (List.mem_append_right _ here)

/-- The installation of a package whose names stay is contained. -/
theorem contained_of_namesStay (package : IsPackage computer zipPath providerId entries)
    (stay : NamesStay computer.system providers providerId entries) :
    InstallContained computer providers zipPath := by
  have targetIs := targetInstallDir_of_package package providers.path
  have named := id_ne_nil package
  have leadsId : getFullPath computer.system (combine providers.path providerId) =
      idTarget computer.system providers providerId := getFullPath_id named
  constructor
  · intro target leads
    rw [targetIs, leadsId] at leads
    obtain ⟨⟨name, rfl⟩, -⟩ := stay target leads
    exact FullPath.strictlyAbove_child (providers.full computer.system) name
  · intro moments keeps made member
    rw [targetIs] at member ⊢
    cases leads : getFullPath computer.system (combine providers.path providerId) with
    | none =>
        rw [nothing_made moments leads] at member
        simp at member
    | some target =>
        obtain ⟨⟨name, direct⟩, places⟩ := stay target (leadsId ▸ leads)
        rw [← triedPlaces_congr fun relative filled => placesBelow_id named filled] at places
        refine ⟨target, rfl, ?_⟩
        rcases mem_extractAndInstall package member with folder | entry
        · obtain ⟨full, leadsToo, chained, missing⟩ := made_ensureDirectory folder
          rw [leads] at leadsToo
          cases leadsToo
          exact above_of_missing direct (FullPath.mem_chain.mp chained).1
            ((keeps 0).not_above missing) (FullPath.Above.refl target)
        · exact made_extractEntries (fun index => keeps (index + 1)) direct places made entry

/-- Without a target nothing is made. -/
theorem contained_of_targetless
    (targetless : (inspectPackage computer zipPath providers.path).targetInstallDir = []) :
    InstallContained computer providers zipPath := by
  have nowhere : getFullPath computer.system [] = none := by simp [getFullPath]
  constructor
  · intro target leads
    rw [targetless, nowhere] at leads
    cases leads
  · intro moments keeps made member
    rw [targetless, nothing_made moments nowhere] at member
    simp at member

end Directions

/-- **An installation is contained exactly when the names of its package stay.** -/
theorem install_contained_iff (computer : Computer) (providers : ProvidersFolder)
    (zipPath : Text) :
    InstallContained computer providers zipPath ↔
      ∀ providerId entries, IsPackage computer zipPath providerId entries →
        NamesStay computer.system providers providerId entries := by
  constructor
  · intro contained providerId entries package
    exact contained.namesStay package
  · intro stay
    rcases package_or_targetless computer zipPath providers.path with
      ⟨providerId, entries, package⟩ | targetless
    · exact contained_of_namesStay package (stay providerId entries package)
    · exact contained_of_targetless targetless

/-! ## Ordinary packages -/

section Ordinary

variable {providers : ProvidersFolder} {system : System}

theorem mem_triedPlaces {place : Text → Place} {fold : Char → Char} {root : Option Text}
    {tried : Place} (member : tried ∈ triedPlaces base place fold root entries) :
    ∃ entry ∈ entries, ∃ relative, relativePath fold root entry = some relative ∧
      tried = place relative := by
  induction entries with
  | nil => simp [triedPlaces] at member
  | cons entry entries ih =>
      have later : tried ∈ triedPlaces base place fold root entries →
          ∃ other ∈ entry :: entries, ∃ relative, relativePath fold root other = some relative ∧
            tried = place relative := by
        intro inRest
        obtain ⟨other, inEntries, found⟩ := ih inRest
        exact ⟨other, List.mem_cons_of_mem _ inEntries, found⟩
      cases kept : relativePath fold root entry with
      | none =>
          simp only [triedPlaces, kept] at member
          exact later member
      | some relative =>
          simp only [triedPlaces, kept] at member
          split at member
          · exact ⟨entry, List.mem_cons_self, relative, kept, List.mem_singleton.mp member⟩
          · rcases List.mem_cons.mp member with same | inRest
            · exact ⟨entry, List.mem_cons_self, relative, kept, same⟩
            · exact later inRest

/-- Names behind those of the target lead into it. -/
theorem above_of_resolve {names more : List Text} {separated : Bool} {full : FullPath}
    {root : Root} (ordinary : ∀ name ∈ names ++ more, OrdinaryName system name)
    (leads : resolve system root separated (names ++ more) = some full) :
    (⟨root.folded system.fold, names.map (List.map system.fold)⟩ : FullPath).Above full := by
  rw [resolve_ordinary separated ordinary, Option.some.injEq] at leads
  subst leads
  refine ⟨rfl, ?_⟩
  rw [List.map_append]
  exact List.prefix_append _ _

/-- **An ordinary package stays**: its id is an ordinary name, and so are the names on the paths
of its entries, none of which is rooted. -/
theorem namesStay_of_ordinary
    (folders : ∀ name ∈ providers.names, OrdinaryName system name)
    (ordinary : OrdinaryName system providerId) (relative : isPathRooted providerId = false)
    (paths : ∀ entry ∈ entries, ∀ path,
      relativePath system.fold (singleRootPrefix system.fold entries) entry = some path →
        isPathRooted path = false ∧ ∀ segment ∈ segments path, OrdinaryName system segment) :
    NamesStay system providers providerId entries := by
  have names : ∀ name ∈ providers.names ++ [providerId], OrdinaryName system name := by
    intro name member
    rcases List.mem_append.mp member with above | here
    · exact folders name above
    · exact List.mem_singleton.mp here ▸ ordinary
  have only : segments providerId = [providerId] :=
    segments_of_plain ordinary.plain.filled ordinary.plain.whole
  have whole : providers.full system =
      ⟨providers.root.folded system.fold, providers.names.map (List.map system.fold)⟩ := by
    have leads : resolve system providers.root false providers.names =
        some ⟨providers.root.folded system.fold, providers.names.map (List.map system.fold)⟩ :=
      resolve_ordinary false folders
    rw [resolve] at leads
    split at leads
    · cases leads
    · exact Option.some.inj leads
  intro target leads
  rw [idTarget, if_neg (by simp [relative]), only, resolve_ordinary _ names] at leads
  cases leads
  refine ⟨⟨providerId.map system.fold, by simp [whole, FullPath.child]⟩, ?_⟩
  intro place member
  obtain ⟨entry, inEntries, path, kept, rfl⟩ := mem_triedPlaces member
  obtain ⟨unrooted, segmentsOrdinary⟩ := paths entry inEntries path kept
  simp only [entryPlace, unrooted, relative, only, Bool.false_eq_true, if_false]
  constructor
  · intro full asked
    refine .inr (.inr (above_of_resolve ?_ (Option.some.inj asked)))
    intro name member
    rcases List.mem_append.mp member with above | below
    · exact names name above
    · refine segmentsOrdinary name ?_
      rw [folderSegments] at below
      split at below
      · exact below
      · exact List.mem_of_mem_dropLast below
  · intro full asked
    refine .inr (above_of_resolve ?_ asked)
    intro name member
    rcases List.mem_append.mp member with above | below
    · exact names name above
    · exact segmentsOrdinary name below

/-- The installation of an ordinary package is contained. -/
theorem contained_of_ordinary (package : IsPackage computer zipPath providerId entries)
    (folders : ∀ name ∈ providers.names, OrdinaryName computer.system name)
    (ordinary : OrdinaryName computer.system providerId)
    (relative : isPathRooted providerId = false)
    (paths : ∀ entry ∈ entries, ∀ path, relativePath computer.system.fold
        (singleRootPrefix computer.system.fold entries) entry = some path →
      isPathRooted path = false ∧
        ∀ segment ∈ segments path, OrdinaryName computer.system segment) :
    InstallContained computer providers zipPath :=
  contained_of_namesStay package (namesStay_of_ordinary folders ordinary relative paths)

end Ordinary

/-! ## A package that escapes -/

/-- The folder `C:\App\providers`. -/
def appProviders : ProvidersFolder where
  root := .drive 'C'
  names := ["App".toList, "providers".toList]
  fixed := rfl
  filled := by simp
  plain := by decide

/-- A computer with one package: its manifest has the id `Sample`, and its other entry is
`../evil.dll`. -/
def escapedComputer : Computer where
  system :=
    { fold := Char.toUpper
      reserved := fun _ => false
      currentDirectory := ⟨.drive 'C', []⟩
      driveDirectory := fun _ => [] }
  fileExists _ := true
  directoryExists _ := false
  openRead _ := .ok
    [{ fullName := "manifest.json".toList
       manifest := .ok (some { providerId := some "Sample".toList }) },
      { fullName := "../evil.dll".toList }]
  versionInfo _ := none
  processesByName _ := []

/-- The other entry is written next to the folder of the provider. -/
theorem entry_escapes : ¬ InstallContained escapedComputer appProviders "sample.zip".toList := by
  intro contained
  have written : (⟨.drive 'C', ["APP".toList, "PROVIDERS".toList, "EVIL.DLL".toList]⟩ : FullPath) ∈
      (extractAndInstall escapedComputer
        (fun _ => Moment.bare (appProviders.full escapedComputer.system)) "sample.zip".toList
        (inspectPackage escapedComputer "sample.zip".toList appProviders.path).targetInstallDir).1 := by
    decide +kernel
  obtain ⟨target, leads, above⟩ := contained.made _ (fun _ => keeps_bare _) _ written
  have sample : getFullPath escapedComputer.system (inspectPackage escapedComputer
      "sample.zip".toList appProviders.path).targetInstallDir =
        some ⟨.drive 'C', ["APP".toList, "PROVIDERS".toList, "SAMPLE".toList]⟩ := by
    decide +kernel
  rw [sample] at leads
  cases leads
  exact absurd above (by decide)

end ModernSapi
