import ModernSapi.Library.WindowsPath

/-!
# The installation of a provider package

A provider comes as a zip archive with a manifest. `inspectPackage` reads the manifest and
says where the provider is to be installed: the id of the manifest is combined with the
folder of the providers. `extractAndInstall` makes that folder and extracts the entries of the
archive below it. Where all entries have their first folder in common it is left out. No path
is resolved before the file system gets it.

The file system may change at any time, and refuse any call. What it answers while the folder
is made, and then while each entry is extracted, is a `Moment`. It refuses paths that lead
nowhere, files that end in a separator, and files in the place of a folder.
-/

set_option autoImplicit false

namespace ModernSapi

open WindowsPath

/-- `char.IsWhiteSpace`. -/
def isWhiteSpace (char : Char) : Bool :=
  let code := char.toNat
  (9 ≤ code && code ≤ 13) || (0x2000 ≤ code && code ≤ 0x200A) ||
    [0x20, 0x85, 0xA0, 0x1680, 0x2028, 0x2029, 0x202F, 0x205F, 0x3000].contains code

def isBlank (text : Text) : Bool := text.all isWhiteSpace

/-- Both texts are the same without their case. -/
def sameName (fold : Char → Char) (first second : Text) : Bool :=
  first.map fold == second.map fold

/-! ## The package -/

/-- What the installer reads of a manifest. A field may be null. -/
structure ProviderPackageManifest where
  providerId : Option Text := some []
  executableName : Option Text := some []

/-- An entry of the archive. `manifest` is what its content is as a manifest: null, or none
with the text of an exception. -/
structure ZipArchiveEntry where
  fullName : Text
  madeByWindows : Bool := true
  manifest : Except Text (Option ProviderPackageManifest) := .ok none

/-- The full name behind the last separator of the system the archive was made by. -/
def ZipArchiveEntry.name (entry : ZipArchiveEntry) : Text :=
  entry.fullName.rtakeWhile fun char =>
    !(char == '/' || (entry.madeByWindows && (char == '\\' || char == ':')))

/-- What the installer asks the computer. -/
structure Computer where
  system : System
  fileExists : Text → Bool
  directoryExists : Text → Bool
  /-- The entries of an archive, or the text of an exception. -/
  openRead : Text → Except Text (List ZipArchiveEntry)
  /-- The file version and the product version of a file, unless that throws. -/
  versionInfo : Text → Option (Option Text × Option Text)
  processesByName : Text → List ℕ

structure PackageInspectionResult where
  isValid : Bool
  errorMessage : Text
  manifest : Option ProviderPackageManifest := none
  targetInstallDir : Text := []
  existingVersion : Option Text := none
  isRunningProcessDetected : Bool := false
  runningProcessId : ℕ := 0

namespace ProviderInstaller

/-- The version that is shown for a file. -/
def versionText (fileVersion productVersion : Option Text) : Text :=
  if !isBlank (fileVersion.getD []) then fileVersion.getD []
  else if !isBlank (productVersion.getD []) then productVersion.getD []
  else "Unknown".toList

/-- The version of the executable that is installed, if there is one. -/
def existingVersion (computer : Computer) (targetInstallDir executable : Text) : Option Text :=
  let installedExePath := combine targetInstallDir executable
  if computer.fileExists installedExePath then
    match computer.versionInfo installedExePath with
    | none => some "Unknown".toList
    | some (fileVersion, productVersion) => some (versionText fileVersion productVersion)
  else none

/-- `Path.GetFileNameWithoutExtension`. -/
def fileNameWithoutExtension (path : Text) : Text :=
  let name := (path.drop (rootLength path)).rtakeWhile (!isSeparator ·)
  if '.' ∈ name then (name.rdropWhile (· != '.')).dropLast else name

/-- The manifest of the package: the first entry of that name. -/
def packageManifest (fold : Char → Char) (entries : List ZipArchiveEntry) :
    Except Text (Option ProviderPackageManifest) :=
  match entries.find? fun entry => sameName fold entry.name "manifest.json".toList with
  | none => .ok none
  | some entry => entry.manifest

/-- What `inspectPackage` finds for a manifest with an id. -/
def inspectManifest (computer : Computer) (baseProvidersDir : Text)
    (manifest : ProviderPackageManifest) (providerId : Text) : PackageInspectionResult :=
  let targetInstallDir := combine baseProvidersDir providerId
  let executable := manifest.executableName.getD []
  let processes :=
    if isBlank executable then []
    else computer.processesByName (fileNameWithoutExtension executable)
  { isValid := true
    errorMessage := []
    manifest := some manifest
    targetInstallDir := targetInstallDir
    existingVersion :=
      if computer.directoryExists targetInstallDir && !isBlank executable then
        existingVersion computer targetInstallDir executable
      else none
    isRunningProcessDetected := !processes.isEmpty
    runningProcessId := processes.headD 0 }

def inspectPackage (computer : Computer) (zipPath baseProvidersDir : Text) :
    PackageInspectionResult :=
  if isBlank zipPath || !computer.fileExists zipPath then
    { isValid := false
      errorMessage := "Zip package not found: '".toList ++ zipPath ++ "'".toList }
  else
    match (computer.openRead zipPath).bind (packageManifest computer.system.fold) with
    | .error message =>
        { isValid := false, errorMessage := "Failed to inspect package: ".toList ++ message }
    | .ok found =>
        match found with
        | some manifest =>
            if isBlank (manifest.providerId.getD []) then missingManifest
            else inspectManifest computer baseProvidersDir manifest (manifest.providerId.getD [])
        | none => missingManifest
where
  missingManifest : PackageInspectionResult :=
    { isValid := false
      errorMessage := "Invalid package: Missing mandatory manifest.json file.".toList }

end ProviderInstaller

/-! ## The file system -/

/-- What the file system answers at some time: which folders there are, each in a folder that
is there, and which new folders and files it lets be made. -/
structure Moment where
  directories : FullPath → Bool
  rooted : ∀ folder name, directories (folder.child name) = true → directories folder = true
  creates : FullPath → Bool
  writes : FullPath → Bool

/-- `Directory.Exists`. -/
def Moment.directoryExists (moment : Moment) (system : System) (path : Text) : Bool :=
  (getFullPath system path).any moment.directories

/-- `Directory.CreateDirectory`: the folders it makes, and whether it succeeds. The folders that
are missing on the way are made from the top. -/
def Moment.createDirectory (moment : Moment) (system : System) (path : Text) :
    List FullPath × Bool :=
  match getFullPath system path with
  | none => ([], false)
  | some full =>
      let missing := full.chain.filter (!moment.directories ·)
      (missing.takeWhile moment.creates, missing.all moment.creates)

/-- Makes the folder unless it is there. -/
def Moment.ensureDirectory (moment : Moment) (system : System) (path : Text) :
    List FullPath × Bool :=
  if moment.directoryExists system path then ([], true) else moment.createDirectory system path

/-- `ExtractToFile`: the file it writes, unless it throws. -/
def Moment.extractToFile (moment : Moment) (system : System) (path : Text) : Option FullPath :=
  match getFullPath system path with
  | none => none
  | some full =>
      if endsInSeparator path || moment.directories full || !moment.writes full then none
      else some full

/-! ## The extraction -/

namespace ProviderInstaller

def forwardSlashes (path : Text) : Text :=
  path.map fun char => if char = '\\' then '/' else char

def backSlashes (path : Text) : Text := path.map fun char => if char = '/' then '\\' else char

/-- `StartsWith` without case. -/
def startsWith (fold : Char → Char) (text start : Text) : Bool :=
  start.length ≤ text.length && sameName fold (text.take start.length) start

/-- The first folder of the first file, with the slash behind it, if all entries begin with
it. -/
def singleRootPrefix (fold : Char → Char) (entries : List ZipArchiveEntry) : Option Text :=
  match entries.filter (·.name ≠ []) with
  | [] => none
  | first :: _ =>
      let firstFullName := forwardSlashes first.fullName
      let folder := firstFullName.takeWhile (· != '/')
      if 0 < folder.length ∧ folder.length < firstFullName.length then
        let candidate := folder ++ ['/']
        if entries.all fun entry => startsWith fold (forwardSlashes entry.fullName) candidate
        then some candidate
        else none
      else none

/-- A name without the first folder, if that is left out. -/
def withoutRoot (fold : Char → Char) (root : Option Text) (fullName : Text) : Text :=
  match root with
  | some start => if startsWith fold fullName start then fullName.drop start.length else fullName
  | none => fullName

/-- The path an entry is extracted to, below the target; none if it is left out. -/
def relativePath (fold : Char → Char) (root : Option Text) (entry : ZipArchiveEntry) :
    Option Text :=
  if entry.name = [] then none
  else
    let relative := withoutRoot fold root (forwardSlashes entry.fullName)
    if isBlank relative then none else some (backSlashes relative)

/-- Makes the folder of a file unless it is there. -/
def makeFolder (system : System) (moment : Moment) (destPath : Text) : List FullPath × Bool :=
  match getDirectoryName destPath with
  | none => ([], true)
  | some destDir => moment.ensureDirectory system destDir

/-- The folders and files an entry makes, and whether that succeeds. -/
def extractEntry (system : System) (moment : Moment) (destPath : Text) : List FullPath × Bool :=
  let folders := makeFolder system moment destPath
  if folders.2 then
    match moment.extractToFile system destPath with
    | none => (folders.1, false)
    | some file => (folders.1 ++ [file], true)
  else folders

/-- The loop over the entries. An exception ends it. -/
def extractEntries (system : System) (targetInstallDir : Text) (root : Option Text) :
    (ℕ → Moment) → List ZipArchiveEntry → List FullPath × Bool
  | _, [] => ([], true)
  | moments, entry :: entries =>
      match relativePath system.fold root entry with
      | none => extractEntries system targetInstallDir root (fun later => moments (later + 1)) entries
      | some relative =>
          let extracted := extractEntry system (moments 0) (combine targetInstallDir relative)
          if extracted.2 then
            let others :=
              extractEntries system targetInstallDir root (fun later => moments (later + 1)) entries
            (extracted.1 ++ others.1, others.2)
          else extracted

/-- The folders and files that are made, and what is returned. -/
def extractAndInstall (computer : Computer) (moments : ℕ → Moment)
    (zipPath targetInstallDir : Text) : List FullPath × Bool :=
  let system := computer.system
  if isBlank zipPath || !computer.fileExists zipPath then ([], false)
  else
    let target := (moments 0).ensureDirectory system targetInstallDir
    if target.2 then
      match computer.openRead zipPath with
      | .error _ => (target.1, false)
      | .ok entries =>
          let extracted := extractEntries system targetInstallDir
            (singleRootPrefix system.fold entries) (fun later => moments (later + 1)) entries
          (target.1 ++ extracted.1, extracted.2)
    else target

end ProviderInstaller

end ModernSapi
