import Mathlib.Data.List.DropRight
import Mathlib.Data.List.Infix

/-!
# Paths of Windows

A path is a text. Where it leads is a `FullPath`: a root and the names of the folders below
it, with case taken away. `getFullPath` finds it by the documented rules. The root comes from
the beginning of the path: a drive, a share, a device, or the current folder, of the process
or of a drive, where the path does not name one. Both slashes separate names. A segment of one
period is dropped, one of two periods goes to the folder above, and not above the root. A
single period at the end of a name is dropped, and at the end of a path that ends in a name
all periods and spaces.

Which last names are devices (`reserved`) and how case is taken away (`fold`) depend on the
version of Windows, and are parts of the `System` the path is used on.
-/

set_option autoImplicit false

namespace WindowsPath

abbrev Text := List Char

def isSeparator (char : Char) : Bool := char == '\\' || char == '/'

def isDriveLetter (char : Char) : Bool := char.isAlpha

def endsInSeparator (path : Text) : Bool := path.getLast?.any isSeparator

/-- Whether a path begins with a separator or with a drive. -/
def isPathRooted : Text → Bool
  | [] => false
  | first :: rest => isSeparator first || (isDriveLetter first && rest.head? == some ':')

/-- A rooted second path replaces the first, another one is appended. -/
def combine (first second : Text) : Text :=
  if second = [] then first
  else if first = [] then second
  else if isPathRooted second then second
  else if endsInSeparator first then first ++ second
  else first ++ '\\' :: second

/-- The names between the separators. -/
def segments (path : Text) : List Text := (path.splitOnP isSeparator).filter (· ≠ [])

/-! ## The folder of a path -/

/-- `\\?\` and `\\.\` begin the path of a device. -/
def isDevice : Text → Bool
  | first :: second :: kind :: third :: _ =>
      isSeparator first && isSeparator second && (kind == '?' || kind == '.') &&
        isSeparator third
  | _ => false

/-- How many characters two names and the separator between them take. -/
def shareLength (path : Text) : ℕ :=
  let server := path.takeWhile (!isSeparator ·)
  match path.drop server.length with
  | [] => server.length
  | _ :: rest => server.length + 1 + (rest.takeWhile (!isSeparator ·)).length

/-- How many characters of the path make its root. -/
def rootLength (path : Text) : ℕ :=
  if isDevice path then
    let device := ((path.drop 4).takeWhile (!isSeparator ·)).length
    if 0 < device ∧ 4 + device < path.length then 4 + device + 1 else 4 + device
  else
    match path with
    | [] => 0
    | first :: rest =>
        if isSeparator first then
          if rest.head?.any isSeparator then 2 + shareLength (path.drop 2) else 1
        else if isDriveLetter first && rest.head? == some ':' then
          if (path.drop 2).head?.any isSeparator then 3 else 2
        else 0

/-- Runs of separators become one backslash each, save at the very beginning. -/
def normalizeSeparators : Text → Text
  | [] => []
  | first :: rest =>
      if isSeparator first then '\\' :: collapse rest else collapse (first :: rest)
where
  collapse : Text → Text
    | [] => []
    | first :: rest =>
        if isSeparator first then
          if rest.head?.any isSeparator then collapse rest else '\\' :: collapse rest
        else first :: collapse rest

/-- The path without its last name; none for a root. -/
def getDirectoryName (path : Text) : Option Text :=
  if path.all (· == ' ') then none
  else if path.length ≤ rootLength path then none
  else
    let body := path.drop (rootLength path)
    some (normalizeSeparators (path.take (rootLength path) ++
      (body.rdropWhile (!isSeparator ·)).rdropWhile isSeparator))

/-! ## Full paths -/

inductive Root
  | drive (letter : Char)
  | share (server name : Text)
  | device (name : Text)
  deriving DecidableEq, Repr

structure FullPath where
  root : Root
  names : List Text
  deriving DecidableEq, Repr

namespace FullPath

/-- The first path is the second or a folder above it. -/
def Above (upper lower : FullPath) : Prop :=
  upper.root = lower.root ∧ upper.names <+: lower.names

instance (upper lower : FullPath) : Decidable (upper.Above lower) :=
  inferInstanceAs (Decidable (_ ∧ _))

/-- The first path is a folder above the second. -/
def StrictlyAbove (upper lower : FullPath) : Prop := upper.Above lower ∧ upper ≠ lower

instance (upper lower : FullPath) : Decidable (upper.StrictlyAbove lower) :=
  inferInstanceAs (Decidable (_ ∧ _))

def child (folder : FullPath) (name : Text) : FullPath := ⟨folder.root, folder.names ++ [name]⟩

/-- The folders on the way from the root to the path, with the path itself. -/
def chain (path : FullPath) : List FullPath :=
  (path.names.inits.filter (· ≠ [])).map fun names => ⟨path.root, names⟩

variable {upper middle lower other : FullPath} {name : Text}

theorem Above.refl (path : FullPath) : path.Above path := ⟨rfl, List.prefix_rfl⟩

theorem Above.trans (first : upper.Above middle) (second : middle.Above lower) :
    upper.Above lower := ⟨first.1.trans second.1, first.2.trans second.2⟩

theorem above_child (folder : FullPath) (name : Text) : folder.Above (folder.child name) :=
  ⟨rfl, List.prefix_append _ _⟩

theorem strictlyAbove_child (folder : FullPath) (name : Text) :
    folder.StrictlyAbove (folder.child name) := by
  refine ⟨above_child folder name, ?_⟩
  intro same
  have longer := congrArg (List.length ∘ FullPath.names) same
  simp [child] at longer

/-- Of two folders above a path one is above the other. -/
theorem Above.total (first : upper.Above lower) (second : other.Above lower) :
    upper.Above other ∨ other.Above upper := by
  have root : upper.root = other.root := first.1.trans second.1.symm
  rcases List.prefix_or_prefix_of_prefix first.2 second.2 with shorter | longer
  · exact .inl ⟨root, shorter⟩
  · exact .inr ⟨root.symm, longer⟩

/-- What is above a child of a folder is the child or above the folder. -/
theorem above_child_iff :
    upper.Above (lower.child name) ↔ upper.Above lower ∨ upper = lower.child name := by
  constructor
  · rintro ⟨root, inside⟩
    rcases List.prefix_concat_iff.mp inside with whole | shorter
    · cases upper
      cases root
      cases whole
      exact .inr rfl
    · exact .inl ⟨root, shorter⟩
  · rintro (above | rfl)
    · exact above.trans (above_child lower name)
    · exact Above.refl _

theorem Above.antisymm (first : upper.Above lower) (second : lower.Above upper) :
    upper = lower := by
  cases upper
  cases lower
  cases first.1
  cases first.2.eq_of_length_le second.2.length_le
  rfl

theorem not_child_above (folder : FullPath) (name : Text) : ¬ (folder.child name).Above folder := by
  intro above
  have shorter := above.2.length_le
  rw [child, List.length_append, List.length_singleton] at shorter
  omega

/-- The way down to a path goes through a child. -/
theorem StrictlyAbove.exists_child (strictly : upper.StrictlyAbove lower) :
    ∃ name, (upper.child name).Above lower := by
  obtain ⟨⟨root, rest, split⟩, differs⟩ := strictly
  cases rest with
  | nil =>
      refine absurd ?_ differs
      cases upper
      cases lower
      cases root
      cases split
      simp
  | cons name rest =>
      refine ⟨name, root, rest, ?_⟩
      rw [← split, child, List.append_assoc, List.singleton_append]

theorem mem_chain : upper ∈ lower.chain ↔ upper.Above lower ∧ upper.names ≠ [] := by
  unfold chain
  rw [List.mem_map]
  constructor
  · rintro ⟨names, member, rfl⟩
    obtain ⟨inits, filled⟩ := List.mem_filter.mp member
    exact ⟨⟨rfl, (List.mem_inits names lower.names).mp inits⟩, by simpa using filled⟩
  · rintro ⟨⟨root, inside⟩, filled⟩
    refine ⟨upper.names, List.mem_filter.mpr ⟨(List.mem_inits _ _).mpr inside, by simpa⟩, ?_⟩
    cases upper
    cases root
    rfl

end FullPath

/-- What a path means besides its text. -/
structure System where
  fold : Char → Char
  /-- The names that are devices where they end a path. -/
  reserved : Text → Bool
  /-- The current folder of the process. -/
  currentDirectory : FullPath
  /-- The current folders of the drives. -/
  driveDirectory : Char → List Text

/-- One segment of a path, from the folder that the segments before it lead to. -/
def follow (names : List Text) (segment : Text) : List Text :=
  if segment = ['.'] then names
  else if segment = ['.', '.'] then names.dropLast
  else names ++ [segment]

def walk (names : List Text) (segments : List Text) : List Text := segments.foldl follow names

/-- A name without the single period at its end. -/
def withoutPeriod (name : Text) : Text :=
  if name.getLast? = some '.' ∧ name.dropLast.getLast? ≠ some '.' then name.dropLast else name

/-- A name without the periods and spaces at its end. -/
def trimEnd (name : Text) : Text := name.rdropWhile fun char => char == '.' || char == ' '

/-- The names of a path as they are kept. -/
def trimmed (separated : Bool) (names : List Text) : List Text :=
  match names.getLast? with
  | none => []
  | some last =>
      names.dropLast.map withoutPeriod ++
        if separated then [withoutPeriod last]
        else if trimEnd last = [] then []
        else [trimEnd last]

/-- The root of a path, the folder it starts from, and the segments that follow. -/
def anchor (system : System) (path : Text) : Root × List Text × List Text :=
  match path with
  | first :: second :: rest =>
      if isSeparator first && isSeparator second then
        match segments rest with
        | [] => (system.currentDirectory.root, [], [])
        | server :: others =>
            match others with
            | [] => (.share server [], [], [])
            | name :: below =>
                if server = ['?'] ∨ server = ['.'] then (.device name, [], below)
                else (.share server name, [], below)
      else if isSeparator first then
        (system.currentDirectory.root, [], segments path)
      else if isDriveLetter first && second == ':' then
        if rest.head?.any isSeparator then (.drive first, [], segments rest)
        else (.drive first, system.driveDirectory (system.fold first), segments rest)
      else (system.currentDirectory.root, system.currentDirectory.names, segments path)
  | _ =>
      if path.any isSeparator then (system.currentDirectory.root, [], [])
      else (system.currentDirectory.root, system.currentDirectory.names, segments path)

def Root.folded (fold : Char → Char) : Root → Root
  | .drive letter => .drive (fold letter)
  | .share server name => .share (server.map fold) (name.map fold)
  | .device name => .device (name.map fold)

/-- The path that names walked from a root lead to. -/
def settle (system : System) (root : Root) (separated : Bool) (names : List Text) : FullPath :=
  let kept := trimmed separated names
  if kept.getLast?.any system.reserved then
    ⟨.device ((kept.getLast?.getD []).map system.fold), []⟩
  else ⟨root.folded system.fold, kept.map (List.map system.fold)⟩

/-- Where a path leads; none for a path without a character and for one with a NUL. -/
def getFullPath (system : System) (path : Text) : Option FullPath :=
  if path = [] ∨ '\x00' ∈ path then none
  else
    let (root, start, segments) := anchor system path
    some (settle system root (endsInSeparator path) (walk start segments))

end WindowsPath
