import ModernSapi.Library.WindowsPath

/-!
# Paths from a fixed root

A path that begins with a drive or a share, and a separator, does not depend on current
folders. Where it leads is decided by the segments behind the root (`getFullPath_fixed`), and
where its folder leads by the segments without the last (`getFullPath_getDirectoryName`),
however many separators stand between them and of which kind. Ordinary names, which nothing is
dropped from, lead where they say (`resolve_ordinary`).
-/

set_option autoImplicit false

namespace WindowsPath

variable {char : Char} {text first second body name : Text} {system : System} {root : Root}

/-! ## Segments -/

@[simp] theorem segments_nil : segments [] = [] := by simp [segments]

theorem segments_append_cons (separator : isSeparator char = true) (first second : Text) :
    segments (first ++ char :: second) = segments first ++ segments second := by
  rw [segments, List.splitOnP_append_cons _ _ separator, List.filter_append]
  rfl

theorem segments_cons (separator : isSeparator char = true) (second : Text) :
    segments (char :: second) = segments second := by
  simpa using segments_append_cons separator [] second

theorem segments_concat (separator : isSeparator char = true) (first : Text) :
    segments (first ++ [char]) = segments first := by
  simpa using segments_append_cons separator first []

/-- A name in which nothing separates. -/
structure PlainName (name : Text) : Prop where
  filled : name ≠ []
  whole : ∀ char ∈ name, isSeparator char = false
  noNul : '\x00' ∉ name

instance (name : Text) : Decidable (PlainName name) :=
  decidable_of_iff (name ≠ [] ∧ true ∉ name.map isSeparator ∧ '\x00' ∉ name)
    ⟨fun ⟨filled, whole, noNul⟩ => ⟨filled, by simpa using whole, noNul⟩,
      fun plain => ⟨plain.filled, by simpa using plain.whole, plain.noNul⟩⟩

theorem segments_of_plain (filled : name ≠ []) (whole : ∀ char ∈ name, isSeparator char = false) :
    segments name = [name] := by
  rw [segments, List.splitOnP_eq_singleton whole]
  simp [filled]

/-- A text without separators, or its first name, a separator and the rest. -/
theorem separated_induct {motive : Text → Prop}
    (whole : ∀ name, (∀ char ∈ name, isSeparator char = false) → motive name)
    (cut : ∀ name char rest, (∀ char ∈ name, isSeparator char = false) →
      isSeparator char = true → motive rest → motive (name ++ char :: rest))
    (text : Text) : motive text := by
  have split := List.takeWhile_append_dropWhile (p := fun char => !isSeparator char) (l := text)
  have named : ∀ char ∈ text.takeWhile (fun char => !isSeparator char),
      isSeparator char = false := by
    intro char member
    simpa using List.mem_takeWhile_imp member
  cases behind : text.dropWhile fun char => !isSeparator char with
  | nil =>
      rw [behind, List.append_nil] at split
      exact whole text (split ▸ named)
  | cons char rest =>
      have separator : isSeparator char = true := by
        have first := List.head_dropWhile_not (fun char => !isSeparator char)
          (l := text) (by rw [behind]; simp)
        simpa [behind] using first
      have shorter : rest.length < text.length := by
        rw [← split, behind, List.length_append, List.length_cons]
        omega
      rw [← split, behind]
      exact cut _ char rest named separator (separated_induct whole cut rest)
termination_by text.length

theorem endsInSeparator_concat (text : Text) (char : Char) :
    endsInSeparator (text ++ [char]) = isSeparator char := by
  simp [endsInSeparator]

theorem endsInSeparator_append (filled : second ≠ []) :
    endsInSeparator (first ++ second) = endsInSeparator second := by
  rw [endsInSeparator, List.getLast?_append_of_ne_nil _ filled]
  rfl

/-- A character that separates nothing is in the text when it is in a segment. -/
theorem mem_segments_iff (apart : isSeparator char = false) :
    (∃ segment ∈ segments text, char ∈ segment) ↔ char ∈ text := by
  induction text using separated_induct with
  | whole name whole =>
      by_cases empty : name = []
      · simp [empty]
      · simp [segments_of_plain empty whole]
  | cut name other rest whole separator ih =>
      have differs : char ≠ other := by
        rintro rfl
        rw [separator] at apart
        cases apart
      rw [segments_append_cons separator, List.mem_append, List.mem_cons, ← ih]
      by_cases empty : name = []
      · simp [empty, differs]
      · simp [segments_of_plain empty whole, differs]

/-! ## Runs of separators -/

open normalizeSeparators (collapse)

theorem segments_dropWhile (text : Text) :
    segments (text.dropWhile isSeparator) = segments text := by
  induction text with
  | nil => rfl
  | cons char rest ih =>
      rw [List.dropWhile_cons]
      split
      · next separator => rw [ih, segments_cons separator]
      · rfl

theorem segments_rdropWhile (text : Text) :
    segments (text.rdropWhile isSeparator) = segments text := by
  induction text using List.reverseRecOn with
  | nil => rfl
  | append_singleton text char ih =>
      rw [List.rdropWhile_concat]
      split
      · next separator => rw [ih, segments_concat separator]
      · rfl

/-- One backslash stands for a run of separators. -/
theorem collapse_cons (separator : isSeparator char = true) (text : Text) :
    collapse (char :: text) = '\\' :: collapse (text.dropWhile isSeparator) := by
  induction text generalizing char with
  | nil => simp [collapse, separator]
  | cons second rest ih =>
      rw [collapse, if_pos separator, List.head?_cons, Option.any_some]
      split
      · next also => rw [ih also, List.dropWhile_cons_of_pos also]
      · next other => rw [List.dropWhile_cons_of_neg other]

/-- Names are not changed. -/
theorem collapse_append (whole : ∀ char ∈ name, isSeparator char = false) (rest : Text) :
    collapse (name ++ rest) = name ++ collapse rest := by
  induction name with
  | nil => rfl
  | cons char name ih =>
      have apart := whole char List.mem_cons_self
      rw [List.cons_append, collapse, if_neg (by rw [apart]; decide),
        ih fun other member => whole other (List.mem_cons_of_mem _ member), List.cons_append]

theorem collapse_of_whole (whole : ∀ char ∈ name, isSeparator char = false) :
    collapse name = name := by
  have none_behind := collapse_append whole []
  rwa [List.append_nil, collapse, List.append_nil] at none_behind

/-- The segments are the same, with fewer separators between them. -/
theorem segments_collapse (text : Text) : segments (collapse text) = segments text := by
  have backslash : isSeparator '\\' = true := rfl
  suffices both : ∀ text : Text, segments (collapse text) = segments text ∧
      segments (collapse (text.dropWhile isSeparator)) = segments text from (both text).1
  intro text
  induction text using separated_induct with
  | whole name whole =>
      have same : name.dropWhile isSeparator = name := by
        cases name with
        | nil => rfl
        | cons char name =>
            exact List.dropWhile_cons_of_neg (by simp [whole char List.mem_cons_self])
      rw [same, collapse_of_whole whole]
      exact ⟨rfl, rfl⟩
  | cut name char rest whole separator ih =>
      have here : segments (collapse (name ++ char :: rest)) = segments (name ++ char :: rest) := by
        rw [collapse_append whole, collapse_cons separator, segments_append_cons backslash,
          segments_append_cons separator, ih.2]
      refine ⟨here, ?_⟩
      cases name with
      | nil =>
          rw [List.nil_append, List.dropWhile_cons_of_pos separator, segments_cons separator]
          exact ih.2
      | cons first name =>
          rw [List.cons_append, List.dropWhile_cons_of_neg (by simp [whole first List.mem_cons_self]),
            ← List.cons_append]
          exact here

/-- A last character that separates nothing stays. -/
theorem collapse_concat (apart : isSeparator char = false) (text : Text) :
    collapse (text ++ [char]) = collapse text ++ [char] := by
  induction text with
  | nil => simp [collapse, apart]
  | cons first rest ih =>
      have sameNext : (rest ++ [char]).head?.any isSeparator = rest.head?.any isSeparator := by
        cases rest with
        | nil => simp [apart]
        | cons second rest => rfl
      rw [List.cons_append, collapse, collapse, sameNext, ih]
      split
      · split <;> rfl
      · rfl

theorem dropWhile_concat (apart : isSeparator char = false) (text : Text) :
    (text ++ [char]).dropWhile isSeparator = text.dropWhile isSeparator ++ [char] := by
  rw [List.dropWhile_append]
  split
  · next empty =>
      rw [List.isEmpty_iff.mp empty, List.nil_append,
        List.dropWhile_cons_of_neg (by rw [apart]; decide)]
  · rfl

/-! ## Fixed roots -/

/-- How a fixed root is written, with the separator behind it. -/
def Root.written : Root → Text
  | .drive letter => [letter, ':', '\\']
  | .share server name => '\\' :: '\\' :: (server ++ '\\' :: (name ++ ['\\']))
  | .device _ => []

/-- A drive, or a share with names that are no devices. -/
def Root.Fixed : Root → Prop
  | .drive letter => isDriveLetter letter = true
  | .share server name => PlainName server ∧ PlainName name ∧ server ≠ ['?'] ∧ server ≠ ['.']
  | .device _ => False

/-- Where segments lead from a root. -/
def resolve (system : System) (root : Root) (separated : Bool) (segments : List Text) :
    Option FullPath :=
  if ∃ segment ∈ segments, '\x00' ∈ segment then none
  else some (settle system root separated (walk [] segments))

theorem isSeparator_of_isDriveLetter {letter : Char} (drive : isDriveLetter letter = true) :
    isSeparator letter = false := by
  rw [Bool.eq_false_iff]
  intro separator
  simp only [isSeparator, Bool.or_eq_true, beq_iff_eq] at separator
  rcases separator with rfl | rfl
  · exact absurd drive (by decide)
  · exact absurd drive (by decide)

theorem PlainName.segments_append (plain : PlainName name) (body : Text) :
    segments (name ++ '\\' :: body) = name :: segments body := by
  rw [segments_append_cons rfl, segments_of_plain plain.filled plain.whole, List.singleton_append]

/-- Behind a fixed root nothing comes from a current folder. -/
theorem anchor_written (fixed : root.Fixed) (body : Text) :
    anchor system (root.written ++ body) = (root, [], segments body) := by
  cases root with
  | drive letter =>
      have drive : isDriveLetter letter = true := fixed
      have apart := isSeparator_of_isDriveLetter drive
      have backslash : isSeparator '\\' = true := rfl
      simp [Root.written, anchor, apart, drive, backslash, segments_cons backslash]
  | share server name =>
      obtain ⟨serverPlain, namePlain, notVerbatim, notDevice⟩ := fixed
      have rest : segments (server ++ '\\' :: (name ++ ['\\']) ++ body) =
          server :: name :: segments body := by
        rw [List.append_assoc, List.cons_append, serverPlain.segments_append, List.append_assoc,
          List.singleton_append, namePlain.segments_append]
      have backslash : isSeparator '\\' = true := rfl
      rw [Root.written, List.cons_append, List.cons_append]
      simp only [anchor, backslash, Bool.and_self, if_true, rest, notVerbatim, notDevice, or_self,
        if_false]
  | device name => exact fixed.elim

theorem noNul_written (fixed : root.Fixed) : '\x00' ∉ root.written := by
  cases root with
  | drive letter =>
      intro member
      simp only [Root.written, List.mem_cons, List.not_mem_nil, or_false] at member
      rcases member with rfl | colon | backslash
      · exact absurd (show isDriveLetter '\x00' = true from fixed) (by decide)
      · exact absurd colon (by decide)
      · exact absurd backslash (by decide)
  | share server name =>
      intro member
      simp [Root.written, fixed.1.noNul, fixed.2.1.noNul] at member
  | device name => exact fixed.elim

/-- **Where a path from a fixed root leads.** -/
theorem getFullPath_fixed (fixed : root.Fixed) (filled : body ≠ []) :
    getFullPath system (root.written ++ body) =
      resolve system root (endsInSeparator body) (segments body) := by
  have nul : ('\x00' ∈ root.written ++ body) ↔ ∃ segment ∈ segments body, '\x00' ∈ segment := by
    rw [List.mem_append, mem_segments_iff rfl]
    exact or_iff_right (noNul_written fixed)
  have some : root.written ++ body ≠ [] := by simp [filled]
  simp only [getFullPath, some, false_or, nul, anchor_written fixed, resolve,
    endsInSeparator_append filled]

/-! ## The folder of a path -/

/-- The part of a text in front of its last name, without the separators there. -/
def folderPart (body : Text) : Text :=
  (body.rdropWhile fun char => !isSeparator char).rdropWhile isSeparator

/-- The segments in front of the last name. A separator at the end ends a folder. -/
def folderSegments (body : Text) : List Text :=
  if endsInSeparator body then segments body else (segments body).dropLast

/-- What stands in front of the last name is nothing, or ends in a separator. -/
theorem rdropWhile_ends (text : Text) :
    text.rdropWhile (fun char => !isSeparator char) = [] ∨
      endsInSeparator (text.rdropWhile fun char => !isSeparator char) = true := by
  induction text using List.reverseRecOn with
  | nil => exact .inl rfl
  | append_singleton text char ih =>
      rw [List.rdropWhile_concat]
      split
      · exact ih
      · next separator =>
          rw [endsInSeparator_concat]
          exact .inr (by simpa using separator)

/-- A text is what stands in front of its last name, and that name. -/
theorem exists_name (text : Text) :
    ∃ name, text = text.rdropWhile (fun char => !isSeparator char) ++ name ∧
      ∀ char ∈ name, isSeparator char = false := by
  refine ⟨text.rtakeWhile fun char => !isSeparator char,
    List.rdropWhile_append_rtakeWhile.symm, ?_⟩
  intro char member
  simpa using List.mem_rtakeWhile_imp member

theorem segments_append (ends : first = [] ∨ endsInSeparator first = true) (second : Text) :
    segments (first ++ second) = segments first ++ segments second := by
  induction first using List.reverseRecOn with
  | nil => simp
  | append_singleton before char ih =>
      rcases ends with empty | separated
      · simp at empty
      · rw [endsInSeparator_concat] at separated
        rw [List.append_assoc, List.singleton_append, segments_append_cons separated,
          segments_concat separated]

theorem segments_folderPart (body : Text) : segments (folderPart body) = folderSegments body := by
  unfold folderPart folderSegments
  rw [segments_rdropWhile]
  obtain ⟨name, split, whole⟩ := exists_name body
  have ends := rdropWhile_ends body
  generalize body.rdropWhile (fun char => !isSeparator char) = before at split ends ⊢
  subst split
  rw [segments_append ends]
  by_cases empty : name = []
  · subst empty
    rw [List.append_nil, segments_nil, List.append_nil]
    split
    · rfl
    · next named =>
        rw [ends.resolve_right named, segments_nil]
        rfl
  · obtain ⟨front, last, rfl⟩ := (List.eq_nil_or_concat' name).resolve_left empty
    have named : endsInSeparator (before ++ (front ++ [last])) = false := by
      rw [← List.append_assoc, endsInSeparator_concat]
      exact whole last (by simp)
    rw [named, segments_of_plain empty whole, List.dropLast_concat]
    rfl

theorem rdropWhile_append {keep : Char → Bool} (filled : second.rdropWhile keep ≠ [])
    (first : Text) : (first ++ second).rdropWhile keep = first ++ second.rdropWhile keep := by
  have some : ¬ (List.dropWhile keep second.reverse).isEmpty = true := by
    intro empty
    exact filled (by rw [List.rdropWhile, List.isEmpty_iff.mp empty, List.reverse_nil])
  rw [List.rdropWhile, List.reverse_append, List.dropWhile_append, if_neg some,
    List.reverse_append, List.reverse_reverse, List.rdropWhile]

theorem folderPart_append (filled : folderPart second ≠ []) (first : Text) :
    folderPart (first ++ second) = first ++ folderPart second := by
  have front : second.rdropWhile (fun char => !isSeparator char) ≠ [] := by
    intro empty
    exact filled (by rw [folderPart, empty, List.rdropWhile_nil])
  rw [folderPart, rdropWhile_append front, rdropWhile_append filled]
  rfl

theorem takeWhile_plain (plain : PlainName name) (rest : Text) :
    (name ++ '\\' :: rest).takeWhile (fun char => !isSeparator char) = name := by
  have all : ∀ char ∈ name, (!isSeparator char) = true := by
    intro char member
    simp [plain.whole char member]
  have stop : isSeparator '\\' = true := rfl
  rw [List.takeWhile_append_of_pos all, List.takeWhile_cons_of_neg (by simp [stop]),
    List.append_nil]

/-- Two names and the separator between them. -/
theorem shareLength_eq {server : Text} (serverPlain : PlainName server) (namePlain : PlainName name)
    (rest : Text) :
    shareLength (server ++ '\\' :: (name ++ '\\' :: rest)) = server.length + 1 + name.length := by
  simp only [shareLength, takeWhile_plain serverPlain, List.drop_left, takeWhile_plain namePlain]

theorem share_not_isDevice {server : Text} (plain : PlainName server) (notVerbatim : server ≠ ['?'])
    (notDevice : server ≠ ['.']) (rest : Text) :
    isDevice ('\\' :: '\\' :: (server ++ '\\' :: rest)) = false := by
  match server with
  | [] => exact absurd rfl plain.filled
  | [kind] =>
      have question : kind ≠ '?' := fun same => notVerbatim (by rw [same])
      have period : kind ≠ '.' := fun same => notDevice (by rw [same])
      simp [isDevice, question, period]
  | kind :: third :: others =>
      have apart := plain.whole third (by simp)
      simp [isDevice, apart]

/-- The root that is found is the one that is written. -/
theorem rootLength_le (fixed : root.Fixed) (body : Text) :
    rootLength (root.written ++ body) ≤ root.written.length := by
  have backslash : isSeparator '\\' = true := rfl
  cases root with
  | drive letter =>
      have drive : isDriveLetter letter = true := fixed
      have apart := isSeparator_of_isDriveLetter drive
      have noDevice : isDevice (letter :: ':' :: '\\' :: body) = false := by
        cases body <;> simp [isDevice, apart]
      simp [Root.written, rootLength, noDevice, apart, drive, backslash]
  | share server name =>
      obtain ⟨serverPlain, namePlain, notVerbatim, notDevice⟩ := fixed
      have written : (Root.share server name).written ++ body =
          '\\' :: '\\' :: (server ++ '\\' :: (name ++ '\\' :: body)) := by
        simp [Root.written]
      have two : rootLength ('\\' :: '\\' :: (server ++ '\\' :: (name ++ '\\' :: body))) =
          2 + shareLength (server ++ '\\' :: (name ++ '\\' :: body)) := by
        rw [rootLength, share_not_isDevice serverPlain notVerbatim notDevice]
        simp [backslash]
      rw [written, two, shareLength_eq serverPlain namePlain]
      simp only [Root.written, List.length_cons, List.length_append, List.length_nil]
      omega
  | device name => exact fixed.elim

theorem collapse_plain (plain : PlainName name) (rest : Text) :
    collapse (name ++ '\\' :: rest) = name ++ '\\' :: collapse (rest.dropWhile isSeparator) := by
  rw [collapse_append plain.whole, collapse_cons rfl]

theorem dropWhile_plain (plain : PlainName name) (rest : Text) :
    (name ++ rest).dropWhile isSeparator = name ++ rest := by
  cases name with
  | nil => exact absurd rfl plain.filled
  | cons char name =>
      exact List.dropWhile_cons_of_neg (by simp [plain.whole char List.mem_cons_self])

/-- Only what stands behind a fixed root is changed. -/
theorem normalizeSeparators_fixed (fixed : root.Fixed) (body : Text) :
    normalizeSeparators (root.written ++ body) =
      root.written ++ collapse (body.dropWhile isSeparator) := by
  have backslash : isSeparator '\\' = true := rfl
  cases root with
  | drive letter =>
      have apart := isSeparator_of_isDriveLetter (show isDriveLetter letter = true from fixed)
      have colon : isSeparator ':' = false := rfl
      have named : ∀ char ∈ [letter, ':'], isSeparator char = false := by simp [apart, colon]
      have collapsed := collapse_append named ('\\' :: body)
      rw [collapse_cons backslash] at collapsed
      simp only [Root.written, List.cons_append, List.nil_append, normalizeSeparators, apart,
        Bool.false_eq_true, if_false]
      exact collapsed
  | share server name =>
      have written : (Root.share server name).written ++ body =
          '\\' :: '\\' :: (server ++ '\\' :: (name ++ '\\' :: body)) := by
        simp [Root.written]
      rw [written, normalizeSeparators, if_pos backslash, collapse_cons backslash,
        dropWhile_plain fixed.1, collapse_plain fixed.1, dropWhile_plain fixed.2.1,
        collapse_plain fixed.2.1]
      simp [Root.written]
  | device name => exact fixed.elim

theorem written_not_blank (fixed : root.Fixed) (body : Text) :
    (root.written ++ body).all (· == ' ') = false := by
  cases root with
  | drive letter => simp [Root.written]
  | share server name => simp [Root.written]
  | device name => exact fixed.elim

/-- **Where the folder of a path leads.** -/
theorem getFullPath_getDirectoryName (fixed : root.Fixed) (filled : folderPart body ≠ []) :
    ∃ folder, getDirectoryName (root.written ++ body) = some folder ∧
      getFullPath system folder = resolve system root false (folderSegments body) := by
  have some : body ≠ [] := by
    rintro rfl
    exact filled rfl
  have within : rootLength (root.written ++ body) ≤ root.written.length := rootLength_le fixed body
  have longer : ¬ (root.written ++ body).length ≤ rootLength (root.written ++ body) := by
    have more := List.length_pos_of_ne_nil some
    rw [List.length_append]
    omega
  have text : (root.written ++ body).take (rootLength (root.written ++ body)) ++
      folderPart ((root.written ++ body).drop (rootLength (root.written ++ body))) =
      root.written ++ folderPart body := by
    rw [List.drop_append_of_le_length within, folderPart_append filled,
      List.take_append_of_le_length within, ← List.append_assoc, List.take_append_drop]
  refine ⟨root.written ++ collapse ((folderPart body).dropWhile isSeparator), ?_, ?_⟩
  · rw [getDirectoryName, written_not_blank fixed]
    simp only [Bool.false_eq_true, if_false, longer]
    rw [← normalizeSeparators_fixed fixed, ← text]
    rfl
  · obtain ⟨front, last, split⟩ := (List.eq_nil_or_concat' (folderPart body)).resolve_left filled
    have apart : isSeparator last = false := by
      have ends : ¬ isSeparator ((folderPart body).getLast filled) = true :=
        List.rdropWhile_last_not isSeparator _ filled
      have isLast : (folderPart body).getLast filled = last := by simp only [split,
        List.getLast_append_singleton]
      rw [isLast] at ends
      simpa using ends
    rw [split, dropWhile_concat apart, collapse_concat apart, getFullPath_fixed fixed (by simp),
      endsInSeparator_concat, apart, ← collapse_concat apart, ← dropWhile_concat apart, ← split,
      segments_collapse, segments_dropWhile, segments_folderPart]

/-! ## Names behind a path -/

theorem isSeparator_head_of_relative (relative : isPathRooted (char :: name) = false) :
    isSeparator char = false := by
  simp only [isPathRooted, Bool.or_eq_false_iff] at relative
  exact relative.1

/-- A name that is not rooted has a segment. -/
theorem segments_ne_nil (filled : name ≠ []) (relative : isPathRooted name = false) :
    segments name ≠ [] := by
  cases name with
  | nil => exact absurd rfl filled
  | cons char rest =>
      intro none
      obtain ⟨segment, member, -⟩ :=
        (mem_segments_iff (isSeparator_head_of_relative relative)).mpr
          (show char ∈ char :: rest from List.mem_cons_self)
      rw [none] at member
      cases member

/-- A name that is not rooted is appended behind a separator. -/
theorem exists_combine (filled : first ≠ []) (named : name ≠ [])
    (relative : isPathRooted name = false) :
    ∃ front, combine first name = front ++ name ∧ endsInSeparator front = true ∧
      segments front = segments first ∧ (front = first ∨ front = first ++ ['\\']) := by
  unfold combine
  rw [if_neg named, if_neg filled, relative]
  simp only [Bool.false_eq_true, if_false]
  split
  · next separated => exact ⟨first, rfl, separated, rfl, .inl rfl⟩
  · exact ⟨first ++ ['\\'], by simp, endsInSeparator_concat _ _, segments_concat rfl _, .inr rfl⟩

theorem folderSegments_append (ends : endsInSeparator first = true)
    (some : segments second ≠ []) :
    folderSegments (first ++ second) = segments first ++ folderSegments second := by
  have filled : second ≠ [] := by
    rintro rfl
    exact some segments_nil
  rw [folderSegments, folderSegments, segments_append (.inr ends), endsInSeparator_append filled]
  split
  · rfl
  · rw [List.dropLast_append_of_ne_nil some]

/-! ## Ordinary names -/

section Ordinary

variable {names : List Text}

/-- A name that is kept as it is, wherever it stands in a path. -/
structure OrdinaryName (system : System) (name : Text) : Prop where
  plain : PlainName name
  kept : trimEnd name = name
  free : system.reserved name = false

namespace OrdinaryName

theorem getLast?_ne (ordinary : OrdinaryName system name) : name.getLast? ≠ some '.' := by
  intro period
  obtain ⟨front, rfl⟩ := List.getLast?_eq_some_iff.mp period
  have kept := congrArg List.length ordinary.kept
  rw [trimEnd, List.rdropWhile_concat_pos _ _ _ (by decide)] at kept
  have shorter := (List.rdropWhile_prefix (fun char => char == '.' || char == ' ') front).length_le
  rw [kept, List.length_append, List.length_singleton] at shorter
  omega

theorem withoutPeriod_eq (ordinary : OrdinaryName system name) : withoutPeriod name = name :=
  if_neg fun period => ordinary.getLast?_ne period.1

theorem follow_eq (ordinary : OrdinaryName system name) : follow names name = names ++ [name] := by
  rw [follow, if_neg, if_neg]
  · rintro rfl
    exact ordinary.getLast?_ne rfl
  · rintro rfl
    exact ordinary.getLast?_ne rfl

end OrdinaryName

theorem walk_ordinary {segments : List Text}
    (ordinary : ∀ segment ∈ segments, OrdinaryName system segment) :
    walk names segments = names ++ segments := by
  induction segments generalizing names with
  | nil => exact (List.append_nil names).symm
  | cons segment segments ih =>
      have later := fun other member => ordinary other (List.mem_cons_of_mem segment member)
      rw [walk, List.foldl_cons, (ordinary segment List.mem_cons_self).follow_eq]
      rw [← walk, ih later, List.append_assoc, List.singleton_append]

theorem trimmed_ordinary (separated : Bool)
    (ordinary : ∀ name ∈ names, OrdinaryName system name) : trimmed separated names = names := by
  rcases List.eq_nil_or_concat names with rfl | ⟨front, last, rfl⟩
  · rfl
  · have ends := ordinary last (by simp)
    have inside : front.map withoutPeriod = front := by
      apply (List.map_congr_left ?_).trans (List.map_id front)
      intro name member
      exact (ordinary name (by simp [member])).withoutPeriod_eq
    simp [trimmed, inside, ends.withoutPeriod_eq, ends.kept, ends.plain.filled]

/-- Ordinary names lead where they say. -/
theorem resolve_ordinary (separated : Bool)
    (ordinary : ∀ name ∈ names, OrdinaryName system name) :
    resolve system root separated names =
      some ⟨root.folded system.fold, names.map (List.map system.fold)⟩ := by
  have noNul : ¬∃ segment ∈ names, '\x00' ∈ segment := by
    rintro ⟨name, member, nul⟩
    exact (ordinary name member).plain.noNul nul
  have free : names.getLast?.any system.reserved = false := by
    cases last : names.getLast? with
    | none => rfl
    | some name => exact (ordinary name (List.mem_of_getLast? last)).free
  rw [resolve, if_neg noNul, walk_ordinary ordinary, List.nil_append, settle,
    trimmed_ordinary separated ordinary]
  simp [free]

end Ordinary

end WindowsPath
