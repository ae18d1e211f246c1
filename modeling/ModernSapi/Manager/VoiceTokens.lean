import Mathlib.Data.List.TakeWhile
import ModernSapi.Library.KeyTree

/-!
# The voice tokens that SapiManager saves

Each voice of a provider has a token below the Tokens key of the registry. Its name joins the
ids of the provider and of the voice with underscores, and `RegistryManager` creates or deletes
the key of that name. The registry makes more of a name than a string: a backslash begins a key
below, case is ignored and a NUL ends it.

`tokens_unchanged_iff`: saving the voices of a provider leaves the token of another voice alone,
whatever is chosen for them, if and only if no path of theirs lies above or below the path of
that token. `joined_eq_iff` and `apart_iff_of_plain` say which ids have such paths.
-/

set_option autoImplicit false

namespace ModernSapi

open KeyTrees

/-! ## The registry -/

abbrev RegistryPath := List (List Char)

/-- The values of a key, by name. The name of the default value is empty. -/
abbrev RegistryValues := String → Option String

/-- The Tokens key and the keys below it. The path of the Tokens key is empty. -/
abbrev TokensKey := KeyTree (List Char) RegistryValues

/-- The path a subkey name stands for: it ends at a NUL, its parts are separated by backslashes
of which consecutive ones are one, and `fold` takes case away. -/
def keyPath (fold : Char → Char) (name : List Char) : RegistryPath :=
  (((name.takeWhile (· != '\x00')).splitOn '\\').filter (· ≠ [])).map (List.map fold)

/-- The calls that change the registry. -/
inductive RegistryCall where
  | createSubKey (path : RegistryPath)
  | setValue (path : RegistryPath) (name value : String)
  deriving DecidableEq, Repr

def RegistryCall.apply (tokens : TokensKey) : RegistryCall → TokensKey
  | .createSubKey path => tokens.create (fun _ => none) path
  | .setValue path name value =>
      tokens.update path fun values other => if other = name then some value else values other

/-! ## The registry manager -/

namespace RegistryManager

def coreEngineClsid : String := "{91CD243C-63F7-441F-AE2F-45057005CB6D}"

def commonLcids : List (String × String) :=
  [("en-US", "409"), ("en-GB", "809"), ("en-CA", "1009"), ("en-AU", "C09"), ("es-ES", "C0A"),
    ("es-MX", "80A"), ("fr-FR", "40C"), ("de-DE", "407"), ("it-IT", "410"), ("ja-JP", "411"),
    ("ko-KR", "412"), ("zh-CN", "804"), ("zh-TW", "404"), ("pt-BR", "416"), ("pt-PT", "816")]

/-- `cultures` are those of the system, by name. The tag is looked up without its case. -/
def languageTagToHexLcid (fold : Char → Char) (cultures : String → Option String)
    (bcp47Tag : String) : String :=
  if bcp47Tag.toList.all Char.isWhitespace then "409"
  else
    match commonLcids.find? fun entry =>
        entry.1.toList.map fold == bcp47Tag.toList.map fold with
    | some entry => entry.2
    | none => (cultures bcp47Tag).getD "409"

end RegistryManager

structure VoiceViewModel where
  voiceId : List Char
  name : String := ""
  language : String := ""
  gender : Option String := some ""
  vendor : Option String := some ""
  deriving DecidableEq, Repr

structure ProviderViewModel where
  providerId : List Char
  exePath : String := ""
  pipeName : String := ""
  deriving DecidableEq, Repr

/-- `$"MSA_{selectedProvider.ProviderId}_{voice.VoiceId}"`. -/
def tokenName (provider : ProviderViewModel) (voice : VoiceViewModel) : List Char :=
  ['M', 'S', 'A', '_'] ++ (provider.providerId ++ '_' :: voice.voiceId)

/-- What is chosen for a voice, and how it goes. `RegisterVoiceToken` makes its calls until one
throws. When `UnregisterVoiceToken` throws it has deleted some of the keys below the token. -/
inductive VoiceChoice where
  | register (completed : ℕ)
  | unregister (failed : Option (List RegistryPath))
  deriving DecidableEq, Repr

structure SaveCounts where
  registeredCount : ℕ := 0
  unregisteredCount : ℕ := 0
  failCount : ℕ := 0
  deriving DecidableEq, Repr

section Save

variable (fold : Char → Char) (cultures : String → Option String)

namespace RegistryManager

/-- The calls that `RegisterVoiceToken` makes, in order. -/
def registerCalls (path : RegistryPath) (provider : ProviderViewModel) (voice : VoiceViewModel) :
    List RegistryCall :=
  let attributes := path ++ ["Attributes".toList.map fold]
  [.createSubKey [], .createSubKey path, .setValue path "" voice.name,
    .setValue path "CLSID" coreEngineClsid,
    .setValue path "ProviderExecutablePath" provider.exePath,
    .setValue path "ProviderPipeName" provider.pipeName,
    .setValue path "VoiceId" (String.ofList voice.voiceId),
    .createSubKey attributes, .setValue attributes "Name" voice.name,
    .setValue attributes "Language" (languageTagToHexLcid fold cultures voice.language),
    .setValue attributes "Gender" (voice.gender.getD "Neutral"),
    .setValue attributes "Age" "Adult",
    .setValue attributes "Vendor" (voice.vendor.getD "Unknown")]

def registerVoiceToken (tokens : TokensKey) (path : RegistryPath) (provider : ProviderViewModel)
    (voice : VoiceViewModel) (completed : ℕ) : TokensKey × Bool :=
  let calls := registerCalls fold cultures path provider voice
  ((calls.take completed).foldl RegistryCall.apply tokens, calls.length ≤ completed)

/-- A missing Tokens key has nothing to delete. -/
def unregisterVoiceToken (tokens : TokensKey) (path : RegistryPath)
    (failed : Option (List RegistryPath)) : TokensKey × Bool :=
  match failed with
  | some deleted =>
      (deleted.foldl (fun tokens below => tokens.removeTree (path ++ below)) tokens, false)
  | none => (if (tokens.key []).isSome then tokens.removeTree path else tokens, true)

end RegistryManager

/-- One round of the loop of `BtnSaveVoices_Click`. -/
def saveVoice (provider : ProviderViewModel) (state : TokensKey × SaveCounts)
    (choice : VoiceViewModel × VoiceChoice) : TokensKey × SaveCounts :=
  let (tokens, counts) := state
  let path := keyPath fold (tokenName provider choice.1)
  match choice.2 with
  | .register completed =>
      let (tokens, success) :=
        RegistryManager.registerVoiceToken fold cultures tokens path provider choice.1 completed
      (tokens, if success then { counts with registeredCount := counts.registeredCount + 1 }
        else { counts with failCount := counts.failCount + 1 })
  | .unregister failed =>
      let (tokens, success) := RegistryManager.unregisterVoiceToken tokens path failed
      (tokens, if success then { counts with unregisteredCount := counts.unregisteredCount + 1 }
        else { counts with failCount := counts.failCount + 1 })

/-- The tokens and the counts after the choices made for the voices of a provider are saved. -/
def saveVoices (provider : ProviderViewModel) (choices : List (VoiceViewModel × VoiceChoice))
    (tokens : TokensKey) : TokensKey × SaveCounts :=
  choices.foldl (saveVoice fold cultures provider) (tokens, {})

/-- The content of the token of a voice: the values of its key and of the keys below it. -/
def tokenContent (tokens : TokensKey) (provider : ProviderViewModel) (voice : VoiceViewModel) :
    RegistryPath → Option RegistryValues :=
  tokens.subtree (keyPath fold (tokenName provider voice))

end Save

/-- Neither of two paths lies above the other, and they differ. -/
def Apart (first second : RegistryPath) : Prop := ¬first <+: second ∧ ¬second <+: first

instance (first second : RegistryPath) : Decidable (Apart first second) :=
  inferInstanceAs (Decidable (_ ∧ _))

/-! ## What is left alone -/

def RegistryCall.path : RegistryCall → RegistryPath
  | .createSubKey path => path
  | .setValue path _ _ => path

section Frame

variable {fold : Char → Char} {cultures : String → Option String} {tokens : TokensKey}
  {path other : RegistryPath} {provider : ProviderViewModel} {voice : VoiceViewModel}

/-- A call leaves the subtrees alone that its path is not in. -/
theorem RegistryCall.subtree_apply {call : RegistryCall} (outside : ¬other <+: call.path) :
    (call.apply tokens).subtree other = tokens.subtree other := by
  cases call with
  | createSubKey path => exact KeyTree.subtree_create _ outside
  | setValue path name value => exact KeyTree.subtree_update _ outside

theorem path_of_mem_registerCalls {call : RegistryCall}
    (member : call ∈ RegistryManager.registerCalls fold cultures path provider voice) :
    call.path = [] ∨ call.path = path ∨ ∃ below, call.path = path ++ [below] := by
  simp only [RegistryManager.registerCalls, List.mem_cons, List.not_mem_nil, or_false] at member
  rcases member with rfl | rfl | rfl | rfl | rfl | rfl | rfl | rfl | rfl | rfl | rfl | rfl | rfl <;>
    simp [RegistryCall.path]

/-- Registration leaves the subtrees alone that are apart from its token. -/
theorem subtree_registerVoiceToken (apart : Apart other path) (below : other ≠ [])
    (completed : ℕ) :
    (RegistryManager.registerVoiceToken fold cultures tokens path provider voice
      completed).1.subtree other = tokens.subtree other := by
  have outside : ∀ call ∈ (RegistryManager.registerCalls fold cultures path provider voice).take
      completed, ¬other <+: call.path := by
    intro call member above
    rcases path_of_mem_registerCalls (List.mem_of_mem_take member) with root | same | ⟨last, longer⟩
    · rw [root] at above
      exact below (List.prefix_nil.mp above)
    · rw [same] at above
      exact apart.1 above
    · rw [longer] at above
      rcases List.prefix_concat_iff.mp above with rfl | above
      · exact apart.2 (List.prefix_append path [last])
      · exact apart.1 above
  rw [RegistryManager.registerVoiceToken]
  generalize (RegistryManager.registerCalls fold cultures path provider voice).take completed =
    calls at outside
  induction calls generalizing tokens with
  | nil => rfl
  | cons call calls ih =>
      have others := fun other member => outside other (List.mem_cons_of_mem call member)
      exact (ih others).trans (RegistryCall.subtree_apply (outside call List.mem_cons_self))

theorem subtree_unregisterVoiceToken (apart : Apart other path)
    (failed : Option (List RegistryPath)) :
    (RegistryManager.unregisterVoiceToken tokens path failed).1.subtree other =
      tokens.subtree other := by
  cases failed with
  | none =>
      simp only [RegistryManager.unregisterVoiceToken]
      split
      · exact KeyTree.subtree_removeTree apart.1 apart.2
      · rfl
  | some deleted =>
      simp only [RegistryManager.unregisterVoiceToken]
      induction deleted generalizing tokens with
      | nil => rfl
      | cons below deleted ih =>
          refine ih.trans (KeyTree.subtree_removeTree ?_ ?_)
          · intro above
            rcases List.prefix_or_prefix_of_prefix above (List.prefix_append path below) with h | h
            · exact apart.1 h
            · exact apart.2 h
          · intro above
            exact apart.2 ((List.prefix_append path below).trans above)

/-- A token name begins with a letter, so it stands for a key below the Tokens key. -/
theorem keyPath_tokenName_ne_nil (fold : Char → Char) (provider : ProviderViewModel)
    (voice : VoiceViewModel) : keyPath fold (tokenName provider voice) ≠ [] := by
  obtain ⟨rest, name⟩ : ∃ rest, (tokenName provider voice).takeWhile (· != '\x00') = 'M' :: rest :=
    ⟨_, rfl⟩
  have first : ∃ segment segments, ('M' :: rest).splitOn '\\' = ('M' :: segment) :: segments := by
    cases split : rest.splitOn '\\' with
    | nil => exact absurd split (List.splitOnP_ne_nil _ rest)
    | cons segment segments =>
        refine ⟨segment, segments, ?_⟩
        rw [List.splitOn] at split
        rw [List.splitOn, List.splitOnP_cons_eq_if_modifyHead, if_neg (by decide), split]
        rfl
  obtain ⟨segment, segments, split⟩ := first
  rw [keyPath, name, split]
  simp

/-- **Saving leaves a token alone that is apart from those saved**, by induction on the
voices. -/
theorem subtree_saveVoices {choices : List (VoiceViewModel × VoiceChoice)} (below : other ≠ [])
    (apart : ∀ choice ∈ choices, Apart other (keyPath fold (tokenName provider choice.1)))
    (counts : SaveCounts) :
    (choices.foldl (saveVoice fold cultures provider) (tokens, counts)).1.subtree other =
      tokens.subtree other := by
  induction choices generalizing tokens counts with
  | nil => rfl
  | cons choice choices ih =>
      have here := apart choice List.mem_cons_self
      have others := fun other member => apart other (List.mem_cons_of_mem choice member)
      obtain ⟨voice, choice⟩ := choice
      cases choice with
      | register completed =>
          exact (ih others _).trans (subtree_registerVoiceToken here below completed)
      | unregister failed => exact (ih others _).trans (subtree_unregisterVoiceToken here failed)

end Frame

/-! ## What is changed -/

section Change

variable {fold : Char → Char} {cultures : String → Option String} {tokens : TokensKey}
  {path other : RegistryPath} {provider : ProviderViewModel}

theorem isSome_foldl_apply (calls : List RegistryCall) {tokens : TokensKey}
    (exists_ : (tokens.key other).isSome = true) :
    ((calls.foldl RegistryCall.apply tokens).key other).isSome = true := by
  induction calls generalizing tokens with
  | nil => exact exists_
  | cons call calls ih =>
      apply ih
      cases call with
      | createSubKey path => exact KeyTree.isSome_create_of_isSome _ exists_
      | setValue path name value => exact (KeyTree.isSome_update _ other).trans exists_

/-- Registering creates the key of the token when all calls succeed. -/
theorem isSome_registerVoiceToken (voice : VoiceViewModel) :
    ((RegistryManager.registerVoiceToken fold cultures tokens path provider voice
      13).1.key path).isSome = true := by
  have created : (((tokens.create (fun _ => none) []).create (fun _ => none) path).key
      path).isSome = true := KeyTree.isSome_create _ (List.prefix_refl path)
  exact isSome_foldl_apply
    ((RegistryManager.registerCalls fold cultures path provider voice).drop 2) created

/-- Unregistering creates no key, and deletes those below the token. -/
theorem key_unregisterVoiceToken (gone : path <+: other ∨ tokens.key other = none) :
    (RegistryManager.unregisterVoiceToken tokens path none).1.key other = none := by
  rw [RegistryManager.unregisterVoiceToken]
  simp only
  split
  · rcases gone with within | missing
    · exact KeyTree.key_removeTree within
    · exact KeyTree.key_removeTree_of_none missing
  · next noRoot =>
      cases missing : tokens.key other with
      | none => rfl
      | some values =>
          refine absurd (tokens.isSome_of_prefix (List.nil_prefix (l := other)) ?_) noRoot
          rw [missing]
          rfl

/-- All voices are registered: no key is missing that was there or is the token of one. -/
theorem isSome_registerAll (provider : ProviderViewModel) {voices : List VoiceViewModel}
    (counts : SaveCounts) (exists_ : (tokens.key other).isSome = true ∨
      ∃ voice ∈ voices, keyPath fold (tokenName provider voice) = other) :
    (((voices.map fun voice => (voice, VoiceChoice.register 13)).foldl
      (saveVoice fold cultures provider) (tokens, counts)).1.key other).isSome = true := by
  induction voices generalizing tokens counts with
  | nil =>
      rcases exists_ with exists_ | ⟨voice, member, -⟩
      · exact exists_
      · cases member
  | cons voice voices ih =>
      apply ih
      rcases exists_ with exists_ | ⟨saved, member, same⟩
      · exact .inl (isSome_foldl_apply _ exists_)
      · rcases List.mem_cons.mp member with rfl | later
        · refine .inl ?_
          rw [← same]
          exact isSome_registerVoiceToken saved
        · exact .inr ⟨saved, later, same⟩

/-- All voices are unregistered: no key is there that was missing or is below a token. -/
theorem key_unregisterAll (provider : ProviderViewModel) {voices : List VoiceViewModel}
    (counts : SaveCounts)
    (gone : (∃ voice ∈ voices, keyPath fold (tokenName provider voice) <+: other) ∨
      tokens.key other = none) :
    ((voices.map fun voice => (voice, VoiceChoice.unregister none)).foldl
      (saveVoice fold cultures provider) (tokens, counts)).1.key other = none := by
  induction voices generalizing tokens counts with
  | nil =>
      rcases gone with ⟨voice, member, -⟩ | missing
      · cases member
      · exact missing
  | cons voice voices ih =>
      apply ih
      rcases gone with ⟨saved, member, within⟩ | missing
      · rcases List.mem_cons.mp member with rfl | later
        · exact .inr (key_unregisterVoiceToken (.inl within))
        · exact .inl ⟨saved, later, within⟩
      · exact .inr (key_unregisterVoiceToken (.inr missing))

end Change

/-- **When saving touches only the voices that are saved.** The token of a voice keeps its
content whatever is chosen for the voices of a provider, however the calls go and whatever the
registry holds, if and only if its path is apart from the path of each of them. The other voice
may be of another provider or of the same one. -/
theorem tokens_unchanged_iff (fold : Char → Char) (cultures : String → Option String)
    (provider other : ProviderViewModel) (voices : List VoiceViewModel) (voice : VoiceViewModel) :
    (∀ (tokens : TokensKey) (choices : List (VoiceViewModel × VoiceChoice)),
        choices.map Prod.fst = voices →
          tokenContent fold (saveVoices fold cultures provider choices tokens).1 other voice =
            tokenContent fold tokens other voice) ↔
      ∀ saved ∈ voices, Apart (keyPath fold (tokenName other voice))
        (keyPath fold (tokenName provider saved)) := by
  constructor
  · intro unchanged saved member
    constructor
    · rintro ⟨rest, below⟩
      -- registering all voices creates a key below the token, or the token itself
      have same := unchanged KeyTree.empty (voices.map fun voice => (voice, .register 13))
        (by simp [Function.comp_def])
      have created : ((saveVoices fold cultures provider (voices.map fun voice =>
          (voice, .register 13)) KeyTree.empty).1.key
            (keyPath fold (tokenName provider saved))).isSome = true :=
        isSome_registerAll provider {} (.inr ⟨saved, member, rfl⟩)
      have kept := congrFun same rest
      rw [tokenContent, tokenContent, KeyTree.subtree, KeyTree.subtree, below] at kept
      rw [kept] at created
      cases created
    · intro above
      -- unregistering all voices deletes the token
      have created := KeyTree.empty.isSome_create (fun _ => none : RegistryValues)
        (List.prefix_refl (keyPath fold (tokenName other voice)))
      generalize KeyTree.empty.create (fun _ => none : RegistryValues)
        (keyPath fold (tokenName other voice)) = tokens at created
      have same := unchanged tokens (voices.map fun voice => (voice, .unregister none))
        (by simp [Function.comp_def])
      have deleted : (saveVoices fold cultures provider (voices.map fun voice =>
          (voice, .unregister none)) tokens).1.key (keyPath fold (tokenName other voice)) = none :=
        key_unregisterAll provider {} (.inl ⟨saved, member, above⟩)
      have kept := congrFun same []
      rw [tokenContent, tokenContent, KeyTree.subtree, KeyTree.subtree, List.append_nil,
        deleted] at kept
      rw [← kept] at created
      cases created
  · intro apart tokens choices chosen
    refine subtree_saveVoices (keyPath_tokenName_ne_nil fold other voice) ?_ {}
    intro choice member
    apply apart
    rw [← chosen]
    exact List.mem_map_of_mem member

/-! ## Ids whose tokens are apart -/

section Names

variable {fold : Char → Char} {provider other : ProviderViewModel} {voice voice' : VoiceViewModel}

/-- A name without backslashes and NULs is the name of one key. -/
theorem keyPath_of_plain {name : List Char} (something : name ≠ []) (backslash : '\\' ∉ name)
    (nul : '\x00' ∉ name) : keyPath fold name = [name.map fold] := by
  have whole : name.takeWhile (· != '\x00') = name := by
    rw [List.takeWhile_eq_self_iff]
    intro char member
    rw [bne_iff_ne]
    rintro rfl
    exact nul member
  rw [keyPath, whole, List.splitOn_eq_singleton backslash, List.filter_cons_of_pos (by simpa)]
  rfl

/-- Two ids joined with an underscore are two others joined so when they are the same ids, or
when one of the underscores is inside an id. -/
theorem joined_eq_iff {first second first' second' : List Char} :
    first ++ '_' :: second = first' ++ '_' :: second' ↔
      (first = first' ∧ second = second') ∨
        (∃ between, first' = first ++ '_' :: between ∧ second = between ++ '_' :: second') ∨
          ∃ between, first = first' ++ '_' :: between ∧ second' = between ++ '_' :: second := by
  rw [List.append_eq_append_iff]
  constructor
  · rintro (⟨more, longer, rest⟩ | ⟨more, longer, rest⟩)
    · cases more with
      | nil =>
          rw [List.append_nil] at longer
          exact .inl ⟨longer.symm, (List.cons.inj rest).2⟩
      | cons char more =>
          rw [List.cons_append, List.cons.injEq] at rest
          obtain ⟨rfl, rest⟩ := rest
          exact .inr (.inl ⟨more, longer, rest⟩)
    · cases more with
      | nil =>
          rw [List.append_nil] at longer
          exact .inl ⟨longer, (List.cons.inj rest).2.symm⟩
      | cons char more =>
          rw [List.cons_append, List.cons.injEq] at rest
          obtain ⟨rfl, rest⟩ := rest
          exact .inr (.inr ⟨more, longer, rest⟩)
  · rintro (⟨rfl, rfl⟩ | ⟨between, rfl, rfl⟩ | ⟨between, rfl, rfl⟩)
    · exact .inl ⟨[], by simp, by simp⟩
    · exact .inl ⟨'_' :: between, rfl, rfl⟩
    · exact .inr ⟨'_' :: between, rfl, rfl⟩

/-- **Ids without backslashes and NULs collide only when their joined names are one**, apart
from case. -/
theorem apart_iff_of_plain
    (plain : ∀ char ∈ provider.providerId ++ voice.voiceId, char ≠ '\\' ∧ char ≠ '\x00')
    (plain' : ∀ char ∈ other.providerId ++ voice'.voiceId, char ≠ '\\' ∧ char ≠ '\x00') :
    Apart (keyPath fold (tokenName provider voice)) (keyPath fold (tokenName other voice')) ↔
      (provider.providerId ++ '_' :: voice.voiceId).map fold ≠
        (other.providerId ++ '_' :: voice'.voiceId).map fold := by
  have single : ∀ (provider : ProviderViewModel) (voice : VoiceViewModel),
      (∀ char ∈ provider.providerId ++ voice.voiceId, char ≠ '\\' ∧ char ≠ '\x00') →
        keyPath fold (tokenName provider voice) = [(tokenName provider voice).map fold] := by
    intro provider voice plain
    refine keyPath_of_plain (by simp [tokenName]) ?_ ?_
    · intro member
      have inside : '\\' ∈ provider.providerId ++ voice.voiceId := by
        simpa [tokenName] using member
      exact (plain _ inside).1 rfl
    · intro member
      have inside : '\x00' ∈ provider.providerId ++ voice.voiceId := by
        simpa [tokenName] using member
      exact (plain _ inside).2 rfl
  rw [single provider voice plain, single other voice' plain', Apart, tokenName, tokenName]
  simp [List.cons_prefix_cons, eq_comm]

/-- Ids of providers without underscores keep the tokens of different voices apart. -/
theorem apart_iff_of_whole (underscore : fold '_' = '_')
    (plain : ∀ char ∈ provider.providerId ++ voice.voiceId, char ≠ '\\' ∧ char ≠ '\x00')
    (plain' : ∀ char ∈ other.providerId ++ voice'.voiceId, char ≠ '\\' ∧ char ≠ '\x00')
    (whole : '_' ∉ provider.providerId.map fold) (whole' : '_' ∉ other.providerId.map fold) :
    Apart (keyPath fold (tokenName provider voice)) (keyPath fold (tokenName other voice')) ↔
      ¬(provider.providerId.map fold = other.providerId.map fold ∧
        voice.voiceId.map fold = voice'.voiceId.map fold) := by
  rw [apart_iff_of_plain plain plain', List.map_append, List.map_append, List.map_cons,
    List.map_cons, underscore, ne_eq, joined_eq_iff]
  refine not_congr ⟨?_, .inl⟩
  rintro (same | ⟨between, longer, -⟩ | ⟨between, longer, -⟩)
  · exact same
  · exact absurd (by simp [longer]) whole'
  · exact absurd (by simp [longer]) whole

end Names

/-- Provider `A` with a voice `B_C` and provider `A_B` with a voice `C`. -/
def collidingProvider : ProviderViewModel := { providerId := ['A'] }

def collidingVoice : VoiceViewModel := { voiceId := ['B', '_', 'C'] }

def otherProvider : ProviderViewModel := { providerId := ['A', '_', 'B'] }

def otherVoice : VoiceViewModel := { voiceId := ['C'] }

/-- Unregistering the voice of the first provider deletes the token of the second one. -/
theorem token_deleted :
    let tokens := KeyTree.empty.create (fun _ => none : RegistryValues)
      (keyPath id (tokenName otherProvider otherVoice))
    (tokenContent id tokens otherProvider otherVoice []).isSome = true ∧
      (tokenContent id (saveVoices id (fun _ => none) collidingProvider
        [(collidingVoice, .unregister none)] tokens).1 otherProvider otherVoice []).isSome =
          false := by
  decide

end ModernSapi
