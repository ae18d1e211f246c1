import ModernSapi.Manager.VoiceTokens

/-!
# What the uninstaller leaves

Every token that `RegistryManager` creates has a name that begins with the prefix of the
adapter, whatever the ids of the provider and of the voice. `RemoveAllAdapterRegistryKeys`
deletes the uninstall key, lists the keys below the Tokens key and deletes those whose names
begin so. What throws on the way ends it.

`uninstall_undoes_saves`: of any history of saves nothing is left, and no other key below the
Tokens key is touched.
-/

set_option autoImplicit false

namespace ModernSapi

open KeyTrees

/-- What the tokens of the adapter begin with. -/
def adapterPrefix : List Char := ['M', 'S', 'A', '_']

/-- The path lies at or below a key whose name begins with the prefix. -/
def IsAdapterPath (fold : Char → Char) (path : RegistryPath) : Prop :=
  ∃ segment ∈ path.head?, adapterPrefix.map fold <+: segment

/-- The names of the keys below the Tokens key, as `GetSubKeyNames` lists them. -/
structure SubKeyNames (fold : Char → Char) (tokens : TokensKey) (names : List (List Char)) :
    Prop where
  plain : ∀ name ∈ names, name ≠ [] ∧ '\\' ∉ name ∧ '\x00' ∉ name
  listed : ∀ segment,
    (tokens.key [segment]).isSome = true ↔ ∃ name ∈ names, name.map fold = segment

/-- The uninstall key of the adapter, with the keys below it, and the tokens. The path of the
uninstall key is empty. -/
structure AdapterKeys where
  uninstall : KeyTree (List Char) RegistryValues
  tokens : TokensKey

/-- How the calls of `RemoveAllAdapterRegistryKeys` go. A `DeleteSubKeyTree` that throws has
deleted some of the keys below its own. -/
structure RemovalCalls where
  uninstallKeyFails : Option (List RegistryPath) := none
  /-- The Tokens key cannot be opened, or its subkeys not be listed. -/
  listingFails : Bool := false
  tokenFails : List Char → Option (List RegistryPath) := fun _ => none

/-- No call throws. -/
structure RemovalCalls.Succeed (calls : RemovalCalls) (names : List (List Char)) : Prop where
  uninstallKey : calls.uninstallKeyFails = none
  listing : calls.listingFails = false
  tokens : ∀ name ∈ names, calls.tokenFails name = none

namespace RegistryManager

/-- What a `DeleteSubKeyTree` has deleted when it throws. -/
def deletePartly (keys : KeyTree (List Char) RegistryValues) (path : RegistryPath)
    (deleted : List RegistryPath) : KeyTree (List Char) RegistryValues :=
  deleted.foldl (fun keys below => keys.removeTree (path ++ below)) keys

/-- The loop over the subkeys. A `DeleteSubKeyTree` that throws ends it. -/
def deleteAdapterTokens (fold : Char → Char) (fails : List Char → Option (List RegistryPath)) :
    List (List Char) → TokensKey → TokensKey
  | [], tokens => tokens
  | subKeyName :: rest, tokens =>
      if adapterPrefix.map fold <+: subKeyName.map fold then
        match fails subKeyName with
        | none => deleteAdapterTokens fold fails rest (tokens.removeTree (keyPath fold subKeyName))
        | some deleted => deletePartly tokens (keyPath fold subKeyName) deleted
      else deleteAdapterTokens fold fails rest tokens

/-- The tokens are deleted behind the uninstall key. A missing Tokens key has nothing to
delete. -/
def removeAllAdapterRegistryKeys (fold : Char → Char) (calls : RemovalCalls)
    (subKeyNames : List (List Char)) (keys : AdapterKeys) : AdapterKeys :=
  match calls.uninstallKeyFails with
  | some deleted => { keys with uninstall := deletePartly keys.uninstall [] deleted }
  | none =>
      let keys := { keys with uninstall := keys.uninstall.removeTree [] }
      if !calls.listingFails && (keys.tokens.key []).isSome then
        { keys with tokens := deleteAdapterTokens fold calls.tokenFails subKeyNames keys.tokens }
      else keys

end RegistryManager

/-- The tokens after a history of saves. -/
def savedTokens (fold : Char → Char) (cultures : String → Option String)
    (saves : List (ProviderViewModel × List (VoiceViewModel × VoiceChoice))) (tokens : TokensKey) :
    TokensKey :=
  saves.foldl (fun tokens save => (saveVoices fold cultures save.1 save.2 tokens).1) tokens

section Uninstall

variable {fold : Char → Char} {cultures : String → Option String} {tokens : TokensKey}
  {path other : RegistryPath} {fails : List Char → Option (List RegistryPath)}

/-- The first part of a name begins as the name does. -/
theorem splitOn_append {front : List Char} (plain : '\\' ∉ front) (rest : List Char) :
    ∃ segment segments, (front ++ rest).splitOn '\\' = (front ++ segment) :: segments := by
  induction front with
  | nil =>
      cases split : rest.splitOn '\\' with
      | nil => exact absurd split (List.splitOnP_ne_nil _ rest)
      | cons segment segments => exact ⟨segment, segments, split⟩
  | cons char front ih =>
      obtain ⟨segment, segments, split⟩ := ih fun member => plain (List.mem_cons_of_mem _ member)
      have other : ¬(char == '\\') = true := by
        rw [beq_iff_eq]
        rintro rfl
        exact plain List.mem_cons_self
      refine ⟨segment, segments, ?_⟩
      rw [List.splitOn] at split ⊢
      rw [List.cons_append, List.splitOnP_cons_eq_if_modifyHead, if_neg other, split]
      rfl

/-- The tokens of the adapter lie below keys that begin with the prefix, whatever the ids. -/
theorem isAdapterPath_tokenName (provider : ProviderViewModel) (voice : VoiceViewModel) :
    IsAdapterPath fold (keyPath fold (tokenName provider voice)) := by
  have before : (tokenName provider voice).takeWhile (· != '\x00') =
      adapterPrefix ++ (provider.providerId ++ '_' :: voice.voiceId).takeWhile (· != '\x00') :=
    List.takeWhile_append_of_pos (by simp)
  obtain ⟨segment, segments, split⟩ := splitOn_append (by simp [adapterPrefix] : '\\' ∉ adapterPrefix)
    ((provider.providerId ++ '_' :: voice.voiceId).takeWhile (· != '\x00'))
  have path : keyPath fold (tokenName provider voice) =
      (adapterPrefix ++ segment).map fold :: (segments.filter (· ≠ [])).map (List.map fold) := by
    rw [keyPath, before, split, List.filter_cons_of_pos (by simp [adapterPrefix]), List.map_cons]
  rw [path, List.map_append]
  exact ⟨_, rfl, List.prefix_append _ _⟩

/-- The other paths are apart from those of the adapter. -/
theorem apart_of_isAdapterPath (below : other ≠ []) (outside : ¬IsAdapterPath fold other)
    (adapter : IsAdapterPath fold path) : Apart other path := by
  obtain ⟨segment, head, begins⟩ := adapter
  cases path with
  | nil => cases head
  | cons first path =>
      cases head
      cases other with
      | nil => exact absurd rfl below
      | cons second other =>
          have different : second ≠ segment := by
            rintro rfl
            exact outside ⟨second, rfl, begins⟩
          exact ⟨fun above => different (List.cons_prefix_cons.mp above).1,
            fun above => different (List.cons_prefix_cons.mp above).1.symm⟩

/-- Saves leave the other keys alone, by induction on the history. -/
theorem key_savedTokens (saves : List (ProviderViewModel × List (VoiceViewModel × VoiceChoice)))
    (below : other ≠ []) (outside : ¬IsAdapterPath fold other) :
    (savedTokens fold cultures saves tokens).key other = tokens.key other := by
  induction saves generalizing tokens with
  | nil => rfl
  | cons save saves ih =>
      refine ih.trans ?_
      have kept : (saveVoices fold cultures save.1 save.2 tokens).1.subtree other =
          tokens.subtree other :=
        subtree_saveVoices below (fun choice _ =>
          apart_of_isAdapterPath below outside (isAdapterPath_tokenName save.1 choice.1)) {}
      have here := congrFun kept []
      rwa [KeyTree.subtree, KeyTree.subtree, List.append_nil] at here

/-- A deletion takes what lies at or below its path, and nothing else. -/
theorem key_removeTree_of_apart (apart : Apart other path) (below : RegistryPath) :
    (tokens.removeTree (path ++ below)).key other = tokens.key other :=
  if_neg fun above => apart.2 ((List.prefix_append path below).trans above)

theorem key_deletePartly_of_apart (apart : Apart other path) (deleted : List RegistryPath) :
    (RegistryManager.deletePartly tokens path deleted).key other = tokens.key other := by
  induction deleted generalizing tokens with
  | nil => rfl
  | cons first deleted ih => exact ih.trans (key_removeTree_of_apart apart first)

/-- The uninstaller leaves the other keys alone, however far it gets. -/
theorem key_deleteAdapterTokens {names : List (List Char)}
    (plain : ∀ name ∈ names, name ≠ [] ∧ '\\' ∉ name ∧ '\x00' ∉ name) (below : other ≠ [])
    (outside : ¬IsAdapterPath fold other) :
    (RegistryManager.deleteAdapterTokens fold fails names tokens).key other = tokens.key other := by
  induction names generalizing tokens with
  | nil => rfl
  | cons name names ih =>
      obtain ⟨something, backslash, nul⟩ := plain name List.mem_cons_self
      have rest : ∀ {tokens : TokensKey},
          (RegistryManager.deleteAdapterTokens fold fails names tokens).key other =
            tokens.key other :=
        ih fun other member => plain other (List.mem_cons_of_mem _ member)
      rw [RegistryManager.deleteAdapterTokens]
      split
      · next begins =>
          have apart : Apart other (keyPath fold name) := by
            refine apart_of_isAdapterPath below outside ?_
            rw [keyPath_of_plain something backslash nul]
            exact ⟨_, rfl, begins⟩
          split
          · refine rest.trans ?_
            rw [← List.append_nil (keyPath fold name)]
            exact key_removeTree_of_apart apart []
          · next deleted failed => exact key_deletePartly_of_apart apart deleted
      · exact rest

/-- A key that is gone stays gone. -/
theorem deleteAdapterTokens_of_none {names : List (List Char)} (missing : tokens.key path = none)
    (succeeds : ∀ name ∈ names, fails name = none) :
    (RegistryManager.deleteAdapterTokens fold fails names tokens).key path = none := by
  induction names generalizing tokens with
  | nil => exact missing
  | cons name names ih =>
      have rest := fun {tokens : TokensKey} (missing : tokens.key path = none) =>
        ih missing fun other member => succeeds other (List.mem_cons_of_mem _ member)
      rw [RegistryManager.deleteAdapterTokens, succeeds name List.mem_cons_self]
      split
      · exact rest (KeyTree.key_removeTree_of_none missing)
      · exact rest missing

/-- The keys at and below a listed name of the adapter are deleted. -/
theorem deleteAdapterTokens_of_mem {names : List (List Char)}
    (plain : ∀ name ∈ names, name ≠ [] ∧ '\\' ∉ name ∧ '\x00' ∉ name)
    (succeeds : ∀ name ∈ names, fails name = none) {name : List Char} (member : name ∈ names)
    (begins : adapterPrefix.map fold <+: name.map fold) (within : [name.map fold] <+: path) :
    (RegistryManager.deleteAdapterTokens fold fails names tokens).key path = none := by
  induction names generalizing tokens with
  | nil => cases member
  | cons first names ih =>
      have others := fun other member => succeeds other (List.mem_cons_of_mem _ member)
      rw [RegistryManager.deleteAdapterTokens, succeeds first List.mem_cons_self]
      rcases List.mem_cons.mp member with rfl | later
      · obtain ⟨something, backslash, nul⟩ := plain name List.mem_cons_self
        rw [if_pos begins]
        refine deleteAdapterTokens_of_none (KeyTree.key_removeTree ?_) others
        rwa [keyPath_of_plain something backslash nul]
      · have rest : ∀ {tokens : TokensKey},
            (RegistryManager.deleteAdapterTokens fold fails names tokens).key path = none :=
          ih (fun other member => plain other (List.mem_cons_of_mem _ member)) others later
        split
        · exact rest
        · exact rest

/-- A key below the Tokens key is there only with the Tokens key. -/
theorem key_of_noTokens (missing : (tokens.key []).isSome = false) (path : RegistryPath) :
    tokens.key path = none := by
  cases found : tokens.key path with
  | none => rfl
  | some values =>
      have above := tokens.isSome_of_prefix (List.nil_prefix (l := path)) (by rw [found]; rfl)
      rw [missing] at above
      cases above

/-- The keys of the adapter are gone when every listed one was deleted. -/
theorem deleteAdapterTokens_of_listed {names : List (List Char)}
    (listed : SubKeyNames fold tokens names) (succeeds : ∀ name ∈ names, fails name = none)
    (adapter : IsAdapterPath fold path) :
    (RegistryManager.deleteAdapterTokens fold fails names tokens).key path = none := by
  cases found : tokens.key path with
  | none => exact deleteAdapterTokens_of_none found succeeds
  | some values =>
      obtain ⟨segment, head, begins⟩ := adapter
      have within : [segment] <+: path := by
        cases path with
        | nil => cases head
        | cons first rest =>
            cases head
            exact ⟨rest, rfl⟩
      obtain ⟨name, member, rfl⟩ := (listed.listed segment).mp
        (KeyTree.isSome_of_prefix _ within (by rw [found]; rfl))
      exact deleteAdapterTokens_of_mem listed.plain succeeds member begins within

/-- **The uninstaller undoes every save, and touches no other key below the Tokens key.**
Whatever voices of whatever providers were registered and unregistered, and however the calls
went, the keys below the Tokens key whose names do not begin as those of the adapter are as they
were before the first save. If no call of the uninstaller throws, no key is left whose name
does, nor the uninstall key. If the deletion of that one throws, the tokens all stay. -/
theorem uninstall_undoes_saves (calls : RemovalCalls) (uninstall : KeyTree (List Char) RegistryValues)
    (saves : List (ProviderViewModel × List (VoiceViewModel × VoiceChoice)))
    {names : List (List Char)}
    (listed : SubKeyNames fold (savedTokens fold cultures saves tokens) names) :
    let saved := savedTokens fold cultures saves tokens
    let after := RegistryManager.removeAllAdapterRegistryKeys fold calls names
      { uninstall, tokens := saved }
    (∀ path, path ≠ [] → ¬IsAdapterPath fold path → after.tokens.key path = tokens.key path) ∧
      (calls.Succeed names →
        (∀ path, IsAdapterPath fold path → after.tokens.key path = none) ∧
          ∀ path, after.uninstall.key path = none) ∧
      (calls.uninstallKeyFails ≠ none → after.tokens = saved) := by
  intro saved after
  refine ⟨?_, ?_, ?_⟩
  · intro path below outside
    have kept : saved.key path = tokens.key path := key_savedTokens saves below outside
    rw [← kept]
    simp only [after, RegistryManager.removeAllAdapterRegistryKeys]
    split
    · rfl
    · split
      · exact key_deleteAdapterTokens listed.plain below outside
      · rfl
  · rintro ⟨uninstallKey, listing, succeeds⟩
    simp only [after, RegistryManager.removeAllAdapterRegistryKeys, uninstallKey, listing,
      Bool.not_false, Bool.true_and]
    split
    · exact ⟨fun path => deleteAdapterTokens_of_listed listed succeeds,
        fun path => KeyTree.key_removeTree List.nil_prefix⟩
    · next missing =>
        exact ⟨fun path _ => key_of_noTokens (Bool.eq_false_iff.mpr missing) path,
          fun path => KeyTree.key_removeTree List.nil_prefix⟩
  · intro failed
    obtain ⟨deleted, failed⟩ := Option.ne_none_iff_exists'.mp failed
    simp only [after, RegistryManager.removeAllAdapterRegistryKeys, failed]

end Uninstall

/-- A save whose registration throws once it has created the token. -/
def partialSave : List (ProviderViewModel × List (VoiceViewModel × VoiceChoice)) :=
  [(collidingProvider, [(collidingVoice, .register 2)])]

def partialName : List Char := ['M', 'S', 'A', '_', 'A', '_', 'B', '_', 'C']

/-- The Tokens key with a token that is not of the adapter. -/
def foreignTokens : TokensKey := KeyTree.empty.create (fun _ => none) [['X']]

theorem savedTokens_partialSave : savedTokens id (fun _ => none) partialSave foreignTokens =
    (foreignTokens.create (fun _ => none) []).create (fun _ => none) [partialName] := rfl

theorem subKeyNames_partialSave :
    SubKeyNames id (savedTokens id (fun _ => none) partialSave foreignTokens)
      [['X'], partialName] := by
  refine ⟨by decide, fun segment => ?_⟩
  rw [savedTokens_partialSave]
  simp only [foreignTokens, KeyTree.create, KeyTree.empty, List.prefix_nil, List.cons_ne_nil,
    if_false, List.cons_prefix_cons, and_true, List.map_id_fun, id_eq, List.mem_cons,
    List.not_mem_nil, or_false, exists_eq_or_imp, exists_eq_left]
  by_cases saved : segment = partialName
  · simp [saved]
  · by_cases foreign : segment = ['X']
    · simp [foreign]
    · simp [saved, foreign, Ne.symm saved, Ne.symm foreign]

theorem uninstall_undoes_saves_partialSave :
    let saved := savedTokens id (fun _ => none) partialSave foreignTokens
    let after := RegistryManager.removeAllAdapterRegistryKeys id {} [['X'], partialName]
      { uninstall := KeyTree.empty.create (fun _ => none) [], tokens := saved }
    (saved.key [partialName]).isSome = true ∧ after.tokens.key [partialName] = none ∧
      after.uninstall.key [] = none ∧ (after.tokens.key [['X']]).isSome = true := by
  obtain ⟨kept, undone, -⟩ := uninstall_undoes_saves {} (KeyTree.empty.create (fun _ => none) [])
    partialSave subKeyNames_partialSave
  obtain ⟨tokens, uninstall⟩ := undone ⟨rfl, rfl, fun _ _ => rfl⟩
  have outside : ¬IsAdapterPath id [['X']] := by
    rintro ⟨_, ⟨⟩, begins⟩
    exact absurd begins (by decide)
  refine ⟨by decide, tokens _ ⟨_, rfl, by decide⟩, uninstall _, ?_⟩
  rw [kept _ (by decide) outside]
  decide

end ModernSapi
