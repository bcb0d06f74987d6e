import MediaMasterr.Mie.IdentityCenter

/-! # Canonical providers

When the list and the detail of the identity center agree. An action only adds to the
history, from which neither view takes the provider that the user chose; so both
report it only where there is no other provider to choose. -/

namespace MediaMasterr.Mie.IdentityCenter

open MediaMasterr.Foundations MediaMasterr.Database MediaMasterr.Playback OperationsService

/-! ## Actions -/

section Actions

variable {t : PythonText.CaseTables} {w w' : IdentityWorld}

theorem fetchTarget_eq_ok_iff {mediaType : MediaType} {mediaId : Nat}
    {asset : Option IdentityAsset} :
    fetchTarget w mediaType mediaId = .ok asset ↔ targetRows w mediaType mediaId = [asset] := by
  unfold fetchTarget
  split <;> simp_all

/-- What an action can do: it adds rows to the history. -/
theorem handle_eq_ok {action : IdentityAction} (h : handle w action = .ok w') :
    ∃ rows, w' = w.record rows := by
  have hsame : w = w.record [] := by simp [IdentityWorld.record]
  cases action with
  | setCanonicalProvider mediaType mediaId provider reason =>
    cases hfetch : fetchTarget w mediaType mediaId with
    | error e => simp [handle, hfetch, bind, Except.bind] at h
    | ok asset =>
      simp only [handle, hfetch, bind, Except.bind, pure, Except.pure] at h
      exact ⟨_, (Except.ok.inj h).symm⟩
  | setArtworkProvider mediaType mediaId field provider reason =>
    cases hfetch : fetchTarget w mediaType mediaId with
    | error e => simp [handle, hfetch, bind, Except.bind] at h
    | ok asset =>
      simp only [handle, hfetch, bind, Except.bind, pure, Except.pure] at h
      exact ⟨_, (Except.ok.inj h).symm⟩
  | upsertOverride mediaType mediaId field value scope reason =>
    cases hfetch : fetchTarget w mediaType mediaId with
    | error e => simp [handle, hfetch, bind, Except.bind] at h
    | ok asset =>
      simp only [handle, hfetch, bind, Except.bind, pure, Except.pure] at h
      split_ifs at h
      · exact ⟨_, (Except.ok.inj h).symm⟩
      · exact ⟨[], (Except.ok.inj h).symm.trans hsame⟩
  | startSync => exact ⟨_, (Except.ok.inj h).symm⟩

theorem run_eq_record (w : IdentityWorld) (actions : List IdentityAction) :
    ∃ rows, run w actions = w.record rows := by
  induction actions generalizing w with
  | nil => exact ⟨[], by simp [run, IdentityWorld.record]⟩
  | cons action actions ih =>
    rw [run, List.foldl_cons, ← run]
    cases hstep : handle w action with
    | error e => exact ih w
    | ok w' =>
      obtain ⟨rows, rfl⟩ := handle_eq_ok hstep
      obtain ⟨more, hmore⟩ := ih (w.record rows)
      refine ⟨rows ++ more, hmore.trans ?_⟩
      simp [IdentityWorld.record]

/-- A choice that is accepted is the last one. -/
theorem lastChoice_setCanonicalProvider {mediaType : MediaType} {mediaId : Nat}
    {asset : Option IdentityAsset} {provider : String}
    (h : targetRows w mediaType mediaId = [asset]) :
    lastChoice (run w [.setCanonicalProvider mediaType mediaId provider none]).history mediaType
      mediaId = some provider := by
  have hstep : run w [.setCanonicalProvider mediaType mediaId provider none] =
      w.record [targetRow "identity_set_canonical" mediaType mediaId
        [("provider", some provider), ("reason", none)]] := by
    simp [run, handle, fetchTarget_eq_ok_iff.mpr h, bind, Except.bind, pure, Except.pure]
  rw [hstep, lastChoice, IdentityWorld.record]
  simp [targetRow]

end Actions

/-! ## The views of one movie or series -/

section Views

variable {t : PythonText.CaseTables} {w : IdentityWorld} {mediaType : MediaType} {mediaId : Nat}
    {asset : Option IdentityAsset}

theorem mem_workspaceItems {item : IdentityWorkspaceItem} (h : item ∈ workspaceItems t w) :
    ∃ found ∈ targetRows w item.mediaType item.mediaId, ∃ title identifierStatus metadataStatus,
      item = workspaceItem t w item.mediaType item.mediaId title found identifierStatus
        metadataStatus := by
  rcases List.mem_append.mp h with hmovie | hseries
  · obtain ⟨⟨movie, found⟩, hrow, rfl⟩ := List.mem_map.mp hmovie
    exact ⟨found, List.mem_map.mpr ⟨_, List.mem_filter.mpr ⟨hrow, decide_eq_true rfl⟩, rfl⟩,
      _, _, _, rfl⟩
  · obtain ⟨⟨series, found⟩, hrow, rfl⟩ := List.mem_map.mp hseries
    exact ⟨found, List.mem_map.mpr ⟨_, List.mem_filter.mpr ⟨hrow, decide_eq_true rfl⟩, rfl⟩,
      _, _, _, rfl⟩

theorem exists_mem_workspaceItems (h : asset ∈ targetRows w mediaType mediaId) :
    ∃ title identifierStatus metadataStatus,
      workspaceItem t w mediaType mediaId title asset identifierStatus metadataStatus ∈
        workspaceItems t w := by
  cases mediaType with
  | movie =>
    obtain ⟨⟨movie, found⟩, hrow, rfl⟩ := List.mem_map.mp h
    obtain ⟨hmem, hid⟩ := List.mem_filter.mp hrow
    obtain rfl : movie.id = mediaId := of_decide_eq_true hid
    exact ⟨_, _, _, List.mem_append_left _ (List.mem_map.mpr ⟨_, hmem, rfl⟩)⟩
  | series =>
    obtain ⟨⟨series, found⟩, hrow, rfl⟩ := List.mem_map.mp h
    obtain ⟨hmem, hid⟩ := List.mem_filter.mp hrow
    obtain rfl : series.id = mediaId := of_decide_eq_true hid
    exact ⟨_, _, _, List.mem_append_right _ (List.mem_map.mpr ⟨_, hmem, rfl⟩)⟩

/-- The rows of the index are among those that the detail selects. -/
theorem matchIndex_sublist (w : IdentityWorld) (mediaType : MediaType) (mediaId : Nat) :
    (matchIndex w mediaType mediaId).Sublist (matchRows w mediaType mediaId) := by
  apply List.monotone_filter_right
  intro row hrow
  simp only [decide_eq_true_eq] at hrow ⊢
  refine ⟨hrow.1, ?_⟩
  cases hkind : row.mediaType with
  | movie => exact Or.inl (by simpa [hkind] using hrow.2)
  | series => exact Or.inr (by simpa [hkind] using hrow.2)

theorem conflictLevel_of_le_one {n : Nat} (h : n ≤ 1) (c : Int) : conflictLevel n c = .none :=
  if_pos h

theorem length_flagFirst (canonical : String) (providers : List IdentityProviderMatch) :
    (flagFirst canonical providers).length = providers.length := by
  unfold flagFirst
  split
  · rfl
  · split_ifs <;> rfl

theorem chooseCanonicalProvider_singleton (row : IdentityMatch) :
    chooseCanonicalProvider mediaType [row] = row.provider := by
  unfold chooseCanonicalProvider
  split_ifs with hpreferred
  · simpa using hpreferred
  · rw [firstMax, List.argmax_singleton]

theorem provider_ne_empty (row : IdentityMatch) : row.provider ≠ "" := by
  unfold IdentityMatch.provider
  cases row.sourceService <;> decide

theorem length_providerMatches (chosen : String) (rows : List IdentityMatch) :
    (providerMatches chosen rows).length = rows.length := by
  rw [providerMatches, List.length_map, List.length_mergeSort]

theorem providerMatches_eq_nil_iff {chosen : String} {rows : List IdentityMatch} :
    providerMatches chosen rows = [] ↔ rows = [] := by
  rw [← List.length_eq_zero_iff, length_providerMatches, List.length_eq_zero_iff]

/-- The views of the detail, for the providers that it settles on. -/
theorem studio_of_settled (hasset : targetRows w mediaType mediaId = [asset]) {canonical : String}
    {providers : List IdentityProviderMatch}
    (h : settleProviders t mediaType asset (matchRows w mediaType mediaId) =
      .ok (canonical, providers)) :
    ∃ detail, studio t w mediaType mediaId = .ok detail ∧ detail.canonicalProvider = canonical ∧
      detail.providers.length = providers.length ∧
      (providers.length ≤ 1 → detail.conflictLevel = .none) := by
  refine ⟨⟨canonical, flagFirst canonical providers,
    conflictLevel (max 1 (flagFirst canonical providers).length)
      (maxConfidence ((flagFirst canonical providers).map (·.confidence)))⟩, ?_, rfl,
    length_flagFirst _ _, fun hle => conflictLevel_of_le_one ?_ _⟩
  · simp only [studio, fetchTarget_eq_ok_iff.mpr hasset, bind, Except.bind, h]
    rfl
  · rw [length_flagFirst]
    exact max_le le_rfl hle

theorem settleProviders_of_matches {rows : List IdentityMatch}
    (h : rows ≠ [] ∨ sourceOf t asset = "") :
    settleProviders t mediaType asset rows = .ok (chooseCanonicalProvider mediaType rows,
      providerMatches (chooseCanonicalProvider mediaType rows) rows) := by
  unfold settleProviders
  simp only [providerMatches_eq_nil_iff]
  exact if_neg fun hboth => h.elim (· hboth.1) hboth.2

theorem settleProviders_of_source (hsource : sourceOf t asset ≠ "") :
    settleProviders t mediaType asset [] =
      (assetProvider t asset).map fun own => (sourceOf t asset, [own]) := by
  unfold settleProviders
  rw [if_pos ⟨providerMatches_eq_nil_iff.mpr rfl, hsource⟩]
  cases assetProvider t asset <;> rfl

/-- The detail of a movie or series with matches, or without a source of the artwork. -/
theorem studio_of_matches (hasset : targetRows w mediaType mediaId = [asset])
    (h : matchRows w mediaType mediaId ≠ [] ∨ sourceOf t asset = "") : ∃ detail,
      studio t w mediaType mediaId = .ok detail ∧
        detail.canonicalProvider =
          chooseCanonicalProvider mediaType (matchRows w mediaType mediaId) ∧
        detail.providers.length = (matchRows w mediaType mediaId).length ∧
        ((matchRows w mediaType mediaId).length ≤ 1 → detail.conflictLevel = .none) := by
  have hsettled := studio_of_settled hasset (settleProviders_of_matches h)
  rwa [length_providerMatches] at hsettled

/-- The artwork's source stands in for matches. -/
theorem studio_of_source (hasset : targetRows w mediaType mediaId = [asset])
    (hrows : matchRows w mediaType mediaId = []) (hsource : sourceOf t asset ≠ "")
    {own : IdentityProviderMatch} (hown : assetProvider t asset = .ok own) :
    ∃ detail, studio t w mediaType mediaId = .ok detail ∧
      detail.canonicalProvider = sourceOf t asset ∧
      detail.providers.length = 1 ∧ detail.conflictLevel = .none := by
  have hsettle : settleProviders t mediaType asset (matchRows w mediaType mediaId) =
      .ok (sourceOf t asset, [own]) := by
    rw [hrows, settleProviders_of_source hsource, hown]
    rfl
  obtain ⟨detail, hdetail, hcanonical, hlength, hconflict⟩ := studio_of_settled hasset hsettle
  exact ⟨detail, hdetail, hcanonical, hlength, hconflict le_rfl⟩

/-- Without matches the detail needs the confidence of the artwork as an int. -/
theorem studio_of_unreadable (hasset : targetRows w mediaType mediaId = [asset])
    (hrows : matchRows w mediaType mediaId = []) (hsource : sourceOf t asset ≠ "")
    {e : IdentityError} (hown : assetProvider t asset = .error e) :
    studio t w mediaType mediaId = .error e := by
  have hsettle : settleProviders t mediaType asset (matchRows w mediaType mediaId) = .error e := by
    rw [hrows, settleProviders_of_source hsource, hown]
    rfl
  simp only [studio, fetchTarget_eq_ok_iff.mpr hasset, bind, Except.bind, hsettle]

/-- The item of a movie or series with rows in the index, or without a source of the artwork. -/
theorem workspaceItem_of_matches (title identifierStatus metadataStatus : String)
    (h : matchIndex w mediaType mediaId ≠ [] ∨ sourceOf t asset = "") :
    (workspaceItem t w mediaType mediaId title asset identifierStatus
        metadataStatus).canonicalProvider =
      chooseCanonicalProvider mediaType (matchIndex w mediaType mediaId) ∧
    (workspaceItem t w mediaType mediaId title asset identifierStatus
        metadataStatus).providerCount =
      ((matchIndex w mediaType mediaId).map (·.provider)).dedup.length := by
  have hcanonical : ¬(matchIndex w mediaType mediaId = [] ∧ sourceOf t asset ≠ "") :=
    fun hboth => h.elim (· hboth.1) hboth.2
  have hproviders : ¬(((matchIndex w mediaType mediaId).map (·.provider)).dedup = [] ∧
      sourceOf t asset ≠ "") := by
    simpa using hcanonical
  exact ⟨if_neg hcanonical, congrArg List.length (if_neg hproviders)⟩

theorem workspaceItem_of_source (title identifierStatus metadataStatus : String)
    (hrows : matchIndex w mediaType mediaId = []) (hsource : sourceOf t asset ≠ "") :
    (workspaceItem t w mediaType mediaId title asset identifierStatus
        metadataStatus).canonicalProvider = sourceOf t asset ∧
    (workspaceItem t w mediaType mediaId title asset identifierStatus
        metadataStatus).providerCount = 1 := by
  refine ⟨if_pos ⟨hrows, hsource⟩, congrArg List.length (if_pos ⟨?_, hsource⟩)⟩
  simp [hrows]

theorem workspaceItem_conflictLevel {title identifierStatus metadataStatus : String}
    (h : (workspaceItem t w mediaType mediaId title asset identifierStatus
      metadataStatus).providerCount ≤ 1) :
    (workspaceItem t w mediaType mediaId title asset identifierStatus
      metadataStatus).conflictLevel = .none := conflictLevel_of_le_one h _

end Views

/-! ## Agreement -/

section Agreement

variable (t : PythonText.CaseTables) (w : IdentityWorld) (mediaType : MediaType) (mediaId : Nat)

/-- The list and the detail say the same of a movie or series. -/
def ViewsAgree : Prop :=
  ∃ detail, studio t w mediaType mediaId = .ok detail ∧
    ∀ item ∈ workspaceItems t w, item.mediaType = mediaType → item.mediaId = mediaId →
      item.canonicalProvider = detail.canonicalProvider ∧
        item.providerCount = detail.providers.length ∧ item.conflictLevel = detail.conflictLevel

/-- Both views report the provider as canonical. -/
def ReportsCanonical (provider : String) : Prop :=
  (∃ detail, studio t w mediaType mediaId = .ok detail ∧ detail.canonicalProvider = provider) ∧
    ∀ item ∈ workspaceItems t w, item.mediaType = mediaType → item.mediaId = mediaId →
      item.canonicalProvider = provider

/-- The movie or series is in the tables and not removed. -/
def IsTarget : Prop := targetRows w mediaType mediaId ≠ []

/-- The views agree on every movie and series, and after every run of actions they report the
provider that was last set, if it is among the matches. -/
structure IdentityViewsAgree : Prop where
  agree : ∀ mediaType mediaId, IsTarget w mediaType mediaId → ViewsAgree t w mediaType mediaId
  chosen : ∀ actions mediaType mediaId provider, IsTarget w mediaType mediaId →
    lastChoice (run w actions).history mediaType mediaId = some provider →
      provider ∈ (matchRows w mediaType mediaId).map (·.provider) →
        ReportsCanonical t (run w actions) mediaType mediaId provider

/-- There is no choice between providers: the movie or series has one asset and one match at most.
The match is in the index of the list, or the artwork comes from its provider; without a match,
the confidence of an artwork with a source can be read. -/
structure SingleProvider : Prop where
  one_asset : (targetRows w mediaType mediaId).length ≤ 1
  one_match : (matchRows w mediaType mediaId).length ≤ 1
  indexed : ∀ row ∈ matchRows w mediaType mediaId, row ∈ matchIndex w mediaType mediaId ∨
    ∀ asset ∈ targetRows w mediaType mediaId, sourceOf t asset = row.provider
  readable : matchRows w mediaType mediaId = [] → ∀ asset ∈ targetRows w mediaType mediaId,
    sourceOf t asset ≠ "" → ∃ own, assetProvider t asset = .ok own

variable {t w mediaType mediaId}

theorem exists_asset_of_studio {detail : IdentityStudio}
    (h : studio t w mediaType mediaId = .ok detail) :
    ∃ asset, targetRows w mediaType mediaId = [asset] := by
  cases hfetch : fetchTarget w mediaType mediaId with
  | error e => simp [studio, hfetch, bind, Except.bind] at h
  | ok asset => exact ⟨asset, fetchTarget_eq_ok_iff.mp hfetch⟩

/-- The views do not read the history for these values. -/
theorem ReportsCanonical.studio_eq {provider : String} {actions : List IdentityAction}
    (h : ReportsCanonical t (run w actions) mediaType mediaId provider) :
    ∃ detail, studio t w mediaType mediaId = .ok detail ∧ detail.canonicalProvider = provider := by
  obtain ⟨rows, hrun⟩ := run_eq_record w actions
  rw [hrun] at h
  exact h.1

/-- Matches of different providers leave one that is not canonical. -/
theorem exists_other_provider {rows : List IdentityMatch} (h : 2 ≤ rows.length)
    (hnodup : (rows.map (·.provider)).Nodup) (canonical : String) :
    ∃ row ∈ rows, row.provider ≠ canonical := by
  obtain ⟨first, rest, rfl⟩ := List.exists_cons_of_length_pos (by omega : 0 < rows.length)
  rw [List.length_cons] at h
  obtain ⟨second, rest, rfl⟩ := List.exists_cons_of_length_pos (by omega : 0 < rest.length)
  have hne : first.provider ≠ second.provider := by
    simp only [List.map_cons, List.nodup_cons, List.mem_cons, not_or] at hnodup
    exact hnodup.1.1
  by_cases hfirst : first.provider = canonical
  · exact ⟨second, by simp, fun hsecond => hne (hfirst.trans hsecond.symm)⟩
  · exact ⟨first, by simp, hfirst⟩

/-- Views that count alike count distinct providers of indexed matches, or a single match. -/
theorem matchIndex_eq_of_agree {asset : Option IdentityAsset}
    (hasset : targetRows w mediaType mediaId = [asset])
    (hrows : matchRows w mediaType mediaId ≠ []) (h : ViewsAgree t w mediaType mediaId) :
    (matchIndex w mediaType mediaId = matchRows w mediaType mediaId ∧
        ((matchRows w mediaType mediaId).map (·.provider)).Nodup) ∨
      ∃ row, matchRows w mediaType mediaId = [row] ∧ sourceOf t asset = row.provider := by
  obtain ⟨detail, hdetail, hitems⟩ := h
  obtain ⟨detail', hdetail', hcanonical, hcount, -⟩ :=
    studio_of_matches (t := t) hasset (Or.inl hrows)
  obtain rfl : detail = detail' := Except.ok.inj (hdetail.symm.trans hdetail')
  obtain ⟨title, identifierStatus, metadataStatus, hmem⟩ :=
    exists_mem_workspaceItems (t := t) (hasset ▸ List.mem_singleton_self asset)
  obtain ⟨hcanonical', hcount', -⟩ := hitems _ hmem rfl rfl
  by_cases hindex : matchIndex w mediaType mediaId = []
  · right
    by_cases hsource : sourceOf t asset = ""
    · rw [(workspaceItem_of_matches _ _ _ (Or.inr hsource)).2, hindex, hcount] at hcount'
      exact absurd (List.length_eq_zero_iff.mp hcount'.symm) hrows
    · obtain ⟨hitem, hone⟩ := workspaceItem_of_source title identifierStatus metadataStatus
        hindex hsource
      rw [hone, hcount] at hcount'
      obtain ⟨row, hrow⟩ := List.length_eq_one_iff.mp hcount'.symm
      rw [hitem, hcanonical, hrow, chooseCanonicalProvider_singleton] at hcanonical'
      exact ⟨row, hrow, hcanonical'⟩
  · left
    rw [(workspaceItem_of_matches _ _ _ (Or.inl hindex)).2, hcount] at hcount'
    have hsub := matchIndex_sublist w mediaType mediaId
    have hdedup :=
      (List.dedup_sublist ((matchIndex w mediaType mediaId).map (·.provider))).length_le
    rw [List.length_map] at hdedup
    have hlength : (matchIndex w mediaType mediaId).length =
        (matchRows w mediaType mediaId).length := by
      have := hsub.length_le
      omega
    have heq := hsub.eq_of_length hlength
    refine ⟨heq, ?_⟩
    rw [heq] at hcount'
    rw [← List.dedup_eq_self]
    refine (List.dedup_sublist _).eq_of_length ?_
    rw [hcount', List.length_map]

theorem singleProvider_of_agree (h : IdentityViewsAgree t w)
    (htarget : IsTarget w mediaType mediaId) : SingleProvider t w mediaType mediaId := by
  have hagree := h.agree mediaType mediaId htarget
  obtain ⟨detail, hdetail, -⟩ := hagree
  obtain ⟨asset, hasset⟩ := exists_asset_of_studio hdetail
  have hagree := h.agree mediaType mediaId htarget
  have hreadable (hrows : matchRows w mediaType mediaId = []) (hsource : sourceOf t asset ≠ "") :
      ∃ own, assetProvider t asset = .ok own := by
    cases hown : assetProvider t asset with
    | ok own => exact ⟨own, rfl⟩
    | error e =>
      rw [studio_of_unreadable hasset hrows hsource hown] at hdetail
      cases hdetail
  refine ⟨by simp [hasset], ?_, fun row hrow => ?_, fun hrows found hfound => ?_⟩
  · by_contra hmany
    have hrows : matchRows w mediaType mediaId ≠ [] := fun hnil => hmany (by simp [hnil])
    rcases matchIndex_eq_of_agree hasset hrows hagree with ⟨-, hnodup⟩ | ⟨row, hrow, -⟩
    · obtain ⟨row, hrow, hother⟩ := exists_other_provider (by omega) hnodup
        (chooseCanonicalProvider mediaType (matchRows w mediaType mediaId))
      have hreports := h.chosen [.setCanonicalProvider mediaType mediaId row.provider none]
        mediaType mediaId row.provider htarget (lastChoice_setCanonicalProvider hasset)
        (List.mem_map_of_mem hrow)
      obtain ⟨detail', hdetail', hprovider⟩ := hreports.studio_eq
      obtain ⟨detail'', hdetail'', hcanonical, -⟩ :=
        studio_of_matches (t := t) hasset (Or.inl hrows)
      obtain rfl : detail' = detail'' := Except.ok.inj (hdetail'.symm.trans hdetail'')
      exact hother (hprovider.symm.trans hcanonical)
    · exact hmany (by simp [hrow])
  · rcases matchIndex_eq_of_agree hasset (List.ne_nil_of_mem hrow) hagree with
      ⟨heq, -⟩ | ⟨only, honly, hsource⟩
    · exact Or.inl (heq ▸ hrow)
    · right
      intro found hfound
      rw [hasset] at hfound
      rw [honly] at hrow
      rw [List.mem_singleton.mp hfound, List.mem_singleton.mp hrow, hsource]
  · rw [hasset] at hfound
    rw [List.mem_singleton.mp hfound]
    exact hreadable hrows

/-- The views of a movie or series without a choice. -/
theorem SingleProvider.views (h : SingleProvider t w mediaType mediaId)
    (htarget : IsTarget w mediaType mediaId) : ∃ detail,
      studio t w mediaType mediaId = .ok detail ∧ detail.providers.length ≤ 1 ∧
        detail.conflictLevel = .none ∧
        (∀ row ∈ matchRows w mediaType mediaId, detail.canonicalProvider = row.provider) ∧
        ∀ asset ∈ targetRows w mediaType mediaId, ∀ title identifierStatus metadataStatus,
          (workspaceItem t w mediaType mediaId title asset identifierStatus
            metadataStatus).canonicalProvider = detail.canonicalProvider ∧
          (workspaceItem t w mediaType mediaId title asset identifierStatus
            metadataStatus).providerCount = detail.providers.length := by
  obtain ⟨asset, hasset⟩ : ∃ asset, targetRows w mediaType mediaId = [asset] := by
    have hpos := List.length_pos_iff.mpr htarget
    exact List.length_eq_one_iff.mp (le_antisymm h.one_asset hpos)
  have hmem : asset ∈ targetRows w mediaType mediaId := hasset ▸ List.mem_singleton_self asset
  have hsub := matchIndex_sublist w mediaType mediaId
  cases hrows : matchRows w mediaType mediaId with
  | nil =>
    have hindex : matchIndex w mediaType mediaId = [] := by
      rw [hrows] at hsub
      exact List.sublist_nil.mp hsub
    by_cases hsource : sourceOf t asset = ""
    · obtain ⟨detail, hdetail, hcanonical, hcount, hconflict⟩ :=
        studio_of_matches (t := t) hasset (Or.inr hsource)
      rw [hrows] at hcanonical hcount hconflict
      refine ⟨detail, hdetail, by simp [hcount], hconflict (by simp), by simp,
        fun found hfound title identifierStatus metadataStatus => ?_⟩
      rw [hasset] at hfound
      obtain rfl := List.mem_singleton.mp hfound
      obtain ⟨hitem, hitemCount⟩ :=
        workspaceItem_of_matches title identifierStatus metadataStatus (Or.inr hsource)
      rw [hitem, hitemCount, hindex]
      exact ⟨hcanonical.symm, hcount.symm⟩
    · obtain ⟨own, hown⟩ := h.readable hrows asset hmem hsource
      obtain ⟨detail, hdetail, hcanonical, hcount, hconflict⟩ :=
        studio_of_source hasset hrows hsource hown
      refine ⟨detail, hdetail, hcount.le, hconflict, by simp,
        fun found hfound title identifierStatus metadataStatus => ?_⟩
      rw [hasset] at hfound
      obtain rfl := List.mem_singleton.mp hfound
      obtain ⟨hitem, hitemCount⟩ :=
        workspaceItem_of_source title identifierStatus metadataStatus hindex hsource
      rw [hitem, hitemCount]
      exact ⟨hcanonical.symm, hcount.symm⟩
  | cons row rest =>
    have hone := h.one_match
    rw [hrows, List.length_cons] at hone
    obtain rfl : rest = [] := List.length_eq_zero_iff.mp (by omega)
    obtain ⟨detail, hdetail, hcanonical, hcount, hconflict⟩ :=
      studio_of_matches (t := t) hasset (Or.inl (hrows ▸ List.cons_ne_nil row []))
    rw [hrows, chooseCanonicalProvider_singleton] at hcanonical
    rw [hrows] at hcount hconflict
    refine ⟨detail, hdetail, hcount.le, hconflict le_rfl, fun other hother => ?_,
      fun found hfound title identifierStatus metadataStatus => ?_⟩
    · rw [List.mem_singleton.mp hother, hcanonical]
    · rw [hasset] at hfound
      obtain rfl := List.mem_singleton.mp hfound
      rw [hrows] at hsub
      rcases List.sublist_singleton.mp hsub with hindex | hindex
      · have hsource : sourceOf t found = row.provider := by
          rcases h.indexed row (hrows ▸ List.mem_singleton_self row) with hin | hsource
          · rw [hindex] at hin
            cases hin
          · exact hsource found hmem
        obtain ⟨hitem, hitemCount⟩ := workspaceItem_of_source title identifierStatus metadataStatus
          hindex (hsource ▸ provider_ne_empty row)
        rw [hitem, hitemCount, hcanonical, hsource]
        exact ⟨rfl, hcount.symm⟩
      · have hmatched : matchIndex w mediaType mediaId ≠ [] ∨ sourceOf t found = "" :=
          Or.inl (hindex ▸ List.cons_ne_nil row [])
        obtain ⟨hitem, hitemCount⟩ :=
          workspaceItem_of_matches title identifierStatus metadataStatus hmatched
        rw [hitem, hitemCount, hindex, chooseCanonicalProvider_singleton, hcanonical]
        exact ⟨rfl, by simp [hcount]⟩

/-- The views of the identity center agree exactly when no movie or series has a choice between
providers. -/
theorem identityViewsAgree_iff (t : PythonText.CaseTables) (w : IdentityWorld) :
    IdentityViewsAgree t w ↔ ∀ mediaType mediaId, IsTarget w mediaType mediaId →
      SingleProvider t w mediaType mediaId := by
  refine ⟨fun h mediaType mediaId htarget => singleProvider_of_agree h htarget, fun h => ⟨?_, ?_⟩⟩
  · intro mediaType mediaId htarget
    obtain ⟨detail, hdetail, hone, hconflict, -, hitems⟩ :=
      (h mediaType mediaId htarget).views htarget
    refine ⟨detail, hdetail, fun item hitem => ?_⟩
    rintro rfl rfl
    obtain ⟨asset, hasset, title, identifierStatus, metadataStatus, heq⟩ := mem_workspaceItems hitem
    obtain ⟨hcanonical, hcount⟩ := hitems asset hasset title identifierStatus metadataStatus
    rw [← heq] at hcanonical hcount
    refine ⟨hcanonical, hcount, ?_⟩
    rw [heq, hconflict]
    refine workspaceItem_conflictLevel ?_
    rw [← heq, hcount]
    exact hone
  · intro actions mediaType mediaId provider htarget _ hprovider
    obtain ⟨row, hrow, rfl⟩ := List.mem_map.mp hprovider
    obtain ⟨detail, hdetail, -, -, hcanonical, hitems⟩ :=
      (h mediaType mediaId htarget).views htarget
    obtain ⟨rows, hrun⟩ := run_eq_record w actions
    rw [hrun]
    refine ⟨⟨detail, hdetail, hcanonical row hrow⟩, fun item hitem => ?_⟩
    rintro rfl rfl
    obtain ⟨asset, hasset, title, identifierStatus, metadataStatus, heq⟩ := mem_workspaceItems hitem
    have hitem := (hitems asset hasset title identifierStatus metadataStatus).1
    rw [heq]
    exact hitem.trans (hcanonical row hrow)

end Agreement

/-! ## A movie on two servers -/

/-- A movie that two servers match with full confidence. -/
def twoServers : IdentityWorld where
  movies := [{ id := 1, tmdbId := 949, title := "Heat" }]
  supplementalMatches :=
    [{ sourceService := .jellyfin, movieId := some 1, mediaType := .movie },
      { sourceService := .plex, movieId := some 1, mediaType := .movie }]

/-- The second server is set as canonical, and the views go on with the first one. -/
theorem not_identityViewsAgree_twoServers :
    lastChoice (run twoServers [.setCanonicalProvider .movie 1 "plex" none]).history .movie 1 =
        some "plex" ∧
      ¬IdentityViewsAgree asciiCalls.toCaseTables twoServers := by
  have hasset : targetRows twoServers .movie 1 = [none] := rfl
  have hchoice : lastChoice
      (run twoServers [.setCanonicalProvider .movie 1 "plex" none]).history .movie 1 =
        some "plex" := lastChoice_setCanonicalProvider hasset
  refine ⟨hchoice, fun h => ?_⟩
  have hreports := h.chosen _ .movie 1 "plex" (by simp [IsTarget, hasset]) hchoice
    (by decide +kernel)
  obtain ⟨detail, hdetail, hplex⟩ := hreports.studio_eq
  obtain ⟨detail', hdetail', hcanonical, -⟩ := studio_of_matches
    (t := asciiCalls.toCaseTables) hasset (Or.inl (by decide +kernel))
  obtain rfl : detail = detail' := Except.ok.inj (hdetail.symm.trans hdetail')
  have hjellyfin : chooseCanonicalProvider .movie (matchRows twoServers .movie 1) = "jellyfin" := by
    decide +kernel
  rw [hplex, hjellyfin] at hcanonical
  exact absurd hcanonical (by decide)

end MediaMasterr.Mie.IdentityCenter
