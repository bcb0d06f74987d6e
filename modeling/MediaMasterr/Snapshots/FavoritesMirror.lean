import MediaMasterr.Snapshots.Favorites

/-! # Favorites mirror the servers

A refresh should leave, of each server and Plex user that could not be read, the rows
there were, of each that could be read what was read, and nothing else. It does so for a
server unless names clash: two users with one normalized name and a common title break
the unique key, and a Plex name that is read through one account and not through another
mixes fresh and stale rows. A clash ends the run, so it costs the servers after it their
refresh as well. Rows of servers that are no longer configured stay while any server is
configured. -/

namespace MediaMasterr.Snapshots
open Database Foundations Foundations.PythonText Foundations.Refreshes

variable (world : FavoritesWorld) (config : ServiceConfig)

/-- What is asked of a server's rows after a refresh. Each key is there at most once by the
table's unique key. -/
def Right (before after : List FavoriteRow) : Prop :=
  (∀ name, Failed world config name → ∀ row : FavoriteRow, row.usernameNormalized = name →
    (row ∈ after ↔ row ∈ before)) ∧
  ∀ name, Succeeded world config name → ∀ mediaType tmdbId,
    (∃ row ∈ after, row.mediaType = mediaType ∧ row.tmdbId = tmdbId ∧
      row.usernameNormalized = name) ↔ Fetched world config mediaType tmdbId name

/-- Every server's rows are right, and there are no rows of other servers. -/
def MirrorsFetches (servers : ConfiguredServers) (before : Favorites) : Prop :=
  (∀ config ∈ servers.supported, Right world config (before.rowsOf config)
    ((refreshSnapshot world servers before).1.rowsOf config)) ∧
  ∀ row ∈ (refreshSnapshot world servers before).1.rows,
    ∃ config ∈ servers.supported, row.ofServer config

/-- Two users of a server have one normalized name and a title in common, or a Plex name that
failed has a stale row for a title that was read for the same name. -/
def Clash (before : List FavoriteRow) : Prop :=
  (∃ mediaType, ¬(listed world config mediaType).Pairwise fun a b => ¬SharesTitle world a b) ∨
  ∃ row ∈ before, Failed world config row.usernameNormalized ∧
    Fetched world config row.mediaType row.tmdbId row.usernameNormalized

/-- A Plex name is read through one account, with a title, and fails through another. -/
def Mixed : Prop :=
  ∃ name mediaType tmdbId, Failed world config name ∧ Fetched world config mediaType tmdbId name

variable {world config}

theorem not_fetched_of_listed_eq_nil (h : ∀ mediaType, listed world config mediaType = [])
    {mediaType : MediaType} {tmdbId : Nat} {name : String} :
    ¬Fetched world config mediaType tmdbId name := by
  rintro ⟨-, entry, hentry, -⟩
  rw [h] at hentry
  exact absurd hentry List.not_mem_nil

/-! ## One server -/

section Server

variable {before : List FavoriteRow}

theorem identity_eq_iff {row row' : FavoriteRow} (h : row.ofServer config)
    (h' : row'.ofServer config) : row.identity = row'.identity ↔
      row.mediaType = row'.mediaType ∧ row.tmdbId = row'.tmdbId ∧
        row.usernameNormalized = row'.usernameNormalized := by
  simp only [FavoriteRow.ofServer, Bool.and_eq_true, beq_iff_eq] at h h'
  simp [FavoriteRow.identity, h, h']

/-- The unique key refuses a server's rows when there is a clash. -/
theorem renew_isSome_iff (hserver : ∀ row ∈ before, row.ofServer config)
    (hunique : (before.map FavoriteRow.identity).Nodup) :
    (renew world config before).isSome ↔ ¬Clash world config before := by
  have hrenew : (renew world config before).isSome ↔
      ((renewedRows world config before).map FavoriteRow.identity).Nodup := by
    unfold renew
    split_ifs with h <;> simp [h]
  rw [hrenew]
  rcases renewedRows_cases world config before with ⟨hlisted, -, hrows⟩ |
    ⟨stale, hperm, hsub, hstale⟩
  · have hnone : ¬Clash world config before := by
      rintro (⟨mediaType, h⟩ | ⟨row, -, -, h⟩)
      · exact h (by simp [hlisted])
      · exact not_fetched_of_listed_eq_nil hlisted h
    refine iff_of_true ?_ hnone
    rcases hrows with hkept | ⟨hgone, -⟩
    · rw [hkept]
      exact hunique
    · rw [hgone]
      exact List.nodup_nil
  · rw [(hperm.map _).nodup_iff, List.map_append, List.nodup_append', nodup_identities_freshRows,
      and_iff_right (hunique.sublist (hsub.map _)), Clash, not_or, not_exists]
    refine and_congr (forall_congr' fun _ => not_not.symm) ?_
    constructor
    · rintro hdisjoint ⟨row, hrow, hfailed, hfetched⟩
      obtain ⟨fresh, hfresh, hmedia, hid, hname⟩ := exists_mem_freshRows.mpr hfetched
      refine hdisjoint (List.mem_map_of_mem hfresh)
        (List.mem_map.mpr ⟨row, (hstale row).mpr ⟨hrow, hfailed⟩, ?_⟩)
      exact (identity_eq_iff (hserver row hrow) (ofServer_of_mem_freshRows hfresh)).mpr
        ⟨hmedia.symm, hid.symm, hname.symm⟩
    · intro hclash identity hnew hold
      obtain ⟨fresh, hfresh, rfl⟩ := List.mem_map.mp hnew
      obtain ⟨row, hrow, hidentity⟩ := List.mem_map.mp hold
      obtain ⟨hrow, hfailed⟩ := (hstale row).mp hrow
      obtain ⟨hmedia, hid, hname⟩ :=
        (identity_eq_iff (hserver row hrow) (ofServer_of_mem_freshRows hfresh)).mp hidentity
      exact hclash ⟨row, hrow, hfailed, exists_mem_freshRows.mp
        ⟨fresh, hfresh, hmedia.symm, hid.symm, hname.symm⟩⟩

/-- A turn that does not raise makes the server's rows right, unless a name is both read and
failed. -/
theorem right_renewedRows_iff (hclash : ¬Clash world config before) :
    Right world config before (renewedRows world config before) ↔ ¬Mixed world config := by
  rcases renewedRows_cases world config before with ⟨hlisted, hnever, hrows⟩ |
    ⟨stale, hperm, hsub, hstale⟩
  · have hnone : ¬Mixed world config := by
      rintro ⟨_, _, _, -, h⟩
      exact not_fetched_of_listed_eq_nil hlisted h
    refine iff_of_true ⟨fun name hfailed row _ => ?_, fun name h => absurd h (hnever name)⟩ hnone
    rcases hrows with hkept | ⟨-, hnofailed⟩
    · rw [hkept]
    · exact absurd hfailed (hnofailed name)
  · have hmem : ∀ row, row ∈ renewedRows world config before ↔
        row ∈ freshRows world config ∨
          row ∈ before ∧ Failed world config row.usernameNormalized := by
      intro row
      rw [hperm.mem_iff, List.mem_append, hstale]
    constructor
    · rintro ⟨hfailed, -⟩ ⟨name, mediaType, tmdbId, hname, hfetched⟩
      obtain ⟨row, hrow, rfl, rfl, rfl⟩ := exists_mem_freshRows.mpr hfetched
      have hbefore := (hfailed _ hname row rfl).mp ((hmem row).mpr (Or.inl hrow))
      exact hclash (Or.inr ⟨row, hbefore, hname, hfetched⟩)
    · refine fun hmixed => ⟨?_, ?_⟩
      · rintro name hname row rfl
        have hfresh : row ∉ freshRows world config := fun h =>
          hmixed ⟨_, _, _, hname, exists_mem_freshRows.mp ⟨row, h, rfl, rfl, rfl⟩⟩
        simp [hmem, hfresh, hname]
      · rintro name ⟨hname, -⟩ mediaType tmdbId
        rw [← exists_mem_freshRows]
        constructor
        · rintro ⟨row, hrow, hmedia, hid, rfl⟩
          rcases (hmem row).mp hrow with h | ⟨-, h⟩
          · exact ⟨row, h, hmedia, hid, rfl⟩
          · exact absurd h hname
        · rintro ⟨row, hrow, h⟩
          exact ⟨row, (hmem row).mpr (Or.inl hrow), h⟩

end Server

/-! ## All servers -/

section Servers

variable {servers : ConfiguredServers} {before : Favorites} {pre post : List ServiceConfig}

/-- Different servers have different rows. -/
theorem ofServer_of_id_ne {config' : ServiceConfig} (h : config.id ≠ config'.id)
    {row : FavoriteRow} (hrow : row.ofServer config) : row.ofServer config' = false := by
  simp only [FavoriteRow.ofServer, Bool.and_eq_true, beq_iff_eq] at hrow
  simp [FavoriteRow.ofServer, hrow, h]

theorem ConfiguredServers.pairwise_id_supported :
    servers.supported.Pairwise fun a b => a.id ≠ b.id := by
  have hconfigs := List.pairwise_map.mp servers.ids_nodup
  rw [supported, List.pairwise_append]
  refine ⟨hconfigs.filter _, hconfigs.filter _, fun a ha b hb hid => ?_⟩
  obtain ⟨ha, htype⟩ := List.mem_filter.mp ha
  obtain ⟨hb, hplex⟩ := List.mem_filter.mp hb
  obtain rfl := List.inj_on_of_nodup_map servers.ids_nodup ha hb hid
  simp only [beq_iff_eq] at hplex
  simp [hplex] at htype

theorem foreign_refreshTurn {config' : ServiceConfig} (h : config.id ≠ config'.id) :
    Foreign (refreshTurn world) (fun config state => state.1.rowsOf config) config config' :=
  fun _ _ hturn => filter_refreshTurn (fun _ hrow => ofServer_of_id_ne h hrow) hturn

/-- A server's rows after a refresh. -/
theorem rowsOf_refreshSnapshot (hservers : servers.supported = pre ++ config :: post) :
    ((refreshSnapshot world servers before).1.rowsOf config) =
      if ∀ config' ∈ pre, (renew world config' (before.rowsOf config')).isSome then
        (renew world config (before.rowsOf config)).getD (before.rowsOf config)
      else before.rowsOf config := by
  have hsome : servers.supported ≠ [] := by simp [hservers]
  have hforeign : (pre ++ config :: post).Pairwise fun a b =>
      Foreign (refreshTurn world) (fun config state => state.1.rowsOf config) a b ∧
      Foreign (refreshTurn world) (fun config state => state.1.rowsOf config) b a := by
    rw [← hservers]
    exact servers.pairwise_id_supported.imp fun h =>
      ⟨foreign_refreshTurn h, foreign_refreshTurn (Ne.symm h)⟩
  rw [refreshSnapshot, if_neg hsome, hservers]
  exact part_refreshAll (s := (before, 0)) (fun _ _ => rowsOf_refreshTurn) hforeign

theorem renew_rowsOf_isSome_iff :
    (renew world config (before.rowsOf config)).isSome ↔
      ¬Clash world config (before.rowsOf config) :=
  renew_isSome_iff (fun _ hrow => (Favorites.mem_rowsOf.mp hrow).2)
    Favorites.nodup_identities_rowsOf

/-- Whether a server's rows are right after a refresh of all servers. -/
theorem right_refreshSnapshot_iff (hservers : servers.supported = pre ++ config :: post) :
    Right world config (before.rowsOf config)
        ((refreshSnapshot world servers before).1.rowsOf config) ↔
      ((∃ config' ∈ pre ++ [config], Clash world config' (before.rowsOf config')) →
        Right world config (before.rowsOf config) (before.rowsOf config)) ∧
      ((∀ config' ∈ pre ++ [config], ¬Clash world config' (before.rowsOf config')) →
        ¬Mixed world config) := by
  rw [rowsOf_refreshSnapshot hservers]
  by_cases hclash : ∃ config' ∈ pre ++ [config], Clash world config' (before.rowsOf config')
  · have hkept : (if ∀ config' ∈ pre, (renew world config' (before.rowsOf config')).isSome then
        (renew world config (before.rowsOf config)).getD (before.rowsOf config)
        else before.rowsOf config) = before.rowsOf config := by
      split_ifs with hpre
      · obtain ⟨config', hconfig', hclash'⟩ := hclash
        rcases List.mem_append.mp hconfig' with h | h
        · exact absurd hclash' (renew_rowsOf_isSome_iff.mp (hpre config' h))
        · obtain rfl := List.mem_singleton.mp h
          have hnone := mt renew_rowsOf_isSome_iff.mp (not_not.mpr hclash')
          rw [Option.not_isSome_iff_eq_none.mp hnone, Option.getD_none]
      · rfl
    rw [hkept]
    refine ⟨fun h => ⟨fun _ => h, fun hnone => ?_⟩, fun h => h.1 hclash⟩
    obtain ⟨config', hconfig', hclash'⟩ := hclash
    exact absurd hclash' (hnone config' hconfig')
  · have hnone : ∀ config' ∈ pre ++ [config], ¬Clash world config' (before.rowsOf config') :=
      fun config' hconfig' h => hclash ⟨config', hconfig', h⟩
    have hown := hnone config (by simp)
    have hrenewed : renew world config (before.rowsOf config) =
        some (renewedRows world config (before.rowsOf config)) := by
      obtain ⟨rows, hrows⟩ := Option.isSome_iff_exists.mp (renew_rowsOf_isSome_iff.mpr hown)
      rw [renew] at hrows ⊢
      split_ifs at hrows ⊢ with h
      rfl
    rw [if_pos fun config' h => renew_rowsOf_isSome_iff.mpr (hnone config' (by simp [h])),
      hrenewed, Option.getD_some, right_renewedRows_iff hown]
    exact ⟨fun h => ⟨fun h' => absurd h' hclash, fun _ => h⟩, fun h => h.2 hnone⟩

/-- Rows that are no server's outlive a refresh, when there is a server. -/
theorem mem_refreshSnapshot_of_foreign (hservers : servers.supported ≠ []) {row : FavoriteRow}
    (hrow : ∀ config ∈ servers.supported, ¬row.ofServer config) :
    row ∈ (refreshSnapshot world servers before).1.rows ↔ row ∈ before.rows := by
  have hfilter : (refreshSnapshot world servers before).1.rows.filter (· == row) =
      before.rows.filter (· == row) := by
    rw [refreshSnapshot, if_neg hservers]
    refine refreshAll_keeps (s := (before, 0)) (f := fun state => state.1.rows.filter (· == row))
      fun config hconfig _ _ hturn => filter_refreshTurn (fun other hother => ?_) hturn
    refine beq_eq_false_iff_ne.mpr fun heq => hrow config hconfig ?_
    exact heq ▸ hother
  have hmem : ∀ rows : List FavoriteRow, row ∈ rows ↔ row ∈ rows.filter (· == row) := by simp
  rw [hmem, hfilter, ← hmem]

theorem forall_ofServer_refreshSnapshot_iff (hservers : servers.supported ≠ []) :
    (∀ row ∈ (refreshSnapshot world servers before).1.rows,
        ∃ config ∈ servers.supported, row.ofServer config) ↔
      ∀ row ∈ before.rows, ∃ config ∈ servers.supported, row.ofServer config := by
  refine forall_congr' fun row => ?_
  by_cases hserver : ∃ config ∈ servers.supported, row.ofServer config
  · exact iff_of_true (fun _ => hserver) fun _ => hserver
  · have hnone : ∀ config ∈ servers.supported, ¬row.ofServer config := fun config hconfig hown =>
      hserver ⟨config, hconfig, hown⟩
    rw [mem_refreshSnapshot_of_foreign hservers hnone]

end Servers

/-- A refresh mirrors the servers exactly when there are no servers, or there were no rows of
other servers, up to the first server where names clash no name is both read and failed, and
of that server and those after it the rows that were there already were right. -/
theorem mirrorsFetches_iff (world : FavoritesWorld) (servers : ConfiguredServers)
    (before : Favorites) :
    MirrorsFetches world servers before ↔ servers.supported = [] ∨
      (∀ row ∈ before.rows, ∃ config ∈ servers.supported, row.ofServer config) ∧
      ∀ pre config post, servers.supported = pre ++ config :: post →
        ((∃ config' ∈ pre ++ [config], Clash world config' (before.rowsOf config')) →
          Right world config (before.rowsOf config) (before.rowsOf config)) ∧
        ((∀ config' ∈ pre ++ [config], ¬Clash world config' (before.rowsOf config')) →
          ¬Mixed world config) := by
  by_cases hservers : servers.supported = []
  · refine iff_of_true ⟨fun config hconfig => ?_, fun row hrow => ?_⟩ (Or.inl hservers)
    · exact absurd hconfig (by simp [hservers])
    · rw [refreshSnapshot, if_pos hservers] at hrow
      exact absurd hrow List.not_mem_nil
  · rw [or_iff_right hservers, MirrorsFetches, forall_ofServer_refreshSnapshot_iff hservers,
      and_comm]
    refine and_congr_right fun _ => ?_
    constructor
    · intro h pre config post hsplit
      exact (right_refreshSnapshot_iff hsplit).mp (h config (by simp [hsplit]))
    · intro h config hconfig
      obtain ⟨pre, post, hsplit⟩ := List.append_of_mem hconfig
      exact (right_refreshSnapshot_iff hsplit).mpr (h pre config post hsplit)

/-- A Jellyfin server where `Bob` and `bob` like the same film, and an Emby server. -/
def bobs : FavoritesWorld where
  tables := { lower := asciiLower, upper := id }
  favoriteTmdbIdsByUser config mediaType :=
    some (match config.id, mediaType with
    | 1, .movie => ⟨[("Bob", ⟨[603], by decide⟩), ("bob", ⟨[603], by decide⟩)], by decide⟩
    | 2, .movie => ⟨[("Ann", ⟨[11], by decide⟩)], by decide⟩
    | _, _ => ∅)
  identities := []
  ferDecrypt := some
  watchlist _ _ := none

def jellyfinServer : ServiceConfig :=
  { id := 1, serviceType := .jellyfin, baseUrl := some "http://jellyfin", apiKey := some "key" }

def embyServer : ServiceConfig :=
  { id := 2, serviceType := .emby, baseUrl := some "http://emby", apiKey := some "key" }

def jellyfinAndEmby : ConfiguredServers where
  configs := [jellyfinServer, embyServer]
  ids_nodup := by decide

/-- Nothing is stored of either server. -/
theorem not_mirrorsFetches_bobs : ¬MirrorsFetches bobs jellyfinAndEmby ⟨[], List.nodup_nil⟩ := by
  intro h
  have hmaps : fetchedMaps bobs embyServer ≠ none := by decide +kernel
  have hright := (h.1 embyServer (by decide +kernel)).2 "ann"
    ⟨hmaps, fun hplex => by cases hplex⟩ .movie 11
  have hempty : (refreshSnapshot bobs jellyfinAndEmby ⟨[], List.nodup_nil⟩).1.rowsOf embyServer =
      [] := by decide +kernel
  rw [hempty] at hright
  obtain ⟨row, hrow, -⟩ := hright.mpr
    ⟨by decide, ("Ann", ⟨[11], by decide⟩), by decide +kernel, by decide +kernel, by decide⟩
  exact absurd hrow List.not_mem_nil

end MediaMasterr.Snapshots
