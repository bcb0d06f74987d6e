import MediaMasterr.Services.Connections

/-! # Saved rows

What an upsert makes of the rows of Radarr and Sonarr: those that the save finds are as it
describes them, and the others stay as they were. -/

namespace MediaMasterr.Services

open MediaMasterr.Accounts MediaMasterr.Database MediaMasterr.Foundations

variable {Extra : Type} {reader : ExtraReader Extra} {data written : ServiceConfigUpdate Extra}
  {configs configs' : List (ServiceConfig Extra)} {config : ServiceConfig Extra}

/-- A row has all the values of an update. -/
def ServiceConfigUpdate.Describes (data : ServiceConfigUpdate Extra)
    (config : ServiceConfig Extra) : Prop :=
  data.IsCurrent config ∧ config.extraSettings = data.extraSettings

namespace ServiceConfigUpdate.Describes

variable (h : data.Describes config)

include h

theorem serviceType : config.serviceType = data.serviceType := h.1.1

theorem enabled : config.enabled = data.enabled := h.1.2.1

theorem connection : arrConnection reader data.baseUrl (data.apiKey.getD "") data.extraSettings =
    config.connection reader := by
  rw [ServiceConfig.connection, h.1.2.2.2.2, h.1.2.2.1, h.2, Option.getD_some]

end ServiceConfigUpdate.Describes

/-- Primary keys are distinct, and so are the names of a service. -/
structure Keyed (configs : List (ServiceConfig Extra)) : Prop where
  ids : (configs.map ServiceConfig.id).Nodup
  names : (configs.map fun config => (config.serviceType, config.name)).Nodup

namespace Keyed

variable (h : Keyed configs)

include h

theorem eq_of_id {other : ServiceConfig Extra} (hconfig : config ∈ configs)
    (hother : other ∈ configs) (hid : config.id = other.id) : config = other :=
  List.inj_on_of_nodup_map h.ids hconfig hother hid

theorem eq_of_name {other : ServiceConfig Extra} (hconfig : config ∈ configs)
    (hother : other ∈ configs) (hservice : config.serviceType = other.serviceType)
    (hname : config.name = other.name) : config = other :=
  List.inj_on_of_nodup_map h.names hconfig hother (Prod.ext hservice hname)

theorem filter (p : ServiceConfig Extra → Bool) : Keyed (configs.filter p) where
  ids := h.ids.sublist (List.filter_sublist.map _)
  names := h.names.sublist (List.filter_sublist.map _)

/-- A row that a save finds for Radarr or Sonarr is all it finds. -/
theorem found_eq_singleton (hconfig : config ∈ configs)
    (hservice : config.serviceType ∈ arrServices) (hfinds : data.Finds config) :
    data.found configs = [config] := by
  have hnodup : (data.found configs).Nodup := (List.Nodup.of_map _ h.ids).filter _
  refine List.perm_singleton.mp ((List.perm_ext_iff_of_nodup hnodup (List.nodup_singleton _)).mpr
    fun other => ?_)
  rw [ServiceConfigUpdate.found, List.mem_filter, List.mem_singleton, decide_eq_true_eq]
  constructor
  · rintro ⟨hother, hfinds'⟩
    rw [ServiceConfigUpdate.Finds] at hfinds hfinds'
    cases hid : data.id with
    | some id =>
      rw [hid] at hfinds hfinds'
      exact h.eq_of_id hother hconfig (hfinds'.trans hfinds.symm)
    | none =>
      rw [hid] at hfinds hfinds'
      have harr := hfinds.1 ▸ hservice
      exact h.eq_of_name hother hconfig (hfinds'.1.trans hfinds.1.symm)
        ((hfinds'.2 harr).trans (hfinds.2 harr).symm)
  · rintro rfl
    exact ⟨hconfig, hfinds⟩

end Keyed

/-- What a request writes is for the row and the service that it names, and a main server is an
enabled media server. -/
theorem eq_of_checkSave {reachable : Bool}
    (h : checkSave reader configs data reachable = .ok written) :
    written.id = data.id ∧ written.serviceType = data.serviceType ∧
      (written.isMain → written.serviceType ∈ mediaServers ∧ written.enabled) := by
  rw [checkSave] at h
  cases hsanitized : data.sanitizeFields with
  | error e =>
    rw [hsanitized] at h
    cases h
  | ok sanitized =>
    have hsame : sanitized.id = data.id ∧ sanitized.serviceType = data.serviceType ∧
        (sanitized.isMain → sanitized.serviceType ∈ mediaServers) := by
      rw [ServiceConfigUpdate.sanitizeFields] at hsanitized
      split_ifs at hsanitized with hmain
      cases hsanitized
      exact ⟨rfl, rfl, fun h => not_not.mp fun hserver => hmain ⟨h, hserver⟩⟩
    rw [hsanitized] at h
    cases hfound : scalarOneOrNone (sanitized.found configs) with
    | error e =>
      dsimp only [bind, Except.bind] at h
      rw [hfound] at h
      cases h
    | ok existing =>
      dsimp only [bind, Except.bind] at h
      rw [hfound] at h
      dsimp only at h
      split at h
      · split_ifs at h with hdisabled
        all_goals
          cases h
          refine ⟨hsame.1, hsame.2.1, fun hmain => ⟨hsame.2.2 hmain, ?_⟩⟩
          by_contra henabled
          exact hdisabled ⟨by simpa using henabled, hsame.2.2 hmain, .inr hmain⟩
      · cases h

/-! ## The upsert -/

/-- The effect of an upsert. -/
structure Upserted (data : ServiceConfigUpdate Extra)
    (configs configs' : List (ServiceConfig Extra)) : Prop where
  keyed : Keyed configs'
  rows : ∀ config ∈ configs', config.serviceType ∈ arrServices →
    data.Finds config ∧ data.Describes config ∨ ¬data.Finds config ∧ config ∈ configs
  stays : ∀ config ∈ configs, config.serviceType ∈ arrServices →
    ∃ config' ∈ configs', config'.id = config.id ∧ config'.serviceType = config.serviceType
  ids : ∀ config' ∈ configs', config'.id ∈ configs.map ServiceConfig.id ∨ data.id = none

theorem notMem_arrServices {service : Service} (h : service ∈ mediaServers) :
    service ∉ arrServices := by
  revert h
  cases service <;> decide

theorem mem_clearOtherMains {service : Service} (hservice : config.serviceType ∈ arrServices) :
    config ∈ clearOtherMains configs service ↔ config ∈ configs := by
  rw [clearOtherMains, List.mem_map]
  constructor
  · rintro ⟨old, hold, rfl⟩
    split_ifs at hservice ⊢ with hmain
    · exact absurd hservice (notMem_arrServices hmain.2)
    · exact hold
  · intro hconfig
    exact ⟨config, hconfig, if_neg fun hmain => notMem_arrServices hmain.2 hservice⟩

theorem map_clearOtherMains {β : Type} {f : ServiceConfig Extra → β} {service : Service}
    (hf : ∀ config : ServiceConfig Extra, f { config with isMain := false } = f config) :
    (clearOtherMains configs service).map f = configs.map f := by
  rw [clearOtherMains, List.map_map]
  refine List.map_congr_left fun config _ => ?_
  rw [Function.comp_apply]
  split_ifs
  · exact hf config
  · rfl

theorem Keyed.clearOtherMains (h : Keyed configs) (service : Service) :
    Keyed (clearOtherMains configs service) where
  ids := by
    rw [map_clearOtherMains fun _ => rfl]
    exact h.ids
  names := by
    rw [map_clearOtherMains fun _ => rfl]
    exact h.names

/-- An update of the rows that keeps their ids and their names apart. -/
theorem Keyed.map (h : Keyed configs) {change : ServiceConfig Extra → ServiceConfig Extra}
    (hid : ∀ config, (change config).id = config.id)
    (hname : ∀ config ∈ configs, ∀ other ∈ configs,
      (change config).serviceType = (change other).serviceType →
      (change config).name = (change other).name → config = other) :
    Keyed (configs.map change) where
  ids := by
    rw [List.map_map]
    have hsame : ServiceConfig.id ∘ change = ServiceConfig.id := funext hid
    rw [hsame]
    exact h.ids
  names := by
    rw [List.map_map]
    refine List.Nodup.map_on (fun config hconfig other hother heq => ?_) (List.Nodup.of_map _ h.ids)
    exact hname config hconfig other hother (congrArg Prod.fst heq) (congrArg Prod.snd heq)

section

variable (hkeyed : Keyed configs) {apiKey : String} (hkey : data.apiKey = some apiKey)

theorem describes_write (hkey : data.apiKey = some apiKey) (config : ServiceConfig Extra) :
    data.Describes (data.write apiKey config) :=
  ⟨⟨rfl, rfl, rfl, rfl, hkey⟩, rfl⟩

include hkeyed hkey

/-- The rows with `p` are written, which are those that the save finds of Radarr or Sonarr. -/
theorem upserted_map {p : ServiceConfig Extra → Prop} [DecidablePred p]
    (hfinds : ∀ config ∈ configs, config.serviceType ∈ arrServices → (p config ↔ data.Finds config))
    (hwritten : ∀ config ∈ configs, p config → data.serviceType ∈ arrServices →
      data.Finds (data.write apiKey config))
    (hservice : ∀ config ∈ configs, p config → config.serviceType = data.serviceType)
    (hone : ∀ config ∈ configs, p config → ∀ other ∈ configs,
      p other ∨ other.HasKey data.serviceType data.serviceName → config = other) :
    Upserted data configs
      (configs.map fun config => if p config then data.write apiKey config else config) where
  keyed := by
    refine hkeyed.map (fun config => by split_ifs <;> rfl) fun config hconfig other hother => ?_
    split_ifs with hp hp' hp'
    · exact fun _ _ => hone config hconfig hp other hother (.inl hp')
    · exact fun htype hsame => hone config hconfig hp other hother (.inr ⟨htype.symm, hsame.symm⟩)
    · exact fun htype hsame => (hone other hother hp' config hconfig (.inr ⟨htype, hsame⟩)).symm
    · exact fun htype hsame => hkeyed.eq_of_name hconfig hother htype hsame
  rows config' hconfig' harr := by
    obtain ⟨config, hconfig, rfl⟩ := List.mem_map.mp hconfig'
    split_ifs at harr ⊢ with hp
    · exact .inl ⟨hwritten config hconfig hp harr, describes_write hkey config⟩
    · exact .inr ⟨fun hfound => hp ((hfinds config hconfig harr).mpr hfound), hconfig⟩
  stays config hconfig _ := by
    refine ⟨_, List.mem_map_of_mem hconfig, ?_⟩
    split_ifs with hp
    · exact ⟨rfl, (hservice config hconfig hp).symm⟩
    · exact ⟨rfl, rfl⟩
  ids config' hconfig' := by
    obtain ⟨config, hconfig, rfl⟩ := List.mem_map.mp hconfig'
    refine .inl (List.mem_map.mpr ⟨config, hconfig, ?_⟩)
    split_ifs <;> rfl

end

/-- A row for a service and a name that no row has yet. -/
theorem upserted_append (hkeyed : Keyed configs) {apiKey : String}
    (hkey : data.apiKey = some apiKey) (hid : data.id = none)
    (hnew : ∀ config ∈ configs, ¬config.HasKey data.serviceType data.serviceName)
    (row : ServiceConfig Extra) (hrow : row.id = Write.nextId ServiceConfig.id configs) :
    Upserted data configs (configs ++ [data.write apiKey row]) where
  keyed := by
    constructor
    · rw [List.map_append, List.map_singleton]
      refine hkeyed.ids.append (List.nodup_singleton _) (List.disjoint_singleton.mpr fun hmem => ?_)
      obtain ⟨config, hconfig, heq⟩ := List.mem_map.mp hmem
      have hlt : config.id < Write.nextId ServiceConfig.id configs := Write.lt_nextId hconfig
      exact Nat.ne_of_lt hlt (heq.trans hrow)
    · rw [List.map_append, List.map_singleton]
      refine hkeyed.names.append (List.nodup_singleton _)
        (List.disjoint_singleton.mpr fun hmem => ?_)
      obtain ⟨config, hconfig, heq⟩ := List.mem_map.mp hmem
      exact hnew config hconfig ⟨congrArg Prod.fst heq, congrArg Prod.snd heq⟩
  rows config hconfig harr := by
    rcases List.mem_append.mp hconfig with hold | hadded
    · refine .inr ⟨fun hfinds => hnew config hold ?_, hold⟩
      rw [ServiceConfigUpdate.Finds, hid] at hfinds
      exact ⟨hfinds.1, hfinds.2 (hfinds.1 ▸ harr)⟩
    · obtain rfl := List.mem_singleton.mp hadded
      refine .inl ⟨?_, describes_write hkey row⟩
      rw [ServiceConfigUpdate.Finds, hid]
      exact ⟨rfl, fun _ => rfl⟩
  stays config hconfig _ := ⟨config, List.mem_append_left _ hconfig, rfl, rfl⟩
  ids _ _ := .inr hid

theorem map_clearedMains {β : Type} {f : ServiceConfig Extra → β}
    (hf : ∀ config : ServiceConfig Extra, f { config with isMain := false } = f config) :
    (clearedMains configs data).map f = configs.map f := by
  rw [clearedMains]
  split_ifs
  · exact map_clearOtherMains hf
  · rfl

theorem Upserted.of_clearedMains (h : Upserted data (clearedMains configs data) configs') :
    Upserted data configs configs' := by
  have hmem (config : ServiceConfig Extra) (harr : config.serviceType ∈ arrServices) :
      config ∈ clearedMains configs data ↔ config ∈ configs := by
    rw [clearedMains]
    split_ifs
    · exact mem_clearOtherMains harr
    · rfl
  refine ⟨h.keyed, fun config hconfig harr => ?_, fun config hconfig harr => ?_, ?_⟩
  · rw [← hmem config harr]
    exact h.rows config hconfig harr
  · exact h.stays config ((hmem config harr).mpr hconfig) harr
  · have hids : (clearedMains configs data).map ServiceConfig.id = configs.map ServiceConfig.id :=
      map_clearedMains fun _ => rfl
    rw [← hids]
    exact h.ids

theorem upserted_of_upsertServiceConfig (hkeyed : Keyed configs)
    (hservice : ∀ id, data.id = some id → ∀ config ∈ configs, config.id = id →
      config.serviceType = data.serviceType)
    (hupsert : upsertServiceConfig configs data = some configs') :
    Upserted data configs configs' := by
  obtain ⟨apiKey, hkey, hupsert⟩ := Option.bind_eq_some_iff.mp hupsert
  refine Upserted.of_clearedMains ?_
  replace hkeyed : Keyed (clearedMains configs data) := by
    rw [clearedMains]
    split_ifs
    · exact hkeyed.clearOtherMains _
    · exact hkeyed
  cases hid : data.id with
  | some id =>
    rw [hid] at hupsert
    replace hupsert := Option.ite_none_left_eq_some.mp hupsert
    obtain ⟨hfree, hwritten⟩ := hupsert
    cases hwritten
    refine upserted_map hkeyed hkey (fun config _ _ => ?_) (fun config _ hp _ => ?_)
      (fun config hconfig hp => ?_) fun config hconfig hp other hother hor => ?_
    · rw [ServiceConfigUpdate.Finds, hid]
    · rw [ServiceConfigUpdate.Finds, hid]
      exact hp
    · have hpair : (config.id, config.serviceType) ∈
          (clearedMains configs data).map fun config => (config.id, config.serviceType) :=
        List.mem_map.mpr ⟨config, hconfig, rfl⟩
      rw [map_clearedMains fun _ => rfl] at hpair
      obtain ⟨old, hold, heq⟩ := List.mem_map.mp hpair
      obtain ⟨hsame, htype⟩ := Prod.mk.inj heq
      rw [← htype]
      exact hservice id hid old hold (hsame.trans hp)
    · by_cases hsame : other.id = id
      · exact hkeyed.eq_of_id hconfig hother (hp.trans hsame.symm)
      · rcases hor with hor | hor
        · exact absurd hor hsame
        · refine absurd ?_ hfree
          refine List.any_eq_true.mpr ⟨other, hother, decide_eq_true ⟨hsame, hor, ?_⟩⟩
          exact List.any_eq_true.mpr ⟨config, hconfig, decide_eq_true hp⟩
  | none =>
    rw [hid] at hupsert
    dsimp only at hupsert
    split_ifs at hupsert with hfound
    · cases hupsert
      refine upserted_map hkeyed hkey (fun config _ harr => ?_) (fun config _ _ _ => ?_)
        (fun config _ hp => And.left hp) fun config hconfig hp other hother hor => ?_
      · rw [ServiceConfigUpdate.Finds, hid]
        constructor
        · exact fun hp => ⟨hp.1, fun _ => hp.2⟩
        · exact fun hfinds => ⟨hfinds.1, hfinds.2 (hfinds.1 ▸ harr)⟩
      · rw [ServiceConfigUpdate.Finds, hid]
        exact ⟨rfl, fun _ => rfl⟩
      · have hhas : other.HasKey data.serviceType data.serviceName := hor.elim id id
        exact hkeyed.eq_of_name hconfig hother (hp.1.trans hhas.1.symm) (hp.2.trans hhas.2.symm)
    · cases hupsert
      refine upserted_append hkeyed hkey hid (fun config hconfig hhas => hfound ?_) _ rfl
      exact List.any_eq_true.mpr ⟨config, hconfig, decide_eq_true hhas⟩

end MediaMasterr.Services
