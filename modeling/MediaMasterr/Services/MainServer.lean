import MediaMasterr.Services.Convergence

/-! # The main media server

However services are saved and deleted, the main rows are enabled rows of one media server. -/

namespace MediaMasterr.Services

open MediaMasterr.Database MediaMasterr.Foundations

variable {Extra : Type} {reader : ExtraReader Extra} {data : ServiceConfigUpdate Extra}
  {configs configs' : List (ServiceConfig Extra)} {config : ServiceConfig Extra}

structure OneMain (configs : List (ServiceConfig Extra)) : Prop where
  servers : ∀ config ∈ configs, config.isMain → config.serviceType ∈ mediaServers ∧ config.enabled
  same : ∀ config ∈ configs, ∀ other ∈ configs, config.isMain → other.isMain →
    config.serviceType = other.serviceType

/-- A row after an upsert is written, or the clearing has left it. -/
theorem mem_of_upsert (h : upsertServiceConfig configs data = some configs')
    (hconfig : config ∈ configs') : data.IsCurrent config ∨ config ∈ clearedMains configs data := by
  obtain ⟨apiKey, hkey, h⟩ := Option.bind_eq_some_iff.mp h
  have hmap (p : ServiceConfig Extra → Prop) [DecidablePred p]
      (hmem : config ∈ (clearedMains configs data).map fun config =>
        if p config then data.write apiKey config else config) :
      data.IsCurrent config ∨ config ∈ clearedMains configs data := by
    obtain ⟨old, hold, rfl⟩ := List.mem_map.mp hmem
    split_ifs
    · exact .inl (describes_write hkey old).1
    · exact .inr hold
  cases hid : data.id with
  | some id =>
    rw [hid] at h
    cases (Option.ite_none_left_eq_some.mp h).2
    exact hmap _ hconfig
  | none =>
    rw [hid] at h
    dsimp only at h
    split_ifs at h
    · cases h
      exact hmap _ hconfig
    · cases h
      refine (List.mem_append.mp hconfig).symm.imp_left fun hnew => ?_
      exact List.mem_singleton.mp hnew ▸ (describes_write hkey _).1

/-- A main row is written as one, or it was one and nothing is made the main server instead. -/
theorem OneMain.main_of_upsert (hmains : OneMain configs)
    (hwritten : data.isMain → data.serviceType ∈ mediaServers ∧ data.enabled)
    (h : upsertServiceConfig configs data = some configs') (hconfig : config ∈ configs')
    (hmain : config.isMain) :
    config.serviceType ∈ mediaServers ∧ config.enabled ∧
      (data.isMain ∧ config.serviceType = data.serviceType ∨ ¬data.isMain ∧ config ∈ configs) := by
  rcases mem_of_upsert h hconfig with ⟨htype, henabled, -, hisMain, -⟩ | hleft
  · rw [hmain] at hisMain
    obtain ⟨hserver, henabled'⟩ := hwritten hisMain.symm
    exact ⟨htype ▸ hserver, henabled.trans henabled', .inl ⟨hisMain.symm, htype⟩⟩
  · rw [clearedMains] at hleft
    split_ifs at hleft with hdata
    · obtain ⟨old, hold, rfl⟩ := List.mem_map.mp hleft
      split_ifs at hmain ⊢ with hother
      obtain ⟨hserver, henabled⟩ := hmains.servers old hold hmain
      exact ⟨hserver, henabled, .inl ⟨hdata, not_not.mp fun hne => hother ⟨hne, hserver⟩⟩⟩
    · obtain ⟨hserver, henabled⟩ := hmains.servers config hleft hmain
      exact ⟨hserver, henabled, .inr ⟨hdata, hleft⟩⟩

theorem OneMain.upsert (hmains : OneMain configs)
    (hwritten : data.isMain → data.serviceType ∈ mediaServers ∧ data.enabled)
    (h : upsertServiceConfig configs data = some configs') : OneMain configs' where
  servers config hconfig hmain :=
    (hmains.main_of_upsert hwritten h hconfig hmain).imp_right And.left
  same config hconfig other hother hmain hmain' := by
    obtain ⟨-, -, ⟨hdata, htype⟩ | ⟨hdata, hold⟩⟩ :=
        hmains.main_of_upsert hwritten h hconfig hmain <;>
      obtain ⟨-, -, ⟨hdata', htype'⟩ | ⟨hdata', hold'⟩⟩ :=
        hmains.main_of_upsert hwritten h hother hmain'
    · exact htype.trans htype'.symm
    · exact absurd hdata hdata'
    · exact absurd hdata' hdata
    · exact hmains.same config hold other hold' hmain hmain'

/-- With one row for each media server there is no second main row. -/
theorem OneMain.length_le_one (hmains : OneMain configs)
    (hrows : configs.Pairwise fun config other =>
      config.serviceType ∈ mediaServers → config.serviceType ≠ other.serviceType) :
    ((configs.filter (·.enabled)).filter (·.isMain)).length ≤ 1 := by
  have hsub : ((configs.filter (·.enabled)).filter (·.isMain)).Sublist configs :=
    List.filter_sublist.trans List.filter_sublist
  have hmain : ∀ row ∈ (configs.filter (·.enabled)).filter (·.isMain), row.isMain :=
    fun _ hrow => List.of_mem_filter hrow
  generalize (configs.filter (·.enabled)).filter (·.isMain) = mains at hsub hmain
  match mains with
  | [] | [_] => simp
  | config :: other :: rest =>
    simp only [List.forall_mem_cons] at hmain
    have hconfig := hsub.subset List.mem_cons_self
    have hother := hsub.subset (List.mem_cons_of_mem _ List.mem_cons_self)
    exact absurd (hmains.same config hconfig other hother hmain.1 hmain.2.1)
      (List.rel_of_pairwise_cons (hrows.sublist hsub) List.mem_cons_self
        (hmains.servers config hconfig hmain.1).1)

/-- In every run the main rows are enabled rows of one media server: a save that makes another
server the main one takes the place of the old one, and none disables it. So a start stops over two
main servers only where one media server has two rows. -/
theorem oneMain_run {s : System Extra} {events : List (Event Extra)}
    (hrun : System.run reader {} events = some s) : OneMain s.configs ∧
      ((s.configs.Pairwise fun config other =>
          config.serviceType ∈ mediaServers → config.serviceType ≠ other.serviceType) →
        ∀ healthy, loadEnabledServices reader s.configs healthy =
          (s.configs.filter (·.enabled)).foldlM
            (fun m config => loadService reader m config (healthy config.id)) {}) := by
  have hmains : OneMain s.configs := by
    refine Runs.invariant (I := fun s : System Extra => OneMain s.configs)
      (fun s₁ s₂ event h hstep => ?_) hrun ⟨by simp, by simp⟩
    cases s₁.does_of_step reader hstep with
    | save data reachable _ hcheck hupsert => exact h.upsert (eq_of_checkSave hcheck).2.2 hupsert
    | delete =>
      exact ⟨fun config hconfig => h.servers config (List.mem_of_mem_filter hconfig),
        fun config hconfig other hother => h.same config (List.mem_of_mem_filter hconfig) other
          (List.mem_of_mem_filter hother)⟩
    | claim workerId now =>
      have hconfigs : (s₁.claim workerId now).configs = s₁.configs := by
        rw [System.claim]
        split <;> rfl
      exact hconfigs ▸ h
    | _ => exact h
  exact ⟨hmains, fun hrows _ => if_neg (Nat.not_lt.mpr (hmains.length_le_one hrows))⟩

def mainServer (service : Service) : ServiceConfigUpdate Int where
  serviceType := service
  baseUrl := "http://media"
  apiKey := some "key"
  enabled := true
  isMain := true

/-- Jellyfin takes the place of Plex. -/
def switchesMain : List (Event Int) :=
  [.start (fun _ => true) 0, .save (mainServer .plex) true, .findSaved, .enqueueSaved 1,
    .save (mainServer .jellyfin) true]

def mainSwitchedTo : System Int := (System.run timeoutReader {} switchesMain).getD {}

theorem oneMain_run_switchesMain :
    mainSwitchedTo.configs.map ServiceConfig.isMain = [false, true] ∧
      OneMain mainSwitchedTo.configs := by
  have hrun : System.run timeoutReader {} switchesMain = some mainSwitchedTo := rfl
  exact ⟨rfl, (oneMain_run hrun).1⟩

end MediaMasterr.Services
