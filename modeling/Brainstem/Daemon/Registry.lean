import Brainstem.Lib.Updates

/-!
# The service registry

The services that a list of configs leaves registered, keyed by name.  The last entry of a
name decides whether it is registered, and as what:

    (fromConfigs configs).contains name  ↔  the last entry of that name is enabled
                                                                    (last_entry_decides)

The registry is a hash map, so the order in which it is iterated carries no meaning.
-/

namespace Brainstem.Daemon

structure ServiceConfig where
  name : String
  enabled : Bool
  deriving DecidableEq, Repr

def ServiceConfig.named (name : String) : ServiceConfig := ⟨name, true⟩

structure ServiceRegistry where
  services : Std.HashMap String ServiceConfig

namespace ServiceRegistry

def new : ServiceRegistry := ⟨∅⟩

def fromConfigs (configs : List ServiceConfig) : ServiceRegistry where
  services := configs.foldl
    (fun services cfg =>
      if cfg.enabled then services.insert cfg.name cfg else services.erase cfg.name)
    (.emptyWithCapacity configs.length)

def get (self : ServiceRegistry) (name : String) : Option ServiceConfig := self.services[name]?

def iter (self : ServiceRegistry) : List ServiceConfig := self.services.toList.map (·.2)

def len (self : ServiceRegistry) : ℕ := self.services.size

def isEmpty (self : ServiceRegistry) : Bool := self.services.isEmpty

def contains (self : ServiceRegistry) (name : String) : Bool := self.services.contains name

/-- No method tells the two apart, and iterating gives the same entries in some order. -/
structure Same (a b : ServiceRegistry) : Prop where
  get : ∀ name, a.get name = b.get name
  contains : ∀ name, a.contains name = b.contains name
  len : a.len = b.len
  isEmpty : a.isEmpty = b.isEmpty
  iter : a.iter.Perm b.iter

theorem Same.of_equiv {a b : ServiceRegistry} (h : a.services.Equiv b.services) : Same a b where
  get _ := h.getElem?_eq
  contains _ := h.contains_eq
  len := h.size_eq
  isEmpty := h.isEmpty_eq
  iter := h.toList_perm.map _

end ServiceRegistry

open ServiceRegistry

/-- The last entry of the list with this name. -/
def lastEntry (configs : List ServiceConfig) (name : String) : Option ServiceConfig :=
  Updates.last ServiceConfig.name configs name

/-- The distinct names whose last entry is enabled. -/
def enabledNames (configs : List ServiceConfig) : List String :=
  (configs.map ServiceConfig.name).dedup.filter fun name =>
    (lastEntry configs name).any ServiceConfig.enabled

/-- Entries with different names move past each other. -/
def Moved : List ServiceConfig → List ServiceConfig → Prop :=
  Relation.ReflTransGen (Updates.Swap ServiceConfig.name)

/-! ## The list as updates of the map -/

/-- What an entry puts at its name. -/
def ServiceConfig.registered (cfg : ServiceConfig) : Option ServiceConfig :=
  if cfg.enabled then some cfg else none

theorem ServiceConfig.registered_isSome (cfg : ServiceConfig) :
    cfg.registered.isSome = cfg.enabled := by
  unfold registered
  cases cfg.enabled <;> rfl

theorem services_fromConfigs (configs : List ServiceConfig) : (fromConfigs configs).services =
    Updates.applyAll ServiceConfig.name ServiceConfig.registered
      (.emptyWithCapacity configs.length) configs := by
  have hstep : (fun (services : Std.HashMap String ServiceConfig) (cfg : ServiceConfig) =>
      if cfg.enabled then services.insert cfg.name cfg else services.erase cfg.name) =
        Updates.apply ServiceConfig.name ServiceConfig.registered := by
    funext services cfg
    unfold Updates.apply ServiceConfig.registered
    cases cfg.enabled <;> rfl
  unfold fromConfigs Updates.applyAll
  dsimp only
  rw [hstep]

theorem get_fromConfigs (configs : List ServiceConfig) (name : String) :
    (fromConfigs configs).get name = (lastEntry configs name).bind ServiceConfig.registered := by
  unfold ServiceRegistry.get
  rw [services_fromConfigs, Updates.getElem?_applyAll]
  unfold lastEntry
  cases Updates.last ServiceConfig.name configs name with
  | none => exact Std.HashMap.getElem?_emptyWithCapacity
  | some cfg => rfl

theorem contains_fromConfigs (configs : List ServiceConfig) (name : String) :
    (fromConfigs configs).contains name = true ↔
      ∃ cfg, lastEntry configs name = some cfg ∧ cfg.enabled = true := by
  unfold ServiceRegistry.contains
  rw [Std.HashMap.contains_iff_mem, services_fromConfigs,
    Updates.mem_applyAll Std.HashMap.isEmpty_emptyWithCapacity]
  simp only [ServiceConfig.registered_isSome]
  rfl

theorem len_fromConfigs (configs : List ServiceConfig) :
    (fromConfigs configs).len = (enabledNames configs).length := by
  unfold ServiceRegistry.len
  rw [services_fromConfigs, Updates.size_applyAll Std.HashMap.isEmpty_emptyWithCapacity]
  simp only [ServiceConfig.registered_isSome]
  rfl

/-- What is iterated is what `get` finds. -/
theorem mem_iter (self : ServiceRegistry) (cfg : ServiceConfig) :
    cfg ∈ self.iter ↔ ∃ name, self.get name = some cfg := by
  unfold ServiceRegistry.iter ServiceRegistry.get
  rw [List.mem_map]
  constructor
  · rintro ⟨⟨name, cfg⟩, hmem, rfl⟩
    exact ⟨name, Std.HashMap.mem_toList_iff_getElem?_eq_some.1 hmem⟩
  · rintro ⟨name, hget⟩
    exact ⟨(name, cfg), Std.HashMap.mem_toList_iff_getElem?_eq_some.2 hget, rfl⟩

theorem registered_eq_some {cfg entry : ServiceConfig} :
    cfg.registered = some entry ↔ cfg = entry ∧ cfg.enabled = true := by
  unfold ServiceConfig.registered
  cases cfg.enabled <;> simp

/-- **The last entry per name decides.**  A name is registered when its last entry is enabled,
and then as that entry; no registered entry is disabled, and there are as many as names whose
last entry is enabled.  So moving entries of different names past each other changes nothing. -/
theorem last_entry_decides (configs : List ServiceConfig) :
    (∀ name, (fromConfigs configs).contains name = true ↔
      ∃ cfg, lastEntry configs name = some cfg ∧ cfg.enabled = true) ∧
    (∀ name, (fromConfigs configs).contains name = true →
      (fromConfigs configs).get name = lastEntry configs name) ∧
    (∀ cfg ∈ (fromConfigs configs).iter,
      cfg.enabled = true ∧ (fromConfigs configs).get cfg.name = some cfg) ∧
    (fromConfigs configs).len = (enabledNames configs).length ∧
    ∀ configs', Moved configs configs' → Same (fromConfigs configs) (fromConfigs configs') := by
  refine ⟨contains_fromConfigs configs, ?_, ?_, len_fromConfigs configs, ?_⟩
  · intro name hcontains
    obtain ⟨cfg, hlast, henabled⟩ := (contains_fromConfigs configs name).1 hcontains
    rw [get_fromConfigs, hlast]
    exact registered_eq_some.2 ⟨rfl, henabled⟩
  · intro cfg hcfg
    obtain ⟨name, hget⟩ := (mem_iter _ cfg).1 hcfg
    rw [get_fromConfigs] at hget
    obtain ⟨entry, hlast, hentry⟩ := Option.bind_eq_some_iff.1 hget
    obtain ⟨rfl, henabled⟩ := registered_eq_some.1 hentry
    obtain ⟨-, rfl⟩ := Updates.mem_of_last hlast
    refine ⟨henabled, ?_⟩
    rw [get_fromConfigs, hlast]
    exact hentry
  · intro configs' hmoved
    have hempty : (Std.HashMap.emptyWithCapacity configs.length :
        Std.HashMap String ServiceConfig).Equiv (.emptyWithCapacity configs'.length) := by
      apply Std.HashMap.Equiv.of_forall_getElem?_eq
      intro name
      rw [Std.HashMap.getElem?_emptyWithCapacity, Std.HashMap.getElem?_emptyWithCapacity]
    apply Same.of_equiv
    rw [services_fromConfigs, services_fromConfigs]
    exact Updates.applyAll_equiv hempty hmoved

/-- A service enabled, then another, then the first disabled: one is left, and it may have
come last. -/
theorem last_entry_decides_revoked :
    let configs := [ServiceConfig.named "a", .named "b", ⟨"a", false⟩]
    (fromConfigs configs).contains "b" = true ∧ (fromConfigs configs).contains "a" ≠ true ∧
      (fromConfigs configs).len = 1 ∧
      Same (fromConfigs configs) (fromConfigs [.named "a", ⟨"a", false⟩, .named "b"]) := by
  intro configs
  obtain ⟨hcontains, -, -, hlen, hmoved⟩ := last_entry_decides configs
  have hswap : Updates.Swap ServiceConfig.name configs [.named "a", ⟨"a", false⟩, .named "b"] :=
    .swap [ServiceConfig.named "a"] (.named "b") ⟨"a", false⟩ [] (by decide)
  refine ⟨(hcontains "b").2 ⟨.named "b", by decide, rfl⟩, ?_, hlen.trans (by decide),
    hmoved _ (.single hswap)⟩
  intro hregistered
  obtain ⟨cfg, hlast, henabled⟩ := (hcontains "a").1 hregistered
  have hrevoked : lastEntry configs "a" = some ⟨"a", false⟩ := by decide
  rw [hrevoked] at hlast
  cases hlast
  cases henabled

end Brainstem.Daemon
