import Mathlib.Data.List.Sort
import Dss.BusScanner

/-!
# What a cluster adopts

A cluster that has been set from a specification should be equal to it, with the locked scenes as a
set. `setFromSpec` forgets the floor, and `isConfigEqual` compares the locked scenes one by one.
-/

namespace Dss

namespace Cluster

variable {c : Cluster} {spec : ClusterSpec}

/-! ## The law -/

def MayTake (c : Cluster) (spec : ClusterSpec) : Prop :=
  ∃ t, spec.applicationType = some t ∧ (c.typeIsFixed = false ∨ c.applicationType = t)

/-- All attributes agree, the locked scenes as a set. -/
structure Agrees (c : Cluster) (spec : ClusterSpec) : Prop where
  name : c.name = spec.name
  applicationType : some c.applicationType = spec.applicationType
  applicationConfiguration : c.applicationConfiguration = spec.applicationConfiguration
  location : c.location = spec.location
  protectionClass : c.protectionClass = spec.protectionClass
  floor : c.floor = spec.floor
  configurationLocked : c.configurationLocked = spec.configurationLocked
  lockedScenes : ∀ scene, scene ∈ c.lockedScenes ↔ scene ∈ spec.lockedScenes

/-- **The law of adoption**, for a cluster and a specification. -/
structure Adopts (c : Cluster) (spec : ClusterSpec) : Prop where
  adoption : c.MayTake spec → (c.setFromSpec spec).isConfigEqual spec = true
  equality : c.isConfigEqual spec = true ↔ c.Agrees spec

/-- When the law holds: a cluster that may take the type has the floor already, and one that agrees
lists the locked scenes as the specification does. -/
structure AdoptionFits (c : Cluster) (spec : ClusterSpec) : Prop where
  floor : c.MayTake spec → c.floor = spec.floor
  order : c.Agrees spec → c.lockedScenes = spec.lockedScenes

/-! ## What the two functions do -/

theorem MayTake.takenType (h : c.MayTake spec) :
    some (c.toGroup.takenType spec.applicationType) = spec.applicationType := by
  obtain ⟨t, ht, hfixed⟩ := h
  rw [Group.takenType, ht]
  split_ifs with hsame hlocked
  · exact hsame
  · have hfree : c.applicationType = t := hfixed.resolve_left fun h => by
      rw [h] at hlocked
      cases hlocked
    rw [hfree]
  · rfl

theorem isConfigEqual_setFromSpec (h : c.MayTake spec) :
    (c.setFromSpec spec).isConfigEqual spec = true ↔ c.floor = spec.floor := by
  rw [isConfigEqual_iff, setFromSpec, Group.setFromSpec_eq]
  exact ⟨fun hequal => hequal.2.2, fun hfloor =>
    ⟨⟨rfl, rfl, rfl, rfl, rfl, rfl⟩, h.takenType, hfloor⟩⟩

theorem isConfigEqual_iff_agrees : c.isConfigEqual spec = true ↔
    c.Agrees spec ∧ c.lockedScenes = spec.lockedScenes := by
  rw [isConfigEqual_iff]
  constructor
  · rintro ⟨⟨hname, hconf, hlocation, hclass, hlock, hscenes⟩, htype, hfloor⟩
    exact ⟨⟨hname, htype, hconf, hlocation, hclass, hfloor, hlock, fun _ => by rw [hscenes]⟩,
      hscenes⟩
  · rintro ⟨h, hscenes⟩
    exact ⟨⟨h.name, h.applicationConfiguration, h.location, h.protectionClass,
      h.configurationLocked, hscenes⟩, h.applicationType, h.floor⟩

/-- **A cluster adopts a specification if and only if its floor is the same already, and its locked
scenes are not the same in another order.** -/
theorem adopts_iff (c : Cluster) (spec : ClusterSpec) : c.Adopts spec ↔ c.AdoptionFits spec := by
  constructor
  · intro h
    refine ⟨fun htake => ?_, fun hagrees => ?_⟩
    · exact (isConfigEqual_setFromSpec htake).mp (h.adoption htake)
    · exact (isConfigEqual_iff_agrees.1 (h.equality.mpr hagrees)).2
  · intro h
    refine ⟨fun htake => (isConfigEqual_setFromSpec htake).mpr (h.floor htake), ?_⟩
    rw [isConfigEqual_iff_agrees]
    exact and_iff_left_of_imp h.order

/-- A cluster on the ground floor meets the report that it is on the third one. -/
theorem adopts_fails : ¬ Adopts { groupID := 16 }
    { groupID := 16, applicationType := some .lights, name := "", applicationConfiguration := 0
      protectionClass := 0, location := 0, floor := 3, configurationLocked := false
      lockedScenes := [], isCluster := rfl } := by
  intro h
  have hequal := h.adoption ⟨.lights, rfl, Or.inl rfl⟩
  cases hequal

/-! ## The scanner -/

end Cluster

end Dss
