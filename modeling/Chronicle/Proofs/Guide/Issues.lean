import Chronicle.Proofs.Guide.Structure

/-!
# What a guide without issues is like

In a guide without fatal issues the script holds together, so no two steps of a scenario have the
same id. In a guide without any issue everything that a step refers to is declared.
-/

namespace Chronicle

namespace Guide

/-- No two steps of a scenario have the same id. -/
theorem nodup_stepIds {g : Guide} {s : Scenario} (hvalid : g.fatalIssues = [])
    (hs : s ∈ g.scenarios) : s.stepIds.Nodup := by
  by_contra h
  exact fatalIssues_eq_nil_iff.mp hvalid (.sharedStepId hs h)

end Guide

/-! ## References -/

/-- A step goes only to steps of its scenario, and refers only to what the guide declares. -/
structure Step.Declared (g : Guide) (s : Scenario) (t : Step) : Prop where
  targets : ∀ target ∈ t.targets, target ∈ s.stepIds
  references : ∀ r ∈ t.logReferences, r.isDeclared g = true
  achievements : ∀ id ∈ t.achievements, (g.achievement? id).isSome = true

namespace Guide

theorem declared_of_issues {g : Guide} {s : Scenario} {t : Step} (hvalid : g.issues = [])
    (hs : s ∈ g.scenarios) (ht : t ∈ s.steps) : t.Declared g s := by
  have hnone : ∀ i : Issue, ¬ i.Holds g := by
    intro i hi
    have hissue := mem_issues_iff.mpr hi
    rw [hvalid] at hissue
    exact List.not_mem_nil hissue
  constructor
  · intro target htarget
    by_contra hmem
    refine hnone _ (.unknownTarget hs ht (Step.mem_targets_iff.mp htarget) ?_)
    intro t' ht' hid
    exact hmem (hid ▸ List.mem_map_of_mem ht')
  · intro r hr
    by_contra hdeclared
    refine hnone _ (.unknownLogReference hs ht (Step.mem_logReferences_iff.mp hr) ?_)
    rwa [← LogReference.isDeclared_iff]
  · intro id hid
    by_contra hdeclared
    refine hnone _ (.unknownAchievement hs ht (Step.mem_achievements_iff.mp hid) ?_)
    rwa [← achievement?_eq_none_iff, ← Option.not_isSome_iff_eq_none]

end Guide
end Chronicle
