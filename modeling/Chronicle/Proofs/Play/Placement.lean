import Chronicle.Proofs.Play.Anchor

/-!
# Where scenarios are placed in the order of play

Each main scenario that is played brings in the side scenarios that follow it, directly or through
others, before the next main scenario has its turn. A scenario has one anchor at most, so a side
scenario is brought in by one main scenario only, and those that no main scenario brings in are left
for the end.
-/

namespace Chronicle

open Relation

/-! ## What is played -/

/-- A record in effect starts the scenario, as a custom one or as one of the guide. -/
def Record.HasStart (active : List Record) (id : ScenarioId) (custom : Bool) : Prop :=
  ∃ r ∈ active, r.scenario = some id ∧
    ∃ s, r.start? = some s ∧ (s.kind = .custom ↔ custom = true)

/-- The scenarios that are played: main scenarios of the guide that need not be started or are, and
side scenarios that are started, those of the guide as what they are and all others as custom. -/
inductive Guide.IsPlayed (g : Guide) (active : List Record) : ScenarioId → Prop where
  | main {s : Scenario} (hs : s ∈ g.scenarios) (hside : s.side = false)
      (hstart : s.implicitStart = true ∨ Record.HasStart active s.id false) : IsPlayed g active s.id
  | side {s : Scenario} (hs : s ∈ g.scenarios) (hside : s.side = true)
      (hstart : Record.HasStart active s.id false) : IsPlayed g active s.id
  | custom {id : ScenarioId} (hid : ∀ s ∈ g.scenarios, s.id ≠ id)
      (hstart : Record.HasStart active id true) : IsPlayed g active id

namespace Guide

variable {g : Guide} {active : List Record} {id : ScenarioId}

theorem allowsStart_iff {r : Record} :
    g.allowsStart r id = true ↔ r.scenario = some id ∧
      ∃ s, r.start? = some s ∧ (s.kind = .custom ↔ g.scenario? id = none) := by
  unfold allowsStart
  cases r.start? <;> simp

/-- A scenario is started as a custom one exactly if the guide does not have it. -/
theorem exists_allowsStart_iff :
    (∃ r ∈ active, g.allowsStart r id = true) ↔
      Record.HasStart active id (g.scenario? id).isNone := by
  simp only [allowsStart_iff, Record.HasStart, Option.isNone_iff_eq_none]

theorem contains_records_iff :
    (Starts.ofRecords g active).records.contains id = true ↔
      Record.HasStart active id (g.scenario? id).isNone := by
  rw [Dict.contains, Starts.get?_records_ofRecords, startRecord?, List.getLast?_isSome,
    ← exists_allowsStart_iff]
  constructor
  · intro h
    obtain ⟨r, hr⟩ := List.exists_mem_of_ne_nil _ h
    exact ⟨r, (List.mem_filter.mp hr).1, (List.mem_filter.mp hr).2⟩
  · rintro ⟨r, hr, hallows⟩
    exact List.ne_nil_of_mem (List.mem_filter.mpr ⟨hr, hallows⟩)

theorem mem_sidesStarted_iff :
    id ∈ g.sidesStarted active ↔
      g.isSide id = true ∧ Record.HasStart active id (g.scenario? id).isNone := by
  rw [sidesStarted, List.mem_eraseDups, List.mem_filterMap, ← exists_allowsStart_iff]
  simp only [sideOf?, Option.filter_eq_some_iff, Bool.and_eq_true]
  constructor
  · rintro ⟨r, hr, -, hallows, hside⟩
    exact ⟨hside, r, hr, hallows⟩
  · rintro ⟨hside, r, hr, hallows⟩
    exact ⟨r, hr, g.scenario_of_allowsStart hallows, hallows, hside⟩

theorem isNone_scenario?_iff : (g.scenario? id).isNone = true ↔ ∀ s ∈ g.scenarios, s.id ≠ id := by
  simp [scenario?]

theorem mem_playOrder_iff_isPlayed (hids : (g.scenarios.map (·.id)).Nodup) :
    id ∈ g.playOrder active ↔ g.IsPlayed active id := by
  rw [mem_playOrder_iff, Starts.mem_mains_iff hids, mem_sidesStarted_iff, contains_records_iff]
  constructor
  · rintro (⟨hside, s, hs, hstart⟩ | ⟨hside, hstart⟩)
    · obtain rfl := id_of_scenario?_eq_some hs
      rw [hs] at hstart
      refine .main (List.mem_of_find?_eq_some hs) ?_ hstart
      simpa [isSide, hs] using hside
    · cases hs : g.scenario? id with
      | some s =>
          obtain rfl := id_of_scenario?_eq_some hs
          rw [hs] at hstart
          refine .side (List.mem_of_find?_eq_some hs) ?_ hstart
          simpa [isSide, hs] using hside
      | none =>
          rw [hs] at hstart
          exact .custom (isNone_scenario?_iff.mp (by rw [hs]; rfl)) hstart
  · intro h
    cases h with
    | @main s hs hside hstart =>
        have hfind := scenario?_eq_some_of_mem hids hs
        left
        refine ⟨by simp [isSide, hfind, hside], s, hfind, ?_⟩
        rwa [hfind]
    | @side s hs hside hstart =>
        have hfind := scenario?_eq_some_of_mem hids hs
        right
        refine ⟨by simp [isSide, hfind, hside], ?_⟩
        rwa [hfind]
    | custom hid hstart =>
        have hnone := isNone_scenario?_iff.mpr hid
        right
        refine ⟨?_, by rwa [hnone]⟩
        rw [isSide, Option.isNone_iff_eq_none.mp hnone]
        rfl

end Guide

/-! ## Main scenarios and what they bring in -/

namespace Starts

variable {g : Guide} {active : List Record}

theorem follows_eq_anchored :
    (fun a b => a ∈ (ofRecords g active).followers g b) = g.Anchored active := by
  funext a b
  exact propext mem_followers_iff

theorem mains_sublist (g : Guide) (st : Starts) : (st.mains g).Sublist (g.scenarios.map (·.id)) :=
  List.filter_sublist.map _

theorem order_eq_append {st : Starts} {work rest : List ScenarioId}
    (h : st.candidates g = work ++ rest) :
    st.order g = arrange (st.followers g) (st.candidates g).eraseDups work ++
      arrange (st.followers g)
        ((st.candidates g).eraseDups.diff
          (arrange (st.followers g) (st.candidates g).eraseDups work)) rest := by
  rw [order_eq, ← arrange_append, ← h]

section Distinct

variable (hids : (g.scenarios.map (·.id)).Nodup)
include hids

theorem mem_mains_iff_playOrder {m : ScenarioId} :
    m ∈ (ofRecords g active).mains g ↔ m ∈ g.playOrder active ∧ g.isSide m = false := by
  rw [Guide.mem_playOrder_iff]
  constructor
  · intro h
    exact ⟨Or.inl h, ((mem_mains_iff hids).mp h).1⟩
  · rintro ⟨h | h, hside⟩
    · exact h
    · rw [Guide.isSide_of_mem_sidesStarted h] at hside
      cases hside

/-- A main scenario has no anchor. -/
theorem eq_of_reflTransGen_main {m a : ScenarioId} (hm : m ∈ (ofRecords g active).mains g)
    (h : ReflTransGen (g.Anchored active) m a) : m = a := by
  rcases h.cases_head with rfl | ⟨b, hmb, -⟩
  · rfl
  · have hside := Guide.isSide_of_mem_sidesStarted hmb.1
    rw [((mem_mains_iff hids).mp hm).1] at hside
    cases hside

/-- Two main scenarios that bring in the same scenario are one. -/
theorem eq_of_brought_in {x m m' : ScenarioId} (hm : m ∈ (ofRecords g active).mains g)
    (hm' : m' ∈ (ofRecords g active).mains g) (h : ReflTransGen (g.Anchored active) x m)
    (h' : ReflTransGen (g.Anchored active) x m') : m = m' := by
  have huniq : Relator.RightUnique (g.Anchored active) := by
    intro a b c hb hc
    exact Option.some.inj (hb.2.1.symm.trans hc.2.1)
  rcases h.total_of_right_unique huniq h' with hmm' | hm'm
  · exact eq_of_reflTransGen_main hids hm hmm'
  · exact (eq_of_reflTransGen_main hids hm' hm'm).symm

/-- A main scenario and all that it brings in stand next to each other. -/
theorem exists_branch {m : ScenarioId} (hm : m ∈ (ofRecords g active).mains g) :
    ∃ first branch rest, (ofRecords g active).order g = first ++ (m :: branch ++ rest) ∧
      ∀ x, x ∈ m :: branch ↔ ReflTransGen (g.Anchored active) x m := by
  obtain ⟨before, after, hmains⟩ := List.append_of_mem hm
  -- The order falls into what comes with the main scenarios before `m`, with `m`, and later.
  have hcandidates : (ofRecords g active).candidates g =
      before ++ ([m] ++ (after ++ (ofRecords g active).sides)) := by
    rw [candidates, hmains]
    simp
  have horder := order_eq_append hcandidates
  rw [arrange_append [m]] at horder
  generalize hfirst : arrange ((ofRecords g active).followers g)
    ((ofRecords g active).candidates g).eraseDups before = first at horder
  have hlineage : ∀ y, ReflTransGen (g.Anchored active) y m →
      y ∈ ((ofRecords g active).candidates g).eraseDups.diff first := by
    intro y hy
    rw [(nodup_eraseDups _).mem_sdiff_iff, List.mem_eraseDups]
    constructor
    · rcases hy.cases_head with rfl | ⟨b, hyb, -⟩
      · exact List.mem_append_left _ hm
      · apply List.mem_append_right
        rw [sides_ofRecords]
        exact hyb.1
    · intro hmem
      rw [← hfirst] at hmem
      obtain ⟨a, ha, hya⟩ := exists_reflTransGen_of_mem_arrange hmem
      rw [follows_eq_anchored] at hya
      have hamain : a ∈ (ofRecords g active).mains g := by
        rw [hmains]
        exact List.mem_append_left _ ha
      obtain rfl := eq_of_brought_in hids hm hamain hy hya
      have hnodup : ((ofRecords g active).mains g).Nodup := (mains_sublist g _).nodup hids
      rw [hmains, List.nodup_append] at hnodup
      exact hnodup.2.2 m ha m List.mem_cons_self rfl
  have hbranch : ∀ x, x ∈ arrange ((ofRecords g active).followers g)
      (((ofRecords g active).candidates g).eraseDups.diff first) [m] ↔
        ReflTransGen (g.Anchored active) x m := by
    intro x
    rw [← follows_eq_anchored] at hlineage ⊢
    exact mem_arrange_singleton_iff hlineage
  rw [arrange, if_pos (hlineage m .refl)] at horder hbranch
  exact ⟨_, _, _, horder, hbranch⟩

/-- What a main scenario brings in comes after it and before the next main scenario. -/
theorem idxOf_order_of_brought_in {m x : ScenarioId} (hm : m ∈ (ofRecords g active).mains g)
    (hx : TransGen (g.Anchored active) x m) :
    ((ofRecords g active).order g).idxOf m < ((ofRecords g active).order g).idxOf x ∧
      ∀ m' ∈ (ofRecords g active).mains g,
        ((ofRecords g active).order g).idxOf m' ≤ ((ofRecords g active).order g).idxOf m ∨
          ((ofRecords g active).order g).idxOf x < ((ofRecords g active).order g).idxOf m' := by
  obtain ⟨first, branch, rest, horder, hbranch⟩ := exists_branch hids hm
  have hnodup := nodup_order (g := g) (ofRecords g active)
  rw [horder, List.nodup_append] at hnodup
  obtain ⟨-, hright, hfirst⟩ := hnodup
  have hnot : ∀ y ∈ m :: branch, y ∉ first := by
    intro y hy hmem
    exact hfirst y hmem y (List.mem_append_left _ hy) rfl
  have hmx : x ∈ m :: branch := (hbranch x).mpr hx.to_reflTransGen
  have hmm : m ∈ m :: branch := List.mem_cons_self
  have hxm : m ≠ x := by
    rintro rfl
    obtain ⟨b, hmb, -⟩ := TransGen.head'_iff.mp hx
    exact hmb.2.2.1 (eq_of_reflTransGen_main hids hm (.single hmb)).symm
  have hlt : (m :: branch).idxOf x < (m :: branch).length := List.idxOf_lt_length_of_mem hmx
  have hmain : ∀ m' ∈ (ofRecords g active).mains g, m' ∈ first ∨ m' ∈ m :: branch ∨ m' ∈ rest := by
    intro m' hm'
    have hmem : m' ∈ (ofRecords g active).order g := mem_order_iff.mpr (List.mem_append_left _ hm')
    rwa [horder, List.mem_append, List.mem_append] at hmem
  rw [horder, List.idxOf_append_of_notMem (hnot m hmm), List.idxOf_append_of_notMem (hnot x hmx),
    List.idxOf_append_of_mem hmm, List.idxOf_append_of_mem hmx, List.idxOf_cons_self]
  constructor
  · rw [List.idxOf_cons_ne _ hxm]
    omega
  · intro m' hm'
    -- The other main scenario is in one of the three parts, and in the branch only if it is `m`.
    rcases hmain m' hm' with h | h | h
    · left
      have hlt' := List.idxOf_lt_length_of_mem h
      rw [List.idxOf_append_of_mem h]
      omega
    · left
      obtain rfl := eq_of_reflTransGen_main hids hm' ((hbranch m').mp h)
      rw [List.idxOf_append_of_notMem (hnot m' h), List.idxOf_append_of_mem h, List.idxOf_cons_self]
    · right
      have houtside : m' ∉ first := fun hmem =>
        hfirst m' hmem m' (List.mem_append_right _ h) rfl
      have hout : m' ∉ m :: branch := fun hmem =>
        (List.nodup_append.mp hright).2.2 m' hmem m' h rfl
      rw [List.idxOf_append_of_notMem houtside, List.idxOf_append_of_notMem hout]
      omega

end Distinct

/-- What no main scenario brings in comes after all main scenarios. -/
theorem idxOf_order_of_not_brought_in {x m : ScenarioId}
    (hx : ∀ a ∈ (ofRecords g active).mains g, ¬ ReflTransGen (g.Anchored active) x a)
    (hm : m ∈ (ofRecords g active).mains g) :
    ((ofRecords g active).order g).idxOf m < ((ofRecords g active).order g).idxOf x := by
  let pool := ((ofRecords g active).candidates g).eraseDups
  let first := arrange ((ofRecords g active).followers g) pool ((ofRecords g active).mains g)
  obtain ⟨rest, horder⟩ : ∃ rest, (ofRecords g active).order g = first ++ rest :=
    ⟨_, order_eq_append rfl⟩
  have hmem : m ∈ first := mem_arrange hm (List.mem_eraseDups.mpr (List.mem_append_left _ hm))
  have hnot : x ∉ first := by
    intro h
    obtain ⟨a, ha, hxa⟩ := exists_reflTransGen_of_mem_arrange h
    rw [follows_eq_anchored] at hxa
    exact hx a ha hxa
  rw [horder, List.idxOf_append_of_mem hmem, List.idxOf_append_of_notMem hnot]
  exact Nat.lt_add_right _ (List.idxOf_lt_length_of_mem hmem)

/-- The main scenarios stand in the order of the guide. -/
theorem filter_order_sublist :
    (((ofRecords g active).order g).filter (! g.isSide ·)).Sublist (g.scenarios.map (·.id)) := by
  have hfollowers : ∀ a b, a ∈ (ofRecords g active).followers g b → (! g.isSide a) = false := by
    intro a b h
    rw [Guide.isSide_of_mem_sidesStarted (mem_followers_iff.mp h).1]
    rfl
  have hsides : (ofRecords g active).sides.filter (! g.isSide ·) = [] := by
    rw [List.filter_eq_nil_iff, sides_ofRecords]
    intro a ha
    rw [Guide.isSide_of_mem_sidesStarted ha]
    simp
  have hcandidates : (((ofRecords g active).candidates g).filter (! g.isSide ·)).Sublist
      (g.scenarios.map (·.id)) := by
    rw [candidates, List.filter_append, hsides, List.append_nil]
    exact List.filter_sublist.trans (mains_sublist g _)
  rw [order_eq]
  exact (filter_arrange_sublist hfollowers).trans hcandidates

end Starts

/-! ## The order of play -/

namespace Guide

/-- **The order of play holds what is played, each scenario once and in its place.** The main
scenarios come in the order of the guide. A side scenario that a main scenario brings in, through
whatever anchors, comes after it and before the next main scenario; one that no main scenario brings
in comes after all of them. -/
theorem playOrder_enumerates (g : Guide) (j : Journal) (hids : (g.scenarios.map (·.id)).Nodup) :
    (g.playOrder j.active).Nodup ∧
      (∀ id, id ∈ g.playOrder j.active ↔ g.IsPlayed j.active id) ∧
      ((g.playOrder j.active).filter (! g.isSide ·)).Sublist (g.scenarios.map (·.id)) ∧
      (∀ m ∈ g.playOrder j.active, g.isSide m = false → ∀ x, TransGen (g.Anchored j.active) x m →
        (g.playOrder j.active).idxOf m < (g.playOrder j.active).idxOf x ∧
          ∀ m' ∈ g.playOrder j.active, g.isSide m' = false →
            (g.playOrder j.active).idxOf m' ≤ (g.playOrder j.active).idxOf m ∨
              (g.playOrder j.active).idxOf x < (g.playOrder j.active).idxOf m') ∧
      (∀ x ∈ g.playOrder j.active, g.isSide x = true →
        (∀ m ∈ g.playOrder j.active, g.isSide m = false → ¬ TransGen (g.Anchored j.active) x m) →
        ∀ m ∈ g.playOrder j.active, g.isSide m = false →
          (g.playOrder j.active).idxOf m < (g.playOrder j.active).idxOf x) := by
  have hmain : ∀ m, m ∈ (Starts.ofRecords g j.active).mains g ↔
      m ∈ g.playOrder j.active ∧ g.isSide m = false := fun m =>
    Starts.mem_mains_iff_playOrder hids
  refine ⟨nodup_playOrder, fun id => mem_playOrder_iff_isPlayed hids, ?_, ?_, ?_⟩
  · rw [playOrder_eq]
    exact Starts.filter_order_sublist
  · intro m hm hside x hx
    have hplaced := Starts.idxOf_order_of_brought_in hids ((hmain m).mpr ⟨hm, hside⟩) hx
    rw [← playOrder_eq] at hplaced
    refine ⟨hplaced.1, fun m' hm' hside' => ?_⟩
    exact hplaced.2 m' ((hmain m').mpr ⟨hm', hside'⟩)
  · intro x _ hxside hx m hm hside
    rw [playOrder_eq]
    refine Starts.idxOf_order_of_not_brought_in (fun a ha hxa => ?_) ((hmain m).mpr ⟨hm, hside⟩)
    obtain ⟨hplayed, haside⟩ := (hmain a).mp ha
    rcases Relation.reflTransGen_iff_eq_or_transGen.mp hxa with rfl | hxa
    · rw [haside] at hxside
      cases hxside
    · exact hx a hplayed haside hxa

open Sample

theorem playOrder_excursions :
    nightOfTheZealot.playOrder excursions.active =
      ["prologue", "y", "x", "the_gathering", "z"] := by
  have hcandidates : (Starts.ofRecords nightOfTheZealot excursions.active).candidates
      nightOfTheZealot = ["prologue", "the_gathering", "x", "y", "z"] := by
    decide
  have hpool : ["prologue", "the_gathering", "x", "y", "z"].eraseDups =
      ["prologue", "the_gathering", "x", "y", "z"] := by
    decide
  have hfollowers : ["prologue", "the_gathering", "x", "y", "z"].map
      ((Starts.ofRecords nightOfTheZealot excursions.active).followers nightOfTheZealot) =
        [["y"], [], [], ["x"], []] := by
    decide
  simp only [List.map_cons, List.map_nil, List.cons.injEq, and_true] at hfollowers
  obtain ⟨hprologue, hgathering, hx, hy, hz⟩ := hfollowers
  rw [playOrder_eq, Starts.order_eq, hcandidates, hpool]
  simp [Starts.arrange, hprologue, hgathering, hx, hy, hz]

/-- The prologue brings in `y` and through it `x`, before the next main scenario. What `z` follows
is a main scenario that nobody has started, so it is left for the end. -/
theorem playOrder_enumerates_of_excursions :
    (nightOfTheZealot.scenarios.map (·.id)).Nodup ∧
      nightOfTheZealot.playOrder excursions.active =
        ["prologue", "y", "x", "the_gathering", "z"] ∧
      nightOfTheZealot.IsPlayed excursions.active "z" ∧
      TransGen (nightOfTheZealot.Anchored excursions.active) "x" "prologue" ∧
      (nightOfTheZealot.playOrder excursions.active).idxOf "prologue" <
        (nightOfTheZealot.playOrder excursions.active).idxOf "x" ∧
      nightOfTheZealot.Anchored excursions.active "z" "the_midnight_masks" ∧
      (nightOfTheZealot.playOrder excursions.active).idxOf "the_gathering" <
        (nightOfTheZealot.playOrder excursions.active).idxOf "z" := by
  have hids : (nightOfTheZealot.scenarios.map (·.id)).Nodup := by decide
  obtain ⟨-, hmem, -, hbrought, hleft⟩ := playOrder_enumerates nightOfTheZealot excursions hids
  have hxy : nightOfTheZealot.Anchored excursions.active "x" "y" := by
    refine ⟨?_, ?_, ?_, ?_⟩ <;> decide
  have hyp : nightOfTheZealot.Anchored excursions.active "y" "prologue" := by
    refine ⟨?_, ?_, ?_, ?_⟩ <;> decide
  have hzm : nightOfTheZealot.Anchored excursions.active "z" "the_midnight_masks" := by
    refine ⟨?_, ?_, ?_, ?_⟩ <;> decide
  have hx : TransGen (nightOfTheZealot.Anchored excursions.active) "x" "prologue" :=
    .tail (.single hxy) hyp
  have hz : ∀ m ∈ nightOfTheZealot.playOrder excursions.active,
      nightOfTheZealot.isSide m = false →
        ¬ TransGen (nightOfTheZealot.Anchored excursions.active) "z" m := by
    intro m hm _ hled
    obtain ⟨b, hzb, hbm⟩ := TransGen.head'_iff.mp hled
    obtain rfl : "the_midnight_masks" = b := Option.some.inj (hzm.2.1.symm.trans hzb.2.1)
    rcases hbm.cases_head with rfl | ⟨c, hc, -⟩
    · rw [playOrder_excursions] at hm
      exact absurd hm (by decide)
    · exact absurd hc.1 (by decide)
  have hplayed : ∀ id ∈ ["prologue", "y", "x", "the_gathering", "z"],
      id ∈ nightOfTheZealot.playOrder excursions.active := by
    intro id hid
    rwa [playOrder_excursions]
  refine ⟨hids, playOrder_excursions, ?_, hx, ?_, hzm, ?_⟩
  · exact (hmem "z").mp (hplayed "z" (by decide))
  · exact (hbrought "prologue" (hplayed _ (by decide)) (by decide) "x" hx).1
  · exact hleft "z" (hplayed _ (by decide)) (by decide) hz "the_gathering"
      (hplayed _ (by decide)) (by decide)

end Guide
end Chronicle
