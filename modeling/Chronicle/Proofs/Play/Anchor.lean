import Chronicle.Proofs.Play.Order
import Chronicle.Sample.Evening
import Chronicle.Sample.NightOfTheZealot
import Mathlib.Data.List.Permutation
import Mathlib.Data.String.Basic

/-!
# Side scenarios and their anchors

A side scenario comes after the scenario it was started to be played after exactly if something in
its lineage leads it there: a main scenario that is played, or a side scenario that was started
before it. A lineage of side scenarios alone is played from the one that was started first, so a
side scenario that was started before everything it follows comes first.
-/

namespace Chronicle

open Relation

namespace Guide

/-- The scenario that a scenario was last started to be played after. -/
def after? (g : Guide) (active : List Record) (id : ScenarioId) : Option ScenarioId :=
  ((g.startRecord? active id).bind (·.start?)).bind (·.after?)

/-- Whether `x` is a side scenario to be played after `y`, which is another scenario of the guide
or one that is started. -/
def Anchored (g : Guide) (active : List Record) (x y : ScenarioId) : Prop :=
  x ∈ g.sidesStarted active ∧ g.after? active x = some y ∧ y ≠ x ∧
    ((g.scenario? y).isSome ∨ (g.startRecord? active y).isSome)

/-- Whether the order of play comes to something that `x` follows, directly or through others,
before it comes to `x` as a side scenario of its own: to a main scenario that is played, or to a
side scenario started before `x`. -/
def IsLed (g : Guide) (active : List Record) (x : ScenarioId) : Prop :=
  ∃ a, TransGen (g.Anchored active) x a ∧
    (g.isSide a = false ∧ a ∈ g.playOrder active ∨
      (g.sidesStarted active).idxOf a < (g.sidesStarted active).idxOf x)

end Guide

namespace Starts

variable {g : Guide} {active : List Record}

theorem after?_ofRecords (id : ScenarioId) :
    (ofRecords g active).after? id = g.after? active id := by
  simp [after?, start?, Guide.after?, get?_records_ofRecords]

theorem mem_followers_iff {x y : ScenarioId} :
    x ∈ (ofRecords g active).followers g y ↔ g.Anchored active x y := by
  simp only [followers, List.mem_filter, sides_ofRecords, after?_ofRecords, isAnchor, Dict.contains,
    get?_records_ofRecords, Guide.Anchored, decide_eq_true_eq, Bool.and_eq_true, Bool.or_eq_true]
  tauto

theorem eq_of_mem_followers {x y z : ScenarioId} (hy : x ∈ (ofRecords g active).followers g y)
    (hz : x ∈ (ofRecords g active).followers g z) : y = z := by
  rw [mem_followers_iff] at hy hz
  exact Option.some.inj (hy.2.1.symm.trans hz.2.1)

/-- Of a scenario and the one it follows, the latter is played first exactly if the candidates hold
something of its lineage before the scenario itself. -/
theorem idxOf_order_lt_iff {x y : ScenarioId} {st : Starts}
    (huniq : ∀ a b c, a ∈ st.followers g b → a ∈ st.followers g c → b = c)
    (hxy : x ∈ st.followers g y)
    (hacyclic : ¬ TransGen (fun a b => a ∈ st.followers g b) x x) :
    (st.order g).idxOf y < (st.order g).idxOf x ↔
      ∃ a, TransGen (fun a b => a ∈ st.followers g b) x a ∧
        (st.candidates g).idxOf a < (st.candidates g).idxOf x := by
  have hside : ∀ {a b}, a ∈ st.followers g b → a ∈ st.candidates g := fun h =>
    List.mem_append_right _ (List.mem_of_mem_filter h)
  constructor
  · intro hlt
    by_contra hnone
    have hfirst : ∀ a, TransGen (fun a b => a ∈ st.followers g b) x a →
        (st.candidates g).idxOf x < (st.candidates g).idxOf a := by
      intro a ha
      refine Nat.lt_of_le_of_ne (Nat.le_of_not_lt fun h => hnone ⟨a, ha, h⟩) fun heq => ?_
      have hax : x = a := (List.idxOf_inj (hside hxy)).mp heq
      exact hacyclic (by rwa [← hax] at ha)
    have hbefore := idxOf_arrange_lt_of_first hxy (List.mem_eraseDups.mpr (hside hxy))
      (hside hxy) hfirst
    rw [order_eq] at hlt
    omega
  · rintro ⟨a, ha, hlt⟩
    obtain ⟨b, hxb, hba⟩ := TransGen.head'_iff.mp ha
    -- What `x` follows is unique, so the lineage that leads to `a` begins with `y`.
    obtain rfl := huniq x b y hxb hxy
    obtain ⟨path, hchain, hlast⟩ := List.exists_isChain_cons_of_relationReflTransGen hba
    have hmem : ∀ c ∈ b :: path, c ∈ st.candidates g := by
      refine hchain.backwards_cons_induction _ _ hlast (fun _ _ h _ => hside h) ?_
      exact List.idxOf_lt_length_iff.mp (lt_of_lt_of_le hlt List.idxOf_le_length)
    have hlineage : ∀ c ∈ b :: path, TransGen (fun a b => a ∈ st.followers g b) x c := by
      have hpair := List.isChain_iff_pairwise.mp
        ((hchain.cons_cons hxb).imp fun _ _ h => TransGen.single h)
      exact fun c hc => List.rel_of_pairwise_cons hpair hc
    refine idxOf_arrange_lt_of_lineage huniq (hchain.cons_cons hxb) ?_
      (fun h => hacyclic (hlineage x h)) ⟨a, hlast ▸ List.getLast_mem _, hlt⟩
    intro c hc
    rw [List.mem_eraseDups]
    rcases List.mem_cons.mp hc with rfl | hc
    · exact hside hxy
    · exact hmem c hc

end Starts

namespace Guide

variable {g : Guide}

theorem idxOf_candidates_lt_iff (hids : (g.scenarios.map (·.id)).Nodup) {active : List Record}
    {a x : ScenarioId} (hx : x ∈ g.sidesStarted active) :
    ((Starts.ofRecords g active).candidates g).idxOf a <
        ((Starts.ofRecords g active).candidates g).idxOf x ↔
      g.isSide a = false ∧ a ∈ g.playOrder active ∨
        (g.sidesStarted active).idxOf a < (g.sidesStarted active).idxOf x := by
  have hxmain : x ∉ (Starts.ofRecords g active).mains g := by
    rw [Starts.mem_mains_iff hids, isSide_of_mem_sidesStarted hx]
    simp
  have hmain : a ∈ (Starts.ofRecords g active).mains g ↔
      g.isSide a = false ∧ a ∈ g.playOrder active := by
    rw [mem_playOrder_iff]
    constructor
    · intro h
      exact ⟨((Starts.mem_mains_iff hids).mp h).1, Or.inl h⟩
    · rintro ⟨hside, h | h⟩
      · exact h
      · rw [isSide_of_mem_sidesStarted h] at hside
        cases hside
  rw [← hmain, Starts.candidates, Starts.sides_ofRecords, List.idxOf_append_of_notMem hxmain]
  by_cases ha : a ∈ (Starts.ofRecords g active).mains g
  · have hlt := List.idxOf_lt_length_of_mem ha
    rw [List.idxOf_append_of_mem ha]
    exact ⟨fun _ => Or.inl ha, fun _ => by omega⟩
  · rw [List.idxOf_append_of_notMem ha]
    simp [ha]

/-- What is played is a scenario of the guide or has a record that starts it. -/
theorem isKnown_of_mem_playOrder (hids : (g.scenarios.map (·.id)).Nodup) {active : List Record}
    {id : ScenarioId} (h : id ∈ g.playOrder active) :
    (g.scenario? id).isSome ∨ (g.startRecord? active id).isSome := by
  rw [mem_playOrder_iff, Starts.mem_mains_iff hids] at h
  rcases h with ⟨-, s, hs, -⟩ | h
  · exact Or.inl (by rw [hs]; rfl)
  · exact Or.inr (isSome_startRecord?_of_mem_sidesStarted h)

/-- **A side scenario comes after its anchor exactly if it is led.** Let `x` be a side scenario
that was last started to be played after `y`, let `y` be played, and let no lineage lead from `x`
back to `x`. Both are played, in the order in which the playthrough lists them, and `y` comes before
`x` exactly if the lineage of `x` holds a main scenario that is played or a side scenario that was
started before `x`. -/
theorem anchor_before_iff_isLed (g : Guide) (j : Journal) (p : Playthrough)
    (hids : (g.scenarios.map (·.id)).Nodup) (hplay : g.play j = .ok p) (x y : ScenarioId)
    (hx : x ∈ g.sidesStarted j.active) (hafter : g.after? j.active x = some y) (hne : y ≠ x)
    (hy : y ∈ g.playOrder j.active) (hacyclic : ¬ TransGen (g.Anchored j.active) x x) :
    (∃ unplayed, p.order = g.playOrder j.active ++ unplayed) ∧ x ∈ g.playOrder j.active ∧
      (p.order.idxOf y < p.order.idxOf x ↔ g.IsLed j.active x) := by
  obtain ⟨unplayed, horder⟩ := order_of_play hplay
  have hfollows : (fun a b => a ∈ (Starts.ofRecords g j.active).followers g b) =
      g.Anchored j.active := by
    funext a b
    exact propext Starts.mem_followers_iff
  have hxy : x ∈ (Starts.ofRecords g j.active).followers g y := by
    rw [Starts.mem_followers_iff]
    exact ⟨hx, hafter, hne, isKnown_of_mem_playOrder hids hy⟩
  have hxo : x ∈ g.playOrder j.active := mem_playOrder_iff.mpr (Or.inr hx)
  refine ⟨⟨unplayed, horder⟩, hxo, ?_⟩
  rw [horder, List.idxOf_append_of_mem hy, List.idxOf_append_of_mem hxo, playOrder_eq,
    Starts.idxOf_order_lt_iff (fun _ _ _ => Starts.eq_of_mem_followers) hxy (by rwa [hfollows]),
    hfollows]
  simp only [IsLed, idxOf_candidates_lt_iff hids hx]

/-- Anchors along which a rank grows lead nowhere back. -/
theorem acyclic_of_rank {active : List Record} (rank : ScenarioId → Nat)
    (h : ∀ a b, g.Anchored active a b → rank a < rank b) (x : ScenarioId) :
    ¬ TransGen (g.Anchored active) x x := by
  intro hx
  have hlt : TransGen (· < ·) (rank x) (rank x) := hx.lift rank h
  rw [transGen_eq_self] at hlt
  exact lt_irrefl _ hlt

open Sample

theorem acyclic_crossedStarts (after : Option ScenarioId) (hx : after ≠ some "x")
    (hy : after ≠ some "y") :
    ¬ TransGen (nightOfTheZealot.Anchored (crossedStarts after).active) "x" "x" := by
  refine acyclic_of_rank (fun id => if id = "x" then 0 else if id = "y" then 1 else 2) ?_ "x"
  rintro a b ⟨ha, hafter, -, -⟩
  have hsides : nightOfTheZealot.sidesStarted (crossedStarts after).active = ["x", "y"] := by
    rfl
  rw [hsides, List.mem_pair] at ha
  rcases ha with rfl | rfl
  · have hb : some "y" = some b := hafter
    cases hb
    decide
  · have hb : after = some b := hafter
    have hbx : b ≠ "x" := fun h => hx (h ▸ hb)
    have hby : b ≠ "y" := fun h => hy (h ▸ hb)
    simp [hbx, hby]

/-- Where `y` follows the prologue, which is played, the prologue leads both. -/
theorem anchor_before_iff_isLed_of_prologue :
    ∃ p, (nightOfTheZealot.scenarios.map (·.id)).Nodup ∧
      nightOfTheZealot.play (crossedStarts (some "prologue")) = .ok p ∧
      "x" ∈ nightOfTheZealot.sidesStarted (crossedStarts (some "prologue")).active ∧
      nightOfTheZealot.after? (crossedStarts (some "prologue")).active "x" = some "y" ∧
      "y" ∈ nightOfTheZealot.playOrder (crossedStarts (some "prologue")).active ∧
      ¬ TransGen (nightOfTheZealot.Anchored (crossedStarts (some "prologue")).active)
        "x" "x" ∧
      (p.order.idxOf "y" < p.order.idxOf "x" ↔
        nightOfTheZealot.IsLed (crossedStarts (some "prologue")).active "x") := by
  have hids : (nightOfTheZealot.scenarios.map (·.id)).Nodup := by decide
  have hx : "x" ∈ nightOfTheZealot.sidesStarted
      (crossedStarts (some "prologue")).active := by decide
  have hafter : nightOfTheZealot.after? (crossedStarts (some "prologue")).active "x" =
      some "y" := by decide
  have hy : "y" ∈ nightOfTheZealot.playOrder
      (crossedStarts (some "prologue")).active := by
    rw [mem_playOrder_iff]
    decide
  have hacyclic := acyclic_crossedStarts (some "prologue") (by decide) (by decide)
  exact ⟨_, hids, rfl, hx, hafter, hy, hacyclic,
    (anchor_before_iff_isLed _ (crossedStarts (some "prologue")) _ hids rfl "x" "y" hx hafter
      (by decide) hy hacyclic).2.2⟩

/-- A side scenario that was started before everything it follows is played before its anchor. -/
theorem side_before_anchor :
    ∃ p, (nightOfTheZealot.scenarios.map (·.id)).Nodup ∧
      nightOfTheZealot.play (crossedStarts none) = .ok p ∧
      "x" ∈ nightOfTheZealot.sidesStarted (crossedStarts none).active ∧
      nightOfTheZealot.after? (crossedStarts none).active "x" = some "y" ∧
      "y" ∈ nightOfTheZealot.playOrder (crossedStarts none).active ∧
      ¬ TransGen (nightOfTheZealot.Anchored (crossedStarts none).active) "x" "x" ∧
      ¬ p.order.idxOf "y" < p.order.idxOf "x" := by
  refine ⟨_, by decide, rfl, by decide, by decide, ?_,
    acyclic_crossedStarts _ (by decide) (by decide), ?_⟩
  · rw [mem_playOrder_iff]
    decide
  · have horder : (nightOfTheZealot.outcome (crossedStarts none).setup
        (crossedStarts none).active).order = ["prologue", "x", "y", "the_gathering",
          "the_midnight_masks", "curse_of_the_rougarou", "the_devourer_below"] := by
      cbv
    rw [horder]
    decide

end Guide
end Chronicle
