import Chronicle.Proofs.Play.Causality
import Chronicle.Proofs.Play.Roster

/-!
# The campaign log is kept in order

However a campaign went, its log has only sections that the guide declares, and in each no entry
twice. No supply is below zero, and no token is in the chaos bag of which there is none. The
investigators are those of the setup, and whoever leads a scenario is one of them. Whatever writes
into the log keeps it so: the effects of steps, answers, operations on achievements, custom side
scenarios, and taking back a scenario that goes in circles.
-/

namespace Chronicle

open Number

/-! ## Investigators -/

namespace InvestigatorState

/-- No supply is below zero. -/
def Stocked (i : InvestigatorState) : Prop := ∀ supply n, i.supplies.get? supply = some n → 0 ≤ n

/-- The state of the same investigator later on. -/
structure Later (i i' : InvestigatorState) : Prop where
  name : i'.name = i.name
  health : i'.health = i.health
  sanity : i'.sanity = i.sanity
  stocked : i.Stocked → i'.Stocked

theorem Later.refl (i : InvestigatorState) : i.Later i := ⟨rfl, rfl, rfl, id⟩

theorem Later.trans {i i' i'' : InvestigatorState} (h : i.Later i') (h' : i'.Later i'') :
    i.Later i'' :=
  ⟨h'.name.trans h.name, h'.health.trans h.health, h'.sanity.trans h.sanity,
    fun hi => h'.stocked (h.stocked hi)⟩

theorem later_earn (i : InvestigatorState) (xp : UInt32) : i.Later (i.earn xp) :=
  ⟨rfl, rfl, rfl, id⟩

theorem later_spend (i : InvestigatorState) (xp : UInt32) : i.Later (i.spend xp) :=
  ⟨rfl, rfl, rfl, id⟩

/-- Words are ordered as their numbers, but not as a lattice that the library knows. -/
theorem zero_le_max_zero (n : Int32) : 0 ≤ max n 0 := by
  change 0 ≤ if n ≤ 0 then 0 else n
  split
  · exact Int32.le_refl 0
  · rename_i hn
    exact Int32.le_of_lt (Int32.not_le.mp hn)

theorem stocked_adjustSupply {i : InvestigatorState} (h : i.Stocked) (supply : SupplyId)
    (delta : Int32) : (i.adjustSupply supply delta).Stocked := by
  intro supply' n hn
  rw [adjustSupply, Dict.alter, Dict.get?_insert] at hn
  split at hn
  · cases hn
    exact zero_le_max_zero _
  · exact h supply' n hn

theorem Edit.later {i i' : InvestigatorState} (h : Edit i i') : i.Later i' := by
  cases h with
  | suffer t => exact ⟨rfl, rfl, rfl, id⟩
  | adjustSupply supply delta =>
      exact ⟨rfl, rfl, rfl, fun hi => stocked_adjustSupply hi supply delta⟩

theorem later_of_edits {i i' : InvestigatorState} (h : Relation.ReflTransGen Edit i i') :
    i.Later i' := by
  induction h with
  | refl => exact .refl i
  | tail _ hedit ih => exact ih.trans hedit.later

end InvestigatorState

/-! ## Sections -/

namespace CampaignLog

/-- Writing an entry adds its id if it is not there, and no other. -/
theorem map_id_inscribe {fresh : Inscription} {f : Inscription → Inscription}
    (hf : ∀ e, (f e).id = e.id) (es : List Inscription) :
    (inscribe fresh f es).map (·.id) =
      if fresh.id ∈ es.map (·.id) then es.map (·.id) else es.map (·.id) ++ [fresh.id] := by
  induction es with
  | nil => rfl
  | cons e es ih =>
      rw [inscribe]
      by_cases hid : e.id = fresh.id
      · simp [hid, hf]
      · have hne : fresh.id ≠ e.id := Ne.symm hid
        rw [if_neg hid, List.map_cons, ih]
        by_cases hmem : fresh.id ∈ es.map (·.id) <;> simp [hmem, hne]

theorem nodup_inscribe {fresh : Inscription} {f : Inscription → Inscription}
    (hf : ∀ e, (f e).id = e.id) {es : List Inscription} (h : (es.map (·.id)).Nodup) :
    ((inscribe fresh f es).map (·.id)).Nodup := by
  rw [map_id_inscribe hf]
  split
  · exact h
  · rename_i hmem
    exact List.nodup_append.mpr ⟨h, List.nodup_singleton _, by grind⟩

/-! ## The whole log -/

/-- A campaign log in order, when of the scenarios of the guide only those in `played` may have been
started. -/
structure Tidy (g : Guide) (setup : Setup) (played : List ScenarioId) (l : CampaignLog) : Prop
    extends Manned setup l where
  sections : ∀ s es, l.sections.get? s = some es →
    (g.section? s).isSome = true ∧ (es.map (·.id)).Nodup
  supplies : ∀ id i, l.investigators.get? id = some i → i.Stocked
  chaosBag : ∀ token n, l.chaosBag.get? token = some n → 0 < n
  profiles : ∀ i ∈ setup.investigators, ∃ state, l.investigators.get? i.id = some state ∧
    state.name = i.name ∧ state.health = i.health ∧ state.sanity = i.sanity
  started : ∀ s id, l.lead? s = some id → s ∈ played ∧ (g.scenario? s).isSome = true

namespace Tidy

variable {g : Guide} {setup : Setup} {played : List ScenarioId} {l : CampaignLog}

/-- The other parts of the log may be anything. -/
theorem congr (h : l.Tidy g setup played) {l' : CampaignLog} (hsections : l'.sections = l.sections)
    (hinvestigators : l'.investigators = l.investigators) (hbag : l'.chaosBag = l.chaosBag)
    (hleads : l'.leads = l.leads) : l'.Tidy g setup played := by
  constructor
  · exact h.toManned.congr (by rw [hinvestigators]) hleads
  · rw [hsections]
    exact h.sections
  · rw [hinvestigators]
    exact h.supplies
  · rw [hbag]
    exact h.chaosBag
  · rw [hinvestigators]
    exact h.profiles
  · unfold lead?
    rw [hleads]
    exact h.started

/-- Investigators may only change to what they are later on. -/
theorem withInvestigators (h : l.Tidy g setup played)
    {investigators : Dict InvestigatorId InvestigatorState}
    {f : InvestigatorId → InvestigatorState → InvestigatorState}
    (hget : ∀ id, investigators.get? id = (l.investigators.get? id).map (f id))
    (hf : ∀ id (i : InvestigatorState), i.Later (f id i)) :
    { l with investigators }.Tidy g setup played := by
  have hroster : ∀ id, id ∈ investigators.keys ↔ id ∈ setup.roster := by
    intro id
    rw [Dict.mem_keys_iff, hget, Option.isSome_map, ← Dict.mem_keys_iff, h.investigators]
  constructor
  · exact ⟨hroster, h.leads⟩
  · exact h.sections
  · intro id i hi
    rw [hget, Option.map_eq_some_iff] at hi
    obtain ⟨i, hbefore, rfl⟩ := hi
    exact (hf id i).stocked (h.supplies id i hbefore)
  · exact h.chaosBag
  · intro i hi
    obtain ⟨state, hstate, hname, hhealth, hsanity⟩ := h.profiles i hi
    refine ⟨f i.id state, by rw [hget, hstate]; rfl, ?_, ?_, ?_⟩
    · rw [(hf _ _).name, hname]
    · rw [(hf _ _).health, hhealth]
    · rw [(hf _ _).sanity, hsanity]
  · exact h.started

theorem modifyInvestigator (h : l.Tidy g setup played) (id : InvestigatorId)
    {f : InvestigatorState → InvestigatorState} (hf : ∀ i : InvestigatorState, i.Later (f i)) :
    (l.modifyInvestigator id f).Tidy g setup played := by
  apply h.withInvestigators (l.get?_investigators_modifyInvestigator id f)
  intro id' i
  split
  · exact hf i
  · exact .refl i

theorem alterSection (h : l.Tidy g setup played) {s : SectionId}
    (hs : (g.section? s).isSome = true) {f : List Inscription → List Inscription}
    (hf : ∀ es, (es.map (·.id)).Nodup → ((f es).map (·.id)).Nodup) :
    { l with sections := l.sections.alter s [] f }.Tidy g setup played := by
  refine ⟨⟨h.investigators, h.leads⟩, fun s' es hes => ?_, h.supplies, h.chaosBag, h.profiles,
    h.started⟩
  rw [Dict.alter, Dict.get?_insert] at hes
  split at hes
  next heq =>
      cases hes
      refine ⟨heq ▸ hs, hf _ ?_⟩
      rw [Dict.getD]
      cases hold : l.sections.get? s with
      | none => exact List.nodup_nil
      | some es => exact (h.sections s es hold).2
  next => exact h.sections s' es hes

theorem adjustChaosBag (h : l.Tidy g setup played) (token : TokenId) (delta : Int32) :
    (l.adjustChaosBag token delta).Tidy g setup played := by
  refine ⟨⟨h.investigators, h.leads⟩, h.sections, h.supplies, fun token' n hn => ?_, h.profiles,
    h.started⟩
  simp only [CampaignLog.adjustChaosBag] at hn
  split at hn
  next => exact h.chaosBag token' n (Dict.get?_of_get?_erase hn)
  next hpos =>
      rw [Dict.get?_insert] at hn
      split at hn
      · cases hn
        exact UInt32.pos_iff_ne_zero.mpr hpos
      · exact h.chaosBag token' n hn

/-- Whatever a step does to the log, it leaves it in order. -/
theorem edit (h : l.Tidy g setup played) {es : List Effect} {l' : CampaignLog}
    (hedit : Edit g es l l') : l'.Tidy g setup played := by
  cases hedit with
  | openSection hs => exact h.alterSection hs fun _ hes => hes
  | record hs entry text =>
      apply h.alterSection hs
      intro es hes
      exact nodup_inscribe (by intro e; rfl) hes
  | crossOut hs entry =>
      apply h.alterSection hs
      intro es hes
      exact nodup_inscribe (by intro e; rfl) hes
  | count c operation n => exact h.congr rfl rfl rfl rfl
  | investigator id hf =>
      exact h.modifyInvestigator id fun i => InvestigatorState.later_of_edits (hf i)
  | chaosBag token delta => exact h.adjustChaosBag token delta
  | achievement he ha hop =>
      obtain ⟨achievements, rfl⟩ := applyAchievement_eq hop
      exact h.congr rfl rfl rfl rfl
  | answer s t a => exact h.congr rfl rfl rfl rfl

end Tidy
end CampaignLog

/-! ## The whole campaign -/

namespace Table

variable {g : Guide} {setup : Setup} {active : List Record} {played : List ScenarioId}

/-- The scenario that starts may have a lead from the roster. -/
theorem tidy_seatLead {t : Table} (ht : t.log.Tidy g setup played) {s : ScenarioId}
    (hs : s ∈ played) (hscenario : (g.scenario? s).isSome = true) (start : Option Record) :
    (t.seatLead setup s start).log.Tidy g setup played := by
  have hmanned := manned_seatLead ht.toManned s start
  have hstarted : ∀ s' id, (t.seatLead setup s start).log.lead? s' = some id →
      s' ∈ played ∧ (g.scenario? s').isSome = true := by
    intro s' id hid
    rcases lead?_seatLead hid with hid | ⟨rfl, -⟩
    · exact ht.started s' id hid
    · exact ⟨hs, hscenario⟩
  obtain ⟨leads, reports, hseat, -⟩ := t.seatLead_eq setup s start
  rw [hseat] at hmanned hstarted ⊢
  exact ⟨hmanned, ht.sections, ht.supplies, ht.chaosBag, ht.profiles, hstarted⟩

theorem tidy_play {t : Table} (ht : t.log.Tidy g setup played) {p : Played} (hp : p.id ∈ played)
    (hscripted : ∀ sc start, p = .scripted sc start → (g.scenario? sc.id).isSome = true) :
    (t.play g setup active p).1.log.Tidy g setup played := by
  cases p with
  | scripted sc start =>
      have hseated := tidy_seatLead ht hp (hscripted sc start rfl) start
      have hwalked := (moves_walkThrough g setup active t sc start).keeps
        (fun hedit hl => hl.edit hedit) hseated
      apply playScripted_keeps ht hwalked
      intro l resolutions xp hl
      have hresolved : { l with resolutions }.Tidy g setup played := hl.congr rfl rfl rfl rfl
      refine credit_keeps ?_ hresolved xp
      intro l id xp hl
      exact hl.modifyInvestigator id fun i => i.later_earn xp
  | custom id name xpCost =>
      have hpaid := ht.withInvestigators
        (f := fun _ i => if i.isEliminated then i else i.spend xpCost)
        (Dict.get?_mapValues t.log.investigators _) fun _ i => by
          split
          · exact .refl i
          · exact i.later_spend xpCost
      exact hpaid.congr rfl rfl rfl rfl

theorem tidy_playAll {ps : List Played} (hps : ∀ p ∈ ps, p.id ∈ played)
    (hscripted : ∀ sc start, .scripted sc start ∈ ps → (g.scenario? sc.id).isSome = true)
    {t : Table} (ht : t.log.Tidy g setup played) :
    (t.playAll g setup active ps).1.log.Tidy g setup played := by
  induction ps generalizing t with
  | nil => exact ht
  | cons p ps ih =>
      obtain ⟨hp, hrest⟩ := List.forall_mem_cons.mp hps
      refine ih hrest (fun sc start hsc => hscripted sc start (List.mem_cons_of_mem _ hsc))
        (tidy_play ht hp ?_)
      intro sc start heq
      exact hscripted sc start (heq ▸ List.mem_cons_self)

/-! ### Before the first scenario -/

/-- At the beginning an investigator is as in the setup. Of two with one id the last counts. -/
theorem get?_investigators_deal (g : Guide) (setup : Setup) (id : InvestigatorId) :
    (deal g setup).log.investigators.get? id =
      (setup.investigators.reverse.find? (·.id = id)).map .ofRoster := by
  rw [deal]
  induction setup.investigators using List.reverseRecOn with
  | nil => rfl
  | append_singleton investigators i ih =>
      simp only [List.foldl_append, List.foldl_cons, List.foldl_nil, CampaignLog.addInvestigator,
        Dict.get?_insert, List.reverse_append, List.reverse_singleton, List.singleton_append]
      by_cases hid : id = i.id
      · simp [hid]
      · rw [if_neg hid, ih, List.find?_cons_of_neg (by simpa using Ne.symm hid)]

theorem tidy_deal (hbag : ∀ token n, (g.chaosBag setup.difficulty).get? token = some n → 0 < n)
    (hroster : setup.roster.Nodup) : (deal g setup).log.Tidy g setup played := by
  have hmanned := manned_deal g setup
  have hget := get?_investigators_deal g setup
  obtain ⟨investigators, hdeal⟩ := log_deal g setup
  rw [hdeal] at hmanned hget ⊢
  constructor
  · exact hmanned
  · exact fun s es hes => nomatch hes
  · intro id i hi
    rw [hget, Option.map_eq_some_iff] at hi
    obtain ⟨i, -, rfl⟩ := hi
    exact fun supply n hn => nomatch hn
  · exact hbag
  · intro i hi
    refine ⟨.ofRoster i, ?_, rfl, rfl, rfl⟩
    have hids : (setup.investigators.reverse.map (·.id)).Nodup := by
      rw [List.map_reverse]
      exact List.nodup_reverse.mpr hroster
    have hfound := find?_eq_some_of_nodup hids (List.mem_reverse.mpr hi)
    rw [hget, hfound]
    rfl
  · exact fun s id hid => nomatch hid

theorem tidy_prepare (hbag : ∀ token n, (g.chaosBag setup.difficulty).get? token = some n → 0 < n)
    (hroster : setup.roster.Nodup) : (prepare g setup active).log.Tidy g setup played := by
  obtain ⟨achievements, hprepare⟩ := log_prepare g setup active
  rw [hprepare]
  exact (tidy_deal hbag hroster).congr rfl rfl rfl rfl

end Table

namespace Guide

/-- **The campaign log is kept in order.** Let the chaos bag of the guide for the difficulty have no
token without a count, and let no two investigators of the setup have the same id. Then in the log
of any campaign every section is one of the guide and has no entry twice, no supply is below zero,
every token in the chaos bag is there at least once, the investigators are those of the setup with
name, health and sanity as there, and only scenarios of the guide that are played have a lead, one
of the investigators. -/
theorem play_leaves_log_tidy (g : Guide) (j : Journal) (p : Playthrough) (h : g.play j = .ok p)
    (hbag : ∀ token n, (g.chaosBag j.setup.difficulty).get? token = some n → 0 < n)
    (hroster : j.setup.roster.Nodup) : p.log.Tidy g j.setup (g.playOrder j.active) := by
  obtain ⟨-, rfl⟩ := play_eq_ok_iff.mp h
  refine Table.tidy_playAll ?_ ?_ (Table.tidy_prepare hbag hroster)
  · exact fun p hp => List.mem_map_of_mem hp
  · intro sc start hsc
    rw [(g.scenario?_of_mem_played hsc).1]
    rfl

open Sample

/-- In the gathering the house burns down, and Roland leads it. -/
theorem play_leaves_log_tidy_of_overtaken :
    (∀ token n, (nightOfTheZealot.chaosBag overtaken.setup.difficulty).get? token = some n →
        0 < n) ∧ overtaken.setup.roster.Nodup ∧
      ∃ p, nightOfTheZealot.play overtaken = .ok p ∧
        p.log.Tidy nightOfTheZealot overtaken.setup
          (nightOfTheZealot.playOrder overtaken.active) ∧
        p.log.sections.get? "campaign_notes" = some [⟨"house_burned_down", false, none⟩] ∧
        p.log.lead? "the_gathering" = some "roland" ∧
        "the_gathering" ∈ nightOfTheZealot.playOrder overtaken.active := by
  have hbag : ∀ token n, (nightOfTheZealot.chaosBag overtaken.setup.difficulty).get? token =
      some n → 0 < n := by
    have hall : ∀ e ∈ (nightOfTheZealot.chaosBag overtaken.setup.difficulty).entries,
        0 < e.2 := by
      decide
    exact fun token n hn => hall _ (Dict.mem_of_find hn)
  have hroster : overtaken.setup.roster.Nodup := by decide
  have htidy := nightOfTheZealot.play_leaves_log_tidy overtaken _ rfl hbag hroster
  have hlead : (nightOfTheZealot.outcome overtaken.setup overtaken.active).log.lead?
      "the_gathering" = some "roland" := by
    rw [outcome_of_started _ (by rfl)]
    rfl
  refine ⟨hbag, hroster, _, rfl, htidy, ?_, hlead, (htidy.started _ _ hlead).1⟩
  rw [outcome_of_started _ (by rfl)]
  rfl

end Guide
end Chronicle
