import Chronicle.Proofs.Dict
import Chronicle.Proofs.Play.Edits

/-!
# Who takes part in a campaign

The investigators of a campaign log are those of the setup, from the first scenario to the last, and
nobody else ever leads a scenario. What happens to an investigator changes the state that the log
has for the investigator, and neither adds nor removes one.
-/

namespace Chronicle

/-- The ids of the investigators who take part. -/
def Setup.roster (setup : Setup) : List InvestigatorId := setup.investigators.map (·.id)

/-- The investigators of the log are those of the roster, and the leads are among them. -/
structure CampaignLog.Manned (setup : Setup) (l : CampaignLog) : Prop where
  investigators : ∀ id, id ∈ l.investigators.keys ↔ id ∈ setup.roster
  leads : ∀ s id, l.lead? s = some id → id ∈ setup.roster

namespace CampaignLog

variable {setup : Setup} {g : Guide} {es : List Effect} {l l' : CampaignLog}

theorem Manned.congr (h : l.Manned setup) (hkeys : l'.investigators.keys = l.investigators.keys)
    (hleads : l'.leads = l.leads) : l'.Manned setup := by
  constructor
  · rw [hkeys]
    exact h.investigators
  · unfold lead?
    rw [hleads]
    exact h.leads

theorem get?_investigators_modifyInvestigator (l : CampaignLog) (id : InvestigatorId)
    (f : InvestigatorState → InvestigatorState) (id' : InvestigatorId) :
    (l.modifyInvestigator id f).investigators.get? id' =
      (l.investigators.get? id').map fun i => if id' = id then f i else i := by
  rw [modifyInvestigator, Dict.get?_modify]
  by_cases hid : id' = id <;> simp [hid]

theorem Edit.keys_investigators (h : Edit g es l l') :
    l'.investigators.keys = l.investigators.keys := by
  cases h with
  | investigator id hf => exact Dict.keys_modify _ _ _
  | achievement he ha hop =>
      obtain ⟨achievements, rfl⟩ := applyAchievement_eq hop
      rfl
  | _ => rfl

/-- Who leads a scenario is settled when it starts. -/
theorem Edit.leads (h : Edit g es l l') : l'.leads = l.leads := by
  cases h with
  | achievement he ha hop =>
      obtain ⟨achievements, rfl⟩ := applyAchievement_eq hop
      rfl
  | _ => rfl

theorem Manned.edits (hl : l.Manned setup) (h : Edits g es l l') : l'.Manned setup := by
  induction h with
  | refl => exact hl
  | tail _ hedit ih => exact ih.congr hedit.keys_investigators hedit.leads

end CampaignLog

namespace Table

open CampaignLog

variable {setup : Setup} {g : Guide} {active : List Record}

theorem Moves.keys_investigators {c : Script} {t t' : Table} (h : Moves c t t') :
    t'.log.investigators.keys = t.log.investigators.keys :=
  h.log_eq (f := (·.investigators.keys)) Edit.keys_investigators

theorem Moves.manned {c : Script} {t t' : Table} (h : Moves c t t') (ht : t.log.Manned setup) :
    t'.log.Manned setup :=
  ht.congr h.keys_investigators (h.log_eq (f := (·.leads)) Edit.leads)

/-- Only the lead of the scenario that starts is named. -/
theorem lead?_seatLead {t : Table} {s s' : ScenarioId} {start : Option Record} {id : InvestigatorId}
    (h : (t.seatLead setup s start).log.lead? s' = some id) :
    t.log.lead? s' = some id ∨
      s' = s ∧ ∃ requested, setup.lead t.log.investigators.keys requested = some id := by
  unfold seatLead at h
  dsimp only at h
  split at h
  next lead hlead =>
      simp only [CampaignLog.lead?, Dict.get?_insert] at h
      split at h
      next hs =>
          cases h
          exact Or.inr ⟨hs, _, hlead⟩
      next =>
          left
          repeat' split at h
          all_goals exact h
  next =>
      left
      repeat' split at h
      all_goals exact h

/-- The lead who is asked for is named only if in the roster, and the other choice is the first of
the roster. -/
theorem mem_roster_of_lead {roster : List InvestigatorId} {requested : Option InvestigatorId}
    {id : InvestigatorId} (h : setup.lead roster requested = some id) :
    id ∈ roster ∨ id ∈ setup.roster := by
  have hfirst : setup.investigators.head?.map (·.id) = some id → id ∈ setup.roster := by
    intro hfirst
    rw [← List.head?_map] at hfirst
    exact List.mem_of_head? hfirst
  unfold Setup.lead at h
  split at h
  · split at h
    next hmem =>
        cases h
        exact Or.inl hmem
    next => exact Or.inr (hfirst h)
  · exact Or.inr (hfirst h)

theorem manned_seatLead {t : Table} (ht : t.log.Manned setup) (s : ScenarioId)
    (start : Option Record) : (t.seatLead setup s start).log.Manned setup := by
  constructor
  · obtain ⟨leads, reports, hseat, -⟩ := t.seatLead_eq setup s start
    rw [hseat]
    exact ht.investigators
  · intro s' id hid
    rcases lead?_seatLead hid with hid | ⟨-, requested, hid⟩
    · exact ht.leads s' id hid
    · rcases mem_roster_of_lead hid with hmem | hmem
      · exact (ht.investigators id).mp hmem
      · exact hmem

theorem keys_investigators_credit (l : CampaignLog) (xp : Dict InvestigatorId UInt32) :
    (credit l xp).investigators.keys = l.investigators.keys := by
  apply credit_keeps (P := fun l' => l'.investigators.keys = l.investigators.keys)
  · intro l' id xp hl'
    rw [modifyInvestigator, Dict.keys_modify, hl']
  · rfl

/-! ## The whole campaign -/

theorem manned_play {t : Table} (ht : t.log.Manned setup) (p : Played) :
    (t.play g setup active p).1.log.Manned setup := by
  cases p with
  | scripted s start =>
      have hmoves := moves_walkThrough g setup active t s start
      apply playScripted_keeps ht (hmoves.manned (manned_seatLead ht s.id start))
      intro l resolutions xp hl
      refine hl.congr (keys_investigators_credit _ _) ?_
      obtain ⟨investigators, hcredit⟩ := credit_eq { l with resolutions } xp
      rw [hcredit]
  | custom id name xpCost => exact ht.congr (Dict.keys_mapValues _ _) rfl

theorem manned_playAll {t : Table} (ht : t.log.Manned setup) (ps : List Played) :
    (t.playAll g setup active ps).1.log.Manned setup := by
  induction ps generalizing t with
  | nil => exact ht
  | cons p ps ih => exact ih (manned_play ht p)

theorem manned_deal (g : Guide) (setup : Setup) : (deal g setup).log.Manned setup := by
  have hfold : ∀ (investigators : List Investigator) (l : CampaignLog) (id : InvestigatorId),
      id ∈ (investigators.foldl addInvestigator l).investigators.keys ↔
        id ∈ l.investigators.keys ∨ id ∈ investigators.map (·.id) := by
    intro investigators l id
    induction investigators generalizing l with
    | nil => simp
    | cons i investigators ih =>
        rw [List.foldl_cons, ih, addInvestigator, Dict.mem_keys_iff, Dict.mem_keys_iff,
          Dict.get?_insert, List.map_cons, List.mem_cons]
        by_cases h : id = i.id <;> simp [h]
  constructor
  · intro id
    rw [deal, hfold]
    simp [CampaignLog.new, Dict.keys, Dict.empty, Setup.roster]
  · intro s id h
    obtain ⟨investigators, hdeal⟩ := log_deal g setup
    rw [lead?, hdeal] at h
    cases h

theorem manned_prepare (g : Guide) (setup : Setup) (active : List Record) :
    (prepare g setup active).log.Manned setup := by
  obtain ⟨achievements, h⟩ := log_prepare g setup active
  exact (manned_deal g setup).congr (by rw [h]) (by rw [h])

end Table

theorem Guide.manned_outcome (g : Guide) (setup : Setup) (active : List Record) :
    (g.outcome setup active).log.Manned setup :=
  Table.manned_playAll (Table.manned_prepare g setup active) _

end Chronicle
