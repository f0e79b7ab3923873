import Chronicle.Proofs.Play.Agreement
import Chronicle.Proofs.Play.Tidy

/-!
# Nothing is taken back

Trauma, experience and what was spent of it only add up in the course of a campaign, and who is
killed or driven insane remains so. So investigators who are eliminated when a scenario is over are
eliminated ever after, and they pay for no custom side scenario any more. All others pay what the
record says that it is started by.
-/

namespace Chronicle

open Number

theorem Number.le_satAdd (a b : UInt32) : a ≤ satAdd a b := by
  rw [UInt32.le_iff_toNat_le, toNat_satAdd]
  have := a.toNat_lt
  omega

/-! ## Investigators -/

namespace InvestigatorState

/-- The state of the same investigator later on, with nothing taken back. -/
structure Onward (i i' : InvestigatorState) : Prop extends Later i i' where
  physical : i.physical ≤ i'.physical
  mental : i.mental ≤ i'.mental
  spentXp : i.spentXp ≤ i'.spentXp
  totalXp : i.totalXp ≤ i'.totalXp
  killed : i.killed = true → i'.killed = true
  insane : i.insane = true → i'.insane = true

namespace Onward

variable {i i' i'' : InvestigatorState}

theorem refl (i : InvestigatorState) : i.Onward i :=
  ⟨.refl i, UInt32.le_refl _, UInt32.le_refl _, UInt32.le_refl _, UInt32.le_refl _, id, id⟩

theorem trans (h : i.Onward i') (h' : i'.Onward i'') : i.Onward i'' where
  toLater := h.toLater.trans h'.toLater
  physical := UInt32.le_trans h.physical h'.physical
  mental := UInt32.le_trans h.mental h'.mental
  spentXp := UInt32.le_trans h.spentXp h'.spentXp
  totalXp := UInt32.le_trans h.totalXp h'.totalXp
  killed hi := h'.killed (h.killed hi)
  insane hi := h'.insane (h.insane hi)

/-- Who is eliminated remains so. -/
theorem isEliminated (h : i.Onward i') (hi : i.isEliminated = true) : i'.isEliminated = true := by
  simp only [InvestigatorState.isEliminated, Bool.or_eq_true, decide_eq_true_eq] at hi ⊢
  rw [h.health, h.sanity]
  rcases hi with ((hi | hi) | hi) | hi
  · exact Or.inl (Or.inl (Or.inl (h.killed hi)))
  · exact Or.inl (Or.inl (Or.inr (h.insane hi)))
  · exact Or.inl (Or.inr (UInt32.le_trans hi h.physical))
  · exact Or.inr (UInt32.le_trans hi h.mental)

end Onward

theorem onward_suffer (i : InvestigatorState) (t : TraumaChange) : i.Onward (i.suffer t) where
  toLater := (Edit.suffer i t).later
  physical := le_satAdd _ _
  mental := le_satAdd _ _
  spentXp := le_satAdd _ _
  totalXp := UInt32.le_refl _
  killed hi := by rw [suffer, hi, Bool.true_or]
  insane hi := by rw [suffer, hi, Bool.true_or]

theorem onward_adjustSupply (i : InvestigatorState) (supply : SupplyId) (delta : Int32) :
    i.Onward (i.adjustSupply supply delta) :=
  { Onward.refl i with toLater := (Edit.adjustSupply i supply delta).later }

theorem onward_earn (i : InvestigatorState) (xp : UInt32) : i.Onward (i.earn xp) :=
  { Onward.refl i with toLater := i.later_earn xp, totalXp := le_satAdd _ _ }

theorem onward_spend (i : InvestigatorState) (xp : UInt32) : i.Onward (i.spend xp) :=
  { Onward.refl i with toLater := i.later_spend xp, spentXp := le_satAdd _ _ }

theorem Edit.onward {i i' : InvestigatorState} (h : Edit i i') : i.Onward i' := by
  cases h with
  | suffer t => exact i.onward_suffer t
  | adjustSupply supply delta => exact i.onward_adjustSupply supply delta

theorem onward_of_edits {i i' : InvestigatorState} (h : Relation.ReflTransGen Edit i i') :
    i.Onward i' := by
  induction h with
  | refl => exact .refl i
  | tail _ hedit ih => exact ih.trans hedit.onward

/-- Who is eliminated pays nothing, and all others the whole price, up to the largest word. -/
def charge (cost : UInt32) (i : InvestigatorState) : InvestigatorState :=
  if i.isEliminated then i
  else { i with spentXp := UInt32.ofNat (min (i.spentXp.toNat + cost.toNat) 0xFFFFFFFF) }

end InvestigatorState

/-! ## The campaign log -/

namespace CampaignLog

/-- A campaign log later on: all investigators are still there, with nothing taken back. -/
def Onward (l l' : CampaignLog) : Prop :=
  ∀ id i, l.investigators.get? id = some i →
    ∃ i', l'.investigators.get? id = some i' ∧ i.Onward i'

namespace Onward

variable {l l' l'' : CampaignLog}

theorem refl (l : CampaignLog) : l.Onward l := fun _ i hi => ⟨i, hi, .refl i⟩

/-- Each investigator may change to what does not take anything back. -/
theorem change (h : l.Onward l') {f : InvestigatorId → InvestigatorState → InvestigatorState}
    (hget : ∀ id, l''.investigators.get? id = (l'.investigators.get? id).map (f id))
    (hf : ∀ id (i : InvestigatorState), i.Onward (f id i)) : l.Onward l'' := by
  intro id i hi
  obtain ⟨i', hi', honward⟩ := h id i hi
  refine ⟨f id i', ?_, honward.trans (hf id i')⟩
  rw [hget, hi']
  rfl

theorem congr (h : l.Onward l') (hsame : l''.investigators = l'.investigators) : l.Onward l'' := by
  unfold Onward
  rw [hsame]
  exact h

theorem modifyInvestigator (h : l.Onward l') (id : InvestigatorId)
    {f : InvestigatorState → InvestigatorState} (hf : ∀ i : InvestigatorState, i.Onward (f i)) :
    l.Onward (l'.modifyInvestigator id f) := by
  apply h.change (l'.get?_investigators_modifyInvestigator id f)
  intro id' i
  split
  · exact hf i
  · exact .refl i

end Onward

theorem get?_investigators_pay (l : CampaignLog) (cost : UInt32) (id : InvestigatorId) :
    (l.pay cost).investigators.get? id = (l.investigators.get? id).map (.charge cost) := by
  rw [pay, Dict.get?_mapValues]
  refine congrArg (Option.map · _) (funext fun i => ?_)
  have hspent : satAdd i.spentXp cost =
      UInt32.ofNat (min (i.spentXp.toNat + cost.toNat) 0xFFFFFFFF) := by
    rw [satAdd, clampUnsigned]
    congr
  rw [InvestigatorState.charge, InvestigatorState.spend, hspent]

/-- Nothing that is done while scenarios are played takes anything back. -/
theorem kept_onward (g : Guide) (l : CampaignLog) : Kept g l.Onward where
  edit := by
    intro es l' l'' hedit h
    cases hedit with
    | investigator id hf =>
        exact h.modifyInvestigator id fun i => InvestigatorState.onward_of_edits (hf i)
    | achievement he ha hop =>
        obtain ⟨achievements, rfl⟩ := applyAchievement_eq hop
        exact h.congr rfl
    | _ => exact h.congr rfl
  leads _ h := h.congr rfl
  resolutions _ h := h.congr rfl
  earn id xp h := h.modifyInvestigator id fun i => i.onward_earn xp
  pay cost h := by
    refine h.change (Dict.get?_mapValues _ _) fun _ i => ?_
    split
    · exact .refl i
    · exact i.onward_spend cost

end CampaignLog

/-! ## From scenario to scenario -/

namespace Guide

/-- The campaign log when the first `n` scenarios in the order of play have been played. -/
def logAfter (g : Guide) (setup : Setup) (active : List Record) (n : Nat) : CampaignLog :=
  ((Table.prepare g setup active).playAll g setup active
    (((Starts.ofRecords g active).played g).take n)).1.log

section LogAfter

variable (g : Guide) (setup : Setup) (active : List Record)

theorem log_outcome : (g.outcome setup active).log =
    g.logAfter setup active (g.playOrder active).length := by
  rw [logAfter, playOrder, List.length_map, List.take_length]
  rfl

theorem onward_logAfter {m n : Nat} (h : m ≤ n) :
    (g.logAfter setup active m).Onward (g.logAfter setup active n) := by
  unfold logAfter
  obtain ⟨k, rfl⟩ := Nat.exists_eq_add_of_le h
  rw [List.take_add, Table.playAll_append]
  exact (CampaignLog.kept_onward g _).playAll (.refl _) _

variable {g active}

/-- A scenario that has its turn has it with the campaign log that the others left. -/
theorem logAfter_succ {n : Nat} {p : Played}
    (h : ((Starts.ofRecords g active).played g)[n]? = some p) :
    ∃ t : Table, t.log = g.logAfter setup active n ∧
      g.logAfter setup active (n + 1) = (t.play g setup active p).1.log := by
  refine ⟨_, rfl, ?_⟩
  rw [logAfter, List.take_add_one, h, Option.toList_some, Table.playAll_append]
  rfl

end LogAfter

/-- **Nothing is taken back.** Compare the campaign log before and after any number of scenarios of
a campaign: no investigator has less trauma, has spent or earned less, or is alive or sane again,
and who is eliminated remains so. A custom side scenario costs exactly those who are not eliminated
what its record in effect says, up to the largest word, and changes nothing else of anyone. -/
theorem play_takes_nothing_back (g : Guide) (j : Journal) (p : Playthrough)
    (h : g.play j = .ok p) :
    p.log = g.logAfter j.setup j.active (g.playOrder j.active).length ∧
      (∀ m n, m ≤ n → ∀ id i, (g.logAfter j.setup j.active m).investigators.get? id = some i →
        ∃ i', (g.logAfter j.setup j.active n).investigators.get? id = some i' ∧ i.Onward i' ∧
          (i.isEliminated = true → i'.isEliminated = true)) ∧
      ∀ n s name cost, ((Starts.ofRecords g j.active).played g)[n]? = some (.custom s name cost) →
        (∃ r after, g.startRecord? j.active s = some r ∧
          r.payload = .start (.custom name after cost)) ∧
        ∀ id, (g.logAfter j.setup j.active (n + 1)).investigators.get? id =
          ((g.logAfter j.setup j.active n).investigators.get? id).map (.charge cost) := by
  obtain ⟨-, rfl⟩ := play_eq_ok_iff.mp h
  refine ⟨g.log_outcome j.setup j.active, ?_, ?_⟩
  · intro m n hmn id i hi
    obtain ⟨i', hi', honward⟩ := g.onward_logAfter j.setup j.active hmn id i hi
    exact ⟨i', hi', honward, honward.isEliminated⟩
  · intro n s name cost hturn
    constructor
    · obtain ⟨_, -, heq⟩ | ⟨_, r, _, after, _, -, hr, hpayload, heq⟩ :=
        Starts.played_cases (List.mem_of_getElem? hturn)
      · cases heq
      · cases heq
        rw [Starts.get?_records_ofRecords] at hr
        exact ⟨r, after, hr, hpayload⟩
    · intro id
      obtain ⟨t, ht, hplay⟩ := logAfter_succ j.setup hturn
      rw [hplay, ← ht]
      exact t.log.get?_investigators_pay cost id

open Sample

theorem played_bereaved :
    (Starts.ofRecords nightOfTheZealot bereaved.active).played nightOfTheZealot =
      [.scripted prologue none, .scripted midnightMasks (some masksStarted),
        .custom "wake" "The wake" 3] := by
  have hcandidates : (Starts.ofRecords nightOfTheZealot bereaved.active).candidates
      nightOfTheZealot = ["prologue", "the_midnight_masks", "wake"] := by
    decide
  have hpool : ["prologue", "the_midnight_masks", "wake"].eraseDups =
      ["prologue", "the_midnight_masks", "wake"] := by
    decide
  have hfollowers : ["prologue", "the_midnight_masks", "wake"].map
      ((Starts.ofRecords nightOfTheZealot bereaved.active).followers nightOfTheZealot) =
        [[], ["wake"], []] := by
    decide
  simp only [List.map_cons, List.map_nil, List.cons.injEq, and_true] at hfollowers
  obtain ⟨hprologue, hmasks, hwake⟩ := hfollowers
  have horder : (Starts.ofRecords nightOfTheZealot bereaved.active).order nightOfTheZealot =
      ["prologue", "the_midnight_masks", "wake"] := by
    rw [Starts.order_eq, hcandidates, hpool]
    simp [Starts.arrange, hprologue, hmasks, hwake]
  rw [Starts.played, horder]
  rfl

/-- Agnes is killed in the second scenario. The third costs three points of experience, and Roland
pays while she does not. -/
theorem play_takes_nothing_back_of_bereaved :
    ∃ p roland agnes, nightOfTheZealot.play bereaved = .ok p ∧
      nightOfTheZealot.startRecord? bereaved.active "wake" = some wake ∧
      (nightOfTheZealot.logAfter bereaved.setup bereaved.active 2).investigators.get? "agnes" =
        some agnes ∧ agnes.isEliminated = true ∧
      p.log.investigators.get? "agnes" = some agnes ∧
      (nightOfTheZealot.logAfter bereaved.setup bereaved.active 2).investigators.get? "roland" =
        some roland ∧ roland.spentXp = 0 ∧
      p.log.investigators.get? "roland" = some { roland with spentXp := 3 } := by
  obtain ⟨hlog, -, hcustom⟩ := nightOfTheZealot.play_takes_nothing_back bereaved _ rfl
  have hthree : (nightOfTheZealot.playOrder bereaved.active).length = 3 := by
    rw [playOrder, played_bereaved]
    rfl
  have hturn : ((Starts.ofRecords nightOfTheZealot bereaved.active).played nightOfTheZealot)[2]? =
      some (.custom "wake" "The wake" 3) := by
    rw [played_bereaved]
    rfl
  obtain ⟨-, hpaid⟩ := hcustom 2 "wake" "The wake" 3 hturn
  have hmasks : nightOfTheZealot.logAfter bereaved.setup bereaved.active 2 =
      ((Table.prepare nightOfTheZealot bereaved.setup bereaved.active).playAll nightOfTheZealot
        bereaved.setup bereaved.active
        [.scripted prologue none, .scripted midnightMasks (some masksStarted)]).1.log := by
    rw [logAfter, played_bereaved]
    rfl
  obtain ⟨agnes, roland, hagnes, hkilled, hroland, halive, hunspent⟩ : ∃ agnes roland,
      (nightOfTheZealot.logAfter bereaved.setup bereaved.active 2).investigators.get? "agnes" =
        some agnes ∧ agnes.isEliminated = true ∧
      (nightOfTheZealot.logAfter bereaved.setup bereaved.active 2).investigators.get? "roland" =
        some roland ∧ roland.isEliminated = false ∧ roland.spentXp = 0 := by
    rw [hmasks]
    exact ⟨_, _, rfl, rfl, rfl, rfl, rfl⟩
  rw [hthree] at hlog
  refine ⟨_, roland, agnes, rfl, rfl, hagnes, hkilled, ?_, hroland, hunspent, ?_⟩
  · rw [hlog, hpaid, hagnes, Option.map_some, InvestigatorState.charge, if_pos hkilled]
  · rw [hlog, hpaid, hroland, Option.map_some, InvestigatorState.charge, halive, hunspent]
    rfl

end Guide
end Chronicle
