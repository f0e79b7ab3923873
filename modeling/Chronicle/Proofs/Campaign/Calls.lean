import Chronicle.Proofs.Journal.Inverse
import Chronicle.Proofs.Service.Requests

/-!
# Calls on a campaign

A call on a campaign is refused, finds nothing to do or raises one event. Only the event changes the
campaign: it stands behind the pending ones, and its mark behind the others in the journal. So the
journal of a campaign that came about by calls was checked piece by piece, and each mark may stand
where it does.
-/

namespace Chronicle

/-! ## Well-formed journals -/

/-- Whether the next mark of a journal may be this one. -/
def Journal.Allows (j : Journal) : Mark → Prop
  | .input r => r.flaw? = none
  | .undo b => ∃ p ∈ j.replay.active, p.record.scenario = b
  | .redo b => ∃ p ∈ j.replay.undone, p.record.scenario = b
  | .reset _ => True

/-- What is checked of a setup. -/
structure Setup.Sane (s : Setup) : Prop where
  name : Text.blank s.name = false
  manned : s.investigators ≠ []
  distinct : (s.investigators.map (·.id)).Nodup
  fit : ∀ i ∈ s.investigators, 0 < i.health ∧ 0 < i.sanity

/-- A journal in which each mark was allowed by those before it. -/
structure Journal.WellFormed (j : Journal) : Prop where
  setup : j.setup.Sane
  marks : ∀ n m, j.entries[n]? = some m → (⟨j.setup, j.entries.take n⟩ : Journal).Allows m

namespace Journal

theorem canUndo_iff_exists {j : Journal} {b : Bucket} :
    j.canUndo b = true ↔ ∃ p ∈ j.replay.active, p.record.scenario = b := by
  simp [canUndo, Replay.canUndo, Replay.inBucket]

theorem canRedo_iff_exists {j : Journal} {b : Bucket} :
    j.canRedo b = true ↔ ∃ p ∈ j.replay.undone, p.record.scenario = b := by
  simp [canRedo, Replay.canRedo, Replay.inBucket]

theorem wellFormed_new {setup : Setup} (h : setup.Sane) : (new setup).WellFormed where
  setup := h
  marks := fun _ _ hm => by cases hm

theorem WellFormed.push {j : Journal} (h : j.WellFormed) {m : Mark} (hm : j.Allows m) :
    (j.push m).WellFormed where
  setup := h.setup
  marks := by
    intro n m' hm'
    rw [Journal.push] at hm' ⊢
    dsimp only at hm' ⊢
    rcases Nat.lt_trichotomy n j.entries.length with hlt | rfl | hgt
    · rw [List.getElem?_append_left hlt] at hm'
      rw [List.take_append_of_le_length hlt.le]
      exact h.marks n m' hm'
    · rw [List.getElem?_concat_length] at hm'
      cases hm'
      rw [List.take_left]
      exact hm
    · rw [List.getElem?_eq_none (by simp; omega)] at hm'
      cases hm'

end Journal

namespace Campaign

theorem rosterFlaw_eq_none_iff {seen : List InvestigatorId} {investigators : List Investigator} :
    rosterFlaw seen investigators = none ↔
      (∀ i ∈ investigators, i.id ∉ seen) ∧ (investigators.map (·.id)).Nodup ∧
        ∀ i ∈ investigators, 0 < i.health ∧ 0 < i.sanity := by
  -- What was seen grows along the roster, so the induction is for any ids seen before.
  induction investigators generalizing seen with
  | nil => simp [rosterFlaw]
  | cons i rest ih =>
      rw [rosterFlaw, List.map_cons, List.nodup_cons, List.forall_mem_cons, List.forall_mem_cons]
      by_cases hseen : i.id ∈ seen
      · simp [hseen]
      · by_cases hfit : 0 < i.health ∧ 0 < i.sanity
        · have hsound : ¬ (i.health = 0 ∨ i.sanity = 0) := by
            rwa [not_or, ← ne_eq, ← ne_eq, ← UInt32.pos_iff_ne_zero, ← UInt32.pos_iff_ne_zero]
          have hnew : (∀ k ∈ rest, k.id ∉ i.id :: seen) ↔
              (∀ k ∈ rest, k.id ∉ seen) ∧ i.id ∉ rest.map (·.id) := by
            simp only [List.mem_cons, not_or, List.mem_map, not_exists, not_and]
            exact ⟨fun h => ⟨fun k hk => (h k hk).2, fun k hk heq => (h k hk).1 heq⟩,
              fun h k hk => ⟨h.2 k hk, h.1 k hk⟩⟩
          rw [if_neg hseen, if_neg hsound, ih, hnew]
          tauto
        · have hfrail : i.health = 0 ∨ i.sanity = 0 := by
            rw [UInt32.pos_iff_ne_zero, UInt32.pos_iff_ne_zero] at hfit
            tauto
          rw [if_neg hseen, if_pos hfrail]
          simp [hfit]

theorem setupFlaw_eq_none_iff {setup : Setup} : setupFlaw setup = none ↔ setup.Sane := by
  unfold setupFlaw
  constructor
  · intro h
    repeat' split at h
    next => cases h
    next => cases h
    next hname hmanned =>
        obtain ⟨-, hdistinct, hfit⟩ := rosterFlaw_eq_none_iff.mp h
        exact ⟨by simpa using hname, by simpa using hmanned, hdistinct, hfit⟩
  · intro h
    rw [h.name, if_neg Bool.false_ne_true, if_neg (by simpa using h.manned)]
    exact rosterFlaw_eq_none_iff.mpr ⟨fun _ _ => List.not_mem_nil, h.distinct, h.fit⟩

end Campaign

/-! ## Calls -/

/-- The mark of an event in the journal. -/
def Event.mark? : Event → Option Mark
  | .created .. => none
  | .recorded r => some (.input r)
  | .undone b => some (.undo b)
  | .redone b => some (.redo b)
  | .reset s => some (.reset s)

namespace Campaign

/-- The journal after the creation or with one more mark. -/
inductive Marked : Option Journal → Event → Option Journal → Prop where
  | created {id : Uuid} {setup : Setup} (h : setup.Sane) :
      Marked none (.created id setup) (some (.new setup))
  | marked {j : Journal} {e : Event} {m : Mark} (hmark : e.mark? = some m) (h : j.Allows m) :
      Marked (some j) e (some (j.push m))

theorem Admits.marked {c : Campaign} {e : Event} (h : c.Admits e) :
    Marked c.journal e (mutate c.journal e) := by
  cases e with
  | created id setup =>
      obtain ⟨-, hnone, hflaw⟩ := h
      rw [hnone]
      exact .created (setupFlaw_eq_none_iff.mp hflaw)
  | recorded r =>
      obtain ⟨j, hj⟩ := Option.isSome_iff_exists.mp h.1
      rw [hj]
      exact .marked rfl h.2
  | undone b =>
      obtain ⟨j, hj, hcan⟩ := h
      have hundo : mutate (some j) (.undone b) = some (j.push (.undo b)) := by
        rw [mutate, Option.map_some, Journal.undo?, if_pos hcan, Option.getD_some]
      rw [hj, hundo]
      exact .marked rfl (Journal.canUndo_iff_exists.mp hcan)
  | redone b =>
      obtain ⟨j, hj, hcan⟩ := h
      have hredo : mutate (some j) (.redone b) = some (j.push (.redo b)) := by
        rw [mutate, Option.map_some, Journal.redo?, if_pos hcan, Option.getD_some]
      rw [hj, hredo]
      exact .marked rfl (Journal.canRedo_iff_exists.mp hcan)
  | reset s =>
      obtain ⟨j, hj⟩ := Option.isSome_iff_exists.mp h
      rw [hj]
      exact .marked rfl trivial

/-- A run of calls goes from one campaign to the next. -/
theorem snd_call (c : Campaign) (s : Stamp) (op : Operation) :
    (c.call s op).2 = c.after (s, op) := by
  have hcalled := called c s op
  rw [after, perform_eq_call]
  generalize c.call s op = left at hcalled ⊢
  cases hcalled with
  | refused h => rfl
  | idle hj h => rfl
  | raised h => rfl

/-! ## Runs of calls -/

theorem id_run (id : Uuid) (asked : List (Stamp × Operation)) : (run id asked).id = id :=
  (unstored_run id asked).same

theorem Marked.exists_push {journal journal' : Option Journal} {e : Event}
    (h : Marked journal e journal') (he : e.isCreation = false) :
    ∃ j m, journal = some j ∧ e.mark? = some m ∧ journal' = some (j.push m) := by
  cases h with
  | created h => cases he
  | marked hmark h => exact ⟨_, _, rfl, hmark, rfl⟩

theorem Marked.wellFormed {journal journal' : Option Journal} {e : Event}
    (h : Marked journal e journal') (hj : ∀ j ∈ journal, j.WellFormed) :
    ∀ j ∈ journal', j.WellFormed := by
  cases h with
  | created h =>
      rintro _ ⟨⟩
      exact Journal.wellFormed_new h
  | marked hmark h =>
      rintro _ ⟨⟩
      exact (hj _ rfl).push h

theorem wellFormed_run (id : Uuid) (asked : List (Stamp × Operation)) :
    ∀ j ∈ (run id asked).journal, j.WellFormed := by
  induction asked using List.reverseRecOn with
  | nil => exact fun _ h => by cases h
  | append_singleton asked last ih =>
      rw [run_concat]
      rcases after_cases (run id asked) last with h | ⟨e, he, h⟩
      · rw [h]
        exact ih
      · rw [h]
        exact he.marked.wellFormed ih

/-- **Calls are all or nothing, and journals well-formed.** Whatever was called on a new campaign, a
call that is refused or finds nothing to do leaves the campaign as it is. Every other call raises
one event, which is numbered behind the pending ones, and leaves the version as it is. If it is not
the creation it adds one mark to the journal. And the journal, once there is one, has a sane setup,
its records are without flaw, and each undo or redo stands where there was a record of its bucket to
undo or redo. -/
theorem calls_all_or_nothing (id : Uuid) (asked : List (Stamp × Operation)) :
    (∀ s op, (run id asked).Called s op ((run id asked).call s op) ∧
      run id (asked ++ [(s, op)]) = ((run id asked).call s op).2 ∧
      (((run id asked).call s op).1 ≠ .ok true → ((run id asked).call s op).2 = run id asked) ∧
      (((run id asked).call s op).1 = .ok true →
        ((run id asked).call s op).2.version = (run id asked).version ∧
        ((run id asked).call s op).2.pending = (run id asked).pending ++
          [⟨op.event id, id, (run id asked).pending.length + 1, s⟩] ∧
        (op.isCreation = false → ∃ j m, (run id asked).journal = some j ∧
          (op.event id).mark? = some m ∧
          ((run id asked).call s op).2.journal = some (j.push m)))) ∧
    ∀ j, (run id asked).journal = some j → j.WellFormed := by
  refine ⟨fun s op => ?_, wellFormed_run id asked⟩
  have hrun : run id (asked ++ [(s, op)]) = ((run id asked).call s op).2 := by
    rw [run_concat, snd_call]
  have hcalled := called (run id asked) s op
  generalize (run id asked).call s op = left at hrun hcalled ⊢
  refine ⟨hcalled, hrun, ?_, ?_⟩
  · intro hnot
    cases hcalled with
    | refused h => rfl
    | idle hj h => rfl
    | raised h => exact absurd rfl hnot
  · intro htrue
    cases hcalled with
    | refused h => cases htrue
    | idle hj h => cases htrue
    | raised h =>
        have hid := id_run id asked
        have hversion := (unstored_run id asked).version
        rw [hid] at h ⊢
        refine ⟨rfl, ?_, fun hlater => ?_⟩
        · rw [raise, hid, hversion, Nat.zero_add]
        · exact h.marked.exists_push ((op.isCreation_event id).trans hlater)

end Campaign

end Chronicle
