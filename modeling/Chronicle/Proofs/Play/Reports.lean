import Chronicle.Proofs.Play.Edits
import Chronicle.Proofs.Play.Walk

/-!
# What is reported in a play

Reports are only ever added. All but one kind are about a step that cannot do its work or about a
record that does not fit. A scenario as a whole is reported only if it goes in circles, and then
the report is all that is left of its walk.
-/

namespace Chronicle

/-- Reports about a step or about a record. -/
def Diagnostic.IsLocal : Diagnostic → Prop
  | .script .. | .record .. => True
  | .cyclic .. | .transition .. => False

theorem Diagnostic.isLocal_ofScript (s : ScenarioId) (t : StepId) (f : ScriptFault) :
    (ofScript s t f).IsLocal :=
  trivial

theorem Diagnostic.isLocal_ofRecord (r : Record) (f : RecordFault) : (ofRecord r f).IsLocal :=
  trivial

namespace Table

theorem Moves.reports {c : Script} {t t' : Table} (h : Moves c t t') :
    ∃ added, t'.reports = t.reports ++ added ∧ ∀ d ∈ added, d.IsLocal := by
  induction h with
  | refl => exact ⟨[], (List.append_nil _).symm, fun d hd => nomatch hd⟩
  | @tail mid t' _ hmove ih =>
      obtain ⟨added, hreports, hlocal⟩ := ih
      have hreport : ∀ d : Diagnostic, d.IsLocal → ∃ added',
          (mid.report d).reports = t.reports ++ added' ∧ ∀ d ∈ added', d.IsLocal := by
        intro d hd
        refine ⟨added ++ [d], by rw [report, hreports, List.append_assoc], ?_⟩
        exact List.forall_mem_append.mpr ⟨hlocal, List.forall_mem_singleton.mpr hd⟩
      cases hmove with
      | edit reports hedit => exact ⟨added, hreports, hlocal⟩
      | script t ht f => exact hreport _ (Diagnostic.isLocal_ofScript _ _ f)
      | record t hr hscenario ht hat f => exact hreport _ (Diagnostic.isLocal_ofRecord _ f)

variable (g : Guide) (setup : Setup) (active : List Record)

/-- In a walk only steps and records are reported. -/
theorem reports_walkThrough (t : Table) (s : Scenario) (start : Option Record) :
    ∃ added, (walkThrough g setup active t s start).1.table.reports = t.reports ++ added ∧
      ∀ d ∈ added, d.IsLocal := by
  obtain ⟨leads, asked, hseat, hasked⟩ := t.seatLead_eq setup s.id start
  obtain ⟨added, hadded, hlocal⟩ := (moves_walkThrough g setup active t s start).reports
  refine ⟨asked ++ added, by rw [hadded, hseat, List.append_assoc], ?_⟩
  refine List.forall_mem_append.mpr ⟨fun d hd => ?_, hlocal⟩
  obtain ⟨r, f, -, rfl⟩ := hasked d hd
  exact Diagnostic.isLocal_ofRecord r f

/-- Beside what is reported in the walk, only going in circles is reported when a scenario ends. -/
theorem forall_mem_reports_playScripted {P : Diagnostic → Prop} {t : Table} {s : Scenario}
    {start : Option Record}
    (hwalk : ∀ d ∈ (walkThrough g setup active t s start).1.table.reports, P d)
    (hcyclic : ∀ step, P (.cyclic s.id step)) :
    ∀ d ∈ (t.playScripted g setup active s start).1.reports, P d := by
  rw [playScripted_eq]
  generalize walkThrough g setup active t s start = left at hwalk ⊢
  obtain ⟨w, e⟩ := left
  cases e with
  | circling step =>
      exact List.forall_mem_append.mpr ⟨hwalk, List.forall_mem_singleton.mpr (hcyclic step)⟩
  | _ => exact hwalk

/-- The play of a scenario reports the scenario as a whole only if nothing else is left of it. -/
theorem reports_play (t : Table) (p : Played) :
    ∃ added, (t.play g setup active p).1.reports = t.reports ++ added ∧
      ∀ d ∈ added, d.IsLocal ∨ ∃ step, d = .cyclic p.id step ∧
        (t.play g setup active p).1.log = t.log ∧
        (t.play g setup active p).2 = ⟨p.id, none, .started none, [], .empty⟩ := by
  cases p with
  | scripted s start =>
      have hwalk := reports_walkThrough g setup active t s start
      simp only [play, playScripted_eq]
      generalize walkThrough g setup active t s start = left at hwalk ⊢
      obtain ⟨w, e⟩ := left
      obtain ⟨added, hreports, hlocal⟩ := hwalk
      cases e with
      | circling step =>
          refine ⟨added ++ [.cyclic s.id step], ?_, ?_⟩
          · rw [leave, hreports, List.append_assoc]
          · refine List.forall_mem_append.mpr ⟨fun d hd => Or.inl (hlocal d hd), ?_⟩
            exact List.forall_mem_singleton.mpr (Or.inr ⟨step, rfl, rfl, rfl⟩)
      | _ => exact ⟨added, hreports, fun d hd => Or.inl (hlocal d hd)⟩
  | custom id name xpCost =>
      exact ⟨[], (List.append_nil _).symm, List.forall_mem_nil _⟩

theorem reports_playAll (t : Table) (ps : List Played) :
    t.reports <+: (t.playAll g setup active ps).1.reports := by
  induction ps generalizing t with
  | nil => exact List.prefix_rfl
  | cons p ps ih =>
      obtain ⟨added, hadded, -⟩ := reports_play g setup active t p
      have hfirst : t.reports <+: (t.play g setup active p).1.reports :=
        hadded ▸ List.prefix_append t.reports added
      exact hfirst.trans (ih _)

variable {g setup active}

/-- What is reported in a play and is not about a step or a record is about a scenario that goes in
circles when it has its turn. -/
theorem mem_reports_playAll {t : Table} {ps : List Played} {d : Diagnostic}
    (hd : d ∈ (t.playAll g setup active ps).1.reports) :
    d ∈ t.reports ∨ d.IsLocal ∨ ∃ before p after step, ps = before ++ p :: after ∧
      d = .cyclic p.id step ∧
      ((t.playAll g setup active before).1.play g setup active p).1.log =
        (t.playAll g setup active before).1.log ∧
      ((t.playAll g setup active before).1.play g setup active p).2 =
        ⟨p.id, none, .started none, [], .empty⟩ := by
  induction ps generalizing t with
  | nil => exact Or.inl hd
  | cons p ps ih =>
      simp only [playAll] at hd
      rcases ih hd with hd | hlocal | ⟨before, p', after, step, rfl, hcyclic, hlog, hprogress⟩
      · obtain ⟨added, hadded, hplay⟩ := reports_play g setup active t p
        rw [hadded, List.mem_append] at hd
        rcases hd with hd | hd
        · exact Or.inl hd
        · rcases hplay d hd with hlocal | ⟨step, hcyclic, hlog, hprogress⟩
          · exact Or.inr (Or.inl hlocal)
          · exact Or.inr (Or.inr ⟨[], p, ps, step, rfl, hcyclic, hlog, hprogress⟩)
      · exact Or.inr (Or.inl hlocal)
      · exact Or.inr (Or.inr ⟨p :: before, p', after, step, rfl, hcyclic, hlog, hprogress⟩)

/-! ## Before the first scenario -/

theorem exists_ofRecord_of_mem_applyOperation {t : Table} {r : Record} {d : Diagnostic}
    (hd : d ∈ (t.applyOperation g r).reports) : d ∈ t.reports ∨ ∃ f, d = .ofRecord r f := by
  unfold applyOperation at hd
  repeat' split at hd
  all_goals first
    | exact Or.inl hd
    | rcases List.mem_append.mp hd with hd | hd
      · exact Or.inl hd
      · exact Or.inr ⟨_, List.mem_singleton.mp hd⟩

/-- Before the first scenario only records in effect are reported. -/
theorem exists_ofRecord_of_mem_prepare {d : Diagnostic}
    (hd : d ∈ (prepare g setup active).reports) : ∃ r ∈ active, ∃ f, d = .ofRecord r f := by
  have hoperated : ∀ d ∈ (active.foldl (applyOperation g) (deal g setup)).reports,
      ∃ r ∈ active, ∃ f, d = .ofRecord r f := by
    apply List.foldlRecOn
      (motive := fun t : Table => ∀ d ∈ t.reports, ∃ r ∈ active, ∃ f, d = .ofRecord r f)
    · exact fun d hd => nomatch hd
    · intro t ht r hr d hd
      rcases exists_ofRecord_of_mem_applyOperation hd with hd | ⟨f, hf⟩
      · exact ht d hd
      · exact ⟨r, hr, f, hf⟩
  simp only [prepare, List.mem_append] at hd
  rcases hd with (hd | hd) | hd
  · exact hoperated d hd
  · rw [Starts.refused_ofRecords, List.mem_filterMap] at hd
    obtain ⟨r, hmem, hr⟩ := hd
    unfold Guide.refusal? at hr
    repeat' split at hr
    all_goals cases hr
    exact ⟨r, hmem, _, rfl⟩
  · obtain ⟨side, -, hside⟩ := List.mem_filterMap.mp hd
    split at hside
    next r after hr _ =>
        split at hside
        · cases hside
        · cases hside
          exact ⟨r, Starts.mem_of_get?_records hr, _, rfl⟩
    next => cases hside

theorem isLocal_of_mem_prepare {d : Diagnostic} (hd : d ∈ (prepare g setup active).reports) :
    d.IsLocal := by
  obtain ⟨r, -, f, rfl⟩ := exists_ofRecord_of_mem_prepare hd
  exact Diagnostic.isLocal_ofRecord r f

end Table
end Chronicle
