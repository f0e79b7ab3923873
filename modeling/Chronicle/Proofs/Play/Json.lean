import Chronicle.Play.Json
import Chronicle.Proofs.CampaignLog.Json
import Chronicle.Proofs.Json.Text
import Chronicle.Sample.Evening
import Chronicle.Sample.NightOfTheZealot

/-!
# Outcomes lose nothing as JSON

What a campaign has come to can be kept as a text and is read from it as it was. The status of a
scenario stands between the fields of its progress, none of which has the name of one of its
members.
-/

namespace Chronicle

open Json

/-! ## Progress -/

theorem Status.ofPart_members (s : Status) :
    ofPart (.map (Document.ofMembers s.members)) = .ok s := by
  unfold ofPart
  cases s with
  | notStarted => exact gatherTagged_members (by decide) (by simp) trivial rfl
  | started pendingAt =>
      refine gatherTagged_members (by decide) (by simp) trivial ?_
      simp only [ofVariant]
      refine gather_members (by simp) trivial (by simp) fun f hf => ?_
      have hpending : f.option "pending_at" = .ok pendingAt := hf.option_present (by decide) rfl
      rw [hpending]
      rfl
  | completed r =>
      exact gatherTagged_members (by decide) (by simp) trivial (gather_need completed trivial)

/-- The status stands between the name of a scenario and what was answered and earned in it. -/
theorem Progress.names_members (p : Progress) {members : List (String × Json)}
    (hmembers : members = ("scenario_id", encode p.scenario) ::
      (optional "custom_name" p.customName ++ p.status.members
        ++ [("answered_steps", encode p.answered), ("xp_earned", encode p.xpEarned)])) :
    (members.map Prod.fst).Nodup ∧
      members.filter (·.1 ∉ ["scenario_id", "custom_name", "answered_steps", "xp_earned"]) =
        p.status.members ∧
      members.lookup "scenario_id" = some (encode p.scenario) ∧
      members.lookup "custom_name" = p.customName.map encode ∧
      members.lookup "answered_steps" = some (encode p.answered) ∧
      members.lookup "xp_earned" = some (encode p.xpEarned) := by
  subst hmembers
  obtain ⟨scenario, customName, status, answered, xpEarned⟩ := p
  cases customName <;> cases status <;>
    simp [Json.optional, Status.members, tag, List.lookup_cons]

instance : LawfulCodec Progress where
  decode_encode p o h := by
    show Progress.ofDocument o _ = .ok p
    rw [Progress.ofDocument]
    obtain ⟨hnodup, hrest, hscenario, hname, hanswered, hearned⟩ := p.names_members rfl
    refine gatherInlined_members hnodup h fun f hf => ?_
    have hscenario : f.need "scenario_id" = .ok p.scenario := hf.need (by decide) hscenario
    have hname : f.option "custom_name" = .ok p.customName := hf.option (by decide) hname
    have hstatus : f.afterwards (Status.ofPart (.map (Document.ofMembers p.status.members))) =
        .ok p.status := f.afterwards_of_eq p.status.ofPart_members
    have hanswered : f.need "answered_steps" = .ok p.answered := hf.need (by decide) hanswered
    have hearned : f.need "xp_earned" = .ok p.xpEarned := hf.need (by decide) hearned
    rw [hrest, hscenario, hname, hstatus, hanswered, hearned]
    rfl

/-! ## Diagnostics and playthroughs -/

instance : LawfulCodec Diagnostic where
  decode_encode d o h := by
    show gatherTagged o "kind" Diagnostic.variants (.map (Document.ofMembers d.members))
      Diagnostic.ofVariant = .ok d
    replace h : o.Holds (.map (Document.ofMembers d.members)) := h
    cases d with
    | script s t detail =>
        exact gatherTagged_members (by decide) (by simp) h
          (gather_need₃ Diagnostic.script (by decide) trivial)
    | record id s t detail =>
        refine gatherTagged_members (by decide) (by simp) h ?_
        simp only [Diagnostic.ofVariant]
        refine gather_members (by simp) trivial (by simp) fun f hf => ?_
        have hid : f.need "record_id" = .ok id := hf.need (by decide) rfl
        have hs : f.option "scenario" = .ok s := hf.option_present (by decide) rfl
        have ht : f.option "step" = .ok t := hf.option_present (by decide) rfl
        have hdetail : f.need "detail" = .ok detail := hf.need (by decide) rfl
        rw [hid, hs, ht, hdetail]
        rfl
    | cyclic s t =>
        exact gatherTagged_members (by decide) (by simp) h
          (gather_need₂ Diagnostic.cyclic (by decide) trivial)
    | transition s detail =>
        exact gatherTagged_members (by decide) (by simp) h
          (gather_need₂ Diagnostic.transition (by decide) trivial)

instance : LawfulCodec Playthrough where
  decode_encode p o h := by
    show Playthrough.ofDocument o _ = .ok p
    rw [Playthrough.ofDocument]
    refine gather_members (by simp [Playthrough.members]) h (by simp [Playthrough.members])
      fun f hf => ?_
    have hguide : f.need "guide_id" = .ok p.guide := hf.need (by decide) rfl
    have hversion : f.need "guide_version" = .ok p.guideVersion := hf.need (by decide) rfl
    have hlog : f.need "campaign_log" = .ok p.log := hf.need (by decide) rfl
    have hscenarios : f.need "scenarios" = .ok p.scenarios := hf.need (by decide) rfl
    have hdiagnostics : f.need "diagnostics" = .ok p.diagnostics := hf.need (by decide) rfl
    rw [hguide, hversion, hlog, hscenarios, hdiagnostics]
    rfl

/-! ## How deeply outcomes are nested -/

instance : Nested Uuid 0 := ⟨fun _ => rfl⟩

theorem Status.fits_members (s : Status) :
    ∀ m ∈ s.members, (Document.ofJson m.2).fits 1 = true := by
  cases s <;> simp [members, tag, fits_encode, fits_str]

instance : Nested Progress 2 where
  fits_encode p := by
    refine fits_obj (List.forall_mem_cons.mpr ⟨fits_encode (by decide) p.scenario, ?_⟩)
    refine List.forall_mem_append.mpr ⟨List.forall_mem_append.mpr ⟨?_, p.status.fits_members⟩, ?_⟩
    · cases p.customName <;> simp [Json.optional, fits_encode]
    · simp [fits_encode]

instance : Nested Diagnostic 1 where
  fits_encode d := by
    refine fits_obj ?_
    cases d <;> simp [Diagnostic.members, tag, fits_encode, fits_str]

instance : Nested Playthrough 7 where
  fits_encode p := fits_obj (by simp [Playthrough.members, fits_encode])

/-! ## Texts of outcomes -/

namespace Playthrough

theorem ofText_toText (p : Playthrough) : Json.ofText (toText p) = .ok p :=
  Json.ofText_toText p (fits_encode (by decide) p)

/-- **Outcomes and their texts.** Whatever a campaign has come to, with any campaign log, answers,
progress and reports, the text that is written of it can be read. It is read as the same outcome, of
which the same text would be written again, and of no other outcome is this text written. -/
theorem text_round_trip (p : Playthrough) :
    (∃ q : Playthrough, Json.ofText (toText p) = .ok q ∧ q = p ∧ toText q = toText p) ∧
      ∀ q : Playthrough, toText q = toText p → q = p := by
  refine ⟨⟨p, p.ofText_toText, rfl, rfl⟩, ?_⟩
  intro q htext
  have hread := q.ofText_toText
  rw [htext, ofText_toText] at hread
  exact (Except.ok.inj hread).symm

open Sample

/-- A campaign with a custom side scenario, answers and a scenario that waits is read again. -/
theorem text_round_trip_of_bereaved :
    ∃ p, nightOfTheZealot.play bereaved = .ok p ∧ Json.ofText (toText p) = .ok p ∧
      ∀ q : Playthrough, toText q = toText p → q = p := by
  obtain ⟨⟨q, hq, rfl, -⟩, hinjective⟩ :=
    text_round_trip (nightOfTheZealot.outcome bereaved.setup bereaved.active)
  exact ⟨_, rfl, hq, hinjective⟩

end Playthrough
end Chronicle
