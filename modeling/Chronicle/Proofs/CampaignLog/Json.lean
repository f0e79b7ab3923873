import Chronicle.CampaignLog.Json
import Chronicle.Proofs.Journal.Json
import Chronicle.Proofs.Json.Nesting
import Chronicle.Proofs.Record.Json

/-!
# Campaign logs lose nothing as JSON

Whatever came to be written in a campaign log is read back from its written form, and no campaign
log is nested so deeply that a text could not hold it.
-/

namespace Chronicle

open Json

/-! ## Inscriptions and achievements -/

instance : LawfulCodec Inscription where
  decode_encode e o h := by
    show Inscription.ofDocument o _ = .ok e
    rw [Inscription.ofDocument]
    have hkeys : ((("id", encode e.id) :: ("crossed_out", encode e.crossedOut) ::
        optional "text" e.text).map Prod.fst).Sublist ["id", "crossed_out", "text"] :=
      ((keys_optional _ e.text).cons_cons _).cons_cons _
    refine gather_sublist (by decide) hkeys h fun f hf => ?_
    have hid : f.need "id" = .ok e.id := hf.need (by decide) rfl
    have hcrossed : f.need "crossed_out" = .ok e.crossedOut := hf.need (by decide) rfl
    have htext : f.orElse "text" none = .ok e.text :=
      hf.orNone (by decide) (by simp [List.lookup_cons, lookup_optional])
    rw [hid, hcrossed, htext]
    rfl

/-- The kind of a value and what stands beside it are shown by the same fields. -/
theorem AchievementValue.fields_tag {α : Type} [Codec α] [LawfulCodec α] (variant : String)
    (hvariant : variant ∈ variants) {o : Origin} {a : α}
    (h : o.Holds (.map (Document.ofMembers (tag "type" variant [("value", encode a)])))) :
    ∃ f : Fields, fields o ["type", "value"]
        (.map (Document.ofMembers (tag "type" variant [("value", encode a)]))) = .ok f ∧
      f.close (f.get "type" (decodeName variants id) (.error .form)) = .ok variant ∧
      f.need "value" = .ok a ∧ ∀ v : AchievementValue, f.close (.ok v) = .ok v := by
  have hnames : ∀ m ∈ tag "type" variant [("value", encode a)], m.1 ∈ ["type", "value"] := by
    simp [tag]
  obtain ⟨f, hfields, hf⟩ := fields_members (by simp [tag]) h hnames
  have hname : decodeName variants id o.inner (.ofJson (.str variant)) = .ok variant :=
    named_name hvariant fun _ _ heq => heq
  have htype : f.get "type" (decodeName variants id) (.error .form) = .ok variant :=
    hf.get_of_lookup (by decide) rfl hname
  refine ⟨f, hfields, ?_, hf.need (by decide) rfl, hf.close⟩
  rw [htype, hf.close]

instance : LawfulCodec AchievementValue where
  decode_encode v o h := by
    show AchievementValue.ofDocument o (.ofJson v.toJson) = .ok v
    replace h : o.Holds (.ofJson v.toJson) := h
    cases v with
    | binary earned =>
        obtain ⟨f, hfields, htype, hvalue, hclose⟩ :=
          AchievementValue.fields_tag "binary" (by decide) h
        rw [AchievementValue.ofDocument, AchievementValue.toJson, Document.ofJson, hfields]
        simp only [bind, Except.bind, htype, hvalue]
        exact hclose _
    | count n =>
        obtain ⟨f, hfields, htype, hvalue, hclose⟩ :=
          AchievementValue.fields_tag "count" (by decide) h
        rw [AchievementValue.ofDocument, AchievementValue.toJson, Document.ofJson, hfields]
        simp only [bind, Except.bind, htype, hvalue]
        exact hclose _

/-! ## Investigators -/

instance : LawfulCodec InvestigatorState where
  decode_encode i o h := by
    show InvestigatorState.ofDocument o _ = .ok i
    rw [InvestigatorState.ofDocument]
    refine gather_members (by simp) h (by simp) fun f hf => ?_
    have hname : f.need "name" = .ok i.name := hf.need (by decide) rfl
    have hhealth : f.need "health" = .ok i.health := hf.need (by decide) rfl
    have hsanity : f.need "sanity" = .ok i.sanity := hf.need (by decide) rfl
    have hphysical : f.need "physical" = .ok i.physical := hf.need (by decide) rfl
    have hmental : f.need "mental" = .ok i.mental := hf.need (by decide) rfl
    have hkilled : f.need "killed" = .ok i.killed := hf.need (by decide) rfl
    have hinsane : f.need "insane" = .ok i.insane := hf.need (by decide) rfl
    have hspent : f.need "spent_xp" = .ok i.spentXp := hf.need (by decide) rfl
    have htotal : f.need "total_xp" = .ok i.totalXp := hf.need (by decide) rfl
    have hsupplies : f.need "supplies" = .ok i.supplies := hf.need (by decide) rfl
    rw [hname, hhealth, hsanity, hphysical, hmental, hkilled, hinsane, hspent, htotal, hsupplies]
    rfl

/-! ## Answers -/

instance : LawfulCodec Answer where
  decode_encode a o h := by
    show gatherTagged o "type" Answer.variants (.map (Document.ofMembers a.members))
      Answer.ofVariant = .ok a
    replace h : o.Holds (.map (Document.ofMembers a.members)) := h
    cases a with
    | decision yes =>
        exact gatherTagged_members (by decide) (by simp) h (gather_need Answer.decision trivial)
    | count n =>
        exact gatherTagged_members (by decide) (by simp) h (gather_need Answer.count trivial)
    | choice index label =>
        exact gatherTagged_members (by decide) (by simp) h
          (gather_need₂ Answer.choice (by decide) trivial)
    | choiceList choices =>
        exact gatherTagged_members (by decide) (by simp) h (gather_need Answer.choiceList trivial)
    | stringChoices choices =>
        exact gatherTagged_members (by decide) (by simp) h
          (gather_need Answer.stringChoices trivial)
    | text text =>
        exact gatherTagged_members (by decide) (by simp) h (gather_need Answer.text trivial)
    | supplies supplies =>
        exact gatherTagged_members (by decide) (by simp) h (gather_need Answer.supplies trivial)
    | interScenarioTrauma changes =>
        exact gatherTagged_members (by decide) (by simp) h
          (gather_need Answer.interScenarioTrauma trivial)
    | campaignLink decision =>
        exact gatherTagged_members (by decide) (by simp) h
          (gather_need Answer.campaignLink trivial)

/-! ## Campaign logs -/

instance : LawfulCodec CampaignLog where
  decode_encode l o h := by
    show CampaignLog.ofDocument o _ = .ok l
    rw [CampaignLog.ofDocument]
    refine gather_members (by simp) h (by simp) fun f hf => ?_
    have hdifficulty : f.need "difficulty" = .ok l.difficulty := hf.need (by decide) rfl
    have hsections : f.need "sections" = .ok l.sections := hf.need (by decide) rfl
    have hcounts : f.need "counts" = .ok l.counts := hf.need (by decide) rfl
    have hachievements : f.need "achievements" = .ok l.achievements := hf.need (by decide) rfl
    have hinvestigators : f.need "investigators" = .ok l.investigators := hf.need (by decide) rfl
    have hbag : f.need "chaos_bag" = .ok l.chaosBag := hf.need (by decide) rfl
    have hresolutions : f.need "resolutions" = .ok l.resolutions := hf.need (by decide) rfl
    have hleads : f.need "lead_investigators" = .ok l.leads := hf.need (by decide) rfl
    have hanswers : f.need "answers" = .ok l.answers := hf.need (by decide) rfl
    rw [hdifficulty, hsections, hcounts, hachievements, hinvestigators, hbag, hresolutions, hleads,
      hanswers]
    rfl

/-! ## How deeply campaign logs are nested -/

instance : Nested Difficulty 0 := ⟨fun _ => rfl⟩

instance : Nested TraumaChange 1 where
  fits_encode t := fits_obj (by simp [fits_encode])

instance : Nested Inscription 1 where
  fits_encode e := by
    refine fits_obj ?_
    cases e.text <;> simp [Json.optional, fits_encode]

instance : Nested AchievementValue 1 where
  fits_encode v := by cases v <;> exact fits_obj (by simp [tag, fits_encode, fits_str])

instance : Nested InvestigatorState 2 where
  fits_encode i := fits_obj (by simp [fits_encode])

instance : Nested Answer 3 where
  fits_encode a := by
    refine fits_obj ?_
    cases a <;> simp [Answer.members, tag, fits_encode, fits_str]

instance : Nested CampaignLog 6 where
  fits_encode l := fits_obj (by simp [fits_encode])

end Chronicle
