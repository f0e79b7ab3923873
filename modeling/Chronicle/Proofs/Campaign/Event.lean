import Chronicle.Campaign.Event
import Chronicle.Proofs.Journal.Json
import Chronicle.Proofs.Record.Json

/-!
# Events lose nothing as JSON
-/

namespace Chronicle.Event

open Json

/-- The name of what happened. -/
def name : Event → String
  | .created .. => "CampaignCreated"
  | .recorded _ => "InputRecorded"
  | .undone _ => "InputUndone"
  | .redone _ => "InputRedone"
  | .reset _ => "ScenarioReset"

/-- The fields of what happened. -/
def content : Event → List (String × Json)
  | .created campaign setup => [("campaign_id", encode campaign), ("setup", encode setup)]
  | .recorded record => [("record", encode record)]
  | .undone bucket | .redone bucket => [("scenario", encode bucket)]
  | .reset scenario => [("scenario", encode scenario)]

theorem toJson_eq (e : Event) : e.toJson = .obj [(e.name, .obj e.content)] := by
  cases e <;> rfl

theorem name_mem_names (e : Event) : e.name ∈ names := by
  cases e <;> simp [name, names]

theorem ofMember_content {e : Event} {o : Origin}
    (h : o.Holds (.map (Document.ofMembers e.content))) :
    ofMember o e.name (.map (Document.ofMembers e.content)) = .ok e := by
  cases e with
  | created campaign setup => exact gather_need₂ Event.created (by decide) h
  | recorded record => exact gather_need Event.recorded h
  | undone bucket | redone bucket =>
      simp only [name, ofMember]
      refine gather_members (by simp [content]) h (by simp [content]) fun f hf => ?_
      have hbucket : f.option "scenario" = .ok bucket := hf.get_present (by decide) rfl
      rw [hbucket]
      rfl
  | reset scenario => exact gather_need Event.reset h

theorem ofContent_map (o : Origin) (name : String) (members : List (Document × Document)) :
    ofContent o name (.map members) = ofMember o.inner name (.map members) := by
  cases o <;> rfl

instance : LawfulCodec Event where
  decode_encode e o h := by
    have hdoc : Document.ofJson (encode e) =
        .map [(.str e.name, .map (Document.ofMembers e.content))] :=
      congrArg Document.ofJson e.toJson_eq
    rw [hdoc] at h ⊢
    have hcontent := h.of_mem_map (List.mem_singleton.mpr rfl)
    show ofDocument o (.map [(.str e.name, .map (Document.ofMembers e.content))]) = .ok e
    have hpick : pick names id o (.str e.name) = .ok e.name := pick_str (name_mem_names e)
    have hread : ofContent o e.name (.map (Document.ofMembers e.content)) = .ok e := by
      rw [ofContent_map]
      exact ofMember_content hcontent
    rw [ofDocument, hpick]
    show (ofContent o e.name (.map (Document.ofMembers e.content))).bind _ = .ok e
    rw [hread]
    rfl

end Chronicle.Event
