import Chronicle.Proofs.Instant.Text
import Chronicle.Proofs.Json.Record
import Chronicle.Proofs.Uuid
import Chronicle.Record.Json

/-!
# Records lose nothing as JSON

The payload of a record stands between the fields of the record. None of its members has the name
of such a field, so it is put aside as it was written.
-/

namespace Chronicle

open Json

instance : LawfulCodec AchievementOperation where
  decode_encode a _ _ := by
    refine named_name (by cases a <;> decide) fun b _ h => ?_
    revert h
    cases a <;> cases b <;> decide

instance : LawfulCodec TraumaChange where
  decode_encode t o h := by
    show TraumaChange.ofDocument o _ = .ok t
    rw [TraumaChange.ofDocument]
    refine gather_members (by simp) h (by simp) fun f hf => ?_
    have hphysical : f.orElse "physical" 0 = .ok t.physical := hf.orElse (by decide) rfl
    have hmental : f.orElse "mental" 0 = .ok t.mental := hf.orElse (by decide) rfl
    have hkilled : f.orElse "killed" false = .ok t.killed := hf.orElse (by decide) rfl
    have hinsane : f.orElse "insane" false = .ok t.insane := hf.orElse (by decide) rfl
    have hspent : f.orElse "spent_xp" 0 = .ok t.spentXp := hf.orElse (by decide) rfl
    rw [hphysical, hmental, hkilled, hinsane, hspent]
    rfl

/-! ## Payloads -/

/-- The fields of the payloads of a kind. -/
def Kind.fieldNames : Kind → List String
  | .start .main => ["lead_investigator"]
  | .start .side => ["after", "lead_investigator"]
  | .start .custom => ["name", "after", "xp_cost"]
  | .reply .decision | .reply .campaignLink => ["decision"]
  | .reply .count => ["count"]
  | .reply .choice => ["choice"]
  | .reply .choiceList | .reply .stringChoices => ["choices"]
  | .reply .text => ["text"]
  | .reply .supplies => ["supplies"]
  | .reply .interScenarioTrauma => ["investigators"]
  | .achievement => ["achievement", "operation", "max"]

namespace Payload

/-- The members of a payload beside its type. -/
def fieldMembers : Payload → List (String × Json)
  | .start s => startMembers s
  | .reply r => replyMembers r
  | .achievement id operation max =>
    ("achievement", encode id) :: ("operation", encode operation) :: Json.optional "max" max

theorem members_eq_tag (p : Payload) : p.members = tag "type" p.kind.name p.fieldMembers := by
  cases p <;> rfl

theorem keys_fieldMembers (p : Payload) :
    (p.fieldMembers.map Prod.fst).Sublist p.kind.fieldNames := by
  cases p with
  | start s =>
      cases s with
      | main lead => exact keys_optional _ lead
      | side after lead =>
          simp only [fieldMembers, startMembers, List.map_append]
          exact (keys_optional _ after).append (keys_optional _ lead)
      | custom name after xpCost =>
          simp only [fieldMembers, startMembers, List.map_cons, List.map_append]
          exact ((keys_optional _ after).append (List.Sublist.refl _)).cons_cons _
  | reply r => cases r <;> exact List.Sublist.refl _
  | achievement id operation max =>
      simp only [fieldMembers, List.map_cons]
      exact ((keys_optional _ max).cons_cons _).cons_cons _

theorem ofVariant_start (s : Start) :
    ofVariant s.kind.name (.map (Document.ofMembers (startMembers s))) = .ok (.start s) := by
  have hkeys := keys_fieldMembers (.start s)
  cases s with
  | main lead =>
      simp only [Start.kind, StartKind.name, ofVariant]
      refine gather_sublist (by decide) hkeys trivial fun f hf => ?_
      have hlead : f.orElse "lead_investigator" none = .ok lead :=
        hf.orNone (by decide) (by simp [startMembers, lookup_optional])
      rw [hlead]
      rfl
  | side after lead =>
      simp only [Start.kind, StartKind.name, ofVariant]
      refine gather_sublist (by decide) hkeys trivial fun f hf => ?_
      have hafter : f.orElse "after" none = .ok after :=
        hf.orNone (by decide) (by simp [startMembers, List.lookup_append, lookup_optional])
      have hlead : f.orElse "lead_investigator" none = .ok lead :=
        hf.orNone (by decide) (by simp [startMembers, List.lookup_append, lookup_optional])
      rw [hafter, hlead]
      rfl
  | custom name after xpCost =>
      simp only [Start.kind, StartKind.name, ofVariant]
      refine gather_sublist (by decide) hkeys trivial fun f hf => ?_
      have hname : f.need "name" = .ok name := hf.need (by decide) rfl
      have hafter : f.orElse "after" none = .ok after := by
        refine hf.orNone (by decide) ?_
        simp [startMembers, List.lookup_cons, List.lookup_append, lookup_optional]
      have hcost : f.orElse "xp_cost" 0 = .ok xpCost := by
        refine hf.orElse (by decide) ?_
        simp [startMembers, List.lookup_cons, List.lookup_append, lookup_optional]
      rw [hname, hafter, hcost]
      rfl

/-- The reply to a prompt has one field. -/
theorem gather_reply {α : Type} [Codec α] [LawfulCodec α] (name : String) (a : α)
    (reply : α → Reply) :
    gather .part [name] (.map (Document.ofMembers [(name, encode a)]))
      (fun f => .reply <$> reply <$> f.need name) = .ok (Payload.reply (reply a)) := by
  refine gather_members (by simp) trivial (by simp) fun f hf => ?_
  have hfield : f.need name = .ok a := hf.need (List.mem_singleton.mpr rfl) (by simp)
  rw [hfield]
  rfl

theorem ofVariant_reply (r : Reply) :
    ofVariant r.kind.name (.map (Document.ofMembers (replyMembers r))) = .ok (.reply r) := by
  cases r with
  | decision yes => exact gather_reply "decision" yes .decision
  | count n => exact gather_reply "count" n .count
  | choice index => exact gather_reply "choice" index .choice
  | choiceList choices => exact gather_reply "choices" choices .choiceList
  | stringChoices choices => exact gather_reply "choices" choices .stringChoices
  | text text => exact gather_reply "text" text .text
  | supplies supplies => exact gather_reply "supplies" supplies .supplies
  | interScenarioTrauma changes => exact gather_reply "investigators" changes .interScenarioTrauma
  | campaignLink decision => exact gather_reply "decision" decision .campaignLink

theorem ofVariant_kind (p : Payload) :
    ofVariant p.kind.name (.map (Document.ofMembers p.fieldMembers)) = .ok p := by
  have hkeys := keys_fieldMembers p
  cases p with
  | start s => exact ofVariant_start s
  | reply r => exact ofVariant_reply r
  | achievement id operation max =>
      simp only [Payload.kind, Kind.name, ofVariant]
      refine gather_sublist (by decide) hkeys trivial fun f hf => ?_
      have hid : f.need "achievement" = .ok id := hf.need (by decide) rfl
      have hoperation : f.need "operation" = .ok operation := hf.need (by decide) rfl
      have hmax : f.orElse "max" none = .ok max := by
        refine hf.orNone (by decide) ?_
        simp [fieldMembers, List.lookup_cons, lookup_optional]
      rw [hid, hoperation, hmax]
      rfl

theorem type_not_mem_fieldNames (k : Kind) : "type" ∉ k.fieldNames := by
  have hall : ∀ k ∈ Kind.all, "type" ∉ k.fieldNames := by decide
  exact hall k k.mem_all

instance : LawfulCodec Payload where
  decode_encode p o h := by
    show gatherTagged o "type" variants (.map (Document.ofMembers p.members)) ofVariant = .ok p
    replace h : o.Holds (.map (Document.ofMembers p.members)) := h
    rw [members_eq_tag] at h ⊢
    refine gatherTagged_members (List.mem_map_of_mem (Kind.mem_all p.kind)) ?_ h (ofVariant_kind p)
    rintro m hm heq
    refine type_not_mem_fieldNames p.kind (heq ▸ (keys_fieldMembers p).subset ?_)
    exact List.mem_map_of_mem hm

end Payload

/-! ## Records -/

namespace Record

/-- The fields of a record beside its payload. -/
def fieldNames : List String := ["id", "schema_version", "scenario", "step", "recorded_at"]

def membersBefore (r : Record) : List (String × Json) :=
  ("id", encode r.id) :: ("schema_version", encode r.schema) ::
    (Json.optional "scenario" r.scenario ++ Json.optional "step" r.step)

def members (r : Record) : List (String × Json) :=
  r.membersBefore ++ r.payload.members ++ [("recorded_at", encode r.recordedAt)]

theorem keys_before (r : Record) :
    (r.membersBefore.map Prod.fst).Sublist ["id", "schema_version", "scenario", "step"] := by
  simp only [membersBefore, List.map_cons, List.map_append]
  exact ((keys_optional _ r.scenario).append (keys_optional _ r.step)).cons_cons _ |>.cons_cons _

theorem keys_payload (p : Payload) :
    (p.members.map Prod.fst).Sublist ("type" :: p.kind.fieldNames) := by
  rw [Payload.members_eq_tag]
  exact (Payload.keys_fieldMembers p).cons_cons _

/-- The names of the members of a payload and of the record around it are different. -/
theorem nodup_names (k : Kind) :
    (["id", "schema_version", "scenario", "step"] ++ "type" :: k.fieldNames
      ++ ["recorded_at"]).Nodup := by
  have hall : ∀ k ∈ Kind.all, (["id", "schema_version", "scenario", "step"] ++
      "type" :: k.fieldNames ++ ["recorded_at"]).Nodup := by decide
  exact hall k k.mem_all

theorem nodup_keys (r : Record) : (r.members.map Prod.fst).Nodup := by
  refine List.Sublist.nodup ?_ (nodup_names r.payload.kind)
  simp only [members, List.map_append]
  exact ((keys_before r).append (keys_payload r.payload)).append (List.Sublist.refl _)

theorem not_mem_fieldNames (k : Kind) : ∀ name ∈ "type" :: k.fieldNames, name ∉ fieldNames := by
  have hall : ∀ k ∈ Kind.all, ∀ name ∈ "type" :: k.fieldNames, name ∉ fieldNames := by decide
  exact hall k k.mem_all

theorem not_mem_fieldNames_of_mem_payload {p : Payload} {m : String × Json}
    (hm : m ∈ p.members) : m.1 ∉ fieldNames :=
  not_mem_fieldNames p.kind m.1 ((keys_payload p).subset (List.mem_map_of_mem hm))

/-- The payload is what the fields of a record leave over. -/
theorem filter_members (r : Record) :
    r.members.filter (·.1 ∉ fieldNames) = r.payload.members := by
  have hbefore : r.membersBefore.filter (·.1 ∉ fieldNames) = [] := by
    rw [List.filter_eq_nil_iff]
    intro m hm hnot
    have hname := (keys_before r).subset (List.mem_map_of_mem hm)
    have hsub : ["id", "schema_version", "scenario", "step"] ⊆ fieldNames := by decide
    exact of_decide_eq_true hnot (hsub hname)
  have hpayload : r.payload.members.filter (·.1 ∉ fieldNames) = r.payload.members := by
    rw [List.filter_eq_self]
    exact fun m hm => decide_eq_true (not_mem_fieldNames_of_mem_payload hm)
  rw [members, List.filter_append, List.filter_append, hbefore, hpayload]
  simp [fieldNames]

theorem lookup_payload {p : Payload} {name : String} (h : name ∈ fieldNames) :
    p.members.lookup name = none := by
  rw [List.lookup_eq_none_iff]
  intro m hm
  refine bne_iff_ne.mpr ?_
  rintro rfl
  exact not_mem_fieldNames_of_mem_payload hm h

/-- A field of a record is looked up among the members that are its own. -/
theorem lookup_members (r : Record) {name : String} (h : name ∈ fieldNames) :
    r.members.lookup name =
      (r.membersBefore.lookup name).or ([("recorded_at", encode r.recordedAt)].lookup name) := by
  rw [members, List.lookup_append, List.lookup_append, lookup_payload h, Option.or_none]

end Record

instance : LawfulCodec Record where
  decode_encode r o h := by
    show Record.ofDocument o (.map (Document.ofMembers r.members)) = .ok r
    rw [Record.ofDocument]
    refine gatherInlined_members r.nodup_keys h fun f hf => ?_
    have hid : f.need "id" = .ok r.id := hf.need (by decide) rfl
    have hschema : f.orElse "schema_version" currentSchema = .ok r.schema :=
      hf.orElse (by decide) rfl
    have hscenario : f.option "scenario" = .ok r.scenario := by
      refine hf.option (by decide) ?_
      rw [r.lookup_members (by decide)]
      simp [Record.membersBefore, List.lookup_cons, List.lookup_append, lookup_optional]
    have hstep : f.option "step" = .ok r.step := by
      refine hf.option (by decide) ?_
      rw [r.lookup_members (by decide)]
      simp [Record.membersBefore, List.lookup_cons, List.lookup_append, lookup_optional]
    have hrecordedAt : f.need "recorded_at" = .ok r.recordedAt := by
      refine hf.need (by decide) ?_
      rw [r.lookup_members (by decide)]
      simp [Record.membersBefore, List.lookup_cons, List.lookup_append, lookup_optional]
    have hrest : r.members.filter (·.1 ∉ ["id", "schema_version", "scenario", "step",
        "recorded_at"]) = r.payload.members := r.filter_members
    have hpayload : f.afterwards (Payload.ofDocument .part (.map (Document.ofMembers
        r.payload.members))) = .ok r.payload := by
      have hread : Payload.ofDocument .part (.map (Document.ofMembers r.payload.members)) =
          .ok r.payload := decode_encode r.payload .part trivial
      rw [Fields.afterwards, hread]
      rfl
    rw [hid, hschema, hscenario, hstep, hrecordedAt, hrest, hpayload]
    rfl

end Chronicle
