import Chronicle.Guide.Json
import Chronicle.Proofs.Journal.Json
import Chronicle.Proofs.Record.Json

/-!
# Guides lose nothing as JSON

Every part of a guide is read back from its written form. What a step does stands between its own
fields, and so do a test in its condition and the kind of an achievement. Their members have other
names, so each part is put aside as it was written.
-/

namespace Chronicle

open Json

instance : LawfulKeyText Difficulty where
  ofText?_text d := by cases d <;> decide

/-! ## Operands, verdicts and enumerations -/

theorem Operand.ofPart_toJson (v : Operand) : ofPart (.ofJson v.toJson) = .ok v := by
  cases v with
  | literal n =>
      have hread : decode .part (.ofJson (encode n)) = .ok n := decode_encode n .part trivial
      have hpart : ofPart (.ofJson (encode n)) =
          .literal <$> decode .part (.ofJson (encode n)) := by
        show ofPart (.ofInt n.toInt) = _ <$> decode .part (.ofInt n.toInt)
        unfold Document.ofInt
        split <;> rfl
      rw [toJson, hpart, hread]
      rfl
  | counted step =>
      exact gather_need counted trivial

instance : LawfulCodec Operand where
  decode_encode v o h := by
    replace h : o.Holds (.ofJson v.toJson) := h
    show (putAside o (.ofJson v.toJson)).bind _ = _
    rw [putAside_of_holds h, Except.bind, Operand.ofPart_toJson]
    rfl

instance : LawfulCodec Verdict where
  decode_encode v _ _ := by cases v <;> rfl

instance : LawfulCodec CountOperation where
  decode_encode c _ _ := by
    refine named_name (by cases c <;> decide) fun d _ h => ?_
    revert h
    cases c <;> cases d <;> decide

instance : LawfulCodec Whom where
  decode_encode w _ _ := by
    refine named_name (by cases w <;> decide) fun x _ h => ?_
    revert h
    cases w <;> cases x <;> decide

instance : LawfulCodec Comparison where
  decode_encode c _ _ := by
    refine named_name (by cases c <;> decide) fun d _ h => ?_
    revert h
    cases c <;> cases d <;> decide

/-! ## Effects -/

instance : LawfulCodec Effect where
  decode_encode e o h := by
    show gatherTagged o "type" Effect.variants (.map (Document.ofMembers e.members))
      Effect.ofVariant = .ok e
    replace h : o.Holds (.map (Document.ofMembers e.members)) := h
    cases e with
    | record s id crossOut =>
        refine gatherTagged_members (by decide) (by simp) h ?_
        simp only [Effect.ofVariant]
        refine gather_members (by simp) trivial (by simp) fun f hf => ?_
        have hs : f.need "section" = .ok s := hf.need (by decide) rfl
        have hid : f.orElse "id" none = .ok id := hf.orElse (by decide) rfl
        have hcross : f.orElse "cross_out" false = .ok crossOut := hf.orElse (by decide) rfl
        rw [hs, hid, hcross]
        rfl
    | recordText s source =>
        exact gatherTagged_members (by decide) (by simp) h
          (gather_need₂ Effect.recordText (by decide) trivial)
    | recordCards s source =>
        exact gatherTagged_members (by decide) (by simp) h
          (gather_need₂ Effect.recordCards (by decide) trivial)
    | count counter operation value =>
        exact gatherTagged_members (by decide) (by simp) h
          (gather_need₃ Effect.count (by decide) trivial)
    | trauma whom physical mental killed insane =>
        refine gatherTagged_members (by decide) (by simp) h ?_
        simp only [Effect.ofVariant]
        refine gather_members (by simp) trivial (by simp) fun f hf => ?_
        have hwhom : f.need "investigator" = .ok whom := hf.need (by decide) rfl
        have hphysical : f.orElse "physical" 0 = .ok physical := hf.orElse (by decide) rfl
        have hmental : f.orElse "mental" 0 = .ok mental := hf.orElse (by decide) rfl
        have hkilled : f.orElse "killed" false = .ok killed := hf.orElse (by decide) rfl
        have hinsane : f.orElse "insane" false = .ok insane := hf.orElse (by decide) rfl
        rw [hwhom, hphysical, hmental, hkilled, hinsane]
        rfl
    | earnXp whom amount =>
        exact gatherTagged_members (by decide) (by simp) h
          (gather_need₂ Effect.earnXp (by decide) trivial)
    | chaosBag tokens =>
        exact gatherTagged_members (by decide) (by simp) h (gather_need Effect.chaosBag trivial)
    | achievement id operation =>
        exact gatherTagged_members (by decide) (by simp) h
          (gather_need₂ Effect.achievement (by decide) trivial)
    | supplies whom supply n =>
        exact gatherTagged_members (by decide) (by simp) h
          (gather_need₃ Effect.supplies (by decide) trivial)

/-! ## Conditions -/

theorem Test.ofPart_members (t : Test) :
    ofPart (.map (Document.ofMembers t.members)) = .ok t := by
  unfold ofPart
  cases t with
  | eliminated whom =>
      exact gatherTagged_members (by decide) (by simp) trivial (gather_need eliminated trivial)
  | recorded s id =>
      exact gatherTagged_members (by decide) (by simp) trivial
        (gather_need₂ recorded (by decide) trivial)
  | count counter comparison value =>
      exact gatherTagged_members (by decide) (by simp) trivial
        (gather_need₃ count (by decide) trivial)
  | decision step =>
      exact gatherTagged_members (by decide) (by simp) trivial (gather_need decision trivial)
  | choice step =>
      exact gatherTagged_members (by decide) (by simp) trivial (gather_need choice trivial)
  | achieved id =>
      exact gatherTagged_members (by decide) (by simp) trivial (gather_need achieved trivial)

instance : LawfulCodec Route where
  decode_encode r _ h := gather_need₂ Route.mk (by decide) h

/-- A test that stands before the routes of a condition. -/
theorem Test.names_members (t : Test) (routes : Json) :
    ((t.members ++ [("options", routes)]).map Prod.fst).Nodup ∧
      (t.members ++ [("options", routes)]).filter (·.1 ∉ ["options"]) = t.members ∧
      (t.members ++ [("options", routes)]).lookup "options" = some routes := by
  cases t <;> simp [members, tag, List.lookup_cons]

instance : LawfulCodec Condition where
  decode_encode c o h := by
    show Condition.ofDocument o _ = .ok c
    rw [Condition.ofDocument]
    obtain ⟨hnodup, hrest, hlookup⟩ := c.test.names_members (encode c.routes)
    refine gatherInlined_members hnodup h fun f hf => ?_
    have htest : f.afterwards (Test.ofPart (.map (Document.ofMembers c.test.members))) =
        .ok c.test := f.afterwards_of_eq c.test.ofPart_members
    have hroutes : f.orElse "options" [] = .ok c.routes := hf.orElse (by decide) hlookup
    rw [hrest, htest, hroutes]
    rfl

/-! ## Prompts -/

instance : LawfulCodec Prompt where
  decode_encode p o h := by
    show gatherTagged o "kind" Prompt.variants (.map (Document.ofMembers p.members))
      Prompt.ofVariant = .ok p
    replace h : o.Holds (.map (Document.ofMembers p.members)) := h
    cases p with
    | decision | text | interScenarioTrauma | campaignLink =>
        exact gatherTagged_members (by decide) (by simp) h rfl
    | count min max =>
        refine gatherTagged_members (by decide) (by simp) h ?_
        simp only [Prompt.ofVariant]
        refine gather_members (by simp) trivial (by simp) fun f hf => ?_
        have hmin : f.orElse "min" 0 = .ok min := hf.orElse (by decide) rfl
        have hmax : f.orElse "max" none = .ok max := hf.orElse (by decide) rfl
        rw [hmin, hmax]
        rfl
    | choice options =>
        exact gatherTagged_members (by decide) (by simp) h (gather_need Prompt.choice trivial)
    | choiceList options =>
        exact gatherTagged_members (by decide) (by simp) h (gather_need Prompt.choiceList trivial)
    | stringChoices options =>
        exact gatherTagged_members (by decide) (by simp) h
          (gather_need Prompt.stringChoices trivial)
    | supplies names =>
        exact gatherTagged_members (by decide) (by simp) h (gather_need Prompt.supplies trivial)

/-! ## Steps and scenarios -/

theorem Action.ofPart_members (a : Action) :
    ofPart (.map (Document.ofMembers a.members)) = .ok a := by
  unfold ofPart
  cases a with
  | story text =>
      exact gatherTagged_members (by decide) (by simp) trivial (gather_need story trivial)
  | effects es =>
      exact gatherTagged_members (by decide) (by simp) trivial (gather_need effects trivial)
  | branch condition =>
      exact gatherTagged_members (by decide) (by simp) trivial (gather_need branch trivial)
  | input prompt =>
      exact gatherTagged_members (by decide) (by simp) trivial (gather_need input trivial)
  | resolution r =>
      exact gatherTagged_members (by decide) (by simp) trivial (gather_need resolution trivial)

/-- What a step does stands behind its id and the step to go to. -/
theorem Step.names_members (t : Step) {members : List (String × Json)}
    (hmembers : members = ("id", encode t.id) :: (optional "next" t.next ++ t.action.members)) :
    (members.map Prod.fst).Nodup ∧ members.filter (·.1 ∉ ["id", "next"]) = t.action.members ∧
      members.lookup "id" = some (encode t.id) ∧
      members.lookup "next" = t.next.map encode := by
  subst hmembers
  obtain ⟨id, next, action⟩ := t
  cases next <;> cases action <;>
    simp [Json.optional, Action.members, tag, List.lookup_cons]

instance : LawfulCodec Step where
  decode_encode t o h := by
    show Step.ofDocument o _ = .ok t
    rw [Step.ofDocument]
    obtain ⟨hnodup, hrest, hlookup, hnext⟩ := t.names_members rfl
    refine gatherInlined_members hnodup h fun f hf => ?_
    have hid : f.need "id" = .ok t.id := hf.need (by decide) hlookup
    have hnext : f.option "next" = .ok t.next := hf.option (by decide) hnext
    have haction : f.afterwards (Action.ofPart (.map (Document.ofMembers t.action.members))) =
        .ok t.action := f.afterwards_of_eq t.action.ofPart_members
    rw [hrest, hid, hnext, haction]
    rfl

instance : LawfulCodec Scenario where
  decode_encode s o h := by
    show Scenario.ofDocument o _ = .ok s
    rw [Scenario.ofDocument]
    refine gather_members (by simp) h (by simp) fun f hf => ?_
    have hid : f.need "id" = .ok s.id := hf.need (by decide) rfl
    have hname : f.need "name" = .ok s.name := hf.need (by decide) rfl
    have hside : f.orElse "side" false = .ok s.side := hf.orElse (by decide) rfl
    have himplicit : f.orElse "implicit_start" false = .ok s.implicitStart :=
      hf.orElse (by decide) rfl
    have hsteps : f.need "steps" = .ok s.steps := hf.need (by decide) rfl
    rw [hid, hname, hside, himplicit, hsteps]
    rfl

/-! ## Sections, achievements and guides -/

instance : LawfulCodec LogEntry where
  decode_encode e _ h := gather_need₂ LogEntry.mk (by decide) h

instance : LawfulCodec LogSection where
  decode_encode s o h := by
    show LogSection.ofDocument o _ = .ok s
    rw [LogSection.ofDocument]
    refine gather_members (by simp) h (by simp) fun f hf => ?_
    have hid : f.need "id" = .ok s.id := hf.need (by decide) rfl
    have htitle : f.need "title" = .ok s.title := hf.need (by decide) rfl
    have hentries : f.orElse "entries" [] = .ok s.entries := hf.orElse (by decide) rfl
    have hfreeform : f.orElse "freeform" false = .ok s.freeform := hf.orElse (by decide) rfl
    rw [hid, htitle, hentries, hfreeform]
    rfl

theorem AchievementKind.ofPart_members (k : AchievementKind) :
    ofPart (.map (Document.ofMembers k.members)) = .ok k := by
  unfold ofPart
  cases k with
  | binary => exact gatherTagged_members (by decide) (by simp) trivial rfl
  | count max =>
      refine gatherTagged_members (by decide) (by simp) trivial ?_
      simp only [ofVariant]
      refine gather_members (by simp) trivial (by simp) fun f hf => ?_
      have hmax : f.orElse "max" none = .ok max := hf.orElse (by decide) rfl
      rw [hmax]
      rfl

/-- The kind of an achievement stands behind its id and its title. -/
theorem Achievement.names_members (a : Achievement) {members : List (String × Json)}
    (hmembers : members = ("id", encode a.id) :: ("title", encode a.title) :: a.kind.members) :
    (members.map Prod.fst).Nodup ∧ members.filter (·.1 ∉ ["id", "title"]) = a.kind.members ∧
      members.lookup "id" = some (encode a.id) ∧
      members.lookup "title" = some (encode a.title) := by
  subst hmembers
  obtain ⟨id, title, kind⟩ := a
  cases kind <;> simp [AchievementKind.members, tag, List.lookup_cons]

instance : LawfulCodec Achievement where
  decode_encode a o h := by
    show Achievement.ofDocument o _ = .ok a
    rw [Achievement.ofDocument]
    obtain ⟨hnodup, hrest, hlookup, htitle⟩ := a.names_members rfl
    refine gatherInlined_members hnodup h fun f hf => ?_
    have hid : f.need "id" = .ok a.id := hf.need (by decide) hlookup
    have htitle : f.need "title" = .ok a.title := hf.need (by decide) htitle
    have hkind : f.afterwards (AchievementKind.ofPart (.map (Document.ofMembers
        a.kind.members))) = .ok a.kind := f.afterwards_of_eq a.kind.ofPart_members
    rw [hrest, hid, htitle, hkind]
    rfl

instance : LawfulCodec Guide where
  decode_encode g o h := by
    show Guide.ofDocument o _ = .ok g
    rw [Guide.ofDocument]
    refine gather_members (by simp) h (by simp) fun f hf => ?_
    have hid : f.need "id" = .ok g.id := hf.need (by decide) rfl
    have hname : f.need "name" = .ok g.name := hf.need (by decide) rfl
    have hversion : f.need "version" = .ok g.version := hf.need (by decide) rfl
    have hmin : f.orElse "min_compatible_version" 0 = .ok g.minVersion := hf.orElse (by decide) rfl
    have hscenarios : f.need "scenarios" = .ok g.scenarios := hf.need (by decide) rfl
    have hsections : f.orElse "log_sections" [] = .ok g.sections := hf.orElse (by decide) rfl
    have hachievements : f.orElse "achievements" [] = .ok g.achievements :=
      hf.orElse (by decide) rfl
    have hbags : f.orElse "chaos_bags" .empty = .ok g.chaosBags := hf.orElse (by decide) rfl
    rw [hid, hname, hversion, hmin, hscenarios, hsections, hachievements, hbags]
    rfl

end Chronicle
