import Chronicle.Guide.Basic

/-!
# A sample guide

Three main scenarios after a prologue, and one side scenario. It uses every kind of step.
-/

namespace Chronicle.Sample

open Effect in
def gathering : Scenario where
  id := "the_gathering"
  name := "The Gathering"
  side := false
  implicitStart := false
  steps := [
    ⟨"intro", none, .story "Something is lurking in the walls of your study."⟩,
    ⟨"victory_points", none, .input (.count 0 (some 20))⟩,
    ⟨"burn_house", none, .input .decision⟩,
    ⟨"house_branch", none, .branch ⟨.decision "burn_house",
      [⟨.flag true, "r1_log"⟩, ⟨.flag false, "r2_log"⟩]⟩⟩,
    ⟨"r1_log", some "r1", .effects [
      record "campaign_notes" (some "house_burned_down") false,
      earnXp .all (.counted "victory_points"),
      trauma .lead 0 1 false false]⟩,
    ⟨"r2_log", some "r2", .effects [
      record "campaign_notes" (some "house_standing") false,
      record "campaign_notes" (some "ghoul_priest_alive") false,
      earnXp .all (.counted "victory_points")]⟩,
    ⟨"r1", none, .resolution "R1"⟩,
    ⟨"r2", none, .resolution "R2"⟩]

open Effect in
def midnightMasks : Scenario where
  id := "the_midnight_masks"
  name := "The Midnight Masks"
  side := false
  implicitStart := false
  steps := [
    ⟨"house_check", none, .branch ⟨.recorded "campaign_notes" "house_burned_down",
      [⟨.flag true, "burned_intro"⟩]⟩⟩,
    ⟨"standing_intro", some "interrogated",
      .story "You rush back to your house to gather what supplies you can."⟩,
    ⟨"burned_intro", none, .story "With your house in ashes, you head for Lita's hideout."⟩,
    ⟨"interrogated", none,
      .input (.choice ["the_masked_hunter", "wolf_man_drew", "herman_collins"])⟩,
    ⟨"interrogation_branch", none, .branch ⟨.choice "interrogated",
      [⟨.label "the_masked_hunter", "hunter_log"⟩]⟩⟩,
    ⟨"other_log", some "trauma", .effects [
      count "cultists_interrogated" .add (.literal 1)]⟩,
    ⟨"hunter_log", none, .effects [
      record "cultists_we_interrogated" (some "the_masked_hunter") false,
      count "cultists_interrogated" .add (.literal 1)]⟩,
    ⟨"trauma", none, .input .interScenarioTrauma⟩,
    ⟨"memory", none, .input .text⟩,
    ⟨"record_memory", none, .effects [
      recordText "memories" "memory",
      record "campaign_notes" (some "past_midnight") false,
      earnXp .all (.literal 2)]⟩,
    ⟨"masks_resolution", none, .resolution "R1"⟩]

open Effect in
def rougarou : Scenario where
  id := "curse_of_the_rougarou"
  name := "Curse of the Rougarou"
  side := true
  implicitStart := false
  steps := [
    ⟨"supplies", none, .input (.supplies ["provisions", "medicine"])⟩,
    ⟨"rougarou_effects", none, .effects [
      chaosBag (Dict.ofList [("elder_thing", 1)]),
      achievement "elder_sign_count" .inc,
      record "campaign_notes" (some "rougarou_destroyed") false,
      earnXp .lead (.literal 3)]⟩,
    ⟨"rougarou_resolution", none, .resolution "R1"⟩]

open Effect in
def devourerBelow : Scenario where
  id := "the_devourer_below"
  name := "The Devourer Below"
  side := false
  implicitStart := false
  steps := [
    ⟨"lead_check", none, .branch ⟨.eliminated .lead, [⟨.flag true, "defeat"⟩]⟩⟩,
    ⟨"cultists_check", none, .branch ⟨.count "cultists_interrogated" .atLeast 1,
      [⟨.flag true, "ritual_choice"⟩]⟩⟩,
    ⟨"ritual_story", none,
      .story "Without knowing the cult's plans, you descend into the woods blind."⟩,
    ⟨"ritual_choice", none, .input (.choice ["seal", "flee"])⟩,
    ⟨"ritual_branch", none, .branch ⟨.choice "ritual_choice", [⟨.label "seal", "victory"⟩]⟩⟩,
    ⟨"defeat", none, .resolution "R2"⟩,
    ⟨"victory", none, .effects [achievement "arkham_saved" .set]⟩,
    ⟨"victory_resolution", none, .resolution "R1"⟩]

def prologue : Scenario where
  id := "prologue"
  name := "Prologue"
  side := false
  implicitStart := true
  steps := [
    ⟨"intro", none,
      .story "You and your partners have been investigating strange events in Arkham."⟩,
    ⟨"prologue_done", none, .resolution "prologue_complete"⟩]

/-- The tokens every difficulty has, beside numbered ones. -/
def bag (numbered : List (TokenId × UInt32)) : ChaosBag :=
  Dict.ofList (numbered ++ [("skull", 2), ("cultist", 1), ("tablet", 1), ("auto_fail", 1),
    ("elder_sign", 1)])

def nightOfTheZealot : Guide where
  id := "night_of_the_zealot"
  name := "The Night of the Zealot"
  version := 2
  minVersion := 1
  scenarios := [prologue, gathering, midnightMasks, rougarou, devourerBelow]
  sections := [
    ⟨"campaign_notes", "Campaign Notes", [
      ⟨"house_burned_down", "Your house has burned to the ground."⟩,
      ⟨"house_standing", "Your house is still standing."⟩,
      ⟨"ghoul_priest_alive", "The ghoul priest is still alive."⟩,
      ⟨"past_midnight", "It is past midnight."⟩,
      ⟨"rougarou_destroyed", "The Rougarou has been destroyed."⟩], false⟩,
    ⟨"cultists_we_interrogated", "Cultists We Interrogated", [
      ⟨"the_masked_hunter", "The Masked Hunter"⟩,
      ⟨"wolf_man_drew", "\"Wolf-Man\" Drew"⟩,
      ⟨"herman_collins", "Herman Collins"⟩], false⟩,
    ⟨"memories", "Memories", [], true⟩]
  achievements := [
    ⟨"elder_sign_count", "Elder Signs Found", .count (some 3)⟩,
    ⟨"arkham_saved", "Arkham Saved", .binary⟩]
  chaosBags := Dict.ofList [
    (.easy, bag [("+1", 2), ("0", 3), ("-1", 3), ("-2", 2)]),
    (.standard, bag [("+1", 1), ("0", 2), ("-1", 3), ("-2", 2), ("-3", 1), ("-4", 1)]),
    (.hard, bag [("0", 3), ("-1", 2), ("-2", 2), ("-3", 2), ("-4", 1), ("-5", 1)]),
    (.expert, bag [("0", 1), ("-1", 2), ("-2", 2), ("-3", 2), ("-4", 2), ("-5", 1), ("-6", 1),
      ("-8", 1)])]

end Chronicle.Sample
