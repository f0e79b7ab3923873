/-!
# Names

Every thing a guide or a campaign speaks of is identified by a text. The abbreviations say which
kind of thing a text names.
-/

namespace Chronicle

abbrev GuideId := String
abbrev ScenarioId := String
abbrev StepId := String
abbrev SectionId := String
abbrev EntryId := String
abbrev CounterId := String
abbrev AchievementId := String
abbrev InvestigatorId := String
abbrev SupplyId := String
/-- A kind of chaos token. -/
abbrev TokenId := String
/-- An option offered by a prompt. -/
abbrev Label := String

end Chronicle
