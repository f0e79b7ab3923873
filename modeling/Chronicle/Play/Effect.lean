import Chronicle.Play.Diagnostic

/-!
# The effects of a step

The effects of a step take place together: if one of them fails, none does. Experience is set
aside until the scenario ends.
-/

namespace Chronicle

/-- The campaign log, and the experience earned so far in the scenario being played. -/
structure Scene where
  log : CampaignLog
  xp : Dict InvestigatorId UInt32
  deriving DecidableEq

namespace CampaignLog

/-- The value of an operand in scenario `s`. -/
def operand (l : CampaignLog) (s : ScenarioId) : Operand → Except ScriptFault Int32
  | .literal n => .ok n
  | .counted t =>
    match l.answer? s t with
    | some (.count n) => .ok n
    | _ => .error (.noCount t)

def targets (l : CampaignLog) (s : ScenarioId) : Whom → Except ScriptFault (List InvestigatorId)
  | .lead =>
    match l.lead? s with
    | some id => .ok [id]
    | none => .error (.noLead s)
  | .all => .ok l.investigators.keys

/-- Changes the state of every investigator of a list. -/
def modifyAll (l : CampaignLog) (ids : List InvestigatorId)
    (f : InvestigatorState → InvestigatorState) : CampaignLog :=
  ids.foldl (fun l id => l.modifyInvestigator id f) l

/-- The entries selected by an answer: every text of one that holds texts, and of one that holds
numbers the options with a number other than zero. -/
def selection (l : CampaignLog) (s : ScenarioId) (t : StepId) : Except ScriptFault (List EntryId) :=
  match l.answer? s t with
  | some (.stringChoices choices) => .ok choices.values.flatten
  | some (.choiceList choices) =>
    .ok ((choices.entries.filter fun e => e.2.any (· ≠ 0)).map (·.1))
  | _ => .error (.noSelection t)

def text (l : CampaignLog) (s : ScenarioId) (t : StepId) : Except ScriptFault String :=
  match l.answer? s t with
  | some (.text text) => .ok text
  | _ => .error (.noText t)

end CampaignLog

namespace Guide

def requireSection (g : Guide) (id : SectionId) : Except ScriptFault Unit :=
  if (g.section? id).isSome then .ok () else .error (.unknownSection id)

def requireEntry (g : Guide) (s : SectionId) (id : EntryId) : Except ScriptFault Unit :=
  if (g.entry? s id).isSome then .ok () else .error (.unknownEntry s id)

def requireAchievement (g : Guide) (id : AchievementId) : Except ScriptFault Achievement :=
  match g.achievement? id with
  | some a => .ok a
  | none => .error (.unknownAchievement id)

end Guide

namespace Effect

/-- Experience is counted in unsigned words. -/
def xpAmount (n : Int32) : Except ScriptFault UInt32 :=
  if n < 0 then .error (.negativeXp n) else .ok (UInt32.ofNat n.toInt.toNat)

def earn (xp : Dict InvestigatorId UInt32) (ids : List InvestigatorId) (n : UInt32) :
    Dict InvestigatorId UInt32 :=
  ids.foldl (fun xp id => xp.alter id 0 (Number.satAdd · n)) xp

/-- One effect in scenario `s`. -/
def apply (g : Guide) (s : ScenarioId) (scene : Scene) (e : Effect) : Except ScriptFault Scene := do
  let l := scene.log
  match e with
  | .record sec entry crossOut =>
    g.requireSection sec
    match entry with
    | none => return { scene with log := l.openSection sec }
    | some id =>
      g.requireEntry sec id
      return { scene with log := if crossOut then l.crossOut sec id else l.record sec id none }
  | .recordText sec source =>
    g.requireSection sec
    let text ← l.text s source
    return { scene with log := l.record sec source (some text) }
  | .recordCards sec source =>
    g.requireSection sec
    let ids ← l.selection s source
    return { scene with log := ids.foldl (fun l id => l.record sec id none) l }
  | .count counter operation value =>
    let n ← l.operand s value
    return { scene with log := l.applyCount counter operation n }
  | .trauma whom physical mental killed insane =>
    let ids ← l.targets s whom
    return { scene with log := l.modifyAll ids (·.suffer ⟨physical, mental, killed, insane, 0⟩) }
  | .earnXp whom amount =>
    let n ← xpAmount (← l.operand s amount)
    let ids ← l.targets s whom
    return { scene with xp := earn scene.xp ids n }
  | .chaosBag tokens =>
    return { scene with log := tokens.entries.foldl (fun l e => l.adjustChaosBag e.1 e.2) l }
  | .achievement id operation =>
    let a ← g.requireAchievement id
    match l.applyAchievement a operation none with
    | .ok l => return { scene with log := l }
    | .error m => throw (.achievementMismatch m)
  | .supplies whom supply n =>
    let ids ← l.targets s whom
    return { scene with log := l.modifyAll ids (·.adjustSupply supply n) }

end Effect

/-- The effects of a step, one after the other. -/
def Scene.applyAll (g : Guide) (s : ScenarioId) (scene : Scene) (es : List Effect) :
    Except ScriptFault Scene :=
  es.foldlM (Effect.apply g s) scene

end Chronicle
