import Chronicle.Journal.Json
import Chronicle.Proofs.Json.Record

/-!
# Setups lose nothing as JSON
-/

namespace Chronicle

open Json

instance : LawfulCodec Difficulty where
  decode_encode d _ _ := by
    refine named_name (by cases d <;> decide) fun e _ h => ?_
    revert h
    cases d <;> cases e <;> decide

instance : LawfulCodec Investigator where
  decode_encode i o h := by
    show Investigator.ofDocument o _ = .ok i
    rw [Investigator.ofDocument]
    refine gather_members (by simp) h (by simp) fun f hf => ?_
    have hid : f.need "id" = .ok i.id := hf.need (by decide) rfl
    have hname : f.need "name" = .ok i.name := hf.need (by decide) rfl
    have hhealth : f.need "health" = .ok i.health := hf.need (by decide) rfl
    have hsanity : f.need "sanity" = .ok i.sanity := hf.need (by decide) rfl
    rw [hid, hname, hhealth, hsanity]
    rfl

instance : LawfulCodec Setup where
  decode_encode s o h := by
    show Setup.ofDocument o _ = .ok s
    rw [Setup.ofDocument]
    refine gather_members (by simp) h (by simp) fun f hf => ?_
    have hname : f.need "name" = .ok s.name := hf.need (by decide) rfl
    have hguide : f.need "guide_id" = .ok s.guide := hf.need (by decide) rfl
    have hversion : f.need "guide_version" = .ok s.guideVersion := hf.need (by decide) rfl
    have hdifficulty : f.orElse "difficulty" .standard = .ok s.difficulty :=
      hf.orElse (by decide) rfl
    have hroster : f.need "investigators" = .ok s.investigators := hf.need (by decide) rfl
    rw [hname, hguide, hversion, hdifficulty, hroster]
    rfl

end Chronicle
