import Chronicle.Guide.Document
import Chronicle.Proofs.Guide.Json
import Chronicle.Proofs.Json.Nesting
import Chronicle.Proofs.Json.Text
import Chronicle.Sample.NightOfTheZealot

/-!
# Canonical texts of guides

No guide is nested too deeply to be read from its canonical text, so the text is read as the guide
that it was written from. Different guides have different texts, and a guide that has no fatal issue
is loaded from its own.
-/

namespace Chronicle

open Json

/-! ## How deeply guides are nested -/

instance : Nested Operand 1 where
  fits_encode v := by
    cases v with
    | literal n => exact fits_encode (by decide) n
    | counted step => exact fits_obj (by simp [fits_encode])

instance : Nested Verdict 0 where
  fits_encode v := by cases v <;> rfl

instance : Nested CountOperation 0 := ⟨fun _ => rfl⟩

instance : Nested AchievementOperation 0 := ⟨fun _ => rfl⟩

instance : Nested Whom 0 := ⟨fun _ => rfl⟩

instance : Nested Comparison 0 := ⟨fun _ => rfl⟩

instance : Nested Effect 2 where
  fits_encode e := by
    refine fits_obj ?_
    cases e <;> simp [Effect.members, tag, fits_encode, fits_str]

instance : Nested Route 1 where
  fits_encode r := fits_obj (by simp [fits_encode])

theorem Test.fits_members (t : Test) (room : Nat) :
    ∀ m ∈ t.members, (Document.ofJson m.2).fits room = true := by
  cases t <;> simp [members, tag, fits_encode, fits_str]

instance : Nested Condition 3 where
  fits_encode c := by
    refine fits_obj (List.forall_mem_append.mpr ⟨c.test.fits_members 2, ?_⟩)
    simp [fits_encode]

instance : Nested Prompt 2 where
  fits_encode p := by
    refine fits_obj ?_
    cases p <;> simp [Prompt.members, tag, fits_encode, fits_str]

theorem Action.fits_members (a : Action) :
    ∀ m ∈ a.members, (Document.ofJson m.2).fits 3 = true := by
  cases a <;> simp [members, tag, fits_encode, fits_str]

instance : Nested Step 4 where
  fits_encode t := by
    refine fits_obj (List.forall_mem_cons.mpr ⟨fits_encode (by decide) t.id, ?_⟩)
    refine List.forall_mem_append.mpr ⟨?_, t.action.fits_members⟩
    cases t.next <;> simp [Json.optional, fits_encode]

instance : Nested Scenario 6 where
  fits_encode s := fits_obj (by simp [fits_encode])

instance : Nested LogEntry 1 where
  fits_encode e := fits_obj (by simp [fits_encode])

instance : Nested LogSection 3 where
  fits_encode s := fits_obj (by simp [fits_encode])

instance : Nested Achievement 1 where
  fits_encode a := by
    refine fits_obj ?_
    cases a.kind <;> simp [AchievementKind.members, tag, fits_encode, fits_str]

instance : Nested Guide 8 where
  fits_encode g := fits_obj (by simp [fits_encode])

/-! ## Reading the canonical text -/

namespace Guide

theorem ofText_canonical (g : Guide) : Json.ofText g.canonical = .ok g :=
  Json.ofText_toText g (fits_encode (by decide) g)

/-- Different guides have different canonical texts. -/
theorem canonical_injective : Function.Injective canonical := by
  intro g h htext
  have hread := ofText_canonical g
  rw [htext, ofText_canonical] at hread
  exact (Except.ok.inj hread).symm

theorem ofJsonText_canonical (g : Guide) : ofJsonText g.canonical = g.checked := by
  rw [ofJsonText, ofText_canonical]
  rfl

/-- **Guides and their canonical texts.** The canonical text of a guide reads as this guide, and no
other guide has the same text. The guide is loaded from it if none of its issues is fatal, and then
with the same fingerprint and the same issues. Otherwise it is refused for its own fatal issues. -/
theorem canonical_round_trip (g : Guide) :
    Json.ofText g.canonical = .ok g ∧ (∀ h : Guide, h.canonical = g.canonical → h = g) ∧
      (g.fatalIssues = [] → ∃ h, ofJsonText g.canonical = .ok h ∧ h = g ∧
        h.fingerprint = g.fingerprint ∧ h.issues = g.issues) ∧
      (g.fatalIssues ≠ [] →
        ofJsonText g.canonical = .error (.invalid g.id g.fatalIssues)) := by
  refine ⟨g.ofText_canonical, fun h htext => canonical_injective htext, fun hnone => ?_,
    fun hsome => ?_⟩
  · refine ⟨g, ?_, rfl, rfl, rfl⟩
    rw [ofJsonText_canonical, checked, hnone]
    rfl
  · rw [ofJsonText_canonical, checked, if_neg (by simpa using hsome)]

open Sample

theorem canonical_round_trip_of_nightOfTheZealot :
    nightOfTheZealot.fatalIssues = [] ∧
      ofJsonText nightOfTheZealot.canonical = .ok nightOfTheZealot := by
  have hnone : nightOfTheZealot.fatalIssues = [] := by decide +kernel
  obtain ⟨-, -, hloaded, -⟩ := nightOfTheZealot.canonical_round_trip
  obtain ⟨g, hg, rfl, -⟩ := hloaded hnone
  exact ⟨hnone, hg⟩

end Guide

end Chronicle
