import Chronicle.Play.Reply
import Chronicle.Proofs.Dict

/-!
# Answers that fit a prompt

What a prompt asks of an answer, said for each kind of prompt on its own. The check of a record lets
exactly the fitting answers pass, and an answer says what the record said.
-/

namespace Chronicle

/-- The reply that an answer was taken from. -/
def Answer.reply : Answer → Reply
  | .decision yes => .decision yes
  | .count n => .count n
  | .choice index _ => .choice index
  | .choiceList choices => .choiceList choices
  | .stringChoices choices => .stringChoices choices
  | .text s => .text s
  | .supplies given => .supplies given
  | .interScenarioTrauma changes => .interScenarioTrauma changes
  | .campaignLink s => .campaignLink s

/-- Whether an answer is what a prompt asks for, where the investigators of the campaign are those
of the roster. -/
def Prompt.Fits (roster : List InvestigatorId) : Prompt → Answer → Prop
  | .decision, .decision _ => True
  | .count min max, .count n => min ≤ n ∧ ∀ m, max = some m → n ≤ m
  | .choice options, .choice index label => options[index.toNat]? = some label
  | .choiceList options, .choiceList choices => ∀ label ∈ choices.keys, label ∈ options
  | .stringChoices options, .stringChoices choices => ∀ label ∈ choices.keys, label ∈ options
  | .text, .text s => Text.blank s = false
  | .supplies allowed, .supplies given =>
    (∀ id ∈ given.keys, id ∈ roster) ∧ ∀ counts ∈ given.values,
      (∀ supply ∈ counts.keys, supply ∈ allowed) ∧ ∀ n ∈ counts.values, 0 ≤ n
  | .interScenarioTrauma, .interScenarioTrauma changes => ∀ id ∈ changes.keys, id ∈ roster
  | .campaignLink, .campaignLink s => s ≠ ""
  | _, _ => False

theorem answerOr_eq_ok_iff {fault : Option RecordFault} {a b : Answer} :
    answerOr fault a = .ok b ↔ fault = none ∧ a = b := by
  unfold answerOr
  cases fault <;> simp

section Keys

variable {α β : Type} [Ord α] [DecidableEq α] {allowed : List α} {d : Dict α β}

theorem strayKey_eq_none_iff : strayKey allowed d = none ↔ ∀ k ∈ d.keys, k ∈ allowed := by
  simp [strayKey]

end Keys

theorem suppliesFault_eq_none_iff {allowed : List SupplyId} {counts : Dict SupplyId Int32} :
    suppliesFault allowed counts = none ↔
      (∀ supply ∈ counts.keys, supply ∈ allowed) ∧ ∀ n ∈ counts.values, 0 ≤ n := by
  rw [suppliesFault, Option.or_eq_none_iff, Option.map_eq_none_iff, Option.map_eq_none_iff,
    strayKey_eq_none_iff, List.find?_eq_none]
  refine and_congr_right fun _ => ?_
  simp only [Dict.values, List.forall_mem_map, decide_eq_true_eq, Int32.not_lt]

namespace Prompt

variable {p : Prompt} {roster : List InvestigatorId} {payload : Payload} {a : Answer}

theorem Fits.kind (h : p.Fits roster a) : a.reply.kind = p.replyKind := by
  cases p <;> cases a <;> first | rfl | exact False.elim h

theorem fits_of_answer (h : p.answer roster payload = .ok a) :
    payload = .reply a.reply ∧ p.Fits roster a := by
  unfold answer at h
  split at h
  next =>
      cases h
      exact ⟨rfl, trivial⟩
  next min max n =>
      split at h
      next => cases h
      next hrange =>
          cases h
          obtain ⟨hmin, hmax⟩ := not_or.mp hrange
          refine ⟨rfl, Int32.not_lt.mp hmin, ?_⟩
          rintro m rfl
          simpa using hmax
  next options index =>
      split at h
      next label hlabel =>
          cases h
          exact ⟨rfl, hlabel⟩
      next => cases h
  next options choices =>
      obtain ⟨hfault, rfl⟩ := answerOr_eq_ok_iff.mp h
      exact ⟨rfl, strayKey_eq_none_iff.mp (Option.map_eq_none_iff.mp hfault)⟩
  next options choices =>
      obtain ⟨hfault, rfl⟩ := answerOr_eq_ok_iff.mp h
      exact ⟨rfl, strayKey_eq_none_iff.mp (Option.map_eq_none_iff.mp hfault)⟩
  next s =>
      split at h
      next => cases h
      next hblank =>
          cases h
          exact ⟨rfl, Bool.eq_false_iff.mpr hblank⟩
  next allowed given =>
      obtain ⟨hfault, rfl⟩ := answerOr_eq_ok_iff.mp h
      obtain ⟨hroster, hcounts⟩ := Option.or_eq_none_iff.mp hfault
      refine ⟨rfl, strayKey_eq_none_iff.mp (Option.map_eq_none_iff.mp hroster), ?_⟩
      intro counts hmem
      exact suppliesFault_eq_none_iff.mp (List.findSome?_eq_none_iff.mp hcounts counts hmem)
  next changes =>
      obtain ⟨hfault, rfl⟩ := answerOr_eq_ok_iff.mp h
      exact ⟨rfl, strayKey_eq_none_iff.mp (Option.map_eq_none_iff.mp hfault)⟩
  next s =>
      split at h
      next => cases h
      next hempty =>
          cases h
          refine ⟨rfl, fun hs => hempty ?_⟩
          rw [hs]
          rfl
  next => cases h

theorem answer_of_fits (h : p.Fits roster a) : p.answer roster (.reply a.reply) = .ok a := by
  cases p with
  | decision =>
      cases a with
      | decision yes => rfl
      | _ => exact h.elim
  | count min max =>
      cases a with
      | count n =>
          obtain ⟨hmin, hmax⟩ := h
          have hrange : ¬ (n < min ∨ max.any (· < n) = true) := by
            rw [not_or]
            refine ⟨Int32.not_lt.mpr hmin, ?_⟩
            cases max with
            | none => exact Bool.false_ne_true
            | some m => simpa using hmax m rfl
          exact if_neg hrange
      | _ => exact h.elim
  | choice options =>
      cases a with
      | choice index label =>
          rw [Answer.reply, answer, show options[index.toNat]? = some label from h]
      | _ => exact h.elim
  | choiceList options =>
      cases a with
      | choiceList choices =>
          exact answerOr_eq_ok_iff.mpr
            ⟨Option.map_eq_none_iff.mpr (strayKey_eq_none_iff.mpr h), rfl⟩
      | _ => exact h.elim
  | stringChoices options =>
      cases a with
      | stringChoices choices =>
          exact answerOr_eq_ok_iff.mpr
            ⟨Option.map_eq_none_iff.mpr (strayKey_eq_none_iff.mpr h), rfl⟩
      | _ => exact h.elim
  | text =>
      cases a with
      | text s => exact if_neg (ne_true_of_eq_false h)
      | _ => exact h.elim
  | supplies allowed =>
      cases a with
      | supplies given =>
          obtain ⟨hroster, hcounts⟩ := h
          refine answerOr_eq_ok_iff.mpr ⟨Option.or_eq_none_iff.mpr ⟨?_, ?_⟩, rfl⟩
          · exact Option.map_eq_none_iff.mpr (strayKey_eq_none_iff.mpr hroster)
          · rw [List.findSome?_eq_none_iff]
            intro counts hmem
            exact suppliesFault_eq_none_iff.mpr (hcounts counts hmem)
      | _ => exact h.elim
  | interScenarioTrauma =>
      cases a with
      | interScenarioTrauma changes =>
          exact answerOr_eq_ok_iff.mpr
            ⟨Option.map_eq_none_iff.mpr (strayKey_eq_none_iff.mpr h), rfl⟩
      | _ => exact h.elim
  | campaignLink =>
      cases a with
      | campaignLink s => exact if_neg fun hempty => h (String.isEmpty_iff.mp hempty)
      | _ => exact h.elim

/-- **A record answers a prompt exactly if it says what the answer says and the answer fits.** -/
theorem answer_eq_ok_iff :
    p.answer roster payload = .ok a ↔ payload = .reply a.reply ∧ p.Fits roster a := by
  constructor
  · exact fits_of_answer
  · rintro ⟨rfl, h⟩
    exact answer_of_fits h

/-- Of the roster it counts only who is in it. -/
theorem Fits.congr {roster' : List InvestigatorId} (h : ∀ id, id ∈ roster ↔ id ∈ roster')
    (hfits : p.Fits roster a) : p.Fits roster' a := by
  cases p <;> cases a <;> first | exact hfits | exact False.elim hfits | skip
  · exact ⟨fun id hid => (h id).mp (hfits.1 id hid), hfits.2⟩
  · exact fun id hid => (h id).mp (hfits id hid)

theorem answer_congr {roster' : List InvestigatorId} (h : ∀ id, id ∈ roster ↔ id ∈ roster') :
    p.answer roster payload = .ok a ↔ p.answer roster' payload = .ok a := by
  rw [answer_eq_ok_iff, answer_eq_ok_iff]
  exact and_congr_right fun _ => ⟨Fits.congr h, Fits.congr fun id => (h id).symm⟩

end Prompt

theorem Record.kind_of_answer {p : Prompt} {roster : List InvestigatorId} {r : Record} {a : Answer}
    (h : p.answer roster r.payload = .ok a) : r.kind = .reply p.replyKind := by
  obtain ⟨hpayload, hfits⟩ := Prompt.answer_eq_ok_iff.mp h
  rw [kind, hpayload]
  exact congrArg Kind.reply hfits.kind

end Chronicle
