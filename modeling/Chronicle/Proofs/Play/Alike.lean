import Chronicle.Play.Reply
import Chronicle.Proofs.Play.Starts
import Mathlib.Data.List.Forall2

/-!
# Records that say the same

A record that is written twice differs from the first in nothing but its time, and nothing in the
play depends on the time of a record. So where the last record counts, it makes no difference that
a record has been repeated: the same is consulted at each prompt and the same scenarios are played
in the same order.
-/

namespace Chronicle

/-! ## What is read of a record -/

/-- Two records that say the same, whenever they were written. -/
structure Record.Alike (r s : Record) : Prop where
  id : r.id = s.id
  scenario : r.scenario = s.scenario
  step : r.step = s.step
  payload : r.payload = s.payload

namespace Record.Alike

theorem refl (r : Record) : r.Alike r := ⟨rfl, rfl, rfl, rfl⟩

variable {r s : Record}

theorem identity (h : r.Alike s) : r.identity = s.identity := by
  unfold Record.identity Record.kind
  rw [h.scenario, h.step, h.payload]

theorem start? (h : r.Alike s) : r.start? = s.start? := by
  unfold Record.start?
  rw [h.payload]

theorem diagnostic (h : r.Alike s) (f : RecordFault) :
    Diagnostic.ofRecord r f = .ofRecord s f := by
  unfold Diagnostic.ofRecord
  rw [h.id, h.scenario, h.step]

theorem allowsStart (h : r.Alike s) (g : Guide) (id : ScenarioId) :
    g.allowsStart r id = g.allowsStart s id := by
  unfold Guide.allowsStart
  rw [h.start?, h.scenario]

theorem sideOf? (h : r.Alike s) (g : Guide) : g.sideOf? r = g.sideOf? s := by
  unfold Guide.sideOf?
  rw [h.scenario, funext (h.allowsStart g)]

end Record.Alike

/-- Records found in two places that say the same, or none found in either. -/
abbrev Record.BothAlike : Option Record → Option Record → Prop := Option.Rel Record.Alike

namespace Record.BothAlike

variable {a b a' b' : Option Record}

theorem refl (a : Option Record) : BothAlike a a := by
  cases a with
  | none => exact .none
  | some r => exact .some (.refl r)

theorem isSome_eq (h : BothAlike a b) : a.isSome = b.isSome := by
  cases h <;> rfl

theorem bind_start? (h : BothAlike a b) : a.bind (·.start?) = b.bind (·.start?) := by
  cases h with
  | none => rfl
  | some h => exact h.start?

theorem or (h : BothAlike a b) (h' : BothAlike a' b') : BothAlike (a.or a') (b.or b') := by
  cases h with
  | none => exact h'
  | some h => exact .some h

theorem findSome? {α : Type} {f f' : α → Option Record} (h : ∀ x, BothAlike (f x) (f' x)) :
    ∀ l : List α, BothAlike (l.findSome? f) (l.findSome? f') := by
  intro l
  induction l with
  | nil => exact .none
  | cons x l ih =>
      have hx := h x
      rw [List.findSome?_cons, List.findSome?_cons]
      generalize f x = a, f' x = b at hx
      cases hx with
      | none => exact ih
      | some h => exact .some h

/-- The last record with a property is repeated or stands before the repetition. -/
theorem getLast?_filter {r s : Record} (h : s.Alike r) (active : List Record) (p : Record → Bool)
    (hp : p s = p r) :
    BothAlike ((active ++ [r, s]).filter p).getLast? ((active ++ [r]).filter p).getLast? := by
  rw [List.filter_append, List.filter_append]
  cases hr : p r with
  | false => simpa [hp, hr] using refl _
  | true => simpa [hp, hr] using Option.Rel.some h

end Record.BothAlike

/-! ## Prompts -/

/-- Two lists of records of which the same is read at every prompt of a scenario. -/
def Record.SameRepliesIn (s : ScenarioId) (active active' : List Record) : Prop :=
  ∀ t p, BothAlike (consulted active s t p) (consulted active' s t p)

/-- Two lists of records of which the same is read at every prompt. -/
def Record.SameReplies (active active' : List Record) : Prop :=
  ∀ s t p, BothAlike (consulted active s t p) (consulted active' s t p)

theorem Record.SameReplies.refl (active : List Record) : SameReplies active active :=
  fun _ _ _ => .refl _

theorem Record.SameRepliesIn.of_lastOf {s : ScenarioId} {active active' : List Record}
    (h : ∀ t k, lastOf active ⟨some s, some t, k⟩ = lastOf active' ⟨some s, some t, k⟩) :
    SameRepliesIn s active active' := by
  intro t p
  unfold consulted anyAt
  rw [h, funext (h t)]
  exact .refl _

theorem Record.SameReplies.of_lastOf {active active' : List Record}
    (h : ∀ i, lastOf active i = lastOf active' i) : SameReplies active active' :=
  fun _ => SameRepliesIn.of_lastOf fun _ _ => h _

theorem Record.lastOf_eq_getLast? (active : List Record) (i : Identity) :
    lastOf active i = (active.filter (·.identity = i)).getLast? := by
  rw [lastOf, List.getLast?_filter]

namespace Record

variable {r s : Record} (h : s.Alike r) (active : List Record)
include h

theorem lastOf_repeated (i : Identity) :
    BothAlike (lastOf (active ++ [r, s]) i) (lastOf (active ++ [r]) i) := by
  rw [lastOf_eq_getLast?, lastOf_eq_getLast?]
  exact .getLast?_filter h active _ (by rw [h.identity])

theorem sameReplies_repeated : SameReplies (active ++ [r, s]) (active ++ [r]) := fun _ _ _ =>
  (lastOf_repeated h active _).or (.findSome? (fun _ => lastOf_repeated h active _) _)

end Record

/-! ## Starts -/

namespace Starts

/-- Starts by records that say the same. What was refused is left out. -/
structure Alike (st st' : Starts) : Prop where
  records : ∀ id, Record.BothAlike (st.records.get? id) (st'.records.get? id)
  sides : st.sides = st'.sides

theorem Alike.refl (st : Starts) : st.Alike st := ⟨fun _ => .refl _, rfl⟩

theorem alike_of_eq {st st' : Starts} (hrecords : st'.records = st.records)
    (hsides : st'.sides = st.sides) : st'.Alike st where
  records id := by
    rw [hrecords]
    exact .refl _
  sides := hsides

theorem alike_repeated (g : Guide) {r s : Record} (h : s.Alike r) (active : List Record) :
    (ofRecords g (active ++ [r, s])).Alike (ofRecords g (active ++ [r])) where
  records id := by
    rw [get?_records_ofRecords, get?_records_ofRecords]
    exact .getLast?_filter h active _ (h.allowsStart g id)
  sides := by
    rw [sides_ofRecords, sides_ofRecords, List.append_cons active r, Guide.sidesStarted_concat,
      h.sideOf? g]
    cases hside : g.sideOf? r with
    | none => rfl
    | some id =>
        -- The first of the two records has started the side scenario already.
        refine if_pos ?_
        simp [Guide.sidesStarted, hside]

namespace Alike

variable {st st' : Starts} (h : st.Alike st') (g : Guide)
include h

theorem start? (id : ScenarioId) : st.start? id = st'.start? id := (h.records id).bind_start?

theorem after? (id : ScenarioId) : st.after? id = st'.after? id := by
  rw [Starts.after?, h.start?, ← Starts.after?]

theorem contains (id : ScenarioId) : st.records.contains id = st'.records.contains id :=
  (h.records id).isSome_eq

theorem isAnchor (side after : ScenarioId) :
    st.isAnchor g side after = st'.isAnchor g side after := by
  rw [Starts.isAnchor, h.contains, ← Starts.isAnchor]

theorem order : st.order g = st'.order g := by
  have hmains : st.mains g = st'.mains g := by
    unfold Starts.mains
    simp only [h.contains]
  have hfollowers : st.followers g = st'.followers g := by
    funext id
    unfold Starts.followers
    simp only [h.sides, h.after?, h.isAnchor]
  unfold Starts.order
  rw [hmains, hfollowers, h.sides]

theorem strayAnchors : st.strayAnchors g = st'.strayAnchors g := by
  unfold Starts.strayAnchors
  rw [h.sides]
  refine List.filterMap_congr fun side _ => ?_
  have hside := h.records side
  rw [h.after?]
  simp only [h.isAnchor]
  generalize st.records.get? side = a, st'.records.get? side = b at hside
  cases hside with
  | none => rfl
  | some hside =>
      cases st'.after? side with
      | none => rfl
      | some after => simp only [hside.diagnostic]

end Alike
end Starts

/-- The same scenario to be played, started by records that say the same. -/
inductive Played.Alike : Played → Played → Prop where
  | scripted (s : Scenario) {start start' : Option Record} (h : Record.BothAlike start start') :
    Alike (.scripted s start) (.scripted s start')
  | custom (id : ScenarioId) (name : String) (xpCost : UInt32) :
    Alike (.custom id name xpCost) (.custom id name xpCost)

theorem Played.alike_refl (ps : List Played) : List.Forall₂ Played.Alike ps ps := by
  rw [List.forall₂_same]
  intro p _
  cases p with
  | scripted s start => exact .scripted s (.refl start)
  | custom id name xpCost => exact .custom id name xpCost

theorem Starts.Alike.played {st st' : Starts} (h : st.Alike st') (g : Guide) :
    List.Forall₂ Played.Alike (st.played g) (st'.played g) := by
  unfold Starts.played
  rw [h.order g]
  refine List.rel_filterMap (R := Eq) ?_ (List.forall₂_eq_eq_eq ▸ rfl)
  rintro id _ rfl
  unfold Starts.played?
  cases g.scenario? id with
  | some s => exact .some (.scripted s (h.records id))
  | none =>
      simp only [h.start? id]
      split
      next name _ xpCost _ => exact .some (.custom id name xpCost)
      next => exact .none

end Chronicle
