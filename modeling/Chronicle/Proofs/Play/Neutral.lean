import Chronicle.Proofs.Journal.Merge
import Chronicle.Proofs.Play.Order
import Chronicle.Proofs.Play.Walk
import Chronicle.Sample.Evening
import Chronicle.Sample.NightOfTheZealot

/-!
# Merging with an empty journal

A device that recorded nothing has no record to bring into a merge, and still the merge puts the
other journal into the order of time. In a journal the last record of an identity counts, in a merge
the one that was recorded last. So a journal is played as before if the two agree, and a merge with
an empty journal changes nothing in what has been merged before.
-/

namespace Chronicle

namespace Journal

open Record (NoLater byTime latest lastOf EndsInTime)

variable (j : Journal) (setup : Setup)

@[simp] theorem active_new : (new setup).active = [] := rfl

@[simp] theorem retractedIds_new : (new setup).retractedIds = [] := by
  simp [retractedIds, inputs, new]

/-- What is in effect is not retracted. -/
theorem filter_notMem_retractedIds :
    j.active.filter (fun r => r.id ∉ j.retractedIds) = j.active := by
  rw [List.filter_eq_self]
  intro r hr
  simpa using notMem_retractedIds_of_mem_active hr

theorem survivors_new : survivors j (new setup) = j.active := by
  simpa [survivors] using j.filter_notMem_retractedIds

theorem new_survivors : survivors (new setup) j = j.active := by
  simpa [survivors] using j.filter_notMem_retractedIds

/-- An empty journal may be merged from either side. -/
theorem merge_new_comm : merge (new j.setup) j = merge j (new j.setup) := by
  unfold merge chronology
  rw [survivors_new, new_survivors]
  rfl

section Distinct

variable {j} (hids : (j.active.map (·.id)).Nodup)
include hids

/-- Where no id comes twice, merging with an empty journal leaves out what is superseded in the
order of time. -/
theorem active_merge_new : (merge j (new setup)).active = latest (byTime j.active) := by
  have hnodup : ((byTime j.active).map (·.id)).Nodup :=
    ((Record.byTime_perm j.active).map _).nodup_iff.mpr hids
  have hchronology : chronology j (new setup) = byTime j.active := by
    rw [chronology, survivors_new]
    rfl
  rw [active_merge, hchronology, Record.firstOfId_of_nodup hnodup fun _ _ => List.not_mem_nil]

theorem mem_merge_new_iff {r : Record} :
    r ∈ (merge j (new setup)).active ↔ r ∈ j.active ∧ (r.isCumulative = true ∨
      ∀ s ∈ j.active, s.identity = r.identity → s = r ∨ Precedes j (new setup) s r) := by
  have hsame : Record.Consistent (j.active ++ (new setup).active) := by
    rw [active_new, List.append_nil]
    exact fun r hr s hs hid => List.inj_on_of_nodup_map hids hr hs hid
  rw [mem_active_merge_iff hsame, survivors_new]

/-- The last record with a property stays the last one if none with it was recorded later, and only
then, as far as records of one identity share the property. -/
theorem getLast?_filter_merge_new_iff {p : Record → Bool}
    (hp : ∀ r s, r.identity = s.identity → p r = p s) :
    ((merge j (new setup)).active.filter p).getLast? = (j.active.filter p).getLast? ↔
      EndsInTime p j.active := by
  rw [active_merge_new setup hids, Record.getLast?_filter_latest hp]
  exact Record.getLast?_filter_byTime_iff hids.of_map

theorem lastOf_merge_new_iff (i : Identity) :
    lastOf (merge j (new setup)).active i = lastOf j.active i ↔
      EndsInTime (·.identity = i) j.active := by
  rw [Record.lastOf_eq_getLast?, Record.lastOf_eq_getLast?]
  exact getLast?_filter_merge_new_iff setup hids fun r s h => by rw [h]

theorem filter_isCumulative_merge_new
    (h : (j.active.filter (·.isCumulative)).Pairwise NoLater) :
    (merge j (new setup)).active.filter (·.isCumulative) = j.active.filter (·.isCumulative) := by
  rw [active_merge_new setup hids, Record.filter_isCumulative_latest, Record.filter_byTime h]

/-- What the records give is the same, if those that give something stand in the order of time and
none of them is superseded. -/
theorem filterMap_merge_new {β : Type} {f : Record → Option β}
    (hf : ∀ r s, r.identity = s.identity → (f r).isSome = (f s).isSome)
    (hsorted : (j.active.filter fun r => (f r).isSome).Pairwise NoLater)
    (honce : j.active.Pairwise fun r s => r.identity = s.identity → f r = none) :
    (merge j (new setup)).active.filterMap f = j.active.filterMap f := by
  have hgiving : ∀ l : List Record,
      (l.filter fun r => (f r).isSome).filterMap f = l.filterMap f := by
    intro l
    rw [List.filterMap_filter]
    refine List.filterMap_congr fun r _ => ?_
    cases f r <;> rfl
  rw [active_merge_new setup hids]
  calc (latest (byTime j.active)).filterMap f
      = ((latest (byTime j.active)).filter fun r => (f r).isSome).filterMap f := (hgiving _).symm
    _ = (latest (j.active.filter fun r => (f r).isSome)).filterMap f := by
        rw [Record.filter_latest hf, Record.filter_byTime hsorted]
    _ = (j.active.filter fun r => (f r).isSome).filterMap f :=
        Record.filterMap_latest (honce.sublist List.filter_sublist)
    _ = j.active.filterMap f := hgiving _

end Distinct

/-- An empty journal is neutral for what has been merged. -/
theorem merge_merge_new (a b : Journal) : merge (merge a b) (new a.setup) = merge a b := by
  have hactive : (merge (merge a b) (new a.setup)).active = (merge a b).active := by
    rw [active_merge_new _ (nodup_ids_merge a b), Record.byTime_of_sorted (sorted_merge a b),
      active_merge, Record.latest_latest]
  have hentries : (merge (merge a b) (new a.setup)).entries = (merge a b).entries := by
    rw [entries_merge, entries_merge, hactive]
  show Journal.mk a.setup (merge (merge a b) (new a.setup)).entries = merge a b
  rw [hentries]
  rfl

end Journal

namespace Guide

open Record (NoLater lastOf EndsInTime)

/-- The records of a journal stand in the order of time as far as a guide looks at their order: no
reply and no start was recorded after the last one in its place, and what is counted, what is
refused and what starts a side scenario comes in order. -/
structure InTime (g : Guide) (l : List Record) : Prop where
  replies : ∀ r ∈ l, EndsInTime (·.identity = r.identity) l
  starts : ∀ r ∈ l, ∀ id ∈ r.scenario, EndsInTime (g.allowsStart · id) l
  sides : (l.filter fun r => (g.sideOf? r).isSome).Pairwise NoLater
  refusals : (l.filter fun r => (g.refusal? r).isSome).Pairwise NoLater
  operations : (l.filter (·.isCumulative)).Pairwise NoLater

instance (g : Guide) (l : List Record) : Decidable (g.InTime l) :=
  decidable_of_iff
    ((∀ r ∈ l, EndsInTime (·.identity = r.identity) l) ∧
      (∀ r ∈ l, ∀ id ∈ r.scenario, EndsInTime (g.allowsStart · id) l) ∧
      (l.filter fun r => (g.sideOf? r).isSome).Pairwise NoLater ∧
      (l.filter fun r => (g.refusal? r).isSome).Pairwise NoLater ∧
      (l.filter (·.isCumulative)).Pairwise NoLater)
    ⟨fun ⟨hr, hs, hsides, href, hops⟩ => ⟨hr, hs, hsides, href, hops⟩,
      fun h => ⟨h.replies, h.starts, h.sides, h.refusals, h.operations⟩⟩

namespace InTime

variable {g : Guide} {l : List Record} (h : g.InTime l)
include h

theorem endsInTime_identity (i : Identity) : EndsInTime (·.identity = i) l := by
  intro s hs
  obtain ⟨hmem, hi⟩ := List.mem_filter.mp (List.mem_of_getLast? hs)
  obtain rfl : s.identity = i := by simpa using hi
  exact h.replies s hmem s hs

theorem endsInTime_start (id : ScenarioId) : EndsInTime (g.allowsStart · id) l := by
  intro s hs
  obtain ⟨hmem, hid⟩ := List.mem_filter.mp (List.mem_of_getLast? hs)
  exact h.starts s hmem id (g.scenario_of_allowsStart hid) s hs

end InTime

/-- A start that a later one of its identity supersedes is that of a main scenario of the guide. -/
def RestartsMains (g : Guide) (l : List Record) : Prop :=
  l.Pairwise fun r s => r.identity = s.identity → g.sideOf? r = none ∧ g.refusal? r = none

instance (g : Guide) (l : List Record) : Decidable (g.RestartsMains l) :=
  inferInstanceAs (Decidable (l.Pairwise fun r s =>
    r.identity = s.identity → g.sideOf? r = none ∧ g.refusal? r = none))

section Timely

variable (g : Guide) {j : Journal} (setup : Setup) (hids : (j.active.map (·.id)).Nodup)
  (htime : g.InTime j.active) (honce : g.RestartsMains j.active)
include hids htime

theorem records_merge_new :
    (Starts.ofRecords g (Journal.merge j (Journal.new setup)).active).records =
      (Starts.ofRecords g j.active).records := by
  refine Starts.records_ofRecords_congr fun id => ?_
  rw [startRecord?, startRecord?]
  exact (Journal.getLast?_filter_merge_new_iff setup hids fun r s h =>
    g.allowsStart_of_identity h id).mpr (htime.endsInTime_start id)

theorem sameReplies_merge_new :
    Record.SameReplies (Journal.merge j (Journal.new setup)).active j.active :=
  .of_lastOf fun i => (Journal.lastOf_merge_new_iff setup hids i).mpr (htime.endsInTime_identity i)

theorem operated_merge_new :
    Table.operated g setup (Journal.merge j (Journal.new setup)).active =
      Table.operated g setup j.active := by
  rw [Table.operated, Table.operated,
    Journal.filter_isCumulative_merge_new setup hids htime.operations]

include honce

theorem alike_merge_new :
    (Starts.ofRecords g (Journal.merge j (Journal.new setup)).active).Alike
      (Starts.ofRecords g j.active) := by
  refine Starts.alike_of_eq (g.records_merge_new setup hids htime) ?_
  rw [Starts.sides_ofRecords, Starts.sides_ofRecords, sidesStarted, sidesStarted]
  refine congrArg List.eraseDups (Journal.filterMap_merge_new setup hids ?_ htime.sides ?_)
  · exact fun r s h => by rw [g.sideOf?_of_identity h]
  · exact honce.imp fun h hidentity => (h hidentity).1

theorem refused_merge_new :
    (Journal.merge j (Journal.new setup)).active.filterMap g.refusal? =
      j.active.filterMap g.refusal? := by
  refine Journal.filterMap_merge_new setup hids ?_ htime.refusals ?_
  · exact fun r s h => g.isSome_refusal?_of_identity h
  · exact honce.imp fun h hidentity => (h hidentity).2

theorem outcome_merge_new :
    g.outcome setup (Journal.merge j (Journal.new setup)).active = g.outcome setup j.active := by
  have halike := g.alike_merge_new setup hids htime honce
  refine outcome_congr g (g.sameReplies_merge_new setup hids htime) setup ?_ (halike.played g)
  rw [Table.prepare_eq, Table.prepare_eq, g.operated_merge_new setup hids htime,
    g.refused_merge_new setup hids htime honce, halike.strayAnchors]

end Timely

/-- **What merging with an empty journal does.** It is the same from either side. If no id comes
twice among the records in effect, it keeps those that are cumulative, and of every other identity
the one that was recorded last. The record that counts for an identity is the same exactly if none
of the identity was recorded after it. The journal is played the same if its records stand in time
and no start is superseded but those of main scenarios. -/
theorem play_merge_new (g : Guide) (j : Journal) :
    Journal.merge (.new j.setup) j = Journal.merge j (.new j.setup) ∧
      ((j.active.map (·.id)).Nodup →
        (∀ r, r ∈ (Journal.merge j (.new j.setup)).active ↔ r ∈ j.active ∧
          (r.isCumulative = true ∨ ∀ s ∈ j.active, s.identity = r.identity →
            s = r ∨ Journal.Precedes j (.new j.setup) s r)) ∧
        (∀ i, lastOf (Journal.merge j (.new j.setup)).active i = lastOf j.active i ↔
          EndsInTime (·.identity = i) j.active) ∧
        (g.InTime j.active → g.RestartsMains j.active →
          g.play (Journal.merge j (.new j.setup)) = g.play j)) := by
  refine ⟨j.merge_new_comm, fun hids => ⟨fun r => ?_, fun i => ?_, fun htime honce => ?_⟩⟩
  · exact Journal.mem_merge_new_iff j.setup hids
  · exact Journal.lastOf_merge_new_iff j.setup hids i
  · have hsetup : (Journal.merge j (.new j.setup)).setup = j.setup := rfl
    rw [play, play, hsetup, g.outcome_merge_new j.setup hids htime honce]

open Sample

/-- The points are counted before the decision and have the latest time, so a merge puts them last
and leaves out the decision that was overruled. -/
theorem play_merge_new_of_belated :
    (belated.active.map (·.id)).Nodup ∧ nightOfTheZealot.InTime belated.active ∧
      nightOfTheZealot.RestartsMains belated.active ∧
      (Journal.merge belated (.new belated.setup)).active = [started, overruled, victoryPoints] ∧
      lastOf (Journal.merge belated (.new belated.setup)).active decision.identity =
        lastOf belated.active decision.identity ∧
      nightOfTheZealot.play (Journal.merge belated (.new belated.setup)) =
        nightOfTheZealot.play belated := by
  have hids : (belated.active.map (·.id)).Nodup := by decide
  have htime : nightOfTheZealot.InTime belated.active := by decide
  have honce : nightOfTheZealot.RestartsMains belated.active := by decide
  have hmerged : (Journal.merge belated (.new belated.setup)).active =
      [started, overruled, victoryPoints] := by
    have hbyTime : Record.byTime belated.active = [started, decision, overruled, victoryPoints] :=
      Record.byTime_eq (by decide) (by decide) (by decide)
    rw [Journal.active_merge_new _ hids, hbyTime]
    rfl
  obtain ⟨-, h⟩ := nightOfTheZealot.play_merge_new belated
  obtain ⟨-, hlast, hplay⟩ := h hids
  exact ⟨hids, htime, honce, hmerged, (hlast _).mpr (htime.endsInTime_identity _),
    hplay htime honce⟩

/-- A decision that was recorded before the one it supersedes is taken back by a merge with an empty
journal. -/
theorem overtaken_by_merge_new :
    nightOfTheZealot.play (Journal.merge overtaken (.new overtaken.setup)) ≠
      nightOfTheZealot.play overtaken := by
  intro h
  have hbefore : (nightOfTheZealot.outcome overtaken.setup overtaken.active).log.resolutions.get?
      "the_gathering" = some "R1" := by
    rw [outcome_of_started _ (by rfl)]
    rfl
  have hmerged : (Journal.merge overtaken (.new overtaken.setup)).active =
      [started, overruled, victoryPoints] := by
    have hbyTime : Record.byTime overtaken.active = [started, decision, overruled, victoryPoints] :=
      Record.byTime_eq (by decide) (by decide) (by decide)
    rw [Journal.active_merge_new _ (by decide), hbyTime]
    rfl
  have hafter : (nightOfTheZealot.outcome overtaken.setup
      (Journal.merge overtaken (.new overtaken.setup)).active).log.resolutions.get?
      "the_gathering" = some "R2" := by
    rw [hmerged, outcome_of_started _ (by rfl)]
    rfl
  have hsame : nightOfTheZealot.outcome overtaken.setup
      (Journal.merge overtaken (.new overtaken.setup)).active =
      nightOfTheZealot.outcome overtaken.setup overtaken.active := Except.ok.inj h
  rw [hsame, hbefore] at hafter
  simp at hafter

end Guide
end Chronicle
