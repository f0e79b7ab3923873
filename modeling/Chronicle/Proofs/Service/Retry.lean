import Chronicle.Proofs.Journal.Inverse
import Chronicle.Proofs.Play.Repetition
import Chronicle.Proofs.Service.Concurrency
import Chronicle.Proofs.Service.Reading
import Mathlib.Data.List.Permutation

/-!
# Retried requests

A client may choose the id of a record, and may send a request again if it got no answer. The
request is then carried out again: the record is appended a second time, under the same id. What
the campaign has come to is the same as long as the guide absorbs the second record. An operation
on an achievement takes effect twice.
-/

namespace Chronicle

open Campaign

/-! ## Recording -/

theorem Request.exists_plan_of_record {r : Request} {campaign : Uuid} {scenario : Option ScenarioId}
    {step : Option StepId} {payload : Payload} {id : Uuid} {recordedAt : Option Instant}
    (h : r.command = .record campaign scenario step payload (some id) recordedAt) :
    ∃ stamp time, r.plan =
      .ok (campaign, stamp, .record ⟨id, currentSchema, scenario, step, payload, time⟩) := by
  unfold plan
  rw [h]
  exact ⟨_, _, rfl⟩

namespace Store

variable {streams : Streams} {r : Request} {receipt : Receipt} {st : Store} {campaign : Uuid}
  {events : List Event} {stamp : Stamp} {record : Record}

/-- A request for a record that succeeds adds the record to the history. -/
theorem storedAs_of_record (hs : StoredAs campaign (streams.stream campaign) events)
    (hplan : r.plan = .ok (campaign, stamp, .record record))
    (h : (memory streams).served r = .ok (receipt, st)) :
    (ofEvents campaign events).Admits (.recorded record) ∧ ∃ grown, st = memory grown ∧
      StoredAs campaign (grown.stream campaign) (events ++ [.recorded record]) := by
  obtain ⟨-, base, c, hbasis, hperform, happend⟩ := served_of_plan hplan h
  obtain ⟨hjournal, hflaw, hc⟩ := perform_record_iff.mp hperform
  obtain ⟨hhead, rfl⟩ := happend _ hc
  obtain rfl := basis_eq_of_storedAs hs hbasis hhead
  refine ⟨⟨hjournal, hflaw⟩, _, rfl, ?_⟩
  rw [Streams.stream_insert, if_pos rfl]
  refine hs.concat (r := ⟨.recorded record, campaign, _, stamp⟩) ⟨hjournal, hflaw⟩ ?_
  rw [version_ofEvents, hs.length_eq]

/-- A record that may be added to the history is accepted. -/
theorem exists_served_of_record (hs : StoredAs campaign (streams.stream campaign) events)
    (hplan : r.plan = .ok (campaign, stamp, .record record))
    (hadmits : (ofEvents campaign events).Admits (.recorded record)) :
    ∃ receipt st, (memory streams).served r = .ok (receipt, st) := by
  have hne : events ≠ [] := fun hnil => by
    rw [hnil] at hadmits
    cases hadmits.1
  have hbasis : (memory streams).basis campaign (.record record) = .ok (ofEvents campaign events) :=
    campaign_eq_of_storedAs hs hne
  have hperform : (ofEvents campaign events).perform stamp (.record record) =
      .ok ((ofEvents campaign events).raise stamp (.recorded record)) :=
    perform_record_iff.mpr ⟨hadmits.1, hadmits.2, rfl⟩
  rw [served_eq_persist hplan hbasis hperform, persist_raise (pending_ofEvents ..), id_ofEvents,
    if_pos (by rw [hs.numbered.head_eq_length, hs.length_eq, version_ofEvents])]
  exact ⟨_, _, rfl⟩

/-! ## The same request again -/

/-- What a campaign has come to, worked out anew. -/
def processed (st : Store) (library : Library) (id : Uuid) : Except Failure Playthrough :=
  (st.view library ∅ id).map (·.1.playthrough)

end Store

/-- Whether the guide of a campaign, if it can be played with it, absorbs the record that was
written last. -/
def Library.Absorbs (library : Library) (j : Journal) (scenario : Option ScenarioId)
    (payload : Payload) : Prop :=
  ∀ v, library.get? j.setup.guide = some v → v.guide.incompatibility? j.setup = none →
    v.guide.absorbs (Table.prepare v.guide j.setup j.active).log scenario payload = true

/-- Whether no scenario of the guide of a campaign works on the achievement that an operation is
for. -/
def Library.Spares (library : Library) (j : Journal) (payload : Payload) : Prop :=
  ∀ v, library.get? j.setup.guide = some v →
    ∀ id operation max, payload = .achievement id operation max → v.guide.Spares id

section Again

variable (g : Guide) (j : Journal) {r s : Record} (h : s.Alike r)
include h

/-- A campaign is played the same with a record that came twice, if its guide absorbs it or cannot
play the campaign. -/
theorem Guide.play_append_again (habsorbs : g.incompatibility? j.setup = none →
      g.absorbs (Table.prepare g j.setup (j.append r).active).log r.scenario r.payload = true) :
    g.play ((j.append r).append s) = g.play (j.append r) := by
  unfold play
  simp only [Journal.setup_append]
  cases hfits : g.incompatibility? j.setup with
  | some i => rfl
  | none =>
      have hactive := habsorbs hfits
      rw [Journal.active_append] at hactive
      simp only [Journal.active_append, List.append_assoc, List.singleton_append]
      exact congrArg _ (g.outcome_again h j.setup j.active hactive)

/-- Conversely, if a campaign can be played and no scenario works on the achievement of the
record. -/
theorem Guide.absorbs_of_play_append_again
    (hspares : ∀ id operation max, r.payload = .achievement id operation max → g.Spares id)
    (hfits : g.incompatibility? j.setup = none)
    (hplay : g.play ((j.append r).append s) = g.play (j.append r)) :
    g.absorbs (Table.prepare g j.setup (j.append r).active).log r.scenario r.payload = true := by
  by_contra habsorbs
  rw [Journal.active_append] at habsorbs
  refine g.outcome_again_ne h j.setup j.active hspares habsorbs ?_
  unfold play at hplay
  simp only [Journal.setup_append, hfits, Journal.active_append, List.append_assoc,
    List.singleton_append] at hplay
  exact Except.ok.inj hplay

end Again

namespace Store

/-- A record in a history is appended to its journal. -/
theorem journal_append_of_concat {campaign : Uuid} {events : List Event} {j : Journal}
    (hj : (ofEvents campaign events).journal = some j) (record : Record) :
    (ofEvents campaign (events ++ [.recorded record])).journal = some (j.append record) := by
  rw [ofEvents_concat, Campaign.apply, mutate, hj]
  rfl

/-- A campaign is worked out by its guide from its journal. -/
theorem processed_eq_of_journal {st : Store} {id : Uuid} {c : Campaign} {j : Journal}
    (h : st.journal id = .ok (c, j)) (library : Library) :
    st.processed library id =
      match library.get? j.setup.guide with
      | none => .error (.guideNotFound j.setup.guide)
      | some v => (v.guide.play j).mapError .incompatible := by
  unfold processed
  cases hv : library.get? j.setup.guide with
  | none =>
      unfold view
      rw [h]
      simp only [bind, Except.bind, hv]
      rfl
  | some v =>
      rw [view_eq_of_journal h hv]
      have hmiss : Cache.find ∅ id c.version v.fingerprint = none := rfl
      simp only [outcome, hmiss]
      cases v.guide.play j <;> rfl

theorem mapError_incompatible_inj {x y : Except Incompatibility Playthrough}
    (h : x.mapError Failure.incompatible = y.mapError .incompatible) : x = y := by
  cases x <;> cases y <;> cases h <;> rfl

/-- **What a retried request does.** A request for a record whose id the client has chosen is
accepted again, and the record is appended again. What the campaign has come to is the same as
before if its guide absorbs the record: replies, starts that were not refused, and operations that
have nothing left to do. As long as no scenario works on the achievement of the record, it is the
same only then. -/
theorem processed_of_retry {earlier : List Request} {r again : Request} {campaign : Uuid}
    {scenario : Option ScenarioId} {step : Option StepId} {payload : Payload} {id : Uuid}
    {recordedAt : Option Instant} {receipt : Receipt} {st : Store}
    (hcommand : r.command = .record campaign scenario step payload (some id) recordedAt)
    (hagain : again.command = r.command)
    (haccepted : ((memory ∅).run earlier).served r = .ok (receipt, st)) :
    ∃ c j receipt' st', st.journal campaign = .ok (c, j) ∧ st.served again = .ok (receipt', st') ∧
      ∀ library : Library,
        (library.Absorbs j scenario payload →
          st'.processed library campaign = st.processed library campaign) ∧
        (library.Spares j payload →
          st'.processed library campaign = st.processed library campaign →
          library.Absorbs j scenario payload) := by
  have hnil : StoredAs campaign (Streams.stream ∅ campaign) [] := .nil campaign
  obtain ⟨streams, events, hrun, hs⟩ := storedAs_run hnil earlier
  rw [hrun] at haccepted
  obtain ⟨stamp, time, hplan⟩ := Request.exists_plan_of_record hcommand
  obtain ⟨stamp', time', hplan'⟩ := Request.exists_plan_of_record (hagain.trans hcommand)
  obtain ⟨hadmits, once, rfl, hs⟩ := storedAs_of_record hs hplan haccepted
  obtain ⟨before, hbefore⟩ := Option.isSome_iff_exists.mp hadmits.1
  have hj := journal_append_of_concat hbefore ⟨id, currentSchema, scenario, step, payload, time⟩
  -- The second record has the same flaws as the first, which are none.
  have hadmits' : (ofEvents campaign _).Admits
      (.recorded ⟨id, currentSchema, scenario, step, payload, time'⟩) :=
    ⟨by rw [hj]; rfl, hadmits.2⟩
  obtain ⟨receipt', st', haccepted'⟩ := exists_served_of_record hs hplan' hadmits'
  obtain ⟨-, twice, rfl, hs'⟩ := storedAs_of_record hs hplan' haccepted'
  have hj' := journal_append_of_concat hj ⟨id, currentSchema, scenario, step, payload, time'⟩
  have hread := journal_eq_of_storedAs hs hj
  have hread' := journal_eq_of_storedAs hs' hj'
  have halike : Record.Alike ⟨id, currentSchema, scenario, step, payload, time'⟩
      ⟨id, currentSchema, scenario, step, payload, time⟩ := ⟨rfl, rfl, rfl, rfl⟩
  refine ⟨_, _, receipt', _, hread, haccepted', fun library => ?_⟩
  rw [processed_eq_of_journal hread, processed_eq_of_journal hread']
  simp only [Journal.setup_append]
  refine ⟨fun habsorbs => ?_, fun hspares hsame v hv hfits => ?_⟩
  · cases hv : library.get? before.setup.guide with
    | none => rfl
    | some v =>
        have hplay := v.guide.play_append_again before halike (habsorbs v hv)
        exact congrArg (Except.mapError Failure.incompatible) hplay
  · rw [show library.get? before.setup.guide = some v from hv] at hsame
    exact v.guide.absorbs_of_play_append_again before halike (hspares v hv) hfits
      (mapError_incompatible_inj hsame)

end Store

/-! ## An elder sign -/

namespace Sample

/-- Counts one more elder sign, under an id of the client. -/
def counting : Request :=
  asked (.record (.ofNat 10) none none (.achievement "elder_sign_count" .inc none) (some (.ofNat 7))
    none)

theorem served_creating : (Store.memory ∅).served creating =
    .ok (⟨.ofNat 10, created.pending.map (·.toStored)⟩, .memory oneEvent) := by
  rw [Store.served_eq_bind_draft, draft_creating]
  exact persist_created

theorem run_creating : (Store.memory ∅).run [creating] = .memory oneEvent := by
  rw [Store.run, List.foldl_cons, List.foldl_nil, Store.after, served_creating]

theorem storedAs_oneEvent :
    StoredAs (.ofNat 10) (oneEvent.stream (.ofNat 10)) [.created (.ofNat 10) arkhamNights] :=
  (StoredAs.nil _).concat (r := ⟨.created (.ofNat 10) arkhamNights, .ofNat 10, 1,
    ⟨.ofNat 11, .nil, tenSharp⟩⟩) ⟨rfl, rfl, by decide⟩ rfl

end Sample

namespace Store

open Sample

/-- The start of a scenario is absorbed. -/
theorem processed_of_retry_of_start :
    Sample.recording.command = .record (.ofNat 10) started.scenario started.step started.payload
        (some started.id) (some started.recordedAt) ∧
      ((memory ∅).run [creating]).served Sample.recording =
        .ok (⟨.ofNat 10, recorded.pending.map (·.toStored)⟩, .memory twoEvents) ∧
      ∃ receipt st, (memory twoEvents).served Sample.recording = .ok (receipt, st) ∧
        st.processed creating.library (.ofNat 10) =
          (memory twoEvents).processed creating.library (.ofNat 10) := by
  have haccepted : ((memory ∅).run [creating]).served Sample.recording =
      .ok (⟨.ofNat 10, recorded.pending.map (·.toStored)⟩, .memory twoEvents) := by
    rw [run_creating, served_eq_bind_draft, draft_recording]
    exact persist_recorded
  obtain ⟨c, j, receipt, st, -, hagain, hlibrary⟩ := processed_of_retry rfl rfl haccepted
  refine ⟨rfl, haccepted, receipt, st, hagain, (hlibrary creating.library).1 fun v hv _ => ?_⟩
  have hguide : v.guide = nightOfTheZealot := by
    change Dict.find _ [(nightOfTheZealot.id, (⟨nightOfTheZealot, ""⟩ : Volume))] = some v at hv
    rw [Dict.find] at hv
    split at hv
    next => rw [← Option.some.inj hv]
    next => cases hv
  rw [hguide]
  rfl

/-- An elder sign that is counted by a retried request is counted twice. -/
theorem counted_twice_by_retry :
    ∃ receipt once receipt' twice,
      ((memory ∅).run [creating]).served counting = .ok (receipt, once) ∧
      once.served counting = .ok (receipt', twice) ∧
      ∃ p q, once.processed counting.library (.ofNat 10) = .ok p ∧
        twice.processed counting.library (.ofNat 10) = .ok q ∧
        p.log.achievementCount "elder_sign_count" = 1 ∧
        q.log.achievementCount "elder_sign_count" = 2 := by
  rw [run_creating]
  obtain ⟨receipt, st, haccepted⟩ := exists_served_of_record (r := counting) storedAs_oneEvent rfl
    ⟨rfl, rfl⟩
  obtain ⟨hadmits, once, rfl, hs⟩ := storedAs_of_record storedAs_oneEvent rfl haccepted
  obtain ⟨receipt', st', haccepted'⟩ := exists_served_of_record (r := counting) hs rfl ⟨rfl, rfl⟩
  obtain ⟨hadmits', twice, rfl, hs'⟩ := storedAs_of_record hs rfl haccepted'
  have hj := journal_eq_of_storedAs hs rfl
  have hj' := journal_eq_of_storedAs hs' rfl
  refine ⟨receipt, _, receipt', _, haccepted, haccepted', ?_⟩
  rw [processed_eq_of_journal hj, processed_eq_of_journal hj']
  exact ⟨_, _, rfl, rfl, by cbv, by cbv⟩

end Store
end Chronicle
