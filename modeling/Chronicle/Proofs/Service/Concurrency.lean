import Chronicle.Proofs.Service.Handling
import Chronicle.Proofs.Service.Storage
import Chronicle.Sample.Evening
import Chronicle.Sample.NightOfTheZealot
import Mathlib.Logic.Relation

/-!
# Many clients at one store

Handlers read the stream of a campaign at one time and append to it at a later one, and any number
of them do so at once. An append is checked by how far the stream went when it was read. Because a
stream only grows and its events are numbered from one, the check passes exactly if the stream is
still the one that was read. So what is stored is what the requests that were appended would have
stored one after the other.
-/

namespace Chronicle

open Relation

/-! ## Steps -/

/-- What a handler holds between reading and appending. -/
structure Draft where
  request : Request
  /-- The stream that was read. For a new campaign there is none. -/
  seen : List Stored
  campaign : Campaign

/-- A store in memory and the handlers that are at work on it. -/
structure System where
  streams : Streams
  drafts : List Draft
  /-- The requests whose events were appended, in the order of the appends. -/
  committed : List Request

/-- The stream that a request reads. -/
def Request.reads (r : Request) (streams : Streams) : List Stored :=
  match r.command.campaign? with
  | some id => streams.stream id
  | none => []

/-- The store after a request that succeeds. -/
def Store.next (st : Store) (r : Request) : Except Failure Store := (st.served r).map (·.2)

theorem Store.foldlM_next_concat (st : Store) (rs : List Request) (r : Request) :
    (rs ++ [r]).foldlM Store.next st = (rs.foldlM Store.next st).bind (·.next r) := by
  rw [List.foldlM_append]
  refine bind_congr fun st => ?_
  rw [List.foldlM_cons]
  exact bind_pure _

namespace Draft

def store (d : Draft) (streams : Streams) : Except Failure (Receipt × Store) :=
  (Store.memory streams).persist d.campaign

def events (d : Draft) : List Stored := d.campaign.pending.map (·.toStored)

end Draft

namespace System

def start : System := ⟨∅, [], []⟩

inductive Step : System → System → Prop where
  /-- A handler reads and works its request out. -/
  | load {streams : Streams} {drafts : List Draft} {committed : List Request} {r : Request}
      {c : Campaign} (worked : (Store.memory streams).draft r = .ok c) :
      Step ⟨streams, drafts, committed⟩
        ⟨streams, ⟨r, r.reads streams, c⟩ :: drafts, committed⟩
  /-- A handler that has something to append appends it. -/
  | append {streams grown : Streams} {committed : List Request} {d : Draft} {receipt : Receipt}
      (before after : List Draft) (some : d.campaign.pending ≠ [])
      (stored : d.store streams = .ok (receipt, .memory grown)) :
      Step ⟨streams, before ++ d :: after, committed⟩
        ⟨grown, before ++ after, committed ++ [d.request]⟩
  /-- A handler is refused. -/
  | refuse {streams : Streams} {committed : List Request} {d : Draft} {f : Failure}
      (before after : List Draft) (refused : d.store streams = .error f) :
      Step ⟨streams, before ++ d :: after, committed⟩ ⟨streams, before ++ after, committed⟩
  /-- A handler has nothing to append, or never gets to it. -/
  | leave {streams : Streams} {committed : List Request} {d : Draft}
      (before after : List Draft) :
      Step ⟨streams, before ++ d :: after, committed⟩ ⟨streams, before ++ after, committed⟩

/-- The states that the clients of a store that was empty can bring about. -/
def Reachable (sys : System) : Prop := ReflTransGen Step start sys

end System

/-! ## Drafts -/

namespace Draft

/-- The campaign of a draft is what the operation of its request makes of the stream that was
read. -/
structure Drawn (d : Draft) (stamp : Stamp) (op : Operation) : Prop where
  plan : d.request.plan = .ok (d.campaign.id, stamp, op)
  creation : op.isCreation = true ↔ d.seen = []
  performed : (Campaign.ofStored d.campaign.id d.seen).bind (·.perform stamp op) = .ok d.campaign

end Draft

theorem Request.campaign?_of_plan {r : Request} {id : Uuid} {stamp : Stamp} {op : Operation}
    (h : r.plan = .ok (id, stamp, op)) :
    r.command.campaign? = if op.isCreation then none else some id := by
  unfold plan at h
  split at h
  next hcommand =>
      split at h
      · cases h
      · cases h
        rw [hcommand]
        rfl
  all_goals
    next hcommand =>
      cases h
      rw [hcommand]
      rfl

theorem Campaign.id_perform {c d : Campaign} {s : Stamp} {op : Operation}
    (h : c.perform s op = .ok d) : d.id = c.id := by
  rcases perform_cases h with rfl | ⟨e, -, rfl⟩
  · rfl
  · rfl

theorem Request.reads_of_plan {r : Request} {id : Uuid} {stamp : Stamp} {op : Operation}
    (h : r.plan = .ok (id, stamp, op)) (streams : Streams) :
    r.reads streams = if op.isCreation then [] else streams.stream id := by
  rw [reads, campaign?_of_plan h]
  cases op.isCreation <;> rfl

namespace Draft

/-- A handler that has read holds what its request makes of what it read. -/
theorem drawn_of_draft {streams : Streams} {r : Request} {c : Campaign}
    (h : (Store.memory streams).draft r = .ok c)
    (hstored : ∀ id, ∃ events, StoredAs id (streams.stream id) events) :
    r.reads streams <+: streams.stream c.id ∧
      ∃ stamp op, Drawn ⟨r, r.reads streams, c⟩ stamp op := by
  obtain ⟨⟨id, stamp, op⟩, hplan, hrest⟩ := exists_of_bind_eq_ok h
  obtain ⟨base, hbasis, hperform⟩ := exists_of_bind_eq_ok hrest
  obtain ⟨hcreation, hbase⟩ := Store.basis_eq_ok_iff.mp hbasis
  rw [← Request.reads_of_plan hplan] at hcreation hbase
  have hreads : r.reads streams <+: streams.stream id := by
    rw [Request.reads_of_plan hplan]
    split
    · exact List.nil_prefix
    · exact List.prefix_refl _
  have hid : c.id = id := by
    obtain ⟨events, hevents⟩ := hstored id
    rw [List.prefix_iff_eq_take.mp hreads, (hevents.take _).ofStored_eq] at hbase
    cases hbase
    rw [Campaign.id_perform hperform, Campaign.id_ofEvents]
  subst hid
  refine ⟨hreads, stamp, op, hplan, hcreation, ?_⟩
  rw [hbase]
  exact hperform

/-- A handler holds the campaign that it read, with at most one event that may be raised there. -/
theorem Drawn.pending_cases {d : Draft} {stamp : Stamp} {op : Operation} (h : d.Drawn stamp op)
    {events : List Event} (hseen : StoredAs d.campaign.id d.seen events) :
    d.campaign.version = d.seen.length ∧ (d.campaign.pending = [] ∨ ∃ r : Raised,
      d.campaign.pending = [r] ∧ (Campaign.ofEvents d.campaign.id events).Admits r.event ∧
        r.sequence = d.seen.length + 1) := by
  have hperformed := h.performed
  rw [hseen.ofStored_eq] at hperformed
  rcases Campaign.perform_cases hperformed with hd | ⟨e, he, hd⟩
  · refine ⟨?_, Or.inl ?_⟩
    · rw [hd, Campaign.version_ofEvents, hseen.length_eq]
    · rw [hd, Campaign.pending_ofEvents]
  · refine ⟨?_, Or.inr ⟨⟨e, d.campaign.id, d.seen.length + 1, stamp⟩, ?_, he, rfl⟩⟩
    · rw [hd, Campaign.raise, Campaign.version_ofEvents, hseen.length_eq]
    · rw [hd, Campaign.raise, Campaign.pending_ofEvents, Campaign.version_ofEvents,
        Campaign.id_ofEvents, hseen.length_eq]
      rfl

/-- What a handler read is a written history together with what it appends. -/
theorem Drawn.storedAs_append {d : Draft} {stamp : Stamp} {op : Operation} (h : d.Drawn stamp op)
    {events : List Event} (hseen : StoredAs d.campaign.id d.seen events) :
    ∃ events', StoredAs d.campaign.id (d.seen ++ d.events) events' := by
  obtain ⟨-, hnil | ⟨r, hpending, hr, hsequence⟩⟩ := h.pending_cases hseen
  · refine ⟨events, ?_⟩
    rw [Draft.events, hnil, List.map_nil, List.append_nil]
    exact hseen
  · rw [Draft.events, hpending]
    exact ⟨_, hseen.concat hr hsequence⟩

section Store

variable {d : Draft} {streams : Streams} {stamp : Stamp} {op : Operation} {events : List Event}
  (h : d.Drawn stamp op)
  (hstored : StoredAs d.campaign.id (streams.stream d.campaign.id) events)
  (hbegins : d.seen <+: streams.stream d.campaign.id)

include hstored hbegins

theorem stored_seen : StoredAs d.campaign.id d.seen (events.take d.seen.length) := by
  have htake := hstored.take d.seen.length
  rwa [← List.prefix_iff_eq_take.mp hbegins] at htake

include h

theorem Drawn.store_eq (hne : d.campaign.pending ≠ []) :
    d.store streams =
      if (streams.stream d.campaign.id).length = d.seen.length then
        .ok (⟨d.campaign.id, d.events⟩, .memory (streams.insert d.campaign.id
          (streams.stream d.campaign.id ++ d.events)))
      else
        .error (.conflict d.campaign.id d.seen.length (streams.stream d.campaign.id).length) := by
  obtain ⟨hversion, -⟩ := h.pending_cases (stored_seen hstored hbegins)
  have hsome : (d.campaign.pending.map (·.toStored)).isEmpty = false := by
    rw [List.isEmpty_eq_false_iff]
    exact fun hnil => hne (List.map_eq_nil_iff.mp hnil)
  have hhead := hstored.numbered.head_eq_length
  rw [Draft.store, Store.persist, hsome, Store.append, Streams.append, hhead, hversion]
  simp only [Bool.false_eq_true, if_false, Int.natCast_inj]
  split <;> rfl

/-- **The check of an append passes exactly if the stream is the one that was read.** -/
theorem Drawn.store_cases (hne : d.campaign.pending ≠ []) :
    (d.seen = streams.stream d.campaign.id →
      d.store streams = .ok (⟨d.campaign.id, d.events⟩,
        .memory (streams.insert d.campaign.id (d.seen ++ d.events)))) ∧
    (d.seen ≠ streams.stream d.campaign.id →
      d.store streams = .error (.conflict d.campaign.id d.seen.length
        (streams.stream d.campaign.id).length)) := by
  rw [h.store_eq hstored hbegins hne]
  constructor
  · intro heq
    rw [heq, if_pos rfl]
  · intro hstale
    refine if_neg fun hlength => hstale ?_
    exact hbegins.eq_of_length hlength.symm

theorem Drawn.seen_eq_of_store {receipt : Receipt} {grown : Streams}
    (hne : d.campaign.pending ≠ []) (hgrown : d.store streams = .ok (receipt, .memory grown)) :
    d.seen = streams.stream d.campaign.id ∧
      grown = streams.insert d.campaign.id (d.seen ++ d.events) := by
  obtain ⟨hfresh, hstale⟩ := h.store_cases hstored hbegins hne
  by_cases heq : d.seen = streams.stream d.campaign.id
  · rw [hfresh heq] at hgrown
    cases hgrown
    exact ⟨heq, rfl⟩
  · rw [hstale heq] at hgrown
    cases hgrown

end Store

/-- A handler whose stream is still the one it read would work out the same again. -/
theorem Drawn.draft_eq {d : Draft} {streams : Streams} {stamp : Stamp} {op : Operation}
    (h : d.Drawn stamp op) (hseen : d.seen = streams.stream d.campaign.id) :
    (Store.memory streams).draft d.request = .ok d.campaign := by
  have hreads : (if op.isCreation then [] else streams.stream d.campaign.id) = d.seen := by
    cases hop : op.isCreation with
    | true => exact (h.creation.mp hop).symm
    | false => exact hseen.symm
  have hperformed := h.performed
  rw [Store.draft_of_plan h.plan]
  cases hbase : Campaign.ofStored d.campaign.id d.seen with
  | error f =>
      rw [hbase] at hperformed
      cases hperformed
  | ok base =>
      have hbasis : (Store.memory streams).basis d.campaign.id op = .ok base := by
        rw [Store.basis_eq_ok_iff, hreads]
        exact ⟨h.creation, hbase⟩
      rw [hbasis, ← hperformed, hbase]

end Draft

/-! ## The invariant -/

namespace System

/-- What holds of every reachable state: streams are written histories, each handler holds what its
request makes of a beginning of its stream, and the requests that were appended give the streams
when they are handled one after the other. -/
structure Sound (sys : System) : Prop where
  streams : ∀ id, ∃ events, StoredAs id (sys.streams.stream id) events
  drafts : ∀ d ∈ sys.drafts,
    d.seen <+: sys.streams.stream d.campaign.id ∧ ∃ stamp op, d.Drawn stamp op
  serial : sys.committed.foldlM Store.next (.memory ∅) = .ok (.memory sys.streams)

theorem sound_start : Sound start where
  streams := fun id => ⟨[], .nil id⟩
  drafts := fun _ h => by cases h
  serial := rfl

/-- A handler that ends without an append leaves the others as they are. -/
theorem Sound.without {streams : Streams} {before after : List Draft} {committed : List Request}
    {d : Draft} (h : Sound ⟨streams, before ++ d :: after, committed⟩) :
    Sound ⟨streams, before ++ after, committed⟩ where
  streams := h.streams
  drafts := fun d' hd' => h.drafts d' (by
    rw [List.mem_append] at hd' ⊢
    exact hd'.imp_right (List.mem_cons_of_mem _))
  serial := h.serial

/-- An append leaves the other streams alone and only adds to its own. -/
theorem Sound.append {streams grown : Streams} {before after : List Draft}
    {committed : List Request} {d : Draft} {receipt : Receipt}
    (h : Sound ⟨streams, before ++ d :: after, committed⟩) (hne : d.campaign.pending ≠ [])
    (hgrown : d.store streams = .ok (receipt, .memory grown)) :
    Sound ⟨grown, before ++ after, committed ++ [d.request]⟩ := by
  obtain ⟨hbegins, stamp, op, hdrawn⟩ := h.drafts d (by simp)
  obtain ⟨events, hstored⟩ := h.streams d.campaign.id
  obtain ⟨hseen, hinsert⟩ := hdrawn.seen_eq_of_store hstored hbegins hne hgrown
  have hstream : ∀ id, grown.stream id =
      if id = d.campaign.id then d.seen ++ d.events else streams.stream id := fun id => by
    rw [hinsert, Streams.stream_insert]
  refine ⟨fun id => ?_, fun d' hd' => ?_, ?_⟩
  · show ∃ events, StoredAs id (grown.stream id) events
    rw [hstream]
    split
    next hid =>
        subst hid
        exact hdrawn.storedAs_append (Draft.stored_seen hstored hbegins)
    next => exact h.streams id
  · obtain ⟨hbegins', hdrawn'⟩ := h.without.drafts d' hd'
    refine ⟨?_, hdrawn'⟩
    show d'.seen <+: grown.stream d'.campaign.id
    rw [hstream]
    split
    next hid =>
        -- A stream only grows, so what another handler read of it is still its beginning.
        rw [hseen, ← hid]
        exact hbegins'.trans (List.prefix_append _ _)
    next => exact hbegins'
  · have hnext : (Store.memory streams).next d.request = .ok (.memory grown) := by
      rw [Store.next, Store.served_eq_bind_draft, hdrawn.draft_eq hseen]
      exact congrArg (Except.map Prod.snd) hgrown
    rw [Store.foldlM_next_concat, h.serial]
    exact hnext

theorem Sound.step {sys next : System} (h : Sound sys) (hstep : Step sys next) : Sound next := by
  cases hstep with
  | load worked =>
      refine ⟨h.streams, fun d hd => ?_, h.serial⟩
      rcases List.mem_cons.mp hd with rfl | hd
      · exact Draft.drawn_of_draft worked h.streams
      · exact h.drafts d hd
  | append before after some stored => exact h.append some stored
  | refuse before after refused => exact h.without
  | leave before after => exact h.without

theorem Reachable.sound {sys : System} (h : Reachable sys) : Sound sys := by
  induction h with
  | refl => exact sound_start
  | tail _ hstep ih => exact ih.step hstep

/-- A step changes at most the stream of one campaign, for which the handler at work on it saw all
that there was. -/
theorem Sound.step_cases {sys next : System} (h : Sound sys) (hstep : Step sys next) :
    next.streams = sys.streams ∨ ∃ d ∈ sys.drafts, d.campaign.pending ≠ [] ∧
      d.seen = sys.streams.stream d.campaign.id ∧
      next.streams = sys.streams.insert d.campaign.id (d.seen ++ d.events) := by
  cases hstep with
  | load worked => exact Or.inl rfl
  | @append streams grown committed d receipt before after some stored =>
      right
      obtain ⟨hbegins, stamp, op, hdrawn⟩ := h.drafts d (by simp)
      obtain ⟨events, hstored⟩ := h.streams d.campaign.id
      exact ⟨d, by simp, some, hdrawn.seen_eq_of_store hstored hbegins some stored⟩
  | refuse before after refused => exact Or.inl rfl
  | leave before after => exact Or.inl rfl

/-- **No update is lost and none comes from nowhere.** However the clients of a store interleave,
the events of each stream are numbered from one, its first event is the creation and no other one
is, and each event could be raised where it stands, so that an undo or redo has something to work
on there. The streams are what the requests that were appended give when they are handled one after
the other. A handler with something to append expects as many events as it read. It appends if the
stream is still the one that it read, and otherwise it is refused with a conflict. And a step
changes a stream only by the append of such a handler, and no other stream with it. -/
theorem no_lost_update (sys : System) (h : Reachable sys) :
    (∀ id, Numbered (sys.streams.stream id) ∧
      ∀ (i : Nat) (e : Stored), (sys.streams.stream id)[i]? = some e →
        ∃ event c, (Json.ofJson e.payload : Json.Reading Event) = .ok event ∧
          (event.isCreation = true ↔ i = 0) ∧
          Campaign.ofStored id ((sys.streams.stream id).take i) = .ok c ∧ c.Admits event) ∧
    sys.committed.foldlM Store.next (.memory ∅) = .ok (.memory sys.streams) ∧
    (∀ d ∈ sys.drafts, (∃ stamp op, d.Drawn stamp op) ∧ d.campaign.version = d.seen.length ∧
      (d.campaign.pending ≠ [] →
        (d.seen = sys.streams.stream d.campaign.id →
          d.store sys.streams = .ok (⟨d.campaign.id, d.events⟩,
            .memory (sys.streams.insert d.campaign.id (d.seen ++ d.events)))) ∧
        (d.seen ≠ sys.streams.stream d.campaign.id →
          d.store sys.streams = .error (.conflict d.campaign.id d.seen.length
            (sys.streams.stream d.campaign.id).length)))) ∧
    ∀ next, Step sys next →
      next.streams = sys.streams ∨ ∃ d ∈ sys.drafts, d.campaign.pending ≠ [] ∧
        d.seen = sys.streams.stream d.campaign.id ∧
        next.streams = sys.streams.insert d.campaign.id (d.seen ++ d.events) := by
  have hsound := h.sound
  refine ⟨fun id => ?_, hsound.serial, fun d hd => ?_, fun next => hsound.step_cases⟩
  · obtain ⟨events, hstored⟩ := hsound.streams id
    exact ⟨hstored.numbered, fun i e => hstored.getElem?_cases⟩
  · obtain ⟨hbegins, stamp, op, hdrawn⟩ := hsound.drafts d hd
    obtain ⟨events, hstored⟩ := hsound.streams d.campaign.id
    obtain ⟨hversion, -⟩ := hdrawn.pending_cases (Draft.stored_seen hstored hbegins)
    exact ⟨⟨stamp, op, hdrawn⟩, hversion, hdrawn.store_cases hstored hbegins⟩

end System

/-! ## Two clients -/

namespace Sample

def asked (command : Command) : Request where
  library := ⟨[(nightOfTheZealot.id, ⟨nightOfTheZealot, ""⟩)], by simp⟩
  correlation := .nil
  supply := ⟨10, tenSharp, 1⟩
  command := command

def creating : Request :=
  asked (.create arkhamNights.name arkhamNights.guide arkhamNights.difficulty
    arkhamNights.investigators)

def recording : Request :=
  asked (.record (.ofNat 10) started.scenario started.step started.payload (some started.id)
    (some started.recordedAt))

def created : Campaign :=
  (Campaign.new (.ofNat 10)).raise ⟨.ofNat 11, .nil, tenSharp⟩
    (.created (.ofNat 10) arkhamNights)

def recorded : Campaign :=
  (Campaign.ofEvents (.ofNat 10) [.created (.ofNat 10) arkhamNights]).raise
    ⟨.ofNat 10, .nil, tenSharp⟩ (.recorded started)

/-- The streams with the creation of the campaign only. -/
def oneEvent : Streams := ⟨[(.ofNat 10, created.pending.map (·.toStored))], by simp⟩

/-- The streams with the record of one of the clients too. -/
def twoEvents : Streams :=
  ⟨[(.ofNat 10, (created.pending ++ recorded.pending).map (·.toStored))], by simp⟩

def recordingDraft : Draft := ⟨recording, oneEvent.stream (.ofNat 10), recorded⟩

theorem draft_creating : (Store.memory ∅).draft creating = .ok created := rfl

theorem persist_created : (Store.memory ∅).persist created =
    .ok (⟨.ofNat 10, created.pending.map (·.toStored)⟩, .memory oneEvent) :=
  rfl

theorem draft_recording : (Store.memory oneEvent).draft recording = .ok recorded :=
  rfl

theorem persist_recorded : (Store.memory oneEvent).persist recorded =
    .ok (⟨.ofNat 10, recorded.pending.map (·.toStored)⟩, .memory twoEvents) :=
  rfl

end Sample

namespace System

open Sample

/-- Both clients read the created campaign, and one of them has recorded since. -/
theorem reachable_twoEvents : Reachable ⟨twoEvents, [recordingDraft], [creating, recording]⟩ := by
  have h₁ : Reachable ⟨∅, [⟨creating, [], created⟩], []⟩ := .single (.load draft_creating)
  have h₂ : Reachable ⟨oneEvent, [], [creating]⟩ :=
    h₁.tail (.append [] [] (by decide) persist_created)
  have h₃ : Reachable ⟨oneEvent, [recordingDraft], [creating]⟩ := h₂.tail (.load draft_recording)
  have h₄ : Reachable ⟨oneEvent, [recordingDraft, recordingDraft], [creating]⟩ :=
    h₃.tail (.load draft_recording)
  exact h₄.tail (.append [] [recordingDraft] (by decide) persist_recorded)

/-- The other client is refused. -/
theorem no_lost_update_of_twoEvents :
    Reachable ⟨twoEvents, [recordingDraft], [creating, recording]⟩ ∧
      recorded.pending ≠ [] ∧ recordingDraft.seen ≠ twoEvents.stream (.ofNat 10) ∧
      recordingDraft.store twoEvents = .error (.conflict (.ofNat 10) 1 2) := by
  have hpending : recorded.pending ≠ [] := by simp [recorded, Campaign.raise]
  have hstale : recordingDraft.seen ≠ twoEvents.stream (.ofNat 10) := fun h => by
    have hlength := congrArg List.length h
    cases hlength
  have h := no_lost_update _ reachable_twoEvents
  exact ⟨reachable_twoEvents, hpending, hstale,
    ((h.2.2.1 recordingDraft (List.mem_singleton.mpr rfl)).2.2 hpending).2 hstale⟩

end System

end Chronicle
