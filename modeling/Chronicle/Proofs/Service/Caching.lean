import Chronicle.Proofs.Service.Concurrency
import Chronicle.Proofs.Service.Reading

/-!
# Outcomes from the cache

A query reads the stream of its campaign, looks up the guide and asks the cache for the outcome. One
that is not there is played and then put there. In between other queries, handlers and appends have
their way, and guides are added. But streams only grow and a library never changes a guide that it
has, so the number of events tells which events an outcome was computed from, and what the cache
holds is what playing gives.
-/

namespace Chronicle

open Relation

/-! ## Growth -/

/-- Every stream goes on from where it was. -/
def Streams.Grow (old new : Streams) : Prop := ∀ id, old.stream id <+: new.stream id

/-- Every guide stays as it is. -/
def Library.Grow (old new : Library) : Prop := ∀ id v, old.get? id = some v → new.get? id = some v

namespace Streams

variable {old mid new : Streams}

theorem Grow.refl (streams : Streams) : streams.Grow streams := fun _ => List.prefix_rfl

theorem Grow.trans (h : old.Grow mid) (h' : mid.Grow new) : old.Grow new := fun id =>
  (h id).trans (h' id)

theorem grow_append {id : Uuid} {expected : Int} {es : List Stored}
    (h : old.append id expected es = .ok new) : old.Grow new := by
  simp only [append] at h
  split at h
  · cases h
    intro id'
    rw [stream_insert]
    split
    next hid =>
        rw [hid]
        exact List.prefix_append _ _
    next => exact List.prefix_rfl
  · cases h

end Streams

theorem Library.Grow.refl (library : Library) : library.Grow library := fun _ _ h => h

theorem Library.Grow.trans {old mid new : Library} (h : old.Grow mid) (h' : mid.Grow new) :
    old.Grow new := fun id v hv => h' id v (h id v hv)

/-- A guide is added under an id that is not taken. -/
theorem Library.grow_add {old new : Library} {g : Guide} (h : old.add g = .ok new) :
    old.Grow new := by
  unfold add at h
  split at h
  · cases h
  next hfree =>
      cases h
      intro id v hv
      have hne : id ≠ g.id := by
        rintro rfl
        exact hfree (by rw [Dict.contains, hv]; rfl)
      rw [Dict.get?_insert, if_neg hne, hv]

theorem Store.grow_persist {streams grown : Streams} {c : Campaign} {receipt : Receipt}
    (h : (memory streams).persist c = .ok (receipt, memory grown)) : streams.Grow grown := by
  simp only [persist] at h
  split at h
  · cases h
    exact .refl streams
  · cases happend : streams.append c.id c.version (c.pending.map (·.toStored)) with
    | error f =>
        rw [append, happend] at h
        cases h
    | ok new =>
        rw [append, happend] at h
        cases h
        exact Streams.grow_append happend

theorem System.Step.grow {sys next : System} (h : Step sys next) :
    sys.streams.Grow next.streams := by
  cases h with
  | load worked => exact .refl _
  | append before after some stored => exact Store.grow_persist stored
  | refuse before after refused => exact .refl _
  | leave before after => exact .refl _

/-! ## Outcomes -/

/-- An outcome is right if it is what the first `version` events of the campaign come to when they
are played with the guide of the library, and the fingerprint is the one of this guide. -/
def Cached.Right (streams : Streams) (library : Library) (id : Uuid) (e : Cached) : Prop :=
  ∃ seen c j v, seen <+: streams.stream id ∧ seen.length = e.version ∧
    Campaign.ofStored id seen = .ok c ∧ c.journal = some j ∧
    library.get? j.setup.guide = some v ∧ v.fingerprint = e.fingerprint ∧
    v.guide.play j = .ok e.playthrough

/-- The outcome that is shown. -/
def CampaignView.outcome (v : CampaignView) : Cached := ⟨v.version, v.fingerprint, v.playthrough⟩

/-- A right outcome stays right. -/
theorem Cached.Right.grow {streams grown : Streams} {library more : Library} {id : Uuid}
    {e : Cached} (h : e.Right streams library id) (hstreams : streams.Grow grown)
    (hlibrary : library.Grow more) : e.Right grown more id := by
  obtain ⟨seen, c, j, v, hseen, hlength, hc, hj, hv, hfingerprint, hplay⟩ := h
  exact ⟨seen, c, j, v, hseen.trans (hstreams id), hlength, hc, hj, hlibrary _ _ hv, hfingerprint,
    hplay⟩

namespace Store

variable {streams : Streams} {library : Library} {id : Uuid} {c : Campaign} {j : Journal}
  {v : Volume}

theorem journal_eq_ok (h : (memory streams).journal id = .ok (c, j)) :
    Campaign.ofStored id (streams.stream id) = .ok c ∧ c.journal = some j := by
  unfold journal at h
  split at h
  · cases h
  next c' hc =>
      split at h <;> cases h
      next hj =>
          unfold campaign at hc
          split at hc
          · cases hc
          next es hload =>
              cases hload
              split at hc
              · cases hc
              · exact ⟨hc, hj⟩

/-- The version counts the events of the stream. -/
theorem version_of_journal (h : (memory streams).journal id = .ok (c, j)) :
    c.version = (streams.stream id).length := by
  obtain ⟨events, hlength, rfl⟩ := Campaign.exists_events_of_ofStored (journal_eq_ok h).1
  rw [Campaign.version_ofEvents, hlength]

/-- What playing gives is right. -/
theorem right_of_play (hj : (memory streams).journal id = .ok (c, j))
    (hv : library.get? j.setup.guide = some v) {p : Playthrough} (hp : v.guide.play j = .ok p) :
    Cached.Right streams library id ⟨c.version, v.fingerprint, p⟩ := by
  obtain ⟨hc, hjournal⟩ := journal_eq_ok hj
  exact ⟨streams.stream id, c, j, v, List.prefix_rfl, (version_of_journal hj).symm, hc, hjournal,
    hv, rfl, hp⟩

/-- A right outcome for as many events as were read is what playing gives. -/
theorem play_of_right {now : Streams} {more : Library}
    (hj : (memory streams).journal id = .ok (c, j)) (hv : library.get? j.setup.guide = some v)
    (hstreams : streams.Grow now) (hlibrary : library.Grow more) {e : Cached}
    (h : e.Right now more id) (hversion : e.version = c.version) :
    v.guide.play j = .ok e.playthrough := by
  obtain ⟨seen, c', j', v', hseen, hlength, hc', hj', hv', -, hplay⟩ := h
  obtain ⟨hc, hjournal⟩ := journal_eq_ok hj
  -- Both were read from the beginning of the stream that has this many events.
  have hsame : seen = streams.stream id := by
    have hlengths : seen.length = (streams.stream id).length := by
      rw [hlength, hversion, version_of_journal hj]
    exact (List.prefix_of_prefix_length_le hseen (hstreams id) hlengths.le).eq_of_length hlengths
  rw [hsame, hc] at hc'
  cases hc'
  rw [hjournal] at hj'
  cases hj'
  rw [hlibrary _ _ hv] at hv'
  cases hv'
  exact hplay

end Store

/-! ## Queries -/

/-- How far a query has come. -/
inductive Stage where
  | asked
  | read (c : Campaign) (j : Journal)
  | found (c : Campaign) (j : Journal) (v : Volume)
  /-- The cache did not have the outcome, and does not have this one yet. -/
  | played (c : Campaign) (j : Journal) (v : Volume) (p : Playthrough)
  | answered (result : Except Failure CampaignView)

structure Query where
  campaign : Uuid
  /-- The streams when it read the one of its campaign. -/
  streams : Streams
  /-- The library when it looked up the guide. -/
  library : Library
  stage : Stage

namespace Query

/-- What a query shows of an outcome. -/
def view (q : Query) (c : Campaign) (j : Journal) (v : Volume) (p : Playthrough) : CampaignView :=
  ⟨q.campaign, j.setup.name, j.setup.difficulty, c.version, v.fingerprint, p⟩

/-- What a query does at once, when it has its turn. -/
def next (streams : Streams) (library : Library) (cache : Cache) (q : Query) : Query × Cache :=
  match q.stage with
  | .asked =>
    match (Store.memory streams).journal q.campaign with
    | .ok (c, j) => (⟨q.campaign, streams, library, .read c j⟩, cache)
    | .error f => (⟨q.campaign, streams, library, .answered (.error f)⟩, cache)
  | .read c j =>
    match library.get? j.setup.guide with
    | some v => (⟨q.campaign, q.streams, library, .found c j v⟩, cache)
    | none =>
      (⟨q.campaign, q.streams, library, .answered (.error (.guideNotFound j.setup.guide))⟩, cache)
  | .found c j v =>
    match cache.find q.campaign c.version v.fingerprint with
    | some p => ({ q with stage := .answered (.ok (q.view c j v p)) }, cache)
    | none =>
      match v.guide.play j with
      | .ok p => ({ q with stage := .played c j v p }, cache)
      | .error i => ({ q with stage := .answered (.error (.incompatible i)) }, cache)
  | .played c j v p =>
    ({ q with stage := .answered (.ok (q.view c j v p)) },
      cache.store q.campaign c.version v.fingerprint p)
  | .answered _ => (q, cache)

end Query

/-- What is known at a stage: the query holds what it read and found, and its answer is the one that
an empty cache would have given. -/
def Stage.Sound (id : Uuid) (streams : Streams) (library : Library) : Stage → Prop
  | .asked => True
  | .read c j => (Store.memory streams).journal id = .ok (c, j)
  | .found c j v =>
    (Store.memory streams).journal id = .ok (c, j) ∧ library.get? j.setup.guide = some v
  | .played c j v p =>
    (Store.memory streams).journal id = .ok (c, j) ∧ library.get? j.setup.guide = some v ∧
      v.guide.play j = .ok p
  | .answered result => result = ((Store.memory streams).view library ∅ id).map Prod.fst

/-- What holds of a query at any time, when the streams and the library are `now` and `library`. -/
structure Query.Sound (now : Streams) (library : Library) (q : Query) : Prop where
  streams : q.streams.Grow now
  library : q.library.Grow library
  stage : q.stage.Sound q.campaign q.streams q.library

def Cache.Right (streams : Streams) (library : Library) (cache : Cache) : Prop :=
  ∀ id e, cache.get? id = some e → e.Right streams library id

theorem Cache.right_empty (streams : Streams) (library : Library) :
    Cache.Right streams library ∅ := fun _ _ h => by cases h

theorem Cache.Right.store {streams : Streams} {library : Library} {cache : Cache}
    (h : cache.Right streams library) {id : Uuid} {version : Nat} {fingerprint : String}
    {p : Playthrough} (hp : Cached.Right streams library id ⟨version, fingerprint, p⟩) :
    (cache.store id version fingerprint p).Right streams library := by
  intro id' e he
  rw [Cache.store, Dict.get?_insert] at he
  split at he
  next hid =>
      cases he
      rw [hid]
      exact hp
  next => exact h id' e he

theorem Cache.Right.of_find {streams : Streams} {library : Library} {cache : Cache}
    (h : cache.Right streams library) {id : Uuid} {version : Nat} {fingerprint : String}
    {p : Playthrough} (hp : cache.find id version fingerprint = some p) :
    Cached.Right streams library id ⟨version, fingerprint, p⟩ := by
  unfold Cache.find at hp
  split at hp
  next e he =>
      split at hp <;> cases hp
      next hkey =>
          obtain ⟨rfl, rfl⟩ := hkey
          exact h id e he
  next => cases hp

/-- The answer from an empty cache, once the stream is read and the guide is found. -/
theorem Store.view_of_found {streams : Streams} {library : Library} {id : Uuid} {c : Campaign}
    {j : Journal} {v : Volume} (hj : (memory streams).journal id = .ok (c, j))
    (hv : library.get? j.setup.guide = some v) :
    ((memory streams).view library ∅ id).map Prod.fst = match v.guide.play j with
      | .ok p => .ok ⟨id, j.setup.name, j.setup.difficulty, c.version, v.fingerprint, p⟩
      | .error i => .error (.incompatible i) := by
  rw [view_eq_of_journal hj hv, outcome]
  cases v.guide.play j <;> rfl

/-- The version of a view counts the events that were read, and the outcome is right. -/
theorem Store.right_of_view {streams : Streams} {library : Library} {id : Uuid}
    {v : CampaignView} (h : ((memory streams).view library ∅ id).map Prod.fst = .ok v) :
    v.version = (streams.stream id).length ∧
      v.outcome.Right streams library id := by
  cases hj : (memory streams).journal id with
  | error f =>
      rw [view, hj] at h
      cases h
  | ok found =>
      obtain ⟨c, j⟩ := found
      cases hv : library.get? j.setup.guide with
      | none =>
          rw [view, hj] at h
          simp only [bind, Except.bind, hv] at h
          cases h
      | some vol =>
          rw [view_of_found hj hv] at h
          cases hplay : vol.guide.play j with
          | error i =>
              rw [hplay] at h
              cases h
          | ok p =>
              rw [hplay] at h
              cases h
              exact ⟨version_of_journal hj, right_of_play hj hv hplay⟩

namespace Query

variable {streams : Streams} {library : Library} {cache : Cache} {q : Query}

theorem Sound.grow (h : q.Sound streams library) {grown : Streams} {more : Library}
    (hstreams : streams.Grow grown) (hlibrary : library.Grow more) : q.Sound grown more where
  streams := h.streams.trans hstreams
  library := h.library.trans hlibrary
  stage := h.stage

/-- **A turn keeps queries sound and the cache right.** -/
theorem Sound.next (h : q.Sound streams library) (hcache : cache.Right streams library) :
    (q.next streams library cache).1.Sound streams library ∧
      (q.next streams library cache).2.Right streams library := by
  obtain ⟨id, read, looked, stage⟩ := q
  obtain ⟨hread, hlooked, hstage⟩ := h
  cases stage with
  | asked =>
      simp only [Query.next]
      cases hj : (Store.memory streams).journal id with
      | ok found => exact ⟨⟨.refl _, .refl _, hj⟩, hcache⟩
      | error f =>
          refine ⟨⟨.refl _, .refl _, ?_⟩, hcache⟩
          show _ = _
          rw [Store.view, hj]
          rfl
  | read c j =>
      simp only [Query.next]
      cases hv : library.get? j.setup.guide with
      | some v => exact ⟨⟨hread, .refl _, hstage, hv⟩, hcache⟩
      | none =>
          refine ⟨⟨hread, .refl _, ?_⟩, hcache⟩
          show _ = _
          rw [Store.view, hstage]
          simp only [bind, Except.bind, hv]
          rfl
  | found c j v =>
      obtain ⟨hj, hv⟩ := hstage
      simp only [Query.next]
      have hanswer := Store.view_of_found hj hv
      cases hfind : cache.find id c.version v.fingerprint with
      | some p =>
          have hplay := Store.play_of_right hj hv hread hlooked (hcache.of_find hfind) rfl
          rw [hplay] at hanswer
          exact ⟨⟨hread, hlooked, hanswer.symm⟩, hcache⟩
      | none =>
          cases hplay : v.guide.play j with
          | ok p => exact ⟨⟨hread, hlooked, hj, hv, hplay⟩, hcache⟩
          | error i =>
              rw [hplay] at hanswer
              exact ⟨⟨hread, hlooked, hanswer.symm⟩, hcache⟩
  | played c j v p =>
      obtain ⟨hj, hv, hplay⟩ := hstage
      have hanswer := Store.view_of_found hj hv
      rw [hplay] at hanswer
      have hright := (Store.right_of_play hj hv hplay).grow hread hlooked
      exact ⟨⟨hread, hlooked, hanswer.symm⟩, hcache.store hright⟩
  | answered result => exact ⟨⟨hread, hlooked, hstage⟩, hcache⟩

theorem Sound.answered (h : q.Sound streams library) {result : Except Failure CampaignView}
    (hresult : q.stage = .answered result) :
    result = ((Store.memory q.streams).view q.library ∅ q.campaign).map Prod.fst ∧
      ∀ v, result = .ok v → v.version = (q.streams.stream q.campaign).length ∧
        q.streams.stream q.campaign <+: streams.stream q.campaign ∧
        v.outcome.Right streams library q.campaign := by
  have hanswer := h.stage
  rw [hresult] at hanswer
  refine ⟨hanswer, fun v hv => ?_⟩
  obtain ⟨hversion, hright⟩ := Store.right_of_view (hanswer.symm.trans hv)
  exact ⟨hversion, h.streams q.campaign, hright.grow h.streams h.library⟩

end Query

/-! ## Services -/

/-- A store and the handlers at work on it, a library and a cache, and the queries. -/
structure Service where
  system : System
  library : Library
  cache : Cache
  queries : List Query

namespace Service

/-- A service with an empty cache, before anything is asked of it. -/
def start (streams : Streams) (library : Library) : Service := ⟨⟨streams, [], []⟩, library, ∅, []⟩

inductive Step : Service → Service → Prop where
  /-- A command handler has its turn. -/
  | handle {s : Service} {system : System} (step : System.Step s.system system) :
      Step s { s with system }
  /-- Events of any kind are appended to a stream. -/
  | append {s : Service} {id : Uuid} {expected : Int} {es : List Stored} {grown : Streams}
      (appended : s.system.streams.append id expected es = .ok grown) :
      Step s { s with system := { s.system with streams := grown } }
  | add {s : Service} {g : Guide} {library : Library} (added : s.library.add g = .ok library) :
      Step s { s with library }
  | ask {s : Service} (id : Uuid) :
      Step s { s with queries := s.queries ++ [⟨id, s.system.streams, s.library, .asked⟩] }
  /-- A query has its turn. -/
  | query {s : Service} (before : List Query) (q : Query) (after : List Query)
      (among : s.queries = before ++ q :: after) :
      Step s { s with
        cache := (q.next s.system.streams s.library s.cache).2
        queries := before ++ (q.next s.system.streams s.library s.cache).1 :: after }

/-- What may have become of a service. -/
def Reachable (streams : Streams) (library : Library) (s : Service) : Prop :=
  ReflTransGen Step (start streams library) s

/-- What holds of every reachable state. -/
structure Sound (s : Service) : Prop where
  cache : s.cache.Right s.system.streams s.library
  queries : ∀ q ∈ s.queries, q.Sound s.system.streams s.library

theorem sound_start (streams : Streams) (library : Library) : Sound (start streams library) where
  cache := Cache.right_empty streams library
  queries := fun _ h => by cases h

theorem Sound.grow {s t : Service} (h : Sound s) (hstreams : s.system.streams.Grow t.system.streams)
    (hlibrary : s.library.Grow t.library) (hcache : t.cache = s.cache)
    (hqueries : t.queries = s.queries) : Sound t where
  cache := fun id e he => (h.cache id e (hcache ▸ he)).grow hstreams hlibrary
  queries := fun q hq => (h.queries q (hqueries ▸ hq)).grow hstreams hlibrary

theorem Sound.step {s t : Service} (h : Sound s) (hstep : Step s t) : Sound t := by
  cases hstep with
  | handle step => exact h.grow step.grow (.refl _) rfl rfl
  | append appended => exact h.grow (Streams.grow_append appended) (.refl _) rfl rfl
  | add added => exact h.grow (.refl _) (Library.grow_add added) rfl rfl
  | ask id =>
      refine ⟨h.cache, List.forall_mem_append.mpr ⟨h.queries, List.forall_mem_singleton.mpr ?_⟩⟩
      exact ⟨.refl _, .refl _, trivial⟩
  | query before q after among =>
      have hqueries := h.queries
      rw [among, List.forall_mem_append, List.forall_mem_cons] at hqueries
      obtain ⟨hbefore, hq, hafter⟩ := hqueries
      obtain ⟨hnext, hcache⟩ := hq.next h.cache
      exact ⟨hcache, List.forall_mem_append.mpr ⟨hbefore, List.forall_mem_cons.mpr ⟨hnext, hafter⟩⟩⟩

theorem Reachable.sound {streams : Streams} {library : Library} {s : Service}
    (h : Reachable streams library s) : Sound s := by
  induction h with
  | refl => exact sound_start streams library
  | tail _ hstep ih => exact ih.step hstep

/-! ### Undisturbed queries -/

/-- The service after a query that nothing came in between of. -/
def asked (s : Service) (id : Uuid) : Service :=
  match (Store.memory s.system.streams).view s.library s.cache id with
  | .ok (v, cache) => { s with
      cache
      queries := s.queries ++ [⟨id, s.system.streams, s.library, .answered (.ok v)⟩] }
  | .error f => { s with
      queries := s.queries ++ [⟨id, s.system.streams, s.library, .answered (.error f)⟩] }

/-- The turn of the query that was asked last. -/
theorem step_last {s : Service} {before : List Query} {q : Query}
    (h : s.queries = before ++ [q]) {q' : Query} {cache : Cache}
    (hnext : q.next s.system.streams s.library s.cache = (q', cache)) :
    Step s { s with cache, queries := before ++ [q'] } := by
  have hstep := Step.query before q [] h
  rwa [hnext] at hstep

/-- A query whose turns all come one after the other. -/
theorem steps_asked (s : Service) (id : Uuid) : ReflTransGen Step s (s.asked id) := by
  have hask : ReflTransGen Step s _ := .single (.ask id)
  unfold asked
  cases hj : (Store.memory s.system.streams).journal id with
  | error f =>
      rw [Store.view, hj]
      exact hask.tail (step_last rfl (by simp only [Query.next, hj]))
  | ok found =>
      obtain ⟨c, j⟩ := found
      have hread := hask.tail (step_last rfl (by simp only [Query.next, hj]; rfl))
      cases hv : s.library.get? j.setup.guide with
      | none =>
          rw [Store.view, hj]
          simp only [bind, Except.bind, hv]
          exact hread.tail (step_last rfl (by simp only [Query.next, hv]))
      | some v =>
          rw [Store.view_eq_of_journal hj hv, Store.outcome]
          have hfound := hread.tail (step_last rfl (by simp only [Query.next, hv]; rfl))
          cases hfind : s.cache.find id c.version v.fingerprint with
          | some p => exact hfound.tail (step_last rfl (by simp only [Query.next, hfind]; rfl))
          | none =>
              cases hplay : v.guide.play j with
              | error i =>
                  exact hfound.tail (step_last rfl (by simp only [Query.next, hfind, hplay]))
              | ok p =>
                  have hplayed := hfound.tail
                    (step_last rfl (by simp only [Query.next, hfind, hplay]; rfl))
                  exact hplayed.tail (step_last rfl rfl)

/-- What a query is answered that nothing comes in between of. -/
def answer (s : Service) (cache : Cache) (id : Uuid) : Except Failure CampaignView :=
  ((Store.memory s.system.streams).view s.library cache id).map Prod.fst

theorem queries_asked (s : Service) (id : Uuid) :
    (s.asked id).queries =
      s.queries ++ [⟨id, s.system.streams, s.library, .answered (s.answer s.cache id)⟩] := by
  unfold asked answer
  cases (Store.memory s.system.streams).view s.library s.cache id <;> rfl

/-- **The cache is not noticed.** A store, a library and an empty cache are given, and handlers,
appends of any events, additions to the library and queries have their turns in any order. A query
that nothing comes in between of is answered as with an empty cache. So is every other one, for the
streams that it read and the library that it looked the guide up in. Where a campaign is shown, its
version is the number of the events that were read, which are still the first of the stream, and
playing these with the guide that is still in the library gives what is shown. -/
theorem cache_unnoticed {streams : Streams} {library : Library} (s : Service)
    (h : Reachable streams library s) :
    (∀ id, Reachable streams library (s.asked id) ∧ s.answer s.cache id = s.answer ∅ id ∧
      ∀ v, s.answer s.cache id = .ok v → v.version = (s.system.streams.stream id).length ∧
        v.outcome.Right s.system.streams s.library id) ∧
    ∀ q ∈ s.queries, ∀ result, q.stage = .answered result →
      result = ((Store.memory q.streams).view q.library ∅ q.campaign).map Prod.fst ∧
        ∀ v, result = .ok v → v.version = (q.streams.stream q.campaign).length ∧
          q.streams.stream q.campaign <+: s.system.streams.stream q.campaign ∧
          v.outcome.Right s.system.streams s.library q.campaign := by
  refine ⟨fun id => ?_, fun q hq result hresult => (h.sound.queries q hq).answered hresult⟩
  have hasked : Reachable streams library (s.asked id) := h.trans (steps_asked s id)
  have hqueries := hasked.sound.queries
  rw [queries_asked] at hqueries
  have hquery := hqueries _ (List.mem_append_right _ List.mem_cons_self)
  obtain ⟨hsame, -⟩ := hquery.answered rfl
  refine ⟨hasked, hsame, fun v hv => Store.right_of_view (hsame.symm.trans hv)⟩

open Sample

/-- The leaflet is played once, and the second query finds the outcome. -/
theorem cache_unnoticed_of_leaflet :
    ∃ s, Reachable leafletStreams (leaflets 1) s ∧
      (s.cache.find (.ofNat 10) 1 (leaflet 1).fingerprint).isSome = true ∧
      s.answer s.cache (.ofNat 10) = s.answer ∅ (.ofNat 10) ∧
      ∃ v, s.answer s.cache (.ofNat 10) = .ok v ∧ v.version = 1 := by
  let v : Volume := ⟨leaflet 1, (leaflet 1).fingerprint⟩
  obtain ⟨p, hp⟩ : ∃ p, v.guide.play (.new leafletSetup) = .ok p := ⟨_, rfl⟩
  let shown : CampaignView := ⟨.ofNat 10, "Leaflet", .standard, 1, v.fingerprint, p⟩
  have hempty : Cache.find ∅ (.ofNat 10) 1 v.fingerprint = none := rfl
  have hfind : Cache.find (Cache.store ∅ (.ofNat 10) 1 v.fingerprint p) (.ofNat 10) 1
      v.fingerprint = some p := by
    simp [Cache.find, Cache.store]
  have hview : (Store.memory leafletStreams).view (leaflets 1) ∅ (.ofNat 10) =
      .ok (shown, Cache.store ∅ (.ofNat 10) 1 v.fingerprint p) := by
    rw [Store.view_eq_of_journal journal_leafletStreams (v := v) rfl, Store.outcome]
    simp only [Campaign.version_ofEvents, List.length_singleton, hempty, hp]
    rfl
  have hreach : Reachable leafletStreams (leaflets 1)
      ((start leafletStreams (leaflets 1)).asked (.ofNat 10)) := steps_asked _ _
  have hasked : (start leafletStreams (leaflets 1)).asked (.ofNat 10) =
      ⟨⟨leafletStreams, [], []⟩, leaflets 1, Cache.store ∅ (.ofNat 10) 1 v.fingerprint p,
        [⟨.ofNat 10, leafletStreams, leaflets 1, .answered (.ok shown)⟩]⟩ := by
    simp only [asked, start, hview, List.nil_append]
  rw [hasked] at hreach
  obtain ⟨-, hsame, -⟩ := (cache_unnoticed _ hreach).1 (.ofNat 10)
  refine ⟨_, hreach, by rw [hfind]; rfl, hsame, shown, hsame.trans ?_, rfl⟩
  exact congrArg (Except.map Prod.fst) hview

end Service

end Chronicle
