import Chronicle.Proofs.Service.Requests
import Chronicle.Sample.Evening
import Chronicle.Service.Query

/-!
# Reading what was created

A campaign is created against the version that its guide has at that time, and what is settled then
stays settled. So a later reading finds the campaign and its guide, whatever was asked for in
between. The campaign can be played if its guide still accepts its own version. Loading does not
ask for this: a guide may say that it plays campaigns of later versions only.
-/

namespace Chronicle

open Campaign

/-! ## Libraries -/

/-- The libraries of guides that were read from documents. -/
inductive Library.Loaded : Library → Prop where
  | empty : Loaded ∅
  | add {l grown : Library} {g : Guide} {source : String} (before : Loaded l)
      (read : Guide.ofJsonText source = .ok g ∨ Guide.ofYamlText source = .ok g)
      (added : l.add g = .ok grown) : Loaded grown

/-- A library holds each guide under its own id. -/
theorem Library.Loaded.id_eq {l : Library} (h : Loaded l) {id : GuideId} {v : Volume}
    (hv : l.get? id = some v) : v.guide.id = id := by
  induction h with
  | empty => cases hv
  | @add l grown g source before read added ih =>
      unfold Library.add at added
      split at added
      · cases added
      · cases added
        rw [Dict.get?_insert] at hv
        split at hv
        next hid =>
            cases hv
            exact hid.symm
        next => exact ih hv

/-- A campaign of a guide's own version can be played if the guide accepts this version. -/
theorem Guide.incompatibility?_of_own (g : Guide) (setup : Setup) (hguide : setup.guide = g.id)
    (hversion : setup.guideVersion = g.version) :
    g.incompatibility? setup = if g.minVersion ≤ g.version then none
      else some (.otherVersion g.id g.version g.minVersion g.version) := by
  unfold incompatibility? acceptsVersion
  rw [hguide, hversion]
  by_cases h : g.minVersion ≤ g.version <;> simp [h]

namespace Store

variable {streams : Streams} {r : Request} {receipt : Receipt} {st : Store}

/-! ## Views -/

theorem journal_eq_of_storedAs {id : Uuid} {events : List Event}
    (hs : StoredAs id (streams.stream id) events) {j : Journal}
    (hj : (ofEvents id events).journal = some j) :
    (memory streams).journal id = .ok (ofEvents id events, j) := by
  have hne : events ≠ [] := fun hnil => by
    rw [hnil] at hj
    cases hj
  unfold journal
  rw [campaign_eq_of_storedAs hs hne]
  simp only [hj]

theorem view_eq_of_journal {library : Library} {id : Uuid} {c : Campaign} {j : Journal}
    (hj : st.journal id = .ok (c, j)) {v : Volume} (hv : library.get? j.setup.guide = some v)
    (cache : Cache) :
    st.view library cache id = (outcome cache id c.version v j).map fun (p, cache) =>
      (⟨id, j.setup.name, j.setup.difficulty, c.version, v.fingerprint, p⟩, cache) := by
  unfold view
  rw [hj]
  simp only [bind, Except.bind, hv]
  cases outcome cache id c.version v j <;> rfl

theorem exists_outcome (cache : Cache) (id : Uuid) (version : Nat) {v : Volume} {j : Journal}
    (h : v.guide.incompatibility? j.setup = none) :
    ∃ shown, outcome cache id version v j = .ok shown := by
  unfold outcome Guide.play
  rw [h]
  cases cache.find id version v.fingerprint with
  | some p => exact ⟨(p, cache), rfl⟩
  | none => exact ⟨_, rfl⟩

/-- Of a guide that does not fit, only what the cache has is shown. -/
theorem outcome_eq_elim (cache : Cache) (id : Uuid) (version : Nat) {v : Volume} {j : Journal}
    {i : Incompatibility} (h : v.guide.incompatibility? j.setup = some i) :
    outcome cache id version v j =
      (cache.find id version v.fingerprint).elim (.error (.incompatible i)) fun p =>
        .ok (p, cache) := by
  unfold outcome Guide.play
  rw [h]
  cases cache.find id version v.fingerprint <;> rfl

theorem outcome_eq_error {cache : Cache} {id : Uuid} (hcache : cache.get? id = none)
    (version : Nat) {v : Volume} {j : Journal} {i : Incompatibility}
    (h : v.guide.incompatibility? j.setup = some i) :
    outcome cache id version v j = .error (.incompatible i) := by
  have hmiss : cache.find id version v.fingerprint = none := by
    rw [Cache.find, hcache]
  rw [outcome_eq_elim cache id version h, hmiss, Option.elim_none]

/-! ## Creation -/

/-- What the creation of a campaign stores. -/
theorem storedAs_of_create {name : String} {guide : GuideId} {difficulty : Difficulty}
    {investigators : List Investigator}
    (hr : r.command = .create name guide difficulty investigators)
    (hnumbered : Numbered (streams.stream r.supply.id.1))
    (h : (memory streams).served r = .ok (receipt, st)) :
    ∃ g grown, r.library.guide? guide = some g ∧ st = memory grown ∧
      StoredAs receipt.campaign (grown.stream receipt.campaign)
        [.created receipt.campaign ⟨name, g.id, g.version, difficulty, investigators⟩] := by
  cases hg : r.library.guide? guide with
  | none =>
      have hplan : r.plan = .error (.guideNotFound guide) := by
        unfold Request.plan
        rw [hr]
        simp only [hg]
      rw [served_eq_bind_draft, draft, hplan] at h
      cases h
  | some g =>
      have hplan : r.plan = .ok (r.supply.id.1, (r.supply.id.2.stamp r.correlation).1,
          .create ⟨name, g.id, g.version, difficulty, investigators⟩) := by
        unfold Request.plan
        rw [hr]
        simp only [hg]
      obtain ⟨hid, base, c, hbasis, hperform, happend⟩ := served_of_plan hplan h
      cases hbasis
      have hmade := perform_create_iff.mp hperform
      obtain ⟨hhead, rfl⟩ := happend _ hmade.2.2
      have hnil : streams.stream r.supply.id.1 = [] := by
        rw [hnumbered.head_eq_length] at hhead
        exact List.length_eq_zero_iff.mp (Int.natCast_inj.mp hhead)
      refine ⟨g, _, rfl, rfl, ?_⟩
      rw [hid, Streams.stream_insert, if_pos rfl, hnil]
      exact (StoredAs.nil _).concat ⟨rfl, rfl, hmade.2.1⟩ rfl

/-- **What was created can be read, as far as its guide accepts its own version.** A campaign is
created with a guide of a library whose guides were read from documents, in a store in which no
events that are not numbered from one stand under the new id. Whatever is asked for afterwards, the
campaign is read with the same library: with any cache the reading succeeds, or it fails because the
guide does not accept its own version. If the guide accepts it the reading succeeds with any cache,
and otherwise it fails unless the cache knows the campaign. -/
theorem view_after_create {library : Library} (hloaded : library.Loaded)
    (hlibrary : r.library = library) {name : String} {guide : GuideId} {difficulty : Difficulty}
    {investigators : List Investigator}
    (hcommand : r.command = .create name guide difficulty investigators)
    (hnumbered : Numbered (streams.stream r.supply.id.1))
    (haccepted : (memory streams).served r = .ok (receipt, st)) (later : List Request) :
    ∃ g, library.guide? guide = some g ∧
      (∀ cache, (∃ shown, (st.run later).view library cache receipt.campaign = .ok shown) ∨
        (st.run later).view library cache receipt.campaign = .error (.incompatible
          (.otherVersion g.id g.version g.minVersion g.version))) ∧
      (g.minVersion ≤ g.version → ∀ cache, ∃ shown,
        (st.run later).view library cache receipt.campaign = .ok shown) ∧
      (g.version < g.minVersion → ∀ cache : Cache, cache.get? receipt.campaign = none →
        (st.run later).view library cache receipt.campaign = .error (.incompatible
          (.otherVersion g.id g.version g.minVersion g.version))) := by
  subst hlibrary
  obtain ⟨g, created, hg, rfl, hs⟩ := storedAs_of_create hcommand hnumbered haccepted
  obtain ⟨grown, more, hrun, hs⟩ := storedAs_run hs later
  obtain ⟨j, hj, hsetup⟩ := hs.history.exists_journal
  obtain ⟨v, hv, rfl⟩ := Option.map_eq_some_iff.mp hg
  have hid : v.guide.id = guide := hloaded.id_eq hv
  have hshelf : r.library.get? j.setup.guide = some v := by rw [hsetup, hid, hv]
  have hread := view_eq_of_journal (journal_eq_of_storedAs hs hj) hshelf
  have hfits := v.guide.incompatibility?_of_own j.setup (by rw [hsetup]) (by rw [hsetup])
  rw [hrun]
  by_cases hle : v.guide.minVersion ≤ v.guide.version
  · rw [if_pos hle] at hfits
    have hshown : ∀ cache, ∃ shown,
        (memory grown).view r.library cache receipt.campaign = .ok shown := by
      intro cache
      obtain ⟨shown, hshown⟩ := exists_outcome cache receipt.campaign
        (ofEvents receipt.campaign _).version hfits
      rw [hread, hshown]
      exact ⟨_, rfl⟩
    exact ⟨v.guide, hg, fun cache => Or.inl (hshown cache), fun _ => hshown,
      fun hlt => absurd hle (by simpa using hlt)⟩
  · rw [if_neg hle] at hfits
    refine ⟨v.guide, hg, fun cache => ?_, fun hle' => absurd hle' hle, fun _ cache hcache => ?_⟩
    · rw [hread, outcome_eq_elim cache _ _ hfits]
      cases cache.find receipt.campaign _ v.fingerprint with
      | some p => exact Or.inl ⟨_, rfl⟩
      | none => exact Or.inr rfl
    · rw [hread, outcome_eq_error hcache _ hfits]
      rfl

end Store

/-! ## A leaflet -/

namespace Sample

/-- The document of a guide of version 1 that plays campaigns from version `oldest` on. -/
def leafletText (oldest : String) : String :=
  "\x7b\"id\":\"leaflet\",\"name\":\"Leaflet\",\"version\":1,\"min_compatible_version\":" ++ oldest
    ++ ",\"scenarios\":[]\x7d"

def leaflet (oldest : UInt32) : Guide := ⟨"leaflet", "Leaflet", 1, oldest, [], [], [], .empty⟩

def leaflets (oldest : UInt32) : Library :=
  ⟨[("leaflet", ⟨leaflet oldest, (leaflet oldest).fingerprint⟩)], by simp⟩

def leafletSetup : Setup :=
  ⟨"Leaflet", "leaflet", 1, .standard, arkhamNights.investigators⟩

def creatingLeaflet (oldest : UInt32) : Request where
  library := leaflets oldest
  correlation := .nil
  supply := ⟨10, tenSharp, 1⟩
  command := .create "Leaflet" "leaflet" .standard arkhamNights.investigators

/-- What the creation stores. -/
def leafletStored : Stored :=
  (⟨.created (.ofNat 10) leafletSetup, .ofNat 10, 1, ⟨.ofNat 11, .nil, tenSharp⟩⟩ : Raised).toStored

def leafletStreams : Streams := ⟨[(.ofNat 10, [leafletStored])], by simp⟩

theorem read_leaflet :
    (Guide.ofJsonText (leafletText "1")).toOption = some (leaflet 1) ∧
      (Guide.ofJsonText (leafletText "2")).toOption = some (leaflet 2) := by
  decide +kernel

theorem eq_ok_of_toOption {ε α : Type} {x : Except ε α} {a : α} (h : x.toOption = some a) :
    x = .ok a := by
  cases x with
  | error e => cases h
  | ok b =>
      cases h
      rfl

theorem loaded_leaflets {text : String} {oldest : UInt32}
    (h : (Guide.ofJsonText text).toOption = some (leaflet oldest)) : (leaflets oldest).Loaded :=
  .add .empty (Or.inl (eq_ok_of_toOption h)) rfl

theorem served_creatingLeaflet (oldest : UInt32) :
    (Store.memory ∅).served (creatingLeaflet oldest) =
      .ok (⟨.ofNat 10, [leafletStored]⟩, .memory leafletStreams) := by
  have hplan : (creatingLeaflet oldest).plan =
      .ok (.ofNat 10, ⟨.ofNat 11, .nil, tenSharp⟩, .create leafletSetup) := by
    rfl
  have hperform : (Campaign.new (.ofNat 10)).perform ⟨.ofNat 11, .nil, tenSharp⟩
      (.create leafletSetup) = .ok ((Campaign.new (.ofNat 10)).raise ⟨.ofNat 11, .nil, tenSharp⟩
        (.created (.ofNat 10) leafletSetup)) :=
    perform_create_iff.mpr ⟨rfl, by decide, rfl⟩
  rw [Store.served_eq_persist hplan rfl hperform, Store.persist_raise rfl]
  rfl

theorem journal_leafletStreams :
    (Store.memory leafletStreams).journal (.ofNat 10) =
      .ok (ofEvents (.ofNat 10) [.created (.ofNat 10) leafletSetup], .new leafletSetup) := by
  refine Store.journal_eq_of_storedAs ?_ rfl
  exact (StoredAs.nil _).concat ⟨rfl, rfl, rfl⟩ rfl

end Sample

namespace Store

open Sample

theorem view_after_create_of_leaflet :
    (leaflets 1).Loaded ∧ Numbered (Streams.stream ∅ (.ofNat 10)) ∧
      (Store.memory ∅).served (creatingLeaflet 1) =
        .ok (⟨.ofNat 10, [leafletStored]⟩, .memory leafletStreams) ∧
      ∃ shown, ((Store.memory leafletStreams).run [creatingLeaflet 1]).view (leaflets 1) ∅
        (.ofNat 10) = .ok shown := by
  have hloaded := loaded_leaflets read_leaflet.1
  have hnumbered : Numbered (Streams.stream ∅ (.ofNat 10)) := fun _ _ h => by cases h
  obtain ⟨g, hg, -, hread, -⟩ := view_after_create hloaded rfl rfl hnumbered
    (served_creatingLeaflet 1) [creatingLeaflet 1]
  cases hg
  exact ⟨hloaded, hnumbered, served_creatingLeaflet 1, hread (by decide) ∅⟩

/-- A leaflet for later versions only can be loaded, and a campaign created with it, but the
campaign cannot be read. -/
theorem unreadable_after_create :
    (leaflets 2).Loaded ∧
      (Store.memory ∅).served (creatingLeaflet 2) =
        .ok (⟨.ofNat 10, [leafletStored]⟩, .memory leafletStreams) ∧
      (Store.memory leafletStreams).view (leaflets 2) ∅ (.ofNat 10) =
        .error (.incompatible (.otherVersion "leaflet" 1 2 1)) := by
  refine ⟨loaded_leaflets read_leaflet.2, served_creatingLeaflet 2, ?_⟩
  rw [view_eq_of_journal journal_leafletStreams (v := ⟨leaflet 2, (leaflet 2).fingerprint⟩) rfl,
    outcome_eq_error rfl _ (i := .otherVersion "leaflet" 1 2 1) (by decide)]
  rfl

end Store
end Chronicle
