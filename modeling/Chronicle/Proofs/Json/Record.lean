import Chronicle.Proofs.Json.Codec

/-!
# Records that lose nothing

An object that names each field of a record once is read field by field: what is written there is
what a field shows, and a field left out is what stands for it. A record with an inlined part hands
the other members on to that part, a tagged record those beside the tag.
-/

namespace Chronicle.Json

/-! ## Members -/

section Members

variable {names : List String} {role : Document → Role}
  (hrole : ∀ s, role (.str s) = if s ∈ names then .field s else .other)

include hrole

theorem lookup_fieldMembers {name : String} (hname : name ∈ names) (place : Nat)
    (members : List (String × Json)) :
    ((fieldMembers role place (Document.ofMembers members)).lookup name).map Prod.snd =
      (members.lookup name).map Document.ofJson := by
  induction members generalizing place with
  | nil => rfl
  | cons m rest ih =>
      obtain ⟨k, j⟩ := m
      rw [Document.ofMembers, fieldMembers, hrole]
      by_cases hk : name = k
      · subst hk
        simp [hname]
      · have hbeq : (name == k) = false := beq_false_of_ne hk
        rw [List.lookup_cons, hbeq]
        split
        next heq =>
            split at heq
            · cases heq
              rw [List.lookup_cons, hbeq]
              exact ih _
            · cases heq
        next => exact ih _

theorem firstFlaw?_eq_none {pass : Document → Reading Unit} {members : List (String × Json)}
    (hnodup : (members.map Prod.fst).Nodup)
    (hpass : ∀ m ∈ members, m.1 ∉ names → pass (.ofJson m.2) = .ok ()) {seen : List String}
    (hseen : ∀ m ∈ members, m.1 ∉ seen) (place : Nat) :
    firstFlaw? role pass seen place (Document.ofMembers members) = none := by
  induction members generalizing seen place with
  | nil => rfl
  | cons m rest ih =>
      obtain ⟨k, j⟩ := m
      obtain ⟨hk, hnodup⟩ := List.nodup_cons.mp hnodup
      obtain ⟨hpassk, hpass⟩ := List.forall_mem_cons.mp hpass
      obtain ⟨hseenk, hseen⟩ := List.forall_mem_cons.mp hseen
      rw [Document.ofMembers, firstFlaw?, hrole]
      by_cases hmem : k ∈ names
      · have hnot : seen.contains k = false := by simpa using hseenk
        simp only [hmem, if_true, hnot]
        refine ih hnodup hpass (fun m hm hin => ?_) _
        rcases List.mem_cons.mp hin with heq | hin
        · exact hk (List.mem_map.mpr ⟨m, hm, heq⟩)
        · exact hseen m hm hin
      · simp only [hmem, if_false, hpassk hmem]
        exact ih hnodup hpass hseen _

theorem filter_isOther (members : List (String × Json)) :
    (Document.ofMembers members).filter (isOther role) =
      Document.ofMembers (members.filter (·.1 ∉ names)) := by
  induction members with
  | nil => rfl
  | cons m rest ih =>
      obtain ⟨k, j⟩ := m
      by_cases hk : k ∈ names
      · simp [Document.ofMembers, isOther, hrole, hk, ih]
      · simp [Document.ofMembers, isOther, hrole, hk, ih]

end Members

theorem role_str (o : Origin) (names : List String) (s : String) :
    role o names (.str s) = if s ∈ names then .field s else .other := by
  simp [role, Document.str]

theorem inlinedRole_str (o : Origin) (names : List String) (s : String) :
    inlinedRole o names (.str s) = if s ∈ names then .field s else .other := by
  rw [← role_str o]
  cases o <;> rfl

/-! ## Fields -/

namespace Fields

/-- The fields with some names are those of the members of an object. -/
structure Shows (f : Fields) (o : Origin) (names : List String)
    (members : List (String × Json)) : Prop where
  origin : f.origin = o.inner
  sound : f.flaw? = none
  named : f.positional = false
  find {name : String} (h : name ∈ names) :
    (f.find name).map Prod.snd = (members.lookup name).map Document.ofJson
  holds {name : String} {j : Json} (h : members.lookup name = some j) :
    o.inner.Holds (.ofJson j)

namespace Shows

variable {f : Fields} {o : Origin} {names : List String} {members : List (String × Json)}
  {α : Type} [Codec α] [LawfulCodec α] {name : String} {absent : Reading α}

omit [Codec α] [LawfulCodec α] in
theorem get_of_lookup (h : f.Shows o names members) (hname : name ∈ names)
    {read : Origin → Document → Reading α} {j : Json} (hj : members.lookup name = some j) {a : α}
    (hread : read o.inner (.ofJson j) = .ok a) : f.get name read absent = .ok a := by
  have hfind := h.find hname
  rw [hj] at hfind
  obtain ⟨⟨place, d⟩, hp, hd⟩ := Option.map_eq_some_iff.mp hfind
  simp only at hd
  rw [get, hp]
  simp only [h.origin, hd, hread]
  rfl

theorem get_present (h : f.Shows o names members) (hname : name ∈ names) {a : α}
    (ha : members.lookup name = some (encode a)) : f.get name decode absent = .ok a :=
  h.get_of_lookup hname ha (decode_encode a _ (h.holds ha))

omit [LawfulCodec α] in
theorem get_absent (h : f.Shows o names members) (hname : name ∈ names) {a : α}
    (ha : members.lookup name = none) : f.get name decode (.ok a) = .ok a := by
  have hfind := h.find hname
  rw [ha, Option.map_none, Option.map_eq_none_iff] at hfind
  rw [get, hfind]
  rfl

theorem need (h : f.Shows o names members) (hname : name ∈ names) {a : α}
    (ha : members.lookup name = some (encode a)) : f.need name = .ok a :=
  h.get_present hname ha

theorem orElse (h : f.Shows o names members) (hname : name ∈ names) {a default : α}
    (ha : members.lookup name = some (encode a)) : f.orElse name default = .ok a :=
  h.get_present hname ha

/-- An option that is written only when there is a value. -/
theorem get_optional [NeverNull α] (h : f.Shows o names members) (hname : name ∈ names)
    {a : Option α} (ha : members.lookup name = a.map encode) :
    f.get name decode (.ok none) = .ok a := by
  cases a with
  | none => exact h.get_absent hname ha
  | some a => exact h.get_present (a := some a) hname ha

theorem option [NeverNull α] (h : f.Shows o names members) (hname : name ∈ names)
    {a : Option α} (ha : members.lookup name = a.map encode) : f.option name = .ok a := by
  rw [Fields.option, h.named]
  exact h.get_optional hname ha

/-- An option that is written in any case, as null when there is no value. -/
theorem option_present [NeverNull α] (h : f.Shows o names members) (hname : name ∈ names)
    {a : Option α} (ha : members.lookup name = some (encode a)) : f.option name = .ok a := by
  rw [Fields.option, h.named]
  exact h.get_present hname ha

theorem orNone [NeverNull α] (h : f.Shows o names members) (hname : name ∈ names)
    {a : Option α} (ha : members.lookup name = a.map encode) : f.orElse name none = .ok a :=
  h.get_optional hname ha

/-- Nothing is wrong with the members, so what is read of the fields counts. -/
theorem close {β : Type} (h : f.Shows o names members) (b : β) : f.close (.ok b) = .ok b := by
  simp only [Fields.close, h.sound]

end Shows

/-- A part that can be read is there when all members have been read. -/
theorem afterwards_of_eq (f : Fields) {α : Type} {r : Reading α} {a : α} (h : r = .ok a) :
    f.afterwards r = .ok a := by
  rw [h]
  rfl

theorem shows_fieldMembers {o : Origin} {names : List String} {members : List (String × Json)}
    {role : Document → Role} (hrole : ∀ s, role (.str s) = if s ∈ names then .field s else .other)
    (hholds : o.Holds (.map (Document.ofMembers members))) (size : Nat) :
    Shows ⟨o.inner, fieldMembers role 0 (Document.ofMembers members), size, none, false⟩ o names
      members where
  origin := rfl
  sound := rfl
  named := rfl
  find hname := lookup_fieldMembers hrole hname 0 members
  holds {name j} h := by
    have hmem : (name, j) ∈ members := by
      obtain ⟨before, after, rfl, -⟩ := List.lookup_eq_some_iff.mp h
      simp
    rw [Document.ofMembers_eq_map] at hholds
    exact hholds.of_mem_map (List.mem_map_of_mem hmem)

end Fields

/-! ## Members that may be left out -/

section Optional

variable {α : Type} [Codec α]

theorem lookup_optional (name key : String) (a : Option α) :
    (Json.optional key a).lookup name = if name = key then a.map encode else none := by
  cases a with
  | none => simp [Json.optional]
  | some a =>
      by_cases h : name = key
      · simp [Json.optional, h]
      · simp [Json.optional, h]

theorem keys_optional (key : String) (a : Option α) :
    ((Json.optional key a).map Prod.fst).Sublist [key] := by
  cases a with
  | none => exact List.nil_sublist _
  | some a => exact List.Sublist.refl _

end Optional

/-! ## Kinds of records -/

section Kinds

variable {α : Type} {o : Origin} {names : List String} {members : List (String × Json)}

/-- The fields of an object that gives fields only, and each of them once. -/
theorem fields_members (hnodup : (members.map Prod.fst).Nodup)
    (hholds : o.Holds (.map (Document.ofMembers members))) (hnames : ∀ m ∈ members, m.1 ∈ names) :
    ∃ f : Fields, fields o names (.map (Document.ofMembers members)) = .ok f ∧
      f.Shows o names members := by
  have hflaw : firstFlaw? (role o names) skip [] 0 (Document.ofMembers members) = none := by
    refine firstFlaw?_eq_none (role_str o names) hnodup (fun m hm hnot => ?_)
      (fun _ _ => List.not_mem_nil) 0
    exact absurd (hnames m hm) hnot
  refine ⟨_, ?_, Fields.shows_fieldMembers (role_str o names) hholds members.length⟩
  rw [fields, hflaw, Document.ofMembers_eq_map, List.length_map]

/-- An object that gives fields only, and each of them once. -/
theorem gather_members {read : Fields → Gathering α} {a : α}
    (hnodup : (members.map Prod.fst).Nodup)
    (hholds : o.Holds (.map (Document.ofMembers members)))
    (hnames : ∀ m ∈ members, m.1 ∈ names)
    (hread : ∀ f : Fields, f.Shows o names members → read f = .ok a) :
    gather o names (.map (Document.ofMembers members)) read = .ok a := by
  obtain ⟨f, hfields, hf⟩ := fields_members hnodup hholds hnames
  rw [gather, hfields, Except.bind, hread f hf, hf.close]

/-- An object that gives fields in the order of their names. -/
theorem gather_sublist {read : Fields → Gathering α} {a : α} (hnodup : names.Nodup)
    (hkeys : (members.map Prod.fst).Sublist names)
    (hholds : o.Holds (.map (Document.ofMembers members)))
    (hread : ∀ f : Fields, f.Shows o names members → read f = .ok a) :
    gather o names (.map (Document.ofMembers members)) read = .ok a :=
  gather_members (hkeys.nodup hnodup) hholds
    (fun _ hm => hkeys.subset (List.mem_map_of_mem hm)) hread

section Needs

variable {β γ δ : Type} [Codec β] [LawfulCodec β] [Codec γ] [LawfulCodec γ] [Codec δ]
  [LawfulCodec δ] {b c d : String}

/-- A record with one field, which must be there. -/
theorem gather_need (make : β → α) {x : β}
    (hholds : o.Holds (.map (Document.ofMembers [(b, encode x)]))) :
    gather o [b] (.map (Document.ofMembers [(b, encode x)])) (fun f => make <$> f.need b) =
      .ok (make x) := by
  refine gather_members (by simp) hholds (by simp) fun f hf => ?_
  have hx : f.need b = .ok x := hf.need (by simp) (by simp)
  rw [hx]
  rfl

/-- A record with two fields, which must be there. -/
theorem gather_need₂ (make : β → γ → α) {x : β} {y : γ} (hnodup : [b, c].Nodup)
    (hholds : o.Holds (.map (Document.ofMembers [(b, encode x), (c, encode y)]))) :
    gather o [b, c] (.map (Document.ofMembers [(b, encode x), (c, encode y)]))
      (fun f => make <$> f.need b <*> f.need c) = .ok (make x y) := by
  refine gather_members hnodup hholds (by simp) fun f hf => ?_
  have hcb : (c == b) = false := by
    refine beq_false_of_ne ?_
    rintro rfl
    simp at hnodup
  have hx : f.need b = .ok x := hf.need (by simp) (by simp)
  have hy : f.need c = .ok y := hf.need (by simp) (by simp [List.lookup_cons, hcb])
  rw [hx, hy]
  rfl

/-- A record with three fields, which must be there. -/
theorem gather_need₃ (make : β → γ → δ → α) {x : β} {y : γ} {z : δ} (hnodup : [b, c, d].Nodup)
    (hholds : o.Holds (.map (Document.ofMembers [(b, encode x), (c, encode y), (d, encode z)]))) :
    gather o [b, c, d] (.map (Document.ofMembers [(b, encode x), (c, encode y), (d, encode z)]))
      (fun f => make <$> f.need b <*> f.need c <*> f.need d) = .ok (make x y z) := by
  refine gather_members hnodup hholds (by simp) fun f hf => ?_
  simp only [List.nodup_cons, List.mem_cons, List.not_mem_nil, or_false, not_or] at hnodup
  obtain ⟨⟨hbc, hbd⟩, hcd, -⟩ := hnodup
  have hcb : (c == b) = false := beq_false_of_ne (Ne.symm hbc)
  have hdb : (d == b) = false := beq_false_of_ne (Ne.symm hbd)
  have hdc : (d == c) = false := beq_false_of_ne (Ne.symm hcd)
  have hx : f.need b = .ok x := hf.need (by simp) (by simp)
  have hy : f.need c = .ok y := hf.need (by simp) (by simp [List.lookup_cons, hcb])
  have hz : f.need d = .ok z := hf.need (by simp) (by simp [List.lookup_cons, hdb, hdc])
  rw [hx, hy, hz]
  rfl

end Needs

/-- An object that gives each field at most once beside the members of the inlined part. -/
theorem gatherInlined_members {read : Fields → Document → Gathering α} {a : α}
    (hnodup : (members.map Prod.fst).Nodup)
    (hholds : o.Holds (.map (Document.ofMembers members)))
    (hread : ∀ f : Fields, f.Shows o names members →
      read f (.map (Document.ofMembers (members.filter (·.1 ∉ names)))) = .ok a) :
    gatherInlined o names (.map (Document.ofMembers members)) read = .ok a := by
  have hpass : ∀ m ∈ members, m.1 ∉ names →
      (putAside o.inner (.ofJson m.2)).map (fun _ => ()) = .ok () := by
    intro m hm _
    rw [Document.ofMembers_eq_map] at hholds
    rw [putAside_of_holds (hholds.of_mem_map (List.mem_map_of_mem hm))]
    rfl
  have hflaw : firstFlaw? (inlinedRole o names) (fun d => (putAside o.inner d).map fun _ => ())
      [] 0 (Document.ofMembers members) = none :=
    firstFlaw?_eq_none (inlinedRole_str o names) hnodup hpass (fun _ _ => List.not_mem_nil) 0
  simp only [gatherInlined, inlined, Except.bind, hflaw, filter_isOther (inlinedRole_str o names)]
  rw [hread _ (Fields.shows_fieldMembers (inlinedRole_str o names) hholds _)]
  rfl

theorem filter_isTag {name : String} {rest : List (String × Json)}
    (htag : ∀ m ∈ rest, m.1 ≠ name) : (Document.ofMembers rest).filter (isTag name) = [] := by
  rw [Document.ofMembers_eq_map, List.filter_eq_nil_iff]
  rintro d hd
  obtain ⟨m, hm, rfl⟩ := List.mem_map.mp hd
  simpa [isTag, Document.str] using htag m hm

theorem filter_not_isTag {name : String} {rest : List (String × Json)}
    (htag : ∀ m ∈ rest, m.1 ≠ name) :
    (Document.ofMembers rest).filter (fun m => !isTag name m) = Document.ofMembers rest := by
  rw [Document.ofMembers_eq_map, List.filter_eq_self]
  rintro d hd
  obtain ⟨m, hm, rfl⟩ := List.mem_map.mp hd
  simpa [isTag, Document.str] using htag m hm

theorem ofMembers_tag (name variant : String) (rest : List (String × Json)) :
    Document.ofMembers (tag name variant rest) =
      (.str name, .str variant) :: Document.ofMembers rest :=
  rfl

/-- An object with a tag and the members of the variant that the tag names. -/
theorem gatherTagged_members {name variant : String} {variants : List String}
    {rest : List (String × Json)} {read : String → Document → Reading α} {a : α}
    (hvariant : variant ∈ variants) (htag : ∀ m ∈ rest, m.1 ≠ name)
    (hholds : o.Holds (.map (Document.ofMembers (tag name variant rest))))
    (hread : read variant (.map (Document.ofMembers rest)) = .ok a) :
    gatherTagged o name variants (.map (Document.ofMembers (tag name variant rest))) read =
      .ok a := by
  have hself : isTag name (.str name, .str variant) = true := by simp [isTag, Document.str]
  have hrest : o.Holds (.map (Document.ofMembers rest)) := by
    have h := hholds.filter fun m => !isTag name m
    rw [ofMembers_tag, List.filter_cons_of_neg (by simp [hself]), filter_not_isTag htag] at h
    exact h
  have htagged : tagged o name variants (.map (Document.ofMembers (tag name variant rest))) =
      .ok (variant, .map (Document.ofMembers rest)) := by
    rw [ofMembers_tag, tagged, List.filter_cons_of_pos hself, filter_isTag htag,
      List.filter_cons_of_neg (by simp [hself]), filter_not_isTag htag, putAside_of_holds hrest]
    simp only [pick_str hvariant]
    rfl
  rw [gatherTagged, htagged]
  exact congrArg late hread

end Kinds
end Chronicle.Json
