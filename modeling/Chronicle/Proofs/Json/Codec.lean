import Chronicle.Json.Codec
import Chronicle.Proofs.Dict

/-!
# Codecs that lose nothing

A codec is lawful if what it writes is read back as it was, from every origin that can hold it. A
text holds what is kept within its room, a value in memory and a part put aside hold anything.
-/

namespace Chronicle.Json

/-! ## Documents of values -/

namespace Document

theorem ofItems_eq_map (l : List Json) : ofItems l = l.map ofJson := by
  induction l with
  | nil => rfl
  | cons j rest ih => rw [ofItems, ih, List.map_cons]

theorem ofMembers_eq_map (l : List (String × Json)) :
    ofMembers l = l.map fun m => (.str m.1, ofJson m.2) := by
  induction l with
  | nil => rfl
  | cons m rest ih => rw [ofMembers, ih, List.map_cons]

theorem ofJson_ne_null {j : Json} (h : j ≠ .null) : ofJson j ≠ .null := by
  cases j with
  | null => exact absurd rfl h
  | int n =>
      rw [ofJson, ofInt]
      split <;> exact Document.noConfusion
  | _ => exact Document.noConfusion

end Document

/-! ## Origins -/

namespace Origin

/-- Whether a document can be met as a whole where it comes from. -/
def Holds (o : Origin) (d : Document) : Prop :=
  match o with
  | .text room => d.fits room = true
  | _ => True

theorem Holds.of_mem_list {o : Origin} {items : List Document} (h : o.Holds (.list items))
    {d : Document} (hd : d ∈ items) : o.inner.Holds d := by
  cases o with
  | text room =>
      cases room with
      | zero => cases h
      | succ room =>
          rw [Holds, Document.fits, List.all_eq_true] at h
          exact h d hd
  | _ => exact trivial

theorem Holds.of_mem_map {o : Origin} {members : List (Document × Document)}
    (h : o.Holds (.map members)) {m : Document × Document} (hm : m ∈ members) :
    o.inner.Holds m.2 := by
  cases o with
  | text room =>
      cases room with
      | zero => cases h
      | succ room =>
          rw [Holds, Document.fits, List.all_eq_true] at h
          exact (Bool.and_eq_true_iff.mp (h m hm)).2
  | _ => exact trivial

/-- Some of the members of a map are held where all are. -/
theorem Holds.filter {o : Origin} {members : List (Document × Document)}
    (h : o.Holds (.map members)) (p : Document × Document → Bool) :
    o.Holds (.map (members.filter p)) := by
  cases o with
  | text room =>
      cases room with
      | zero => cases h
      | succ room =>
          rw [Holds, Document.fits, List.all_eq_true] at h ⊢
          exact fun m hm => h m (List.mem_filter.mp hm).1
  | _ => exact trivial

end Origin

theorem putAside_of_holds {o : Origin} {d : Document} (h : o.Holds d) : putAside o d = .ok d := by
  cases o with
  | text room => exact if_pos h
  | _ => rfl

/-! ## Lawful codecs -/

/-- What is written is read back from every origin that can hold it. -/
class LawfulCodec (α : Type) [Codec α] : Prop where
  decode_encode (a : α) (o : Origin) (h : o.Holds (.ofJson (encode a))) :
    decode o (.ofJson (encode a)) = .ok a

/-- No value is written as null, so that null can stand for its absence. -/
class NeverNull (α : Type) [Codec α] : Prop where
  encode_ne_null (a : α) : encode a ≠ .null

export LawfulCodec (decode_encode)
export NeverNull (encode_ne_null)

theorem ofJson_encode {α : Type} [Codec α] [LawfulCodec α] (a : α) :
    ofJson (encode a) = .ok a :=
  decode_encode a .tree trivial

instance : LawfulCodec Bool := ⟨fun _ _ _ => rfl⟩

instance : LawfulCodec String := ⟨fun _ _ _ => rfl⟩

instance : NeverNull String := ⟨fun _ => Json.noConfusion⟩

/-! ## Integers -/

theorem decodeInt_ofInt {α : Type} {low high n : Int} (ofInt : Int → α) (hlow : low ≤ n)
    (hhigh : n ≤ high) : decodeInt low high ofInt (.ofInt n) = .ok (ofInt n) := by
  unfold Document.ofInt
  split
  next hneg =>
      have hn : -(n.natAbs : Int) = n := by omega
      simp only [decodeInt, hn]
      exact if_pos ⟨hlow, hhigh⟩
  next hneg =>
      have hn : (n.natAbs : Int) = n := by omega
      simp only [decodeInt, hn]
      exact if_pos ⟨hlow, hhigh⟩

instance : LawfulCodec UInt16 where
  decode_encode n _ _ := by
    have hlt := n.toNat_lt
    refine (decodeInt_ofInt _ (by omega) (by omega)).trans ?_
    simp

instance : LawfulCodec UInt32 where
  decode_encode n _ _ := by
    have hlt := n.toNat_lt
    refine (decodeInt_ofInt _ (by omega) (by omega)).trans ?_
    simp

instance : NeverNull UInt32 := ⟨fun _ => Json.noConfusion⟩

instance : LawfulCodec UInt64 where
  decode_encode n _ _ := by
    have hlt := n.toNat_lt
    refine (decodeInt_ofInt _ (by omega) (by omega)).trans ?_
    simp

instance : LawfulCodec Int32 where
  decode_encode n _ _ := by
    have hle := n.toInt_lt
    have hge := n.le_toInt
    refine (decodeInt_ofInt _ (by omega) (by omega)).trans ?_
    simp

instance : NeverNull Int32 := ⟨fun _ => Json.noConfusion⟩

/-! ## Options, lists and dictionaries -/

section Containers

variable {α : Type} [Codec α] [LawfulCodec α]

instance [NeverNull α] : LawfulCodec (Option α) where
  decode_encode a o h := by
    cases a with
    | none => rfl
    | some a =>
        have hne : Document.ofJson (encode a) ≠ .null :=
          Document.ofJson_ne_null (encode_ne_null a)
        have hread : decode o (.ofJson (encode a)) = .ok a := decode_encode a o h
        show decode (α := Option α) o (.ofJson (encode a)) = .ok (some a)
        generalize Document.ofJson (encode a) = d at hne hread
        cases d with
        | null => exact absurd rfl hne
        | _ => exact congrArg (some <$> ·) hread

theorem mapM_map_of_forall {β γ : Type} {read : γ → Reading β} {write : β → γ} {l : List β}
    (h : ∀ b ∈ l, read (write b) = .ok b) : (l.map write).mapM read = .ok l := by
  induction l with
  | nil => rfl
  | cons b rest ih =>
      obtain ⟨hb, hrest⟩ := List.forall_mem_cons.mp h
      rw [List.map_cons, List.mapM_cons, hb, ih hrest]
      rfl

instance : LawfulCodec (List α) where
  decode_encode l o h := by
    show ((Document.ofItems (l.map encode)).mapM (decode o.inner) : Reading (List α)) = .ok l
    replace h : o.Holds (.list (Document.ofItems (l.map encode))) := h
    rw [Document.ofItems_eq_map, List.map_map] at h ⊢
    refine mapM_map_of_forall fun a ha => decode_encode a o.inner (h.of_mem_list ?_)
    exact List.mem_map_of_mem ha

/-- The text of a key tells the key. -/
class LawfulKeyText (κ : Type) [KeyText κ] : Prop where
  ofText?_text (k : κ) : KeyText.ofText? (KeyText.text k) = some k

instance : LawfulKeyText String := ⟨fun _ => rfl⟩

theorem decodeEntry_str {κ : Type} [KeyText κ] [LawfulKeyText κ] {o : Origin} {k : κ} {a : α}
    (h : o.Holds (.ofJson (encode a))) :
    decodeEntry o (.str (KeyText.text k), .ofJson (encode a)) = .ok (k, a) := by
  simp only [decodeEntry, Document.str, LawfulKeyText.ofText?_text, decode_encode a o h]
  rfl

instance {κ : Type} [Ord κ] [Std.TransOrd κ] [KeyText κ] [LawfulKeyText κ] :
    LawfulCodec (Dict κ α) where
  decode_encode d o h := by
    let members : List (String × Json) :=
      d.entries.map fun e => (KeyText.text e.1, encode e.2)
    show (Dict.ofList <$> (Document.ofMembers members).mapM (decodeEntry o.inner) :
      Reading (Dict κ α)) = .ok d
    replace h : o.Holds (.map (Document.ofMembers members)) := h
    rw [Document.ofMembers_eq_map, List.map_map] at h ⊢
    rw [mapM_map_of_forall (l := d.entries)]
    · exact congrArg Except.ok d.ofList_entries
    · intro e he
      exact decodeEntry_str (h.of_mem_map (List.mem_map_of_mem he))

end Containers

/-! ## Enumerations -/

section Enumerations

variable {α : Type} {all : List α} {name : α → String}

theorem named_name {a : α} (ha : a ∈ all) (hinj : ∀ b ∈ all, name b = name a → b = a) :
    named all name (name a) = .ok a := by
  have hfind : all.find? (fun b => name b == name a) = some a := by
    cases hb : all.find? (fun b => name b == name a) with
    | none =>
        rw [List.find?_eq_none] at hb
        exact absurd (beq_self_eq_true (name a)) (hb a ha)
    | some b =>
        have hname := List.find?_some hb
        exact congrArg some (hinj b (List.mem_of_find?_eq_some hb) (eq_of_beq hname))
  rw [named, hfind]

theorem pick_str {variants : List String} {o : Origin} {s : String} (hs : s ∈ variants) :
    pick variants id o (.str s) = .ok s :=
  named_name hs fun _ _ h => h

end Enumerations
end Chronicle.Json
