import Chronicle.Json.Text
import Chronicle.Proofs.Json.Codec
import Chronicle.Proofs.Json.Lexer

/-!
# What is printed is read

The compact text of a value is taken apart into the tokens that it was printed from, and these are
put together to the value again. Both go by the structure of the value: the lexer is between tokens
where a value begins, and the reader takes up the container around a value where it had left it.
-/

namespace Chronicle.Json

/-! ## Tokens of a text -/

namespace Lexing

def chars (ts : List Token) : List Char := ts.flatMap Token.chars

/-- The tokens are read back where a value may begin. -/
def Begin (us : List Token) : Prop :=
  ∀ ts : List Token, Has (run ⟨ts.reverse, some .gap⟩ (chars us)) (ts ++ us)

/-- The tokens are read back wherever they stand. -/
def Follow (us : List Token) : Prop :=
  ∀ (l : Lexing) (ts : List Token), Has l ts → Has (l.run (chars us)) (ts ++ us)

variable {us vs : List Token} {t : Token}

theorem follow_nil : Follow [] := fun l ts h => by
  rw [List.append_nil]
  exact h

theorem Follow.begin (h : Follow us) : Begin us := fun ts => h _ ts (.gap ts)

theorem Begin.append (h : Begin us) (h' : Follow vs) : Begin (us ++ vs) := by
  intro ts
  rw [chars, List.flatMap_append, run_append, ← List.append_assoc]
  exact h' _ _ (h ts)

theorem begin_singleton (ht : t ≠ .halfPair) : Begin [t] := by
  intro ts
  rw [chars, List.flatMap_singleton]
  exact has_run ts t ht

/-- A token that may stand behind a number. -/
theorem Begin.follow_cons (ht : t.ends = true) (h : Begin us) : Follow (t :: us) := by
  intro l ts hl
  have hrest := h (ts ++ [t])
  rw [List.append_assoc, List.singleton_append] at hrest
  rw [chars, List.flatMap_cons, run_append, hl.run_end ht]
  exact hrest

theorem follow_singleton (ht : t.ends = true) : Follow [t] := follow_nil.begin.follow_cons ht

/-- A token that opens a container. -/
theorem Begin.cons_open (ht : t = .arrOpen ∨ t = .objOpen) (h : Begin us) : Begin (t :: us) := by
  intro ts
  have hrest := h (ts ++ [t])
  rw [List.append_assoc, List.singleton_append, List.reverse_concat] at hrest
  rw [chars, List.flatMap_cons, run_append]
  rcases ht with rfl | rfl <;> exact hrest

mutual

theorem begin_tokens : ∀ j : Json, Begin j.tokens
  | .null => begin_singleton Token.noConfusion
  | .bool _ => begin_singleton Token.noConfusion
  | .int _ => begin_singleton Token.noConfusion
  | .real _ _ => begin_singleton Token.noConfusion
  | .str _ => begin_singleton Token.noConfusion
  | .arr items =>
    ((begin_itemTokens items).append (follow_singleton rfl)).cons_open (Or.inl rfl)
  | .obj members =>
    ((begin_memberTokens members).append (follow_singleton rfl)).cons_open (Or.inr rfl)

theorem begin_itemTokens : ∀ items : List Json, Begin (itemTokens items)
  | [] => follow_nil.begin
  | j :: rest => (begin_tokens j).append (follow_moreItemTokens rest)

theorem follow_moreItemTokens : ∀ items : List Json, Follow (moreItemTokens items)
  | [] => follow_nil
  | j :: rest => ((begin_tokens j).append (follow_moreItemTokens rest)).follow_cons rfl

theorem begin_memberTokens : ∀ members : List (String × Json), Begin (memberTokens members)
  | [] => follow_nil.begin
  | (k, j) :: rest =>
    (begin_singleton (t := .str k) Token.noConfusion).append
      (((begin_tokens j).append (follow_moreMemberTokens rest)).follow_cons rfl)

theorem follow_moreMemberTokens :
    ∀ members : List (String × Json), Follow (moreMemberTokens members)
  | [] => follow_nil
  | (k, j) :: rest =>
    Begin.follow_cons rfl ((begin_singleton (t := .str k) Token.noConfusion).append
      (((begin_tokens j).append (follow_moreMemberTokens rest)).follow_cons rfl))

end

/-- **The tokens of a printed value are read back.** -/
theorem lex_compact (j : Json) : lex j.compact.toList = ⟨j.tokens, true⟩ := by
  rw [compact, String.toList_ofList]
  exact lex_of_has (begin_tokens j [])

end Lexing

/-! ## Values from tokens -/

namespace Parsing

def feedAll (p : Parsing) (ts : List Token) : Parsing := ts.foldl feed p

theorem feedAll_append (p : Parsing) (ts us : List Token) :
    p.feedAll (ts ++ us) = (p.feedAll ts).feedAll us :=
  List.foldl_append

theorem feedAll_cons (p : Parsing) (t : Token) (ts : List Token) :
    p.feedAll (t :: ts) = (p.feed t).feedAll ts :=
  rfl

theorem exists_begin (j : Json) (outer : List Open) :
    ∃ t ts s, j.tokens = t :: ts ∧ t ≠ .arrClose ∧ State.begin outer t = some s := by
  cases j <;> exact ⟨_, _, _, rfl, Token.noConfusion, rfl⟩

/-- In an array that has just been opened the first item is read like any other value. -/
theorem feedAll_item (j : Json) (outer : List Open) :
    feedAll (.running (.item outer)) j.tokens =
      feedAll (.running (.value (.items [] :: outer))) j.tokens := by
  obtain ⟨t, ts, s, htokens, ht, hbegin⟩ := exists_begin j (.items [] :: outer)
  rw [htokens, feedAll_cons, feedAll_cons]
  simp only [feed, State.next, if_neg ht, hbegin]

mutual

theorem feedAll_tokens : ∀ (j : Json) (outer : List Open),
    feedAll (.running (.value outer)) j.tokens = .running (.done (.ofJson j) outer)
  | .null, _ => rfl
  | .bool _, _ => rfl
  | .int _, _ => rfl
  | .real _ _, _ => rfl
  | .str _, _ => rfl
  | .arr [], _ => rfl
  | .arr (j :: rest), outer => by
    have hopen : feed (.running (.value outer)) .arrOpen = .running (.item outer) := rfl
    rw [tokens, itemTokens, feedAll_cons, hopen, List.append_assoc, feedAll_append, feedAll_item,
      feedAll_tokens j, feedAll_moreItems rest]
    rfl
  | .obj [], _ => rfl
  | .obj ((k, j) :: rest), outer => by
    have hopen : feed (feed (feed (.running (.value outer)) .objOpen) (.str k)) .colon =
        .running (.value (.members [] (.str k) :: outer)) := rfl
    rw [tokens, memberTokens, feedAll_cons, List.cons_append, List.cons_append, feedAll_cons,
      feedAll_cons, hopen, List.append_assoc, feedAll_append, feedAll_tokens j,
      feedAll_moreMembers rest]
    rfl

theorem feedAll_moreItems : ∀ (items : List Json) (v : Document) (rev : List Document)
    (outer : List Open),
    feedAll (.running (.done v (.items rev :: outer))) (moreItemTokens items ++ [.arrClose]) =
      .running (.done (.list (rev.reverse ++ v :: Document.ofItems items)) outer)
  | [], v, rev, outer => by
    show Parsing.running _ = _
    rw [List.reverse_cons]
    rfl
  | j :: rest, v, rev, outer => by
    have hcomma : feed (.running (.done v (.items rev :: outer))) .comma =
        .running (.value (.items (v :: rev) :: outer)) := rfl
    rw [moreItemTokens, List.cons_append, feedAll_cons, hcomma, List.append_assoc, feedAll_append,
      feedAll_tokens j, feedAll_moreItems rest, List.reverse_cons, List.append_assoc]
    rfl

theorem feedAll_moreMembers : ∀ (members : List (String × Json)) (v : Document)
    (rev : List (Document × Document)) (k : Document) (outer : List Open),
    feedAll (.running (.done v (.members rev k :: outer)))
        (moreMemberTokens members ++ [.objClose]) =
      .running (.done (.map (rev.reverse ++ (k, v) :: Document.ofMembers members)) outer)
  | [], v, rev, k, outer => by
    show Parsing.running _ = _
    rw [List.reverse_cons]
    rfl
  | (k', j) :: rest, v, rev, k, outer => by
    have hcomma : feed (feed (feed (.running (.done v (.members rev k :: outer))) .comma)
        (.str k')) .colon = .running (.value (.members ((k, v) :: rev) (.str k') :: outer)) := rfl
    rw [moreMemberTokens, List.cons_append, List.cons_append, List.cons_append, feedAll_cons,
      feedAll_cons, feedAll_cons, hcomma, List.append_assoc, feedAll_append, feedAll_tokens j,
      feedAll_moreMembers rest, List.reverse_cons, List.append_assoc]
    rfl

end

end Parsing

/-! ## Texts -/

/-- **The compact text of a value is the text of the value and of nothing else.** -/
theorem source_compact (j : Json) : source j.compact = ⟨.ofJson j, true⟩ := by
  have hparse : parse j.tokens = .running (.done (.ofJson j) []) := Parsing.feedAll_tokens j []
  simp only [source, Lexing.lex_compact, hparse]
  rfl

/-- What is written of a value that a text can hold is read back. -/
theorem ofText_toText {α : Type} [Codec α] [LawfulCodec α] (a : α)
    (h : Origin.start.Holds (.ofJson (encode a))) : ofText (toText a) = .ok a := by
  rw [ofText, readText_eq_ok_iff, toText, source_compact]
  exact ⟨rfl, decode_encode a .start h⟩

end Chronicle.Json
