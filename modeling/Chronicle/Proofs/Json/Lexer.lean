import Chronicle.Json.Lexer
import Chronicle.Json.Printer
import Mathlib.Data.Nat.Digits.Defs

/-!
# Printed tokens are read back

The lexer reads the characters of a token and has the token. A number is complete only with the
character after it, so behind a number the lexer waits, and whatever stands behind a number in a
printed value ends it.
-/

namespace Chronicle.Json

/-! ## Digits -/

theorem isDigit_of_mem_natChars {n : Nat} {c : Char} (h : c ∈ natChars n) : c.isDigit = true :=
  Nat.isDigit_of_mem_toDigits (by decide) (by decide) h

theorem natOfDigits_natChars (n : Nat) : natOfDigits (natChars n) = n :=
  Nat.ofDigitChars_toDigits (by decide) (by decide)

/-- A positive number does not begin with a zero. -/
theorem exists_natChars_of_pos {n : Nat} (h : 0 < n) :
    ∃ d ds, natChars n = d :: ds ∧ d ≠ '0' := by
  induction n using Nat.strongRecOn with
  | ind n ih =>
      unfold natChars
      rcases Nat.lt_or_ge n 10 with hlt | hge
      · exact ⟨_, [], Nat.toDigits_of_lt_base hlt, fun hzero =>
          absurd (Nat.digitChar_eq_zero.mp hzero) h.ne'⟩
      · obtain ⟨d, ds, hds, hd⟩ := ih (n / 10) (by omega) (by omega)
        refine ⟨d, ds ++ [Nat.digitChar (n % 10)], ?_, hd⟩
        rw [Nat.toDigits_of_base_le (by decide) hge, ← natChars, hds, List.cons_append]

/-- The digits at the head of a text that goes on with something else. -/
theorem splitDigits_append {ds rest : List Char} (hds : ∀ c ∈ ds, c.isDigit = true)
    (hrest : ∀ c ∈ rest.head?, c.isDigit = false) : splitDigits (ds ++ rest) = (ds, rest) := by
  have hnone : rest.takeWhile Char.isDigit = [] ∧ rest.dropWhile Char.isDigit = rest := by
    cases rest with
    | nil => exact ⟨rfl, rfl⟩
    | cons c rest => simp [hrest c rfl]
  rw [splitDigits, List.takeWhile_append_of_pos hds, List.dropWhile_append_of_pos hds, hnone.1,
    hnone.2, List.append_nil]

/-! ## Literals -/

/-- The digits of a number have no leading zero. -/
theorem natChars_head (n : Nat) :
    ¬ ((natChars n).isEmpty ∨ ((natChars n).head? = some '0' ∧ (natChars n).length ≠ 1)) := by
  rcases Nat.eq_zero_or_pos n with rfl | hpos
  · decide
  · obtain ⟨d, ds, hds, hd⟩ := exists_natChars_of_pos hpos
    rw [hds]
    simp [hd]

theorem exists_natChars (n : Nat) : ∃ d ds, natChars n = d :: ds ∧ d.isDigit = true := by
  cases hds : natChars n with
  | nil => exact absurd hds Nat.toDigits_ne_nil
  | cons d ds => exact ⟨d, ds, rfl, isDigit_of_mem_natChars (n := n) (by simp [hds])⟩

theorem ne_of_isDigit {c d : Char} (hc : c.isDigit = true) (hd : d.isDigit = false) : c ≠ d := by
  rintro rfl
  rw [hc] at hd
  cases hd

theorem unsigned?_natChars (negative : Bool) (n : Nat) (h : negative = true → n ≠ 0) :
    unsigned? negative (natChars n) = some (.int (if negative then -n else n)) := by
  have hsplit : splitDigits (natChars n) = (natChars n, []) := by
    have happend : splitDigits (natChars n ++ []) = (natChars n, []) :=
      splitDigits_append (fun _ => isDigit_of_mem_natChars) (fun _ hc => by cases hc)
    rwa [List.append_nil] at happend
  have hsign : ¬ (negative = true ∧ n = 0) := fun ⟨hneg, hzero⟩ => h hneg hzero
  simp only [unsigned?, hsplit, if_neg (natChars_head n), natOfDigits_natChars, if_neg hsign]

theorem unsigned?_exponent (negative : Bool) (n : Nat) {cs : List Char} {e : Int}
    (he : exponent? ('e' :: cs) = some e) :
    unsigned? negative (natChars n ++ 'e' :: cs) = some (.real (if negative then -n else n) e) := by
  have hsplit : splitDigits (natChars n ++ 'e' :: cs) = (natChars n, 'e' :: cs) := by
    refine splitDigits_append (fun _ => isDigit_of_mem_natChars) fun c hc => ?_
    cases hc
    decide
  simp only [unsigned?, hsplit, if_neg (natChars_head n), natOfDigits_natChars]
  show Option.map _ (exponent? ('e' :: cs)) = _
  rw [he]
  rfl

theorem natChars_are_digits (n : Nat) :
    ¬ ((natChars n).isEmpty = true ∨ ¬ (natChars n).all Char.isDigit = true) := by
  simp only [not_or, not_not, List.isEmpty_iff, List.all_eq_true]
  exact ⟨Nat.toDigits_ne_nil, fun _ => isDigit_of_mem_natChars⟩

theorem exponent?_negated (n : Nat) : exponent? ('e' :: '-' :: natChars n) = some (-(n : Int)) := by
  simp only [exponent?, true_or, if_true, if_neg (natChars_are_digits n), natOfDigits_natChars]

theorem exponent?_natural (n : Nat) : exponent? ('e' :: natChars n) = some (n : Int) := by
  obtain ⟨d, ds, hds, hd⟩ := exists_natChars n
  have hunsigned : exponent? ('e' :: natChars n) =
      if (natChars n).isEmpty ∨ ¬ (natChars n).all Char.isDigit then none
      else some (natOfDigits (natChars n) : Int) := by
    rw [hds]
    unfold exponent?
    simp only [true_or, if_true]
    split
    next hminus => exact absurd (List.cons.inj hminus).1 (ne_of_isDigit hd (by decide))
    next hplus => exact absurd (List.cons.inj hplus).1 (ne_of_isDigit hd (by decide))
    next => rfl
  rw [hunsigned, if_neg (natChars_are_digits n), natOfDigits_natChars]

theorem exponent?_intChars (e : Int) : exponent? ('e' :: intChars e) = some e := by
  unfold intChars
  split
  next hneg =>
      rw [exponent?_negated]
      exact congrArg some (by omega)
  next hneg =>
      rw [exponent?_natural]
      exact congrArg some (by omega)

/-- A literal without a minus sign. -/
theorem number?_of_isDigit {cs : List Char} (h : ∃ d ds, cs = d :: ds ∧ d.isDigit = true) :
    number? cs = unsigned? false cs := by
  obtain ⟨d, ds, rfl, hd⟩ := h
  unfold number?
  split
  next hminus => exact absurd (List.cons.inj hminus).1 (ne_of_isDigit hd (by decide))
  next => rfl

theorem number?_intChars (n : Int) : number? (intChars n) = some (.int n) := by
  unfold intChars
  split
  next hneg =>
      show unsigned? true (natChars n.natAbs) = _
      rw [unsigned?_natChars true _ fun _ => by omega, if_pos rfl]
      exact congrArg (some ∘ Token.int) (by omega)
  next hneg =>
      rw [number?_of_isDigit (exists_natChars _), unsigned?_natChars false _ nofun,
        if_neg Bool.false_ne_true]
      exact congrArg (some ∘ Token.int) (by omega)

theorem number?_real (m e : Int) :
    number? (intChars m ++ 'e' :: intChars e) = some (.real m e) := by
  have he := exponent?_intChars e
  generalize intChars e = cs at he
  unfold intChars
  split
  next hneg =>
      show unsigned? true (natChars m.natAbs ++ 'e' :: cs) = _
      rw [unsigned?_exponent true _ he, if_pos rfl]
      exact congrArg (fun m => some (Token.real m e)) (by omega)
  next hneg =>
      obtain ⟨d, ds, hds, hd⟩ := exists_natChars m.natAbs
      rw [number?_of_isDigit ⟨d, ds ++ 'e' :: cs, by rw [hds, List.cons_append], hd⟩,
        unsigned?_exponent false _ he, if_neg Bool.false_ne_true]
      exact congrArg (fun m => some (Token.real m e)) (by omega)

/-! ## Numbers -/

namespace Lexing

/-- The state of the lexer after some more characters. -/
def run (l : Lexing) (cs : List Char) : Lexing := cs.foldl feed l

theorem run_append (l : Lexing) (cs ds : List Char) : l.run (cs ++ ds) = (l.run cs).run ds :=
  List.foldl_append

theorem run_cons (l : Lexing) (c : Char) (cs : List Char) : l.run (c :: cs) = (l.feed c).run cs :=
  rfl

section Number

variable {toks : List Token} {rev : List Char} {stage : Stage}

/-- The lexer goes on with a literal. -/
theorem feed_number {c : Char} {next : Stage} (h : stage.next? c = some next) :
    feed ⟨toks, some (.number stage rev)⟩ c = ⟨toks, some (.number next (c :: rev))⟩ := by
  simp [feed, Mode.next, h]

/-- Digits that leave the lexer at the same stage of a literal. -/
theorem run_digits (hstay : ∀ c : Char, c.isDigit = true → stage.next? c = some stage)
    {ds : List Char} (hds : ∀ c ∈ ds, c.isDigit = true) :
    run ⟨toks, some (.number stage rev)⟩ ds =
      ⟨toks, some (.number stage (ds.reverse ++ rev))⟩ := by
  induction ds generalizing rev with
  | nil => rfl
  | cons d ds ih =>
      obtain ⟨hd, hds⟩ := List.forall_mem_cons.mp hds
      rw [run_cons, feed_number (hstay d hd), ih hds, List.reverse_cons, List.append_assoc]
      rfl

theorem next?_whole {c : Char} (h : c.isDigit = true) : Stage.whole.next? c = some .whole := by
  simp [Stage.next?, h]

theorem next?_exponent {c : Char} (h : c.isDigit = true) :
    Stage.exponent.next? c = some .exponent := by
  simp [Stage.next?, h]

/-- The digits of the whole part, at its beginning. -/
theorem run_natChars (toks : List Token) (rev : List Char) (n : Nat) :
    ∃ stage, (stage = .zero ∨ stage = .whole) ∧
      run ⟨toks, some (.number .sign rev)⟩ (natChars n) =
        ⟨toks, some (.number stage ((natChars n).reverse ++ rev))⟩ := by
  rcases Nat.eq_zero_or_pos n with rfl | hpos
  · exact ⟨.zero, Or.inl rfl, rfl⟩
  · obtain ⟨d, ds, hds, hd⟩ := exists_natChars_of_pos hpos
    have hdigits : ∀ c ∈ d :: ds, c.isDigit = true := fun c hc =>
      isDigit_of_mem_natChars (n := n) (hds ▸ hc)
    obtain ⟨hdigit, hrest⟩ := List.forall_mem_cons.mp hdigits
    have hfirst : Stage.sign.next? d = some .whole := by simp [Stage.next?, hd, hdigit]
    refine ⟨.whole, Or.inr rfl, ?_⟩
    rw [hds, run_cons, feed_number hfirst, run_digits (fun _ => next?_whole) hrest,
      List.reverse_cons, List.append_assoc]
    rfl

/-- A digit between tokens begins a literal. -/
theorem feed_gap_digit {d : Char} (h : d.isDigit = true) :
    feed ⟨toks, some .gap⟩ d = feed ⟨toks, some (.number .sign [])⟩ d := by
  have hne : ∀ c : Char, c.isDigit = false → d ≠ c := fun c => ne_of_isDigit h
  have hopen : openToken d =
      ([], (Stage.sign.next? d).map fun stage => .number stage [d]) := by
    simp [openToken, isGap, hne]
  have hsome : ∃ stage, Stage.sign.next? d = some stage := by
    by_cases hzero : d = '0'
    · exact ⟨.zero, by simp [Stage.next?, hzero]⟩
    · exact ⟨.whole, by simp [Stage.next?, hzero, h]⟩
  obtain ⟨stage, hstage⟩ := hsome
  rw [feed_number hstage]
  simp only [feed, Mode.next, hopen, hstage]
  rfl

theorem run_intChars (toks : List Token) (n : Int) :
    ∃ stage, (stage = .zero ∨ stage = .whole) ∧
      run ⟨toks, some .gap⟩ (intChars n) =
        ⟨toks, some (.number stage (intChars n).reverse)⟩ := by
  unfold intChars
  split
  next hneg =>
      obtain ⟨stage, hstage, hrun⟩ := run_natChars toks ['-'] n.natAbs
      refine ⟨stage, hstage, ?_⟩
      rw [run_cons, List.reverse_cons]
      exact hrun
  next hneg =>
      obtain ⟨stage, hstage, hrun⟩ := run_natChars toks [] n.natAbs
      obtain ⟨d, ds, hds, hd⟩ := exists_natChars n.natAbs
      refine ⟨stage, hstage, ?_⟩
      rw [hds] at hrun ⊢
      rw [run_cons, feed_gap_digit hd, ← run_cons, hrun, List.append_nil]

/-- The digits of an exponent, with their sign. -/
theorem run_exponent (e : Int) :
    run ⟨toks, some (.number .mark rev)⟩ (intChars e) =
      ⟨toks, some (.number .exponent ((intChars e).reverse ++ rev))⟩ := by
  have hall : ∀ c ∈ natChars e.natAbs, c.isDigit = true := fun _ => isDigit_of_mem_natChars
  obtain ⟨d, ds, hds, hd⟩ := exists_natChars e.natAbs
  rw [hds] at hall
  obtain ⟨-, hrest⟩ := List.forall_mem_cons.mp hall
  unfold intChars
  rw [hds]
  split
  next hneg =>
      have hsign : Stage.mark.next? '-' = some .markSign := rfl
      have hfirst : Stage.markSign.next? d = some .exponent := by simp [Stage.next?, hd]
      rw [run_cons, feed_number hsign, run_cons, feed_number hfirst,
        run_digits (fun _ => next?_exponent) hrest]
      simp
  next hneg =>
      have hfirst : Stage.mark.next? d = some .exponent := by
        have hplus := ne_of_isDigit hd (d := '+') (by decide)
        have hminus := ne_of_isDigit hd (d := '-') (by decide)
        simp [Stage.next?, hd, hplus, hminus]
      rw [run_cons, feed_number hfirst, run_digits (fun _ => next?_exponent) hrest]
      simp

end Number

/-! ## Texts -/

section Text

variable {toks : List Token} {rev : List Char}

theorem digitOf?_digitChar {n : Nat} (h : n < 16) :
    Number.digitOf? 16 (Nat.digitChar n) = some n := by
  have hall : ∀ n < 16, Number.digitOf? 16 (Nat.digitChar n) = some n := by decide
  exact hall n h

/-- One more digit of an escape. -/
theorem feed_unit {due value n : Nat} (h : n < 16) (hdue : 1 < due) :
    feed ⟨toks, some (.unit (some rev) none due value)⟩ (Nat.digitChar n) =
      ⟨toks, some (.unit (some rev) none (due - 1) (value * 16 + n))⟩ := by
  simp [feed, Mode.next, digitOf?_digitChar h, Nat.not_le.mpr hdue]

/-- The last digit of an escape for a control character. -/
theorem feed_unit_last {value n : Nat} (h : n < 16) (hvalue : value * 16 + n < 0x20) :
    feed ⟨toks, some (.unit (some rev) none 1 value)⟩ (Nat.digitChar n) =
      ⟨toks, some (.text (some (Char.ofNat (value * 16 + n) :: rev)))⟩ := by
  have hlow : ¬ (0xDC00 ≤ value * 16 + n ∧ value * 16 + n ≤ 0xDFFF) := by omega
  have hhigh : ¬ (0xD800 ≤ value * 16 + n ∧ value * 16 + n ≤ 0xDBFF) := by omega
  simp only [feed, Mode.next, digitOf?_digitChar h, Option.map_some, if_pos (Nat.le_refl 1),
    closeUnit, if_neg hlow, if_neg hhigh]
  rfl

/-- A control character that has no letter is written by its four digits. -/
theorem run_unit {c : Char} (h : c.toNat < 0x20) :
    run ⟨toks, some (.text (some rev))⟩
        ['\\', 'u', '0', '0', Nat.digitChar (c.toNat / 16), Nat.digitChar (c.toNat % 16)] =
      ⟨toks, some (.text (some (c :: rev)))⟩ := by
  have hopen : run ⟨toks, some (.text (some rev))⟩ ['\\', 'u', '0', '0'] =
      ⟨toks, some (.unit (some rev) none 2 0)⟩ := rfl
  have hvalue : (0 * 16 + c.toNat / 16) * 16 + c.toNat % 16 = c.toNat := by omega
  show run ((run ⟨toks, some (.text (some rev))⟩ ['\\', 'u', '0', '0']).feed _) [_] = _
  rw [hopen, feed_unit (by omega) (by decide), run_cons, feed_unit_last (by omega) (by omega),
    hvalue, Char.ofNat_toNat]
  rfl

theorem feed_text {c : Char} (hquote : c ≠ '"') (hescape : c ≠ '\\') (h : ¬ c.toNat < 0x20) :
    feed ⟨toks, some (.text (some rev))⟩ c = ⟨toks, some (.text (some (c :: rev)))⟩ := by
  simp only [feed, Mode.next, textChar, if_neg hquote, if_neg hescape, if_neg h]
  rfl

/-- However a character is written, it is the next one of the text. -/
theorem run_escapeChar (c : Char) :
    run ⟨toks, some (.text (some rev))⟩ (escapeChar c) =
      ⟨toks, some (.text (some (c :: rev)))⟩ := by
  by_cases hquote : c = '"'
  · subst hquote
    rfl
  by_cases hescape : c = '\\'
  · subst hescape
    rfl
  unfold escapeChar
  rw [if_neg hquote, if_neg hescape]
  -- What is left are letters for control characters, their digits, and any other character.
  repeat' split
  all_goals first
    | next h => subst h; rfl
    | next h => exact run_unit h
    | next h => exact feed_text hquote hescape h

theorem run_flatMap_escapeChar (cs : List Char) :
    run ⟨toks, some (.text (some rev))⟩ (cs.flatMap escapeChar) =
      ⟨toks, some (.text (some (cs.reverse ++ rev)))⟩ := by
  induction cs generalizing rev with
  | nil => rfl
  | cons c cs ih =>
      rw [List.flatMap_cons, run_append, run_escapeChar, ih, List.reverse_cons, List.append_assoc]
      rfl

theorem run_quoted (s : String) :
    run ⟨toks, some .gap⟩ (quoted s) = ⟨.str s :: toks, some .gap⟩ := by
  have hopen : feed ⟨toks, some .gap⟩ '"' = ⟨toks, some (.text (some []))⟩ := rfl
  have hclose : run ⟨toks, some (.text (some s.toList.reverse))⟩ ['"'] =
      ⟨.str (String.ofList s.toList.reverse.reverse) :: toks, some .gap⟩ := rfl
  rw [quoted, run_cons, hopen, run_append, run_flatMap_escapeChar, List.append_nil, hclose,
    List.reverse_reverse, String.ofList_toList]

end Text

/-! ## Tokens -/

/-- The tokens that have been read, the last of which may be a number that has not ended yet. -/
inductive Has : Lexing → List Token → Prop where
  | gap (ts : List Token) : Has ⟨ts.reverse, some .gap⟩ ts
  | number (ts : List Token) {stage : Stage} {rev : List Char} {t : Token}
      (hstage : stage.complete = true) (hrev : number? rev.reverse = some t) :
      Has ⟨ts.reverse, some (.number stage rev)⟩ (ts ++ [t])

/-- A character that ends a literal and is a token. -/
theorem feed_end {toks : List Token} {stage : Stage} {rev : List Char} {t u : Token}
    (hstage : stage.complete = true) (hrev : number? rev.reverse = some t) {c : Char}
    (hdigit : c.isDigit = false) (hc : c ≠ '.' ∧ c ≠ 'e' ∧ c ≠ 'E')
    (hopen : openToken c = ([u], some .gap)) :
    feed ⟨toks, some (.number stage rev)⟩ c = ⟨u :: t :: toks, some .gap⟩ := by
  have hnext : stage.next? c = none := by
    cases stage with
    | zero | whole | fraction | exponent => simp [Stage.next?, hdigit, hc]
    | _ => cases hstage
  have hends : stage.endsBefore c = true := by simp [Stage.endsBefore, hstage, hdigit]
  simp [feed, Mode.next, hnext, endNumber, hends, hopen, hrev]

end Lexing

/-- Whether a token may stand behind a number. -/
def Token.ends : Token → Bool
  | .comma | .colon | .arrClose | .objClose => true
  | _ => false

namespace Lexing

variable {l : Lexing} {ts : List Token} {t : Token}

/-- A token that may stand behind a number has one character, which ends the number. -/
theorem Has.run_end (h : Has l ts) (ht : t.ends = true) :
    l.run t.chars = ⟨(ts ++ [t]).reverse, some .gap⟩ := by
  rw [List.reverse_concat]
  cases h with
  | gap => cases t <;> first | rfl | cases ht
  | number ts hstage hrev =>
      rw [List.reverse_concat]
      cases t with
      | comma | colon | arrClose | objClose =>
          exact feed_end hstage hrev (by decide) (by decide) rfl
      | _ => cases ht

theorem has_of_stage {stage : Stage} {cs : List Char} (hstage : stage = .zero ∨ stage = .whole)
    (hcs : number? cs = some t) :
    Has ⟨ts.reverse, some (.number stage cs.reverse)⟩ (ts ++ [t]) := by
  refine .number ts ?_ (by rwa [List.reverse_reverse])
  rcases hstage with rfl | rfl <;> rfl

/-- **A printed token is read back**, if something has been read before that it may follow. -/
theorem has_run (ts : List Token) (t : Token) (ht : t ≠ .halfPair) :
    Has (run ⟨ts.reverse, some .gap⟩ t.chars) (ts ++ [t]) := by
  have hgap : run ⟨ts.reverse, some .gap⟩ t.chars = ⟨t :: ts.reverse, some .gap⟩ →
      Has (run ⟨ts.reverse, some .gap⟩ t.chars) (ts ++ [t]) := by
    intro h
    rw [h, ← List.reverse_concat]
    exact .gap _
  cases t with
  | int n =>
      obtain ⟨stage, hstage, hrun⟩ := run_intChars ts.reverse n
      rw [Token.chars, hrun]
      exact has_of_stage hstage (number?_intChars n)
  | real m e =>
      obtain ⟨stage, hstage, hrun⟩ := run_intChars ts.reverse m
      have hmark : stage.next? 'e' = some .mark := by rcases hstage with rfl | rfl <;> rfl
      rw [Token.chars, run_append, hrun, run_cons, feed_number hmark, run_exponent]
      refine .number ts rfl ?_
      rw [List.reverse_append, List.reverse_cons, List.reverse_reverse, List.reverse_reverse,
        List.append_assoc]
      exact number?_real m e
  | str s => exact hgap (run_quoted s)
  | bool b => cases b <;> exact hgap rfl
  | halfPair => exact absurd rfl ht
  | _ => exact hgap rfl

/-- All tokens have been read when the text ends. -/
theorem lex_of_has {cs : List Char} (h : Has (run .start cs) ts) : lex cs = ⟨ts, true⟩ := by
  unfold lex
  rw [run] at h
  generalize cs.foldl feed .start = l at h
  cases h with
  | gap => simp [Mode.finish]
  | number ts hstage hrev => simp [Mode.finish, hstage, hrev]

end Lexing

end Chronicle.Json
