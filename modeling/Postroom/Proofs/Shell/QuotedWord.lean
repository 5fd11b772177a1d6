import Postroom.Proofs.Text.Ascii
import Postroom.Shell.Runner
import Postroom.Transport.Sender

/-!
# Quoted words

A recipient becomes one more word of a command line, and a shell takes nothing in it for anything
but itself.  `Mode.isUnquoted` says where a word may begin: outside quotes, expansions, comments and
here-documents.  A blank there completes what is at hand (`Lexing.step_space`), and a quoted text is
then read as `Word.ofQuoted` (`Lexing.foldl_quote`), by induction on the text: a quote in it is left
by three steps, which come back to where the next character is read.

`Word.StandsFor` is what the rest of the shell is told about such a word: it is no keyword, alias or
assignment, and it expands to the text and nothing else.
-/

namespace Postroom.Shell

/-- The reading stands outside quotes, expansions, comments and here-documents, and not behind a
backslash.  A dollar sign or a name behind one ends at the next character that cannot go on. -/
def Mode.isUnquoted : Mode → Bool
  | .bare | .operator _ | .dollar false | .name false _ => true
  | _ => false

/-- What has been read at the end of a text. -/
def Lexing.behind (t : Text) : Lexing :=
  t.foldl step .initial

namespace Lexing

variable {l : Lexing} {c : Char}

/-! ## What a reading of commands keeps -/

@[simp] theorem base_push (l : Lexing) (p : Piece) : (l.push p).base = l.base := rfl
@[simp] theorem base_enter (l : Lexing) (m : Mode) : (l.enter m).base = l.base := rfl
@[simp] theorem base_emit (l : Lexing) (t : Lexeme) : (l.emit t).base = l.base := rfl
@[simp] theorem mode_enter (l : Lexing) (m : Mode) : (l.enter m).mode = m := rfl
@[simp] theorem word_enter (l : Lexing) (m : Mode) : (l.enter m).word = l.word := rfl
@[simp] theorem word_emit (l : Lexing) (t : Lexeme) : (l.emit t).word = l.word := rfl
@[simp] theorem tokens_enter (l : Lexing) (m : Mode) : (l.enter m).tokens = l.tokens := rfl

@[simp] theorem base_close (l : Lexing) : l.close.base = l.base := by
  unfold close
  split <;> rfl

@[simp] theorem word_close (l : Lexing) : l.close.word = none := by
  unfold close
  split
  · rfl
  · assumption

/-- What is read are commands, and an operator stands apart from the word in front of it. -/
structure IsOrdered (l : Lexing) : Prop where
  base : l.base = .commands
  word : ∀ read, l.mode = .operator read → l.word = none

theorem isOrdered_initial : initial.IsOrdered :=
  ⟨rfl, fun _ h => nomatch h⟩

/-- In a mode other than that of an operator only the base is asked for. -/
theorem IsOrdered.of_mode (hb : l.base = .commands) (hm : ∀ read, l.mode ≠ .operator read) :
    l.IsOrdered :=
  ⟨hb, fun read h => (hm read h).elim⟩

theorem IsOrdered.ite {p : Prop} [Decidable p] {a b : Lexing} (ha : a.IsOrdered)
    (hb : b.IsOrdered) : (if p then a else b).IsOrdered := by
  split <;> assumption

theorem isOrdered_stepOperator (hb : l.base = .commands) (c : Char) :
    (l.stepOperator c).IsOrdered := by
  unfold stepOperator
  split
  · split <;> exact ⟨by simpa using hb, by simp⟩
  · exact ⟨by simpa using hb, by simp⟩

theorem isOrdered_stepNewline (hb : l.base = .commands) : l.stepNewline.IsOrdered := by
  refine .of_mode (by simpa [stepNewline] using hb) fun read => ?_
  unfold stepNewline
  dsimp only
  split <;> simp

theorem isOrdered_stepBare (hb : l.base = .commands) (c : Char) : (l.stepBare c).IsOrdered := by
  unfold stepBare
  repeat' apply IsOrdered.ite
  all_goals first
    | exact isOrdered_stepNewline hb
    | exact isOrdered_stepOperator hb c
    | exact .of_mode (by simpa using hb) (by simp)

theorem isOrdered_stepDouble (hb : l.base = .commands) (c : Char) :
    (l.stepDouble c).IsOrdered := by
  have hquote : l.stepQuote.IsOrdered := by
    unfold stepQuote
    split <;> exact .of_mode (by simpa using hb) (by simp)
  unfold stepDouble
  refine .ite hquote ?_
  repeat' apply IsOrdered.ite
  all_goals exact .of_mode (by simpa using hb) (by simp)

theorem isOrdered_stepPlain (hb : l.base = .commands) (quoted : Bool) (c : Char) :
    (l.stepPlain quoted c).IsOrdered := by
  unfold stepPlain
  split
  · exact isOrdered_stepDouble hb c
  · exact isOrdered_stepBare hb c

theorem modeAfter_ne_operator (quoted : Bool) (read : Text) :
    modeAfter quoted ≠ .operator read := by
  cases quoted <;> simp [modeAfter]

theorem isOrdered_stepDollar (hb : l.base = .commands) (quoted : Bool) (c : Char) :
    (l.stepDollar quoted c).IsOrdered := by
  unfold stepDollar
  refine .ite (.of_mode hb (by simp)) ?_
  refine .ite (.of_mode hb (by simp [modeAfter_ne_operator])) ?_
  refine .ite (.of_mode hb (by simp)) ?_
  refine .ite (.of_mode hb (by simp)) ?_
  exact isOrdered_stepPlain (by simpa using hb) quoted c

theorem isOrdered_closeDocument (hb : l.base = .commands) (d : Pending) (rest : List Pending)
    (body : Text) : (l.closeDocument d rest body).IsOrdered := by
  refine .of_mode hb fun read => ?_
  unfold closeDocument
  dsimp only
  split <;> simp

theorem isOrdered_takeRow (hb : l.base = .commands) (body row : Text) (isComplete : Bool) :
    (l.takeRow body row isComplete).IsOrdered := by
  unfold takeRow
  split
  · exact .of_mode hb (by simp)
  · exact .ite (isOrdered_closeDocument hb ..)
      (.ite (.of_mode hb (by simp)) (isOrdered_closeDocument hb ..))

/-- What one character keeps. -/
theorem IsOrdered.step (h : l.IsOrdered) (c : Char) : (l.step c).IsOrdered := by
  have hb := h.base
  suffices hs : (l.stepMode c).IsOrdered from ⟨hs.base, hs.word⟩
  unfold stepMode
  match hm : l.mode with
  | .bare => exact isOrdered_stepBare hb c
  | .escaped => exact .ite (.of_mode hb (by simp)) (.of_mode hb (by simp))
  | .single =>
    exact .ite (.of_mode hb (by simp)) (.of_mode hb (by simp [push, hm]))
  | .double => exact isOrdered_stepDouble hb c
  | .doubleEscaped =>
    exact .ite (.of_mode hb (by simp)) (.ite (.of_mode hb (by simp)) (.of_mode hb (by simp)))
  | .comment => exact .ite (isOrdered_stepNewline hb) h
  | .operator read =>
    exact .ite ⟨hb, fun _ _ => h.word read hm⟩ (isOrdered_stepBare (by simpa using hb) c)
  | .dollar quoted => exact isOrdered_stepDollar hb quoted c
  | .name quoted read =>
    exact .ite (.of_mode hb (by simp)) (isOrdered_stepPlain (by simpa using hb) quoted c)
  | .nested quoted n =>
    exact .ite (.of_mode hb (by simp [modeAfter_ne_operator])) (.of_mode hb (by simp))
  | .document body row =>
    exact .ite (isOrdered_takeRow hb body row.reverse true) (.of_mode hb (by simp))

/-- What any text keeps. -/
theorem isOrdered_behind (t : Text) : (behind t).IsOrdered :=
  List.foldlRecOn t step isOrdered_initial fun _ h c _ => h.step c

/-! ## The blank behind a command -/

/-- The reading stands between words, and has come to the given tokens. -/
structure IsBetween (l : Lexing) (tokens : List Token) : Prop where
  base : l.base = .commands
  mode : l.mode = .bare
  word : l.word = none
  tokens : l.tokens = tokens

theorem append_space_not_mem_operators (read : Text) : read ++ [' '] ∉ operators := by
  have h : ∀ o ∈ operators, ' ' ∉ o := by decide
  exact fun hmem => h _ hmem (by simp)

theorem isBetween_stepBare_space (hb : l.base = .commands) :
    (l.stepBare ' ').IsBetween l.close.tokens := by
  have : l.stepBare ' ' = l.close.enter .bare := by simp [stepBare, hb]
  rw [this]
  exact ⟨by simpa using hb, rfl, by simp, rfl⟩

/-- Outside quotes a blank completes what is at hand as the end of the text would. -/
theorem IsOrdered.step_space (h : l.IsOrdered) (hm : l.mode.isUnquoted) :
    (l.step ' ').IsBetween l.finish.tokens := by
  have hb := h.base
  suffices hs : (l.stepMode ' ').IsBetween l.finish.tokens from ⟨hs.1, hs.2, hs.3, hs.4⟩
  unfold stepMode finish
  match hmode : l.mode with
  | .bare => exact isBetween_stepBare_space hb
  | .operator read =>
    have hw := h.word read hmode
    simpa [append_space_not_mem_operators, close, hw, emit] using
      isBetween_stepBare_space (l := l.emit (.operator read)) hb
  | .dollar false => exact isBetween_stepBare_space (l := l.push (.char '$' false)) hb
  | .name false read => exact isBetween_stepBare_space (l := l.push (.param read false)) hb
  | .escaped | .single | .double | .doubleEscaped | .comment | .dollar true | .name true _
  | .nested .. | .document .. => simp [hmode, Mode.isUnquoted] at hm

end Lexing

/-! ## A quoted text -/

namespace Word

/-- How a character is read that stands in a quoted text. -/
def quotedChar (c : Char) : Word :=
  if c = '\'' then [.quotes, .char c true, .quotes] else [.char c true]

/-- How a quoted text is read. -/
def ofQuoted (t : Text) : Word :=
  .quotes :: t.flatMap quotedChar ++ [.quotes]

end Word

namespace Lexing

variable {l : Lexing} {w : Word} {ts : List Token}

/-- Within single quotes a character adds its pieces, and the reading is within them again. -/
theorem foldl_quoteChar (hm : l.mode = .single) (hw : l.word = some w) (c : Char) :
    (quoteChar c).foldl step l =
      { l with
        word := some (w ++ Word.quotedChar c)
        line := l.line + [c].count '\n' } := by
  unfold quoteChar Word.quotedChar
  split
  case isTrue hc =>
    subst hc
    simp [step, stepMode, stepBare, push, enter, hm, hw]
  case isFalse hc =>
    by_cases hn : c = '\n' <;> simp [step, stepMode, push, hm, hw, hc, hn]

/-- So does a text. -/
theorem foldl_flatMap_quoteChar (hm : l.mode = .single) (hw : l.word = some w) (t : Text) :
    (t.flatMap quoteChar).foldl step l =
      { l with
        word := some (w ++ t.flatMap Word.quotedChar)
        line := l.line + t.count '\n' } := by
  induction t generalizing l w with
  | nil => simp [← hw]
  | cons c t ih =>
    rw [List.flatMap_cons, List.foldl_append, foldl_quoteChar hm hw]
    refine (ih (by exact hm) (by rfl)).trans ?_
    simp [List.count_cons, Nat.add_comm, Nat.add_left_comm]

/-- Between words a quoted text is read as one more. -/
theorem IsBetween.foldl_quote (h : l.IsBetween ts) (t : Text) :
    (quote t).foldl step l =
      { l with word := some (Word.ofQuoted t), line := l.line + t.count '\n' } := by
  have hopen : l.step '\'' = { l with word := some [.quotes], mode := .single } := by
    simp [step, stepMode, stepBare, push, enter, h.mode, h.word]
  rw [quote, List.cons_append, List.foldl_cons, List.foldl_append, hopen,
    foldl_flatMap_quoteChar rfl rfl]
  simp [step, stepMode, push, enter, Word.ofQuoted, h.mode]

theorem IsBetween.finish_quote (h : l.IsBetween ts) (t : Text) :
    ∃ line, ((quote t).foldl step l).finish.tokens = ⟨.word (Word.ofQuoted t), line⟩ :: ts := by
  refine ⟨l.line + t.count '\n', ?_⟩
  simp [h.foldl_quote, finish, close, emit, h.mode, h.tokens]

end Lexing

/-! ## Literal words -/

/-- The piece stands for itself wherever its word stands: nothing looks for a meaning in it. -/
def Piece.isLiteral : Piece → Bool
  | .quotes | .char _ true => true
  | _ => false

/-- The word is not empty, and all its pieces stand for themselves. -/
def Word.IsLiteral (w : Word) : Prop :=
  w ≠ [] ∧ ∀ p ∈ w, p.isLiteral

/-- The part that a literal piece of a word is of the expanded word. -/
def Piece.mark : Piece → Mark
  | .char c _ => .char c true
  | _ => .quotes

namespace Word

variable {w : Word} {t : Text}

/-- What a literal word holds is its value. -/
theorem text_map_mark (hw : ∀ p ∈ w, p.isLiteral) (ht : w.value? = some t) :
    Marks.text (w.map Piece.mark) = t := by
  induction w generalizing t with
  | nil => exact Option.some.inj ht
  | cons p w ih =>
    have ih' {s} := ih (t := s) fun q hq => hw q (List.mem_cons_of_mem p hq)
    match p, hw p List.mem_cons_self with
    | .quotes, _ => exact ih' ht
    | .char c true, _ =>
      obtain ⟨s, hs, rfl⟩ := Option.map_eq_some_iff.1 ht
      simp [Marks.text, Piece.mark, ← ih' hs]

/-- A literal word is one field. -/
theorem fields_map_mark (hw : w.IsLiteral) (separators : Text) :
    Marks.fields separators (w.map Piece.mark) = [w.map Piece.mark] := by
  have hfold (v : Word) (s : Marks.Cut) : ∃ b, (v.map Piece.mark).foldl (.step separators) s =
      { s with current := (v.map Piece.mark).reverse ++ s.current, isBehindBlank := b } := by
    induction v generalizing s with
    | nil => exact ⟨s.isBehindBlank, rfl⟩
    | cons p v ih =>
      obtain ⟨b, hb⟩ := ih (s.step separators p.mark)
      refine ⟨b, hb.trans ?_⟩
      cases p <;> simp [Piece.mark, Marks.Cut.step]
  obtain ⟨b, hb⟩ := hfold w (.start none)
  rw [Marks.fields, hb]
  simp [Marks.Cut.start, Marks.Cut.finish, Marks.Cut.endField, hw.1]

end Word

namespace Glob

theorem isOpen_readFrom_quoted (ms : List Mark) (h : ∀ m ∈ ms, m.2) (fuel : ℕ) :
    (readFrom fuel ms).isOpen = false := by
  induction fuel generalizing ms with
  | zero => rfl
  | succ fuel ih =>
    match ms with
    | [] => rfl
    | (c, quoted) :: ms =>
      obtain rfl : quoted = true := h _ List.mem_cons_self
      simpa [readFrom, isOpen] using ih ms fun m hm => h m (List.mem_cons_of_mem _ hm)

end Glob

namespace Action

open Word

variable {w : Word} {m : Machine}

/-- The pieces of a literal word are resolved one by one. -/
theorem resolve_cons {p : Piece} (hp : p.isLiteral) (hw : ∀ q ∈ w, q.isLiteral)
    (run : LineRunner) (fuel : ℕ) (manner : Manner) (isBehind : Bool) :
    resolve run (fuel + 1) manner isBehind (p :: w) = (do
      if !(← isRunning) then return []
      let marks ← piece run fuel manner p
      return marks ++ (← resolve run fuel manner false w)) := by
  match p, hp with
  | .char c true, _ => rfl
  | .quotes, _ =>
    match w with
    | [] => rfl
    | q :: w =>
      match q, hw q List.mem_cons_self with
      | .quotes, _ => rfl
      | .char c true, _ => rfl

theorem piece_of_isLiteral {p : Piece} (hp : p.isLiteral) (run : LineRunner) (fuel : ℕ)
    (manner : Manner) : piece run (fuel + 1) manner p = return [p.mark] := by
  match p, hp with
  | .quotes, _ | .char c true, _ => rfl

/-- A literal word is resolved to its own characters, in the state that it is met in. -/
theorem run_resolve (hw : ∀ p ∈ w, p.isLiteral) (hm : m.flow = .running) (run : LineRunner)
    (manner : Manner) (isBehind : Bool) {fuel : ℕ} (hf : w.length < fuel) :
    (resolve run fuel manner isBehind w).run m = pure (w.map Piece.mark, m) := by
  induction w generalizing fuel isBehind with
  | nil =>
    match fuel, hf with
    | fuel + 1, _ => rfl
  | cons p w ih =>
    match fuel, hf with
    | fuel + 2, hf =>
      have hp := hw p List.mem_cons_self
      have hw' : ∀ q ∈ w, q.isLiteral := fun q hq => hw q (List.mem_cons_of_mem p hq)
      have hrest : (resolve run (fuel + 1) manner false w).run m = pure (w.map Piece.mark, m) :=
        ih hw' false (by simpa using hf)
      rw [resolve_cons hp hw', piece_of_isLiteral hp]
      simp [isRunning, hm, hrest]

theorem run_marks (hw : w.IsLiteral) (hm : m.flow = .running) (run : LineRunner)
    (manner : Manner) : (marks run manner w).run m = pure (w.map Piece.mark, m) :=
  run_resolve hw.2 hm run manner false (by unfold resolveFuel; omega)

theorem tilde_of_isLiteral (hw : w.IsLiteral) (inValue : Bool) : m.tilde inValue w = w := by
  unfold Machine.tilde
  split
  · exact absurd (hw.2 _ List.mem_cons_self) (by simp [Piece.isLiteral])
  · rfl

/-- A literal word is no pattern of paths. -/
theorem paths_map_mark (hw : w.IsLiteral) (m : Machine) {t : Text} (ht : w.value? = some t) :
    Marks.paths m (w.map Piece.mark) = [t] := by
  have hopen : (Marks.glob (w.map Piece.mark)).isOpen = false := by
    refine Glob.isOpen_readFrom_quoted _ (fun r hr => ?_) _
    obtain ⟨k, hk, hkr⟩ := List.mem_filterMap.1 hr
    obtain ⟨p, -, rfl⟩ := List.mem_map.1 hk
    cases p <;> cases hkr
    rfl
  rw [Marks.paths, if_pos (by simp [hopen]), text_map_mark hw.2 ht]

/-- A literal word adds its value to the fields of the words behind it. -/
theorem run_expand_cons (hw : w.IsLiteral) (hm : m.flow = .running) {t : Text}
    (ht : w.value? = some t) (run : LineRunner) (ws : List Word) :
    (expand run (w :: ws)).run m =
      (t :: ((expand run ws).run m).1, ((expand run ws).run m).2) := by
  have h : (expand run (w :: ws)).run m =
      ((Marks.fields m.separators (w.map Piece.mark)).flatMap (Marks.paths m) ++
        ((expand run ws).run m).1, ((expand run ws).run m).2) := by
    rw [expand]
    simp only [StateT.run_bind, StateT.run_get, pure_bind, tilde_of_isLiteral hw,
      run_marks hw hm]
    -- what the words behind it come to is not looked into
    generalize (expand run ws).run m = rest
    rfl
  simpa [fields_map_mark hw, paths_map_mark hw m ht] using h

theorem run_textOf (hw : w.IsLiteral) (hm : m.flow = .running) {t : Text}
    (ht : w.value? = some t) (run : LineRunner) : (textOf run w).run m = (t, m) := by
  have h : (textOf run w).run m = (Marks.text (w.map Piece.mark), m) := by
    simp [textOf, tilde_of_isLiteral hw, run_marks hw hm]
    rfl
  rw [h, text_map_mark hw.2 ht]

end Action

/-! ## What a quoted word stands for -/

namespace Word

/-- The word stands for a text: it is not to be replaced, it is no keyword and no alias, it sets no
variable, and in a shell that runs it is the text as a field and as a target, whatever the state,
which it leaves as it is. -/
structure StandsFor (w : Word) (t : Text) : Prop where
  literal : w.IsLiteral
  value : w.value? = some t
  bare : w.bare? = none
  assignment : w.assignment? = none
  expand : ∀ run ws (m : Machine), m.flow = .running →
    (Action.expand run (w :: ws)).run m =
      (t :: ((Action.expand run ws).run m).1, ((Action.expand run ws).run m).2)
  textOf : ∀ run (m : Machine), m.flow = .running → (Action.textOf run w).run m = (t, m)

variable {w : Word} {t : Text}

theorem isLiteral_ofQuoted (t : Text) : (ofQuoted t).IsLiteral := by
  refine ⟨by simp [ofQuoted], fun p hp => ?_⟩
  simp only [ofQuoted, List.cons_append, List.mem_cons, List.mem_append, List.mem_flatMap,
    List.not_mem_nil, or_false] at hp
  obtain rfl | ⟨c, -, hc⟩ | rfl := hp
  · rfl
  · unfold quotedChar at hc
    split at hc <;> simp only [List.mem_cons, List.not_mem_nil, or_false] at hc
    · obtain rfl | rfl | rfl := hc <;> rfl
    · rw [hc]; rfl
  · rfl

theorem value?_ofQuoted (t : Text) : (ofQuoted t).value? = some t := by
  have h : value? (t.flatMap quotedChar ++ [.quotes]) = some t := by
    induction t with
    | nil => rfl
    | cons c t ih =>
      -- marks of quotes have no value, so each character has its own
      have hcons : value? (quotedChar c ++ (t.flatMap quotedChar ++ [.quotes])) =
          (value? (t.flatMap quotedChar ++ [.quotes])).map (c :: ·) := by
        unfold quotedChar
        split <;> rfl
      rw [List.flatMap_cons, List.append_assoc, hcons, ih, Option.map_some]
  exact h

theorem bare?_ofQuoted (t : Text) : (ofQuoted t).bare? = none := by
  simp [ofQuoted, bare?]

theorem assignment?_ofQuoted (t : Text) : (ofQuoted t).assignment? = none := by
  simp [ofQuoted, assignment?, bare?]

theorem standsFor_ofQuoted (t : Text) : (ofQuoted t).StandsFor t where
  literal := isLiteral_ofQuoted t
  value := value?_ofQuoted t
  bare := bare?_ofQuoted t
  assignment := assignment?_ofQuoted t
  expand run ws _ hm :=
    Action.run_expand_cons (isLiteral_ofQuoted t) hm (value?_ofQuoted t) run ws
  textOf run _ hm := Action.run_textOf (isLiteral_ofQuoted t) hm (value?_ofQuoted t) run

end Word

/-- Behind a front that ends outside quotes, a quoted text is one more word. -/
theorem lex_append_quote {front : Text} (h : (Lexing.behind front).mode.isUnquoted) (t : Text) :
    ∃ line, lex (front ++ ' ' :: quote t) =
      lex front ++ [⟨.word (Word.ofQuoted t), line⟩] := by
  obtain ⟨line, hline⟩ :=
    ((Lexing.isOrdered_behind front).step_space h).finish_quote t
  refine ⟨line, ?_⟩
  rw [lex, List.foldl_append, List.foldl_cons]
  exact (congrArg List.reverse hline).trans List.reverse_cons

/-! ## Octets -/

theorem octetText_append (s t : Text) : octetText (s ++ t) = octetText s ++ octetText t := by
  simp [octetText, Utf8.ofLatin1]

/-- A single quote among the octets of a character is the character. -/
theorem quote_not_mem_octetText {c : Char} (hc : c ≠ '\'') : '\'' ∉ octetText [c] := by
  intro h
  obtain ⟨b, hb, hbc⟩ := List.mem_map.1 h
  have hnat : b.toNat = 0x27 := by rw [← toNat_ofNat_octet b, hbc]; rfl
  refine hc ((Utf8.eq_of_mem_encodeChar (by omega) ?_).trans hbc)
  simpa [Utf8.encode] using hb

theorem flatMap_quoteChar_of_not_mem {t : Text} (h : '\'' ∉ t) : t.flatMap quoteChar = t := by
  induction t with
  | nil => rfl
  | cons c t ih =>
    obtain ⟨hc, ht⟩ := not_or.1 (mt List.mem_cons.2 h)
    rw [List.flatMap_cons, ih ht, quoteChar, if_neg (Ne.symm hc), List.singleton_append]

/-- Quoting a text and taking its octets do not meet. -/
theorem octetText_quote (t : Text) : octetText (quote t) = quote (octetText t) := by
  have hchar (c : Char) : octetText (quoteChar c) = (octetText [c]).flatMap quoteChar := by
    by_cases hc : c = '\''
    · subst hc
      decide
    · rw [flatMap_quoteChar_of_not_mem (quote_not_mem_octetText hc), quoteChar, if_neg hc]
  have htext : octetText (t.flatMap quoteChar) = (octetText t).flatMap quoteChar := by
    induction t with
    | nil => rfl
    | cons c t ih =>
      rw [List.flatMap_cons, octetText_append, ih, hchar, ← List.flatMap_append,
        ← octetText_append, List.singleton_append]
  calc octetText (quote t)
      = octetText ['\''] ++ octetText (t.flatMap quoteChar) ++ octetText ['\''] := by
        simp [quote, ← octetText_append]
    _ = quote (octetText t) := by
        rw [htext]
        rfl

end Postroom.Shell

namespace Postroom.Sendmail

open Shell

/-- **Quoting is exact.**  Behind a command that leaves the shell outside quotes, the command line
for a recipient is the command with one more word, which stands for the recipient and nothing else,
whatever characters it is made of; so it is for the octets that the shell reads. -/
theorem lex_commandLine (c : SendmailConfig) (recipient : Text) :
    ((Lexing.behind c.command).mode.isUnquoted →
      ∃ w line, lex (commandLine c recipient) = lex c.command ++ [⟨.word w, line⟩] ∧
        w.StandsFor recipient) ∧
    ((Lexing.behind (octetText c.command)).mode.isUnquoted →
      ∃ w line, lex (octetText (commandLine c recipient)) =
          lex (octetText c.command) ++ [⟨.word w, line⟩] ∧
        w.StandsFor (octetText recipient)) := by
  constructor
  · intro h
    obtain ⟨line, hline⟩ := lex_append_quote h recipient
    exact ⟨_, line, hline, Word.standsFor_ofQuoted recipient⟩
  · intro h
    obtain ⟨line, hline⟩ := lex_append_quote h (octetText recipient)
    refine ⟨_, line, ?_, Word.standsFor_ofQuoted (octetText recipient)⟩
    have hblank : octetText (commandLine c recipient) =
        octetText c.command ++ ' ' :: quote (octetText recipient) := by
      rw [commandLine, octetText_append, ← octetText_quote]
      exact congrArg _ (octetText_append [' '] _)
    rw [hblank, hline]

/-- A command with quotes, an expansion and a redirection of its own, and a recipient that would
leave the quotes, begin others and run commands. -/
theorem lex_commandLine_hostile :
    let c : SendmailConfig := ⟨"A=\"$B\" sendmail -f 'o b' `id` 2>>log &".toList⟩
    let recipient := "o'neil\n\\'; $(rm -rf ~) `id` \"é\" #&".toList
    (∃ w line, lex (commandLine c recipient) = lex c.command ++ [⟨.word w, line⟩] ∧
      w.StandsFor recipient) ∧
    ∃ w line, lex (octetText (commandLine c recipient)) =
        lex (octetText c.command) ++ [⟨.word w, line⟩] ∧
      w.StandsFor (octetText recipient) :=
  ⟨(lex_commandLine _ _).1 (by decide), (lex_commandLine _ _).2 (by decide)⟩

end Postroom.Sendmail
