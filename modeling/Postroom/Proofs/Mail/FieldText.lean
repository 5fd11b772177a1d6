import Postroom.Mail.EncodedWord
import Postroom.Proofs.Coding.Ascii

/-!
# Field values make no ASCII

Decoding the value of a field yields no more ASCII characters than stand in the value: a word is
longer than what it encodes, blanks are left out or kept, and a line end becomes one space.  So a
value cannot decode to a text that holds the value and more.
-/

namespace Postroom

open Text

theorem EncodedWord.asciiOctets_octets? {coding content : Text} {bytes : Octets}
    (h : octets? coding content = some bytes) : asciiOctets bytes ≤ asciiCount content := by
  unfold octets? at h
  split at h
  · exact (asciiOctets_le_length bytes).trans (Base64.length_decodeLines? h)
  · split at h
    · cases h
      exact QuotedPrintable.asciiOctets_decodeWord content
    · cases h

theorem Charset.isWide_of_ofLabel? {label : Text} {set : Charset} (h : ofLabel? label = some set) :
    set.IsWide := by
  obtain ⟨entry, hfind, rfl⟩ := Option.map_eq_some_iff.1 h
  exact isWide_of_mem_labels entry (List.mem_of_find?_eq_some hfind)

theorem Text.asciiCount_of_splitAtInfix {needle t before after : Text}
    (h : splitAtInfix needle t = some (before, after)) :
    asciiCount t = asciiCount before + asciiCount needle + asciiCount after := by
  rw [eq_of_splitAtInfix h, asciiCount_append, asciiCount_append]

theorem EncodedWord.asciiCount_decode? {word t : Text} (h : decode? word = some t) :
    asciiCount t ≤ asciiCount word := by
  unfold decode? at h
  split at h
  · cases h
  · rename_i label rest hlabel
    split at h
    · cases h
    · rename_i coding content hcoding
      split at h
      · rename_i bytes set hbytes hset
        cases h
        calc asciiCount (set.decode bytes)
          _ ≤ asciiOctets bytes := Charset.asciiCount_decode (Charset.isWide_of_ofLabel? hset) bytes
          _ ≤ asciiCount content := asciiOctets_octets? hbytes
          _ ≤ asciiCount rest := by rw [asciiCount_of_splitAtInfix hcoding]; omega
          _ ≤ asciiCount word := by rw [asciiCount_of_splitAtInfix hlabel]; omega
      · cases h

namespace FieldText

/-! ## Pieces -/

/-- The ASCII characters that a piece can come to. -/
def weight : FieldPiece → ℕ
  | .text t | .blanks t | .word t => asciiCount t
  | .lineEnd => 1

/-- The ASCII characters that pieces can come to. -/
def weights (ps : List FieldPiece) : ℕ :=
  (ps.map weight).sum

@[simp] theorem weights_nil : weights [] = 0 := rfl

@[simp] theorem weights_cons (p : FieldPiece) (ps : List FieldPiece) :
    weights (p :: ps) = weight p + weights ps := by
  simp [weights]

@[simp] theorem weights_append (ps qs : List FieldPiece) :
    weights (ps ++ qs) = weights ps + weights qs := by
  simp [weights]

theorem asciiCount_joinFrom (held : Held) (ps : List FieldPiece) :
    asciiCount (joinFrom held ps) ≤ asciiCount held.text + weights ps := by
  induction ps generalizing held with
  | nil => simp [joinFrom]
  | cons p ps ih =>
    rw [weights_cons]
    cases p with
    | text t =>
      have hrest := ih .nothing
      simp only [joinFrom, asciiCount_append, weight]
      simp only [Held.text, asciiCount_nil] at hrest
      omega
    | word t =>
      have hrest := ih .word
      simp only [joinFrom, asciiCount_append, weight]
      simp only [Held.text, asciiCount_nil] at hrest
      omega
    | blanks t =>
      have hrest := ih .nothing
      have hheld := ih (.blanks t)
      simp only [Held.text, asciiCount_nil] at hrest hheld
      cases held <;> simp only [joinFrom, asciiCount_append, weight, Held.text] <;> omega
    | lineEnd =>
      -- the space that stands for a line end is held back behind a word
      have hspace : asciiCount [' '] = 1 := rfl
      have hrest := ih .nothing
      simp only [Held.text, asciiCount_nil] at hrest
      have hcons := asciiCount_cons_le ' ' (joinFrom .nothing ps)
      cases held with
      | nothing | lineEnd t =>
        simp only [joinFrom, weight]
        omega
      | word =>
        have hheld := ih (.lineEnd [' '])
        simp only [Held.text] at hheld
        simp only [joinFrom, weight, Held.text, asciiCount_nil]
        omega
      | blanks t =>
        have hheld := ih (.lineEnd (t ++ [' ']))
        simp only [Held.text, asciiCount_append] at hheld
        simp only [joinFrom, weight, Held.text]
        omega

theorem weight_plain (t : Text) : weight (plain t) = asciiCount t := by
  unfold plain
  split <;> rfl

/-- A word, read or left as it stands, is no more than what was written. -/
theorem weight_word (content : Text) :
    weight (match EncodedWord.decode? content with
      | some t => .word t
      | none => .text (opening ++ content ++ closing)) ≤ asciiCount content + 4 := by
  split
  · rename_i t h
    exact Nat.le_add_right_of_le (EncodedWord.asciiCount_decode? h)
  · have hopening : asciiCount opening = 2 := rfl
    have hclosing : asciiCount closing = 2 := rfl
    rw [weight, asciiCount_append, asciiCount_append]
    omega

theorem eq_of_wordEnd {line read : Text} {offset : ℕ} {rest content after : Text} {next : ℕ}
    (h : wordEnd line read offset rest = some (content, after, next)) :
    read ++ rest = content ++ closing ++ after := by
  fun_induction wordEnd line read offset rest with
  | case1 => cases h
  | case2 read offset rest before tail hs next' hb =>
    obtain ⟨rfl, rfl, -⟩ : read ++ before = content ∧ tail = after ∧ next' = next := by
      simpa using h
    rw [eq_of_splitAtInfix hs]
    simp
  | case3 read offset rest before tail hs next' hb ih =>
    rw [← ih h, eq_of_splitAtInfix hs]
    simp

theorem weights_piecesFrom (line : Text) (offset : ℕ) (rest : Text) :
    weights (piecesFrom line offset rest) ≤ asciiCount rest := by
  fun_induction piecesFrom line offset rest with
  | case1 offset rest hs => simp [weight_plain]
  | case2 offset rest before after hs start hb ih =>
    rw [asciiCount_of_splitAtInfix hs, weights_cons, weight, asciiCount_append]
    omega
  | case3 offset rest before after hs start hb ih ih' =>
    -- a word may begin here; if it does not end, only its opening is taken
    rw [asciiCount_of_splitAtInfix hs, weights_cons, weight_plain]
    have hopening : asciiCount opening = 2 := rfl
    split
    · rename_i content tail next hword
      have hafter := congrArg asciiCount (eq_of_wordEnd hword)
      have hclosing : asciiCount closing = 2 := rfl
      have htail := ih content tail next hword
      rw [List.nil_append, asciiCount_append, asciiCount_append] at hafter
      rw [weights_cons]
      refine (Nat.add_le_add_left (Nat.add_le_add_right (weight_word content) _) _).trans ?_
      omega
    · rw [weights_cons, weight]
      omega

/-! ## Lines -/

theorem asciiCount_linesFrom (read t : Text) :
    ((linesFrom read t).map fun line => asciiCount line + 1).sum ≤
      asciiCount read + asciiCount t + 1 := by
  fun_induction linesFrom read t with
  | case1 => simp
  | case2 read hread => simp [asciiCount]
  | case3 rest front ih =>
    have hend : asciiCount ('\n' :: rest) = asciiCount rest + 1 := asciiCount_cons '\n' rest
    have hfront : asciiCount front ≤ asciiCount ('\r' :: front) :=
      asciiCount_le_of_sublist (List.sublist_cons_self _ _)
    rw [List.map_cons, List.sum_cons, asciiCount_reverse, hend]
    rw [asciiCount_nil] at ih
    omega
  | case4 read rest hread ih =>
    have hend : asciiCount ('\n' :: rest) = asciiCount rest + 1 := asciiCount_cons '\n' rest
    rw [List.map_cons, List.sum_cons, asciiCount_reverse, hend]
    rw [asciiCount_nil] at ih
    omega
  | case5 read c rest hc ih =>
    rw [asciiCount_cons] at ih ⊢
    omega

theorem weights_ofLine (line : Text) : weights (ofLine (trimStart line)) ≤ asciiCount line :=
  (weights_piecesFrom _ 0 _).trans (asciiCount_le_of_sublist (List.dropWhile_sublist _))

theorem weights_ofLines (lines : List Text) :
    weights (ofLines lines) ≤ (lines.map fun line => asciiCount line + 1).sum - 1 := by
  fun_induction ofLines lines with
  | case1 => simp
  | case2 line => simpa using weights_ofLine line
  | case3 line lines hne ih =>
    have hline := weights_ofLine line
    have hrest : 1 ≤ (lines.map fun line => asciiCount line + 1).sum := by
      obtain ⟨l, ls, rfl⟩ := List.exists_cons_of_ne_nil (show lines ≠ [] by simpa using hne)
      simp only [List.map_cons, List.sum_cons]
      omega
    simp only [weights_append, weights_cons, weight, List.map_cons, List.sum_cons]
    omega

/-- **Decoding makes no ASCII.**  The text of a field value has no more ASCII characters than the
value. -/
theorem asciiCount_decode (value : Text) : asciiCount (decode value) ≤ asciiCount value := by
  have hlines := asciiCount_linesFrom [] value
  rw [asciiCount_nil, Nat.zero_add] at hlines
  calc asciiCount (decode value)
    _ ≤ asciiCount Held.nothing.text + weights (ofLines (lines value)) := asciiCount_joinFrom _ _
    _ = weights (ofLines (lines value)) := by rw [Held.text, asciiCount_nil, Nat.zero_add]
    _ ≤ ((lines value).map fun line => asciiCount line + 1).sum - 1 := weights_ofLines _
    _ ≤ asciiCount value := by
      rw [lines]
      omega

end FieldText

end Postroom
