import Postroom.Proofs.Mail.Author
import Postroom.Proofs.Mail.FieldText
import Postroom.Proofs.Mail.HeaderBlock

/-!
# Reading back what is sent on

A message that is sent on gets the fields it needs in front.  Their lines are read as exactly these
fields, and the message behind them as before, with two exceptions.  A line feed in the domain of
the author, which the author may have written in an encoded word, ends the line of `Message-ID`
early; and a message that begins with a tab goes on with the last line in front of it.
`Forward.prepare_readsBack_iff` shows that these are exceptions and that there are no others.

That a broken line is never read as it is meant takes an argument: an author might write just the
fields of the message into the domain.  But one of these fields names the author, so it would have
to decode to a text that holds it and more, and decoding makes no ASCII characters.
-/

namespace Postroom

namespace Utf8

/-- An ASCII octet of an encoded text is one of its characters. -/
theorem mem_of_mem_encode {t : Text} {b : UInt8} (hb : b.toNat < 0x80) (h : b ∈ encode t) :
    Char.ofNat b.toNat ∈ t := by
  obtain ⟨c, hc, hmem⟩ := List.mem_flatMap.1 h
  exact eq_of_mem_encodeChar hb hmem ▸ hc

theorem lf_not_mem_encode {t : Text} (h : '\n' ∉ t) : Field.lf ∉ encode t :=
  fun hmem => h (mem_of_mem_encode (by decide) hmem)

end Utf8

namespace Forward

/-- The names of the fields that a message needs and does not have, in order.  A date is needed only
when the parts of the message can be read. -/
def missingNames (m : Message) : List Text :=
  (["MIME-Version".toList, "Message-ID".toList] ++
    if (Multipart.check m.raw).isOk then ["Date".toList] else []).filter
      fun name => (m.header name).isNone

/-- The message as it is sent on can be read, and its fields are fields of the missing names, with
the version as it has to be, and then those of the message. -/
def ReadsBack (stamp : Stamp) (m : Message) : Prop :=
  ∃ added, Message.ofOctets (prepare stamp m).1 = .ok ⟨(prepare stamp m).1, added ++ m.fields⟩ ∧
    added.map (·.1) = missingNames m ∧
    ∀ e ∈ added, e.1 = "MIME-Version".toList → e.2 = "1.0".toList

/-! ## The lines in front -/

/-- The names and values of the fields put in front. -/
def entries (stamp : Stamp) (m : Message) : List (Text × Text) :=
  ([("MIME-Version".toList, "1.0".toList), ("Message-ID".toList, messageId stamp m)] ++
    if isSound m then [("Date".toList, stamp.now)] else []).filter
      fun e => (m.header e.1).isNone

/-- The same as octets. -/
def encodedEntries (stamp : Stamp) (m : Message) : List (Octets × Octets) :=
  (entries stamp m).map fun e => (Utf8.encode e.1, Utf8.encode e.2)

/-- What stands before the line feeds of the lines in front. -/
def ending (m : Message) : Octets :=
  if hasCrlf m.raw then [Field.cr] else []

variable {stamp : Stamp} {m : Message}

theorem eq_cr_of_mem_ending : ∀ b ∈ ending m, b = Field.cr := by
  unfold ending
  split <;> simp

theorem encode_missing (name value : Text) :
    Utf8.encode (missing m name value) =
      if (m.header name).isNone then
        Field.line (ending m) (Utf8.encode name) (Utf8.encode value)
      else [] := by
  have hend : Utf8.encode (lineEnd m) = ending m ++ [Field.lf] := by
    unfold lineEnd ending
    split <;> rfl
  have hcolon : Utf8.encode [':', ' '] = [0x3A, 0x20] := rfl
  unfold missing
  cases m.header name with
  | none =>
    rw [Option.isSome_none, if_neg (by decide), Option.isNone_none, if_pos rfl,
      Utf8.encode_append, Utf8.encode_append, Utf8.encode_append, hcolon, hend, Field.line]
    simp
  | some _ => rfl

/-- What is put in front is a line for each entry. -/
theorem encode_preamble : Utf8.encode (preamble stamp m (isSound m)) =
    (encodedEntries stamp m).flatMap fun e => Field.line (ending m) e.1 e.2 := by
  have hfilter : ∀ es : List (Text × Text),
      (((es.filter fun e => (m.header e.1).isNone).map fun e =>
        (Utf8.encode e.1, Utf8.encode e.2)).flatMap fun e => Field.line (ending m) e.1 e.2) =
      es.flatMap fun e => Utf8.encode (missing m e.1 e.2) := by
    intro es
    induction es with
    | nil => rfl
    | cons e es ih =>
      rw [List.flatMap_cons, encode_missing, ← ih, List.filter_cons]
      split <;> rfl
  rw [encodedEntries, entries, hfilter, preamble]
  split <;> simp

theorem map_entries (stamp : Stamp) (m : Message) :
    (entries stamp m).map (·.1) = missingNames m := by
  have hnames : ∀ es : List (Text × Text), (es.filter fun e => (m.header e.1).isNone).map (·.1) =
      (es.map (·.1)).filter fun name => (m.header name).isNone := by
    intro es
    rw [List.filter_map]
    rfl
  have hdates : ∀ (b : Bool) (date now : Text),
      (if b then [(date, now)] else []).map (·.1) = if b then [date] else [] := by
    intro b date now
    cases b <;> rfl
  have hsound : (m.header "Date".toList).isNone → isSound m = (Multipart.check m.raw).isOk := by
    intro hnone
    unfold isSound hasSoundDate
    rw [Option.isNone_iff_eq_none.1 hnone]
    cases Multipart.check m.raw <;> rfl
  rw [entries, hnames, List.map_append, hdates, missingNames, List.filter_append,
    List.filter_append]
  refine congrArg₂ (· ++ ·) rfl ?_
  generalize "Date".toList = date at hsound
  by_cases hnone : (m.header date).isNone = true
  · rw [hsound hnone]
  · -- a message with a date gets none, whatever else holds of it
    cases isSound m <;> cases (Multipart.check m.raw).isOk <;> simp [hnone]

theorem mem_entries {e : Text × Text} (he : e ∈ entries stamp m) :
    e = ("MIME-Version".toList, "1.0".toList) ∨
      e = ("Message-ID".toList, messageId stamp m) ∧ (m.header "Message-ID".toList).isNone ∨
      e = ("Date".toList, stamp.now) := by
  obtain ⟨hmem, hnone⟩ := List.mem_filter.1 he
  rcases List.mem_append.1 hmem with hmem | hmem
  · rcases List.mem_cons.1 hmem with rfl | hmem
    · exact Or.inl rfl
    · obtain rfl := List.mem_singleton.1 hmem
      exact Or.inr (Or.inl ⟨rfl, hnone⟩)
  · split at hmem
    · exact Or.inr (Or.inr (List.mem_singleton.1 hmem))
    · cases hmem

theorem isName_encode : ∀ name ∈ ["MIME-Version".toList, "Message-ID".toList, "Date".toList],
    Field.isName (Utf8.encode name) = true := by
  decide

theorem isName_of_mem {e : Octets × Octets} (he : e ∈ encodedEntries stamp m) :
    Field.isName e.1 = true := by
  obtain ⟨e, hmem, rfl⟩ := List.mem_map.1 he
  refine isName_encode e.1 ?_
  rcases mem_entries hmem with rfl | ⟨rfl, -⟩ | rfl <;> simp

theorem lf_not_mem_opening (huuid : '\n' ∉ stamp.uuid) :
    Field.lf ∉ Utf8.encode ('<' :: stamp.uuid ++ ['@']) := by
  refine Utf8.lf_not_mem_encode ?_
  simpa using huuid

/-- Of the identifier of a message, only the domain can break the line. -/
theorem folded_messageId (m : Message) (huuid : '\n' ∉ stamp.uuid) :
    Field.folded (Utf8.encode (messageId stamp m)) = Field.folded (Utf8.encode (domain m)) := by
  have hid : messageId stamp m = ('<' :: stamp.uuid ++ ['@']) ++ domain m ++ ['>'] := by
    simp [messageId]
  rw [hid, Utf8.encode_append, Utf8.encode_append, List.append_assoc,
    Field.folded_append_of_not_mem (lf_not_mem_opening huuid),
    Field.folded_append (by decide) (by decide)]
  exact Bool.and_true _

theorem folded_of_mem (huuid : '\n' ∉ stamp.uuid) (hnow : '\n' ∉ stamp.now)
    (hid : (m.header "Message-ID".toList).isSome ∨ Field.folded (Utf8.encode (domain m)) = true)
    {e : Octets × Octets} (he : e ∈ encodedEntries stamp m) : Field.folded e.2 = true := by
  obtain ⟨e, hmem, rfl⟩ := List.mem_map.1 he
  rcases mem_entries hmem with rfl | ⟨rfl, hnone⟩ | rfl
  · decide
  · rcases hid with hsome | hfolded
    · rw [Option.isNone_iff_eq_none.1 hnone] at hsome
      cases hsome
    · exact (folded_messageId m huuid).trans hfolded
  · exact Field.folded_of_not_mem (Utf8.lf_not_mem_encode hnow)

/-- The names in front are the missing ones. -/
theorem map_ofLatin1_encodedEntries (stamp : Stamp) (m : Message) :
    (encodedEntries stamp m).map (fun e => Utf8.ofLatin1 e.1) = missingNames m := by
  rw [← map_entries stamp, encodedEntries, List.map_map]
  refine List.map_congr_left fun e he => ?_
  rcases mem_entries he with rfl | ⟨rfl, -⟩ | rfl <;> rfl

/-- The names of the fields that the lines read as are the missing ones, and the version is the one
that was put there. -/
theorem map_readField_entries (stamp : Stamp) (m : Message) :
    let added := (encodedEntries stamp m).map fun e =>
      Message.readField (Field.ofLine (ending m) e.1 e.2)
    added.map (·.1) = missingNames m ∧
      ∀ e ∈ added, e.1 = "MIME-Version".toList → e.2 = "1.0".toList := by
  intro added
  constructor
  · rw [← map_ofLatin1_encodedEntries stamp, List.map_map]
    rfl
  · intro f hf hname
    obtain ⟨_, hmem, rfl⟩ := List.mem_map.1 hf
    obtain ⟨e, he, rfl⟩ := List.mem_map.1 hmem
    rcases mem_entries he with rfl | ⟨rfl, -⟩ | rfl
    · unfold ending
      split <;> decide +kernel
    · have hname : Utf8.ofLatin1 (Utf8.encode "Message-ID".toList) = _ := hname
      exact absurd hname (by decide)
    · have hname : Utf8.ofLatin1 (Utf8.encode "Date".toList) = _ := hname
      exact absurd hname (by decide)

/-! ## When the lines are read as they are meant -/

theorem length_encodedEntries (stamp : Stamp) (m : Message) :
    (encodedEntries stamp m).length = (missingNames m).length :=
  calc (encodedEntries stamp m).length
    _ = (entries stamp m).length := List.length_map _
    _ = ((entries stamp m).map (·.1)).length := (List.length_map _).symm
    _ = (missingNames m).length := congrArg List.length (map_entries stamp m)

/-- Nothing is put in front of a message that lacks nothing. -/
theorem encodedEntries_eq_nil_iff : encodedEntries stamp m = [] ↔ missingNames m = [] := by
  rw [← List.length_eq_zero_iff, length_encodedEntries, List.length_eq_zero_iff]

theorem exists_readBlock_of_ofOctets {raw : Octets} {m : Message}
    (h : Message.ofOctets raw = .ok m) : ∃ fields body,
      Field.readBlock raw = .ok (fields, body) ∧ m.fields = fields.map Message.readField := by
  unfold Message.ofOctets at h
  split at h
  · rename_i fields body hblock
    cases h
    exact ⟨fields, body, hblock, rfl⟩
  · cases h

/-- When the message has no identifier, the line of the identifier stands behind folded ones, and in
front of at most one, which is for the date. -/
theorem exists_encodedEntries (stamp : Stamp) (hid : (m.header "Message-ID".toList).isNone) :
    ∃ before after, encodedEntries stamp m =
        before ++ (Utf8.encode "Message-ID".toList, Utf8.encode (messageId stamp m)) :: after ∧
      (∀ e ∈ before, Field.folded e.2 = true) ∧
      (after = [] ∨ (m.header "Date".toList).isNone ∧
        after = [(Utf8.encode "Date".toList, Utf8.encode stamp.now)]) := by
  have hsplit : ∀ (a b : Text × Text) (rest : List (Text × Text)), (m.header b.1).isNone →
      (([a, b] ++ rest).filter fun e => (m.header e.1).isNone) =
        ([a].filter fun e => (m.header e.1).isNone) ++
          b :: rest.filter fun e => (m.header e.1).isNone := by
    intro a b rest hb
    have hfilter : ((b :: rest).filter fun e => (m.header e.1).isNone) =
        b :: rest.filter fun e => (m.header e.1).isNone := List.filter_cons_of_pos hb
    rw [show [a, b] ++ rest = [a] ++ b :: rest from rfl, List.filter_append, hfilter]
  rw [encodedEntries, entries, hsplit _ _ _ hid, List.map_append, List.map_cons]
  refine ⟨_, _, rfl, fun e he => ?_, ?_⟩
  · obtain ⟨e, hmem, rfl⟩ := List.mem_map.1 he
    obtain rfl := List.mem_singleton.1 (List.mem_of_mem_filter hmem)
    exact Field.folded_of_not_mem (by decide)
  · split
    · rw [List.filter_cons]
      split
      · rename_i hdate
        exact Or.inr ⟨hdate, rfl⟩
      · exact Or.inl rfl
    · exact Or.inl rfl

/-- The line feed that ends the line of the identifier early, with what is left of the line. -/
theorem exists_messageId_of_not_folded (huuid : '\n' ∉ stamp.uuid)
    (hfolded : Field.folded (Utf8.encode (domain m)) = false) :
    ∃ value left, Utf8.encode (messageId stamp m) = value ++ Field.lf :: left ∧
      Field.folded value = true ∧ Field.startsAfresh left ∧ left ≠ [] ∧
      asciiOctets left ≤ Text.asciiCount (domain m) := by
  have hid : messageId stamp m = ('<' :: stamp.uuid ++ ['@']) ++ (domain m ++ ['>']) := by
    simp [messageId]
  have hopen := lf_not_mem_opening huuid
  have hclosed : Field.folded (Utf8.encode (domain m ++ ['>'])) = false := by
    rw [Utf8.encode_append, Field.folded_append (by decide) (by decide), hfolded]
    rfl
  obtain ⟨value, left, hvalue, hvalueFolded, hleft⟩ := Field.exists_of_not_folded hclosed
  refine ⟨Utf8.encode ('<' :: stamp.uuid ++ ['@']) ++ value, left, ?_, ?_, hleft, ?_, ?_⟩
  · rw [hid, Utf8.encode_append, hvalue, List.append_assoc]
  · rw [Field.folded_append_of_not_mem hopen, hvalueFolded]
  · rintro rfl
    rw [Utf8.encode_append] at hvalue
    have hlast := (List.append_inj' hvalue rfl).2
    cases hlast
  · have hcount := congrArg asciiOctets hvalue
    have hencode := Utf8.asciiOctets_encode (domain m ++ ['>'])
    rw [Text.asciiCount_append, show Text.asciiCount ['>'] = 1 from rfl] at hencode
    rw [asciiOctets_append, asciiOctets_cons, if_pos (by decide)] at hcount
    omega

/-- What is read behind some of the fields in front. -/
theorem ReadsBack.drop (h : ReadsBack stamp m) {n : ℕ} (hn : n ≤ (encodedEntries stamp m).length) :
    ∃ added fields body, added.length + n = (encodedEntries stamp m).length ∧
      Field.readBlock (Field.skip n (prepare stamp m).1) = .ok (fields, body) ∧
      fields.map Message.readField = added ++ m.fields := by
  obtain ⟨added, hsent, hnames, -⟩ := h
  have hlength : added.length = (encodedEntries stamp m).length := by
    rw [length_encodedEntries, ← hnames, List.length_map]
  obtain ⟨fields, body, hblock, hfields⟩ := exists_readBlock_of_ofOctets hsent
  simp only at hfields
  have hn' : n ≤ added.length := hn.trans_eq hlength.symm
  have hcount : n ≤ fields.length := by
    have hboth := congrArg List.length hfields
    rw [List.length_append, List.length_map] at hboth
    omega
  refine ⟨added.drop n, fields.drop n, body, ?_, Field.readBlock_skip hblock hcount, ?_⟩
  · rw [List.length_drop]
    omega
  · rw [List.map_drop, ← hfields, List.drop_append_of_le_length hn']

/-- A block that begins with a tab is not read from octets that begin a field. -/
theorem map_readField_ne {raw bytes body body' : Octets} {fields fields' : List Field}
    (hraw : Field.readBlock raw = .ok (fields, body)) (htab : raw.head? = some 0x09)
    (hbytes : Field.readBlock bytes = .ok (fields', body')) (hafresh : Field.startsAfresh bytes) :
    fields'.map Message.readField ≠ fields.map Message.readField := by
  intro hsame
  obtain ⟨raw, rfl⟩ := List.head?_eq_some_iff.1 htab
  obtain ⟨f, later, rfl, hname⟩ := Field.exists_cons_of_readBlock hraw (by decide) (by decide)
  obtain ⟨g, later', rfl⟩ : ∃ g later', fields' = g :: later' := by
    cases fields' with
    | nil => cases hsame
    | cons g later' => exact ⟨g, later', rfl⟩
  have hfirst : Utf8.ofLatin1 g.name = Utf8.ofLatin1 f.name :=
    congrArg Prod.fst (List.cons.inj hsame).1
  have hnames : g.name = f.name := by
    rw [← Utf8.toLatin1_ofLatin1 g.name, hfirst, Utf8.toLatin1_ofLatin1]
  rw [← (Field.readBlock_cons hbytes).1, Field.name_readOne, hname] at hnames
  cases bytes with
  | nil => cases hnames
  | cons b bytes =>
    have hb : b ≠ 0x09 := by
      rintro rfl
      cases hafresh
    have htabName : Field.isNameOctet 0x09 = true := by decide
    rw [List.takeWhile_cons, List.takeWhile_cons, if_pos htabName] at hnames
    split at hnames
    · exact hb (List.cons.inj hnames).1
    · cases hnames

theorem asciiCount_readField (f : Field) : Text.asciiCount (Message.readField f).2 ≤
    asciiOctets f.value :=
  (FieldText.asciiCount_decode _).trans (Utf8.asciiCount_decodeOrLatin1 _)

/-- The field that names the author does not stand in what is left of the line with its domain. -/
theorem not_forall_value (hdomain : Field.folded (Utf8.encode (domain m)) = false)
    {before : Octets} (hbefore : asciiOctets before ≤ Text.asciiCount (domain m) + 1)
    {fields : List Field} (hfields : ∀ f ∈ m.fields, f ∈ fields.map Message.readField) :
    ¬ ∀ f ∈ fields, f.value = [] ∨ (0x3A :: f.value).Sublist before := by
  intro hvalues
  rcases domain_sublist m with hdefault | ⟨e, he, hsub⟩
  · rw [hdefault] at hdomain
    cases hdomain
  · obtain ⟨f, hf, rfl⟩ := List.mem_map.1 (hfields e he)
    have hsign : Text.asciiCount ('@' :: domain m) = Text.asciiCount (domain m) + 1 :=
      Text.asciiCount_cons '@' _
    have hauthor := Text.asciiCount_le_of_sublist hsub
    have hread := asciiCount_readField f
    rcases hvalues f hf with hnil | hcolon
    · rw [hnil, asciiOctets_nil] at hread
      omega
    · have hstands := asciiOctets_le_of_sublist hcolon
      rw [asciiOctets_cons, if_pos (by decide)] at hstands
      omega

theorem isNone_header_of_mem {f : Text × Text} (hf : f ∈ m.fields) {name : Text}
    (hname : Text.sameName f.1 name = true) : (m.header name).isNone = false := by
  have hfind : (m.fields.find? fun field => Text.sameName field.1 name).isSome = true :=
    List.find?_isSome.2 ⟨f, hf, hname⟩
  obtain ⟨g, hg⟩ := Option.isSome_iff_exists.1 hfind
  rw [Message.header, hg]
  rfl

section Necessity

variable {fields : List Field} {body : Octets}

/-- The fields of the message are not those of octets that begin a field, followed by the message,
unless the block ends in these octets. -/
theorem map_readField_ne_of_message {before body' : Octets} {read : List Field}
    (hblock : Field.readBlock m.raw = .ok (fields, body))
    (hread : Field.readBlock (before ++ Field.lf :: m.raw) = .ok (read, body'))
    (hafresh : Field.startsAfresh (before ++ Field.lf :: m.raw))
    (hends : ¬ ∀ f ∈ read, f.value = [] ∨ (0x3A :: f.value).Sublist before) :
    read.map Message.readField ≠ fields.map Message.readField := by
  by_cases hraw : Field.startsAfresh m.raw
  · rcases Field.readBlock_append_cases hraw hread with hvalues | ⟨own, later, hown, rfl, hlater⟩
    · exact absurd hvalues hends
    · -- the fields of the octets come in addition to those of the message
      rw [hblock] at hlater
      cases hlater
      intro hsame
      have hboth := congrArg List.length hsame
      rw [List.length_map, List.length_map, List.length_append] at hboth
      exact hown (List.length_eq_zero_iff.1 (by omega))
  · have htab : m.raw.head? = some 0x09 := by
      by_contra htab
      exact hraw ((Field.startsAfresh_iff_of_readBlock hblock).2 htab)
    exact map_readField_ne hblock htab hread hafresh

/-- A message without a date is not read behind a line of a date that stands behind other fields. -/
theorem map_readField_ne_of_date {before value rest body' : Octets} {read : List Field}
    (hdate : (m.header "Date".toList).isNone)
    (hread : Field.readBlock (before ++ Field.lf ::
      (Field.line (ending m) (Utf8.encode "Date".toList) value ++ rest)) = .ok (read, body'))
    (hends : ¬ ∀ f ∈ read, f.value = [] ∨ (0x3A :: f.value).Sublist before) (e : Text × Text) :
    read.map Message.readField ≠ e :: m.fields := by
  have hname := isName_encode "Date".toList (by simp)
  rcases Field.readBlock_append_cases (Field.startsAfresh_line hname _) hread with
    hvalues | ⟨own, later, hown, rfl, hlater⟩
  · exact absurd hvalues hends
  · obtain ⟨f, later, rfl, hf⟩ := Field.exists_cons_of_readBlock_line hname hlater
    obtain ⟨g, own, rfl⟩ := List.exists_cons_of_ne_nil hown
    intro hsame
    -- the date is not the first of the fields, so it is one of the message
    have hmem : Message.readField f ∈ m.fields := by
      have htail : (own ++ f :: later).map Message.readField = m.fields := (List.cons.inj hsame).2
      rw [← htail]
      exact List.mem_map_of_mem (List.mem_append_right own List.mem_cons_self)
    have hfound : (m.header "Date".toList).isNone = false := by
      refine isNone_header_of_mem hmem ?_
      rw [Message.readField, hf]
      show Text.sameName (Utf8.ofLatin1 (Utf8.encode "Date".toList)) "Date".toList = true
      decide
    rw [hdate] at hfound
    cases hfound

/-- Only a domain that does not break its line is read back. -/
theorem folded_of_readsBack (huuid : '\n' ∉ stamp.uuid)
    (hblock : Field.readBlock m.raw = .ok (fields, body))
    (hfields : m.fields = fields.map Message.readField) (h : ReadsBack stamp m)
    (hid : (m.header "Message-ID".toList).isNone) :
    Field.folded (Utf8.encode (domain m)) = true := by
  by_contra hfolded
  rw [Bool.not_eq_true] at hfolded
  obtain ⟨before, after, hentries, hbefore, hafter⟩ := exists_encodedEntries stamp hid
  obtain ⟨value, left, hvalue, hvalueFolded, hleft, hne, hcount⟩ :=
    exists_messageId_of_not_folded huuid hfolded
  have hlength : (encodedEntries stamp m).length = after.length + (before.length + 1) := by
    rw [hentries, List.length_append, List.length_cons]
    omega
  obtain ⟨added, read, body', hadded, hread, hmap⟩ := h.drop (hlength ▸ Nat.le_add_left _ _)
  have hskip : Field.skip (before.length + 1) (prepare stamp m).1 =
      left ++ ending m ++ Field.lf ::
        (after.flatMap (fun e => Field.line (ending m) e.1 e.2) ++ m.raw) := by
    have hnames : ∀ e ∈ before, Field.isName e.1 = true := fun e he =>
      isName_of_mem (hentries ▸ List.mem_append_left _ he)
    rw [prepare, encode_preamble, hentries, hvalue, List.flatMap_append, List.flatMap_cons,
      List.append_assoc, List.append_assoc]
    exact Field.skip_broken_line eq_cr_of_mem_ending hnames hbefore (isName_encode _ (by simp))
      hvalueFolded hleft hne _
  rw [hskip] at hread
  -- the author's own field would have to stand in the rest of the line
  have hends : ¬ ∀ f ∈ read, f.value = [] ∨ (0x3A :: f.value).Sublist (left ++ ending m) := by
    refine not_forall_value hfolded ?_ fun f hf => hmap ▸ List.mem_append_right added hf
    have hend : asciiOctets (ending m) ≤ 1 := by
      unfold ending
      split <;> decide
    rw [asciiOctets_append]
    omega
  rcases hafter with rfl | ⟨hdate, rfl⟩
  · obtain rfl : added = [] := by simpa [hlength] using hadded
    rw [List.flatMap_nil, List.nil_append] at hread
    refine map_readField_ne_of_message hblock hread ?_ hends (hmap.trans hfields)
    obtain ⟨b, left, rfl⟩ := List.exists_cons_of_ne_nil hne
    exact hleft
  · have hone : added.length = 1 := by simpa [hlength] using hadded
    obtain ⟨e, rfl⟩ := List.length_eq_one_iff.1 hone
    rw [List.flatMap_singleton] at hread
    exact map_readField_ne_of_date hdate hread hends e hmap

/-- Only a message that does not begin with a tab is read back behind the lines in front. -/
theorem head?_ne_tab_of_readsBack (huuid : '\n' ∉ stamp.uuid) (hnow : '\n' ∉ stamp.now)
    (hblock : Field.readBlock m.raw = .ok (fields, body))
    (hfields : m.fields = fields.map Message.readField) (h : ReadsBack stamp m)
    (hne : missingNames m ≠ [])
    (hid : (m.header "Message-ID".toList).isSome ∨
      Field.folded (Utf8.encode (domain m)) = true) : m.raw.head? ≠ some 0x09 := by
  intro htab
  have hcontinued : ¬ Field.startsAfresh m.raw := by
    obtain ⟨raw, hraw⟩ := List.head?_eq_some_iff.1 htab
    rw [hraw]
    simp [Field.startsAfresh, Field.continues]
  have hentries : encodedEntries stamp m ≠ [] := mt encodedEntries_eq_nil_iff.1 hne
  obtain ⟨added, read, body', hadded, hread, hmap⟩ := h.drop (Nat.le_refl _)
  obtain rfl : added = [] := List.length_eq_zero_iff.1 (by omega)
  have hvalues : ∀ e ∈ encodedEntries stamp m, Field.folded e.2 = true :=
    fun e he => folded_of_mem huuid hnow hid he
  have hskip := Field.skip_lines_continued (@eq_cr_of_mem_ending m) hentries
    (fun e he => isName_of_mem he) hvalues hcontinued
  rw [prepare, encode_preamble, hskip] at hread
  exact map_readField_ne hblock htab hread (Field.startsAfresh_splitValue _) (hmap.trans hfields)

end Necessity

/-- **What is sent on reads back, with two exceptions.**  A message that can be read is sent on so
that it reads as the fields it needed, followed by its own fields, exactly when it needed none, or
else does not begin with a tab, and has an identifier or an author whose domain does not break the
line. -/
theorem prepare_readsBack_iff {raw : Octets} (hm : Message.ofOctets raw = .ok m)
    (huuid : '\n' ∉ stamp.uuid) (hnow : '\n' ∉ stamp.now) :
    ReadsBack stamp m ↔
      missingNames m = [] ∨
        raw.head? ≠ some 0x09 ∧ ((m.header "Message-ID".toList).isSome ∨
          Field.folded (Utf8.encode (domain m)) = true) := by
  have hraw : m.raw = raw := Message.raw_of_ofOctets hm
  obtain ⟨fields, body, hblock, hfields⟩ := exists_readBlock_of_ofOctets hm
  rw [← hraw] at hblock
  constructor
  · intro h
    by_cases hne : missingNames m = []
    · exact Or.inl hne
    · have hid : (m.header "Message-ID".toList).isSome ∨
          Field.folded (Utf8.encode (domain m)) = true := by
        cases hheader : m.header "Message-ID".toList with
        | some _ => exact Or.inl rfl
        | none => exact Or.inr (folded_of_readsBack huuid hblock hfields h (by rw [hheader]; rfl))
      exact Or.inr ⟨hraw ▸ head?_ne_tab_of_readsBack huuid hnow hblock hfields h hne hid, hid⟩
  · intro h
    have hsent : Field.readBlock (prepare stamp m).1 =
        .ok ((encodedEntries stamp m).map (fun e => Field.ofLine (ending m) e.1 e.2) ++ fields,
          body) := by
      rw [prepare, encode_preamble]
      rcases h with hnone | ⟨htab, hid⟩
      · rw [encodedEntries_eq_nil_iff.2 hnone]
        exact hblock
      · exact Field.readBlock_lines eq_cr_of_mem_ending (fun e he => isName_of_mem he)
          (fun e he => folded_of_mem huuid hnow hid he)
          ((Field.startsAfresh_iff_of_readBlock hblock).2 (hraw ▸ htab)) hblock
    refine ⟨_, ?_, map_readField_entries stamp m⟩
    rw [Message.ofOctets, hsent, hfields]
    simp only [List.map_append, List.map_map]
    rfl

/-- A message without an identifier whose author has an ordinary address reads back. -/
theorem prepare_readsBack_plain :
    let raw := Utf8.encode "From: alice@example.com\n\nHello!\n".toList
    let m : Message := ⟨raw, [("From".toList, "alice@example.com".toList)]⟩
    let stamp : Stamp := ⟨"936da01f-9abd-4d9d-80c7-02af85c822a8".toList,
      "Thu, 1 Sep 2022 10:00:00 +0000".toList⟩
    Message.ofOctets raw = .ok m ∧ '\n' ∉ stamp.uuid ∧ '\n' ∉ stamp.now ∧ ReadsBack stamp m := by
  intro raw m stamp
  have hm : Message.ofOctets raw = .ok m := by decide +kernel
  have huuid : '\n' ∉ stamp.uuid := by decide +kernel
  have hnow : '\n' ∉ stamp.now := by decide +kernel
  exact ⟨hm, huuid, hnow, (prepare_readsBack_iff hm huuid hnow).2 (by decide +kernel)⟩

/-- An author can write a line end into the domain of an address with an encoded word.  What stands
behind it becomes a field of the message that is sent on. -/
theorem prepare_adds_foreign_field :
    ¬ ∀ (raw : Octets) (m : Message) (stamp : Stamp), Message.ofOctets raw = .ok m →
      '\n' ∉ stamp.uuid → '\n' ∉ stamp.now → ReadsBack stamp m := by
  intro h
  let raw := Utf8.encode "From: =?utf-8?q?a@b=0AX-Injected:_1?=\n\nHello!\n".toList
  let m : Message := ⟨raw, [("From".toList, "a@b\nX-Injected: 1".toList)]⟩
  let stamp : Stamp := ⟨"936da01f-9abd-4d9d-80c7-02af85c822a8".toList,
    "Thu, 1 Sep 2022 10:00:00 +0000".toList⟩
  obtain ⟨added, hsent, hnames, -⟩ := h raw m stamp (by decide +kernel) (by decide +kernel)
    (by decide +kernel)
  have hinjected :
      (Message.ofOctets (prepare stamp m).1).toOption.map (fun m => m.fields.map (·.1)) =
      some ["MIME-Version".toList, "Message-ID".toList, "X-Injected".toList, "Date".toList,
        "From".toList] := by
    decide +kernel
  have hneeded : missingNames m =
      ["MIME-Version".toList, "Message-ID".toList, "Date".toList] := by
    decide +kernel
  rw [hsent] at hinjected
  have hfields : (added ++ m.fields).map (·.1) = _ := Option.some_inj.1 hinjected
  rw [List.map_append, hnames, hneeded] at hfields
  exact absurd (congrArg List.length hfields) (by decide +kernel)

end Forward

end Postroom
