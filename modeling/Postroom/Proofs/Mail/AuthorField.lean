import Postroom.Proofs.Mail.Author

/-!
# Which field names the author

A message names its author in the field `From`, and in the field `Sender` for want of an address
there.  `Message.author` reads them so.  What the library takes for the author is the same, unless a
field `From` without an address stands in front of a `Sender` with one
(`Message.sender_eq_author_iff`).
-/

namespace Postroom

namespace Address

/-- The addresses of an address field, in order.  A text that cannot be read holds none. -/
def addresses (text : Text) : List Text :=
  match parse text with
  | .ok entries => entries.flatMap addressesOf
  | .error _ => []

/-- The address that stands for an entry is the first of its addresses. -/
theorem firstAddress?_eq (e : Entry) : e.firstAddress? = (addressesOf e).head? := by
  cases e with
  | single contact => rfl
  | group name members => exact List.head?_map.symm

theorem first?_eq (text : Text) : first? text = (addresses text).head? := by
  unfold first? addresses
  cases parse text with
  | error e => rfl
  | ok entries =>
    show entries.findSome? Entry.firstAddress? = (entries.flatMap addressesOf).head?
    rw [List.head?_flatMap]
    exact congrArg entries.findSome? (funext firstAddress?_eq)

end Address

namespace Message

/-- The addresses in the first field of a name. -/
def addressesIn (m : Message) (name : Text) : List Text :=
  (m.header name).elim [] Address.addresses

/-- The author as the fields `From` and `Sender` name it: the first address of `From`, or else of
`Sender`, or else the text of the first of them that is present. -/
def author (m : Message) : Text :=
  match m.addressesIn "From".toList ++ m.addressesIn "Sender".toList with
  | address :: _ => address
  | [] => ((m.header "From".toList).or (m.header "Sender".toList)).elim [] Text.trim

/-- The field `From` holds no address, and its text is not the address that the field `Sender`
begins with. -/
def HidesSender (m : Message) : Prop :=
  ∃ value address, m.header "From".toList = some value ∧ Address.addresses value = [] ∧
    (m.addressesIn "Sender".toList).head? = some address ∧ Text.trim value ≠ address

/-- What is taken for the author when a field decides: its first address, or its text. -/
theorem sender_of_decisive {m : Message} {v : Text}
    (h : (m.header "From".toList).or (m.header "Sender".toList) = some v) :
    m.sender = (Address.addresses v).head?.getD (Text.trim v) := by
  have hfind : ["From".toList, "Sender".toList].findSome? m.header = some v := by
    rw [← h, List.findSome?_cons, List.findSome?_singleton]
    cases m.header "From".toList <;> rfl
  rw [sender, hfind, ← Address.first?_eq]

theorem sender_of_absent {m : Message}
    (h : (m.header "From".toList).or (m.header "Sender".toList) = none) : m.sender = [] := by
  obtain ⟨hfrom, hsender⟩ := Option.or_eq_none_iff.1 h
  have hfind : ["From".toList, "Sender".toList].findSome? m.header = none := by
    rw [List.findSome?_cons, List.findSome?_singleton, hfrom, hsender]
  rw [sender, hfind]

/-- The author of a message without the field `From` is taken from the field `Sender`. -/
theorem sender_eq_author_of_none {m : Message} (h : m.header "From".toList = none) :
    m.sender = m.author := by
  have hnone : m.addressesIn "From".toList = [] := by rw [addressesIn, h]; rfl
  rw [author, hnone, List.nil_append, addressesIn, h, Option.none_or]
  cases hsender : m.header "Sender".toList with
  | none => exact sender_of_absent (by rw [h, hsender]; rfl)
  | some value =>
    rw [sender_of_decisive (v := value) (by rw [h, hsender]; rfl)]
    show _ = match Address.addresses value with | address :: _ => address | [] => Text.trim value
    cases Address.addresses value <;> rfl

/-- **The author is taken from `Sender` only when there is no `From`.**  It is the author that the
two fields name, unless a field `From` without an address hides the address in `Sender`. -/
theorem sender_eq_author_iff (m : Message) : m.sender = m.author ↔ ¬ m.HidesSender := by
  cases hfrom : m.header "From".toList with
  | none =>
    refine iff_of_true (sender_eq_author_of_none hfrom) ?_
    rintro ⟨value, address, hvalue, -⟩
    rw [hfrom] at hvalue
    cases hvalue
  | some value =>
    have hsender := sender_of_decisive (m := m) (v := value) (by rw [hfrom]; rfl)
    have hin : m.addressesIn "From".toList = Address.addresses value := by
      rw [addressesIn, hfrom]
      rfl
    have hhides : m.HidesSender ↔ Address.addresses value = [] ∧
        ∃ address, (m.addressesIn "Sender".toList).head? = some address ∧
          Text.trim value ≠ address := by
      constructor
      · rintro ⟨value', address, hvalue, hnone, hhead, hne⟩
        obtain rfl : value = value' := Option.some_inj.1 (hfrom.symm.trans hvalue)
        exact ⟨hnone, address, hhead, hne⟩
      · rintro ⟨hnone, address, hhead, hne⟩
        exact ⟨value, address, hfrom, hnone, hhead, hne⟩
    rw [hsender, author, hin, hhides]
    cases Address.addresses value with
    | cons address rest => simp
    | nil =>
      cases m.addressesIn "Sender".toList with
      | nil =>
        rw [hfrom, Option.some_or]
        simp
      | cons address rest => simp

/-- A blank field `From` hides the address of the one who sent the message. -/
theorem blank_from_hides_sender :
    ¬ ∀ (raw : Octets) (m : Message), ofOctets raw = .ok m → m.sender = m.author := by
  intro h
  let raw := Utf8.encode "From: \nSender: alice@example.com\n\nHello!\n".toList
  let m : Message :=
    ⟨raw, [("From".toList, []), ("Sender".toList, "alice@example.com".toList)]⟩
  have hsender : m.sender = [] := by decide +kernel
  have hauthor : m.author = "alice@example.com".toList := by decide +kernel
  have hsame := h raw m (by decide +kernel)
  rw [hsender, hauthor] at hsame
  cases hsame

end Message

end Postroom
