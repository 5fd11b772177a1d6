import Postroom.Transport.Imap
import Postroom.Proofs.Delivery.Filings
import Postroom.Proofs.Mailbox.Paths

/-!
# What goes over the wire

`Imap.Server.recorded` is a server that keeps a record of the lines that it is sent, each with its
answer.  Over it, every request of a delivery to the connector adds certain exchanges to the record
(`Event.Wire`), and only the request to take a message adds one that appends.
-/

namespace Postroom

variable {ρ σ : Type}

/-- The runner over a world that has another part. -/
def CommandRunner.beside (runner : CommandRunner ρ) : CommandRunner (σ × ρ) :=
  fun command input w =>
    ((runner command input w.2).1, (w.1, (runner command input w.2).2))

namespace Imap

/-- A line that was sent to a server, and what the server has said to it. -/
structure Exchange where
  line : Text
  answer : List Text

/-- The line is a command to append a message: so says its second word. -/
def Exchange.appends (e : Exchange) : Bool :=
  (Text.pieces (· == ' ') e.line)[1]?.any (Text.sameName "APPEND".toList)

/-- The server, with a record of the lines that it is sent. -/
def Server.recorded (s : Server ρ) : Server (List Exchange × ρ) where
  connect := fun w => ((s.connect w.2).1, (w.1, (s.connect w.2).2))
  secure := fun w => ((s.secure w.2).1, (w.1, (s.secure w.2).2))
  say := fun line w =>
    ((s.say line w.2).1, (w.1 ++ [⟨line, (s.say line w.2).1⟩], (s.say line w.2).2))
  give := fun raw w => ((s.give raw w.2).1, (w.1, (s.give raw w.2).2))

/-- The `n`-th command with its answer. -/
def exchange (n : Nat) (t : Text) (answer : List Text) : Exchange :=
  ⟨tag n ++ ' ' :: t, answer⟩

/-! ## Commands and what they are not -/

theorem not_blank_of_all {t : Text} (h : t.all (· != ' ') = true) :
    ∀ c ∈ t, (c == ' ') = false := by
  intro c hc
  simpa using List.all_eq_true.1 h c hc

theorem not_blank_of_mem_tag (n : ℕ) : ∀ c ∈ tag n, (c == ' ') = false := by
  refine List.forall_mem_cons.2 ⟨rfl, ?_⟩
  intro c hc
  have hdigit : c.isDigit = true := Nat.isDigit_of_mem_toDigits (by decide) (by decide) hc
  by_contra hblank
  obtain rfl : c = ' ' := by simpa using hblank
  cases hdigit

/-- The second word of a command line is the first word of the command. -/
theorem appends_exchange (n : ℕ) (t : Text) (answer : List Text) :
    (exchange n t answer).appends =
      (Text.pieces (· == ' ') t).head?.any (Text.sameName "APPEND".toList) := by
  rw [Exchange.appends, exchange, Text.pieces_append_cons (not_blank_of_mem_tag n) rfl,
    List.getElem?_cons_succ, List.head?_eq_getElem?]

theorem appends_listCommand (n : ℕ) (encoded : Text) (answer : List Text) :
    (exchange n (listCommand encoded) answer).appends = false := by
  have hcommand : listCommand encoded = "LIST".toList ++ ' ' :: ("\"\" ".toList ++ encoded) := rfl
  rw [appends_exchange, hcommand, Text.pieces_append_cons (not_blank_of_all (by decide)) rfl]
  rfl

theorem digit_mem_alphabet (n : ℕ) : Base64.digit n ∈ Base64.alphabet := by
  have hlt : n % 64 < Base64.alphabet.length := Nat.mod_lt _ (by decide)
  rw [Base64.digit, List.getD_eq_getElem?_getD, List.getElem?_eq_getElem hlt]
  exact List.getElem_mem hlt

/-- What holds of the digits and of the padding holds of every character of an encoding. -/
theorem forall_mem_base64 {P : Char → Prop} (hdigits : ∀ c ∈ Base64.alphabet, P c) (hpad : P '=')
    (bytes : Octets) : ∀ c ∈ Base64.encode bytes, P c := by
  have hdigit : ∀ n, P (Base64.digit n) := fun n => hdigits _ (digit_mem_alphabet n)
  induction bytes using Base64.encode.induct with
  | case1 => exact List.forall_mem_nil _
  | case2 a =>
    simp only [Base64.encode, List.forall_mem_cons, hdigit, true_and]
    exact ⟨hpad, hpad, List.forall_mem_nil _⟩
  | case3 a b =>
    simp only [Base64.encode, List.forall_mem_cons, hdigit, true_and]
    exact ⟨hpad, List.forall_mem_nil _⟩
  | case4 a b c rest ih =>
    simpa only [Base64.encode, List.forall_mem_cons, hdigit, true_and] using ih

theorem not_blank_of_mem_encode (bytes : Octets) :
    ∀ c ∈ Base64.encode bytes, (c == ' ') = false :=
  forall_mem_base64 (not_blank_of_all (by decide)) rfl bytes

/-- Credentials are one word. -/
theorem appends_credentials (owner login password : Text) (answer : List Text) :
    Exchange.appends ⟨credentials owner login password, answer⟩ = false := by
  rw [Exchange.appends, credentials, Text.pieces_of_not_cut (not_blank_of_mem_encode _)]
  rfl

/-! ## Requests and what they add to the record -/

/-- What has been added to the record in between appends nothing. -/
def Idle (w w' : List Exchange × ρ) : Prop :=
  ∃ added, w'.1 = w.1 ++ added ∧ ∀ e ∈ added, e.appends = false

theorem Idle.of_eq {w w' : List Exchange × ρ} (h : w'.1 = w.1) : Idle w w' :=
  ⟨[], by rw [h, List.append_nil], List.forall_mem_nil _⟩

theorem Idle.trans {w w' w'' : List Exchange × ρ} (h : Idle w w') (h' : Idle w' w'') :
    Idle w w'' := by
  obtain ⟨added, hw', hadded⟩ := h
  obtain ⟨added', hw'', hadded'⟩ := h'
  exact ⟨added ++ added', by rw [hw'', hw', List.append_assoc],
    List.forall_mem_append.2 ⟨hadded, hadded'⟩⟩

theorem idle_say (s : Server ρ) {line : Text} (w : List Exchange × ρ)
    (h : ∀ answer, Exchange.appends ⟨line, answer⟩ = false) :
    Idle w (s.recorded.say line w).2 :=
  ⟨_, rfl, List.forall_mem_singleton.2 (h _)⟩

theorem idle_command (s : Server ρ) {t : Text} (session : Session) (w : List Exchange × ρ)
    (h : (Text.pieces (· == ' ') t).head?.any (Text.sameName "APPEND".toList) = false) :
    Idle w (command s.recorded t session w).2.2 :=
  idle_say s w fun answer => (appends_exchange _ t answer).trans h

theorem idle_openConnection (c : ImapConfig) (s : Server ρ) (w : List Exchange × ρ) :
    Idle w (openConnection c s.recorded w).2 := by
  have hstarttls : Idle w (command s.recorded "STARTTLS".toList ⟨0⟩ (s.recorded.connect w).2).2.2 :=
    (Idle.of_eq rfl).trans (idle_command s ⟨0⟩ _ (by decide))
  unfold openConnection
  simp only
  split
  · split
    · exact .of_eq rfl
    · split
      · exact hstarttls
      · split
        · exact hstarttls.trans (.of_eq rfl)
        · exact hstarttls
  · split
    · split
      · rename_i hsecure
        exact .of_eq (congrArg (·.2.1) hsecure).symm
      · rename_i hsecure
        exact .of_eq (congrArg (·.2.1) hsecure).symm
    · exact .of_eq rfl

theorem idle_logIn (s : Server ρ) (owner login password : Text) (w : List Exchange × ρ) :
    Idle w (logIn s.recorded owner login password w).2 := by
  have hauthenticate : Idle w (command s.recorded "AUTHENTICATE PLAIN".toList ⟨0⟩ w).2.2 :=
    idle_command s ⟨0⟩ w (by decide)
  unfold logIn
  simp only
  split
  · exact hauthenticate.trans (idle_say s _ (appends_credentials owner login password))
  · exact hauthenticate

theorem record_run (runner : CommandRunner ρ) (command : Text) (input : Octets)
    (w : List Exchange × ρ) : (Process.run runner.beside command input w).2.1 = w.1 := by
  unfold Process.run CommandRunner.beside
  cases (runner command input w.2).1 <;> rfl

theorem record_firstLine (runner : CommandRunner ρ) (command : Text) (w : List Exchange × ρ) :
    (Process.firstLine runner.beside command w).2.1 = w.1 := by
  have hrun := record_run runner command [] w
  unfold Process.firstLine
  generalize Process.run runner.beside command [] w = r at hrun ⊢
  obtain ⟨answer, w'⟩ := r
  cases answer <;> exact hrun

theorem record_password (c : ImapConfig) (runner : CommandRunner ρ) (token : AuthToken)
    (w : List Exchange × ρ) : (password c runner.beside token w).2.1 = w.1 := by
  unfold password
  cases c.passwordCommand with
  | none => rfl
  | some command =>
    have hline := record_firstLine runner command w
    simp only
    generalize Process.firstLine runner.beside command w = r at hline ⊢
    obtain ⟨answer, w'⟩ := r
    cases answer <;> exact hline

theorem idle_connect (c : ImapConfig) (s : Server ρ) (runner : CommandRunner ρ)
    (token : AuthToken) (owner : Text) (w : List Exchange × ρ) :
    Idle w (connect c s.recorded runner.beside token owner w).2 := by
  have hopen := idle_openConnection c s w
  unfold connect
  generalize openConnection c s.recorded w = r at hopen ⊢
  obtain ⟨isOpen, w₁⟩ := r
  cases isOpen with
  | false => exact hopen
  | true =>
    have hpassword := record_password c runner token w₁
    simp only
    generalize password c runner.beside token w₁ = r at hpassword ⊢
    obtain ⟨answer, w₂⟩ := r
    cases answer with
    | error e => exact hopen.trans (.of_eq hpassword)
    | ok password =>
      have hlogIn := idle_logIn s owner c.login password w₂
      simp only
      generalize logIn s.recorded owner c.login password w₂ = r at hlogIn ⊢
      obtain ⟨session, w₃⟩ := r
      cases session <;> exact (hopen.trans (.of_eq hpassword)).trans hlogIn

/-- What the answer to the `n`-th command tells of the mailbox of a name. -/
def found (name : Text) (n : Nat) (answer : List Text) : Except ImapError (Option RemoteFolder) :=
  match (completion? (tag n) answer).bind listing? with
  | some mailboxes => .ok (pick (MailboxName.encode name) mailboxes)
  | none => .error (.listing name)

theorem findMailbox_eq (s : Server σ) (name : Text) (session : Session) (w : σ) :
    findMailbox s name session w =
      let r := command s (listCommand (MailboxName.encode name)) session w
      (found name (session.commands + 1) r.1, r.2) := by
  simp only [findMailbox, found, command]
  generalize (completion? _ _).bind listing? = listing
  cases listing <;> rfl

/-- The exchange looks a mailbox up by its exact name, and the answer is what it tells. -/
def LooksUp (name : Text) (answer : Except RemoteError (Option RemoteFolder))
    (exchanges : List Exchange) : Prop :=
  ∃ n lines, exchanges = [exchange n (listCommand (MailboxName.encode name)) lines] ∧
    answer = (found name n lines).mapError .imap

theorem looksUp_findMailbox (s : Server ρ) (name : Text) (session : Session)
    (w : List Exchange × ρ) :
    ∃ added, (findMailbox s.recorded name session w).2.2.1 = w.1 ++ added ∧
      LooksUp name ((findMailbox s.recorded name session w).1.mapError .imap) added := by
  rw [findMailbox_eq]
  exact ⟨_, rfl, _, _, rfl, rfl⟩

theorem findMounted_wire (c : ImapConfig) (s : Server ρ) (item : ItemId) (session : Session)
    (w : List Exchange × ρ) :
    ∃ added, (findMounted c s.recorded item session w).2.2.1 = w.1 ++ added ∧
      match c.mount? item with
      | some name =>
        LooksUp name ((findMounted c s.recorded item session w).1.mapError RemoteError.imap) added
      | none => added = [] ∧
        (findMounted c s.recorded item session w).1.mapError RemoteError.imap = .ok none := by
  unfold findMounted
  cases c.mount? item with
  | none => exact ⟨[], (List.append_nil _).symm, rfl, rfl⟩
  | some name => exact looksUp_findMailbox s name session w

theorem append_wire (s : Server ρ) (folder : RemoteFolder) (flags : List TransportFlag)
    (raw : Octets) (session : Session) (w : List Exchange × ρ) :
    ∃ n lines, (append s.recorded folder flags raw session w).2.2.1 =
      w.1 ++ [exchange n (appendCommand folder flags raw.length) lines] := by
  refine ⟨session.commands + 1,
    (command s.recorded (appendCommand folder flags raw.length) session w).1, ?_⟩
  unfold append
  simp only
  split
  · split <;> rfl
  · rfl

end Imap

open Imap

/-- The exchanges by which a request is made: a look-up, the command that appends a message, or
something that appends nothing. -/
def Event.Wire (c : ImapConfig) : Event → List Exchange → Prop
  | .foundFolder item answer, exchanges =>
    match c.mount? item with
    | some name => LooksUp name answer exchanges
    | none => exchanges = [] ∧ answer = .ok none
  | .foundSubfolder parent path answer, exchanges =>
    LooksUp (mailboxName parent path) answer exchanges
  | .appended folder flags raw _, exchanges =>
    ∃ n lines, exchanges = [exchange n (appendCommand folder flags raw.length) lines]
  | _, exchanges => ∀ e ∈ exchanges, e.appends = false

/-- The exchanges by which the requests of a sequence of events are made. -/
inductive Imap.Wired (c : ImapConfig) : List Event → List Exchange → Prop
  | nil : Wired c [] []
  | cons {e : Event} {es : List Event} {part exchanges : List Exchange} (he : e.Wire c part)
      (h : Wired c es exchanges) : Wired c (e :: es) (part ++ exchanges)

theorem Imap.wired_append {c : ImapConfig} {es es' : List Event} {exchanges : List Exchange} :
    Wired c (es ++ es') exchanges ↔
      ∃ first later, exchanges = first ++ later ∧ Wired c es first ∧ Wired c es' later := by
  constructor
  · intro h
    induction es generalizing exchanges with
    | nil => exact ⟨[], exchanges, rfl, .nil, h⟩
    | cons e es ih =>
      obtain ⟨⟩ | ⟨he, h⟩ := h
      obtain ⟨first, later, rfl, hfirst, hlater⟩ := ih h
      exact ⟨_, later, (List.append_assoc ..).symm, .cons he hfirst, hlater⟩
  · rintro ⟨first, later, rfl, hfirst, hlater⟩
    induction hfirst with
    | nil => exact hlater
    | cons he _ ih =>
      rw [List.append_assoc]
      exact .cons he ih

theorem Imap.Wired.of_event {c : ImapConfig} {e : Event} {part : List Exchange}
    (h : e.Wire c part) : Wired c [e] part :=
  List.append_nil part ▸ .cons h .nil

/-- A mailbox next to a server that keeps a record. -/
def Imap.surroundings (c : ImapConfig) (server : Server ρ) (runner : CommandRunner ρ)
    (sender : Option (Sender ρ)) (stamp : ρ → Forward.Stamp × ρ) :
    Surroundings (Mailbox × List Exchange × ρ) Session :=
  Mailbox.surroundings (some (connector c server.recorded runner.beside))
    (sender.map Sender.beside) fun w => ((stamp w.2).1, (w.1, (stamp w.2).2))

/-- The events of a delivery have added their exchanges to the record. -/
def Imap.Records (c : ImapConfig) (w : Mailbox × List Exchange × ρ) (es : List Event)
    (w' : Mailbox × List Exchange × ρ) : Prop :=
  ∃ added, w'.2.1 = w.2.1 ++ added ∧ Wired c es added

theorem Imap.Records.of_event {c : ImapConfig} {w w' : Mailbox × List Exchange × ρ} {e : Event}
    {added : List Exchange} (h : w'.2.1 = w.2.1 ++ added) (he : e.Wire c added) :
    Records c w [e] w' :=
  ⟨added, h, .of_event he⟩

/-- The record of a server grows by the exchanges of the events. -/
theorem Imap.surroundings_records (c : ImapConfig) (server : Server ρ) (runner : CommandRunner ρ)
    (sender : Option (Sender ρ)) (stamp : ρ → Forward.Stamp × ρ) :
    (Imap.surroundings c server runner sender stamp).Follows (Records c) := by
  constructor
  case refl => exact fun w => ⟨[], (List.append_nil _).symm, .nil⟩
  case trans =>
    rintro w w' w'' es es' ⟨added, hw', hes⟩ ⟨added', hw'', hes'⟩
    refine ⟨added ++ added', ?_, wired_append.2 ⟨added, added', rfl, hes, hes'⟩⟩
    rw [hw'', hw', List.append_assoc]
  case stamped => exact fun w => ⟨[], (List.append_nil _).symm, .nil⟩
  case noticed | token | resolved | filed | markedFlag | markedTag =>
    intros
    exact .of_event (List.append_nil _).symm (List.forall_mem_nil _)
  case connected =>
    rintro _ ⟨⟩ token owner w
    obtain ⟨added, hadded, hidle⟩ := idle_connect c server runner token owner w.2
    exact .of_event hadded hidle
  case foundFolder =>
    rintro _ ⟨⟩ item session w
    obtain ⟨added, hadded, hwire⟩ := findMounted_wire c server item session w.2
    exact .of_event hadded hwire
  case foundSubfolder =>
    rintro _ ⟨⟩ parent path session w
    obtain ⟨added, hadded, hlooksUp⟩ :=
      looksUp_findMailbox server (mailboxName parent path) session w.2
    exact .of_event hadded hlooksUp
  case appended =>
    rintro _ ⟨⟩ folder flags raw session w
    obtain ⟨n, lines, hadded⟩ := append_wire server folder flags raw session w.2
    exact .of_event hadded ⟨n, lines, rfl⟩
  case closed =>
    rintro _ ⟨⟩ session w
    obtain ⟨added, hadded, hidle⟩ := idle_command server (t := "LOGOUT".toList) session w.2
      (by decide)
    exact .of_event hadded hidle
  case sent =>
    intro _ hsend
    obtain ⟨beside, hbeside, rfl⟩ := Option.map_eq_some_iff.1 hsend
    obtain ⟨send, -, rfl⟩ := Option.map_eq_some_iff.1 hbeside
    exact fun email recipient w => .of_event (List.append_nil _).symm (List.forall_mem_nil _)

end Postroom
