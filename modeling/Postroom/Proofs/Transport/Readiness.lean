import Mathlib.Data.List.Basic
import Postroom.Transport.Smtp

/-!
# How often a sender is made ready

What a sender needs is made ready with the first message that needs it, and kept.  To see when this
happens, a sender is followed with a record of the steps that it takes (`Smtp.Setup.recorded`,
`CommandRunner.recorded`).  The record changes nothing and a conversation with the server leaves it
alone, so that `Smtp.sender_recorded` says of one message which steps there are.  From it follows
what holds of any number of messages (`Smtp.sendAll_prepares_once`), by induction on them: once
something is ready it stays, and until then a message that is not sent leaves nothing behind.

* `Smtp.Attempt` — what is seen of a sender as it is handed one message;
* `Smtp.sendAll` — a sender that is handed messages one after another.
-/

namespace Postroom

variable {α β σ : Type}

namespace Smtp

/-- A step by which a sender is made ready. -/
inductive Preparation where
  | encryption
  | relay
  | command (line : Text)
deriving DecidableEq, Repr

namespace Preparation

/-- The command line that is run. -/
def line? : Preparation → Option Text
  | command line => some line
  | encryption | relay => none

/-- The command lines that are run, in order. -/
def lines (steps : List Preparation) : List Text :=
  steps.filterMap line?

end Preparation

/-- An answer over one part of a world, beside a given other part. -/
def keeping (rest : α) (r : β × σ) : β × (α × σ) :=
  (r.1, (rest, r.2))

/-- The set-up, with a record of its steps. -/
def Setup.recorded (p : Setup σ) : Setup (List Preparation × σ) where
  encryption := fun host isLax w =>
    keeping (w.1 ++ [.encryption]) (p.encryption host isLax w.2)
  relay := fun host isNegotiated w => keeping (w.1 ++ [.relay]) (p.relay host isNegotiated w.2)

/-- The server, over a world that has another part. -/
def Server.beside (s : Server σ) : Server (α × σ) where
  connect := fun w => keeping w.1 (s.connect w.2)
  secure := fun w => keeping w.1 (s.secure w.2)
  say := fun line w => keeping w.1 (s.say line w.2)
  give := fun email w => keeping w.1 (s.give email w.2)

end Smtp

/-- The runner, with a record of the commands that it is given. -/
def CommandRunner.recorded (runner : CommandRunner σ) :
    CommandRunner (List Smtp.Preparation × σ) :=
  fun command input w => Smtp.keeping (w.1 ++ [.command command]) (runner command input w.2)

namespace Smtp

variable {c : SmtpConfig} {p : Setup σ} {s : Server σ} {runner : CommandRunner σ}

/-! ## A conversation leaves the other part of the world alone -/

theorem connect_beside (w : α × σ) : s.beside.connect w = keeping w.1 (s.connect w.2) := rfl

theorem secure_beside (w : α × σ) : s.beside.secure w = keeping w.1 (s.secure w.2) := rfl

theorem demand_beside (line : Text) (w : α × σ) :
    demand s.beside line w = keeping w.1 (demand s line w.2) := rfl

theorem demandAll_beside (lines : List Text) (w : α × σ) :
    demandAll s.beside lines w = keeping w.1 (demandAll s lines w.2) := by
  induction lines generalizing w with
  | nil => rfl
  | cons line lines ih =>
    rw [demandAll, demandAll, demand_beside]
    rcases demand s line w.2 with ⟨_ | reply, w'⟩
    · rfl
    · exact ih (w.1, w')

theorem introduce_beside (w : α × σ) :
    introduce c s.beside w = keeping w.1 (introduce c s w.2) := by
  unfold introduce
  rw [demand_beside]
  rcases demand s hello w.2 with ⟨_ | offer, w₁⟩
  · rfl
  · simp only [keeping]
    split
    · split
      · rw [demand_beside]
        rcases demand s "STARTTLS".toList w₁ with ⟨_ | reply, w₂⟩
        · rfl
        · simp only [secure_beside, keeping]
          rcases s.secure w₂ with ⟨_ | _, w₃⟩
          · rfl
          · rfl
      · rfl
    · rfl

theorem openConnection_beside (w : α × σ) :
    openConnection c s.beside w = keeping w.1 (openConnection c s w.2) := by
  unfold openConnection
  rw [connect_beside]
  rcases s.connect w.2 with ⟨greeting, w₁⟩
  have hgreeted : ∀ w', (if greeting.isPositive then introduce c s.beside (w.1, w')
      else (none, (w.1, w'))) =
        keeping w.1 (if greeting.isPositive then introduce c s w' else (none, w')) := by
    intro w'
    split
    · exact introduce_beside (w.1, w')
    · rfl
  simp only [keeping]
  split
  · rw [secure_beside]
    rcases s.secure w₁ with ⟨_ | _, w₂⟩
    · rfl
    · exact hgreeted w₂
  · exact hgreeted w₁

theorem logIn_beside (offer : Reply) (account : Option Credentials) (w : α × σ) :
    logIn s.beside offer account w = keeping w.1 (logIn s offer account w.2) := by
  cases account with
  | none => rfl
  | some a =>
    unfold logIn
    simp only
    split
    · exact demandAll_beside _ w
    · rfl

theorem handOver_beside (offer : Reply) (e : Envelope) (email : Octets) (w : α × σ) :
    handOver s.beside offer e email w = keeping w.1 (handOver s offer e email w.2) := by
  unfold handOver
  split
  · rw [demandAll_beside]
    rcases demandAll s (envelopeLines e email) w.2 with ⟨_ | _, w₁⟩
    · rfl
    · rfl
  · rfl

theorem converse_beside (t : Transport) (e : Envelope) (email : Octets) (w : α × σ) :
    converse c s.beside t e email w = keeping w.1 (converse c s t e email w.2) := by
  unfold converse
  rw [openConnection_beside]
  rcases openConnection c s w.2 with ⟨_ | offer, w₁⟩
  · rfl
  · simp only [keeping]
    rw [logIn_beside]
    rcases logIn s offer t.credentials w₁ with ⟨_ | _, w₂⟩
    · rfl
    · simp only [keeping, if_true]
      rw [handOver_beside]
      rfl

/-! ## The steps by which a sender is made ready -/

/-- The commands that give the password: the configured one, if an account is configured. -/
def passwordCommands (c : SmtpConfig) : List Text :=
  match c.login, c.passwordCommand with
  | some _, some command => [command]
  | _, _ => []

/-- The steps by which connections are set up. -/
def setUpSteps (c : SmtpConfig) (p : Setup σ) (w : σ) : List Preparation :=
  (if c.usesSsl then [.encryption] else [])
    ++ if (setUpEncryption c p w).1 then [.relay] else []

/-- The steps by which a sender is made ready: the password is asked for when all else is set up. -/
def buildSteps (c : SmtpConfig) (p : Setup σ) (w : σ) : List Preparation :=
  setUpSteps c p w ++ if (setUp c p w).1.toBool then (passwordCommands c).map .command else []

theorem firstLine_recorded (command : Text) (w : List Preparation × σ) :
    Process.firstLine runner.recorded command w =
      keeping (w.1 ++ [.command command]) (Process.firstLine runner command w.2) := by
  unfold Process.firstLine Process.run
  simp only [CommandRunner.recorded, keeping]
  rcases runner command [] w.2 with ⟨_ | completion, w'⟩
  · rfl
  · simp only
    cases Process.judge command completion with
    | error e => rfl
    | ok output => rfl

theorem credentials_recorded (w : List Preparation × σ) :
    credentials c runner.recorded w =
      keeping (w.1 ++ (passwordCommands c).map .command) (credentials c runner w.2) := by
  unfold credentials passwordCommands
  cases c.login with
  | none => simp [keeping]
  | some login =>
    cases c.passwordCommand with
    | none => simp [keeping]
    | some command =>
      simp only [firstLine_recorded, List.map_cons, List.map_nil]
      rcases Process.firstLine runner command w.2 with ⟨_ | _ | password, w'⟩
      · rfl
      · rfl
      · rfl

theorem setUp_recorded (w : List Preparation × σ) :
    setUp c p.recorded w = keeping (w.1 ++ setUpSteps c p w.2) (setUp c p w.2) := by
  have hencryption : setUpEncryption c p.recorded w =
      keeping (w.1 ++ if c.usesSsl then [.encryption] else []) (setUpEncryption c p w.2) := by
    unfold setUpEncryption
    split
    · rfl
    · simp [keeping]
  unfold setUp setUpSteps
  rw [hencryption]
  rcases setUpEncryption c p w.2 with ⟨_ | _, w₁⟩
  · simp [keeping]
  · simp only [keeping, Setup.recorded, if_true, List.append_assoc]
    rcases p.relay c.host (c.usesSsl && c.usesStarttls) w₁ with ⟨_ | _, w₂⟩
    · rfl
    · rfl

theorem build_recorded (w : List Preparation × σ) :
    build c p.recorded runner.recorded w =
      keeping (w.1 ++ buildSteps c p w.2) (build c p runner w.2) := by
  unfold build buildSteps
  rw [setUp_recorded]
  rcases setUp c p w.2 with ⟨_ | _, w₁⟩
  · simp [keeping, Except.toBool]
  · simp only [keeping, credentials_recorded, Except.toBool, if_true, List.append_assoc]
    rcases credentials c runner w₁ with ⟨_ | _, w₂⟩
    · rfl
    · rfl

theorem lines_map_command (lines : List Text) :
    Preparation.lines (lines.map .command) = lines := by
  rw [Preparation.lines, List.filterMap_map]
  exact List.filterMap_some

theorem setUpSteps_ne_nil (c : SmtpConfig) (p : Setup σ) (w : σ) : setUpSteps c p w ≠ [] := by
  unfold setUpSteps setUpEncryption
  cases c.usesSsl with
  | false => simp
  | true => simp

theorem lines_setUpSteps (c : SmtpConfig) (p : Setup σ) (w : σ) :
    Preparation.lines (setUpSteps c p w) = [] := by
  unfold setUpSteps
  cases c.usesSsl <;> cases (setUpEncryption c p w).1 <;> rfl

theorem buildSteps_ne_nil (c : SmtpConfig) (p : Setup σ) (w : σ) : buildSteps c p w ≠ [] :=
  List.append_ne_nil_of_left_ne_nil (setUpSteps_ne_nil c p w) _

/-- No command runs but those that give the password, and only when all else is set up. -/
theorem lines_buildSteps (c : SmtpConfig) (p : Setup σ) (w : σ) :
    Preparation.lines (buildSteps c p w) =
      if (setUp c p w).1.toBool then passwordCommands c else [] := by
  have hsetUp := lines_setUpSteps c p w
  unfold buildSteps
  rw [Preparation.lines] at hsetUp ⊢
  rw [List.filterMap_append, hsetUp, List.nil_append]
  split
  · exact lines_map_command _
  · rfl

theorem setUp_of_build {w w' : σ} {t : Transport} (h : build c p runner w = (.ok t, w')) :
    (setUp c p w).1.toBool = true := by
  unfold build at h
  split at h
  · cases h
  · rename_i hsetUp
    rw [hsetUp]
    rfl

/-! ## One message -/

/-- The steps that a sender takes for one message: none, unless there is an address to send to and
nothing is ready. -/
def sendSteps (c : SmtpConfig) (p : Setup σ) (recipient : Text) (kept : Option Transport) (w : σ) :
    List Preparation :=
  if Envelope.isAddress recipient && kept.isNone then buildSteps c p w else []

theorem sendSteps_ne_nil_iff {recipient : Text} {kept : Option Transport} {w : σ} :
    sendSteps c p recipient kept w ≠ [] ↔ Envelope.isAddress recipient = true ∧ kept = none := by
  unfold sendSteps
  cases Envelope.isAddress recipient with
  | false => simp
  | true => cases kept <;> simp [buildSteps_ne_nil]

theorem lines_sendSteps (recipient : Text) (kept : Option Transport) (w : σ) :
    Preparation.lines (sendSteps c p recipient kept w) =
      if (Envelope.isAddress recipient && kept.isNone) && (setUp c p w).1.toBool then
        passwordCommands c
      else [] := by
  unfold sendSteps
  cases Envelope.isAddress recipient && kept.isNone with
  | false => rfl
  | true => exact lines_buildSteps c p w

theorem ready_recorded (kept : Option Transport) (w : List Preparation × σ) :
    ready c p.recorded runner.recorded kept w =
      keeping (w.1 ++ if kept.isNone then buildSteps c p w.2 else [])
        (ready c p runner kept w.2) := by
  cases kept with
  | some t => simp [ready, keeping]
  | none => exact build_recorded w

theorem make_of_isAddress {recipient : Text} (h : Envelope.isAddress recipient = true)
    (email : Octets) :
    Envelope.make email recipient = .ok ⟨Envelope.author? email, recipient⟩ := by
  unfold Envelope.isAddress at h
  unfold Envelope.make
  cases hcheck : Envelope.check recipient with
  | ok => rfl
  | error fault => simp [hcheck, Except.toBool] at h

theorem make_of_not_isAddress {recipient : Text} (h : Envelope.isAddress recipient = false)
    (email : Octets) :
    ∃ fault, Envelope.make email recipient = .error (.recipient fault recipient) := by
  unfold Envelope.isAddress at h
  unfold Envelope.make
  cases hcheck : Envelope.check recipient with
  | ok => simp [hcheck, Except.toBool] at h
  | error fault => exact ⟨fault, rfl⟩

theorem send_recorded (email : Octets) (recipient : Text) (kept : Option Transport)
    (w : List Preparation × σ) :
    send c p.recorded s.beside runner.recorded email recipient kept w =
      ((send c p s runner email recipient kept w.2).1,
        ((send c p s runner email recipient kept w.2).2.1,
          (w.1 ++ sendSteps c p recipient kept w.2,
            (send c p s runner email recipient kept w.2).2.2))) := by
  unfold send sendSteps
  cases haddress : Envelope.isAddress recipient with
  | false =>
    obtain ⟨fault, hmake⟩ := make_of_not_isAddress haddress email
    simp [hmake]
  | true =>
    rw [make_of_isAddress haddress email, Bool.true_and]
    simp only [ready_recorded, keeping]
    rcases ready c p runner kept w.2 with ⟨_ | t, w₁⟩
    · rfl
    · simp only [converse_beside, keeping]
      rcases converse c s t ⟨Envelope.author? email, recipient⟩ email w₁ with ⟨_ | _, w₂⟩
      · rfl
      · rfl

/-- A sender that is followed answers and acts as it does otherwise, and the record tells the steps
that it takes. -/
theorem sender_recorded (email : Octets) (recipient : Text) (kept : Option Transport)
    (w : List Preparation × σ) :
    sender c p.recorded s.beside runner.recorded email recipient (kept, w) =
      ((sender c p s runner email recipient (kept, w.2)).1,
        ((sender c p s runner email recipient (kept, w.2)).2.1,
          (w.1 ++ sendSteps c p recipient kept w.2,
            (sender c p s runner email recipient (kept, w.2)).2.2))) := by
  unfold sender
  simp only [send_recorded]

variable (c p s runner) in
/-- A message for someone without an address is refused, and nothing has changed. -/
theorem sender_of_not_isAddress {recipient : Text} (h : Envelope.isAddress recipient = false)
    (email : Octets) (st : Option Transport × σ) :
    ∃ fault, sender c p s runner email recipient st =
      (.error (.smtp (.recipient fault recipient)), st) := by
  obtain ⟨fault, hmake⟩ := make_of_not_isAddress h email
  refine ⟨fault, ?_⟩
  simp only [sender, send, hmake]
  rfl

/-- When a sender cannot be made ready, nothing is kept of the attempt. -/
theorem sender_of_build_error {recipient : Text} (h : Envelope.isAddress recipient = true)
    (email : Octets) {w w' : σ} {e : SmtpError} (hbuild : build c p runner w = (.error e, w')) :
    sender c p s runner email recipient (none, w) = (.error (.smtp e), (none, w')) := by
  simp only [sender, send, make_of_isAddress h, ready, hbuild]
  rfl

/-- What is ready for a message is kept, whether the message is sent or not. -/
theorem after_sender_of_ready {recipient : Text} (h : Envelope.isAddress recipient = true)
    (email : Octets) {kept : Option Transport} {w w' : σ} {t : Transport}
    (hready : ready c p runner kept w = (.ok t, w')) :
    (sender c p s runner email recipient (kept, w)).2.1 = some t := by
  simp only [sender, send, make_of_isAddress h, hready]
  rcases converse c s t ⟨Envelope.author? email, recipient⟩ email w' with ⟨_ | _, w₁⟩
  · rfl
  · rfl

variable (c p s runner) in
theorem after_sender_of_some (email : Octets) (recipient : Text) (t : Transport) (w : σ) :
    (sender c p s runner email recipient (some t, w)).2.1 = some t := by
  cases haddress : Envelope.isAddress recipient with
  | false =>
    obtain ⟨fault, hsender⟩ := sender_of_not_isAddress c p s runner haddress email (some t, w)
    rw [hsender]
  | true => exact after_sender_of_ready haddress email rfl

/-- What becomes ready has been made ready for an address. -/
theorem exists_build_of_after {email : Octets} {recipient : Text} {w : σ}
    (h : (sender c p s runner email recipient (none, w)).2.1 ≠ none) :
    Envelope.isAddress recipient = true ∧ ∃ t w', build c p runner w = (.ok t, w') := by
  cases haddress : Envelope.isAddress recipient with
  | false =>
    obtain ⟨fault, hsender⟩ := sender_of_not_isAddress c p s runner haddress email (none, w)
    rw [hsender] at h
    exact absurd rfl h
  | true =>
    rcases hbuild : build c p runner w with ⟨e | t, w'⟩
    · rw [sender_of_build_error haddress email hbuild] at h
      exact absurd rfl h
    · exact ⟨rfl, t, w', rfl⟩

/-- A message to be sent, and its recipient. -/
structure Mail where
  email : Octets
  recipient : Text

/-- What is seen of a sender as it is handed one message. -/
structure Attempt where
  recipient : Text
  /-- What was ready before. -/
  before : Option Transport
  steps : List Preparation
  answer : Except SendError Unit
  /-- What is ready after. -/
  after : Option Transport

/-- Hands a message to a sender, with a record of the steps that the sender takes. -/
def attempt (c : SmtpConfig) (p : Setup σ) (s : Server σ) (runner : CommandRunner σ) (mail : Mail)
    (st : Option Transport × σ) : Attempt × (Option Transport × σ) :=
  match sender c p.recorded s.beside runner.recorded mail.email mail.recipient
      (st.1, ([], st.2)) with
  | (answer, (after, (steps, w))) => (⟨mail.recipient, st.1, steps, answer, after⟩, (after, w))

theorem attempt_eq (mail : Mail) (st : Option Transport × σ) :
    attempt c p s runner mail st =
      (⟨mail.recipient, st.1, sendSteps c p mail.recipient st.1 st.2,
          (sender c p s runner mail.email mail.recipient st).1,
          (sender c p s runner mail.email mail.recipient st).2.1⟩,
        (sender c p s runner mail.email mail.recipient st).2) := by
  simp only [attempt, sender_recorded, List.nil_append]

/-- What holds of a sender for every message that it is handed. -/
structure Attempt.Orderly (c : SmtpConfig) (a : Attempt) : Prop where
  /-- There are steps exactly when there is an address to send to and nothing was ready. -/
  prepares_iff : a.steps ≠ [] ↔ Envelope.isAddress a.recipient = true ∧ a.before = none
  /-- No command is run but the one for the password. -/
  runs : Preparation.lines a.steps = [] ∨ Preparation.lines a.steps = passwordCommands c
  /-- Nothing becomes ready without the password. -/
  asks : a.before = none → a.after ≠ none → Preparation.lines a.steps = passwordCommands c
  refused : Envelope.isAddress a.recipient = false → a.after = a.before ∧
    ∃ fault, a.answer = .error (.smtp (.recipient fault a.recipient))
  kept : a.before ≠ none → a.after = a.before

variable (c p s runner) in
theorem attempt_orderly (mail : Mail) (st : Option Transport × σ) :
    (attempt c p s runner mail st).1.Orderly c := by
  obtain ⟨kept, w⟩ := st
  rw [attempt_eq]
  refine ⟨sendSteps_ne_nil_iff, ?_, ?_, ?_, ?_⟩
  · show Preparation.lines (sendSteps c p mail.recipient kept w) = [] ∨ _
    rw [lines_sendSteps]
    split
    · exact Or.inr rfl
    · exact Or.inl rfl
  · rintro (rfl : kept = none) hready
    obtain ⟨haddress, t, w', hbuild⟩ := exists_build_of_after hready
    show Preparation.lines (sendSteps c p mail.recipient none w) = _
    rw [lines_sendSteps, haddress, setUp_of_build hbuild]
    rfl
  · intro haddress
    obtain ⟨fault, hsender⟩ := sender_of_not_isAddress c p s runner haddress mail.email (kept, w)
    rw [hsender]
    exact ⟨rfl, fault, rfl⟩
  · intro hkept
    obtain ⟨t, rfl⟩ := Option.ne_none_iff_exists'.1 hkept
    exact after_sender_of_some c p s runner mail.email mail.recipient t w

/-! ## Any number of messages -/

/-- Hands messages to a sender one after another; beside what is seen of them, what is ready in the
end and the world. -/
def sendAll (c : SmtpConfig) (p : Setup σ) (s : Server σ) (runner : CommandRunner σ) :
    List Mail → Option Transport × σ → List Attempt × (Option Transport × σ)
  | [], st => ([], st)
  | mail :: mails, st =>
    let (a, st) := attempt c p s runner mail st
    let (later, st) := sendAll c p s runner mails st
    (a :: later, st)

theorem sendAll_cons (mail : Mail) (mails : List Mail) (st : Option Transport × σ) :
    sendAll c p s runner (mail :: mails) st =
      ((attempt c p s runner mail st).1 ::
          (sendAll c p s runner mails (attempt c p s runner mail st).2).1,
        (sendAll c p s runner mails (attempt c p s runner mail st).2).2) := rfl

theorem sendAll_append (mails later : List Mail) (st : Option Transport × σ) :
    sendAll c p s runner (mails ++ later) st =
      ((sendAll c p s runner mails st).1 ++
          (sendAll c p s runner later (sendAll c p s runner mails st).2).1,
        (sendAll c p s runner later (sendAll c p s runner mails st).2).2) := by
  induction mails generalizing st with
  | nil => rfl
  | cons mail mails ih =>
    rw [List.cons_append, sendAll_cons, ih, sendAll_cons]
    rfl

theorem sendAll_orderly {mails : List Mail} {st : Option Transport × σ} {a : Attempt}
    (h : a ∈ (sendAll c p s runner mails st).1) : a.Orderly c := by
  induction mails generalizing st with
  | nil => cases h
  | cons mail mails ih =>
    rw [sendAll_cons] at h
    rcases List.mem_cons.1 h with rfl | h
    · exact attempt_orderly c p s runner mail st
    · exact ih h

/-- What is ready stays as it is. -/
theorem sendAll_of_ready {mails : List Mail} {st : Option Transport × σ} (hst : st.1 ≠ none)
    {a : Attempt} (h : a ∈ (sendAll c p s runner mails st).1) :
    a.before = st.1 ∧ a.after = st.1 := by
  induction mails generalizing st with
  | nil => cases h
  | cons mail mails ih =>
    have hkept : (attempt c p s runner mail st).2.1 = st.1 := by
      have horderly := attempt_orderly c p s runner mail st
      rw [attempt_eq] at horderly ⊢
      exact horderly.kept hst
    rw [sendAll_cons] at h
    rcases List.mem_cons.1 h with rfl | h
    · rw [attempt_eq] at hkept ⊢
      exact ⟨rfl, hkept⟩
    · rw [← hkept] at hst ⊢
      exact ih hst h

/-- Once something is ready, it stays, and no more steps are taken. -/
theorem pairwise_sendAll (mails : List Mail) (st : Option Transport × σ) :
    (sendAll c p s runner mails st).1.Pairwise fun a b =>
      a.after ≠ none → b.before = a.after ∧ b.steps = [] ∧ b.after = a.after := by
  induction mails generalizing st with
  | nil => exact List.Pairwise.nil
  | cons mail mails ih =>
    rw [sendAll_cons]
    refine List.pairwise_cons.2 ⟨?_, ih _⟩
    intro b hb hready
    have hafter : (attempt c p s runner mail st).1.after = (attempt c p s runner mail st).2.1 := by
      rw [attempt_eq]
    rw [hafter] at hready ⊢
    obtain ⟨hbefore, hkept⟩ := sendAll_of_ready hready hb
    refine ⟨hbefore, ?_, hkept⟩
    by_contra hsteps
    exact hready (hbefore ▸ ((sendAll_orderly hb).prepares_iff.1 hsteps).2)

/-- A sender becomes ready at most once. -/
theorem length_built_le_one (mails : List Mail) (st : Option Transport × σ) :
    ((sendAll c p s runner mails st).1.filter
      fun a => a.before.isNone && a.after.isSome).length ≤ 1 := by
  have hpair : ((sendAll c p s runner mails st).1.filter
      fun a => a.before.isNone && a.after.isSome).Pairwise fun _ _ => False := by
    refine ((pairwise_sendAll mails st).filter _).imp_of_mem ?_
    intro a b ha hb hstays
    obtain ⟨-, ha⟩ := List.mem_filter.1 ha
    obtain ⟨-, hb⟩ := List.mem_filter.1 hb
    obtain ⟨-, ha⟩ : a.before = none ∧ a.after.isSome = true := by simpa using ha
    obtain ⟨hb, -⟩ : b.before = none ∧ b.after.isSome = true := by simpa using hb
    have hbefore := (hstays (Option.isSome_iff_ne_none.1 ha)).1
    rw [← hbefore, hb] at ha
    cases ha
  match hbuilt : (sendAll c p s runner mails st).1.filter _ with
  | [] => exact Nat.zero_le 1
  | [a] => exact Nat.le_refl 1
  | a :: b :: rest =>
    rw [hbuilt, List.pairwise_cons] at hpair
    exact (hpair.1 b List.mem_cons_self).elim

/-- Messages for someone without an address may as well not have been handed over. -/
theorem filter_sendAll (mails : List Mail) (st : Option Transport × σ) :
    ((sendAll c p s runner mails st).1.filter fun a => Envelope.isAddress a.recipient,
        (sendAll c p s runner mails st).2) =
      sendAll c p s runner (mails.filter fun mail => Envelope.isAddress mail.recipient) st := by
  induction mails generalizing st with
  | nil => rfl
  | cons mail mails ih =>
    have hrecipient : (attempt c p s runner mail st).1.recipient = mail.recipient := by
      rw [attempt_eq]
    obtain ⟨hlater, hlast⟩ := Prod.ext_iff.1 (ih (attempt c p s runner mail st).2)
    rw [sendAll_cons, List.filter_cons, List.filter_cons, hrecipient]
    cases haddress : Envelope.isAddress mail.recipient with
    | true =>
      rw [if_pos rfl, if_pos rfl, sendAll_cons]
      exact Prod.ext (congrArg (_ :: ·) hlater) hlast
    | false =>
      obtain ⟨fault, hsender⟩ := sender_of_not_isAddress c p s runner haddress mail.email st
      have hst : (attempt c p s runner mail st).2 = st := by rw [attempt_eq, hsender]
      rw [hst] at hlater hlast ⊢
      exact Prod.ext hlater hlast

variable (c p s runner) in
/-- **A sender asks for the password until it has it, and then no more.**  A sender that is followed
acts as it does otherwise.  For each message that it is handed, it takes steps to become ready
exactly when there is an address to send to and nothing is ready yet, and the only command that it
runs is the one for the password (`Attempt.Orderly`).  Once something is ready, no more steps are
taken and it stays as it is, whatever becomes of the messages, so that a sender becomes ready at
most once.  Messages for someone without an address may as well not have been handed over, and after
a message for which the sender could not be made ready it goes on like a new one. -/
theorem sendAll_prepares_once :
    (∀ (mail : Mail) (st : Option Transport × σ),
      sender c p s runner mail.email mail.recipient st =
        ((attempt c p s runner mail st).1.answer, (attempt c p s runner mail st).2)) ∧
    (∀ (mails : List Mail) (st : Option Transport × σ),
      (∀ a ∈ (sendAll c p s runner mails st).1, a.Orderly c) ∧
      ((sendAll c p s runner mails st).1.Pairwise fun a b =>
        a.after ≠ none → b.before = a.after ∧ b.steps = [] ∧ b.after = a.after) ∧
      ((sendAll c p s runner mails st).1.filter
        fun a => a.before.isNone && a.after.isSome).length ≤ 1 ∧
      ((sendAll c p s runner mails st).1.filter fun a => Envelope.isAddress a.recipient,
          (sendAll c p s runner mails st).2) =
        sendAll c p s runner (mails.filter fun mail => Envelope.isAddress mail.recipient) st) ∧
    ∀ (front : List Mail) (mail : Mail) (back : List Mail) (st : Option Transport × σ)
      (e : SmtpError) (w : σ), Envelope.isAddress mail.recipient = true →
      (sendAll c p s runner front st).2.1 = none →
      build c p runner (sendAll c p s runner front st).2.2 = (.error e, w) →
      ∃ a : Attempt, a.answer = .error (.smtp e) ∧ a.after = none ∧
        sendAll c p s runner (front ++ mail :: back) st =
          ((sendAll c p s runner front st).1 ++ a :: (sendAll c p s runner back (none, w)).1,
            (sendAll c p s runner back (none, w)).2) := by
  refine ⟨fun mail st => ?_, fun mails st => ⟨fun a ha => sendAll_orderly ha,
    pairwise_sendAll mails st, length_built_le_one mails st, filter_sendAll mails st⟩, ?_⟩
  · rw [attempt_eq]
  · intro front mail back st e w haddress hnone hbuild
    have hst : (sendAll c p s runner front st).2 = (none, (sendAll c p s runner front st).2.2) :=
      Prod.ext hnone rfl
    have hattempt : ∃ a : Attempt, attempt c p s runner mail (sendAll c p s runner front st).2 =
        (a, (none, w)) ∧ a.answer = .error (.smtp e) ∧ a.after = none := by
      rw [attempt_eq, hst, sender_of_build_error haddress mail.email hbuild]
      exact ⟨_, rfl, rfl, rfl⟩
    obtain ⟨a, ha, hanswer, hafter⟩ := hattempt
    refine ⟨a, hanswer, hafter, ?_⟩
    rw [sendAll_append, sendAll_cons, ha]

/-- The password is not there at first, and two messages are for someone without an address. -/
theorem sendAll_prepares_once_second_try :
    let c : SmtpConfig :=
      ⟨⟨"localhost".toList, 25, some false, none, none⟩, some "bob".toList, some "pass".toList⟩
    let p : Setup ℕ := ⟨fun _ _ w => (true, w), fun _ _ w => (true, w)⟩
    let s : Server ℕ := ⟨fun w => (⟨220, []⟩, w), fun w => (false, w),
      fun _ w => (⟨250, ["AUTH PLAIN".toList]⟩, w), fun _ w => (⟨250, []⟩, w)⟩
    let runner : CommandRunner ℕ := fun _ _ runs =>
      (some ⟨some (if runs = 0 then 1 else 0), Utf8.encode "secret".toList, [], 0⟩, runs + 1)
    let mail : Text → Mail := fun recipient => ⟨Utf8.encode "\nHello!\n".toList, recipient⟩
    let front := [mail "nobody".toList]
    let back := [mail "carol@localhost".toList, mail "nobody".toList, mail "dave@localhost".toList]
    let e : SmtpError := .password (.failed "pass".toList 1 [])
    Envelope.isAddress "carol@localhost".toList = true ∧
      (sendAll c p s runner front (none, 0)).2.1 = none ∧
      build c p runner (sendAll c p s runner front (none, 0)).2.2 = (.error e, 1) ∧
      (sendAll c p s runner back (none, 1)).1.map (fun a => (a.steps, a.answer.toBool)) =
        [([.relay, .command "pass".toList], true), ([], false), ([], true)] ∧
      ∃ a : Attempt, a.answer = .error (.smtp e) ∧ a.after = none ∧
        (sendAll c p s runner (front ++ mail "carol@localhost".toList :: back) (none, 0)).1 =
          (sendAll c p s runner front (none, 0)).1 ++
            a :: (sendAll c p s runner back (none, 1)).1 := by
  intro c p s runner mail front back e
  have haddress : Envelope.isAddress "carol@localhost".toList = true := by decide +kernel
  have hnone : (sendAll c p s runner front (none, 0)).2.1 = none := by decide +kernel
  have hbuild : build c p runner (sendAll c p s runner front (none, 0)).2.2 = (.error e, 1) := by
    decide +kernel
  obtain ⟨-, -, hfailed⟩ := sendAll_prepares_once c p s runner
  obtain ⟨a, hanswer, hafter, hall⟩ :=
    hfailed front (mail "carol@localhost".toList) back (none, 0) e 1 haddress hnone hbuild
  exact ⟨haddress, hnone, hbuild, by decide +kernel, a, hanswer, hafter, congrArg (·.1) hall⟩

end Smtp

end Postroom
