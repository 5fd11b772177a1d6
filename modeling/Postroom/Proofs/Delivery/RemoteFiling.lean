import Postroom.Proofs.Mailbox.Resolution
import Postroom.Proofs.Transport.AppendCommand
import Mathlib.Data.List.Forall2

/-!
# The mailbox of another account that takes a message

Four parts have to agree on the mailbox that a path leads to: the resolution, which leaves a rest of
the path, the delivery, which hands the rest on as text, the session, which cuts it into segments
again, and the look-up among whatever the server lists.  A message is appended to the mailbox that
is mounted for the longest part of the path, or to the one that the other segments name below it,
and only when the server has listed a mailbox of exactly this name.

The line that appends has the name between quotation marks.  A name that holds one, or a backslash,
is read as the name of some other mailbox there (`execute_appends_elsewhere`).

* `Delivery.Backed` — what holds whenever another account is asked to take a message;
* `Imap.Mounted` — the mailbox that is mounted where a path leads to, and the segments behind;
* `Imap.Addressed` — exchanges that append to such mailboxes only.
-/

namespace Postroom

open Imap

variable {ρ σ τ : Type}

namespace Delivery

/-! ## What an account has been asked before -/

/-- Whenever another account is asked to take a message, `P` holds of the events before, of the
folder, of the flags and of the octets. -/
def Backed (P : List Event → RemoteFolder → List TransportFlag → Octets → Prop) :
    List Event → List Event → Prop
  | _, [] => True
  | seen, .appended folder flags raw answer :: es =>
    P seen folder flags raw ∧ Backed P (seen ++ [.appended folder flags raw answer]) es
  | seen, e :: es => Backed P (seen ++ [e]) es

/-- The folder has been found for an item, or below the folder for the item along a rest of a
path. -/
def FoundFor (item : ItemId) (folder : RemoteFolder) (seen : List Event) : Option Text → Prop
  | none => .foundFolder item (.ok (some folder)) ∈ seen
  | some path => ∃ parent, .foundFolder item (.ok (some parent)) ∈ seen ∧
      .foundSubfolder parent path (.ok (some folder)) ∈ seen

variable {P Q : List Event → RemoteFolder → List TransportFlag → Octets → Prop}
  {seen es es' : List Event}

theorem Backed.tail {e : Event} (h : Backed P seen (e :: es)) : Backed P (seen ++ [e]) es := by
  cases e with
  | appended folder flags raw answer => exact h.2
  | _ => exact h

theorem backed_append :
    Backed P seen (es ++ es') ↔ Backed P seen es ∧ Backed P (seen ++ es) es' := by
  induction es generalizing seen with
  | nil => simp [Backed]
  | cons e es ih => cases e <;> simp [Backed, ih, and_assoc]

theorem backed_of_no_append (h : ∀ e ∈ es, e.append? = none) : Backed P seen es := by
  induction es generalizing seen with
  | nil => trivial
  | cons e es ih =>
    obtain ⟨he, hes⟩ := List.forall_mem_cons.1 h
    cases e with
    | appended => cases he
    | _ => exact ih hes

theorem Backed.mono (h : Backed P seen es) (hPQ : ∀ seen folder flags raw,
    P seen folder flags raw → Q seen folder flags raw) : Backed Q seen es := by
  induction es generalizing seen with
  | nil => trivial
  | cons e es ih =>
    cases e with
    | appended folder flags raw answer => exact ⟨hPQ _ _ _ _ h.1, ih h.2⟩
    | _ => exact ih h

/-! ## The forms of events -/

variable {s : Surroundings σ τ} {d : Delivery} {known known' : Option Marks} {m : Mailbox}

theorem FoundFor.append {item : ItemId} {folder : RemoteFolder} {rest : Option Text}
    (h : FoundFor item folder es rest) (seen : List Event) (later : List Event) :
    FoundFor item folder (seen ++ es ++ later) rest := by
  have hmem : ∀ e ∈ es, e ∈ seen ++ es ++ later := fun e he =>
    List.mem_append_left _ (List.mem_append_right _ he)
  cases rest with
  | none => exact hmem _ h
  | some path =>
    obtain ⟨parent, hparent, hbelow⟩ := h
    exact ⟨parent, hmem _ hparent, hmem _ hbelow⟩

theorem Lookup.foundFor {item : ItemId} {rest : Option Text} {folder : RemoteFolder}
    (h : Lookup item rest (.ok (some folder)) es) : FoundFor item folder es rest := by
  cases h with
  | found => exact List.mem_singleton_self _
  | below parent => exact ⟨parent, List.mem_cons_self, List.mem_cons_of_mem _ List.mem_cons_self⟩

theorem Lookup.no_append {item : ItemId} {rest : Option Text}
    {answer : Except RemoteError (Option RemoteFolder)} (h : Lookup item rest answer es) :
    ∀ e ∈ es, e.append? = none := by
  cases h <;> simp [Event.append?]

theorem Marking.no_append {marks : Marks} (h : Marking d known marks es) :
    ∀ e ∈ es, e.append? = none :=
  h.forall_mem (fun _ => rfl) fun _ => rfl

theorem Filed.no_append {folder : FolderId} {answer : Except StoreError Outcome}
    (h : Filed d folder known answer es known') : ∀ e ∈ es, e.append? = none := by
  cases h with
  | intro answer hmarking =>
    exact List.forall_mem_append.2 ⟨hmarking.no_append, List.forall_mem_singleton.2 rfl⟩

theorem Posting.no_append {address : Text} {answer : Except SendError Unit}
    (h : Posting s d address answer es) : ∀ e ∈ es, e.append? = none := by
  cases h with
  | unreadable | senderless => exact List.forall_mem_nil _
  | sent recipient stamp answer h =>
    refine List.forall_mem_append.2 ⟨?_, List.forall_mem_singleton.2 rfl⟩
    intro e he
    obtain ⟨n, -, rfl⟩ := List.mem_map.1 he
    rfl

/-- The account is asked to take the message in a folder that has been found for a mountpoint and
the rest of a path, with the flags of some word. -/
def IsRequest (d : Delivery) (item : ItemId) (rest : Option Text) (seen : List Event)
    (folder : RemoteFolder) (flags : List TransportFlag) (raw : Octets) : Prop :=
  FoundFor item folder seen rest ∧ (∃ mask, flags = TransportFlag.ofBitmask mask) ∧
    raw = d.message.raw

/-- In a session, the account is asked to take the message in the folder that has been found. -/
theorem Visit.backed {item : ItemId} {rest : Option Text} {answer : Except RemoteError Bool}
    (h : Visit d item rest known answer es known') (seen : List Event) :
    Backed (d.IsRequest item rest) seen es := by
  cases h with
  | lost h | nowhere h => exact backed_of_no_append h.no_append
  | @appended folder es marks marking answer h hm =>
    refine backed_append.2 ⟨backed_of_no_append h.no_append,
      backed_append.2 ⟨backed_of_no_append hm.no_append, ?_⟩⟩
    exact ⟨⟨h.foundFor.append seen marking, ⟨_, rfl⟩, rfl⟩, trivial⟩

theorem Trip.backed {mp : Mountpoint} {rest : Option Text} {answer : Except RemoteError Bool}
    (h : Trip s d mp rest known answer es known') (seen : List Event) :
    Backed (d.IsRequest mp.item rest) seen es := by
  cases h with
  | unconnected | tokenless | refused => trivial
  | visited t h => exact backed_append.2 ⟨h.backed _, trivial⟩

theorem Placed.backed {path : Text} {r : Resolution} {place : Place}
    (h : Placed s d path r known place es known') (seen : List Event) :
    Backed (fun seen folder flags raw => ∃ mp, r.folder.mountpoint? = some mp ∧
      d.IsRequest mp.item r.remaining seen folder flags raw) seen es := by
  cases h with
  | remote hm h | absent hm h => exact (h.backed seen).mono fun _ _ _ _ h => ⟨_, hm, h⟩
  | failed hm h =>
    exact backed_append.2 ⟨(h.backed seen).mono fun _ _ _ _ h => ⟨_, hm, h⟩, trivial⟩
  | partway | root | own => trivial

/-- **Only along a mountpoint is another account asked.**  When an action asks one to take a
message, it files along a path that the mailbox resolves to a mountpoint, and the folder has been
found for the mountpoint and the rest of the path. -/
theorem Block.backed {a : DeliveryAction} {answer : Except StoreError Outcome}
    (h : Block s d a known answer es known') (hes : m.Answers es) (seen : List Event) :
    Backed (fun seen folder flags raw => ∃ path r mp, a = .fileInto path ∧
      m.resolve .root path = .ok r ∧ r.folder.mountpoint? = some mp ∧
      d.IsRequest mp.item r.remaining seen folder flags raw) seen es := by
  cases h with
  | kept implicit h => exact backed_of_no_append h.no_append
  | unresolved => trivial
  | remote path r h =>
    obtain ⟨hr, -⟩ := hes
    exact (h.backed _).mono fun _ _ _ _ ⟨mp, hmp, h⟩ => ⟨path, r, mp, rfl, hr.symm, hmp, h⟩
  | filed path r h hf =>
    obtain ⟨hr, -⟩ := hes
    refine backed_append.2 ⟨?_, backed_of_no_append hf.no_append⟩
    exact (h.backed _).mono fun _ _ _ _ ⟨mp, hmp, h⟩ => ⟨path, r, mp, rfl, hr.symm, hmp, h⟩
  | sent address h =>
    exact backed_of_no_append (List.forall_mem_cons.2 ⟨rfl, h.no_append⟩)
  | returned address h hf =>
    exact backed_of_no_append (List.forall_mem_cons.2 ⟨rfl,
      List.forall_mem_append.2 ⟨h.no_append, List.forall_mem_cons.2 ⟨rfl, hf.no_append⟩⟩⟩)

end Delivery

/-! ## What a server has been told -/

namespace Imap

variable {c : ImapConfig} {m : Mailbox} {path name : Text} {exchanges : List Exchange}

/-- The server has been asked for an encoded name, and the first mailbox of exactly this name that
it has listed is this one, whatever else it has listed. -/
def Lists (exchanges : List Exchange) (name : Text) (listed : Listed) : Prop :=
  ∃ n lines mailboxes, exchange n (listCommand (MailboxName.encode name)) lines ∈ exchanges ∧
    (completion? (tag n) lines).bind listing? = some mailboxes ∧
    mailboxes.find? (·.name == MailboxName.encode name) = some listed

/-- What the server reports to stand between the names of mailboxes, and a slash when it reports
nothing. -/
def Listed.separator (listed : Listed) : Text :=
  match listed.delimiter with
  | none | some [] => ['/']
  | some delimiter => delimiter

/-- The longest part of the path that has a folder is a mountpoint, for which this mailbox is
mounted, and these segments are behind it. -/
inductive Mounted (c : ImapConfig) (m : Mailbox) (path : Text) : Text → List Text → Prop
  | intro {taken below : List Text} {f : Folder} {mp : Mountpoint} {mounted : Text}
      (segments : Path.split path = taken ++ below)
      (folder : m.folderAt? (Path.join taken) = some f)
      (longest : ∀ k, taken.length < k → k ≤ (Path.split path).length →
        m.folderAt? (Path.join ((Path.split path).take k)) = none)
      (mountpoint : f.mountpoint? = some mp)
      (mount : c.mounts.lookup (mp.owner ++ ':' :: Text.ofNat mp.remoteId.toNat) = some mounted) :
      Mounted c m path mounted below

/-- The name that segments lead to below a mailbox, as the server separates names there. -/
def Listed.nameBelow (parent : Listed) (mounted : Text) (below : List Text) : Text :=
  mounted ++ below.flatMap (parent.separator ++ ·)

/-- Whatever these exchanges append is appended to the mailbox that the path of a file-into action
leads to, if the name of the mailbox can stand between quotation marks, and the server has listed
this mailbox before.  This needs that the name of the mounted mailbox is read back as it is
encoded. -/
def Addressed (c : ImapConfig) (m : Mailbox) (d : Delivery) (a : DeliveryAction)
    (exchanges : List Exchange) : Prop :=
  ∀ before x after, exchanges = before ++ x :: after → x.appends = true →
    ∃ path mounted below, a = .fileInto path ∧ Mounted c m path mounted below ∧
      (MailboxName.decode (MailboxName.encode mounted) = mounted →
        ∃ parent target, Lists before mounted parent ∧
          Lists before (parent.nameBelow mounted below) target ∧
          AppendsIfQuotable x.line (parent.nameBelow mounted below) d.message.raw.length)

theorem Lists.mono {part : List Exchange} {listed : Listed} (h : Lists part name listed)
    (hpart : ∀ x ∈ part, x ∈ exchanges) : Lists exchanges name listed := by
  obtain ⟨n, lines, mailboxes, hmem, hlisting⟩ := h
  exact ⟨n, lines, mailboxes, hpart _ hmem, hlisting⟩

/-- A look-up that finds a folder finds it under the exact name, and the server has listed it. -/
theorem LooksUp.lists {folder : RemoteFolder} (h : LooksUp name (.ok (some folder)) exchanges) :
    ∃ listed, Lists exchanges name listed ∧ folder = ⟨MailboxName.encode name,
      MailboxName.decode (MailboxName.encode name), listed.delimiter.getD []⟩ := by
  obtain ⟨n, lines, rfl, hanswer⟩ := h
  unfold found at hanswer
  cases hlisting : (completion? (tag n) lines).bind listing? with
  | none =>
    rw [hlisting] at hanswer
    cases hanswer
  | some mailboxes =>
    rw [hlisting] at hanswer
    have hpick : pick (MailboxName.encode name) mailboxes = some folder :=
      (Except.ok.inj hanswer).symm
    obtain ⟨listed, hfind, rfl⟩ := Option.map_eq_some_iff.1 hpick
    have hname : listed.name = MailboxName.encode name := by simpa using List.find?_some hfind
    exact ⟨listed, ⟨n, lines, mailboxes, List.mem_singleton_self _, hlisting, hfind⟩, by rw [hname]⟩

theorem Wired.exists_wire {es : List Event} {e : Event} (h : Wired c es exchanges) (he : e ∈ es) :
    ∃ part, e.Wire c part ∧ ∀ x ∈ part, x ∈ exchanges := by
  induction h with
  | nil => cases he
  | @cons _ es part exchanges hwire h ih =>
    rcases List.mem_cons.1 he with rfl | he
    · exact ⟨part, hwire, fun x hx => List.mem_append_left _ hx⟩
    · obtain ⟨part', hwire', hpart⟩ := ih he
      exact ⟨part', hwire', fun x hx => List.mem_append_right _ (hpart x hx)⟩

/-- Only the request to take a message appends something. -/
theorem exists_appended_of_wire {e : Event} {part : List Exchange} (h : e.Wire c part)
    {x : Exchange} (hx : x ∈ part) (happends : x.appends = true) :
    ∃ folder flags raw answer n lines, e = .appended folder flags raw answer ∧
      part = [exchange n (appendCommand folder flags raw.length) lines] := by
  have hlooksUp : ∀ name answer, ¬ LooksUp name answer part := by
    rintro name answer ⟨n, lines, rfl, -⟩
    obtain rfl := List.mem_singleton.1 hx
    rw [appends_listCommand] at happends
    cases happends
  cases e with
  | appended folder flags raw answer =>
    obtain ⟨n, lines, hpart⟩ := h
    exact ⟨folder, flags, raw, answer, n, lines, rfl, hpart⟩
  | foundFolder item answer =>
    simp only [Event.Wire] at h
    split at h
    · exact absurd h (hlooksUp _ _)
    · rw [h.1] at hx
      cases hx
  | foundSubfolder parent path answer => exact absurd h (hlooksUp _ _)
  | _ =>
    have hidle : x.appends = false := h x hx
    rw [hidle] at happends
    cases happends

/-- When a request that appends something is made, what `Backed` promises holds of the events
before it. -/
theorem exists_of_backed {P : List Event → RemoteFolder → List TransportFlag → Octets → Prop}
    {seen es : List Event} {sent before : List Exchange} {x : Exchange} {after : List Exchange}
    (h : Delivery.Backed P seen es) (hseen : Wired c seen sent) (hes : Wired c es exchanges)
    (hsplit : exchanges = before ++ x :: after) (happends : x.appends = true) :
    ∃ seen' folder flags raw n, Wired c seen' (sent ++ before) ∧ P seen' folder flags raw ∧
      x.line = tag n ++ ' ' :: appendCommand folder flags raw.length := by
  induction hes generalizing seen sent before with
  | nil => simp at hsplit
  | @cons e es part exchanges hwire hes ih =>
    -- either the exchange is one of a later event, or it is made by this one
    have hlater : ∀ between, before = part ++ between → exchanges = between ++ x :: after →
        ∃ seen' folder flags raw n, Wired c seen' (sent ++ before) ∧ P seen' folder flags raw ∧
          x.line = tag n ++ ' ' :: appendCommand folder flags raw.length := by
      rintro between rfl hexchanges
      have hseen' : Wired c (seen ++ [e]) (sent ++ part) :=
        wired_append.2 ⟨sent, part, rfl, hseen, .of_event hwire⟩
      rw [← List.append_assoc]
      exact ih h.tail hseen' hexchanges
    rcases List.append_eq_append_iff.1 hsplit with ⟨between, hbefore, hexchanges⟩ |
      ⟨between, hpart, hexchanges⟩
    · exact hlater between hbefore hexchanges
    · cases between with
      | nil => exact hlater [] (by simpa using hpart.symm) hexchanges.symm
      | cons y between =>
        obtain ⟨rfl, -⟩ := List.cons.inj hexchanges
        have hx : x ∈ part := hpart ▸ List.mem_append_right _ List.mem_cons_self
        obtain ⟨folder, flags, raw, answer, n, lines, rfl, hone⟩ :=
          exists_appended_of_wire hwire hx happends
        rw [hone] at hpart hx
        obtain rfl := List.mem_singleton.1 hx
        obtain rfl : before = [] := by
          have hlength := congrArg List.length hpart
          simp only [List.length_append, List.length_cons, List.length_nil] at hlength
          exact List.eq_nil_of_length_eq_zero (by omega)
        exact ⟨seen, folder, flags, raw, n, by rwa [List.append_nil], h.1, rfl⟩

/-! ## The name of the mailbox -/

/-- A folder that has been found for a mountpoint is the mailbox that is mounted for it. -/
theorem exists_mounted {mp : Mountpoint} {folder : RemoteFolder} {seen : List Event}
    (hseen : Wired c seen exchanges) (h : .foundFolder mp.item (.ok (some folder)) ∈ seen) :
    ∃ mounted listed,
      c.mounts.lookup (mp.owner ++ ':' :: Text.ofNat mp.remoteId.toNat) = some mounted ∧
      Lists exchanges mounted listed ∧ folder = ⟨MailboxName.encode mounted,
        MailboxName.decode (MailboxName.encode mounted), listed.delimiter.getD []⟩ := by
  obtain ⟨part, hwire, hpart⟩ := hseen.exists_wire h
  cases hmount : c.mount? mp.item with
  | none =>
    simp only [Event.Wire, hmount] at hwire
    cases hwire.2
  | some mounted =>
    simp only [Event.Wire, hmount] at hwire
    obtain ⟨listed, hlists, rfl⟩ := hwire.lists
    exact ⟨mounted, listed, hmount, hlists.mono hpart, rfl⟩

/-- The session reads the same segments again, and puts between them what separates names on the
server. -/
theorem mailboxName_relative {id mounted : Text} {listed : Listed} {below : List Text}
    (h : ∀ segment ∈ below, Path.IsSegment segment) :
    mailboxName ⟨id, mounted, listed.delimiter.getD []⟩ (Path.relative below) =
      listed.nameBelow mounted below := by
  have hseparator : delimiterOf ⟨id, mounted, listed.delimiter.getD []⟩ = listed.separator := by
    unfold delimiterOf Listed.separator
    match listed.delimiter with
    | none | some [] | some (_ :: _) => rfl
  rw [mailboxName, hseparator, Path.split_relative h]
  rfl

/-- **The parts agree on the name.**  When a path is resolved to a mountpoint and a folder has been
found for it and the rest of the path, then the folder is the mailbox that the path leads to, and
the server has listed it. -/
theorem mounted_of_foundFor (hm : m.Rooted) {r : Resolution} {mp : Mountpoint}
    {folder : RemoteFolder} {seen : List Event} (hr : m.resolve .root path = .ok r)
    (hmp : r.folder.mountpoint? = some mp)
    (hfound : Delivery.FoundFor mp.item folder seen r.remaining) (hseen : Wired c seen exchanges) :
    ∃ mounted below, Mounted c m path mounted below ∧
      (MailboxName.decode (MailboxName.encode mounted) = mounted →
        ∃ parent target, Lists exchanges mounted parent ∧
          Lists exchanges (parent.nameBelow mounted below) target ∧
          folder.id = MailboxName.encode (parent.nameBelow mounted below)) := by
  obtain ⟨n, f, hf, hlonger, hn, hresolve⟩ := hm.resolve_root_longest path
  obtain rfl : Resolution.partway f (Path.relative ((Path.split path).drop n)) = r :=
    Except.ok.inj (hresolve.symm.trans hr)
  have hlength : ((Path.split path).take n).length = n := List.length_take_of_le hn
  have hmounted : ∀ {mounted}, c.mounts.lookup
      (mp.owner ++ ':' :: Text.ofNat mp.remoteId.toNat) = some mounted →
      Mounted c m path mounted ((Path.split path).drop n) :=
    fun hmount => .intro (List.take_append_drop n _).symm hf (by rwa [hlength]) hmp hmount
  have hsegments : ∀ s ∈ (Path.split path).drop n, Path.IsSegment s :=
    fun s hs => Path.isSegment_of_mem_split (List.mem_of_mem_drop hs)
  rw [Resolution.remaining_partway] at hfound
  by_cases hrest : (Path.split path).drop n = []
  · rw [hrest] at hfound hmounted
    obtain ⟨mounted, listed, hmount, hlists, rfl⟩ := exists_mounted hseen hfound
    refine ⟨mounted, [], hmounted hmount, fun _ => ⟨listed, listed, hlists, ?_⟩⟩
    have hname : listed.nameBelow mounted [] = mounted := List.append_nil _
    rw [hname]
    exact ⟨hlists, rfl⟩
  · have hrelative : (Path.relative ((Path.split path).drop n)).isEmpty = false := by
      simpa using mt (Path.relative_eq_nil_iff hsegments).1 hrest
    rw [hrelative] at hfound
    obtain ⟨parent, hparent, hbelow⟩ := hfound
    obtain ⟨mounted, listed, hmount, hlists, rfl⟩ := exists_mounted hseen hparent
    obtain ⟨part, hwire, hpart⟩ := hseen.exists_wire hbelow
    obtain ⟨target, htarget, rfl⟩ := LooksUp.lists hwire
    refine ⟨mounted, _, hmounted hmount, fun hround => ?_⟩
    rw [hround, mailboxName_relative hsegments] at htarget ⊢
    exact ⟨listed, target, hlists, htarget.mono hpart, rfl⟩

/-- The exchanges of a log are those of its entries, one entry after the other. -/
theorem Wired.entries {log : List (DeliveryAction × List Event)}
    (h : Wired c (Delivery.eventsOf log) exchanges) :
    ∃ parts : List (List Exchange), exchanges = parts.flatten ∧
      List.Forall₂ (fun entry part => Wired c entry.2 part) log parts := by
  induction log generalizing exchanges with
  | nil =>
    cases h
    exact ⟨[], rfl, .nil⟩
  | cons entry log ih =>
    obtain ⟨part, later, rfl, hpart, hlater⟩ := wired_append.1 h
    obtain ⟨parts, rfl, hparts⟩ := ih hlater
    exact ⟨part :: parts, rfl, .cons hpart hparts⟩

end Imap

namespace Delivery

/-- **A message is appended to exactly the mailbox that a path leads to, if its name can stand
between quotation marks.**  Over a mailbox that can be reached, and whatever a server answers, the
lines that a run sends to it fall apart by its actions.  Each command among them that appends
something belongs to an action that files along a path, and the server has listed a mailbox of
exactly the name that the path leads to before.  The command names this mailbox and no other when
the name holds no quotation mark and no backslash, and does not name it otherwise. -/
theorem execute_appends_addressed {m : Mailbox} (hm : m.Reachable) (c : ImapConfig)
    (server : Server ρ) (runner : CommandRunner ρ) (sender : Option (Sender ρ))
    (stamp : ρ → Forward.Stamp × ρ) (d : Delivery) (record : List Exchange) (w : ρ) :
    let s := Imap.surroundings c server runner sender stamp
    let x := d.execute s (m, record, w)
    ∃ parts : List (List Exchange), x.world.2.1 = record ++ parts.flatten ∧
      List.Forall₂ (fun entry part => Addressed c m d entry.1 part) (d.log s (m, record, w))
        parts := by
  intro s x
  by_cases hactions : d.actions = []
  · have hx : x = _ := execute_of_no_actions s (m, record, w) hactions
    refine ⟨[], ?_, ?_⟩
    · rw [hx]
      exact (List.append_nil _).symm
    · rw [log, hactions]
      exact .nil
  · obtain ⟨answer, hcourse, -, ⟨hanswers, -⟩, -⟩ :=
      execute_course (Mailbox.surroundings_follows
        (some (connector c server.recorded runner.beside)) (sender.map Sender.beside)
        fun w => ((stamp w.2).1, (w.1, (stamp w.2).2))) d (m, record, w) hactions
    obtain ⟨-, -, -, ⟨added, hrecord, hwired⟩, -⟩ :=
      execute_course (Imap.surroundings_records c server runner sender stamp) d (m, record, w)
        hactions
    obtain ⟨parts, rfl, hparts⟩ := hwired.entries
    refine ⟨parts, hrecord, ?_⟩
    refine List.Forall₂.imp ?_ ((List.forall₂_and_left _ _).2 ⟨hcourse.entries hanswers, hparts⟩)
    rintro ⟨a, es⟩ part ⟨⟨earlier, known, first, known', hes, hblock⟩, hwired⟩
    intro before exchange after hsplit happends
    obtain ⟨seen, folder, flags, raw, n, hseen, hbacked, hline⟩ :=
      exists_of_backed (hblock.backed hes []) .nil hwired hsplit happends
    obtain ⟨path, r, mp, rfl, hr, hmp, hfound, ⟨mask, rfl⟩, rfl⟩ := hbacked
    rw [Mailbox.resolve_congr (Mailbox.folders_after m earlier)] at hr
    obtain ⟨mounted, below, hmounted, hname⟩ := mounted_of_foundFor hm.rooted hr hmp hfound hseen
    refine ⟨path, mounted, below, rfl, hmounted, fun hround => ?_⟩
    obtain ⟨parent, target, hparent, htarget, hid⟩ := hname hround
    rw [hline]
    exact ⟨parent, target, hparent, htarget,
      appendsIfQuotable n hid (fun f hf => isFlagText_wire_of_mem_ofBitmask hf) _⟩

/-- The mailbox for a mountpoint has a name that is not ASCII, and the server separates names by
dots and lists more than it is asked for.  The message is appended to the mailbox below the mounted
one that the rest of the path names. -/
theorem execute_appends_addressed_dotted :
    let m := (Mailbox.new "bob".toList (some ⟨"secret".toList⟩)).apply
      (.createMountpoint "/Shared".toList "alice".toList 257)
    let c : ImapConfig := ⟨⟨"localhost".toList, 143, some false, none, none⟩, "postroom".toList,
      none, [("alice:257".toList, "Büro".toList)]⟩
    -- the server answers from a script, whatever it is told
    let server : Server (List (List Text)) :=
      ⟨fun w => (["* OK".toList], w), fun w => (true, w), fun _ w => (w.headD [], w.tail),
        fun _ w => (["a4 OK".toList], w)⟩
    let script : List (List Text) := [["+ ".toList], ["a1 OK".toList],
      ["* LIST () \".\" B&APw-ro.Alt".toList, "* LIST () \".\" B&APw-ro".toList, "a2 OK".toList],
      ["* LIST () \".\" \"B&APw-ro.News\"".toList, "a3 OK".toList], ["+ go".toList], []]
    let runner : CommandRunner (List (List Text)) := fun _ _ w => (none, w)
    let s := Imap.surroundings c server runner none fun w => (⟨[], []⟩, w)
    let d := (start ⟨[10, 72, 105, 10], []⟩ "bob".toList none .none).setActions
      [.fileInto "/shared/ News ".toList]
    let x := d.execute s (m, [], script)
    Message.ofOctets d.message.raw = .ok d.message ∧ m.Reachable ∧ IsQuotable "Büro.News".toList ∧
      MailboxName.decode (MailboxName.encode "Büro".toList) = "Büro".toList ∧
      (∃ parts : List (List Exchange), x.world.2.1 = parts.flatten ∧
        List.Forall₂ (fun entry part => Addressed c m d entry.1 part) (d.log s (m, [], script))
          parts) ∧
      (x.world.2.1.filter Exchange.appends).map (·.line) =
        ["a4 APPEND \"B&APw-ro.News\" () \x7b4\x7d".toList] := by
  intro m c server script runner s d x
  have hm : m.Reachable := .apply (.new _ _) _ (by decide +kernel)
  have haddressed := execute_appends_addressed hm c server runner none (fun w => (⟨[], []⟩, w)) d []
    script
  -- with the surroundings folded, the run need not be evaluated
  have hs : Imap.surroundings c server runner none (fun w => (⟨[], []⟩, w)) = s := rfl
  rw [hs] at haddressed
  obtain ⟨parts, hrecord, hparts⟩ := haddressed
  exact ⟨Message.ofOctets_of_blank _, hm, by decide +kernel, by decide +kernel,
    ⟨parts, hrecord.trans (List.nil_append _), hparts⟩, by decide +kernel⟩

/-- The mailbox for a mountpoint has a name with four backslashes, which the server lists between
quotation marks with eight.  The connector takes the names that are listed as they stand, finds its
own among them all the same, and sends it with four: so the message is appended to a mailbox with
two backslashes in its name. -/
theorem execute_appends_elsewhere :
    let m := (Mailbox.new "bob".toList (some ⟨"token".toList⟩)).apply
      (.createMountpoint "/Shared".toList "alice".toList 257)
    let name : Text := "A\\\\\\\\B".toList
    let c : ImapConfig := ⟨⟨"localhost".toList, 143, some false, none, none⟩, "l".toList,
      none, [("alice:257".toList, name)]⟩
    let server : Server (List (List Text)) :=
      ⟨fun w => (["* OK".toList], w), fun w => (true, w), fun _ w => (w.headD [], w.tail),
        fun _ w => (["a3 OK".toList], w)⟩
    let listed : Text := "A\\\\\\\\\\\\\\\\B".toList
    let script : List (List Text) := [["+ ".toList], ["a1 OK".toList],
      ["* LIST () \"/\" \"".toList ++ listed ++ ['"'],
        "* LIST () \"/\" \"".toList ++ name ++ ['"'], "a2 OK".toList], ["+ go".toList], []]
    let runner : CommandRunner (List (List Text)) := fun _ _ w => (none, w)
    let s := Imap.surroundings c server runner none fun w => (⟨[], []⟩, w)
    let d := (start ⟨[10, 72, 105, 10], []⟩ "bob".toList none .none).setActions
      [.fileInto "/Shared".toList]
    let line : Text := "a3 APPEND \"A\\\\\\\\B\" () \x7b4\x7d".toList
    MailboxName.decode (MailboxName.encode name) = name ∧
      QuotedText listed (MailboxName.encode name) ∧
      (((d.execute s (m, [], script)).world.2.1).filter Exchange.appends).map (·.line) = [line] ∧
      ¬ IsAppendCommand line (MailboxName.encode name) d.message.raw.length ∧
      IsAppendCommand line "A\\\\B".toList d.message.raw.length := by
  intro m name c server listed script runner s d line
  let folder : RemoteFolder := ⟨name, name, ['/']⟩
  have hline : line = tag 3 ++ ' ' :: appendCommand folder [] 4 := by decide
  have hread : ∀ v, IsAppendCommand line v 4 ↔ QuotedText name v := by
    rw [hline]
    exact isAppendCommand_iff 3 folder (List.forall_mem_nil _) 4
  have hlisted : QuotedText listed (MailboxName.encode name) :=
    .plain (by decide) (by decide) (.escaped (.inr rfl) (.escaped (.inr rfl) (.escaped (.inr rfl)
      (.escaped (.inr rfl) (.plain (by decide) (by decide) .nil)))))
  refine ⟨by decide +kernel, hlisted, by decide +kernel, ?_, ?_⟩
  · intro h
    have hquotable := (quotedText_encode_iff name).1 ((hread _).1 h)
    exact (hquotable '\\' (by decide)).2 rfl
  · exact (hread _).2 (.plain (by decide) (by decide) (.escaped (.inr rfl) (.escaped (.inr rfl)
      (.plain (by decide) (by decide) .nil))))

end Delivery

end Postroom
