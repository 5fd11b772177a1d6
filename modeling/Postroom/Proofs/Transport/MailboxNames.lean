import Postroom.Proofs.Mailbox.Paths
import Postroom.Transport.Imap

/-!
# Names of mailboxes below a folder

A path is cut at its own delimiter, and its segments are put together with the delimiter of the
server that is asked.  Where that delimiter stands in a segment, two paths can lead to one mailbox.
`Imap.mailboxName_eq_iff` says that they do nowhere else: paths whose segments keep clear of the
delimiter have the same name only when they have the same segments, and with a delimiter of one
character two paths have the same name exactly when their segments, cut at it, are the same.
-/

namespace Postroom

namespace Text

/-- A delimiter that is written right behind the text begins there, and not within the text. -/
def IsClearOf (t delimiter : Text) : Prop :=
  ∀ before after, t ++ delimiter = before ++ delimiter ++ after → before = t

/-- Of a delimiter of one character, the texts without it keep clear. -/
theorem isClearOf_singleton {t : Text} {d : Char} : IsClearOf t [d] ↔ d ∉ t := by
  constructor
  · intro hclear hmem
    obtain ⟨before, after, rfl⟩ := List.append_of_mem hmem
    have hbefore := hclear before (after ++ [d]) (by simp)
    have hlength := congrArg List.length hbefore
    rw [List.length_append, List.length_cons] at hlength
    omega
  · intro hno before after heq
    rcases List.eq_nil_or_concat' after with rfl | ⟨init, last, rfl⟩
    · rw [List.append_nil] at heq
      exact (List.append_cancel_right heq).symm
    · rw [← List.append_assoc] at heq
      obtain ⟨rfl, -⟩ := List.append_inj' heq rfl
      exact absurd (by simp) hno

/-- In front of the same delimiter, texts that keep clear of it are told apart. -/
theorem IsClearOf.eq_of_append {s s' d t t' : Text} (hs : IsClearOf s d) (hs' : IsClearOf s' d)
    (h : s ++ d ++ t = s' ++ d ++ t') : s = s' := by
  rcases List.append_eq_append_iff.1 h with ⟨u, hlonger, -⟩ | ⟨u, hlonger, -⟩
  · exact hs' s u hlonger
  · exact (hs s' u hlonger).symm

/-- A delimiter in front of each text is a delimiter in front of all of them, if one follows. -/
theorem exists_flatMap_append (d : Text) (ts : List Text) :
    ∃ rest, ts.flatMap (d ++ ·) ++ d = d ++ rest := by
  cases ts with
  | nil => exact ⟨[], (List.append_nil d).symm⟩
  | cons t ts =>
    refine ⟨t ++ (ts.flatMap (d ++ ·) ++ d), ?_⟩
    rw [List.flatMap_cons, List.append_assoc, List.append_assoc]

/-- Texts that keep clear of a delimiter are found again when they are written behind it. -/
theorem eq_of_flatMap_append {d : Text} (hd : d ≠ []) {ts ts' : List Text}
    (h : ∀ t ∈ ts, IsClearOf t d) (h' : ∀ t ∈ ts', IsClearOf t d)
    (heq : ts.flatMap (d ++ ·) = ts'.flatMap (d ++ ·)) : ts = ts' := by
  induction ts generalizing ts' with
  | nil =>
    cases ts' with
    | nil => rfl
    | cons t' ts' =>
      rw [List.flatMap_nil, List.flatMap_cons, List.append_assoc] at heq
      exact absurd (List.append_eq_nil_iff.1 heq.symm).1 hd
  | cons t ts ih =>
    cases ts' with
    | nil =>
      rw [List.flatMap_nil, List.flatMap_cons, List.append_assoc] at heq
      exact absurd (List.append_eq_nil_iff.1 heq).1 hd
    | cons t' ts' =>
      obtain ⟨ht, hts⟩ := List.forall_mem_cons.1 h
      obtain ⟨ht', hts'⟩ := List.forall_mem_cons.1 h'
      rw [List.flatMap_cons, List.flatMap_cons, List.append_assoc, List.append_assoc] at heq
      have htail : t ++ ts.flatMap (d ++ ·) = t' ++ ts'.flatMap (d ++ ·) :=
        List.append_cancel_left heq
      -- one more delimiter at the end, so that one follows each of the two texts
      obtain ⟨rest, hrest⟩ := exists_flatMap_append d ts
      obtain ⟨rest', hrest'⟩ := exists_flatMap_append d ts'
      have hfirst : t ++ d ++ rest = t' ++ d ++ rest' := by
        rw [List.append_assoc, ← hrest, ← List.append_assoc, htail, List.append_assoc, hrest',
          List.append_assoc]
      obtain rfl : t = t' := ht.eq_of_append ht' hfirst
      rw [ih hts hts' (List.append_cancel_left htail)]

end Text

namespace Imap

theorem delimiterOf_ne_nil (parent : RemoteFolder) : delimiterOf parent ≠ [] := by
  unfold delimiterOf
  split
  · exact List.cons_ne_nil _ _
  · rename_i hne
    exact fun hnil => hne (List.isEmpty_iff.2 hnil)

/-- Names below the same folder differ in what stands behind its path. -/
theorem mailboxName_eq_iff_flatMap (parent : RemoteFolder) (path path' : Text) :
    mailboxName parent path = mailboxName parent path' ↔
      (Path.split path).flatMap (delimiterOf parent ++ ·) =
        (Path.split path').flatMap (delimiterOf parent ++ ·) :=
  List.append_right_inj parent.path

/-- **Different paths have different names, unless a segment runs into the delimiter.**  When all
segments keep clear of the delimiter of the server, two paths have the same name only if they have
the same segments; so it is always when the delimiter is that of paths.  With a delimiter of one
character, two paths have the same name exactly when their segments, cut at it, are the same. -/
theorem mailboxName_eq_iff (parent : RemoteFolder) (path path' : Text) :
    ((∀ s ∈ Path.split path ++ Path.split path', Text.IsClearOf s (delimiterOf parent)) →
      (mailboxName parent path = mailboxName parent path' ↔ Path.split path = Path.split path')) ∧
    (delimiterOf parent = [Path.delimiter] →
      (mailboxName parent path = mailboxName parent path' ↔ Path.split path = Path.split path')) ∧
    ∀ d, delimiterOf parent = [d] →
      (mailboxName parent path = mailboxName parent path' ↔
        (Path.split path).flatMap (Text.pieces (· == d)) =
          (Path.split path').flatMap (Text.pieces (· == d))) := by
  have hclear : (∀ s ∈ Path.split path ++ Path.split path', Text.IsClearOf s (delimiterOf parent)) →
      (mailboxName parent path = mailboxName parent path' ↔
        Path.split path = Path.split path') := by
    intro hclear
    obtain ⟨h, h'⟩ := List.forall_mem_append.1 hclear
    rw [mailboxName_eq_iff_flatMap]
    exact ⟨Text.eq_of_flatMap_append (delimiterOf_ne_nil parent) h h',
      fun hsame => by rw [hsame]⟩
  refine ⟨hclear, ?_, ?_⟩
  · intro hdelimiter
    refine hclear fun s hs => ?_
    have hsegment : Path.IsSegment s :=
      (List.mem_append.1 hs).elim Path.isSegment_of_mem_split Path.isSegment_of_mem_split
    rw [hdelimiter, Text.isClearOf_singleton]
    intro hmem
    simpa using hsegment.undelimited _ hmem
  · intro d hdelimiter
    rw [mailboxName_eq_iff_flatMap, hdelimiter]
    constructor
    · intro heq
      have hpieces := congrArg (Text.pieces (· == d)) heq
      rw [Text.pieces_flatMap, Text.pieces_flatMap] at hpieces
      exact (List.cons.inj hpieces).2
    · intro heq
      refine Text.eq_of_pieces_eq (d := d) ?_
      rw [Text.pieces_flatMap, Text.pieces_flatMap, heq]

/-- Below a folder of a server that delimits by periods, paths without periods are told apart. -/
theorem mailboxName_eq_iff_dotted :
    let parent : RemoteFolder := ⟨"INBOX".toList, "INBOX".toList, ['.']⟩
    mailboxName parent "Lists / lean".toList = "INBOX.Lists.lean".toList ∧
      (∀ s ∈ Path.split "Lists / lean".toList ++ Path.split "/Lists/lean 4".toList,
        Text.IsClearOf s (delimiterOf parent)) ∧
      (mailboxName parent "Lists / lean".toList = mailboxName parent "/Lists/lean 4".toList ↔
        Path.split "Lists / lean".toList = Path.split "/Lists/lean 4".toList) := by
  intro parent
  have hclear : ∀ s ∈ Path.split "Lists / lean".toList ++ Path.split "/Lists/lean 4".toList,
      Text.IsClearOf s (delimiterOf parent) := by
    intro s hs
    refine Text.isClearOf_singleton.2 ?_
    revert s
    decide
  exact ⟨by decide, hclear, (mailboxName_eq_iff parent _ _).1 hclear⟩

/-- A period in a segment stands for a folder of its own where the server delimits by periods. -/
theorem mailboxName_not_injective :
    ¬ ∀ (parent : RemoteFolder) (path path' : Text), Path.split path ≠ Path.split path' →
      mailboxName parent path ≠ mailboxName parent path' := by
  intro h
  exact h ⟨"INBOX".toList, "INBOX".toList, ['.']⟩ "Lists/lean".toList "Lists.lean".toList
    (by decide) (by decide)

end Imap

end Postroom
