import CandidatePool.Event
import CandidatePool.Proofs.Numerals
/-!
Reading a log back.  A line of the log is a fixed phrase with numbers in it, followed at most by a text
that came from outside, such as a content name or the cause of an error.  The pieces of the phrases
stand in a table, and a reader with this table finds out which phrase a line begins with and which
numbers stand in it, and looks at nothing else.

The reader works on the text of a line alone.  That it finds in the line of an event the phrase and the
numbers of the event, whatever the text from outside says, is `Event.notice?_line`.
-/

namespace CandidatePool

/-! ### Phrases -/

/-- What a line says, without the numbers in it. -/
inductive Phrase where
  | sizeClamped
  | serversChanged
  | started
  | created
  | creationFailed
  | shrunk
  | claiming
  | discarded
  | health
deriving DecidableEq

namespace Phrase

def all : List Phrase :=
  [sizeClamped, serversChanged, started, created, creationFailed, shrunk, claiming, discarded,
    health]

/-- How a line begins, up to the first number. -/
def head : Phrase → String
  | sizeClamped => "Clamped candidate pool size "
  | serversChanged => "ICE servers changed: "
  | started => "session-"
  | created => "Created pooled session-"
  | creationFailed => "Failed to create pooled session session-"
  | shrunk => "Shrunk candidate pool by "
  | claiming => "Claiming pooled session-"
  | discarded => "Discarded "
  | health => "Pool health: target="

/-- What follows each of the numbers.  A number at the end is followed by the end of the line. -/
def pieces : Phrase → List String
  | sizeClamped => []
  | serversChanged => [" stun, ", " turn; destroyed ", " pooled sessions"]
  | started => [" started getting ports"]
  | created => [", pool size: ", "\n"]
  | creationFailed => [": "]
  | shrunk => [" sessions (wanted ", ")"]
  | claiming => [" for "]
  | discarded => [" pooled sessions"]
  | health => [", created=", ", pooled=", ", total_created=", ", claimed=", ", destroyed=", "\n"]

end Phrase

/-- A phrase and the numbers in it. -/
abbrev Notice := Phrase × List Nat

/-! ### Reading -/

/-- Reads numbers, each followed by its piece of text. -/
def numbers? : List String → List Char → Option (List Nat)
  | [], _ => some []
  | piece :: pieces, text => do
    let number ← Numeral.value? 10 (Numeral.leading 10 text)
    let rest ← (Numeral.afterLeading 10 text).dropPrefix? piece.toList
    let numbers ← numbers? pieces rest
    return number :: numbers

/-- The phrase that a line begins with, and the numbers in it. -/
def notice? (text : List Char) : Option Notice := do
  let phrase ← Phrase.all.find? fun phrase => phrase.head.toList.isPrefixOf text
  let rest ← text.dropPrefix? phrase.head.toList
  let numbers ← numbers? phrase.pieces rest
  return (phrase, numbers)

/-- What a line of a log says, read from its text and the end of the line. -/
def LogLine.notice? (line : LogLine) : Option Notice :=
  CandidatePool.notice? (line.message.toList ++ ['\n'])

/-! ### Writing and reading back -/

/-- Numbers, each followed by its piece of text, and what comes after them. -/
def written : List Nat → List String → List Char → List Char
  | number :: numbers, piece :: pieces, rest =>
    Nat.toDigits 10 number ++ piece.toList ++ written numbers pieces rest
  | _, _, rest => rest

/-- A piece of text that does not go on with the number before it. -/
def endsNumber (piece : String) : Bool :=
  match piece.toList with
  | [] => false
  | c :: _ => !Numeral.isDigit 10 c

theorem exists_of_endsNumber {piece : String} (h : endsNumber piece) :
    ∃ c text, piece.toList = c :: text ∧ Numeral.isDigit 10 c = false := by
  unfold endsNumber at h
  cases htext : piece.toList with
  | nil => simp [htext] at h
  | cons c text =>
      rw [htext] at h
      exact ⟨c, text, rfl, by simpa using h⟩

theorem dropPrefix?_append (text rest : List Char) : (text ++ rest).dropPrefix? text = some rest :=
  List.dropPrefix?_eq_some_iff.mpr ⟨text, rfl, by simp⟩

/-- Numbers that were written with pieces of text between them are read back, whatever follows. -/
theorem numbers?_written {numbers : List Nat} {pieces : List String} (rest : List Char)
    (hlength : numbers.length = pieces.length) (h : ∀ piece ∈ pieces, endsNumber piece) :
    numbers? pieces (written numbers pieces rest) = some numbers := by
  induction pieces generalizing numbers with
  | nil =>
      rw [List.eq_nil_of_length_eq_zero hlength]
      rfl
  | cons piece pieces ih =>
      cases numbers with
      | nil => cases hlength
      | cons number numbers =>
          rw [List.forall_mem_cons] at h
          obtain ⟨hpiece, hlater⟩ := h
          have hrest := ih (Nat.succ.inj hlength) hlater
          obtain ⟨c, text, htext, hc⟩ := exists_of_endsNumber hpiece
          have hend : ∀ d ∈ (c :: (text ++ written numbers pieces rest)).head?,
              Numeral.isDigit 10 d = false := by
            simpa using hc
          simp only [numbers?, written, List.append_assoc, htext, List.cons_append]
          rw [Numeral.leading_toDigits_append (by decide) (by decide) hend,
            Numeral.afterLeading_toDigits_append (by decide) (by decide) hend,
            Numeral.value?_toDigits (by decide) (by decide), ← List.cons_append,
            dropPrefix?_append]
          simp [hrest]

namespace Phrase

theorem endsNumber_of_mem_pieces (phrase : Phrase) : ∀ piece ∈ phrase.pieces, endsNumber piece := by
  cases phrase <;> decide

/-- No phrase begins like another one. -/
theorem eq_of_begins {phrase other : Phrase} (h : phrase.head.toList <+: other.head.toList) :
    phrase = other := by
  rw [← List.isPrefixOf_iff_prefix] at h
  revert h
  cases phrase <;> cases other <;> decide

theorem find?_all (phrase : Phrase) (rest : List Char) :
    (all.find? fun other => other.head.toList.isPrefixOf (phrase.head.toList ++ rest)) =
      some phrase := by
  have hiff : ∀ other : Phrase,
      other.head.toList.isPrefixOf (phrase.head.toList ++ rest) = decide (other = phrase) := by
    intro other
    rw [Bool.eq_iff_iff, List.isPrefixOf_iff_prefix, decide_eq_true_eq]
    constructor
    · intro hother
      -- two beginnings of one line, so the shorter is a beginning of the longer
      rcases List.prefix_or_prefix_of_prefix hother (List.prefix_append ..) with h | h
      · exact eq_of_begins h
      · exact (eq_of_begins h).symm
    · rintro rfl
      exact List.prefix_append ..
  simp only [hiff]
  cases phrase <;> rfl

end Phrase

theorem notice?_written (phrase : Phrase) {numbers : List Nat} (rest : List Char)
    (hlength : numbers.length = phrase.pieces.length) :
    notice? (phrase.head.toList ++ written numbers phrase.pieces rest) = some (phrase, numbers) := by
  have hnumbers := numbers?_written rest hlength phrase.endsNumber_of_mem_pieces
  simp only [notice?, phrase.find?_all, dropPrefix?_append, Option.bind_eq_bind, Option.bind_some,
    hnumbers]
  rfl

/-! ### The lines of events -/

namespace Event

def phrase : Event → Phrase
  | .sizeClamped _ => .sizeClamped
  | .serversChanged _ _ _ => .serversChanged
  | .started _ => .started
  | .created _ _ => .created
  | .creationFailed _ _ => .creationFailed
  | .shrunk _ _ => .shrunk
  | .claiming _ _ _ => .claiming
  | .discarded _ => .discarded
  | .health _ _ _ _ _ _ => .health

def numbers : Event → List Nat
  | .sizeClamped _ => []
  | .serversChanged stun relays destroyed => [stun, relays, destroyed]
  | .started id => [id.value.toNat]
  | .created id size => [id.value.toNat, size]
  | .creationFailed id _ => [id.value.toNat]
  | .shrunk removed wanted => [removed, wanted]
  | .claiming id _ _ => [id.value.toNat]
  | .discarded destroyed => [destroyed]
  | .health target current pooled total claimed destroyed =>
    [target, current, pooled.toNat, total.toNat, claimed.toNat, destroyed.toNat]

/-- What stands behind the phrase, up to the end of the line. -/
def unread : Event → String
  | .sizeClamped requested => toString requested.toInt ++ " to 0\n"
  | .creationFailed _ cause => cause.message ++ "\n"
  | .claiming _ contentName component =>
    contentName ++ "/" ++ toString component.toNat ++ "\n"
  | .created _ _ | .health _ _ _ _ _ _ => ""
  | .serversChanged _ _ _ | .started _ | .shrunk _ _ | .discarded _ => "\n"

theorem message_eq (e : Event) :
    e.message.toList ++ ['\n'] =
      e.phrase.head.toList ++ written e.numbers e.phrase.pieces e.unread.toList := by
  cases e <;>
    dsimp only [message] <;>
    simp [phrase, Phrase.head, Phrase.pieces, written, numbers, unread, SessionId.label]

/-- The line of an event says what happened. -/
theorem notice?_line (e : Event) : e.line.notice? = some (e.phrase, e.numbers) := by
  have hlength : e.numbers.length = e.phrase.pieces.length := by
    cases e <;> simp [numbers, phrase, Phrase.pieces]
  rw [LogLine.notice?, line, message_eq]
  exact notice?_written e.phrase e.unread.toList hlength

end Event

end CandidatePool
