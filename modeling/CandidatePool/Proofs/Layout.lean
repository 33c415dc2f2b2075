import CandidatePool.Settings.Reader
import Mathlib.Data.List.Forall2
/-!
The layout in which settings are written down: the table `allocator`, and behind it one element of the
list `allocator.turn_servers` for each relay.  Nothing here reads a text.  A layout is first what the
tables hold, as entries in some order; then come the rules by which it is spelled out, as relations
between a text, what stands at its front and the text behind that.

The rules leave open all that the format leaves open: each character of a string may stand for itself
or be escaped, in digits of either case; keys may be bare or quoted; blanks, comments and empty lines
may stand in between; an array may go over several lines; a line may end in either way, and the last
one need not end.
-/

namespace CandidatePool.Layout

open Toml

/-! ### What the tables hold -/

inductive Value where
  | integer (n : Int)
  | flag (b : Bool)
  | string (s : String)
  | strings (l : List String)
deriving DecidableEq

abbrev Entries := List (String × Value)

/-- A text in the layout may have keys of its own in front of the first header. -/
structure Contents where
  preamble : Entries
  allocator : Entries
  relays : List Entries

/-- An entry under a key that means nothing here. -/
inductive Value.Extra : Value → Prop
  | integer {n : Int} (h : -9223372036854775808 ≤ n ∧ n ≤ 9223372036854775807) :
      Extra (.integer n)
  | string (s : String) : Extra (.string s)

/-- The entries give a key a value, or leave out what goes without saying. -/
def Gives (t : Entries) (key : String) (v : Value) (missing : Prop) : Prop :=
  t.lookup key = some v ∨ t.lookup key = none ∧ missing

def relayKeys : List String := ["address", "port", "username", "password", "protocol", "secure"]

def allocatorKeys : List String := ["candidate_pool_size", "stun_servers", "turn_servers"]

structure SaysRelay (t : Entries) (r : Relay) : Prop where
  nodup : (t.map Prod.fst).Nodup
  address : t.lookup "address" = some (.string r.address)
  port : t.lookup "port" = some (.integer r.port.toNat)
  username : Gives t "username" (.string r.username) (r.username = "")
  password : Gives t "password" (.string r.password) (r.password = "")
  transport : Gives t "protocol" (.string r.transport.word) (r.transport = .udp)
  secure : Gives t "secure" (.flag r.secure) (r.secure = false)
  extra : ∀ e ∈ t, e.1 ∉ relayKeys → e.2.Extra

/-- The contents say what the settings are.  Relays are sections of their own, so that the list of
    them is written as an entry only where it is empty. -/
structure Says (l : Contents) (s : Settings) : Prop where
  nodup_preamble : (l.preamble.map Prod.fst).Nodup
  extra_preamble : ∀ e ∈ l.preamble, e.1 ≠ "allocator" ∧ e.2.Extra
  nodup : (l.allocator.map Prod.fst).Nodup
  size : Gives l.allocator "candidate_pool_size" (.integer s.poolSize.toInt) (s.poolSize = 0)
  stun : Gives l.allocator "stun_servers" (.strings (s.stun.map SocketAddress.text)) (s.stun = [])
  noRelays : l.allocator.lookup "turn_servers" = none ∨
    l.allocator.lookup "turn_servers" = some (.strings []) ∧ s.relays = []
  relays : List.Forall₂ SaysRelay l.relays s.relays
  extra : ∀ e ∈ l.allocator, e.1 ∉ allocatorKeys → e.2.Extra

/-! ### Blanks, comments and line breaks -/

def Blanks (i r : List Char) : Prop :=
  ∃ blanks, (∀ c ∈ blanks, isBlank c) ∧ i = blanks ++ r

inductive Comment : List Char → List Char → Prop
  | none (r : List Char) : Comment r r
  | some {body r : List Char} (h : ∀ c ∈ body, Quoted.isPlain c) : Comment ('#' :: (body ++ r)) r

inductive LineBreak : List Char → List Char → Prop
  | lf (r : List Char) : LineBreak ('\n' :: r) r
  | crlf (r : List Char) : LineBreak ('\r' :: '\n' :: r) r

inductive LineEnd : List Char → List Char → Prop
  | mk {i a b r : List Char} (blanks : Blanks i a) (comment : Comment a b)
      (lineBreak : LineBreak b r) : LineEnd i r

inductive TextEnd : List Char → Prop
  | mk {i a : List Char} (blanks : Blanks i a) (comment : Comment a []) : TextEnd i

/-- What may stand between the items of an array. -/
inductive Gap : List Char → List Char → Prop
  | blanks {i r : List Char} (h : Blanks i r) : Gap i r
  | line {i a r : List Char} (h : LineEnd i a) (later : Gap a r) : Gap i r

/-! ### Strings and keys -/

def letterEscapes : List (Char × Char) :=
  [('b', '\x08'), ('t', '\t'), ('n', '\n'), ('f', '\x0c'), ('r', '\r'), ('"', '"'), ('\\', '\\')]

/-- The characters of a string and its closing quote. -/
inductive StringBody : List Char → List Char → List Char → Prop
  | close (r : List Char) : StringBody ('"' :: r) [] r
  | plain {c : Char} {i s r : List Char} (hplain : Quoted.isPlain c) (hquote : c ≠ '"')
      (hescape : c ≠ '\\') (later : StringBody i s r) : StringBody (c :: i) (c :: s) r
  | letter {l c : Char} {i s r : List Char} (h : (l, c) ∈ letterEscapes)
      (later : StringBody i s r) : StringBody ('\\' :: l :: i) (c :: s) r
  | code {u c : Char} {digits i s r : List Char}
      (hwidth : (u, digits.length) ∈ [('u', 4), ('U', 8)])
      (hcode : Numeral.value? 16 digits = some c.toNat) (later : StringBody i s r) :
      StringBody ('\\' :: u :: (digits ++ i)) (c :: s) r

inductive StringText : List Char → String → List Char → Prop
  | mk {i r : List Char} {s : String} (body : StringBody i s.toList r) : StringText ('"' :: i) s r

inductive KeyText : List Char → String → List Char → Prop
  | bare {key r : List Char} (hne : key ≠ []) (h : ∀ c ∈ key, isKeyChar c) :
      KeyText (key ++ r) (String.ofList key) r
  | quoted {i r : List Char} {s : String} (h : StringText i s r) : KeyText i s r

/-- Keys with points between them, and blanks around each of them. -/
inductive PathText : List Char → List String → List Char → Prop
  | last {i a b r : List Char} {key : String} (before : Blanks i a) (h : KeyText a key b)
      (after : Blanks b r) : PathText i [key] r
  | more {i a b c r : List Char} {key : String} {path : List String} (before : Blanks i a)
      (h : KeyText a key b) (after : Blanks b ('.' :: c)) (later : PathText c path r) :
      PathText i (key :: path) r

/-! ### Values -/

/-- A decimal number, with or without a sign. -/
inductive IntegerText : List Char → Int → List Char → Prop
  | unsigned (n : Nat) (r : List Char) : IntegerText (Nat.toDigits 10 n ++ r) n r
  | plus (n : Nat) (r : List Char) : IntegerText ('+' :: (Nat.toDigits 10 n ++ r)) n r
  | minus (n : Nat) (r : List Char) : IntegerText ('-' :: (Nat.toDigits 10 n ++ r)) (-n) r

/-- The items of an array and its closing bracket.  A comma may follow the last item. -/
inductive ItemsText : List Char → List String → List Char → Prop
  | close {i r : List Char} (gap : Gap i (']' :: r)) : ItemsText i [] r
  | last {i a b r : List Char} {s : String} (before : Gap i a) (item : StringText a s b)
      (after : Gap b (']' :: r)) : ItemsText i [s] r
  | more {i a b c r : List Char} {s : String} {l : List String} (before : Gap i a)
      (item : StringText a s b) (after : Gap b (',' :: c)) (later : ItemsText c l r) :
      ItemsText i (s :: l) r

inductive ValueText : List Char → Value → List Char → Prop
  | integer {i r : List Char} {n : Int} (h : IntegerText i n r) : ValueText i (.integer n) r
  | yes (r : List Char) : ValueText ("true".toList ++ r) (.flag true) r
  | no (r : List Char) : ValueText ("false".toList ++ r) (.flag false) r
  | string {i r : List Char} {s : String} (h : StringText i s r) : ValueText i (.string s) r
  | strings {i r : List Char} {l : List String} (h : ItemsText i l r) :
      ValueText ('[' :: i) (.strings l) r

/-! ### Lines -/

inductive Row where
  | blank
  | entry (key : String) (v : Value)
  | allocator
  | relay
deriving DecidableEq

/-- A line without its end. -/
inductive RowText : List Char → Row → List Char → Prop
  | blank (r : List Char) : RowText r .blank r
  | entry {i a b r : List Char} {key : String} {v : Value} (path : PathText i [key] ('=' :: a))
      (blanks : Blanks a b) (value : ValueText b v r) : RowText i (.entry key v) r
  | allocator {i a r : List Char} (blanks : Blanks i ('[' :: a))
      (path : PathText a ["allocator"] (']' :: r)) : RowText i .allocator r
  | relay {i a r : List Char} (blanks : Blanks i ('[' :: '[' :: a))
      (path : PathText a ["allocator", "turn_servers"] (']' :: ']' :: r)) : RowText i .relay r

inductive RowsText : List Char → List Row → Prop
  | nil : RowsText [] []
  | last {i a : List Char} {row : Row} (hne : i ≠ []) (h : RowText i row a) (ending : TextEnd a) :
      RowsText i [row]
  | line {i a b : List Char} {row : Row} {rows : List Row} (h : RowText i row a)
      (ending : LineEnd a b) (later : RowsText b rows) : RowsText i (row :: rows)

def entryRows (t : Entries) : List Row := t.map fun e => .entry e.1 e.2

def Contents.rows (l : Contents) : List Row :=
  entryRows l.preamble ++ .allocator :: entryRows l.allocator ++
    l.relays.flatMap fun t => .relay :: entryRows t

/-- The text writes the contents down.  Empty lines may stand anywhere. -/
def Contents.WrittenAs (l : Contents) (text : String) : Prop :=
  ∃ rows, rows.filter (· ≠ .blank) = l.rows ∧ RowsText text.toList rows

end CandidatePool.Layout
